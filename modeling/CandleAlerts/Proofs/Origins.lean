import CandleAlerts.Api.Operations
import CandleAlerts.Dispatch.Basic
import CandleAlerts.Proofs.DispatchLaws
import CandleAlerts.Proofs.StoredMerges
import CandleAlerts.Proofs.SubscriptionLaws
import CandleAlerts.Services.Sync

/-!
Where alerts and recipients come from.

The registry and storage list a recipient, under the id of its subscription, once a request for it
has been granted. Nothing else lists one: what serves, gives up, stores or loads a subscription
keeps its id and its recipient. In the same way the registry holds no alert that was not read from a
definition, be it a client's or a stored one.
-/

namespace CandleAlerts

namespace Services

/-- Whether a subscription of an id and a recipient is stored or registered, active or not. -/
def Lists (services : Services) (id : String) (recipient : Recipient) : Prop :=
  ∃ subscription : Subscription, subscription.id = id ∧ subscription.recipient = recipient ∧
    (subscription ∈ services.store.subscriptions ∨
      ∃ conditionId, subscription ∈ services.registry.subscriptionsTo conditionId)

/-- All that is listed, in the registry and in storage. -/
def listings (services : Services) : Table (List Subscription) × List Subscription :=
  (services.registry.subscriptions, services.store.subscriptions)

variable {services before after : Services} {id : String} {recipient : Recipient}

theorem lists_of_stored (services : Services) {subscription : Subscription}
    (member : subscription ∈ services.store.subscriptions) :
    services.Lists subscription.id subscription.recipient :=
  ⟨subscription, rfl, rfl, .inl member⟩

theorem lists_of_registered (services : Services) {subscription : Subscription}
    {conditionId : String} (member : subscription ∈ services.registry.subscriptionsTo conditionId) :
    services.Lists subscription.id subscription.recipient :=
  ⟨subscription, rfl, rfl, .inr ⟨conditionId, member⟩⟩

/-- What is listed in storage and in the registry is all that is listed. -/
theorem Lists.elim {holds : String → Recipient → Prop} (listed : services.Lists id recipient)
    (stored : ∀ subscription ∈ services.store.subscriptions,
      holds subscription.id subscription.recipient)
    (registered : ∀ conditionId, ∀ subscription ∈ services.registry.subscriptionsTo conditionId,
      holds subscription.id subscription.recipient) : holds id recipient := by
  rcases listed with ⟨subscription, rfl, rfl, isStored | ⟨conditionId, isRegistered⟩⟩
  · exact stored subscription isStored
  · exact registered conditionId subscription isRegistered

theorem Lists.of_listings (listed : after.Lists id recipient)
    (same : after.listings = before.listings) : before.Lists id recipient := by
  rcases Prod.mk.inj same with ⟨registered, stored⟩
  simp only [Lists, Registry.subscriptionsTo] at listed ⊢
  rw [registered, stored] at listed
  exact listed

/-! ## Dispatches -/

theorem changeStore_listings (services : Services) (part : ServicePart) (change : Store → Store)
    (same : (change services.store).subscriptions = services.store.subscriptions) :
    (services.changeStore part change).2.listings = services.listings := by
  simp only [Services.changeStore]
  split
  · exact Prod.ext rfl same
  · rfl

/-- A claim changes nothing but the claims. -/
theorem exists_claim (services : Services) (key : String) (lifetime now : Nat) :
    ∃ claims, (services.claim key lifetime now).2 = { services with claims } := by
  simp only [Services.claim]
  split <;> exact ⟨_, rfl⟩

theorem beginDispatch_listings (services : Services) (alert : Alert) (event : TriggerEvent)
    (defaultSecret : String) (now : Instant) (clock : Nat) :
    (services.beginDispatch alert event defaultSecret now clock).2.listings =
      services.listings := by
  have claimed : (services.claim (dispatchKey event.eventId) dispatchMemory clock).2.listings =
      services.listings := by
    rcases services.exists_claim (dispatchKey event.eventId) dispatchMemory clock with
      ⟨claims, same⟩
    rw [same]
    rfl
  have begun (services : Services) :
      (services.beginClaimed alert event defaultSecret now).2.listings = services.listings := by
    simp only [Services.beginClaimed, Services.changeStore, Services.publish, Services.count]
    split <;> split <;> rfl
  rcases services.beginDispatch_cases alert event defaultSecret now clock with same | same
  · rw [same]
    exact claimed
  · rw [same]
    exact (begun _).trans claimed

theorem notifyUsers_listings (services : Services) (dispatch : Dispatch) :
    (services.notifyUsers dispatch).2.listings = services.listings := by
  have notified (users : List String) (state : Nat × Services) :
      (users.foldl (notifyUser dispatch.event) state).2.listings = state.2.listings := by
    refine List.foldlRecOn (motive := fun now : Nat × Services =>
      now.2.listings = state.2.listings) users _ rfl ?_
    intro now same userId _
    have shown : (notifyUser dispatch.event now userId).2.listings = now.2.listings :=
      now.2.changeStore_listings .insertNotification
        (fun store => store.insertNotification (dispatch.event.notification userId)) rfl
    exact shown.trans same
  exact notified dispatch.users (0, services)

theorem routeWaiting_listings (services : Services) (receiver : Receiver) :
    (services.routeWaiting receiver).2.listings = services.listings := by
  rcases services.exists_routeWaiting receiver with ⟨botQueue, journal, same⟩
  rw [same]
  rfl

/-- What is done to every subscription of a list keeps what is listed if it keeps ids and
recipients. -/
theorem lists_of_mem_map {subscriptions : List Subscription} {change : Subscription → Subscription}
    (ids : ∀ subscription, (change subscription).id = subscription.id)
    (recipients : ∀ subscription, (change subscription).recipient = subscription.recipient)
    (listed : ∀ subscription ∈ subscriptions,
      services.Lists subscription.id subscription.recipient) :
    ∀ subscription ∈ subscriptions.map change,
      services.Lists subscription.id subscription.recipient := by
  intro subscription member
  rcases List.mem_map.1 member with ⟨earlier, inList, rfl⟩
  rw [ids, recipients]
  exact listed earlier inList

theorem lists_of_touchSubscription (now : Instant) (touched : String)
    (listed : (services.changeStore .touchSubscription
      (fun store => store.touchSubscription touched now)).2.Lists id recipient) :
    services.Lists id recipient := by
  simp only [changeStore, Store.touchSubscription] at listed
  split at listed
  · dsimp only at listed
    split at listed
    · refine listed.elim ?_ (fun _ _ => services.lists_of_registered)
      intro subscription member
      rcases List.mem_iff_getElem.1 member with ⟨place, within, rfl⟩
      rw [List.length_modify] at within
      have stored := services.lists_of_stored (List.getElem_mem within)
      rw [List.getElem_modify]
      split
      · exact stored
      · exact stored
    · exact listed
  · exact listed

/-- Ending a dispatch notes when subscriptions were served, and no more. -/
theorem lists_of_finishDispatch {dispatch : Dispatch} {outcomes : List Webhook.DeliveryOutcome}
    {now : Instant}
    (listed : (services.finishDispatch dispatch outcomes now).2.Lists id recipient) :
    services.Lists id recipient := by
  have audited (deliveries : List (WebhookTarget × Webhook.DeliveryOutcome))
      (state : DispatchReport × Services) :
      (deliveries.foldl (auditDelivery dispatch.event now) state).2.listings =
        state.2.listings := by
    refine List.foldlRecOn (motive := fun sofar : DispatchReport × Services =>
      sofar.2.listings = state.2.listings) deliveries _ rfl ?_
    intro sofar same delivery _
    have recorded : (auditDelivery dispatch.event now sofar delivery).2.listings =
        sofar.2.listings :=
      sofar.2.changeStore_listings .recordDelivery
        (fun store => store.recordDelivery (dispatch.event.audit delivery.1 delivery.2 now)) rfl
    exact recorded.trans same
  have served (ids : List String) (services : Services)
      (listed : (ids.foldl (fun services id => (services.changeStore .touchSubscription
        (fun store => store.touchSubscription id now)).2) services).Lists id recipient) :
      services.Lists id recipient := by
    induction ids generalizing services with
    | nil => exact listed
    | cons first rest induction =>
        exact lists_of_touchSubscription now first (induction _ listed)
  simp only [finishDispatch] at listed
  have same := audited (dispatch.webhooks.zip outcomes) (dispatch.report, services)
  generalize (dispatch.webhooks.zip outcomes).foldl (auditDelivery dispatch.event now)
    (dispatch.report, services) = state at listed same
  refine Lists.of_listings ?_ same
  have touched := served _ _ (listed.of_listings rfl)
  refine touched.elim (fun _ => state.2.lists_of_stored) ?_
  intro conditionId subscription member
  simp only [Registry.touchSubscriptions, Registry.subscriptionsTo, Table.getD, Table.modify]
    at member
  rw [Table.get?_mapValues] at member
  cases found : state.2.registry.subscriptions.get? conditionId with
  | none => simp [found] at member
  | some list =>
      have listed : ∀ subscription ∈ list,
          state.2.Lists subscription.id subscription.recipient := by
        intro subscription inList
        have registered : subscription ∈ state.2.registry.subscriptionsTo conditionId := by
          simp only [Registry.subscriptionsTo, Table.getD]
          rw [found]
          exact inList
        exact state.2.lists_of_registered registered
      rw [found] at member
      simp only [Option.map_some, Option.getD_some] at member
      split at member
      · refine lists_of_mem_map ?_ ?_ listed subscription member
        · intro earlier
          split <;> rfl
        · intro earlier
          split <;> rfl
      · exact listed subscription member

/-! ## Requests -/

/-- What is listed after a request for a subscription was listed before, unless it is what the
request was granted. -/
theorem lists_of_subscribe {settings : Api.Settings} {subscriberId conditionId : String}
    {asked : Recipient}
    (listed : (Api.subscribe settings services subscriberId conditionId asked).2.Lists id
      recipient) :
    services.Lists id recipient ∨
      (∃ answer, (Api.subscribe settings services subscriberId conditionId asked).1 = .ok answer) ∧
        id = settings.subscriptionId services.issuedIds ∧ recipient = asked := by
  simp only [Api.subscribe, changeStore] at listed ⊢
  cases refused : Api.subscriptionRefusal? services.registry subscriberId conditionId asked with
  | some refusal =>
      simp only [refused] at listed
      exact .inl listed
  | none =>
      cases works : services.works .saveSubscription with
      | false =>
          simp only [refused, works, Bool.false_eq_true, if_false] at listed
          exact .inl listed
      | true =>
          simp only [refused, works, if_true] at listed ⊢
          rcases listed with ⟨subscription, rfl, rfl, stored | ⟨other, registered⟩⟩
          · rcases List.mem_append.1 stored with before | new
            · exact .inl (services.lists_of_stored (List.mem_filter.1 before).1)
            · rw [List.mem_singleton.1 new]
              exact .inr ⟨⟨_, rfl⟩, rfl, rfl⟩
          · rw [Registry.subscriptionsTo_subscribe] at registered
            split at registered
            · rcases List.mem_append.1 registered with before | new
              · exact .inl (services.lists_of_registered (List.mem_filter.1 before).1)
              · rw [List.mem_singleton.1 new]
                exact .inr ⟨⟨_, rfl⟩, rfl, rfl⟩
            · exact .inl (services.lists_of_registered registered)

theorem lists_of_unsubscribe {subscriberId conditionId : String}
    (listed : (Api.unsubscribe services subscriberId conditionId).2.Lists id recipient) :
    services.Lists id recipient := by
  simp only [Api.unsubscribe, changeStore] at listed
  cases works : services.works .deactivateSubscription with
  | false =>
      simp only [works, Bool.false_eq_true, if_false] at listed
      exact listed
  | true =>
      simp only [works, if_true] at listed
      refine listed.elim ?_ ?_
      · refine lists_of_mem_map ?_ ?_ (fun _ => services.lists_of_stored)
        · intro subscription
          split <;> rfl
        · intro subscription
          split <;> rfl
      · intro other subscription member
        rw [Registry.subscriptionsTo_unsubscribe] at member
        split at member
        · refine lists_of_mem_map ?_ ?_ (fun _ => services.lists_of_registered) subscription member
          · intro subscription
            split <;> rfl
          · intro subscription
            split <;> rfl
        · exact services.lists_of_registered member

theorem activate_listings (settings : Api.Settings) (services : Services) (definition : Json) :
    (Api.activate settings services definition).2.listings = services.listings := by
  unfold Api.activate
  split
  · rfl
  · rename_i alert _
    have saved := services.changeStore_listings .saveAlert
      (fun store => store.saveAlert { id := alert.id, definition }) rfl
    have registered (registry : Registry) :
        (registry.activate alert none).2.subscriptions = registry.subscriptions := by
      simp only [Registry.activate]
      rcases (registry.markChanged alert.id).upsert_cases alert none with
        ⟨existing, -, -, same⟩ | same
      · rw [same]
        rfl
      · rw [same]
        rfl
    dsimp only
    generalize services.changeStore .saveAlert _ = result at saved ⊢
    rcases result with ⟨done, after⟩
    cases done with
    | false => exact saved
    | true =>
        have same : Services.listings
            { after with registry := (after.registry.activate alert none).2 } = after.listings :=
          Prod.ext (registered after.registry) rfl
        rw [if_pos rfl]
        dsimp only
        split
        · exact same.trans saved
        · exact same.trans saved

theorem deactivate_listings (services : Services) (alertId : String) :
    (Api.deactivate services alertId).2.listings = services.listings := by
  have saved := services.changeStore_listings .deactivateAlert
    (fun store => (store.deactivateAlert alertId).2) (by
      simp only [Store.deactivateAlert]
      split <;> rfl)
  simp only [Api.deactivate]
  generalize services.changeStore .deactivateAlert _ = result at saved ⊢
  rcases result with ⟨done, after⟩
  cases done with
  | false => exact saved
  | true => exact saved

/-- A synchronization registers what is stored. -/
theorem lists_of_sync {saved : Option SavedStates} {mode : FireMode}
    (listed : (services.sync saved mode).2.Lists id recipient) : services.Lists id recipient := by
  simp only [sync] at listed
  have unchanged := services.registry.takeStored_subscriptions
    (StoredReading.of services.registry saved mode services.store.activeAlerts).stored
    services.registry.epoch
  split at listed
  · split at listed
    · refine listed.elim (fun _ => services.lists_of_stored) ?_
      intro conditionId subscription member
      simp only [Registry.syncSubscriptions] at member
      rw [Registry.subscriptionsTo_replaceSubscriptions] at member
      have active := (List.mem_filter.1 member).1
      exact services.lists_of_stored (List.mem_filter.1 active).1
    · exact listed.of_listings (Prod.ext unchanged rfl)
  · exact listed

end Services

/-! ## Alerts -/

/-- Whether an alert was read from a definition. -/
def Alert.Accepted (alert : Alert) : Prop :=
  ∃ definition mode, Definition.readAlert definition mode = .ok alert

/-- Whether every registered alert was read from a definition. -/
def Registry.Accepted (registry : Registry) : Prop :=
  ∀ id entry, registry.get? id = some entry → entry.alert.Accepted

namespace Registry.Accepted

variable {registry : Registry}

theorem of_alerts (accepted : registry.Accepted) {after : Registry}
    (same : after.alerts = registry.alerts) : after.Accepted := by
  intro id entry get
  rw [Registry.get?, same] at get
  exact accepted id entry get

theorem upsert (accepted : registry.Accepted) {alert : Alert} (isAccepted : alert.Accepted)
    (initial : Option AlertRuntime) : (registry.upsert alert initial).2.Accepted := by
  rcases registry.upsert_cases alert initial with ⟨existing, -, -, same⟩ | same
  · rw [same]
    exact accepted
  · intro id entry get
    rw [same, Registry.get?_register] at get
    split at get
    · cases get
      exact isAccepted
    · exact accepted id entry get

theorem deactivate (accepted : registry.Accepted) (id : String) :
    (registry.deactivate id).2.Accepted :=
  fun other entry get => accepted other entry (Registry.get?_of_get?_deactivate get)

theorem takeStored (accepted : registry.Accepted) {stored : Registry.StoredAlerts}
    (read : ∀ entry ∈ stored, entry.1.Accepted) (since : Nat) :
    (registry.takeStored stored since).Accepted := by
  rw [Registry.takeStored_eq]
  refine List.foldlRecOn (motive := Registry.Accepted) stored _ accepted ?_
  intro taken soFar entry listed
  simp only [Registry.takeOne]
  split
  · exact soFar
  · exact soFar.upsert (read entry listed) entry.2

theorem reconcile (accepted : registry.Accepted) {stored : Registry.StoredAlerts}
    (read : ∀ entry ∈ stored, entry.1.Accepted) (since : Nat) :
    (registry.reconcile stored since).2.Accepted := by
  intro id entry get
  rw [Registry.get?_reconcile] at get
  split at get
  · exact accepted.takeStored read since id entry get
  · cases get

end Registry.Accepted

/-- Evaluating a group leaves alerts and subscriptions alone, and fires no alert but its members. -/
theorem Registry.passGroup_origins (registry : Registry) (engine : IndicatorEngine) (group : Group)
    (fetched : Except MissingData (List Candle)) (now : Instant) (reached : Registered → Bool) :
    let pass := registry.passGroup engine group fetched now reached
    pass.registry.alerts = registry.alerts ∧ pass.registry.subscriptions = registry.subscriptions ∧
      ∀ one ∈ pass.fired, ∃ member ∈ group.members, one.alert = member.alert := by
  intro pass
  have visited (members : List Registered) (snapshot : Snapshot) (bar : Candle) :
      let pass := registry.passMembers members snapshot bar now
      pass.registry.alerts = registry.alerts ∧
        pass.registry.subscriptions = registry.subscriptions ∧
        ∀ one ∈ pass.fired, ∃ member ∈ members, one.alert = member.alert := by
    refine List.foldlRecOn (motive := fun pass : MembersPass =>
      pass.registry.alerts = registry.alerts ∧
        pass.registry.subscriptions = registry.subscriptions ∧
        ∀ one ∈ pass.fired, ∃ member ∈ members, one.alert = member.alert)
      members _ ⟨rfl, rfl, by simp⟩ ?_
    rintro pass ⟨alerts, subscriptions, fired⟩ member isMember
    refine ⟨alerts, subscriptions, ?_⟩
    intro one among
    rcases List.mem_append.1 among with before | new
    · exact fired one before
    · rw [Option.mem_toList] at new
      rcases Option.map_eq_some_iff.1 new with ⟨event, -, rfl⟩
      exact ⟨member, isMember, rfl⟩
  have listings : pass.registry.alerts = registry.alerts ∧
      pass.registry.subscriptions = registry.subscriptions := by
    cases view : group.view? engine fetched with
    | none =>
        rw [(registry.skips_of_no_view view now reached).registry]
        exact ⟨rfl, rfl⟩
    | some found =>
        rw [(registry.concludes_of_view view now reached).registry]
        have passed := visited (registry.completed group found.1 now reached) found.1 found.2
        exact ⟨passed.1, passed.2.1⟩
  refine ⟨listings.1, listings.2, ?_⟩
  intro one among
  cases result : pass.result with
  | error failure => simp [GroupPass.fired, result] at among
  | ok fired =>
      simp only [GroupPass.fired, result] at among
      obtain ⟨snapshot, bar, -, -, -, rfl⟩ := Registry.exists_view_of_ok result
      exact (visited group.members snapshot bar).2.2 one among

/-- What is read from storage was read from definitions. -/
theorem StoredReading.of_accepted (registry : Registry) (saved : Option SavedStates)
    (mode : FireMode) (records : List AlertRecord) :
    ∀ entry ∈ (of registry saved mode records).stored, entry.1.Accepted := by
  refine List.foldlRecOn (motive := fun reading : StoredReading =>
    ∀ entry ∈ reading.stored, entry.1.Accepted) records _ (by simp) ?_
  intro reading soFar record _
  simp only [StoredReading.take]
  split
  · exact soFar
  · rename_i alert read
    intro entry member
    rcases List.mem_append.1 member with before | new
    · exact soFar entry before
    · rw [List.mem_singleton.1 new]
      exact ⟨record.identified.normal, mode, read⟩

namespace Services

variable {services : Services}

theorem accepted_of_activate (accepted : services.registry.Accepted) (settings : Api.Settings)
    (definition : Json) : (Api.activate settings services definition).2.registry.Accepted := by
  unfold Api.activate
  split
  · exact accepted
  · rename_i alert read
    have marked : (services.registry.markChanged alert.id).Accepted := accepted.of_alerts rfl
    have registered : (services.registry.activate alert none).2.Accepted :=
      marked.upsert ⟨definition, _, read⟩ none
    simp only [changeStore]
    split
    · rw [if_pos rfl]
      dsimp only
      split
      · exact registered
      · exact registered
    · exact accepted

theorem accepted_of_deactivate (accepted : services.registry.Accepted) (alertId : String) :
    (Api.deactivate services alertId).2.registry.Accepted := by
  simp only [Api.deactivate, changeStore]
  split
  · exact accepted.deactivate alertId
  · exact accepted

theorem accepted_of_subscribe (accepted : services.registry.Accepted) (settings : Api.Settings)
    (subscriberId conditionId : String) (recipient : Recipient) :
    (Api.subscribe settings services subscriberId conditionId recipient).2.registry.Accepted := by
  unfold Api.subscribe
  split
  · exact accepted
  · simp only [changeStore]
    split
    · exact accepted.of_alerts rfl
    · exact accepted

theorem accepted_of_unsubscribe (accepted : services.registry.Accepted)
    (subscriberId conditionId : String) :
    (Api.unsubscribe services subscriberId conditionId).2.registry.Accepted := by
  simp only [Api.unsubscribe, changeStore]
  split
  · exact accepted.of_alerts rfl
  · exact accepted

theorem accepted_of_sync (accepted : services.registry.Accepted) (saved : Option SavedStates)
    (mode : FireMode) : (services.sync saved mode).2.registry.Accepted := by
  have reconciled := accepted.reconcile (StoredReading.of_accepted services.registry saved mode
    services.store.activeAlerts) services.registry.epoch
  simp only [sync]
  split
  · split
    · exact reconciled.of_alerts rfl
    · exact reconciled
  · exact accepted

end Services

end CandleAlerts
