import CandleAlerts.Api.Operations
import CandleAlerts.Proofs.SubscriptionLaws
import Mathlib.Data.List.Induction
import Mathlib.Data.List.Nodup

/-!
How far the registry and storage agree on who is subscribed.

A new subscription takes the place of an equal one in the registry, but storage keeps both as active
until the subscriber gives them up. So the registry holds the latest of what is stored, and the next
synchronization brings back what was replaced.
-/

namespace CandleAlerts

/-! ## What was replaced -/

namespace Subscription

/-- What a new subscription to a condition has to share with an active one to take its place. -/
def place (subscription : Subscription) : String × Recipient :=
  (subscription.subscriberId, subscription.recipient)

theorem replaces_iff {subscription other : Subscription} (active : other.active = true) :
    subscription.replaces other = true ↔ other.place = subscription.place := by
  simp [replaces, active, place]

/-- Of subscriptions in the order they were made, those that no later one replaces. -/
def unreplaced : List Subscription → List Subscription
  | [] => []
  | subscription :: later =>
      if later.any (fun other => other.replaces subscription) then unreplaced later
      else subscription :: unreplaced later

theorem mem_of_mem_unreplaced {subscription : Subscription} {subscriptions : List Subscription}
    (member : subscription ∈ unreplaced subscriptions) : subscription ∈ subscriptions := by
  induction subscriptions with
  | nil => exact member
  | cons first later induction =>
      rw [unreplaced] at member
      split at member
      · exact List.mem_cons_of_mem _ (induction member)
      · rcases List.mem_cons.1 member with same | inLater
        · exact same ▸ List.mem_cons_self
        · exact List.mem_cons_of_mem _ (induction inLater)

/-- One more subscription drops those it replaces. -/
theorem unreplaced_append_singleton (subscriptions : List Subscription)
    (subscription : Subscription) :
    unreplaced (subscriptions ++ [subscription]) =
      (unreplaced subscriptions).filter (fun other => !subscription.replaces other) ++
        [subscription] := by
  induction subscriptions with
  | nil => rfl
  | cons first later induction =>
      rw [List.cons_append, unreplaced, unreplaced, List.any_append, induction]
      cases replaced : later.any (fun other => other.replaces first) with
      | true => simp
      | false =>
          cases now : subscription.replaces first with
          | true => simp [now]
          | false => simp [now]

/-- It makes no difference whether a part of the subscriptions is taken before or after those that
were replaced are dropped, if none outside the part replaces one inside. -/
theorem unreplaced_filter (part : Subscription → Bool)
    (closed : ∀ first second : Subscription, first.replaces second = true →
      part first = part second) (subscriptions : List Subscription) :
    unreplaced (subscriptions.filter part) = (unreplaced subscriptions).filter part := by
  induction subscriptions with
  | nil => rfl
  | cons first later induction =>
      have sameAny (inside : part first = true) :
          (later.filter part).any (fun other => other.replaces first) =
            later.any (fun other => other.replaces first) := by
        rw [List.any_filter]
        congr 1
        funext other
        cases replaces : other.replaces first with
        | true => rw [closed other first replaces, inside, Bool.true_and]
        | false => rw [Bool.and_false]
      cases inside : part first with
      | true =>
          rw [List.filter_cons_of_pos inside, unreplaced, unreplaced, sameAny inside, induction]
          split
          · rfl
          · rw [List.filter_cons_of_pos inside]
      | false =>
          have outside : ¬ part first = true := by simp [inside]
          rw [List.filter_cons_of_neg outside, unreplaced, induction]
          split
          · rfl
          · rw [List.filter_cons_of_neg outside]

theorem nodup_map_place_unreplaced {subscriptions : List Subscription}
    (active : ∀ subscription ∈ subscriptions, subscription.active = true) :
    ((unreplaced subscriptions).map place).Nodup := by
  induction subscriptions with
  | nil => exact List.nodup_nil
  | cons first later induction =>
      have laterNodup :=
        induction (fun other member => active other (List.mem_cons_of_mem _ member))
      rw [unreplaced]
      split
      · exact laterNodup
      · rename_i notReplaced
        rw [List.map_cons, List.nodup_cons]
        refine ⟨?_, laterNodup⟩
        intro listed
        rcases List.mem_map.1 listed with ⟨other, member, same⟩
        refine notReplaced (List.any_eq_true.2 ⟨other, mem_of_mem_unreplaced member, ?_⟩)
        exact (replaces_iff (active first List.mem_cons_self)).2 same.symm

/-- Nothing was replaced exactly when no two subscriptions are alike. -/
theorem unreplaced_eq_self_iff {subscriptions : List Subscription}
    (active : ∀ subscription ∈ subscriptions, subscription.active = true) :
    unreplaced subscriptions = subscriptions ↔ (subscriptions.map place).Nodup := by
  constructor
  · intro same
    rw [← same]
    exact nodup_map_place_unreplaced active
  · intro distinct
    induction subscriptions with
    | nil => rfl
    | cons first later induction =>
        rw [List.map_cons, List.nodup_cons] at distinct
        rw [unreplaced, if_neg, induction
          (fun other member => active other (List.mem_cons_of_mem _ member)) distinct.2]
        intro replaced
        rcases List.any_eq_true.1 replaced with ⟨other, member, replaces⟩
        have same := (replaces_iff (active first List.mem_cons_self)).1 replaces
        exact distinct.1 (List.mem_map.2 ⟨other, member, same.symm⟩)

end Subscription

/-- The subscriptions to a condition that are stored as active. -/
def Store.activeSubscriptionsTo (store : Store) (conditionId : String) : List Subscription :=
  store.activeSubscriptions.filter
    (fun subscription => subscription.conditionId == conditionId)

theorem Store.active_of_mem_activeSubscriptionsTo {store : Store} {conditionId : String}
    {subscription : Subscription}
    (member : subscription ∈ store.activeSubscriptionsTo conditionId) :
    subscription.active = true :=
  (List.mem_filter.1 (List.mem_filter.1 member).1).2

theorem Store.activeSubscriptionsTo_saveSubscription (store : Store) {subscription : Subscription}
    (fresh : ∀ other ∈ store.subscriptions, other.id ≠ subscription.id)
    (active : subscription.active = true) (conditionId : String) :
    (store.saveSubscription subscription).activeSubscriptionsTo conditionId =
      if subscription.conditionId = conditionId then
        store.activeSubscriptionsTo conditionId ++ [subscription]
      else store.activeSubscriptionsTo conditionId := by
  simp only [activeSubscriptionsTo]
  rw [store.activeSubscriptions_saveSubscription fresh active, List.filter_append]
  by_cases same : subscription.conditionId = conditionId
  · rw [if_pos same, List.filter_cons_of_pos (by simpa using same), List.filter_nil]
  · rw [if_neg same, List.filter_cons_of_neg (by simpa using same), List.filter_nil,
      List.append_nil]

theorem Store.activeSubscriptionsTo_deactivateSubscription (store : Store)
    (subscriberId conditionId other : String) :
    (store.deactivateSubscription subscriberId conditionId).2.activeSubscriptionsTo other =
      (store.activeSubscriptionsTo other).filter (fun subscription =>
        !(subscription.subscriberId == subscriberId && other == conditionId)) := by
  simp only [activeSubscriptionsTo]
  rw [store.activeSubscriptions_deactivateSubscription, List.filter_filter, List.filter_filter]
  apply List.filter_congr
  intro subscription member
  by_cases same : subscription.conditionId = other
  · simp [same]
  · have differs : (subscription.conditionId == other) = false := by simpa using same
    rw [differs, Bool.false_and, Bool.and_false]

/-! ## Requests -/

/-- A request that changes subscriptions. -/
inductive SubscriptionRequest where
  | subscribe (subscriberId conditionId : String) (recipient : Recipient)
  | unsubscribe (subscriberId conditionId : String)

namespace SubscriptionRequest

/-- The services after a request, granted or refused. -/
def serve (settings : Api.Settings) (services : Services) : SubscriptionRequest → Services
  | subscribe subscriberId conditionId recipient =>
      (Api.subscribe settings services subscriberId conditionId recipient).2
  | unsubscribe subscriberId conditionId =>
      (Api.unsubscribe services subscriberId conditionId).2

def serveAll (settings : Api.Settings) (services : Services)
    (requests : List SubscriptionRequest) : Services :=
  requests.foldl (serve settings) services

/-- The subscription that a request makes if it is granted. -/
def made (settings : Api.Settings) (services : Services)
    (subscriberId conditionId : String) (recipient : Recipient) : Subscription :=
  { id := settings.subscriptionId services.issuedIds, subscriberId, conditionId, recipient
    active := true, lastTriggeredAt := none }

/-- A subscription is stored, and then registered, or nothing changes. -/
theorem serve_subscribe_cases (settings : Api.Settings) (services : Services)
    (subscriberId conditionId : String) (recipient : Recipient) :
    serve settings services (.subscribe subscriberId conditionId recipient) = services ∨
      serve settings services (.subscribe subscriberId conditionId recipient) =
        { services with
          store := services.store.saveSubscription
            (made settings services subscriberId conditionId recipient)
          registry := services.registry.subscribe
            (made settings services subscriberId conditionId recipient)
          issuedIds := services.issuedIds + 1 } := by
  simp only [serve, Api.subscribe, Services.changeStore]
  cases Api.subscriptionRefusal? services.registry subscriberId conditionId recipient with
  | some refusal => exact .inl rfl
  | none =>
      cases services.works .saveSubscription with
      | false => exact .inl rfl
      | true => exact .inr rfl

/-- Subscriptions are given up in storage, and then in the registry, or nothing changes. -/
theorem serve_unsubscribe_cases (settings : Api.Settings) (services : Services)
    (subscriberId conditionId : String) :
    serve settings services (.unsubscribe subscriberId conditionId) = services ∨
      serve settings services (.unsubscribe subscriberId conditionId) =
        { services with
          store := (services.store.deactivateSubscription subscriberId conditionId).2
          registry := (services.registry.unsubscribe subscriberId conditionId).2 } := by
  simp only [serve, Api.unsubscribe, Services.changeStore]
  cases services.works .deactivateSubscription with
  | false => exact .inl rfl
  | true => exact .inr rfl

/-! ## What every request keeps -/

/-- The registry holds the latest of what is stored as active, and all stored ids were given out. -/
structure Agreed (settings : Api.Settings) (services : Services) : Prop where
  active : ∀ conditionId, services.registry.activeSubscriptions conditionId =
    Subscription.unreplaced (services.store.activeSubscriptionsTo conditionId)
  issued : ∀ subscription ∈ services.store.subscriptions,
    ∃ issue < services.issuedIds, subscription.id = settings.subscriptionId issue

variable {settings : Api.Settings} {services : Services}

/-- An id that is given out next was not given out before. -/
theorem Agreed.fresh (agreed : Agreed settings services)
    (distinct : Function.Injective settings.subscriptionId) (subscriberId conditionId : String)
    (recipient : Recipient) :
    ∀ other ∈ services.store.subscriptions,
      other.id ≠ (made settings services subscriberId conditionId recipient).id := by
  intro other member same
  rcases agreed.issued other member with ⟨issue, earlier, id⟩
  have again : issue = services.issuedIds := distinct (id.symm.trans same)
  omega

theorem Agreed.subscribe (agreed : Agreed settings services)
    (distinct : Function.Injective settings.subscriptionId) (subscriberId conditionId : String)
    (recipient : Recipient) :
    Agreed settings
      { services with
        store := services.store.saveSubscription
          (made settings services subscriberId conditionId recipient)
        registry := services.registry.subscribe
          (made settings services subscriberId conditionId recipient)
        issuedIds := services.issuedIds + 1 } where
  active other := by
    have fresh := agreed.fresh distinct subscriberId conditionId recipient
    rw [services.store.activeSubscriptionsTo_saveSubscription fresh rfl,
      services.registry.activeSubscriptions_subscribe rfl, agreed.active]
    split
    · rw [Subscription.unreplaced_append_singleton]
    · rfl
  issued other member := by
    have fresh := agreed.fresh distinct subscriberId conditionId recipient
    rw [services.store.subscriptions_saveSubscription fresh] at member
    rcases List.mem_append.1 member with before | new
    · rcases agreed.issued other before with ⟨issue, earlier, id⟩
      exact ⟨issue, Nat.lt_succ_of_lt earlier, id⟩
    · rw [List.mem_singleton.1 new]
      exact ⟨services.issuedIds, Nat.lt_succ_self _, rfl⟩

theorem Agreed.unsubscribe (agreed : Agreed settings services)
    (subscriberId conditionId : String) :
    Agreed settings
      { services with
        store := (services.store.deactivateSubscription subscriberId conditionId).2
        registry := (services.registry.unsubscribe subscriberId conditionId).2 } where
  active other := by
    rw [services.registry.activeSubscriptions_unsubscribe, agreed.active,
      services.store.activeSubscriptionsTo_deactivateSubscription,
      Subscription.unreplaced_filter]
    intro first second replaces
    simp only [Subscription.replaces, Bool.and_eq_true, beq_iff_eq] at replaces
    rw [replaces.1.2]
  issued other member := by
    have id : other.id ∈ services.store.subscriptions.map Subscription.id := by
      rw [← services.store.map_id_deactivateSubscription subscriberId conditionId]
      exact List.mem_map_of_mem member
    rcases List.mem_map.1 id with ⟨before, stored, same⟩
    rw [← same]
    exact agreed.issued before stored

theorem Agreed.serve (agreed : Agreed settings services)
    (distinct : Function.Injective settings.subscriptionId) (request : SubscriptionRequest) :
    Agreed settings (serve settings services request) := by
  cases request with
  | subscribe subscriberId conditionId recipient =>
      rcases serve_subscribe_cases settings services subscriberId conditionId recipient with
        refused | granted
      · rw [refused]
        exact agreed
      · rw [granted]
        exact agreed.subscribe distinct subscriberId conditionId recipient
  | unsubscribe subscriberId conditionId =>
      rcases serve_unsubscribe_cases settings services subscriberId conditionId with
        refused | granted
      · rw [refused]
        exact agreed
      · rw [granted]
        exact agreed.unsubscribe subscriberId conditionId

theorem Agreed.serveAll (agreed : Agreed settings services)
    (distinct : Function.Injective settings.subscriptionId) (requests : List SubscriptionRequest) :
    Agreed settings (serveAll settings services requests) := by
  induction requests generalizing services with
  | nil => exact agreed
  | cons request rest induction => exact induction (agreed.serve distinct request)

/-- Without subscriptions there is nothing to disagree on. -/
theorem Agreed.of_empty (registered : services.registry.subscriptions = Table.empty)
    (stored : services.store.subscriptions = []) : Agreed settings services where
  active conditionId := by
    simp only [Registry.activeSubscriptions, Registry.subscriptionsTo, Store.activeSubscriptionsTo,
      Store.activeSubscriptions]
    rw [registered, stored]
    rfl
  issued subscription member := by
    rw [stored] at member
    cases member

/-! ## Requests that do not repeat themselves -/

/-- Whether some requests leave a subscription open: made, and not given up since. -/
def LeaveOpen (requests : List SubscriptionRequest) (subscriberId conditionId : String)
    (recipient : Recipient) : Prop :=
  ∃ before after, requests = before ++ .subscribe subscriberId conditionId recipient :: after ∧
    .unsubscribe subscriberId conditionId ∉ after

/-- Whether nothing is subscribed to that is still open. -/
def NeverRepeat (requests : List SubscriptionRequest) : Prop :=
  ∀ before after subscriberId conditionId recipient,
    requests = before ++ .subscribe subscriberId conditionId recipient :: after →
      ¬ LeaveOpen before subscriberId conditionId recipient

theorem LeaveOpen.snoc {requests : List SubscriptionRequest} {subscriberId conditionId : String}
    {recipient : Recipient} (isOpen : LeaveOpen requests subscriberId conditionId recipient)
    {request : SubscriptionRequest} (other : request ≠ .unsubscribe subscriberId conditionId) :
    LeaveOpen (requests ++ [request]) subscriberId conditionId recipient := by
  rcases isOpen with ⟨before, after, rfl, kept⟩
  refine ⟨before, after ++ [request], by simp, ?_⟩
  intro member
  rcases List.mem_append.1 member with earlier | last
  · exact kept earlier
  · exact other (List.mem_singleton.1 last).symm

theorem NeverRepeat.of_snoc {requests : List SubscriptionRequest} {request : SubscriptionRequest}
    (never : NeverRepeat (requests ++ [request])) : NeverRepeat requests := by
  intro before after subscriberId conditionId recipient split
  apply never before (after ++ [request]) subscriberId conditionId recipient
  rw [split]
  simp

/-- What is known of storage after requests that do not repeat themselves: no two active
subscriptions are alike, and each is open. -/
structure Distinct (requests : List SubscriptionRequest) (store : Store) : Prop where
  places : ∀ conditionId,
    ((store.activeSubscriptionsTo conditionId).map Subscription.place).Nodup
  opened : ∀ conditionId, ∀ subscription ∈ store.activeSubscriptionsTo conditionId,
    LeaveOpen requests subscription.subscriberId conditionId subscription.recipient

theorem Distinct.subscribe {requests : List SubscriptionRequest} {store : Store}
    (stored : Distinct requests store) {subscription : Subscription}
    (fresh : ∀ other ∈ store.subscriptions, other.id ≠ subscription.id)
    (active : subscription.active = true)
    (new : ¬ LeaveOpen requests subscription.subscriberId subscription.conditionId
      subscription.recipient) :
    Distinct
      (requests ++ [.subscribe subscription.subscriberId subscription.conditionId
        subscription.recipient])
      (store.saveSubscription subscription) where
  places conditionId := by
    rw [store.activeSubscriptionsTo_saveSubscription fresh active]
    split
    · rename_i same
      rw [List.map_append, List.map_cons, List.map_nil, List.nodup_append]
      refine ⟨stored.places conditionId, List.nodup_singleton _, ?_⟩
      intro first listed second last alike
      rw [List.mem_singleton.1 last] at alike
      rcases List.mem_map.1 listed with ⟨other, member, rfl⟩
      have isOpen := stored.opened conditionId other member
      simp only [Subscription.place, Prod.mk.injEq] at alike
      rw [alike.1, alike.2, ← same] at isOpen
      exact new isOpen
    · exact stored.places conditionId
  opened conditionId other member := by
    have later (earlier : other ∈ store.activeSubscriptionsTo conditionId) :
        LeaveOpen
          (requests ++ [.subscribe subscription.subscriberId subscription.conditionId
            subscription.recipient]) other.subscriberId conditionId other.recipient :=
      (stored.opened conditionId other earlier).snoc (by simp)
    rw [store.activeSubscriptionsTo_saveSubscription fresh active] at member
    split at member
    · rename_i same
      rcases List.mem_append.1 member with earlier | last
      · exact later earlier
      · rw [List.mem_singleton.1 last, ← same]
        exact ⟨requests, [], rfl, by simp⟩
    · exact later member

theorem Distinct.unsubscribe {requests : List SubscriptionRequest} {store : Store}
    (stored : Distinct requests store) (subscriberId conditionId : String) :
    Distinct (requests ++ [.unsubscribe subscriberId conditionId])
      (store.deactivateSubscription subscriberId conditionId).2 where
  places other := by
    rw [store.activeSubscriptionsTo_deactivateSubscription]
    exact (stored.places other).sublist (List.filter_sublist.map _)
  opened other subscription member := by
    rw [store.activeSubscriptionsTo_deactivateSubscription, List.mem_filter] at member
    apply (stored.opened other subscription member.1).snoc
    intro same
    cases same
    simp at member

theorem Distinct.refused {requests : List SubscriptionRequest} {store : Store}
    (stored : Distinct requests store) (subscriberId conditionId : String)
    (recipient : Recipient) :
    Distinct (requests ++ [.subscribe subscriberId conditionId recipient]) store where
  places := stored.places
  opened other subscription member := (stored.opened other subscription member).snoc (by simp)

theorem serve_down (settings : Api.Settings) (services : Services)
    (request : SubscriptionRequest) :
    (serve settings services request).down = services.down := by
  cases request with
  | subscribe subscriberId conditionId recipient =>
      rcases serve_subscribe_cases settings services subscriberId conditionId recipient with
        refused | granted
      · rw [refused]
      · rw [granted]
  | unsubscribe subscriberId conditionId =>
      rcases serve_unsubscribe_cases settings services subscriberId conditionId with
        refused | granted
      · rw [refused]
      · rw [granted]

theorem serveAll_snoc (settings : Api.Settings) (services : Services)
    (requests : List SubscriptionRequest) (request : SubscriptionRequest) :
    serveAll settings services (requests ++ [request]) =
      serve settings (serveAll settings services requests) request := by
  simp [serveAll]

theorem serveAll_down (settings : Api.Settings) (services : Services)
    (requests : List SubscriptionRequest) :
    (serveAll settings services requests).down = services.down := by
  induction requests using List.reverseRecOn with
  | nil => rfl
  | append_singleton requests request induction =>
      rw [serveAll_snoc, serve_down, induction]

theorem Distinct.serve {requests : List SubscriptionRequest}
    (stored : Distinct requests services.store) (agreed : Agreed settings services)
    (injective : Function.Injective settings.subscriptionId)
    (works : services.works .deactivateSubscription = true) {request : SubscriptionRequest}
    (never : NeverRepeat (requests ++ [request])) :
    Distinct (requests ++ [request])
      (SubscriptionRequest.serve settings services request).store := by
  cases request with
  | subscribe subscriberId conditionId recipient =>
      rcases serve_subscribe_cases settings services subscriberId conditionId recipient with
        refused | granted
      · rw [refused]
        exact stored.refused subscriberId conditionId recipient
      · rw [granted]
        exact stored.subscribe (agreed.fresh injective subscriberId conditionId recipient) rfl
          (never requests [] subscriberId conditionId recipient rfl)
  | unsubscribe subscriberId conditionId =>
      have served : (SubscriptionRequest.serve settings services
          (.unsubscribe subscriberId conditionId)).store =
            (services.store.deactivateSubscription subscriberId conditionId).2 := by
        simp [SubscriptionRequest.serve, Api.unsubscribe, Services.changeStore, works]
      rw [served]
      exact stored.unsubscribe subscriberId conditionId

theorem Distinct.serveAll {start : Services} (agreed : Agreed settings start)
    (empty : Distinct [] start.store) (injective : Function.Injective settings.subscriptionId)
    (works : start.works .deactivateSubscription = true) {requests : List SubscriptionRequest}
    (never : NeverRepeat requests) :
    Distinct requests (SubscriptionRequest.serveAll settings start requests).store := by
  induction requests using List.reverseRecOn with
  | nil => exact empty
  | append_singleton requests request induction =>
      rw [serveAll_snoc]
      refine (induction never.of_snoc).serve (agreed.serveAll injective requests) injective ?_ never
      simp only [Services.works]
      rw [serveAll_down]
      exact works

theorem Distinct.of_empty {store : Store} (empty : store.subscriptions = []) :
    Distinct [] store where
  places conditionId := by
    simp only [Store.activeSubscriptionsTo, Store.activeSubscriptions]
    rw [empty]
    exact List.nodup_nil
  opened conditionId subscription member := by
    simp only [Store.activeSubscriptionsTo, Store.activeSubscriptions] at member
    rw [empty] at member
    cases member

/-! ## The agreement -/

/-- After any requests, granted or refused, the registry's active subscriptions to a condition are
the latest of those stored as active, and no two of them are alike. They are all of the stored ones
exactly when no two of these are alike, which is so if no request repeats one that is still open. A
synchronization makes all of the stored ones active. -/
theorem registered_are_latest_of_stored (settings : Api.Settings)
    (injective : Function.Injective settings.subscriptionId) (start : Services)
    (registered : start.registry.subscriptions = Table.empty)
    (stored : start.store.subscriptions = []) (requests : List SubscriptionRequest) :
    (∀ conditionId,
      (serveAll settings start requests).registry.activeSubscriptions conditionId =
        Subscription.unreplaced
          ((serveAll settings start requests).store.activeSubscriptionsTo conditionId) ∧
      (((serveAll settings start requests).registry.activeSubscriptions conditionId).map
        Subscription.place).Nodup ∧
      ((serveAll settings start requests).registry.activeSubscriptions conditionId =
          (serveAll settings start requests).store.activeSubscriptionsTo conditionId ↔
        (((serveAll settings start requests).store.activeSubscriptionsTo conditionId).map
          Subscription.place).Nodup) ∧
      ∀ saved mode,
        ((serveAll settings start requests).registry.sync saved mode
          (serveAll settings start requests).store).2.2.activeSubscriptions conditionId =
            (serveAll settings start requests).store.activeSubscriptionsTo conditionId) ∧
    (start.works .deactivateSubscription = true → NeverRepeat requests → ∀ conditionId,
      (serveAll settings start requests).registry.activeSubscriptions conditionId =
        (serveAll settings start requests).store.activeSubscriptionsTo conditionId) := by
  have empty : Agreed settings start := .of_empty registered stored
  have agreed := empty.serveAll injective requests
  have allStored (conditionId : String) :
      (serveAll settings start requests).registry.activeSubscriptions conditionId =
          (serveAll settings start requests).store.activeSubscriptionsTo conditionId ↔
        (((serveAll settings start requests).store.activeSubscriptionsTo conditionId).map
          Subscription.place).Nodup := by
    rw [agreed.active]
    exact Subscription.unreplaced_eq_self_iff
      (fun _ member => Store.active_of_mem_activeSubscriptionsTo member)
  constructor
  · intro conditionId
    refine ⟨agreed.active conditionId, ?_, allStored conditionId, ?_⟩
    · rw [agreed.active]
      exact Subscription.nodup_map_place_unreplaced
        (fun _ member => Store.active_of_mem_activeSubscriptionsTo member)
    · intro saved mode
      exact Registry.activeSubscriptions_sync _ saved mode _ conditionId
  · intro works never conditionId
    have distinct := Distinct.serveAll empty (.of_empty stored) injective works never
    exact (allStored conditionId).2 (distinct.places conditionId)

/-! One user subscribes a webhook to one alert twice, without and with giving it up in between. -/

def watchedDefinition : Json := .object
  [("id", .string "a1"), ("owner_id", .string "o"), ("symbol", .string "BTC"),
   ("timeframe", .string "1h"),
   ("conditions", .array
     [.object [("type", .string "price"), ("field", .string "close"), ("op", .string ">"),
       ("value", .number (.integer 1))]])]

def watchSettings : Api.Settings :=
  { defaultFireMode := .perBar, timeframes := [.hour], verifier := none, hasMetrics := false
    mac := fun _ _ => []
    subscriptionId := fun issue => String.ofList (List.replicate issue 's') }

theorem watchSettings_injective : Function.Injective watchSettings.subscriptionId := by
  intro first second same
  have lengths := congrArg (fun text : String => text.toList.length) same
  simpa [watchSettings] using lengths

/-- The alert has been activated. -/
def watched : Services :=
  (Api.activate watchSettings { channel := { capacity := 1 } } watchedDefinition).2

def watchRequest : SubscriptionRequest :=
  .subscribe "u1" "a1" (.webhook "https://example.com" none)

def watchSubscription (id : String) : Subscription :=
  { id, subscriberId := "u1", conditionId := "a1"
    recipient := .webhook "https://example.com" none, active := true, lastTriggeredAt := none }

theorem replaced_subscription_comes_back :
    let after := serveAll watchSettings watched [watchRequest, watchRequest]
    after.registry.activeSubscriptions "a1" = [watchSubscription "s"] ∧
      after.store.activeSubscriptionsTo "a1" = [watchSubscription "", watchSubscription "s"] ∧
      (after.registry.sync none .perBar after.store).2.2.activeSubscriptions "a1" =
        [watchSubscription "", watchSubscription "s"] := by
  decide +kernel

def watchAgain : List SubscriptionRequest := [watchRequest, .unsubscribe "u1" "a1", watchRequest]

theorem neverRepeat_watchAgain : NeverRepeat watchAgain := by
  rintro before after subscriberId conditionId recipient split ⟨earlier, later, opened, kept⟩
  subst opened
  simp only [watchAgain, watchRequest] at split
  rcases earlier with _ | ⟨first, _ | ⟨second, rest⟩⟩
  · rcases later with _ | ⟨given, rest⟩
    · simp at split
    · simp only [List.nil_append, List.cons_append, List.cons.injEq] at split
      rcases split with ⟨made, gave, -⟩
      cases made
      exact kept (gave ▸ List.mem_cons_self)
  · simp at split
  · have lengths := congrArg List.length split
    simp only [List.length_cons, List.length_nil, List.length_append] at lengths
    omega

theorem given_up_in_between_agrees :
    watched.registry.subscriptions = Table.empty ∧ watched.store.subscriptions = [] ∧
      (serveAll watchSettings watched watchAgain).registry.activeSubscriptions "a1" =
        [watchSubscription "s"] ∧
      (serveAll watchSettings watched watchAgain).store.activeSubscriptionsTo "a1" =
        [watchSubscription "s"] := by
  have agreed := registered_are_latest_of_stored watchSettings watchSettings_injective watched rfl
    rfl watchAgain
  have same := agreed.2 rfl neverRepeat_watchAgain "a1"
  have registered : (serveAll watchSettings watched watchAgain).registry.activeSubscriptions "a1" =
      [watchSubscription "s"] := by decide +kernel
  exact ⟨rfl, rfl, registered, same ▸ registered⟩

end SubscriptionRequest

end CandleAlerts
