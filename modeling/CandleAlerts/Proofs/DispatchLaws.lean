import CandleAlerts.Proofs.EventIds
import CandleAlerts.Proofs.GroupEvaluation
import CandleAlerts.Services.BotRouter

/-!
What dispatching does to the record of events.

An event is recorded when its key is claimed, and a key is claimed when its event has been recorded.
As long as that holds no event is recorded or published twice. Nothing else that the services do
touches the record.
-/

namespace CandleAlerts

/-! ## Claims -/

/-- At the beginning of the clock an event can be claimed for a day. -/
theorem dispatchMemory_ends : 0 + dispatchMemory < Claims.clockEnd := by decide

theorem Claims.holds_iff (claims : Claims) (key : String) (now : Nat) :
    claims.holds key now = true ↔
      ∃ expiry, claims.expiries.get? key = some expiry ∧ now < expiry := by
  simp only [holds, alive]
  rw [Table.contains_eq_isSome, Table.get?_filter, Option.isSome_iff_exists]
  simp [Option.filter_eq_some_iff]

/-- A claim succeeds exactly when its key is free and its lifetime ends on the clock. -/
theorem Claims.claim_cases (claims : Claims) (key : String) (lifetime now : Nat) :
    (claims.holds key now = true ∧ claims.claim key lifetime now = (.taken, claims.alive now)) ∨
    (claims.holds key now = false ∧ now + lifetime < clockEnd ∧ claims.claim key lifetime now =
      (.claimed, { expiries := (claims.alive now).expiries.insert key (now + lifetime) })) ∨
    (claims.holds key now = false ∧ clockEnd ≤ now + lifetime ∧
      claims.claim key lifetime now = (.crashed, claims.alive now)) := by
  simp only [claim]
  cases held : claims.holds key now with
  | true => exact .inl ⟨rfl, rfl⟩
  | false =>
      by_cases ends : now + lifetime < clockEnd
      · exact .inr (.inl ⟨rfl, ends, if_pos ends⟩)
      · exact .inr (.inr ⟨rfl, Nat.not_lt.1 ends, if_neg ends⟩)

theorem Claims.claim_of_free {claims : Claims} {key : String} {lifetime now : Nat}
    (free : claims.holds key now = false) (ends : now + lifetime < clockEnd) :
    claims.claim key lifetime now =
      (.claimed, { expiries := (claims.alive now).expiries.insert key (now + lifetime) }) := by
  rw [claim, free, if_neg Bool.false_ne_true, if_pos ends]

/-- A claim adds its key to those that are held, and changes no other. -/
theorem Claims.holds_claim (claims : Claims) (key other : String) {lifetime now : Nat}
    (lasts : 0 < lifetime) (ends : now + lifetime < clockEnd) :
    (claims.claim key lifetime now).2.holds other now = true ↔
      other = key ∨ claims.holds other now = true := by
  have alive : (claims.alive now).holds other now = true ↔ claims.holds other now = true := by
    rw [holds_iff, holds_iff]
    simp only [Claims.alive]
    simp [Table.get?_filter, Option.filter_eq_some_iff]
  cases held : claims.holds key now with
  | true =>
      simp only [claim, held, if_true]
      rw [alive]
      constructor
      · exact .inr
      · rintro (same | already)
        · rw [same]
          exact held
        · exact already
  | false =>
      rw [claim_of_free held ends, holds_iff, Table.get?_insert]
      by_cases same : key = other
      · simp [same, lasts]
      · rw [if_neg same, ← holds_iff, alive]
        simp [Ne.symm same]

namespace Services

/-- A dispatch ends with the claim on its event or goes on from there. -/
theorem beginDispatch_cases (services : Services) (alert : Alert) (event : TriggerEvent)
    (defaultSecret : String) (now : Instant) (clock : Nat) :
    let claimed := (services.claim (dispatchKey event.eventId) dispatchMemory clock).2
    services.beginDispatch alert event defaultSecret now clock = (none, claimed) ∨
      services.beginDispatch alert event defaultSecret now clock =
        (some (claimed.beginClaimed alert event defaultSecret now).1,
          (claimed.beginClaimed alert event defaultSecret now).2) := by
  simp only [beginDispatch]
  cases (services.claim (dispatchKey event.eventId) dispatchMemory clock).1 with
  | taken => exact .inl rfl
  | crashed => exact .inl rfl
  | claimed => exact .inr rfl
  | unavailable reason => exact .inr rfl

/-! ## What leaves the record alone -/

/-- Whether the registered alerts, their cells, the claims, and what was recorded and published are
the same, and only deliveries of events that it is about were audited. -/
structure Undisturbed (about : String → Prop) (before after : Services) : Prop where
  alerts : after.registry.alerts = before.registry.alerts
  cells : after.registry.cells = before.registry.cells
  claims : after.claims = before.claims
  triggers : after.store.triggers = before.store.triggers
  published : after.published = before.published
  down : after.down = before.down
  audits : ∃ more, after.store.deliveries = before.store.deliveries ++ more ∧
    ∀ audit ∈ more, about audit.eventId

variable {about : String → Prop}

namespace Undisturbed

/-- What changes neither storage nor anything else of this disturbs nothing. -/
theorem of_same_store {before after : Services}
    (alerts : after.registry.alerts = before.registry.alerts)
    (cells : after.registry.cells = before.registry.cells) (claims : after.claims = before.claims)
    (triggers : after.store.triggers = before.store.triggers)
    (deliveries : after.store.deliveries = before.store.deliveries)
    (published : after.published = before.published) (down : after.down = before.down) :
    Undisturbed about before after :=
  ⟨alerts, cells, claims, triggers, published, down, [], by simp [deliveries], by simp⟩

theorem refl (services : Services) : Undisturbed about services services :=
  of_same_store rfl rfl rfl rfl rfl rfl rfl

theorem trans {first second third : Services} (left : Undisturbed about first second)
    (right : Undisturbed about second third) : Undisturbed about first third := by
  rcases left.audits with ⟨earlier, leftDeliveries, leftAbout⟩
  rcases right.audits with ⟨later, rightDeliveries, rightAbout⟩
  refine ⟨right.alerts.trans left.alerts, right.cells.trans left.cells,
    right.claims.trans left.claims, right.triggers.trans left.triggers,
    right.published.trans left.published, right.down.trans left.down, earlier ++ later, ?_, ?_⟩
  · rw [rightDeliveries, leftDeliveries, List.append_assoc]
  · intro audit member
    rcases List.mem_append.1 member with inEarlier | inLater
    · exact leftAbout audit inEarlier
    · exact rightAbout audit inLater

theorem count (services : Services) (counter : Counter) (times : Nat) :
    Undisturbed about services (services.count counter times) :=
  of_same_store rfl rfl rfl rfl rfl rfl rfl

theorem note (services : Services) (journal : Journal) :
    Undisturbed about services (services.note journal) :=
  of_same_store rfl rfl rfl rfl rfl rfl rfl

theorem changeStore (services : Services) (part : ServicePart) (change : Store → Store)
    (triggers : (change services.store).triggers = services.store.triggers)
    (deliveries : (change services.store).deliveries = services.store.deliveries) :
    Undisturbed about services (services.changeStore part change).2 := by
  simp only [Services.changeStore]
  split
  · exact of_same_store rfl rfl rfl triggers deliveries rfl rfl
  · exact refl services

theorem mono {about wider : String → Prop} {before after : Services}
    (undisturbed : Undisturbed about before after)
    (widens : ∀ eventId, about eventId → wider eventId) : Undisturbed wider before after where
  alerts := undisturbed.alerts
  cells := undisturbed.cells
  claims := undisturbed.claims
  triggers := undisturbed.triggers
  published := undisturbed.published
  down := undisturbed.down
  audits := by
    rcases undisturbed.audits with ⟨more, deliveries, isAbout⟩
    exact ⟨more, deliveries, fun audit member => widens _ (isAbout audit member)⟩

end Undisturbed

theorem notifyUser_undisturbed (event : TriggerEvent) (state : Nat × Services) (userId : String) :
    Undisturbed about state.2 (notifyUser event state userId).2 :=
  Undisturbed.changeStore state.2 .insertNotification
    (fun store => store.insertNotification (event.notification userId)) rfl rfl

theorem foldl_notifyUser_undisturbed (event : TriggerEvent) (users : List String)
    (state : Nat × Services) :
    Undisturbed about state.2 (users.foldl (notifyUser event) state).2 := by
  induction users generalizing state with
  | nil => exact Undisturbed.refl state.2
  | cons user rest induction => exact (notifyUser_undisturbed event state user).trans (induction _)

theorem notifyUsers_undisturbed (services : Services) (dispatch : Dispatch) :
    Undisturbed about services (services.notifyUsers dispatch).2 :=
  foldl_notifyUser_undisturbed dispatch.event dispatch.users (0, services)

theorem auditDelivery_undisturbed {event : TriggerEvent} (isAbout : about event.eventId)
    (now : Instant) (state : DispatchReport × Services)
    (delivery : WebhookTarget × Webhook.DeliveryOutcome) :
    Undisturbed about state.2 (auditDelivery event now state delivery).2 := by
  simp only [auditDelivery, Services.changeStore]
  split
  · refine ⟨rfl, rfl, rfl, rfl, rfl, rfl, [event.audit delivery.1 delivery.2 now], rfl, ?_⟩
    intro audit member
    rw [List.mem_singleton] at member
    rw [member]
    exact isAbout
  · exact Undisturbed.refl state.2

theorem foldl_auditDelivery_undisturbed {event : TriggerEvent} (isAbout : about event.eventId)
    (now : Instant) (deliveries : List (WebhookTarget × Webhook.DeliveryOutcome))
    (state : DispatchReport × Services) :
    Undisturbed about state.2 (deliveries.foldl (auditDelivery event now) state).2 := by
  induction deliveries generalizing state with
  | nil => exact Undisturbed.refl state.2
  | cons delivery rest induction =>
      exact (auditDelivery_undisturbed isAbout now state delivery).trans (induction _)

/-- Noting when subscriptions were served changes nothing but those that are stored. -/
theorem exists_touchSubscriptions (now : Instant) (ids : List String) (services : Services) :
    ∃ subscriptions, ids.foldl (fun services id => (services.changeStore .touchSubscription
        (fun store => store.touchSubscription id now)).2) services =
      { services with store := { services.store with subscriptions } } := by
  induction ids generalizing services with
  | nil => exact ⟨_, rfl⟩
  | cons id rest induction =>
      have first : ∃ subscriptions, (services.changeStore .touchSubscription
          (fun store => store.touchSubscription id now)).2 =
            { services with store := { services.store with subscriptions } } := by
        unfold changeStore Store.touchSubscription
        split
        · dsimp only
          split <;> exact ⟨_, rfl⟩
        · exact ⟨_, rfl⟩
      rcases first with ⟨subscriptions, same⟩
      rw [List.foldl_cons, same]
      exact induction _

theorem finishDispatch_undisturbed (services : Services) {dispatch : Dispatch}
    (isAbout : about dispatch.event.eventId) (outcomes : List Webhook.DeliveryOutcome)
    (now : Instant) :
    Undisturbed about services (services.finishDispatch dispatch outcomes now).2 := by
  have audited := foldl_auditDelivery_undisturbed isAbout now
    (dispatch.webhooks.zip outcomes) (dispatch.report, services)
  simp only [finishDispatch]
  generalize (dispatch.webhooks.zip outcomes).foldl (auditDelivery dispatch.event now)
    (dispatch.report, services) = state at audited ⊢
  rcases state with ⟨report, middle⟩
  have served : Undisturbed about middle
      { middle with
        registry := middle.registry.touchSubscriptions dispatch.event.conditionId now } :=
    Undisturbed.of_same_store rfl rfl rfl rfl rfl rfl rfl
  rcases exists_touchSubscriptions now dispatch.subscriptionIds
    { middle with registry := middle.registry.touchSubscriptions dispatch.event.conditionId now }
    with ⟨subscriptions, touched⟩
  dsimp only at touched ⊢
  rw [touched]
  exact (audited.trans served).trans (.of_same_store rfl rfl rfl rfl rfl rfl rfl)

/-! ## The router -/

/-- Queueing an event changes nothing but the queue and what is counted. -/
theorem exists_queueForBots (event : TriggerEvent) (bots : List String) (queued : Nat)
    (services : Services) :
    ∃ botQueue journal, (queueForBots event queued services bots).2 =
      { services with store := { services.store with botQueue }, journal } := by
  induction bots generalizing queued services with
  | nil => exact ⟨_, _, rfl⟩
  | cons bot rest induction =>
      unfold queueForBots
      split
      · have enqueued : ∃ botQueue, (services.store.enqueueBot bot event).2 =
            { services.store with botQueue } := by
          unfold Store.enqueueBot
          split <;> exact ⟨_, rfl⟩
        rcases enqueued with ⟨botQueue, same⟩
        dsimp only
        rw [same]
        split <;> exact induction _ _
      · exact ⟨_, _, rfl⟩

theorem exists_routePayload (services : Services) (payload : String) :
    ∃ botQueue journal, services.routePayload payload =
      { services with store := { services.store with botQueue }, journal } := by
  unfold routePayload
  split
  · exact exists_queueForBots _ _ 0 services
  · exact ⟨_, _, rfl⟩

theorem exists_routeWaiting (services : Services) (receiver : Receiver) :
    ∃ botQueue journal, (services.routeWaiting receiver).2 =
      { services with store := { services.store with botQueue }, journal } := by
  have routed (messages : List Message) (services : Services) : ∃ botQueue journal,
      messages.foldl (fun services message => services.routePayload message.payload) services =
        { services with store := { services.store with botQueue }, journal } := by
    induction messages generalizing services with
    | nil => exact ⟨_, _, rfl⟩
    | cons message rest induction =>
        rcases exists_routePayload services message.payload with ⟨botQueue, journal, same⟩
        rw [List.foldl_cons, same]
        exact induction _
  exact routed _ services

theorem routeWaiting_undisturbed (services : Services) (receiver : Receiver) :
    Undisturbed about services (services.routeWaiting receiver).2 := by
  rcases services.exists_routeWaiting receiver with ⟨botQueue, journal, same⟩
  rw [same]
  exact .of_same_store rfl rfl rfl rfl rfl rfl rfl

/-! ## The record -/

def recordedIds (services : Services) : List String :=
  services.store.triggers.map TriggerEvent.eventId

/-- Whether claims and records work and agree: every id is recorded at most once, exactly the
recorded ones are claimed, and no message was published that does not tell of a recorded event, nor
any twice. -/
structure Records (services : Services) : Prop where
  claimsWork : services.works .claim = true
  recordsWork : services.works .recordTrigger = true
  distinct : services.recordedIds.Nodup
  claimed : ∀ eventId, services.claims.holds (dispatchKey eventId) 0 = true ↔
    eventId ∈ services.recordedIds
  published : services.published.Sublist (services.store.triggers.map TriggerEvent.toMessage)

theorem Records.of_undisturbed {before after : Services} (records : before.Records)
    (undisturbed : Undisturbed about before after) : after.Records where
  claimsWork := by
    simp only [works]
    rw [undisturbed.down]
    exact records.claimsWork
  recordsWork := by
    simp only [works]
    rw [undisturbed.down]
    exact records.recordsWork
  distinct := by
    simp only [recordedIds]
    rw [undisturbed.triggers]
    exact records.distinct
  claimed eventId := by
    simp only [recordedIds]
    rw [undisturbed.triggers, undisturbed.claims]
    exact records.claimed eventId
  published := by
    rw [undisturbed.triggers, undisturbed.published]
    exact records.published

/-- What beginning a dispatch comes to: an event that was recorded is left alone, and any other is
recorded. -/
inductive DispatchResult (services : Services) (event : TriggerEvent) :
    Option Dispatch × Services → Prop
  | duplicate (after : Services) (recorded : event.eventId ∈ services.recordedIds)
      (triggers : after.store.triggers = services.store.triggers)
      (alerts : after.registry = services.registry)
      (audits : after.store.deliveries = services.store.deliveries) :
      DispatchResult services event (none, after)
  | begun (dispatch : Dispatch) (after : Services) (fresh : event.eventId ∉ services.recordedIds)
      (same : ∃ bots now, dispatch.event = event.publishedFor bots now)
      (triggers : after.store.triggers = services.store.triggers ++ [dispatch.event])
      (alerts : after.registry = services.registry)
      (audits : after.store.deliveries = services.store.deliveries) :
      DispatchResult services event (some dispatch, after)

theorem beginClaimed_triggers {services : Services} (works : services.works .recordTrigger = true)
    (alert : Alert) (event : TriggerEvent) (defaultSecret : String) (now : Instant) :
    let (dispatch, after) := services.beginClaimed alert event defaultSecret now
    (∃ bots, dispatch.event = event.publishedFor bots now) ∧
      after.store.triggers = services.store.triggers ++ [dispatch.event] ∧
      (after.published = services.published ∨
        after.published = services.published ++ [dispatch.event.toMessage]) ∧
      after.registry = services.registry ∧ after.claims = services.claims ∧
      after.store.deliveries = services.store.deliveries ∧ after.down = services.down := by
  simp only [beginClaimed, Services.changeStore, Services.publish]
  simp only [works, if_true]
  split
  · exact ⟨⟨_, rfl⟩, rfl, .inr rfl, rfl, rfl, rfl, rfl⟩
  · exact ⟨⟨_, rfl⟩, rfl, .inl rfl, rfl, rfl, rfl, rfl⟩

theorem beginDispatch_result {services : Services} (records : services.Records) (alert : Alert)
    (event : TriggerEvent) (defaultSecret : String) (now : Instant) :
    DispatchResult services event (services.beginDispatch alert event defaultSecret now 0) ∧
      (services.beginDispatch alert event defaultSecret now 0).2.Records := by
  have claims (eventId : String) :=
    services.claims.holds_claim (dispatchKey event.eventId) (dispatchKey eventId)
      (show 0 < dispatchMemory by decide) dispatchMemory_ends
  simp only [beginDispatch, Services.claim]
  rw [if_pos records.claimsWork]
  cases held : services.claims.holds (dispatchKey event.eventId) 0 with
  | true =>
      have recorded := (records.claimed event.eventId).1 held
      have taken : services.claims.claim (dispatchKey event.eventId) dispatchMemory 0 =
          (.taken, services.claims.alive 0) := by simp [Claims.claim, held]
      rw [taken] at claims ⊢
      refine ⟨.duplicate _ recorded rfl rfl rfl, ?_⟩
      refine ⟨records.claimsWork, records.recordsWork, records.distinct, ?_, records.published⟩
      intro eventId
      dsimp only at claims ⊢
      rw [claims, dispatchKey_inj, records.claimed]
      constructor
      · rintro (same | already)
        · rw [same]
          exact recorded
        · exact already
      · exact .inr
  | false =>
      have fresh : event.eventId ∉ services.recordedIds := by
        intro recorded
        rw [(records.claimed event.eventId).2 recorded] at held
        cases held
      have claimed : (services.claims.claim (dispatchKey event.eventId) dispatchMemory 0).1 =
          .claimed := by rw [Claims.claim_of_free held dispatchMemory_ends]
      generalize services.claims.claim (dispatchKey event.eventId) dispatchMemory 0 = outcome
        at claims claimed ⊢
      rcases outcome with ⟨outcome, after⟩
      dsimp only at claimed claims
      subst claimed
      have recordsWork :
          ({ services with claims := after } : Services).works .recordTrigger = true :=
        records.recordsWork
      have begun := beginClaimed_triggers recordsWork alert event defaultSecret now
      dsimp only at begun ⊢
      generalize ({ services with claims := after } : Services).beginClaimed alert event
        defaultSecret now = result at begun ⊢
      rcases result with ⟨dispatch, final⟩
      rcases begun with ⟨⟨bots, same⟩, triggers, published, registry, claimsSame, audits, down⟩
      dsimp only at triggers published registry claimsSame audits down ⊢
      have eventId : dispatch.event.eventId = event.eventId := by
        rw [same]
        rfl
      refine ⟨.begun dispatch final fresh ⟨bots, now, same⟩ triggers registry audits, ?_⟩
      have ids : final.recordedIds = services.recordedIds ++ [event.eventId] := by
        simp only [recordedIds]
        rw [triggers, List.map_append, List.map_singleton, eventId]
      refine ⟨?_, ?_, ?_, ?_, ?_⟩
      · simp only [works]
        rw [down]
        exact records.claimsWork
      · simp only [works]
        rw [down]
        exact records.recordsWork
      · rw [ids, List.nodup_append]
        refine ⟨records.distinct, by simp, ?_⟩
        intro first recorded second last
        rw [List.mem_singleton] at last
        rintro rfl
        exact fresh (last ▸ recorded)
      · intro other
        rw [claimsSame, claims, dispatchKey_inj, ids, List.mem_append, List.mem_singleton,
          records.claimed, or_comm]
      · rw [triggers, List.map_append, List.map_singleton]
        rcases published with same | sent
        · rw [same]
          exact records.published.trans (List.sublist_append_left _ _)
        · rw [sent]
          exact records.published.append (List.Sublist.refl _)

end Services

end CandleAlerts
