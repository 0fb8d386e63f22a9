import CandleAlerts.Dispatch.Basic
import CandleAlerts.Proofs.DispatchLaws

/-!
What was told by now, and what each part of a dispatch adds to it.

The ledger holds the recorded events, the published messages, the notifications and the audits of
deliveries. Beginning a dispatch adds one event and one message, notifying adds one notification for
each user, finishing adds one audit for each delivery. A part of the services that is down takes
nothing; nothing else is ever added, changed or taken away.
-/

namespace CandleAlerts

/-- What was told. -/
structure Ledger where
  triggers : List TriggerEvent
  published : List Message
  notifications : List Notification
  deliveries : List DeliveryAudit

namespace Services

def ledger (services : Services) : Ledger :=
  { triggers := services.store.triggers
    published := services.published
    notifications := services.store.notifications
    deliveries := services.store.deliveries }

/-- What a part of the services takes of what it is given. -/
def taken (services : Services) (part : ServicePart) (given : List α) : List α :=
  if services.works part then given else []

/-- What is down decides what is taken. -/
theorem taken_of_down {before after : Services} (down : after.down = before.down)
    (part : ServicePart) (given : List α) : after.taken part given = before.taken part given := by
  rw [taken, taken, works, works, down]

/-- Whether services tell the same and can tell the same. -/
structure SameLedger (before after : Services) : Prop where
  ledger : after.ledger = before.ledger
  down : after.down = before.down

namespace SameLedger

theorem refl (services : Services) : SameLedger services services := ⟨rfl, rfl⟩

theorem trans {first second third : Services} (left : SameLedger first second)
    (right : SameLedger second third) : SameLedger first third :=
  ⟨right.ledger.trans left.ledger, right.down.trans left.down⟩

theorem count (services : Services) (counter : Counter) (times : Nat) :
    SameLedger services (services.count counter times) := ⟨rfl, rfl⟩

theorem note (services : Services) (journal : Journal) :
    SameLedger services (services.note journal) := ⟨rfl, rfl⟩

end SameLedger

/-- The router tells bots only. -/
theorem routeWaiting_sameLedger (services : Services) (receiver : Receiver) :
    SameLedger services (services.routeWaiting receiver).2 := by
  rcases services.exists_routeWaiting receiver with ⟨botQueue, journal, same⟩
  rw [same]
  exact ⟨rfl, rfl⟩

/-! ## What a change of storage tells -/

theorem taken_append (services : Services) (part : ServicePart) (first second : List α) :
    services.taken part (first ++ second) =
      services.taken part first ++ services.taken part second := by
  unfold taken
  split <;> rfl

theorem changeStore_fst (services : Services) (part : ServicePart) (change : Store → Store) :
    (services.changeStore part change).1 = services.works part := by
  unfold changeStore
  split
  · rename_i working
    exact working.symm
  · rename_i isDown
    exact (Bool.eq_false_iff.2 isDown).symm

theorem changeStore_down (services : Services) (part : ServicePart) (change : Store → Store) :
    (services.changeStore part change).2.down = services.down := by
  unfold changeStore
  split <;> rfl

theorem recordTrigger_ledger (services : Services) (event : TriggerEvent) :
    (services.changeStore .recordTrigger (fun store => store.recordTrigger event)).2.ledger =
      { services.ledger with
        triggers := services.ledger.triggers ++ services.taken .recordTrigger [event] } := by
  unfold changeStore taken
  split
  · rfl
  · rw [List.append_nil]

theorem insertNotification_ledger (services : Services) (notification : Notification) :
    (services.changeStore .insertNotification
      (fun store => store.insertNotification notification)).2.ledger =
      { services.ledger with
        notifications := services.ledger.notifications ++
          services.taken .insertNotification [notification] } := by
  unfold changeStore taken
  split
  · rfl
  · rw [List.append_nil]

theorem recordDelivery_ledger (services : Services) (audit : DeliveryAudit) :
    (services.changeStore .recordDelivery (fun store => store.recordDelivery audit)).2.ledger =
      { services.ledger with
        deliveries := services.ledger.deliveries ++ services.taken .recordDelivery [audit] } := by
  unfold changeStore taken
  split
  · rfl
  · rw [List.append_nil]

theorem publish_ledger (services : Services) (message : Message) :
    (services.publish message).1 = services.works .publish ∧
      (services.publish message).2.ledger =
        { services.ledger with
          published := services.ledger.published ++ services.taken .publish [message] } ∧
      (services.publish message).2.down = services.down := by
  unfold publish taken
  split
  · rename_i working
    exact ⟨working.symm, rfl, rfl⟩
  · rename_i isDown
    rw [List.append_nil]
    exact ⟨(Bool.eq_false_iff.2 isDown).symm, rfl, rfl⟩

/-! ## What a dispatch tells -/

/-- What a claimed event is dispatched with, and what beginning tells of it. -/
theorem beginClaimed_ledger (services : Services) (alert : Alert) (event : TriggerEvent)
    (defaultSecret : String) (now : Instant) :
    let subscriptions := services.registry.activeSubscriptions event.conditionId
    let targets := Targets.of alert subscriptions defaultSecret
    let told := event.publishedFor targets.bots now
    (services.beginClaimed alert event defaultSecret now).1 =
        { event := told
          webhooks := targets.webhooks
          users := targets.users
          subscriptionIds := subscriptions.map Subscription.id
          report := { published := services.works .publish } } ∧
      (services.beginClaimed alert event defaultSecret now).2.ledger =
        { services.ledger with
          triggers := services.ledger.triggers ++ services.taken .recordTrigger [told]
          published := services.ledger.published ++
            services.taken .publish [told.toMessage] } ∧
      (services.beginClaimed alert event defaultSecret now).2.down = services.down := by
  intro subscriptions targets told
  have recorded := services.recordTrigger_ledger told
  have down := services.changeStore_down .recordTrigger (fun store => store.recordTrigger told)
  unfold beginClaimed
  dsimp only
  generalize services.changeStore .recordTrigger _ = middle at recorded down ⊢
  rcases middle.2.publish_ledger told.toMessage with ⟨sent, ledger, stillDown⟩
  rw [works, down] at sent
  refine ⟨?_, ?_, stillDown.trans down⟩
  · rw [sent]
    rfl
  · rw [ledger, recorded, taken_of_down down]

/-- An event whose claim is not held is dispatched, and so is one that cannot be claimed. -/
theorem beginDispatch_of_new {services : Services} {event : TriggerEvent} {clock : Nat}
    (new : services.works .claim = true →
      services.claims.holds (dispatchKey event.eventId) clock = false)
    (ends : clock + dispatchMemory < Claims.clockEnd) (alert : Alert) (defaultSecret : String) (now : Instant) :
    ∃ claims, services.beginDispatch alert event defaultSecret now clock =
      (some (({ services with claims } : Services).beginClaimed alert event defaultSecret now).1,
        (({ services with claims } : Services).beginClaimed alert event defaultSecret now).2) := by
  simp only [beginDispatch, claim]
  cases working : services.works .claim with
  | true =>
      rw [if_pos rfl, Claims.claim_of_free (new working) ends]
      exact ⟨_, rfl⟩
  | false => exact ⟨services.claims, rfl⟩

theorem notifyUser_ledger (event : TriggerEvent) (shown : Nat) (services : Services)
    (userId : String) :
    (notifyUser event (shown, services) userId).1 =
        shown + (services.taken .insertNotification [userId]).length ∧
      (notifyUser event (shown, services) userId).2.ledger =
        { services.ledger with
          notifications := services.ledger.notifications ++
            services.taken .insertNotification [event.notification userId] } ∧
      (notifyUser event (shown, services) userId).2.down = services.down := by
  refine ⟨?_, services.insertNotification_ledger _, services.changeStore_down .insertNotification
    (fun store => store.insertNotification (event.notification userId))⟩
  have shows := services.changeStore_fst .insertNotification
    (fun store => store.insertNotification (event.notification userId))
  unfold notifyUser taken
  dsimp only
  rw [shows]
  split <;> rfl

theorem foldl_notifyUser_ledger (event : TriggerEvent) (users : List String) (shown : Nat)
    (services : Services) :
    (users.foldl (notifyUser event) (shown, services)).1 =
        shown + (services.taken .insertNotification users).length ∧
      (users.foldl (notifyUser event) (shown, services)).2.ledger =
        { services.ledger with
          notifications := services.ledger.notifications ++
            services.taken .insertNotification (users.map event.notification) } ∧
      (users.foldl (notifyUser event) (shown, services)).2.down = services.down := by
  induction users generalizing shown services with
  | nil => simp [taken]
  | cons user rest induction =>
      have first := notifyUser_ledger event shown services user
      rw [List.foldl_cons]
      generalize notifyUser event (shown, services) user = middle at first ⊢
      rcases first with ⟨one, notified, down⟩
      rcases induction middle.1 middle.2 with ⟨total, ledger, stillDown⟩
      refine ⟨?_, ?_, stillDown.trans down⟩
      · rw [total, one, taken_of_down down, Nat.add_assoc, ← List.length_append, ← taken_append,
          List.singleton_append]
      · rw [ledger, notified, taken_of_down down]
        simp only [List.append_assoc, ← taken_append, List.singleton_append, List.map_cons]

/-- Each user is notified once. -/
theorem notifyUsers_ledger (services : Services) (dispatch : Dispatch) :
    (services.notifyUsers dispatch).1 =
        { dispatch with report := { dispatch.report with
            notifications := (services.taken .insertNotification dispatch.users).length } } ∧
      (services.notifyUsers dispatch).2.ledger =
        { services.ledger with
          notifications := services.ledger.notifications ++
            services.taken .insertNotification
              (dispatch.users.map dispatch.event.notification) } ∧
      (services.notifyUsers dispatch).2.down = services.down := by
  rcases foldl_notifyUser_ledger dispatch.event dispatch.users 0 services with
    ⟨total, ledger, down⟩
  refine ⟨?_, ledger, down⟩
  rw [Nat.zero_add] at total
  simp only [notifyUsers]
  rw [total]

theorem auditDelivery_ledger (event : TriggerEvent) (now : Instant) (report : DispatchReport)
    (services : Services) (delivery : WebhookTarget × Webhook.DeliveryOutcome) :
    (auditDelivery event now (report, services) delivery).1 =
        { report with
          webhooksDelivered := report.webhooksDelivered + delivery.2.error.isNone.toNat
          webhooksFailed := report.webhooksFailed + delivery.2.error.isSome.toNat } ∧
      (auditDelivery event now (report, services) delivery).2.ledger =
        { services.ledger with
          deliveries := services.ledger.deliveries ++
            services.taken .recordDelivery [event.audit delivery.1 delivery.2 now] } ∧
      (auditDelivery event now (report, services) delivery).2.down = services.down := by
  refine ⟨?_, services.recordDelivery_ledger _, services.changeStore_down .recordDelivery
    (fun store => store.recordDelivery (event.audit delivery.1 delivery.2 now))⟩
  unfold auditDelivery
  cases delivery.2.error <;> rfl

theorem foldl_auditDelivery_ledger (event : TriggerEvent) (now : Instant)
    (deliveries : List (WebhookTarget × Webhook.DeliveryOutcome)) (report : DispatchReport)
    (services : Services) :
    (deliveries.foldl (auditDelivery event now) (report, services)).1 =
        { report with
          webhooksDelivered := report.webhooksDelivered +
            deliveries.countP (fun delivery => delivery.2.error.isNone)
          webhooksFailed := report.webhooksFailed +
            deliveries.countP (fun delivery => delivery.2.error.isSome) } ∧
      (deliveries.foldl (auditDelivery event now) (report, services)).2.ledger =
        { services.ledger with
          deliveries := services.ledger.deliveries ++ services.taken .recordDelivery
            (deliveries.map (fun delivery => event.audit delivery.1 delivery.2 now)) } ∧
      (deliveries.foldl (auditDelivery event now) (report, services)).2.down =
        services.down := by
  induction deliveries generalizing report services with
  | nil => simp [taken]
  | cons delivery rest induction =>
      have first := auditDelivery_ledger event now report services delivery
      rw [List.foldl_cons]
      generalize auditDelivery event now (report, services) delivery = middle at first ⊢
      rcases first with ⟨one, audited, down⟩
      rcases induction middle.1 middle.2 with ⟨counted, ledger, stillDown⟩
      refine ⟨?_, ?_, stillDown.trans down⟩
      · rw [counted, one, List.countP_cons, List.countP_cons]
        cases delivery.2.error <;> simp [Nat.add_assoc, Nat.add_comm 1]
      · rw [ledger, audited, taken_of_down down]
        simp only [List.append_assoc, ← taken_append, List.singleton_append, List.map_cons]

/-- Each delivery is audited once, and counted as delivered or as failed. -/
theorem finishDispatch_ledger (services : Services) (dispatch : Dispatch)
    {outcomes : List Webhook.DeliveryOutcome} (each : outcomes.length = dispatch.webhooks.length)
    (now : Instant) :
    (services.finishDispatch dispatch outcomes now).1 =
        { dispatch.report with
          webhooksDelivered := dispatch.report.webhooksDelivered +
            outcomes.countP (fun outcome => outcome.error.isNone)
          webhooksFailed := dispatch.report.webhooksFailed +
            outcomes.countP (fun outcome => outcome.error.isSome) } ∧
      (services.finishDispatch dispatch outcomes now).2.ledger =
        { services.ledger with
          deliveries := services.ledger.deliveries ++ services.taken .recordDelivery
            (List.zipWith (fun target outcome => dispatch.event.audit target outcome now)
              dispatch.webhooks outcomes) } := by
  rcases foldl_auditDelivery_ledger dispatch.event now (dispatch.webhooks.zip outcomes)
    dispatch.report services with ⟨counted, audited, -⟩
  have counts (counted : Webhook.DeliveryOutcome → Bool) :
      (dispatch.webhooks.zip outcomes).countP (fun delivery => counted delivery.2) =
        outcomes.countP counted := by
    have snd := List.map_snd_zip (Nat.le_of_eq each)
    rw [← congrArg (List.countP counted) snd, List.countP_map]
    rfl
  rw [counts (fun outcome => outcome.error.isNone), counts (fun outcome => outcome.error.isSome)]
    at counted
  rw [List.map_zip_eq_zipWith] at audited
  simp only [finishDispatch]
  generalize (dispatch.webhooks.zip outcomes).foldl (auditDelivery dispatch.event now)
    (dispatch.report, services) = state at counted audited ⊢
  rcases state with ⟨report, middle⟩
  rcases exists_touchSubscriptions now dispatch.subscriptionIds
    { middle with registry := middle.registry.touchSubscriptions dispatch.event.conditionId now }
    with ⟨subscriptions, touched⟩
  dsimp only at touched ⊢
  rw [touched]
  exact ⟨counted, audited⟩

end Services

end CandleAlerts
