import CandleAlerts.Dispatch.Basic
import CandleAlerts.Evaluation.Group
import CandleAlerts.Market.Exchange
import CandleAlerts.Proofs.DispatchLaws
import CandleAlerts.Proofs.EventTexts
import CandleAlerts.Proofs.GroupSnapshotLaws
import CandleAlerts.Services.BotRouter

/-!
Events on their way to the queues of bots.

What fires on candles of an exchange tells the last of them, and its time is a word. Dispatching
gives the event its bots and the instant it is published at, and the router reads it back from the
text that was published. An alert looks at some values of a bar only, but the event carries them
all: a value that is not finite, though the alert never looked at it, keeps the event from every
bot.
-/

namespace CandleAlerts

/-! ## Candles of an exchange -/

theorem Json.holds_of_int64? {value : Json} {word : Int} (isRead : value.int64? = some word) :
    Word.Holds word := by
  unfold int64? int? at isRead
  split at isRead
  · split at isRead
    next holds =>
        cases isRead
        exact holds
    next => cases isRead
  · cases isRead

theorem Word.holds_tdiv {value : Int} (holds : Word.Holds value) {divisor : Int}
    (positive : 0 < divisor) : Word.Holds (value.tdiv divisor) := by
  have shorter := Int.natAbs_tdiv_le_natAbs value divisor
  unfold Word.Holds Word.least Word.greatest at *
  rcases Int.le_total 0 value with above | below
  · omega
  · -- The least word has no counterpart above, but a quotient of it is not above zero.
    have notBelow : 0 ≤ (-value).tdiv divisor :=
      Int.tdiv_nonneg (Int.neg_nonneg_of_nonpos below) (Int.le_of_lt positive)
    rw [Int.neg_tdiv] at notBelow
    omega

/-- The times of an exchange's candles are words. -/
theorem Exchange.holds_of_mem {rows : List Json} {candle : Candle}
    (among : candle ∈ candlesOf rows) : Word.Holds candle.time := by
  rw [candlesOf, List.mem_mergeSort] at among
  rcases List.mem_filterMap.1 among with ⟨row, -, isRead⟩
  unfold candle? at isRead
  split at isRead
  · obtain ⟨milliseconds, timeRead, isRead⟩ := Option.bind_eq_some_iff.1 isRead
    iterate 5 rcases Option.bind_eq_some_iff.1 isRead with ⟨_, -, isRead⟩
    cases isRead
    exact Word.holds_tdiv (Json.holds_of_int64? timeRead) (by decide)
  · cases isRead

/-! ## Events that fire -/

/-- An alert that fires tells the bar it was evaluated on. -/
theorem Alert.event_of_pass {alert : Alert} {snapshot : Snapshot} {bar : Candle} {now : Instant}
    {runtime : AlertRuntime} {event : TriggerEvent}
    (sent : (alert.pass snapshot bar now runtime).event = some event) :
    event = .of alert bar (alert.evaluate snapshot runtime.latches now) now := by
  simp only [pass] at sent
  split at sent
  · cases sent
  · split at sent
    · exact (Option.some.inj sent).symm
    · cases sent

/-- Whether all that fired tells one bar. -/
def MembersPass.Told (bar : Candle) (now : Instant) (pass : MembersPass) : Prop :=
  ∀ one ∈ pass.fired, ∃ outcome, one.event = .of one.alert bar outcome now

theorem MembersPass.Told.visit {bar : Candle} {now : Instant} {pass : MembersPass}
    (told : pass.Told bar now) (snapshot : Snapshot) (member : Registered) :
    (pass.visit snapshot bar now member).Told bar now := by
  intro one listed
  rcases List.mem_append.1 listed with earlier | last
  · exact told one earlier
  · obtain ⟨event, sent, rfl⟩ := Option.map_eq_some_iff.1 (Option.mem_toList.1 last)
    exact ⟨_, Alert.event_of_pass sent⟩

theorem MembersPass.Told.foldl {bar : Candle} {now : Instant} (members : List Registered)
    {pass : MembersPass} (told : pass.Told bar now) (snapshot : Snapshot) :
    (members.foldl (MembersPass.visit snapshot bar now) pass).Told bar now := by
  induction members generalizing pass with
  | nil => exact told
  | cons member rest induction => exact induction (told.visit snapshot member)

/-- What fires in a group tells the last of the candles. -/
theorem Registry.exists_bar_of_passGroup {registry : Registry} {engine : IndicatorEngine}
    {group : Group} {candles : List Candle} {now : Instant} {reached : Registered → Bool}
    {fired : List Fired}
    (done : (registry.passGroup engine group (.ok candles) now reached).result = .ok fired) :
    ∀ one ∈ fired, ∃ bar ∈ candles, ∃ outcome, one.event = .of one.alert bar outcome now := by
  obtain ⟨snapshot, bar, view, -, -, rfl⟩ := exists_view_of_ok done
  have start : MembersPass.Told bar now { registry } := by
    intro one listed
    cases listed
  intro one listed
  exact ⟨bar, Group.mem_of_view view, start.foldl group.members snapshot one listed⟩

/-! ## Dispatching -/

theorem Targets.nodup_bots (alert : Alert) (subscriptions : List Subscription) (secret : String) :
    (Targets.of alert subscriptions secret).bots.Nodup :=
  nodup_eraseDups _

namespace Services

/-- Claims and storage have no part in what is published. -/
structure SamePublishing (before after : Services) : Prop where
  registry : after.registry = before.registry
  published : after.published = before.published
  down : after.down = before.down

theorem claim_samePublishing (services : Services) (key : String) (lifetime now : Nat) :
    SamePublishing services (services.claim key lifetime now).2 := by
  unfold claim
  split <;> exact ⟨rfl, rfl, rfl⟩

theorem changeStore_samePublishing (services : Services) (part : ServicePart)
    (change : Store → Store) : SamePublishing services (services.changeStore part change).2 := by
  unfold changeStore
  split <;> exact ⟨rfl, rfl, rfl⟩

theorem publish_published {services : Services} (working : services.works .publish = true)
    (message : Message) :
    (services.publish message).2.published = services.published ++ [message] := by
  rw [publish, if_pos working]

/-- A dispatch publishes the event with its bots, if the broker works. -/
theorem beginDispatch_published {services after : Services} {alert : Alert} {event : TriggerEvent}
    {secret : String} {now : Instant} {clock : Nat} {dispatch : Dispatch}
    (begun : services.beginDispatch alert event secret now clock = (some dispatch, after)) :
    dispatch.event = event.publishedFor
        (Targets.of alert (services.registry.activeSubscriptions event.conditionId) secret).bots
        now ∧
      (services.works .publish = true →
        after.published = services.published ++ [dispatch.event.toMessage]) := by
  have claimed := services.claim_samePublishing (dispatchKey event.eventId) dispatchMemory clock
  have cases := services.beginDispatch_cases alert event secret now clock
  generalize (services.claim (dispatchKey event.eventId) dispatchMemory clock).2 = claim
    at cases claimed
  rw [← claimed.registry]
  rcases cases with same | same
  · rw [same] at begun
    cases begun
  · rw [same] at begun
    cases begun
    refine ⟨rfl, ?_⟩
    intro working
    simp only [beginClaimed]
    generalize event.publishedFor
      (Targets.of alert (claim.registry.activeSubscriptions event.conditionId) secret).bots
      now = told
    have recorded := claim.changeStore_samePublishing .recordTrigger
      (fun store => store.recordTrigger told)
    rw [publish_published, recorded.published, claimed.published]
    rw [works, recorded.down, claimed.down]
    exact working

end Services

/-! ## Queueing -/

namespace Store

/-- Those of some bots that have no event of an id queued. -/
def unserved (store : Store) (eventId : String) (bots : List String) : List String :=
  bots.filter (fun bot => !store.isQueued bot eventId)

theorem unserved_cons_of_isQueued {store : Store} {bot eventId : String} (rest : List String)
    (isQueued : store.isQueued bot eventId = true) :
    store.unserved eventId (bot :: rest) = store.unserved eventId rest := by
  simp [unserved, isQueued]

theorem enqueueBot_of_isQueued {store : Store} {bot : String} {event : TriggerEvent}
    (isQueued : store.isQueued bot event.eventId = true) :
    store.enqueueBot bot event = (false, store) := by
  rw [enqueueBot, if_pos isQueued]

theorem enqueueBot_of_not_isQueued {store : Store} {bot : String} {event : TriggerEvent}
    (isNew : store.isQueued bot event.eventId = false) :
    store.enqueueBot bot event =
      (true, { store with botQueue := store.botQueue ++ [(bot, event)] }) := by
  rw [enqueueBot, isNew, if_neg Bool.false_ne_true]

/-- What is queued for one bot serves no other. -/
theorem unserved_cons_of_not_isQueued {store : Store} {bot : String} {event : TriggerEvent}
    {rest : List String} (isNew : store.isQueued bot event.eventId = false) (fresh : bot ∉ rest) :
    store.unserved event.eventId (bot :: rest) =
      bot :: (store.enqueueBot bot event).2.unserved event.eventId rest := by
  have others : ∀ other ∈ rest, (store.enqueueBot bot event).2.isQueued other event.eventId =
      store.isQueued other event.eventId := by
    intro other among
    have different : bot ≠ other := fun same => fresh (same ▸ among)
    rw [enqueueBot_of_not_isQueued isNew]
    simp [isQueued, different]
  unfold unserved
  rw [List.filter_cons_of_pos (by rw [isNew]; rfl)]
  exact congrArg (bot :: ·) (List.filter_congr (fun other among => by rw [others other among])).symm

end Store

namespace Services

/-- The event is queued for each bot that has none of its id yet. -/
theorem queueForBots_queue (event : TriggerEvent) {bots : List String} (distinct : bots.Nodup)
    (queued : Nat) (services : Services) (working : services.works .enqueueBotTrigger = true) :
    (queueForBots event queued services bots).2.store.botQueue =
      services.store.botQueue ++
        (services.store.unserved event.eventId bots).map (·, event) := by
  induction bots generalizing queued services with
  | nil => exact (List.append_nil _).symm
  | cons bot rest induction =>
      rcases List.nodup_cons.1 distinct with ⟨fresh, distinct⟩
      rw [queueForBots, if_pos working]
      cases before : services.store.isQueued bot event.eventId with
      | true =>
          rw [Store.enqueueBot_of_isQueued before, Store.unserved_cons_of_isQueued rest before]
          exact induction distinct queued services working
      | false =>
          have grown := induction distinct (queued + 1)
            (Services.count { services with store := (services.store.enqueueBot bot event).2 }
              .botTriggersQueued 1) working
          rw [Store.unserved_cons_of_not_isQueued before fresh, List.map_cons, List.append_cons]
          rw [Store.enqueueBot_of_not_isQueued before] at grown ⊢
          exact grown

theorem routePayload_queue {event : TriggerEvent} (distinct : event.botTargets.Nodup)
    {payload : String} (isRead : TriggerEvent.parse? payload = some event) {services : Services}
    (working : services.works .enqueueBotTrigger = true) :
    (services.routePayload payload).store.botQueue =
      services.store.botQueue ++
        (services.store.unserved event.eventId event.botTargets).map (·, event) := by
  rw [routePayload, isRead]
  exact queueForBots_queue event distinct 0 services working

theorem routePayload_eq_self {payload : String} (unread : TriggerEvent.parse? payload = none)
    (services : Services) : services.routePayload payload = services := by
  rw [routePayload, unread]

end Services

/-! ## From the candles to the bots -/

theorem TriggerEvent.Dated.publishedFor {event : TriggerEvent} (dated : event.Dated)
    (bots : List String) {now : Instant} (onCalendar : now.OnCalendar) :
    (event.publishedFor bots now).Dated where
  barTime := dated.barTime
  triggeredAt := dated.triggeredAt
  publishedAt instant held := by
    cases held
    exact onCalendar

/-- What fires on candles of an exchange has a bar time and instants that are read back. -/
theorem Registry.dated_of_passGroup {registry : Registry} {engine : IndicatorEngine}
    {group : Group} {rows : List Json} {now : Instant} (onCalendar : now.OnCalendar)
    {reached : Registered → Bool} {fired : List Fired}
    (done : (registry.passGroup engine group (.ok (Exchange.candlesOf rows)) now reached).result =
      .ok fired) :
    ∀ one ∈ fired, one.event.Dated := by
  intro one listed
  rcases exists_bar_of_passGroup done one listed with ⟨bar, among, outcome, isEvent⟩
  rw [isEvent]
  exact ⟨Exchange.holds_of_mem among, onCalendar, fun _ held => by cases held⟩

namespace Fired

/-- An event that fires on candles of an exchange is published with all its bots. If every value of
its bar is finite, the router reads that event back and queues it for each bot that has none of its
id; otherwise the router reads nothing and queues nothing. -/
theorem routed_iff_finite {rows : List Json} {registry : Registry} {engine : IndicatorEngine}
    {group : Group} {now : Instant} (onCalendar : now.OnCalendar) {reached : Registered → Bool}
    {fired : List Fired}
    (done : (registry.passGroup engine group (.ok (Exchange.candlesOf rows)) now reached).result =
      .ok fired)
    {one : Fired} (among : one ∈ fired)
    (keeps : ∀ double ∈ one.event.triggerValue.doubles, Json.KeepsDouble double)
    {services after : Services} {secret : String} {publishedAt : Instant}
    (published : publishedAt.OnCalendar) {clock : Nat} {dispatch : Dispatch}
    (begun : services.beginDispatch one.alert one.event secret publishedAt clock =
      (some dispatch, after)) :
    dispatch.event = one.event.publishedFor
        (Targets.of one.alert (services.registry.activeSubscriptions one.event.conditionId)
          secret).bots publishedAt ∧
      (services.works .publish = true →
        after.published = services.published ++ [dispatch.event.toMessage]) ∧
      (dispatch.event.triggerValue.IsFinite →
        TriggerEvent.parse? dispatch.event.toMessage.payload = some dispatch.event ∧
        ∀ router : Services, router.works .enqueueBotTrigger = true →
          (router.routePayload dispatch.event.toMessage.payload).store.botQueue =
            router.store.botQueue ++
              (router.store.unserved dispatch.event.eventId dispatch.event.botTargets).map
                (·, dispatch.event)) ∧
      (¬ dispatch.event.triggerValue.IsFinite →
        TriggerEvent.parse? dispatch.event.toMessage.payload = none ∧
        ∀ router : Services,
          router.routePayload dispatch.event.toMessage.payload = router) := by
  rcases Services.beginDispatch_published begun with ⟨isEvent, told⟩
  have dated : dispatch.event.Dated := by
    rw [isEvent]
    exact (Registry.dated_of_passGroup onCalendar done one among).publishedFor _ published
  have sameValue : dispatch.event.triggerValue = one.event.triggerValue := by
    rw [isEvent]
    rfl
  have distinct : dispatch.event.botTargets.Nodup := by
    rw [isEvent]
    exact Targets.nodup_bots _ _ _
  rcases TriggerEvent.parse?_text dated (by rw [sameValue]; exact keeps) with ⟨read, unread⟩
  have payload : dispatch.event.toMessage.payload = dispatch.event.text := rfl
  rw [payload]
  refine ⟨isEvent, told, ?_, ?_⟩
  · intro finite
    refine ⟨read finite, ?_⟩
    intro router working
    exact Services.routePayload_queue distinct (read finite) working
  · intro infinite
    exact ⟨unread infinite, Services.routePayload_eq_self (unread infinite)⟩

/-! An alert on the closing price, for a bot, on a bar whose volume the exchange may not know. -/

def botAlert : Alert :=
  { id := "a1", ownerId := "owner", symbol := "BTC", timeframe := .hour
    logic := .conditions
      [{ subject := .price .close, operator := .greater, comparand := .literal 1
         timeframe := .same, percentage := none }] .all
    fireMode := .perBar, action := .bot "b1" }

def rowOf (volume : String) : Json :=
  .array [.ofInt 3600000, .string "5", .string "6", .string "4", .string "5", .string volume]

def botGroup : Group :=
  { key := GroupKey.of botAlert, members := [{ alert := botAlert, cell := 0 }] }

def moment : Instant := { seconds := 1700000000, nanos := 0 }

def services : Services := { channel := { capacity := 16 } }

def firedOn (volume : String) : Except GroupFailure (List Fired) :=
  (Registry.passGroup {} (fun _ _ => none) botGroup (.ok (Exchange.candlesOf [rowOf volume]))
    moment (fun _ => true)).result

def dispatched (one : Fired) : Option Dispatch × Services :=
  services.beginDispatch one.alert one.event "secret" moment 0

/-- Whether just one event fires and is dispatched, and both are as they are checked to be. -/
def checks (volume : String) (check : Fired → Dispatch → Bool) : Bool :=
  match firedOn volume with
  | .ok [one] => one.dispatched.1.any (check one)
  | _ => false

theorem exists_of_checks {volume : String} {check : Fired → Dispatch → Bool}
    (holds : checks volume check = true) :
    ∃ one dispatch after, firedOn volume = .ok [one] ∧ one.dispatched = (some dispatch, after) ∧
      check one dispatch = true := by
  unfold checks at holds
  split at holds
  next one isFired =>
      rcases (Option.any_eq_true_iff_get _ _).1 holds with ⟨begun, checked⟩
      exact ⟨one, _, _, isFired, Prod.ext (Option.some_get begun).symm rfl, checked⟩
  next => cases holds

theorem moment_onCalendar : moment.OnCalendar := ⟨by decide, by decide, by decide, by decide⟩

theorem dated_of_dispatched {volume : String} {one : Fired} {dispatch : Dispatch}
    {after : Services} (isFired : firedOn volume = .ok [one])
    (begun : one.dispatched = (some dispatch, after)) : dispatch.event.Dated := by
  rw [(Services.beginDispatch_published begun).1]
  exact (Registry.dated_of_passGroup moment_onCalendar isFired one List.mem_cons_self).publishedFor
    _ moment_onCalendar

theorem unknown_volume_is_not_routed :
    ∃ one dispatch after, firedOn "NaN" = .ok [one] ∧ one.dispatched = (some dispatch, after) ∧
      dispatch.event.botTargets = ["b1"] ∧
      TriggerEvent.parse? dispatch.event.toMessage.payload = none ∧
      (services.routePayload dispatch.event.toMessage.payload).store.botQueue = [] := by
  obtain ⟨one, dispatch, after, isFired, begun, checked⟩ :
      ∃ one dispatch after, firedOn "NaN" = .ok [one] ∧ one.dispatched = (some dispatch, after) ∧
        decide (dispatch.event.botTargets = ["b1"] ∧
          (∀ double ∈ dispatch.event.triggerValue.doubles, Json.KeepsDouble double) ∧
          ¬ ∀ double ∈ dispatch.event.triggerValue.doubles, double.isFinite = true) = true :=
    exists_of_checks (by decide +kernel)
  rcases of_decide_eq_true checked with ⟨bots, keeps, infinite⟩
  have dated := dated_of_dispatched isFired begun
  have unread : TriggerEvent.parse? dispatch.event.toMessage.payload = none :=
    (TriggerEvent.parse?_text dated keeps).2 infinite
  refine ⟨one, dispatch, after, isFired, begun, bots, unread, ?_⟩
  rw [Services.routePayload_eq_self unread]
  rfl

theorem known_volume_is_routed :
    ∃ one dispatch after, firedOn "1.5" = .ok [one] ∧ one.dispatched = (some dispatch, after) ∧
      TriggerEvent.parse? dispatch.event.toMessage.payload = some dispatch.event ∧
      (services.routePayload dispatch.event.toMessage.payload).store.botQueue =
        [("b1", dispatch.event)] := by
  obtain ⟨one, dispatch, after, isFired, begun, checked⟩ :
      ∃ one dispatch after, firedOn "1.5" = .ok [one] ∧ one.dispatched = (some dispatch, after) ∧
        decide (dispatch.event.botTargets = ["b1"] ∧
          (∀ double ∈ one.event.triggerValue.doubles, Json.KeepsDouble double) ∧
          ∀ double ∈ dispatch.event.triggerValue.doubles, double.isFinite = true) = true :=
    exists_of_checks (by decide +kernel)
  rcases of_decide_eq_true checked with ⟨bots, keeps, finite⟩
  obtain ⟨-, -, routed, -⟩ := routed_iff_finite moment_onCalendar isFired
    List.mem_cons_self keeps moment_onCalendar begun
  rcases routed finite with ⟨read, queue⟩
  refine ⟨one, dispatch, after, isFired, begun, read, ?_⟩
  rw [queue services rfl, bots]
  rfl

end Fired

end CandleAlerts
