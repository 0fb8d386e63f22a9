import CandleAlerts.Proofs.ConcurrentEdits
import CandleAlerts.Proofs.PassCrashes
import CandleAlerts.Proofs.RefusedRequests
import CandleAlerts.Proofs.RoutedEvents

/-!
How long the claim on a dispatched event keeps it from being dispatched again.

When the state of an alert is lost, by deactivating and activating it or by a restart, the alert
fires again on a bar on which it had fired, and only the claim on the event is left to stop it. The
claim lasts for a day from the dispatch. So no event is dispatched again before its bar has ended if
bars of its timeframe last a day at most, and on any longer timeframe one can be.
-/

namespace CandleAlerts

/-! ## Claims of dispatches -/

namespace Services

/-- Dispatching a claimed event concerns storage and the broker. -/
theorem beginClaimed_apart (services : Services) (alert : Alert) (event : TriggerEvent)
    (secret : String) (now : Instant) :
    (services.beginClaimed alert event secret now).2.claims = services.claims ∧
      (services.beginClaimed alert event secret now).2.registry = services.registry ∧
      (services.beginClaimed alert event secret now).2.down = services.down := by
  simp only [beginClaimed, Services.changeStore, Services.publish]
  split <;> split <;> exact ⟨rfl, rfl, rfl⟩

/-- What beginning a dispatch does to the claims: an event whose claim is held is passed over, and
where claims work any other is claimed for a day, unless the clock runs out within it. -/
inductive ClaimedDispatch (services : Services) (event : TriggerEvent) (clock : Nat) :
    Option Dispatch × Services → Prop
  | held {after : Services}
      (claim : services.claims.holds (dispatchKey event.eventId) clock = true)
      (keeps : services.claims.Keeps clock after.claims) :
      ClaimedDispatch services event clock (none, after)
  | crashed {after : Services} (endless : Claims.clockEnd ≤ clock + dispatchMemory)
      (keeps : services.claims.Keeps clock after.claims) :
      ClaimedDispatch services event clock (none, after)
  | begun {dispatch : Dispatch} {after : Services}
      (keeps : services.claims.Keeps clock after.claims)
      (registry : after.registry = services.registry) (down : after.down = services.down)
      (claimed : services.works .claim = true →
        services.claims.holds (dispatchKey event.eventId) clock = false ∧
        after.claims.expiries.get? (dispatchKey event.eventId) = some (clock + dispatchMemory)) :
      ClaimedDispatch services event clock (some dispatch, after)

theorem beginDispatch_claims (services : Services) (alert : Alert) (event : TriggerEvent)
    (secret : String) (now : Instant) (clock : Nat) :
    ClaimedDispatch services event clock
      (services.beginDispatch alert event secret now clock) := by
  cases works : services.works .claim with
  | false =>
      simp only [beginDispatch, Services.claim, works, Bool.false_eq_true, if_false]
      rcases services.beginClaimed_apart alert event secret now with ⟨claims, registry, down⟩
      refine .begun ?_ registry down (by simp [works])
      rw [claims]
      exact .refl _
  | true =>
      simp only [beginDispatch, Services.claim, works, if_true]
      rcases services.claims.claim_cases (dispatchKey event.eventId) dispatchMemory clock with
        ⟨held, taken⟩ | ⟨free, -, claimed⟩ | ⟨-, endless, crashed⟩
      · rw [taken]
        exact .held held (.alive _)
      · rw [claimed]
        rcases beginClaimed_apart { services with claims := ⟨_⟩ } alert event secret now with
          ⟨claims, registry, down⟩
        refine .begun ?_ registry down ?_
        · rw [claims]
          exact .claimed _ free _
        · intro _
          rw [claims]
          exact ⟨free, Table.get?_insert_self _ _ _⟩
      · rw [crashed]
        exact .crashed endless (.alive _)

end Services

/-- Whatever is asked, claims that have not expired are kept. -/
theorem Api.Handled.keeps {settings : Api.Settings} {services : Services} {clock : Nat}
    {result : Api.Response × Services} (handled : Api.Handled settings services clock result) :
    services.claims.Keeps clock result.2.claims := by
  cases handled with
  | refused _ alike => exact .of_alive alike.alive
  | done _ claims =>
      dsimp only
      rw [claims]
      exact .refl _
  | accepted _ free => exact .claimed _ free _

/-! ## Runs -/

/-- The services, the groups that are still to be evaluated, what fired and is still to be
dispatched, and the time on the clock of claims. -/
structure AlertDesk where
  services : Services
  groups : List Group := []
  fired : List Fired := []
  clock : Nat := 0

/-- An event that was dispatched, and when. -/
structure Dispatched where
  event : TriggerEvent
  clock : Nat

/-- What a step did. -/
inductive DeskEvent where
  | dispatched (one : Dispatched) (claimed : Bool)
  | other

/-- The dispatch of an event that was claimed for it. -/
def DeskEvent.claimed? : DeskEvent → Option Dispatched
  | dispatched one true => some one
  | dispatched _ false | other => none

def claimedDispatches (events : List DeskEvent) : List Dispatched :=
  events.filterMap DeskEvent.claimed?

namespace AlertDesk

/-- The steps. The state of alerts is lost when they are deactivated and when the program is started
again; claims are kept through both. -/
inductive Step : AlertDesk → DeskEvent → AlertDesk → Prop
  | handedOut (desk : AlertDesk) :
      Step desk .other { desk with groups := desk.groups ++ desk.services.registry.groups }
  | evaluated (desk : AlertDesk) (group : Group) (before after : List Group)
      (engine : IndicatorEngine) (fetched : Except MissingData (List Candle)) (now : Instant)
      (reached : Registered → Bool) (waits : desk.groups = before ++ group :: after) :
      Step desk .other
        { desk with
          services :=
            { desk.services with
              registry :=
                (desk.services.registry.passGroup engine group fetched now reached).registry }.note
              (desk.services.registry.passGroup engine group fetched now reached).journal
          groups := before ++ after
          fired := desk.fired ++
            (desk.services.registry.passGroup engine group fetched now reached).fired }
  | dispatched (desk : AlertDesk) (one : Fired) (before after : List Fired) (secret : String)
      (now : Instant) {dispatch : Dispatch} {services : Services}
      (waits : desk.fired = before ++ one :: after)
      (begun : desk.services.beginDispatch one.alert one.event secret now desk.clock =
        (some dispatch, services)) :
      Step desk (.dispatched ⟨one.event, desk.clock⟩ (desk.services.works .claim))
        { desk with services, fired := before ++ after }
  | duplicate (desk : AlertDesk) (one : Fired) (before after : List Fired) (secret : String)
      (now : Instant) {services : Services} (waits : desk.fired = before ++ one :: after)
      (begun : desk.services.beginDispatch one.alert one.event secret now desk.clock =
        (none, services)) :
      Step desk .other { desk with services, fired := before ++ after }
  | changed (desk : AlertDesk) {after : Registry} (change : desk.services.registry.Change after) :
      Step desk .other { desk with services := { desk.services with registry := after } }
  | requested (desk : AlertDesk) (settings : Api.Settings) (request : Api.Request) (now : Int) :
      Step desk .other
        { desk with services := (Api.handle settings desk.services request now desk.clock).2 }
  | restarted (desk : AlertDesk) :
      Step desk .other
        { desk with
          services := { desk.services with registry := {} }
          groups := []
          fired := [] }
  | waited (desk : AlertDesk) (time : Nat) :
      Step desk .other { desk with clock := desk.clock + time }
  | failed (desk : AlertDesk) (down : List ServicePart) :
      Step desk .other { desk with services := { desk.services with down } }
  | elsewhere (desk : AlertDesk) {after : Services}
      (undisturbed : Services.Undisturbed (fun _ => True) desk.services after) :
      Step desk .other { desk with services := after }

abbrev Run := StepRun Step

/-- What is known after some claimed dispatches: events tell what fired, a claim lasts for a day from
its dispatch, and so two dispatches of one event are a day apart. -/
structure Sound (past : List Dispatched) (desk : AlertDesk) : Prop where
  tells : ∀ one ∈ desk.fired, ∃ pair, one.event.Tells pair
  pastTells : ∀ one ∈ past, ∃ pair, one.event.Tells pair
  passed : ∀ one ∈ past, one.clock ≤ desk.clock
  claimed : ∀ one ∈ past, desk.clock < one.clock + dispatchMemory →
    desk.services.claims.expiries.get? (dispatchKey one.event.eventId) =
      some (one.clock + dispatchMemory)
  apart : past.Pairwise (fun first later => first.event.eventId = later.event.eventId →
    first.clock + dispatchMemory ≤ later.clock)

namespace Sound

variable {past : List Dispatched} {desk next : AlertDesk}

theorem start (services : Services) (clock : Nat) : Sound [] { services, clock } where
  tells _ member := by cases member
  pastTells _ member := by cases member
  passed _ member := by cases member
  claimed _ member := by cases member
  apart := .nil

/-- A step that dispatches nothing keeps this up if it keeps claims. -/
theorem of_keeps (sound : Sound past desk)
    (keeps : desk.services.claims.Keeps desk.clock next.services.claims)
    (tells : ∀ one ∈ next.fired, ∃ pair, one.event.Tells pair) (clock : desk.clock ≤ next.clock) :
    Sound past next where
  tells := tells
  pastTells := sound.pastTells
  passed one member := Nat.le_trans (sound.passed one member) clock
  claimed one member lasts := by
    have lasted : desk.clock < one.clock + dispatchMemory := Nat.lt_of_le_of_lt clock lasts
    exact keeps _ _ (sound.claimed one member lasted) lasted
  apart := sound.apart

end Sound

theorem tells_of_passGroup (registry : Registry) (engine : IndicatorEngine) (group : Group)
    (fetched : Except MissingData (List Candle)) (now : Instant) (reached : Registered → Bool) :
    ∀ one ∈ (registry.passGroup engine group fetched now reached).fired,
      ∃ pair, one.event.Tells pair := by
  intro one member
  simp only [GroupPass.fired] at member
  cases result : (registry.passGroup engine group fetched now reached).result with
  | error failure =>
      rw [result] at member
      cases member
  | ok fired =>
      rw [result] at member
      cases fetched with
      | error missing => cases result
      | ok candles =>
          rcases Registry.exists_bar_of_passGroup result one member with ⟨bar, -, outcome, same⟩
          rw [same]
          exact ⟨(one.alert.id, bar.time), rfl, rfl, rfl⟩

/-- What is left to dispatch after one event was taken out told what fired before. -/
theorem Sound.tells_rest {past : List Dispatched} {desk : AlertDesk} (sound : Sound past desk)
    {one : Fired} {before after : List Fired} (waits : desk.fired = before ++ one :: after) :
    ∀ rest ∈ before ++ after, ∃ pair, rest.event.Tells pair :=
  fun rest member => sound.tells rest (mem_of_mem_rest waits member)

/-- A dispatch whose event was claimed comes a day after the last of the same event. -/
theorem Sound.dispatch {past : List Dispatched} {desk : AlertDesk} (sound : Sound past desk)
    {one : Fired} {before after : List Fired} (waits : desk.fired = before ++ one :: after)
    {services : Services} (keeps : desk.services.claims.Keeps desk.clock services.claims)
    (free : desk.services.claims.holds (dispatchKey one.event.eventId) desk.clock = false)
    (claimed : services.claims.expiries.get? (dispatchKey one.event.eventId) =
      some (desk.clock + dispatchMemory)) :
    Sound (past ++ [⟨one.event, desk.clock⟩])
      { desk with services, fired := before ++ after } := by
  have kept : Sound past { desk with services, fired := before ++ after } :=
    sound.of_keeps keeps (sound.tells_rest waits) (Nat.le_refl _)
  have told : ∃ pair, one.event.Tells pair := sound.tells one (by simp [waits])
  refine ⟨kept.tells, ?_, ?_, ?_, ?_⟩
  · intro other member
    rcases List.mem_append.1 member with earlier | last
    · exact kept.pastTells other earlier
    · rw [List.mem_singleton.1 last]
      exact told
  · intro other member
    rcases List.mem_append.1 member with earlier | last
    · exact kept.passed other earlier
    · rw [List.mem_singleton.1 last]
  · intro other member
    rcases List.mem_append.1 member with earlier | last
    · exact kept.claimed other earlier
    · rw [List.mem_singleton.1 last]
      exact fun _ => claimed
  · refine List.pairwise_append.2 ⟨sound.apart, List.pairwise_singleton _ _, ?_⟩
    intro first earlier later last
    rw [List.mem_singleton.1 last]
    intro same
    apply Nat.not_lt.1
    intro lasts
    have held := (Claims.holds_iff desk.services.claims _ desk.clock).2
      ⟨_, sound.claimed first earlier lasts, lasts⟩
    dsimp only at same
    rw [same, free] at held
    cases held

theorem Step.sound {desk next : AlertDesk} {event : DeskEvent} (step : Step desk event next)
    {past : List Dispatched} (sound : Sound past desk) :
    Sound (past ++ event.claimed?.toList) next := by
  cases step with
  | dispatched one before after secret now waits begun =>
      have claims :=
        desk.services.beginDispatch_claims one.alert one.event secret now desk.clock
      rw [begun] at claims
      cases claims with
      | begun keeps _ _ claimed =>
          cases works : desk.services.works .claim with
          | true => exact sound.dispatch waits keeps (claimed works).1 (claimed works).2
          | false =>
              simp only [DeskEvent.claimed?, Option.toList_none, List.append_nil]
              exact sound.of_keeps keeps (sound.tells_rest waits) (Nat.le_refl _)
  | duplicate one before after secret now waits begun =>
      simp only [DeskEvent.claimed?, Option.toList_none, List.append_nil]
      have claims :=
        desk.services.beginDispatch_claims one.alert one.event secret now desk.clock
      rw [begun] at claims
      cases claims with
      | held _ keeps | crashed _ keeps =>
          exact sound.of_keeps keeps (sound.tells_rest waits) (Nat.le_refl _)
  | evaluated group before after engine fetched now reached waits =>
      simp only [DeskEvent.claimed?, Option.toList_none, List.append_nil]
      refine sound.of_keeps (.refl _) ?_ (Nat.le_refl _)
      intro one member
      rcases List.mem_append.1 member with earlier | fired
      · exact sound.tells one earlier
      · exact tells_of_passGroup _ engine group fetched now reached one fired
  | requested settings request now =>
      simp only [DeskEvent.claimed?, Option.toList_none, List.append_nil]
      exact sound.of_keeps (Api.handle_handled desk.services).keeps sound.tells (Nat.le_refl _)
  | restarted =>
      simp only [DeskEvent.claimed?, Option.toList_none, List.append_nil]
      exact sound.of_keeps (.refl _) (fun _ member => by cases member) (Nat.le_refl _)
  | waited time =>
      simp only [DeskEvent.claimed?, Option.toList_none, List.append_nil]
      exact sound.of_keeps (.refl _) sound.tells (Nat.le_add_right _ _)
  | elsewhere undisturbed =>
      simp only [DeskEvent.claimed?, Option.toList_none, List.append_nil]
      refine sound.of_keeps ?_ sound.tells (Nat.le_refl _)
      dsimp only
      rw [undisturbed.claims]
      exact .refl _
  | handedOut | changed | failed =>
      simp only [DeskEvent.claimed?, Option.toList_none, List.append_nil]
      exact sound.of_keeps (.refl _) sound.tells (Nat.le_refl _)

theorem claimedDispatches_snoc (events : List DeskEvent) (event : DeskEvent) :
    claimedDispatches (events ++ [event]) = claimedDispatches events ++ event.claimed?.toList := by
  rw [claimedDispatches, List.filterMap_append]
  cases claimed : event.claimed? with
  | none => simp [claimedDispatches, claimed]
  | some one => simp [claimedDispatches, claimed]

theorem Run.sound {start final : AlertDesk} {events : List DeskEvent} (run : Run start events final)
    (sound : Sound [] start) : Sound (claimedDispatches events) final := by
  induction run with
  | nil => exact sound
  | snoc rest step induction =>
      rw [claimedDispatches_snoc]
      exact step.sound induction

/-! ## An alert that is activated again -/

/-- An alert on bars of any length. -/
def watch (timeframe : Timeframe) : Alert :=
  { id := "a1", ownerId := "owner", symbol := "BTC", timeframe
    logic := .conditions
      [{ subject := .price .close, operator := .greater, comparand := .literal 1
         timeframe := .same, percentage := none }] .all
    fireMode := .perBar, action := .nothing }

def watchGroup (timeframe : Timeframe) (place : Nat) : Group where
  key := GroupKey.of (watch timeframe)
  members := [⟨watch timeframe, place⟩]

/-- What the alert reads of its market: one bar. -/
def watchSnapshot (timeframe : Timeframe) : Snapshot :=
  .ofFrame "BTC" { timeframe, candles := [SharedAlerts.barAt 0] }

def watchEvent (timeframe : Timeframe) (latches : Latches) (now : Instant) : TriggerEvent :=
  .of (watch timeframe) (SharedAlerts.barAt 0)
    ((watch timeframe).evaluate (watchSnapshot timeframe) latches now) now

/-- Whether the alert is the only one registered, and at which place. -/
def Watches (timeframe : Timeframe) (place : Nat) (registry : Registry) : Prop :=
  registry.alerts = Table.empty.insert "a1" ⟨watch timeframe, place⟩

section Watching

variable (timeframe : Timeframe)

theorem ofGroup_watch :
    Snapshot.ofGroup (fun _ _ => none) (GroupKey.of (watch timeframe)) [watch timeframe]
      [SharedAlerts.barAt 0] = (watchSnapshot timeframe, []) := by
  simp [Snapshot.ofGroup, watch, neededTimeframes, neededIndicators, Alert.requiredTimeframes,
    Alert.requiredIndicators, GroupKey.of, Snapshot.framesOf, Snapshot.compute, Alert.conditions,
    List.eraseDups_cons, TimeframeChoice.resolve, Snapshot.withTimeframe, Condition.indicators,
    List.eraseDupsBy, List.eraseDupsBy.loop, watchSnapshot]

theorem watch_triggers (latches : Latches) (now : Instant) :
    ((watch timeframe).evaluate (watchSnapshot timeframe) latches now).triggered = true := by
  have found : (watchSnapshot timeframe).frame? timeframe =
      some { timeframe, candles := [SharedAlerts.barAt 0] } := by
    simp [watchSnapshot, Snapshot.frame?, Snapshot.ofFrame]
  have satisfied : Frame.satisfies { timeframe, candles := [SharedAlerts.barAt 0] }
      { subject := .price .close, operator := .greater, comparand := .literal 1
        timeframe := .same, percentage := none } = .ok true := rfl
  have base : (watchSnapshot timeframe).base = timeframe := rfl
  simp [watch, Alert.evaluate, Alert.join, joinConditions, Snapshot.evaluate, Snapshot.satisfies,
    TimeframeChoice.resolve, LogicOutcome.note, base, found, satisfied]

/-- Where it has not fired, the alert fires. -/
theorem watch_fires {runtime : AlertRuntime} (fresh : runtime.lastFiredAt = none) (now : Instant) :
    ((watch timeframe).pass (watchSnapshot timeframe) (SharedAlerts.barAt 0) now runtime).event =
      some (watchEvent timeframe runtime.latches now) := by
  have triggers := watch_triggers timeframe runtime.latches now
  rw [← Alert.pass_triggered _ _ (SharedAlerts.barAt 0)] at triggers
  cases (watch timeframe).pass_result (watchSnapshot timeframe) (SharedAlerts.barAt 0) now
    runtime with
  | quiet triggered =>
      rw [triggered] at triggers
      cases triggers
  | suppressed _ _ before =>
      rw [fresh] at before
      cases before
  | fired _ event sent =>
      rw [sent, Alert.event_of_pass sent]
      rfl

theorem passGroup_watch (place : Nat) {registry : Registry}
    (fresh : (registry.cell place).lastFiredAt = none) (now : Instant) :
    (registry.passGroup (fun _ _ => none) (watchGroup timeframe place)
        (.ok [SharedAlerts.barAt 0]) now (fun _ => true)).fired =
      [⟨watch timeframe, watchEvent timeframe (registry.cell place).latches now⟩] ∧
    (registry.passGroup (fun _ _ => none) (watchGroup timeframe place)
        (.ok [SharedAlerts.barAt 0]) now (fun _ => true)).registry.alerts = registry.alerts := by
  have fires := watch_fires timeframe fresh now
  have survives : registry.allSurvive (watchGroup timeframe place) (watchSnapshot timeframe) now =
      true :=
    Registry.allSurvive_of_conditions (by simp [watchGroup, watch]) _ now
  have completed := Registry.completed_of_allSurvive survives (fun _ => true)
  simp only [GroupPass.fired, Registry.passGroup, Registry.passCandles, watchGroup] at *
  simp [ofGroup_watch, completed, survives, Registry.passMembers, MembersPass.conclude,
    MembersPass.visit, fires, Registry.setCell]

theorem groups_of_watches {place : Nat} {registry : Registry}
    (watches : Watches timeframe place registry) :
    registry.groups = [watchGroup timeframe place] := by
  have entries : registry.alerts.entries = [("a1", ⟨watch timeframe, place⟩)] := by
    rw [watches]
    rfl
  exact Registry.groups_of_single entries

/-- An alert that is activated where none is registered begins anew. -/
theorem activate_watch {registry : Registry} (unregistered : registry.alerts = Table.empty) :
    Watches timeframe registry.cells.size (registry.activate (watch timeframe) none).2 ∧
      ((registry.activate (watch timeframe) none).2.cell registry.cells.size).lastFiredAt =
        none := by
  have absent : (registry.markChanged (watch timeframe).id).get? (watch timeframe).id = none := by
    simp [Registry.get?, Registry.markChanged, unregistered]
  rw [Registry.activate, Registry.upsert_of_absent absent]
  constructor
  · simp [Watches, Registry.register, Registry.markChanged, unregistered]
    rfl
  · rw [Registry.cell_register]
    simp [Registry.markChanged]

theorem deactivate_watch {place : Nat} {registry : Registry}
    (watches : Watches timeframe place registry) :
    (registry.deactivate "a1").2.alerts = Table.empty := by
  simp only [Registry.deactivate]
  rw [watches]
  rfl

/-- The alert is handed out and evaluated. -/
theorem evaluate_watch {services : Services} {place clock : Nat}
    (watches : Watches timeframe place services.registry)
    (fresh : (services.registry.cell place).lastFiredAt = none) :
    ∃ latches now evaluated,
      Run { services, clock } [.other, .other]
        { services := evaluated
          fired := [⟨watch timeframe, watchEvent timeframe latches now⟩], clock } ∧
      Watches timeframe place evaluated.registry ∧ evaluated.claims = services.claims ∧
      evaluated.down = services.down := by
  rcases passGroup_watch timeframe place fresh ⟨0, 0⟩ with ⟨fired, alerts⟩
  have handed := Step.handedOut { services, clock }
  rw [groups_of_watches timeframe watches] at handed
  have evaluated := Step.evaluated
    { services, groups := [watchGroup timeframe place], clock } (watchGroup timeframe place) [] []
    (fun _ _ => none) (.ok [SharedAlerts.barAt 0]) ⟨0, 0⟩ (fun _ => true) rfl
  rw [fired] at evaluated
  exact ⟨_, _, _, (StepRun.single handed).snoc evaluated, alerts.trans watches, rfl, rfl⟩

end Watching

/-- An event whose claim is free is dispatched. -/
theorem dispatch_free {services : Services} {clock : Nat} (one : Fired)
    (ends : clock + dispatchMemory < Claims.clockEnd) (works : services.works .claim = true)
    (free : services.claims.holds (dispatchKey one.event.eventId) clock = false) :
    ∃ after,
      Run { services, fired := [one], clock } [.dispatched ⟨one.event, clock⟩ true]
        { services := after, clock } ∧
      after.registry = services.registry ∧ after.down = services.down ∧
      after.claims.expiries.get? (dispatchKey one.event.eventId) =
        some (clock + dispatchMemory) := by
  have claims := services.beginDispatch_claims one.alert one.event "" ⟨0, 0⟩ clock
  generalize began : services.beginDispatch one.alert one.event "" ⟨0, 0⟩ clock = result at claims
  cases claims with
  | held claim =>
      rw [free] at claim
      cases claim
  | crashed endless => exact absurd ends (Nat.not_lt.2 endless)
  | @begun dispatch after _ registry down claimed =>
      have dispatched := Step.dispatched { services, fired := [one], clock } one [] [] "" ⟨0, 0⟩ rfl
        began
      rw [works] at dispatched
      exact ⟨after, .single dispatched, registry, down, (claimed works).2⟩

/-- The alert is activated where none is registered, evaluated, and dispatched after some time. -/
theorem run_watch (timeframe : Timeframe) {services : Services} {clock : Nat} (time : Nat)
    (ends : clock + time + dispatchMemory < Claims.clockEnd)
    (unregistered : services.registry.alerts = Table.empty)
    (works : services.works .claim = true)
    (free : services.claims.holds (dispatchKey "a1:0") (clock + time) = false) :
    ∃ latches now place after events,
      Run { services, clock } events { services := after, clock := clock + time } ∧
      claimedDispatches events = [⟨watchEvent timeframe latches now, clock + time⟩] ∧
      Watches timeframe place after.registry ∧ after.works .claim = true ∧
      after.claims.expiries.get? (dispatchKey "a1:0") =
        some (clock + time + dispatchMemory) := by
  rcases activate_watch timeframe unregistered with ⟨watches, fresh⟩
  have activated := Step.changed { services, clock } (.activated (watch timeframe) none)
  rcases @evaluate_watch timeframe
    { services with registry := (services.registry.activate (watch timeframe) none).2 } _ clock
    watches fresh with ⟨latches, now, evaluated, fires, watches, claims, down⟩
  have waited := Step.waited
    { services := evaluated, fired := [⟨watch timeframe, watchEvent timeframe latches now⟩], clock }
    time
  have worksStill : evaluated.works .claim = true := by
    rw [Services.works, down]
    exact works
  rw [← claims] at free
  rcases dispatch_free ⟨watch timeframe, watchEvent timeframe latches now⟩ ends worksStill free with
    ⟨after, dispatched, registry, down, claimed⟩
  refine ⟨latches, now, services.registry.cells.size, after, _,
    (((StepRun.single activated).trans fires).snoc waited).trans dispatched, rfl, ?_, ?_, claimed⟩
  · rw [registry]
    exact watches
  · rw [Services.works, down]
    exact worksStill

/-- On bars of any length the alert is dispatched when it fires, and once more a day later if it was
deactivated and activated in between. -/
theorem dispatched_again_after_a_day (timeframe : Timeframe) :
    ∃ first again : TriggerEvent, ∃ events final,
      Run { services := { channel := { capacity := 1 } } } events final ∧
      claimedDispatches events = [⟨first, 0⟩, ⟨again, dispatchMemory⟩] ∧
      first.eventId = again.eventId ∧ again.timeframe = timeframe ∧ first.barTime = 0 ∧
      again.barTime = 0 := by
  rcases @run_watch timeframe { channel := { capacity := 1 } } 0 0 (by decide) rfl rfl rfl with
    ⟨latches, now, place, middle, before, begun, first, watches, works, claimed⟩
  have deactivated := Step.changed { services := middle } (.deactivated "a1")
  have free : middle.claims.holds (dispatchKey "a1:0") (0 + dispatchMemory) = false := by
    rw [← Bool.not_eq_true, Claims.holds_iff]
    rintro ⟨expiry, found, lasts⟩
    rw [claimed] at found
    cases found
    exact Nat.lt_irrefl _ lasts
  rcases @run_watch timeframe
    { middle with registry := (middle.registry.deactivate "a1").2 } 0 dispatchMemory (by decide)
    (deactivate_watch timeframe watches) works free with
    ⟨latchesAgain, nowAgain, -, final, after, ended, again, -, -, -⟩
  refine ⟨watchEvent timeframe latches now, watchEvent timeframe latchesAgain nowAgain, _, _,
    (begun.snoc deactivated).trans ended, ?_, rfl, rfl, rfl, rfl⟩
  simp only [claimedDispatches, List.filterMap_append] at first again ⊢
  rw [first, again]
  rfl

end AlertDesk

/-! ## The length of bars -/

namespace TriggerEvent

/-- The time of the calendar at which an event's bar opens, in nanoseconds. -/
def opens (event : TriggerEvent) : Int := event.barTime * Claims.second

/-- The time of the calendar at which an event's bar has ended, in nanoseconds. -/
def ends (event : TriggerEvent) : Int :=
  (event.barTime + event.timeframe.seconds) * Claims.second

/-- Events of one id tell of one bar. -/
theorem barTime_eq_of_eventId_eq {first second : TriggerEvent} {firstPair secondPair : String × Int}
    (firstTells : first.Tells firstPair) (secondTells : second.Tells secondPair)
    (same : first.eventId = second.eventId) : first.barTime = second.barTime := by
  rw [firstTells.eventId, secondTells.eventId] at same
  rw [firstTells.barTime, secondTells.barTime]
  exact (eventIdOf_inj.1 same).2

end TriggerEvent

namespace AlertDesk

/-- Whether no run dispatches an event of a timeframe twice before its bar has ended, where claims
work and no bar is dispatched before it opens. The clock showed zero at `origin`. -/
def DispatchesOncePerBar (timeframe : Timeframe) : Prop :=
  ∀ (origin : Int) (services : Services) (clock : Nat) (events : List DeskEvent)
    (final : AlertDesk), Run { services, clock } events final →
      (claimedDispatches events).Pairwise (fun first later =>
        first.event.eventId = later.event.eventId → later.event.timeframe = timeframe →
          first.event.opens ≤ origin + first.clock → later.event.ends ≤ origin + later.clock)

theorem not_once_on_longer_bars {timeframe : Timeframe}
    (longer : Timeframe.secondsPerDay < timeframe.seconds) : ¬ DispatchesOncePerBar timeframe := by
  intro once
  rcases dispatched_again_after_a_day timeframe with
    ⟨first, again, events, final, run, claimed, sameId, sameTimeframe, opened, openedAgain⟩
  have apart := once 0 { channel := { capacity := 1 } } 0 events final run
  rw [claimed, List.pairwise_pair] at apart
  have ended := apart sameId sameTimeframe (by simp [TriggerEvent.opens, opened])
  simp only [TriggerEvent.ends, openedAgain, sameTimeframe, dispatchMemory, Claims.second] at ended
  simp only [Timeframe.secondsPerDay] at longer
  omega

/-- However often the state of alerts is lost, no event is dispatched again before its bar has ended
if the bars of its timeframe last a day at most; on longer ones it can be. -/
theorem dispatches_once_per_bar_iff (timeframe : Timeframe) :
    DispatchesOncePerBar timeframe ↔ timeframe.seconds ≤ Timeframe.secondsPerDay := by
  constructor
  · intro once
    apply Nat.not_lt.1
    intro longer
    exact not_once_on_longer_bars longer once
  · intro short origin services clock events final run
    have sound := Run.sound run (.start services clock)
    refine sound.apart.imp_of_mem ?_
    intro first later firstMember laterMember apart same sameTimeframe opened
    rcases sound.pastTells first firstMember with ⟨firstPair, firstTells⟩
    rcases sound.pastTells later laterMember with ⟨laterPair, laterTells⟩
    have sameBar := TriggerEvent.barTime_eq_of_eventId_eq firstTells laterTells same
    have day := apart same
    simp only [TriggerEvent.opens, sameBar, Claims.second] at opened
    simp only [TriggerEvent.ends, sameTimeframe, Claims.second]
    simp only [dispatchMemory, Claims.second] at day
    simp only [Timeframe.secondsPerDay] at short
    omega

/-- Not every timeframe that can be read keeps events from being dispatched twice within a bar: a
week does not. -/
theorem weekly_event_dispatched_twice_in_a_bar :
    ¬ ∀ (text : String) (timeframe : Timeframe), Timeframe.parse? text = some timeframe →
      DispatchesOncePerBar timeframe := by
  intro once
  have week : Timeframe.parse? "1w" = some ⟨604800, by decide, by decide⟩ := by decide +kernel
  exact not_once_on_longer_bars (by decide) (once "1w" _ week)

end AlertDesk

end CandleAlerts
