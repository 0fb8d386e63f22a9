import CandleAlerts.Proofs.PassCrashes
import CandleAlerts.Proofs.TickRuns

/-!
What a tick comes to.

Every registered alert is in one group, the one of its own symbol and timeframe. A group that is
scanned and has candles makes of each of its alerts what it would by itself, and its events are
handed over; the alerts of groups without candles, and of groups that are not scanned, are left as
they are. When an evaluation crashes, its group fails and has no events, but those of its alerts
whose evaluations were completed have changed all the same. The report counts all of this.
-/

namespace CandleAlerts

/-- Whether an event is of an alert of a group. -/
def Fired.isOf (group : Group) (fired : Fired) : Bool := GroupKey.of fired.alert == group.key

/-- If only one value comes to anything, all together come to what it comes to. -/
theorem flatMap_of_only {α : Type u} {β : Type v} {values : List α} (once : values.Nodup)
    {value : α} (listed : value ∈ values) {outcome : α → List β}
    (others : ∀ other ∈ values, other ≠ value → outcome other = []) :
    values.flatMap outcome = outcome value := by
  rcases List.append_of_mem listed with ⟨before, after, rfl⟩
  rw [List.nodup_middle, List.nodup_cons] at once
  have nothing (some : List α) (among : ∀ other ∈ some, other ∈ before ++ after) :
      some.flatMap outcome = [] := by
    rw [List.flatMap_eq_nil_iff]
    intro other isOther
    have inRest := among other isOther
    apply others other
    · rw [List.mem_append, List.mem_cons]
      rcases List.mem_append.1 inRest with earlier | later
      · exact .inl earlier
      · exact .inr (.inr later)
    · rintro rfl
      exact once.1 inRest
  rw [List.flatMap_append, List.flatMap_cons,
    nothing before (fun other => List.mem_append_left after),
    nothing after (fun other => List.mem_append_right before), List.nil_append, List.append_nil]

namespace Simulation

namespace TickBasis

variable {basis : TickBasis} {heard : List Hearing}

/-! ## Sums over groups -/

/-- What is counted over all groups is counted over those that are scanned and over the others. -/
theorem sum_groups (count : Group → Nat) :
    (basis.origin.groups.map count).sum = (basis.scanned.map count).sum +
      ((basis.origin.groups.filter (fun group => !basis.scans group)).map count).sum := by
  rw [← List.sum_append, ← List.map_append]
  exact ((List.filter_append_perm basis.scans basis.origin.groups).symm.map count).sum_eq

/-- What is counted over all registered alerts is counted group by group. -/
theorem sum_alerts (count : Registered → Nat) :
    (basis.origin.alerts.values.map count).sum =
      (basis.origin.groups.map (fun group => (group.members.map count).sum)).sum := by
  rw [← (basis.origin.members_perm.map count).sum_eq, List.map_flatMap, List.flatMap_def,
    List.sum_flatten, List.map_map]
  rfl

/-! ## Events of groups -/

/-- The events of a group are of its own alerts. -/
theorem isOf_of_events {hearing : Hearing} (listed : hearing.group ∈ basis.origin.groups)
    {fired : Fired} (isEvent : fired ∈ basis.events hearing) (group : Group) :
    fired.isOf group = true ↔ hearing.group.key = group.key := by
  have own : GroupKey.of fired.alert = hearing.group.key := by
    unfold events TickBasis.fired at isEvent
    split at isEvent
    · cases isEvent
    · split at isEvent
      · cases isEvent
      · rcases List.mem_flatMap.1 isEvent with ⟨member, isCompleted, among⟩
        rcases Option.map_eq_some_iff.1 (Option.mem_toList.1 among) with ⟨event, -, rfl⟩
        exact Registry.key_of_member listed (mem_of_completed isCompleted)
  rw [Fired.isOf, own, beq_iff_eq]

/-- Together, the alerts of a group whose evaluations are completed count what fires. -/
theorem sum_firings_runtime (hearing : Hearing) :
    ((basis.completed hearing).map (fun member =>
        (basis.origin.cell member.cell).firings (basis.runtime hearing member))).sum =
      (basis.fired hearing).length := by
  cases view : basis.view? hearing with
  | none => simp [completed, fired, view]
  | some found =>
      simp only [runtime, fired, view]
      exact sum_firings _ _ _ _ _

theorem exists_completed_eq_filter (hearing : Hearing) :
    ∃ completes, basis.completed hearing = hearing.group.members.filter completes := by
  unfold completed Registry.completed
  split
  · exact ⟨fun _ => false, by simp⟩
  · split
    · exact ⟨fun _ => true, by simp⟩
    · exact ⟨_, rfl⟩

end TickBasis

namespace TickEnded

variable {basis : TickBasis} {heard : List Hearing} {tasks : List Task} {state : State}

/-- The groups that heard from the market are those that are scanned. -/
theorem groups_perm (ended : TickEnded basis heard tasks state) :
    (heard.map Hearing.group).Perm basis.scanned := by
  have places : (heard.map Hearing.place).Perm (List.range basis.scanned.length) := by
    rw [List.perm_ext_iff_of_nodup ended.asked.once List.nodup_range]
    intro place
    rw [List.mem_range, List.mem_map]
    constructor
    · rintro ⟨hearing, among, rfl⟩
      exact (List.getElem?_eq_some_iff.1 (ended.asked.groups hearing among)).1
    · exact ended.complete place
  have each : (heard.map Hearing.place).map (fun place => basis.scanned[place]?) =
      (heard.map Hearing.group).map some := by
    rw [List.map_map, List.map_map]
    exact List.map_congr_left ended.asked.groups
  have all : (List.range basis.scanned.length).map (fun place => basis.scanned[place]?) =
      basis.scanned.map some := by
    apply List.ext_getElem
    · simp
    · intro place within _
      simp
  have found := (places.map (fun place => basis.scanned[place]?)).filterMap id
  rw [each, all] at found
  simpa using found

/-- A group that heard from the market is one of those that are scanned. -/
theorem mem_groups (ended : TickEnded basis heard tasks state) {hearing : Hearing}
    (listed : hearing ∈ heard) :
    hearing.group ∈ basis.origin.groups ∧ basis.scans hearing.group = true := by
  have isScanned := ended.groups_perm.mem_iff.1 (List.mem_map_of_mem listed)
  exact List.mem_filter.1 isScanned

/-- The events of a group are those that its evaluation by itself comes to. -/
theorem filter_events (ended : TickEnded basis heard tasks state) {hearing : Hearing}
    (listed : hearing ∈ heard) :
    (heard.flatMap basis.events).filter (Fired.isOf hearing.group) = basis.events hearing := by
  have own : (basis.events hearing).filter (Fired.isOf hearing.group) = basis.events hearing :=
    List.filter_eq_self.2 (fun fired isEvent =>
      (TickBasis.isOf_of_events (ended.mem_groups listed).1 isEvent _).2 rfl)
  have once : (heard.map Hearing.group).Nodup :=
    ended.groups_perm.nodup_iff.2 TickBasis.nodup_scanned
  have others : ∀ other ∈ heard, other ≠ hearing →
      (basis.events other).filter (Fired.isOf hearing.group) = [] := by
    intro other isOther different
    rw [List.filter_eq_nil_iff]
    intro fired isEvent isOf
    have sameKey := (TickBasis.isOf_of_events (ended.mem_groups isOther).1 isEvent _).1 isOf
    have same := Registry.group_eq_of_key (ended.mem_groups isOther).1
      (ended.mem_groups listed).1 sameKey
    exact different (List.inj_on_of_nodup_map once isOther listed same)
  rw [List.filter_flatMap, flatMap_of_only (List.Nodup.of_map _ once) listed others, own]

/-- Nothing is emitted for a group that is not scanned. -/
theorem filter_events_of_unscanned (ended : TickEnded basis heard tasks state) {group : Group}
    (isGroup : group ∈ basis.origin.groups) (skips : basis.scans group = false) :
    (heard.flatMap basis.events).filter (Fired.isOf group) = [] := by
  rw [List.filter_eq_nil_iff]
  intro fired among isOf
  rcases List.mem_flatMap.1 among with ⟨hearing, listed, isEvent⟩
  rcases ended.mem_groups listed with ⟨isOther, scans⟩
  have same := Registry.group_eq_of_key isOther isGroup
    ((TickBasis.isOf_of_events isOther isEvent _).1 isOf)
  rw [same, skips] at scans
  cases scans

/-- The alerts of a group that is not scanned are as they were. -/
theorem cell_of_unscanned (ended : TickEnded basis heard tasks state) {group : Group}
    (isGroup : group ∈ basis.origin.groups) (skips : basis.scans group = false)
    {member : Registered} (isMember : member ∈ group.members) :
    state.services.registry.cell member.cell = basis.origin.cell member.cell := by
  apply ended.evaluated.others
  intro hearing listed other isOther sameCell
  rcases ended.mem_groups listed with ⟨isHeard, scans⟩
  have same := Registry.group_eq_of_cell basis.apart isHeard isGroup
    (TickBasis.mem_of_completed isOther) isMember sameCell
  rw [same, skips] at scans
  cases scans

/-- The alerts whose evaluations are not completed are as they were. -/
theorem cell_of_uncompleted (ended : TickEnded basis heard tasks state) {hearing : Hearing}
    (listed : hearing ∈ heard) {member : Registered} (isMember : member ∈ hearing.group.members)
    (uncompleted : member ∉ basis.completed hearing) :
    state.services.registry.cell member.cell = basis.origin.cell member.cell := by
  apply ended.evaluated.others
  intro other isOther another isCompleted sameCell
  rcases ended.mem_groups listed with ⟨isGroup, -⟩
  have isAnother := TickBasis.mem_of_completed isCompleted
  have sameGroup := Registry.group_eq_of_cell basis.apart (ended.mem_groups isOther).1 isGroup
    isAnother isMember sameCell
  have once : (heard.map Hearing.group).Nodup :=
    ended.groups_perm.nodup_iff.2 TickBasis.nodup_scanned
  obtain rfl := List.inj_on_of_nodup_map once isOther listed sameGroup
  have distinct := Registry.nodup_cells_of_group basis.apart isGroup
  obtain rfl := List.inj_on_of_nodup_map distinct isAnother isMember sameCell
  exact uncompleted isCompleted

/-! ## Counts -/

/-- Together, the alerts of a group count what fires, events or not. -/
theorem sum_firings_of_group (ended : TickEnded basis heard tasks state) {hearing : Hearing}
    (listed : hearing ∈ heard) :
    (hearing.group.members.map (fun member => (basis.origin.cell member.cell).firings
        (state.services.registry.cell member.cell))).sum = (basis.fired hearing).length := by
  rcases basis.exists_completed_eq_filter hearing with ⟨completes, isFilter⟩
  have split := ((List.filter_append_perm completes hearing.group.members).map
    (fun member => (basis.origin.cell member.cell).firings
      (state.services.registry.cell member.cell))).sum_eq
  have unchanged : ((hearing.group.members.filter (fun member => !completes member)).map
      (fun member => (basis.origin.cell member.cell).firings
        (state.services.registry.cell member.cell))).sum = 0 := by
    apply List.sum_eq_zero
    intro count among
    rcases List.mem_map.1 among with ⟨member, isOther, rfl⟩
    rcases List.mem_filter.1 isOther with ⟨isMember, uncompleted⟩
    rw [ended.cell_of_uncompleted listed isMember (by
      rw [isFilter, List.mem_filter]
      rintro ⟨-, completed⟩
      simp [completed] at uncompleted), AlertRuntime.firings_self]
  rw [List.map_append, List.sum_append, unchanged, Nat.add_zero, ← isFilter] at split
  rw [← split, ← TickBasis.sum_firings_runtime]
  congr 1
  apply List.map_congr_left
  intro member isCompleted
  rw [ended.evaluated.cells hearing listed member isCompleted]

/-- Together, all registered alerts count all events and what was lost. -/
theorem sum_firings (ended : TickEnded basis heard tasks state) :
    (basis.origin.alerts.values.map (fun entry =>
        (basis.origin.cell entry.cell).firings (state.services.registry.cell entry.cell))).sum =
      (heard.flatMap basis.events).length + (heard.flatMap basis.lost).length := by
  have unscanned : ((basis.origin.groups.filter (fun group => !basis.scans group)).map
      (fun group => (group.members.map (fun member => (basis.origin.cell member.cell).firings
        (state.services.registry.cell member.cell))).sum)).sum = 0 := by
    apply List.sum_eq_zero
    intro count among
    rcases List.mem_map.1 among with ⟨group, isGroup, rfl⟩
    rcases List.mem_filter.1 isGroup with ⟨isGroup, skips⟩
    apply List.sum_eq_zero
    intro count among
    rcases List.mem_map.1 among with ⟨member, isMember, rfl⟩
    rw [ended.cell_of_unscanned isGroup (by simpa using skips) isMember,
      AlertRuntime.firings_self]
  have scanned : (heard.map (fun hearing => (hearing.group.members.map (fun member =>
      (basis.origin.cell member.cell).firings
        (state.services.registry.cell member.cell))).sum)) =
      heard.map (fun hearing =>
        (basis.events hearing).length + (basis.lost hearing).length) := by
    apply List.map_congr_left
    intro hearing listed
    rw [TickBasis.length_events_add_lost]
    exact ended.sum_firings_of_group listed
  rw [TickBasis.sum_alerts, TickBasis.sum_groups, unscanned, Nat.add_zero,
    ← (ended.groups_perm.map _).sum_eq, List.map_map, List.length_flatMap, List.length_flatMap,
    ← List.sum_map_add]
  exact congrArg List.sum scanned

end TickEnded

/-- How many alerts are on timeframes that are not scanned. -/
theorem TickBasis.skipped_eq (basis : TickBasis) :
    basis.skipped = basis.origin.alerts.values.countP (fun entry =>
      !basis.setting.scheduler.timeframes.contains entry.alert.timeframe) := by
  have keyed (group : Group) (isGroup : group ∈ basis.origin.groups) (member : Registered)
      (isMember : member ∈ group.members) :
      basis.setting.scheduler.timeframes.contains member.alert.timeframe = basis.scans group := by
    rw [TickBasis.scans, ← Registry.key_of_member isGroup isMember]
    rfl
  have scanned : (basis.scanned.map (List.countP (fun entry =>
      !basis.setting.scheduler.timeframes.contains entry.alert.timeframe) ∘ Group.members)).sum =
      0 := by
    apply List.sum_eq_zero
    intro count among
    rcases List.mem_map.1 among with ⟨group, isGroup, rfl⟩
    rcases List.mem_filter.1 isGroup with ⟨isGroup, scans⟩
    apply List.countP_eq_zero.2
    intro member isMember
    rw [keyed group isGroup member isMember, scans]
    exact Bool.false_ne_true
  rw [← basis.origin.members_perm.countP_eq, List.countP_flatMap, TickBasis.sum_groups, scanned,
    Nat.zero_add]
  apply congrArg List.sum
  apply List.map_congr_left
  intro group among
  rcases List.mem_filter.1 among with ⟨isGroup, skips⟩
  symm
  apply List.countP_eq_length.2
  intro member isMember
  rw [keyed group isGroup member isMember]
  exact skips

/-! ## The outcome of a tick -/

/-- Whether an enabled entry of the playbook of an alert is to be latched beyond the end of the
calendar when the tick evaluates it. -/
def TickBasis.Overruns (basis : TickBasis) (snapshot : Snapshot) (member : Registered) : Prop :=
  member.alert.Overruns snapshot (basis.origin.cell member.cell).latches basis.now

/-- Whether the alerts of a group are as they were before a tick, and none of the events handed over
is of them. -/
def TickBasis.LeftAlone (basis : TickBasis) (handed : List Fired) (final : Registry)
    (group : Group) : Prop :=
  (∀ member ∈ group.members, final.cell member.cell = basis.origin.cell member.cell) ∧
    handed.filter (Fired.isOf group) = []

/-- What a group comes to none of whose evaluations crashes. Each of its alerts passes over the bar
from its own state, and whatever fires is an event of the group. -/
structure TickBasis.Succeeded (basis : TickBasis) (handed : List Fired) (final : Registry)
    (hearing : Hearing) (snapshot : Snapshot) (bar : Candle) : Prop where
  counted : basis.fails hearing = false
  cells : ∀ member ∈ hearing.group.members, final.cell member.cell =
    (member.alert.pass snapshot bar basis.now (basis.origin.cell member.cell)).runtime
  events : (handed.filter (Fired.isOf hearing.group)).Perm
    (firedBy hearing.group.members basis.origin snapshot bar basis.now)
  nothingLost : basis.lost hearing = []

/-- What a group comes to one of whose evaluations crashes. It has no events; the alerts whose
evaluations are completed have passed over the bar all the same, what they fired is lost, and only
the others are as they were. -/
structure TickBasis.Crashed (basis : TickBasis) (handed : List Fired) (final : Registry)
    (hearing : Hearing) (snapshot : Snapshot) (bar : Candle) : Prop where
  counted : basis.fails hearing = true
  cells : ∀ member ∈ basis.origin.completed hearing.group snapshot basis.now
      (basis.setting.reached basis.number hearing.place),
    final.cell member.cell =
      (member.alert.pass snapshot bar basis.now (basis.origin.cell member.cell)).runtime
  others : ∀ member ∈ hearing.group.members,
    member ∉ basis.origin.completed hearing.group snapshot basis.now
      (basis.setting.reached basis.number hearing.place) →
    final.cell member.cell = basis.origin.cell member.cell
  silent : handed.filter (Fired.isOf hearing.group) = []
  lost : basis.lost hearing = firedBy (basis.origin.completed hearing.group snapshot basis.now
    (basis.setting.reached basis.number hearing.place)) basis.origin snapshot bar basis.now

/-- What a tick comes to whose groups heard something from the market and that handed over some
events. -/
structure TickOutcome (basis : TickBasis) (heard : List Hearing) (handed : List Fired)
    (report : TickReport) (final : State) : Prop where
  /-- Every registered alert is in exactly one group, the one of its own symbol and timeframe. -/
  partition : ∀ id entry, basis.origin.get? id = some entry →
    ∃ group ∈ basis.origin.groups, group.key = GroupKey.of entry.alert ∧ entry ∈ group.members ∧
      ∀ other ∈ basis.origin.groups, entry ∈ other.members → other = group
  /-- Each group that is scanned asks the market once, and hears its next reply. -/
  scanned : (heard.map Hearing.group).Perm basis.scanned
  fetches : ∃ more, final.fetches = basis.start.fetches ++ more ∧
    more.map Fetch.key = heard.map (fun hearing => hearing.group.key)
  replies : heard.map Hearing.result =
    (basis.start.replies (heard.map (fun hearing => hearing.group.key))).1.map basis.learned
  /-- All alerts stay registered, with their cells. -/
  alerts : final.services.registry.alerts = basis.origin.alerts
  /-- A group that heard of candles is evaluated on the last of them, in view of its own candles. It
  succeeds exactly when none of its alerts is to be latched beyond the end of the calendar. -/
  evaluated : ∀ hearing ∈ heard, ∀ candles bar, hearing.result = .fetched (.ok candles) →
    candles.getLast? = some bar →
      let snapshot := (Snapshot.ofGroup basis.start.indicators hearing.group.key
        (hearing.group.members.map Registered.alert) candles).1
      ((∀ member ∈ hearing.group.members, ¬ basis.Overruns snapshot member) →
        basis.Succeeded handed final.services.registry hearing snapshot bar) ∧
      ((∃ member ∈ hearing.group.members, basis.Overruns snapshot member) →
        basis.Crashed handed final.services.registry hearing snapshot bar)
  failed : ∀ hearing ∈ heard, hearing.result.fails = true →
    basis.fails hearing = true ∧ basis.lost hearing = [] ∧
      basis.LeftAlone handed final.services.registry hearing.group
  unscanned : ∀ group ∈ basis.origin.groups, basis.scans group = false →
    basis.LeftAlone handed final.services.registry group
  groups : report.groups = basis.origin.groupKeys.countP (fun key =>
    basis.setting.scheduler.timeframes.contains key.timeframe)
  skippedAlerts : report.skippedAlerts = basis.origin.alerts.values.countP (fun entry =>
    !basis.setting.scheduler.timeframes.contains entry.alert.timeframe)
  groupsFailed : report.groupsFailed = heard.countP basis.fails
  /-- All events are handed over. Each is counted by the alert that fired, and so is whatever fired
  in a group that crashed. -/
  triggers : report.triggers = handed.length
  firings : report.triggers + (heard.flatMap basis.lost).length =
    (basis.origin.alerts.values.map (fun entry =>
      (basis.origin.cell entry.cell).firings (final.services.registry.cell entry.cell))).sum

theorem TickBasis.view?_of_candles {basis : TickBasis} {hearing : Hearing} {candles : List Candle}
    {bar : Candle} (result : hearing.result = .fetched (.ok candles))
    (last : candles.getLast? = some bar) :
    basis.view? hearing = some ((Snapshot.ofGroup basis.start.indicators hearing.group.key
      (hearing.group.members.map Registered.alert) candles).1, bar) := by
  rw [TickBasis.view?, result, FetchResult.view?, Group.view?, last]
  rfl

namespace TickEnded

variable {basis : TickBasis} {heard : List Hearing} {tasks : List Task} {state : State}
  {handed : List Fired} {hearing : Hearing} {snapshot : Snapshot} {bar : Candle}

/-- What is handed over of a group is what it emits. -/
theorem emits (ended : TickEnded basis heard tasks state)
    (isHanded : handed.Perm (heard.flatMap basis.events)) (listed : hearing ∈ heard) :
    (handed.filter (Fired.isOf hearing.group)).Perm (basis.events hearing) :=
  (isHanded.filter (Fired.isOf hearing.group)).trans (.of_eq (ended.filter_events listed))

theorem succeeded (ended : TickEnded basis heard tasks state)
    (isHanded : handed.Perm (heard.flatMap basis.events)) (listed : hearing ∈ heard)
    (view : basis.view? hearing = some (snapshot, bar))
    (fits : ∀ member ∈ hearing.group.members, ¬ basis.Overruns snapshot member) :
    basis.Succeeded handed state.services.registry hearing snapshot bar := by
  have survived : basis.origin.allSurvive hearing.group snapshot basis.now = true :=
    (basis.origin.allSurvive_iff _ _ _).2 fits
  have crashes : basis.crashes hearing = false := by
    rw [TickBasis.crashes_of_view view, survived]
    rfl
  have completed : basis.completed hearing = hearing.group.members :=
    (TickBasis.completed_of_view view).trans (Registry.completed_of_allSurvive survived _)
  constructor
  · exact (TickBasis.fails_of_view view).trans crashes
  · intro member isMember
    rw [ended.evaluated.cells hearing listed member (completed ▸ isMember),
      TickBasis.runtime_of_view view]
  · have emitted := ended.emits isHanded listed
    rw [TickBasis.events, crashes, if_neg Bool.false_ne_true, TickBasis.fired_of_view view,
      completed] at emitted
    exact emitted
  · rw [TickBasis.lost, crashes, if_neg Bool.false_ne_true]

theorem crashed (ended : TickEnded basis heard tasks state)
    (isHanded : handed.Perm (heard.flatMap basis.events)) (listed : hearing ∈ heard)
    (view : basis.view? hearing = some (snapshot, bar)) {member : Registered}
    (isMember : member ∈ hearing.group.members) (overruns : basis.Overruns snapshot member) :
    basis.Crashed handed state.services.registry hearing snapshot bar := by
  have crashed : basis.origin.allSurvive hearing.group snapshot basis.now = false := by
    rw [← Bool.not_eq_true, basis.origin.allSurvive_iff]
    exact fun fits => fits member isMember overruns
  have crashes : basis.crashes hearing = true := by
    rw [TickBasis.crashes_of_view view, crashed]
    rfl
  have completed := TickBasis.completed_of_view view
  constructor
  · exact (TickBasis.fails_of_view view).trans crashes
  · intro member isCompleted
    rw [ended.evaluated.cells hearing listed member (completed ▸ isCompleted),
      TickBasis.runtime_of_view view]
  · intro member isMember uncompleted
    exact ended.cell_of_uncompleted listed isMember (completed ▸ uncompleted)
  · have emitted := ended.emits isHanded listed
    rw [TickBasis.events, crashes, if_pos rfl] at emitted
    exact emitted.eq_nil
  · rw [TickBasis.lost, crashes, if_pos rfl, TickBasis.fired_of_view view, completed]

/-- A group that the market failed is left alone. -/
theorem leftAlone_of_no_view (ended : TickEnded basis heard tasks state)
    (isHanded : handed.Perm (heard.flatMap basis.events)) (listed : hearing ∈ heard)
    (noView : basis.view? hearing = none) :
    basis.LeftAlone handed state.services.registry hearing.group := by
  constructor
  · intro member isMember
    apply ended.cell_of_uncompleted listed isMember
    simp [TickBasis.completed, noView]
  · have emitted := ended.emits isHanded listed
    rw [TickBasis.events_of_no_view noView] at emitted
    exact emitted.eq_nil

theorem leftAlone_of_unscanned (ended : TickEnded basis heard tasks state)
    (isHanded : handed.Perm (heard.flatMap basis.events)) {group : Group}
    (isGroup : group ∈ basis.origin.groups) (skips : basis.scans group = false) :
    basis.LeftAlone handed state.services.registry group := by
  constructor
  · intro member isMember
    exact ended.cell_of_unscanned isGroup skips isMember
  · have emitted := isHanded.filter (Fired.isOf group)
    rw [ended.filter_events_of_unscanned isGroup skips] at emitted
    exact emitted.eq_nil

theorem outcome (ended : TickEnded basis heard tasks state) {report : TickReport}
    (reported : Reported basis heard report) :
    TickOutcome basis heard
      (handedOver basis.number (tasks ++ state.agenda.map Prod.snd)) report state := by
  have isHanded := ended.handed.events
  rw [List.append_nil] at isHanded
  constructor
  case partition =>
    intro id entry registered
    exact Registry.exists_unique_group registered
  case scanned => exact ended.groups_perm
  case fetches => exact ended.asked.fetches
  case replies => exact ended.asked.replies
  case alerts => exact ended.evaluated.alerts
  case evaluated =>
    intro hearing listed candles bar result last snapshot
    have view : basis.view? hearing = some (snapshot, bar) :=
      TickBasis.view?_of_candles result last
    constructor
    · exact ended.succeeded isHanded listed view
    · rintro ⟨member, isMember, overruns⟩
      exact ended.crashed isHanded listed view isMember overruns
  case failed =>
    intro hearing listed fails
    have noView : basis.view? hearing = none := by
      rw [← Option.isNone_iff_eq_none, TickBasis.view?, FetchResult.view?_isNone, fails]
    exact ⟨TickBasis.fails_of_no_view noView, TickBasis.lost_of_no_view noView,
      ended.leftAlone_of_no_view isHanded listed noView⟩
  case unscanned =>
    intro group isGroup skips
    exact ended.leftAlone_of_unscanned isHanded isGroup skips
  case groups =>
    rw [reported.groups, TickBasis.scanned, ← List.countP_eq_length_filter, Registry.groups,
      List.countP_map]
    rfl
  case skippedAlerts => rw [reported.skipped, basis.skipped_eq]
  case groupsFailed => exact reported.failed
  case triggers => rw [reported.triggers, isHanded.length_eq]
  case firings => rw [reported.triggers, ended.sum_firings]

end TickEnded

/-- Whatever is registered and scanned, and whatever the market replies to each group, a tick ends
and has kept its groups apart. Settings that come from a configuration let at least one group be
evaluated at once, and registries are well formed and their cells apart along every run
(`SharedAlerts.Sound`). -/
theorem tick_isolates_groups {setting : Setting} {start : State} (now : Instant)
    (permits : 0 < setting.scheduler.maxConcurrentGroups) (between : start.BetweenTicks)
    (wellFormed : start.services.registry.WellFormed) (apart : start.services.registry.Apart) :
    ∃ heard tasks report final needed,
      (∀ steps, needed ≤ steps → start.tickOnce setting steps now = (some report, final)) ∧
      StepRun (State.Performs setting)
        ({ start with tickReports := [] }.beginTick setting now) tasks
        { final with tickReports := [report] } ∧
      TickOutcome ⟨setting, start, now, permits, between, wellFormed, apart⟩ heard
        (handedOver start.numbers (tasks ++ final.agenda.map Prod.snd)) report final ∧
      final.BetweenTicks := by
  rcases TickBasis.ends ⟨setting, start, now, permits, between, wellFormed, apart⟩ with
    ⟨heard, tasks, final, needed, run, ended, reaches⟩
  rcases ended.report with ⟨report, reports, reported⟩
  have same : { final with tickReports := [report] } = final := by
    rw [← reports]
  refine ⟨heard, tasks, report, { final with tickReports := [] }, needed, ?_, ?_, ?_, ?_⟩
  · intro steps enough
    have reached : State.runUntil setting none (fun state => !state.tickReports.isEmpty) steps
        ({ start with tickReports := [] }.beginTick setting now) = final := reaches steps enough
    simp only [State.tickOnce]
    rw [reached, reports]
    rfl
  · rw [← same] at run
    exact run
  · exact { ended.outcome reported with }
  · have numbers := ended.handed.numbers
    have later : final.Knows (fun tick => tick < final.numbers) := ended.knows.mono (by
      intro tick known
      simp only [List.length_nil] at numbers
      omega)
    exact ⟨ended.idle, { later with }⟩

/-! One market answers and another does not, and one alert is on a timeframe that is not scanned. -/

namespace MixedTick

def highPrice (id symbol : String) (timeframe : Timeframe) : Alert :=
  { id, ownerId := "owner", symbol, timeframe
    logic := .conditions
      [{ subject := .price .close, operator := .greater, comparand := .literal 100
         timeframe := .same, percentage := none }] .all
    fireMode := .perBar, action := .nothing }

def setting : Setting :=
  { scheduler :=
      { interval := 60000, timeframes := [.hour], groupTimeout := 5000, maxConcurrentGroups := 1
        candleLimit := 300, maxDispatches := 1 }
    policy := { maxRetries := 0, backoffBase := 1000, timeout := 10000 }
    defaultSecret := "secret"
    mac := fun _ _ => []
    calendar := ⟨1700000000, 0⟩
    api :=
      { defaultFireMode := .perBar, timeframes := [.hour], verifier := none, hasMetrics := false
        mac := fun _ _ => [], subscriptionId := fun _ => "" } }

def alerts : List Alert :=
  [highPrice "ether" "ETH" .hour, highPrice "bitcoin" "BTC" .hour,
   highPrice "daily" "BTC" ⟨86400, by decide, by decide⟩]

def registry : Registry :=
  alerts.foldl (fun registry alert => (registry.activate alert none).2) {}

def start : State :=
  { State.beginning setting { channel := { capacity := 1 }, registry } (fun _ _ => none) with
    market := (Table.empty.insert "ETH@1h" [{ answer := .failure "down" }]).insert "BTC@1h"
      [{ answer := .candles [⟨3600, 104, 106, 103, 105, 1⟩] }] }

theorem sound_foldl_activate {alerts : List Alert} {before : Registry}
    (sound : before.WellFormed ∧ before.Apart) :
    (alerts.foldl (fun registry alert => (registry.activate alert none).2) before).WellFormed ∧
      (alerts.foldl (fun registry alert => (registry.activate alert none).2) before).Apart := by
  induction alerts generalizing before with
  | nil => exact sound
  | cons first rest induction =>
      exact induction ⟨sound.1.activate first none,
        (Registry.Revises.activate sound.1 first none).apart sound.2⟩

theorem sound_registry : registry.WellFormed ∧ registry.Apart :=
  sound_foldl_activate ⟨.empty, fun _ _ _ _ found => by cases found⟩

theorem groupKeys_perm : registry.groupKeys.Perm (alerts.map GroupKey.of) := by
  have keys : registry.alerts.values.map (fun entry => GroupKey.of entry.alert) =
      [⟨"BTC", .hour⟩, ⟨"BTC", ⟨86400, by decide, by decide⟩⟩, ⟨"ETH", .hour⟩] := by
    decide +kernel
  rw [List.perm_ext_iff_of_nodup (Registry.nodup_groupKeys _) (by decide)]
  intro key
  rw [Registry.groupKeys, List.mem_mergeSort, List.mem_eraseDups, keys]
  simp only [alerts, highPrice, List.map_cons, List.map_nil, GroupKey.of, List.mem_cons,
    List.not_mem_nil, or_false]
  grind

/-- The tick counts its groups and the alert that is not scanned, whatever the order in which its
groups ask. -/
theorem mixed_tick_isolates :
    0 < setting.scheduler.maxConcurrentGroups ∧
      ∃ (between : start.BetweenTicks) (wellFormed : start.services.registry.WellFormed)
        (apart : start.services.registry.Apart), ∃ heard tasks report final needed,
      (∀ steps, needed ≤ steps → start.tickOnce setting steps ⟨0, 0⟩ = (some report, final)) ∧
      StepRun (State.Performs setting)
        ({ start with tickReports := [] }.beginTick setting ⟨0, 0⟩) tasks
        { final with tickReports := [report] } ∧
      TickOutcome ⟨setting, start, ⟨0, 0⟩, by decide, between, wellFormed, apart⟩ heard
        (handedOver start.numbers (tasks ++ final.agenda.map Prod.snd)) report final ∧
      final.BetweenTicks ∧ report.groups = 2 ∧ report.skippedAlerts = 1 := by
  have permits : 0 < setting.scheduler.maxConcurrentGroups := by decide
  have between : start.BetweenTicks := .of_nothing rfl rfl rfl rfl
  have wellFormed : start.services.registry.WellFormed := sound_registry.1
  have apart : start.services.registry.Apart := sound_registry.2
  rcases tick_isolates_groups ⟨0, 0⟩ permits between wellFormed apart with
    ⟨heard, tasks, report, final, needed, reaches, run, outcome, ended⟩
  have skipped : registry.alerts.values.countP (fun entry =>
      !setting.scheduler.timeframes.contains entry.alert.timeframe) = 1 := by decide +kernel
  exact ⟨permits, between, wellFormed, apart, heard, tasks, report, final, needed, reaches, run,
    outcome, ended, outcome.groups.trans (groupKeys_perm.countP_eq _),
    outcome.skippedAlerts.trans skipped⟩

/-! Two alerts in one group, the second of which is to be latched beyond the end of the calendar. -/

def crashing : State :=
  { State.beginning setting
      { channel := { capacity := 1 }
        registry := [highPrice "bitcoin" "BTC" .hour, .latchedHour "latched" "BTC"].foldl
          (fun registry alert => (registry.activate alert none).2) {} } (fun _ _ => none) with
    market := Table.empty.insert "BTC@1h" [{ answer := .candles [.lastHour] }] }

/-- A group that fails does not keep all of its alerts as they were, and what these count is not
what the report counts. -/
theorem crashed_group_counts_a_firing :
    crashing.BetweenTicks ∧ crashing.services.registry.WellFormed ∧
      crashing.services.registry.Apart ∧
      (crashing.tickOnce setting 20 ⟨0, 0⟩).1 =
        some { groups := 1, groupsFailed := 1, triggers := 0, skippedAlerts := 0 } ∧
      (crashing.services.registry.runtime? "bitcoin").map AlertRuntime.triggerCount = some 0 ∧
      ((crashing.tickOnce setting 20 ⟨0, 0⟩).2.services.registry.runtime? "bitcoin").map
        AlertRuntime.triggerCount = some 1 := by
  have sound : crashing.services.registry.WellFormed ∧ crashing.services.registry.Apart :=
    sound_foldl_activate ⟨.empty, fun _ _ _ _ found => by cases found⟩
  exact ⟨.of_nothing rfl rfl rfl rfl, sound.1, sound.2, by decide +kernel, by decide +kernel,
    by decide +kernel⟩

end MixedTick

end Simulation

end CandleAlerts
