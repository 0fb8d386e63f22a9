import CandleAlerts.Proofs.DispatchAsides
import CandleAlerts.Proofs.GroupIsolation

/-!
The books of a tick.

Each group of a tick asks the market once, is evaluated by itself when it has heard, hands over its
events, and ends. A group one of whose evaluations crashes has no events, though others of its alerts
may have fired. The books say which groups have come how far, and what that means for the market,
the cells of alerts, the agenda and the report.
-/

namespace CandleAlerts.Simulation

/-! ## What a tick goes by -/

namespace State

/-- Whether no tick is under way, and all that is to be done is about ticks that have ended. -/
structure BetweenTicks (state : State) : Prop where
  idle : state.tick = none
  knows : state.Knows (fun tick => tick < state.numbers)

/-- When nothing is to be done no tick is under way. -/
theorem BetweenTicks.of_nothing {state : State} (idle : state.tick = none)
    (agenda : state.agenda = []) (waiting : state.waiting = []) (jobs : state.jobs = []) :
    state.BetweenTicks := by
  refine ⟨idle, ?_, ?_, ?_⟩
  · rw [agenda]
    exact List.forall_mem_nil _
  · rw [waiting]
    exact List.forall_mem_nil _
  · rw [jobs]
    exact List.forall_mem_nil _

/-- The replies of the market to some groups that ask one after the other. -/
def replies (state : State) : List GroupKey → List (Reply MarketAnswer) × State
  | [] => ([], state)
  | key :: rest =>
      (((state.marketReply key).1 :: ((state.marketReply key).2.replies rest).1),
        ((state.marketReply key).2.replies rest).2)

theorem replies_concat (state : State) (keys : List GroupKey) (key : GroupKey) :
    state.replies (keys ++ [key]) =
      ((state.replies keys).1 ++ [((state.replies keys).2.marketReply key).1],
        ((state.replies keys).2.marketReply key).2) := by
  induction keys generalizing state with
  | nil => rfl
  | cons first rest induction =>
      simp only [List.cons_append, replies]
      rw [induction]

/-- A reply uses up some of the market's script and changes nothing else. -/
theorem marketReply_eq (state : State) (key : GroupKey) :
    ∃ market, (state.marketReply key).2 = { state with market } := by
  simp only [marketReply]
  generalize (if state.market.contains (key.symbol ++ "@" ++ key.timeframe.text) = true
    then key.symbol ++ "@" ++ key.timeframe.text else key.symbol) = name
  split
  · exact ⟨_, rfl⟩
  · exact ⟨state.market, rfl⟩

/-- What the market replies is up to its script. -/
theorem marketReply_congr {first second : State} (same : first.market = second.market)
    (key : GroupKey) :
    (first.marketReply key).1 = (second.marketReply key).1 ∧
      (first.marketReply key).2.market = (second.marketReply key).2.market := by
  simp only [marketReply]
  rw [same]
  generalize (if second.market.contains (key.symbol ++ "@" ++ key.timeframe.text) = true
    then key.symbol ++ "@" ++ key.timeframe.text else key.symbol) = name
  refine ⟨rfl, ?_⟩
  split
  · rfl
  · exact same

end State

/-- What a tick goes by: the settings, the state in which it begins, and the time. In that state no
other tick is under way, and every alert is registered under its own id with a cell of its own. -/
structure TickBasis where
  setting : Setting
  start : State
  now : Instant
  permits : 0 < setting.scheduler.maxConcurrentGroups
  between : start.BetweenTicks
  wellFormed : start.services.registry.WellFormed
  apart : start.services.registry.Apart

/-- A group that has asked the market, by its place in the tick, and what it heard. -/
structure Hearing where
  place : Nat
  group : Group
  result : FetchResult

/-- What a group has to work on: nothing if the market failed it. -/
def FetchResult.view? (result : FetchResult) (engine : IndicatorEngine) (group : Group) :
    Option (Snapshot × Candle) :=
  match result with
  | .fetched answer => group.view? engine answer
  | .crash => none

/-- Whether the market failed a group: with an error, with silence, without candles, or for good. -/
def FetchResult.fails : FetchResult → Bool
  | .fetched (.ok candles) => candles.isEmpty
  | .fetched (.error _) | .crash => true

theorem FetchResult.view?_isNone (result : FetchResult) (engine : IndicatorEngine) (group : Group) :
    (result.view? engine group).isNone = result.fails := by
  cases result with
  | crash => rfl
  | fetched answer =>
      cases answer with
      | error missing => rfl
      | ok candles => cases candles <;> simp [view?, Group.view?, fails]

namespace TickBasis

variable (basis : TickBasis)

def origin : Registry := basis.start.services.registry

/-- The number of the tick. -/
def number : Nat := basis.start.numbers

def scans (group : Group) : Bool :=
  basis.setting.scheduler.timeframes.contains group.key.timeframe

/-- The groups that take part in the tick, by their places. -/
def scanned : List Group := basis.origin.groups.filter basis.scans

/-- How many alerts are on timeframes that are not scanned. -/
def skipped : Nat :=
  ((basis.origin.groups.filter (fun group => !basis.scans group)).map
    (fun group => group.members.length)).sum

/-- What a group learns from a reply of the market. -/
def learned (reply : Reply MarketAnswer) : FetchResult :=
  (State.fetchResult basis.setting reply).2

/-! What a group comes to that is evaluated by itself, by what it heard. -/

def view? (hearing : Hearing) : Option (Snapshot × Candle) :=
  hearing.result.view? basis.start.indicators hearing.group

def crashes (hearing : Hearing) : Bool :=
  match basis.view? hearing with
  | none => false
  | some (snapshot, _) => !basis.origin.allSurvive hearing.group snapshot basis.now

/-- Whether a group fails: the market failed it, or one of its evaluations crashes. -/
def fails (hearing : Hearing) : Bool := hearing.result.fails || basis.crashes hearing

/-- The members whose evaluations are completed. -/
def completed (hearing : Hearing) : List Registered :=
  match basis.view? hearing with
  | none => []
  | some (snapshot, _) => basis.origin.completed hearing.group snapshot basis.now
      (basis.setting.reached basis.number hearing.place)

/-- What becomes of a member whose evaluation is completed. -/
def runtime (hearing : Hearing) (member : Registered) : AlertRuntime :=
  match basis.view? hearing with
  | none => basis.origin.cell member.cell
  | some (snapshot, bar) =>
      (member.alert.pass snapshot bar basis.now (basis.origin.cell member.cell)).runtime

/-- What fires in the evaluations that are completed. -/
def fired (hearing : Hearing) : List Fired :=
  match basis.view? hearing with
  | none => []
  | some (snapshot, bar) => firedBy (basis.completed hearing) basis.origin snapshot bar basis.now

def events (hearing : Hearing) : List Fired :=
  if basis.crashes hearing then [] else basis.fired hearing

/-- What fires without becoming an event, because another evaluation crashes. -/
def lost (hearing : Hearing) : List Fired :=
  if basis.crashes hearing then basis.fired hearing else []

variable {basis}

theorem mem_of_completed {hearing : Hearing} {member : Registered}
    (isCompleted : member ∈ basis.completed hearing) : member ∈ hearing.group.members := by
  unfold completed at isCompleted
  split at isCompleted
  · cases isCompleted
  · exact Registry.mem_of_completed isCompleted

section View

variable {hearing : Hearing} {snapshot : Snapshot} {bar : Candle}

theorem fails_of_view (view : basis.view? hearing = some (snapshot, bar)) :
    basis.fails hearing = basis.crashes hearing := by
  rw [fails, ← FetchResult.view?_isNone hearing.result basis.start.indicators hearing.group,
    ← TickBasis.view?, view, Option.isNone_some, Bool.false_or]

theorem crashes_of_view (view : basis.view? hearing = some (snapshot, bar)) :
    basis.crashes hearing = !basis.origin.allSurvive hearing.group snapshot basis.now := by
  simp only [crashes, view]

theorem completed_of_view (view : basis.view? hearing = some (snapshot, bar)) :
    basis.completed hearing = basis.origin.completed hearing.group snapshot basis.now
      (basis.setting.reached basis.number hearing.place) := by
  simp only [completed, view]

theorem runtime_of_view (view : basis.view? hearing = some (snapshot, bar)) (member : Registered) :
    basis.runtime hearing member =
      (member.alert.pass snapshot bar basis.now (basis.origin.cell member.cell)).runtime := by
  simp only [runtime, view]

theorem fired_of_view (view : basis.view? hearing = some (snapshot, bar)) :
    basis.fired hearing =
      firedBy (basis.completed hearing) basis.origin snapshot bar basis.now := by
  simp only [fired, view]

end View

/-- A group that the market failed has no events. -/
theorem events_of_no_view {hearing : Hearing} (noView : basis.view? hearing = none) :
    basis.events hearing = [] := by
  simp [events, fired, noView]

theorem lost_of_no_view {hearing : Hearing} (noView : basis.view? hearing = none) :
    basis.lost hearing = [] := by
  simp [lost, fired, noView]

theorem fails_of_no_view {hearing : Hearing} (noView : basis.view? hearing = none) :
    basis.fails hearing = true := by
  rw [fails, ← FetchResult.view?_isNone hearing.result basis.start.indicators hearing.group,
    ← TickBasis.view?, noView, Option.isNone_none, Bool.true_or]

theorem length_events_add_lost (hearing : Hearing) :
    (basis.events hearing).length + (basis.lost hearing).length =
      (basis.fired hearing).length := by
  unfold events lost
  split <;> simp

theorem nodup_scanned : basis.scanned.Nodup := by
  have keys : (basis.origin.groups.map Group.key).Nodup := by
    simp only [Registry.groups, List.map_map]
    exact (List.map_id _).symm ▸ basis.origin.nodup_groupKeys
  exact (List.Nodup.of_map _ keys).sublist List.filter_sublist

theorem mem_groups_of_scanned {place : Nat} {group : Group}
    (isAt : basis.scanned[place]? = some group) : group ∈ basis.origin.groups :=
  (List.mem_filter.1 (List.mem_of_getElem? isAt)).1

/-- Groups at different places have no cell in common. -/
theorem place_eq_of_cell {first second : Nat} {one other : Group}
    (isFirst : basis.scanned[first]? = some one) (isSecond : basis.scanned[second]? = some other)
    {member another : Registered} (isMember : member ∈ one.members)
    (isOther : another ∈ other.members) (same : member.cell = another.cell) : first = second := by
  have equal := Registry.group_eq_of_cell basis.apart (mem_groups_of_scanned isFirst)
    (mem_groups_of_scanned isSecond) isMember isOther same
  rw [equal] at isFirst
  rcases List.getElem?_eq_some_iff.1 isFirst with ⟨firstWithin, firstIs⟩
  rcases List.getElem?_eq_some_iff.1 isSecond with ⟨secondWithin, secondIs⟩
  exact (nodup_scanned.getElem_inj_iff).1 (firstIs.trans secondIs.symm)

end TickBasis

/-! ## What groups heard -/

/-- What the groups at some places heard. -/
def heardAt (places : List Nat) (heard : List Hearing) : List Hearing :=
  heard.filter (fun hearing => places.contains hearing.place)

theorem mem_heardAt {places : List Nat} {heard : List Hearing} {hearing : Hearing} :
    hearing ∈ heardAt places heard ↔ hearing ∈ heard ∧ hearing.place ∈ places := by
  simp [heardAt]

/-- One more place is one more hearing. -/
theorem heardAt_cons_perm {heard : List Hearing} (once : (heard.map Hearing.place).Nodup)
    {hearing : Hearing} (listed : hearing ∈ heard) {places : List Nat}
    (fresh : hearing.place ∉ places) :
    (heardAt (hearing.place :: places) heard).Perm (hearing :: heardAt places heard) := by
  induction heard with
  | nil => cases listed
  | cons first rest induction =>
      rw [List.map_cons, List.nodup_cons] at once
      rcases once with ⟨unlisted, once⟩
      simp only [heardAt, List.filter_cons, List.contains_cons] at induction ⊢
      rcases List.mem_cons.1 listed with rfl | inRest
      · have others : rest.filter (fun other =>
              other.place == hearing.place || places.contains other.place) =
            rest.filter (fun other => places.contains other.place) := by
          apply List.filter_congr
          intro other among
          have different : (other.place == hearing.place) = false := by
            rw [beq_eq_false_iff_ne]
            intro same
            exact unlisted (same ▸ List.mem_map_of_mem among)
          rw [different, Bool.false_or]
        rw [others]
        simp [fresh]
      · have different : (first.place == hearing.place) = false := by
          rw [beq_eq_false_iff_ne]
          intro same
          exact unlisted (same ▸ List.mem_map_of_mem inRest)
        rw [different, Bool.false_or]
        split
        · exact ((induction once inRest).cons first).trans (List.Perm.swap _ _ _)
        · exact induction once inRest

/-- A group that has just heard is at none of the places. -/
theorem heardAt_concat {places : List Nat} {hearing : Hearing} (fresh : hearing.place ∉ places)
    (heard : List Hearing) : heardAt places (heard ++ [hearing]) = heardAt places heard := by
  simp [heardAt, fresh]

/-- Each group that has asked the market heard its next reply, and no group asks twice. -/
structure Asked (basis : TickBasis) (heard : List Hearing) (market : Table (Script (Reply MarketAnswer)))
    (fetches : List Fetch) : Prop where
  once : (heard.map Hearing.place).Nodup
  groups : ∀ hearing ∈ heard, basis.scanned[hearing.place]? = some hearing.group
  fetches : ∃ more, fetches = basis.start.fetches ++ more ∧
    more.map Fetch.key = heard.map (fun hearing => hearing.group.key)
  replies : heard.map Hearing.result =
    (basis.start.replies (heard.map (fun hearing => hearing.group.key))).1.map basis.learned
  market : market =
    (basis.start.replies (heard.map (fun hearing => hearing.group.key))).2.market

namespace Asked

variable {basis : TickBasis} {heard : List Hearing}
  {market : Table (Script (Reply MarketAnswer))} {fetches : List Fetch}

theorem nil (basis : TickBasis) : Asked basis [] basis.start.market basis.start.fetches :=
  ⟨List.nodup_nil, by simp, ⟨[], by simp, rfl⟩, rfl, rfl⟩

/-- A group that has not asked yet hears the next reply. -/
theorem ask {state : State} (asked : Asked basis heard state.market state.fetches) {place : Nat}
    {group : Group} (isAt : basis.scanned[place]? = some group)
    (fresh : place ∉ heard.map Hearing.place) {fetch : Fetch} (key : fetch.key = group.key) :
    Asked basis
      (heard ++ [⟨place, group, basis.learned (state.marketReply group.key).1⟩])
      (state.marketReply group.key).2.market (state.fetches ++ [fetch]) := by
  rcases State.marketReply_congr asked.market group.key with ⟨reply, market⟩
  refine ⟨?_, ?_, ?_, ?_, ?_⟩
  · rw [List.map_append, List.nodup_append]
    refine ⟨asked.once, List.nodup_singleton _, ?_⟩
    intro first listed second last
    rw [List.map_singleton, List.mem_singleton] at last
    rintro rfl
    have isPlace : first = place := last
    exact fresh (isPlace ▸ listed)
  · intro hearing among
    rcases List.mem_append.1 among with earlier | last
    · exact asked.groups hearing earlier
    · rw [List.mem_singleton.1 last]
      exact isAt
  · rcases asked.fetches with ⟨more, same, keys⟩
    refine ⟨more ++ [fetch], ?_, ?_⟩
    · rw [same, List.append_assoc]
    · rw [List.map_append, List.map_append, keys, List.map_singleton, List.map_singleton, key]
  · simp only [List.map_append, List.map_singleton]
    rw [State.replies_concat, List.map_append, ← asked.replies, reply]
    rfl
  · simp only [List.map_append, List.map_singleton]
    rw [State.replies_concat, market]

end Asked

/-! ## Cells -/

/-- The cells of alerts whose evaluations are completed hold what these make of them, and all others
hold what they held. -/
structure Evaluated (basis : TickBasis) (evaluated : List Hearing) (registry : Registry) :
    Prop where
  alerts : registry.alerts = basis.origin.alerts
  size : registry.cells.size = basis.origin.cells.size
  cells : ∀ hearing ∈ evaluated, ∀ member ∈ basis.completed hearing,
    registry.cell member.cell = basis.runtime hearing member
  others : ∀ place, (∀ hearing ∈ evaluated, ∀ member ∈ basis.completed hearing,
    member.cell ≠ place) → registry.cell place = basis.origin.cell place

namespace Evaluated

variable {basis : TickBasis} {evaluated : List Hearing} {registry : Registry}

theorem nil (basis : TickBasis) : Evaluated basis [] basis.origin :=
  ⟨rfl, rfl, by simp, fun _ _ => rfl⟩

theorem of_same (books : Evaluated basis evaluated registry) {after : Registry}
    (alerts : after.alerts = registry.alerts) (cells : after.cells = registry.cells) :
    Evaluated basis evaluated after where
  alerts := alerts.trans books.alerts
  size := by
    rw [cells]
    exact books.size
  cells := by
    simp only [Registry.cell]
    rw [cells]
    exact books.cells
  others := by
    simp only [Registry.cell]
    rw [cells]
    exact books.others

theorem of_perm (books : Evaluated basis evaluated registry) {others : List Hearing}
    (same : others.Perm evaluated) : Evaluated basis others registry where
  alerts := books.alerts
  size := books.size
  cells hearing among := books.cells hearing (same.mem_iff.1 among)
  others place absent := books.others place (fun hearing among =>
    absent hearing (same.mem_iff.2 among))

variable {hearing : Hearing}

/-- The members of a group that was not evaluated are as they were. -/
theorem unchanged (books : Evaluated basis evaluated registry)
    (groups : ∀ other ∈ evaluated, basis.scanned[other.place]? = some other.group)
    (isAt : basis.scanned[hearing.place]? = some hearing.group)
    (fresh : hearing.place ∉ evaluated.map Hearing.place) {member : Registered}
    (isMember : member ∈ hearing.group.members) :
    registry.cell member.cell = basis.origin.cell member.cell := by
  apply books.others
  intro other among another isOther same
  have samePlace := TickBasis.place_eq_of_cell (groups other among) isAt
    (TickBasis.mem_of_completed isOther) isMember same
  exact fresh (samePlace ▸ List.mem_map_of_mem among)

/-- A group that the market failed leaves everything as it is. -/
theorem fail (books : Evaluated basis evaluated registry) (noView : basis.view? hearing = none) :
    Evaluated basis (hearing :: evaluated) registry where
  alerts := books.alerts
  size := books.size
  cells other among member isMember := by
    rcases List.mem_cons.1 among with rfl | earlier
    · simp [TickBasis.completed, noView] at isMember
    · exact books.cells other earlier member isMember
  others place absent := books.others place (fun other among =>
    absent other (List.mem_cons_of_mem _ among))

/-- A group that is evaluated does so as if it were by itself. -/
theorem pass (books : Evaluated basis evaluated registry)
    (groups : ∀ other ∈ evaluated, basis.scanned[other.place]? = some other.group)
    (isAt : basis.scanned[hearing.place]? = some hearing.group)
    (fresh : hearing.place ∉ evaluated.map Hearing.place) {snapshot : Snapshot} {bar : Candle}
    (view : basis.view? hearing = some (snapshot, bar)) {after : Registry}
    (passed : registry.PassedBy (basis.completed hearing) snapshot bar basis.now after) :
    Evaluated basis (hearing :: evaluated) after where
  alerts := passed.alerts.trans books.alerts
  size := passed.size.trans books.size
  cells other among member isCompleted := by
    rcases List.mem_cons.1 among with rfl | earlier
    · rw [passed.cells member isCompleted,
        books.unchanged groups isAt fresh (TickBasis.mem_of_completed isCompleted),
        TickBasis.runtime, view]
    · rw [passed.others member.cell, books.cells other earlier member isCompleted]
      intro another isOther same
      have samePlace := TickBasis.place_eq_of_cell isAt (groups other earlier)
        (TickBasis.mem_of_completed isOther) (TickBasis.mem_of_completed isCompleted) same
      exact fresh (samePlace ▸ List.mem_map_of_mem earlier)
  others place absent := by
    rw [passed.others place (absent hearing List.mem_cons_self)]
    exact books.others place (fun other among => absent other (List.mem_cons_of_mem _ among))

/-- Whatever a group heard, its evaluation adds to the books what it comes to by itself. -/
theorem passGroup (books : Evaluated basis evaluated registry)
    (groups : ∀ other ∈ evaluated, basis.scanned[other.place]? = some other.group)
    (isAt : basis.scanned[hearing.place]? = some hearing.group)
    (fresh : hearing.place ∉ evaluated.map Hearing.place)
    {answer : Except MissingData (List Candle)} (heard : hearing.result = .fetched answer) :
    let pass := registry.passGroup basis.start.indicators hearing.group answer basis.now
      (basis.setting.reached basis.number hearing.place)
    Evaluated basis (hearing :: evaluated) pass.registry ∧
      ((∃ failure, pass.result = .error failure) ∧ basis.fails hearing = true ∧
          basis.events hearing = [] ∨
        pass.result = .ok (basis.events hearing) ∧ basis.fails hearing = false) := by
  have own : basis.view? hearing = hearing.group.view? basis.start.indicators answer := by
    rw [TickBasis.view?, heard]
    rfl
  cases view : hearing.group.view? basis.start.indicators answer with
  | none =>
      rw [view] at own
      have skips := registry.skips_of_no_view view basis.now
        (basis.setting.reached basis.number hearing.place)
      rcases skips.result with ⟨missing, result⟩
      dsimp only
      rw [skips.registry]
      exact ⟨books.fail own, .inl ⟨⟨_, result⟩, TickBasis.fails_of_no_view own,
        TickBasis.events_of_no_view own⟩⟩
  | some found =>
      rcases found with ⟨snapshot, bar⟩
      rw [view] at own
      have listed := TickBasis.mem_groups_of_scanned isAt
      have same (member : Registered) (isMember : member ∈ hearing.group.members) :
          registry.cell member.cell = basis.origin.cell member.cell :=
        books.unchanged groups isAt fresh isMember
      rcases registry.passGroup_of_view
        (Registry.nodup_cells_of_group basis.apart listed) (by
          intro member isMember
          rw [books.size]
          exact Registry.cell_lt_of_group basis.wellFormed listed isMember) view basis.now
        (basis.setting.reached basis.number hearing.place) with ⟨result, passed⟩
      have completed : basis.completed hearing = registry.completed hearing.group snapshot basis.now
          (basis.setting.reached basis.number hearing.place) := by
        rw [Registry.completed_congr same, TickBasis.completed_of_view own]
      rw [← completed] at passed
      refine ⟨books.pass groups isAt fresh own passed, ?_⟩
      have crashes : basis.crashes hearing =
          !registry.allSurvive hearing.group snapshot basis.now := by
        rw [Registry.allSurvive_congr same, TickBasis.crashes_of_view own]
      cases survived : registry.allSurvive hearing.group snapshot basis.now with
      | false =>
          rw [survived] at crashes result
          exact .inl ⟨⟨_, result⟩, (TickBasis.fails_of_view own).trans crashes, if_pos crashes⟩
      | true =>
          rw [survived] at crashes result
          refine .inr ⟨?_, (TickBasis.fails_of_view own).trans crashes⟩
          have unlost : basis.events hearing = basis.fired hearing := by
            rw [TickBasis.events, crashes]
            rfl
          rw [unlost, TickBasis.fired_of_view own, completed,
            Registry.completed_of_allSurvive survived]
          exact result.trans (congrArg Except.ok (firedBy_congr same snapshot bar basis.now))

end Evaluated

/-! ## Events and reports -/

/-- The event that a task is to dispatch on behalf of a group of a tick. -/
def Task.handed? (tick : Nat) : Task → Option Fired
  | .errandReady errand =>
      if errand.group.map Prod.fst = some tick then some ⟨errand.alert, errand.event⟩ else none
  | .groupReady _ _ | .groupAdmitted _ _ | .groupFetched _ _ | .groupErrandDone _ _
  | .groupBudgetSpent _ _ | .errandAdmitted _ | .deliveryDue _ _ | .tickDue
  | .schedulerStops => none

/-- The events that were handed over to be dispatched, by the tasks that were put on the agenda. -/
def handedOver (tick : Nat) (tasks : List Task) : List Fired :=
  tasks.filterMap (Task.handed? tick)

/-- The events that groups were evaluated to are handed over or in hand, each with a number. -/
structure Handed (basis : TickBasis) (evaluated : List Hearing) (tasks : List Task)
    (inHand : List Fired) (numbers : Nat) : Prop where
  events : (handedOver basis.number tasks ++ inHand).Perm (evaluated.flatMap basis.events)
  numbers : numbers + inHand.length =
    basis.number + 1 + (evaluated.flatMap basis.events).length

namespace Handed

variable {basis : TickBasis} {evaluated : List Hearing} {tasks : List Task} {inHand : List Fired}
  {numbers : Nat}

theorem of_perm (handed : Handed basis evaluated tasks inHand numbers) {others : List Hearing}
    (same : others.Perm evaluated) : Handed basis others tasks inHand numbers where
  events := handed.events.trans (same.flatMap_right basis.events).symm
  numbers := by
    rw [(same.flatMap_right basis.events).length_eq]
    exact handed.numbers

/-- Other tasks may be put on the agenda, and in any order. -/
theorem more (handed : Handed basis evaluated tasks inHand numbers) {after others : List Task}
    (same : after.Perm (others ++ tasks))
    (noEvent : ∀ task ∈ others, task.handed? basis.number = none) :
    Handed basis evaluated after inHand numbers where
  events := by
    refine (List.Perm.append_right inHand ?_).trans handed.events
    have split := same.filterMap (Task.handed? basis.number)
    rw [List.filterMap_append, List.filterMap_eq_nil_iff.2 noEvent, List.nil_append] at split
    exact split
  numbers := handed.numbers

/-- The events that a group was evaluated to come in hand. -/
theorem evaluate (handed : Handed basis evaluated tasks [] numbers) (hearing : Hearing) :
    Handed basis (hearing :: evaluated) tasks (basis.events hearing) numbers where
  events := by
    rw [List.flatMap_cons]
    have earlier := handed.events
    rw [List.append_nil] at earlier
    exact List.perm_append_comm.trans (earlier.append_left _)
  numbers := by
    have earlier := handed.numbers
    rw [List.flatMap_cons, List.length_append]
    simp only [List.length_nil] at earlier
    omega

/-- An event in hand is handed over under the next number. -/
theorem hand {fired : Fired} (handed : Handed basis evaluated tasks (fired :: inHand) numbers)
    {task : Task} (hands : task.handed? basis.number = some fired) {after : List Task}
    (same : after.Perm (task :: tasks)) : Handed basis evaluated after inHand (numbers + 1) where
  events := by
    refine List.Perm.trans ?_ handed.events
    have split := same.filterMap (Task.handed? basis.number)
    rw [List.filterMap_cons, hands] at split
    exact (split.append_right inHand).trans List.perm_middle.symm
  numbers := by
    have earlier := handed.numbers
    rw [List.length_cons] at earlier
    omega

end Handed

/-- The report counts the groups that have ended. -/
structure Reported (basis : TickBasis) (ended : List Hearing) (report : TickReport) : Prop where
  groups : report.groups = basis.scanned.length
  skipped : report.skippedAlerts = basis.skipped
  failed : report.groupsFailed = ended.countP basis.fails
  triggers : report.triggers = (ended.flatMap basis.events).length

namespace Reported

variable {basis : TickBasis} {ended : List Hearing} {report : TickReport}

theorem of_perm (reported : Reported basis ended report) {others : List Hearing}
    (same : others.Perm ended) : Reported basis others report where
  groups := reported.groups
  skipped := reported.skipped
  failed := by
    rw [same.countP_eq]
    exact reported.failed
  triggers := by
    rw [(same.flatMap_right basis.events).length_eq]
    exact reported.triggers

theorem fail (reported : Reported basis ended report) {hearing : Hearing}
    (fails : basis.fails hearing = true) (silent : basis.events hearing = []) :
    Reported basis (hearing :: ended) { report with groupsFailed := report.groupsFailed + 1 } where
  groups := reported.groups
  skipped := reported.skipped
  failed := by
    rw [List.countP_cons, if_pos fails, ← reported.failed]
  triggers := by
    rw [List.flatMap_cons, silent, List.nil_append]
    exact reported.triggers

theorem complete (reported : Reported basis ended report) {hearing : Hearing}
    (succeeds : basis.fails hearing = false) {count : Nat}
    (counted : count = (basis.events hearing).length) :
    Reported basis (hearing :: ended) { report with triggers := report.triggers + count } where
  groups := reported.groups
  skipped := reported.skipped
  failed := by
    rw [List.countP_cons_of_neg (by simp [succeeds])]
    exact reported.failed
  triggers := by
    rw [List.flatMap_cons, List.length_append, ← reported.triggers, ← counted, Nat.add_comm]

end Reported

end CandleAlerts.Simulation
