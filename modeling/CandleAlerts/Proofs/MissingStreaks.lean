import CandleAlerts.Proofs.AlertEdits
import CandleAlerts.Proofs.MissingRows

/-!
Reports of conditions that never resolve.

Ticks are handed out groups of alerts with their cells and evaluate them later, while the registry
is changed. A definition of an alert has its cell to itself: an edit gives the alert a new one, in
which no miss is counted yet. So the misses that a cell counts are those of one definition, and a
row of them that reaches the limit is told about once, by the evaluation that makes it reach the
limit.
-/

namespace CandleAlerts

/-! ## The steps -/

/-- The registry, and the groups that ticks were handed out. -/
structure SharedGroups where
  registry : Registry := {}
  handed : List Group := []

/-- One step. The evaluation of a group tells what each member missed whose evaluation was
completed, and what was reported; there is no evaluation of a group without candles. A change tells
which definitions it replaced. -/
inductive GroupEvent where
  | handedOut
  | passed (evaluations : List AlertEvaluation) (warnings : List Warning)
  | changed (edited : List String)

namespace GroupEvent

def evaluations : GroupEvent → List AlertEvaluation
  | passed evaluations _ => evaluations
  | handedOut | changed _ => []

/-- The values missed by the evaluation on a cell, if there was one. -/
def missing? (place : Nat) (event : GroupEvent) : Option (List (String × MissingValue)) :=
  (event.evaluations.find? (fun evaluation => evaluation.entry.cell == place)).map
    AlertEvaluation.missing

/-- The reports that the condition of an alert never resolves. -/
def told (id : String) : GroupEvent → List Warning
  | passed _ warnings => warnings.filter (Warning.neverResolves id)
  | handedOut | changed _ => []

def Edits (id : String) : GroupEvent → Prop
  | changed edited => id ∈ edited
  | handedOut | passed _ _ => False

end GroupEvent

/-- The verdicts on the evaluations of the definition that has a cell. -/
def verdicts (place : Nat) (events : List GroupEvent) : List Bool :=
  events.filterMap (fun event => (event.missing? place).map (fun missing => !missing.isEmpty))

/-- What the evaluations of a definition reported about its alert. -/
def toldBy (entry : Registered) (events : List GroupEvent) : List Warning :=
  (events.filter (fun event => (event.missing? entry.cell).isSome)).flatMap
    (GroupEvent.told entry.alert.id)

theorem Registry.isRegistered_of_runtime? {registry : Registry} {id : String}
    {runtime : AlertRuntime} (registered : registry.runtime? id = some runtime) :
    registry.IsRegistered id := by
  rw [Registry.runtime?, Option.map_eq_some_iff] at registered
  obtain ⟨entry, found, -⟩ := registered
  exact Option.isSome_iff_exists.2 ⟨entry, found⟩

namespace SharedGroups

/-- The steps. A group that was handed out is evaluated at any time, on whatever the market gives
for it. -/
inductive Step : SharedGroups → GroupEvent → SharedGroups → Prop
  | handedOut (state : SharedGroups) :
      Step state .handedOut { state with handed := state.handed ++ state.registry.groups }
  | passed (state : SharedGroups) {group : Group} (waits : group ∈ state.handed)
      (engine : IndicatorEngine) (fetched : Except MissingData (List Candle)) (now : Instant)
      (reached : Registered → Bool) :
      Step state
        (.passed (state.registry.evaluations engine group fetched now reached)
          (state.registry.passGroup engine group fetched now reached).journal.warnings)
        { state with
          registry := (state.registry.passGroup engine group fetched now reached).registry }
  | changed (state : SharedGroups) (operation : RegistryOperation)
      (change : operation.writesCell = false) :
      Step state (.changed (operation.edited state.registry))
        { state with registry := operation.apply state.registry }

abbrev Run := StepRun Step

/-- Steps that leave an alert registered: edits, and anything that happens to other alerts. -/
abbrev RunKeeping (id : String) : SharedGroups → List GroupEvent → SharedGroups → Prop :=
  StepRun (fun state event next => Step state event next ∧ next.registry.IsRegistered id)

theorem RunKeeping.run {id : String} {start final : SharedGroups} {events : List GroupEvent}
    (run : RunKeeping id start events final) : Run start events final :=
  StepRun.mono run (fun _ _ _ step => step.1)

/-! ## Groups that were handed out -/

/-- The registry is well formed and no two registered alerts share a cell. The members of a group
that was handed out are different alerts with different cells, and a registered alert has the cell
of one of them only if it is that one. -/
structure Sound (state : SharedGroups) : Prop where
  wellFormed : state.registry.WellFormed
  apart : state.registry.Apart
  ids : ∀ group ∈ state.handed, (group.members.map (fun member => member.alert.id)).Nodup
  cells : ∀ group ∈ state.handed, (group.members.map Registered.cell).Nodup
  within : ∀ group ∈ state.handed, ∀ member ∈ group.members,
    member.cell < state.registry.cells.size
  own : ∀ group ∈ state.handed, ∀ member ∈ group.members, ∀ id registered,
    state.registry.get? id = some registered → registered.cell = member.cell → registered = member

theorem Sound.empty : Sound {} where
  wellFormed := Registry.WellFormed.empty
  apart _ _ _ _ found := by cases found
  ids _ listed := by cases listed
  cells _ listed := by cases listed
  within _ listed := by cases listed
  own _ listed := by cases listed

theorem nodup_ids_of_group {registry : Registry} (wellFormed : registry.WellFormed) {group : Group}
    (listed : group ∈ registry.groups) :
    (group.members.map (fun member => member.alert.id)).Nodup := by
  have all : (registry.alerts.values.map (fun member => member.alert.id)).Nodup := by
    simp only [Table.values, List.map_map]
    rw [List.nodup_iff_pairwise_ne, List.pairwise_map]
    refine registry.alerts.ordered.imp_of_mem ?_
    intro first second firstListed secondListed before same
    have firstId := wellFormed.ids _ _ ((registry.alerts.mem_entries_iff _ _).1 firstListed)
    have secondId := wellFormed.ids _ _ ((registry.alerts.mem_entries_iff _ _).1 secondListed)
    have sameId : first.1 = second.1 := firstId.symm.trans (same.trans secondId)
    rw [sameId] at before
    exact absurd before (String.lt_irrefl _)
  rw [(Registry.mem_groups_iff.1 listed).2]
  exact all.sublist (List.filter_sublist.map _)

variable {state next : SharedGroups} {event : GroupEvent}

theorem Sound.get?_of_member (sound : state.Sound) {group : Group}
    (listed : group ∈ state.registry.groups) {member : Registered}
    (isMember : member ∈ group.members) :
    state.registry.get? member.alert.id = some member := by
  obtain ⟨id, found⟩ := Registry.get?_of_mem_groups listed isMember
  rw [sound.wellFormed.ids id member found]
  exact found

/-- A registered alert is the only one with its cell. -/
theorem Sound.eq_of_cell (sound : state.Sound) {first second : Registered}
    {firstId secondId : String} (firstFound : state.registry.get? firstId = some first)
    (secondFound : state.registry.get? secondId = some second) (same : first.cell = second.cell) :
    first = second := by
  have sameId := sound.apart firstId secondId first second firstFound secondFound same
  rw [sameId, secondFound] at firstFound
  exact (Option.some.inj firstFound).symm

theorem Step.sound (step : Step state event next) (sound : state.Sound) : next.Sound := by
  cases step with
  | handedOut =>
      refine ⟨sound.wellFormed, sound.apart, ?_, ?_, ?_, ?_⟩
      · intro group listed
        rcases List.mem_append.1 listed with earlier | new
        · exact sound.ids group earlier
        · exact nodup_ids_of_group sound.wellFormed new
      · intro group listed
        rcases List.mem_append.1 listed with earlier | new
        · exact sound.cells group earlier
        · exact Registry.nodup_cells_of_group sound.apart new
      · intro group listed
        rcases List.mem_append.1 listed with earlier | new
        · exact sound.within group earlier
        · exact fun member isMember => Registry.cell_lt_of_group sound.wellFormed new isMember
      · intro group listed
        rcases List.mem_append.1 listed with earlier | new
        · exact sound.own group earlier
        · exact fun member isMember id registered found same =>
            sound.eq_of_cell found (sound.get?_of_member new isMember) same
  | passed waits engine fetched now reached =>
      obtain ⟨cells, size, after⟩ := state.registry.exists_cells_passGroup engine _ fetched now reached
      rw [after]
      refine ⟨?_, sound.apart, sound.ids, sound.cells, ?_, sound.own⟩
      · exact sound.wellFormed.restrict rfl size (fun _ _ found => found) (fun _ _ found => found)
      · intro group listed member isMember
        exact size ▸ sound.within group listed member isMember
  | changed operation change =>
      have revises := RegistryOperation.revises sound.wellFormed change
      refine ⟨sound.wellFormed.apply operation, revises.apart sound.apart, sound.ids, sound.cells,
        ?_, ?_⟩
      · exact fun group listed member isMember =>
          Nat.lt_of_lt_of_le (sound.within group listed member isMember) revises.grows
      · intro group listed member isMember id registered found same
        rcases revises.entries id registered found with before | new
        · exact sound.own group listed member isMember id registered before same
        · have within := sound.within group listed member isMember
          omega

theorem Run.sound {start final : SharedGroups} {events : List GroupEvent}
    (run : Run start events final) (sound : start.Sound) : final.Sound :=
  run.keeps Sound sound (fun _ _ _ _ step => step.sound)

theorem Step.grows (step : Step state event next) (sound : state.Sound) :
    state.registry.cells.size ≤ next.registry.cells.size := by
  cases step with
  | handedOut => exact Nat.le_refl _
  | passed waits engine fetched now reached =>
      obtain ⟨cells, size, after⟩ := state.registry.exists_cells_passGroup engine _ fetched now reached
      rw [after]
      exact Nat.le_of_eq size.symm
  | changed operation change => exact (RegistryOperation.revises sound.wellFormed change).grows

theorem Run.grows {start final : SharedGroups} {events : List GroupEvent}
    (run : Run start events final) (sound : start.Sound) :
    start.registry.cells.size ≤ final.registry.cells.size := by
  induction run with
  | nil => exact Nat.le_refl _
  | snoc rest step induction => exact Nat.le_trans induction (step.grows (Run.sound rest sound))

/-- An edit renews an alert, and any other step leaves it with its cell. -/
theorem Step.renews_or_keeps (step : Step state event next) (sound : state.Sound) {id : String}
    {entry : Registered} (found : state.registry.get? id = some entry)
    (stays : next.registry.IsRegistered id) :
    (event.Edits id ∧ state.registry.Renews next.registry id) ∨
    (¬ event.Edits id ∧ next.registry.get? id = some entry) := by
  cases step with
  | handedOut => exact .inr ⟨not_false, found⟩
  | passed waits engine fetched now reached =>
      obtain ⟨cells, size, after⟩ := state.registry.exists_cells_passGroup engine _ fetched now reached
      rw [after]
      exact .inr ⟨not_false, found⟩
  | changed operation change =>
      exact RegistryOperation.renews_or_keeps sound.wellFormed found stays

/-! ## Definitions and their cells -/

/-- Whether a definition has its cell to itself, also among the groups that were handed out. -/
structure Owned (entry : Registered) (state : SharedGroups) : Prop where
  within : entry.cell < state.registry.cells.size
  registered : ∀ id other, state.registry.get? id = some other → other.cell = entry.cell →
    other = entry
  handed : ∀ group ∈ state.handed, ∀ member ∈ group.members, member.cell = entry.cell →
    member = entry

variable {entry : Registered} {events : List GroupEvent}

theorem Owned.of_registered (sound : state.Sound) {id : String}
    (found : state.registry.get? id = some entry) : Owned entry state where
  within := sound.wellFormed.cells id entry found
  registered _ _ otherFound same := sound.eq_of_cell otherFound found same
  handed group listed member isMember same :=
    (sound.own group listed member isMember id entry found same.symm).symm

theorem Step.owned (step : Step state event next) (sound : state.Sound)
    (owned : Owned entry state) : Owned entry next := by
  cases step with
  | handedOut =>
      refine ⟨owned.within, owned.registered, ?_⟩
      intro group listed member isMember same
      rcases List.mem_append.1 listed with earlier | new
      · exact owned.handed group earlier member isMember same
      · exact owned.registered _ member (sound.get?_of_member new isMember) same
  | passed waits engine fetched now reached =>
      obtain ⟨cells, size, after⟩ := state.registry.exists_cells_passGroup engine _ fetched now reached
      rw [after]
      exact ⟨size ▸ owned.within, owned.registered, owned.handed⟩
  | changed operation change =>
      have revises := RegistryOperation.revises sound.wellFormed change
      have within := owned.within
      refine ⟨Nat.lt_of_lt_of_le within revises.grows, ?_, owned.handed⟩
      intro id other found same
      rcases revises.entries id other found with before | new
      · exact owned.registered id other before same
      · omega

/-- A place in a list that was added to is the end of it, or a place in the list before. -/
theorem place_in_concat {α : Type u} {values before after : List α} {last value : α}
    (split : values ++ [last] = before ++ value :: after) :
    (value = last ∧ before = values) ∨ ∃ others, values = before ++ value :: others := by
  rcases List.eq_nil_or_concat after with rfl | ⟨others, final, rfl⟩
  · obtain ⟨rfl, same⟩ := List.append_inj' split rfl
    exact .inl ⟨(List.singleton_inj.1 same).symm, rfl⟩
  · rw [List.concat_eq_append, ← List.cons_append, ← List.append_assoc] at split
    exact .inr ⟨others, (List.append_inj' split rfl).1⟩

/-- What is known of a definition after some events: its cell counts the verdicts on its
evaluations, and each of these reported what there was to report. -/
structure Tracked (entry : Registered) (events : List GroupEvent) (state : SharedGroups) :
    Prop where
  counts : (state.registry.cell entry.cell).Counts (verdicts entry.cell events)
  told : ∀ before event after missing, events = before ++ event :: after →
    event.missing? entry.cell = some missing →
      event.told entry.alert.id =
        unresolvedWarnings entry.alert.id (verdicts entry.cell before) missing

theorem verdicts_append (place : Nat) (first second : List GroupEvent) :
    verdicts place (first ++ second) = verdicts place first ++ verdicts place second :=
  List.filterMap_append ..

theorem verdicts_concat_of_none {place : Nat} (unseen : event.missing? place = none) :
    verdicts place (events ++ [event]) = verdicts place events := by
  rw [verdicts_append]
  simp only [verdicts, List.filterMap_cons, List.filterMap_nil, unseen, Option.map_none,
    List.append_nil]

theorem verdicts_concat_of_some {place : Nat} {missing : List (String × MissingValue)}
    (seen : event.missing? place = some missing) :
    verdicts place (events ++ [event]) = verdicts place events ++ [!missing.isEmpty] := by
  rw [verdicts_append]
  simp only [verdicts, List.filterMap_cons, List.filterMap_nil, seen, Option.map_some]

/-- An event that is no evaluation of a definition leaves it to its cell what is known of it. -/
theorem Tracked.concat_of_none (tracked : Tracked entry events state)
    (unseen : event.missing? entry.cell = none)
    (kept : next.registry.cell entry.cell = state.registry.cell entry.cell) :
    Tracked entry (events ++ [event]) next where
  counts := by
    rw [verdicts_concat_of_none unseen, kept]
    exact tracked.counts
  told before one after missing split seen := by
    rcases place_in_concat split with ⟨rfl, -⟩ | ⟨others, rest⟩
    · rw [unseen] at seen
      cases seen
    · exact tracked.told before one others missing rest seen

theorem Tracked.concat_of_some (tracked : Tracked entry events state)
    {missing : List (String × MissingValue)} (seen : event.missing? entry.cell = some missing)
    (counts : (next.registry.cell entry.cell).Counts
      (verdicts entry.cell events ++ [!missing.isEmpty]))
    (told : event.told entry.alert.id =
      unresolvedWarnings entry.alert.id (verdicts entry.cell events) missing) :
    Tracked entry (events ++ [event]) next where
  counts := by
    rw [verdicts_concat_of_some seen]
    exact counts
  told before one after others split seenOne := by
    rcases place_in_concat split with ⟨rfl, rfl⟩ | ⟨rest, same⟩
    · rw [seen] at seenOne
      cases seenOne
      exact told
    · exact tracked.told before one rest others same seenOne

/-- Among members with different cells a definition is found by its own. -/
theorem Owned.find?_member (owned : Owned entry state) {group : Group}
    (waits : group ∈ state.handed) {members : List Registered} (among : members ⊆ group.members) :
    (entry ∈ members ∧ members.find? (fun member => member.cell == entry.cell) = some entry) ∨
    ((∀ member ∈ members, member.cell ≠ entry.cell) ∧
      members.find? (fun member => member.cell == entry.cell) = none) := by
  cases found : members.find? (fun member => member.cell == entry.cell) with
  | none =>
      refine .inr ⟨fun member isMember same => ?_, rfl⟩
      exact List.find?_eq_none.1 found member isMember (beq_iff_eq.2 same)
  | some member =>
      have isMember := List.mem_of_find?_eq_some found
      have sameCell := List.find?_some found
      have same := owned.handed group waits member (among isMember) (beq_iff_eq.1 sameCell)
      rw [same] at isMember
      exact .inl ⟨isMember, congrArg some same⟩

/-- Evaluating a group tracks the definitions among its members whose evaluations are completed, and
no other. -/
theorem Tracked.passGroup (sound : state.Sound) (owned : Owned entry state) {group : Group}
    (waits : group ∈ state.handed) (engine : IndicatorEngine)
    (fetched : Except MissingData (List Candle)) (now : Instant) (reached : Registered → Bool)
    (tracked : Tracked entry events state) :
    let pass := state.registry.passGroup engine group fetched now reached
    let event := .passed (state.registry.evaluations engine group fetched now reached)
      pass.journal.warnings
    (verdicts entry.cell (events ++ [event])).length < 2 ^ 32 →
      Tracked entry (events ++ [event]) { state with registry := pass.registry } := by
  intro pass event few
  cases view : group.view? engine fetched with
  | none =>
      have after := (state.registry.skips_of_no_view view now reached).registry
      refine tracked.concat_of_none ?_ (congrArg (fun registry => registry.cell entry.cell) after)
      simp only [event, GroupEvent.missing?, GroupEvent.evaluations, Registry.evaluations, view]
      rfl
  | some seen =>
      obtain ⟨snapshot, bar⟩ := seen
      obtain ⟨-, passed⟩ := Registry.passGroup_of_view (sound.cells group waits)
        (sound.within group waits) view now reached
      have warnings := state.registry.warnings_passGroup_of_view (sound.cells group waits) view now
        reached
      have sublist := state.registry.completed_sublist group snapshot now reached
      have evaluated : event.missing? entry.cell =
          ((state.registry.completed group snapshot now reached).find?
            (fun member => member.cell == entry.cell)).map (fun member =>
            (member.alert.evaluate snapshot (state.registry.cell member.cell).latches
              now).missing) := by
        simp only [event, GroupEvent.missing?, GroupEvent.evaluations, Registry.evaluations, view,
          List.find?_map, Option.map_map]
        rfl
      rcases owned.find?_member waits sublist.subset with ⟨isMember, found⟩ | ⟨absent, found⟩
      · rw [found, Option.map_some] at evaluated
        rw [verdicts_concat_of_some evaluated, List.length_append, List.length_singleton] at few
        obtain ⟨counts, told⟩ := entry.alert.pass_counts snapshot bar now tracked.counts few
        refine tracked.concat_of_some evaluated ?_ ?_
        · rw [passed.cells entry isMember]
          exact counts
        · rw [GroupEvent.told, warnings, filter_toldOf ((sound.ids group waits).sublist (sublist.map _))
            isMember]
          exact told
      · rw [found] at evaluated
        exact tracked.concat_of_none evaluated (passed.others entry.cell absent)

theorem Step.tracked (step : Step state event next) (sound : state.Sound)
    (owned : Owned entry state) (tracked : Tracked entry events state)
    (few : (verdicts entry.cell (events ++ [event])).length < 2 ^ 32) :
    Tracked entry (events ++ [event]) next := by
  cases step with
  | handedOut => exact tracked.concat_of_none rfl rfl
  | passed waits engine fetched now reached =>
      exact tracked.passGroup sound owned waits engine fetched now reached few
  | changed operation change =>
      exact tracked.concat_of_none rfl (RegistryOperation.cell_apply change owned.within)

theorem Run.owned {start final : SharedGroups} (run : Run start events final)
    (sound : start.Sound) (owned : Owned entry start) : Owned entry final := by
  induction run with
  | nil => exact owned
  | snoc rest step induction => exact step.owned (Run.sound rest sound) induction

theorem Run.tracked {start final : SharedGroups} {earlier : List GroupEvent}
    (run : Run start events final) (sound : start.Sound) (owned : Owned entry start)
    (tracked : Tracked entry earlier start)
    (few : (verdicts entry.cell (earlier ++ events)).length < 2 ^ 32) :
    Tracked entry (earlier ++ events) final := by
  induction run with
  | nil =>
      rw [List.append_nil]
      exact tracked
  | snoc rest step induction =>
      rw [← List.append_assoc] at few ⊢
      have fewer := few
      rw [verdicts_append, List.length_append] at fewer
      exact step.tracked (Run.sound rest sound) (Run.owned rest sound owned)
        (induction (by omega)) few

/-- As many reports as rows of misses that reach the limit. -/
theorem Tracked.length_toldBy (tracked : Tracked entry events state) :
    (toldBy entry events).length =
      (rowsOfMisses (verdicts entry.cell events)).countP (missingValueWarnAfter.toNat ≤ ·) := by
  have told := tracked.told
  clear tracked
  induction events using List.reverseRecOn with
  | nil => rfl
  | append_singleton events event induction =>
      have before := induction (fun before one after missing split =>
        told before one (after ++ [event]) missing (by rw [split, List.append_assoc]; rfl))
      have reports : toldBy entry (events ++ [event]) =
          toldBy entry events ++ toldBy entry [event] := by
        rw [toldBy, List.filter_append, List.flatMap_append, ← toldBy, ← toldBy]
      rw [reports, List.length_append, before]
      cases seen : event.missing? entry.cell with
      | none => simp [verdicts_concat_of_none seen, toldBy, seen]
      | some missing =>
          have own := told events event [] missing rfl seen
          rw [verdicts_concat_of_some seen, countP_rowsOfMisses_concat (by decide)]
          simp only [toldBy, List.filter_cons, seen, Option.isSome_some, if_true, List.filter_nil,
            List.flatMap_cons, List.flatMap_nil, List.append_nil, own]
          rw [length_unresolvedWarnings]

/-! ## Runs that keep an alert -/

/-- Whether only cells that there are have been evaluated. -/
def Evaluated (events : List GroupEvent) (state : SharedGroups) : Prop :=
  ∀ event ∈ events, ∀ evaluation ∈ event.evaluations,
    evaluation.entry.cell < state.registry.cells.size

theorem Step.evaluated (step : Step state event next) (sound : state.Sound)
    (evaluated : Evaluated events state) : Evaluated (events ++ [event]) next := by
  intro one listed evaluation among
  refine Nat.lt_of_lt_of_le ?_ (step.grows sound)
  rcases List.mem_append.1 listed with earlier | last
  · exact evaluated one earlier evaluation among
  · rw [List.mem_singleton.1 last] at among
    cases step with
    | handedOut => cases among
    | passed waits engine fetched now reached =>
        exact sound.within _ waits _ (Registry.entry_mem_of_mem_evaluations among)
    | changed operation change => cases among

theorem Run.evaluated {start final : SharedGroups} (run : Run start events final)
    (sound : start.Sound) : Evaluated events final := by
  induction run with
  | nil => exact fun _ listed => (List.not_mem_nil listed).elim
  | snoc rest step induction => exact step.evaluated (Run.sound rest sound) induction

/-- A definition with a new cell has not been evaluated yet. -/
theorem Evaluated.missing?_eq_none (evaluated : Evaluated events state)
    (new : state.registry.cells.size ≤ entry.cell) {one : GroupEvent} (listed : one ∈ events) :
    one.missing? entry.cell = none := by
  rw [GroupEvent.missing?, Option.map_eq_none_iff, List.find?_eq_none]
  intro evaluation among same
  have within := evaluated one listed evaluation among
  rw [beq_iff_eq.1 same] at within
  omega

theorem Evaluated.verdicts_eq_nil (evaluated : Evaluated events state)
    (new : state.registry.cells.size ≤ entry.cell) : verdicts entry.cell events = [] := by
  rw [verdicts, List.filterMap_eq_nil_iff]
  intro one listed
  rw [evaluated.missing?_eq_none new listed]
  rfl

theorem Tracked.of_new (evaluated : Evaluated events state)
    (new : state.registry.cells.size ≤ entry.cell) (unseen : event.missing? entry.cell = none)
    {runtime : AlertRuntime} (edited : next.registry.cell entry.cell = runtime.afterEdit) :
    Tracked entry (events ++ [event]) next where
  counts := by
    rw [verdicts_concat_of_none unseen, evaluated.verdicts_eq_nil new, edited]
    exact .afterEdit runtime
  told before one after missing split seen := by
    have listed : one ∈ events ++ [event] := by simp [split]
    rcases List.mem_append.1 listed with earlier | last
    · rw [evaluated.missing?_eq_none new earlier] at seen
      cases seen
    · rw [List.mem_singleton.1 last, unseen] at seen
      cases seen

namespace RunKeeping

variable {id : String} {start final : SharedGroups} {earlier : List GroupEvent}

theorem isRegistered (run : RunKeeping id start events final)
    (registered : start.registry.IsRegistered id) : final.registry.IsRegistered id := by
  cases run with
  | nil => exact registered
  | snoc rest step => exact step.2

/-- The registered definition of an alert that started from the default state is tracked. -/
theorem tracked (run : RunKeeping id start events final) (sound : start.Sound)
    (registered : start.registry.runtime? id = some {})
    (found : final.registry.get? id = some entry)
    (few : (verdicts entry.cell events).length < 2 ^ 32) : Tracked entry events final := by
  induction run generalizing entry with
  | nil =>
      rw [Registry.runtime?, found] at registered
      have cell : start.registry.cell entry.cell = {} := Option.some.inj registered
      refine ⟨?_, fun before one after missing split => by simp at split⟩
      rw [cell]
      exact .fresh rfl rfl
  | @snoc events event middle final rest step induction =>
      have middleSound := Run.sound (RunKeeping.run rest) sound
      have startRegistered := Registry.isRegistered_of_runtime? registered
      obtain ⟨before, beforeFound⟩ :=
        Option.isSome_iff_exists.1 (RunKeeping.isRegistered rest startRegistered)
      rcases step.1.renews_or_keeps middleSound beforeFound step.2 with
        ⟨edits, other, otherFound, new, runtime, edited⟩ | ⟨-, kept⟩
      · -- the new definition has a cell of its own, which no evaluation so far was about
        rw [found] at otherFound
        cases otherFound
        refine .of_new (Run.evaluated (RunKeeping.run rest) sound) new ?_ edited
        cases event with
        | changed edited => rfl
        | _ => cases edits
      · rw [found] at kept
        cases kept
        have fewer := few
        rw [verdicts_append, List.length_append] at fewer
        exact step.1.tracked middleSound (.of_registered middleSound beforeFound)
          (induction beforeFound (by omega)) few

/-- An alert goes on with its definition as long as it is not edited; afterwards it has a cell that
it never had. -/
theorem keeps_or_renews (run : RunKeeping id start events final) (sound : start.Sound)
    {first : Registered} (firstFound : start.registry.get? id = some first) :
    ((∀ event ∈ events, ¬ event.Edits id) ∧ final.registry.get? id = some first) ∨
    ((∃ event ∈ events, event.Edits id) ∧
      ∃ entry, final.registry.get? id = some entry ∧ start.registry.cells.size ≤ entry.cell) := by
  induction run with
  | nil => exact .inl ⟨fun _ listed => (List.not_mem_nil listed).elim, firstFound⟩
  | @snoc events event middle final rest step induction =>
      have middleSound := Run.sound (RunKeeping.run rest) sound
      have larger := Run.grows (RunKeeping.run rest) sound
      rcases induction with ⟨unedited, found⟩ | ⟨⟨one, listed, edits⟩, entry, found, new⟩
      · rcases step.1.renews_or_keeps middleSound found step.2 with
          ⟨edits, other, otherFound, new, -⟩ | ⟨leaves, kept⟩
        · exact .inr ⟨⟨event, by simp, edits⟩, other, otherFound, by omega⟩
        · refine .inl ⟨fun one listed => ?_, kept⟩
          rcases List.mem_append.1 listed with earlier | last
          · exact unedited one earlier
          · rw [List.mem_singleton.1 last]
            exact leaves
      · have edited : ∃ one ∈ events ++ [event], one.Edits id := ⟨one, by simp [listed], edits⟩
        rcases step.1.renews_or_keeps middleSound found step.2 with
          ⟨-, other, otherFound, newer, -⟩ | ⟨-, kept⟩
        · exact .inr ⟨edited, other, otherFound, by omega⟩
        · exact .inr ⟨edited, entry, kept, new⟩

/-- A definition is the registered one since the last edit, and has no evaluations before. -/
theorem since_edit (before : RunKeeping id start earlier state)
    (run : RunKeeping id state events final) (sound : start.Sound)
    (registered : start.registry.IsRegistered id)
    (found : final.registry.get? id = some entry) :
    (state.registry.get? id = some entry ∧ ∀ event ∈ events, ¬ event.Edits id) ∨
    (verdicts entry.cell earlier = [] ∧ state.registry.get? id ≠ some entry ∧
      ∃ event ∈ events, event.Edits id) := by
  have stateSound := Run.sound (RunKeeping.run before) sound
  obtain ⟨first, firstFound⟩ := Option.isSome_iff_exists.1 (before.isRegistered registered)
  have within := stateSound.wellFormed.cells id first firstFound
  rcases run.keeps_or_renews stateSound firstFound with
    ⟨unedited, kept⟩ | ⟨edited, other, otherFound, new⟩
  · rw [found] at kept
    cases kept
    exact .inl ⟨firstFound, unedited⟩
  · rw [found] at otherFound
    cases otherFound
    refine .inr ⟨(Run.evaluated (RunKeeping.run before) sound).verdicts_eq_nil new, ?_, edited⟩
    intro same
    rw [firstFound] at same
    cases same
    omega

end RunKeeping

/-- What is reported about an alert comes from an evaluation of one of its definitions. -/
theorem Step.evaluates_of_told (step : Step state event next) (sound : state.Sound) {id : String}
    (told : event.told id ≠ []) :
    ∃ evaluation ∈ event.evaluations, evaluation.entry.alert.id = id := by
  cases step with
  | handedOut => exact absurd rfl told
  | @passed group waits engine fetched now reached =>
      obtain ⟨warning, reported⟩ := List.exists_mem_of_ne_nil _ told
      obtain ⟨listed, about⟩ := List.mem_filter.1 reported
      cases view : group.view? engine fetched with
      | none =>
          rw [(state.registry.skips_of_no_view view now reached).warnings] at listed
          cases listed
      | some seen =>
          obtain ⟨snapshot, bar⟩ := seen
          rw [Registry.warnings_passGroup_of_view _ (sound.cells group waits) view, toldOf,
            List.mem_flatMap] at listed
          obtain ⟨member, isMember, listed⟩ := listed
          rw [neverResolves_of_mem_pass listed] at about
          simp only [GroupEvent.evaluations, Registry.evaluations, view, List.mem_map]
          exact ⟨_, ⟨member, isMember, rfl⟩, beq_iff_eq.1 about⟩
  | changed operation change => exact absurd rfl told

theorem Run.evaluates_of_told {start final : SharedGroups} (run : Run start events final)
    (sound : start.Sound) {id : String} : ∀ event ∈ events, event.told id ≠ [] →
      ∃ evaluation ∈ event.evaluations, evaluation.entry.alert.id = id := by
  induction run with
  | nil => exact fun _ listed => (List.not_mem_nil listed).elim
  | snoc rest step induction =>
      intro event listed told
      rcases List.mem_append.1 listed with earlier | last
      · exact induction event earlier told
      · rw [List.mem_singleton.1 last] at told ⊢
        exact step.evaluates_of_told (Run.sound rest sound) told

/-- Misses in a row are counted and told about once. Take any definition that an alert has at some
moment after it started from the default state: it is the registered one since the last edit before
that moment, and only evaluated since then. Its cell counts how many of its latest evaluations
missed a value, and remembers whether these reach the limit. The evaluation that makes them reach it
reports the alert, and no other one does, so that there are as many reports as rows of misses that
reach the limit; and whatever is reported about the alert comes from an evaluation of a definition
of it. Groups without candles, evaluations that crash, other changes and evaluations of other
definitions count for nothing. -/
theorem rows_of_misses_are_told_once {earlier before after : List GroupEvent}
    {start middle final : SharedGroups} (reached : Run {} earlier start) {id : String}
    (registered : start.registry.runtime? id = some {}) (run : RunKeeping id start before middle)
    {entry : Registered} (found : middle.registry.get? id = some entry)
    (rest : Run middle after final)
    (few : (verdicts entry.cell (before ++ after)).length < 2 ^ 32) :
    (∀ upTo since state, RunKeeping id start upTo state → RunKeeping id state since middle →
      (state.registry.get? id = some entry ↔ ∀ event ∈ since, ¬ event.Edits id) ∧
      ((∃ event ∈ since, event.Edits id) → verdicts entry.cell upTo = [])) ∧
    (final.registry.cell entry.cell).missingStreak.toNat =
      missedInARow (verdicts entry.cell (before ++ after)) ∧
    ((final.registry.cell entry.cell).warnedUnresolvable = true ↔
      missingValueWarnAfter.toNat ≤ missedInARow (verdicts entry.cell (before ++ after))) ∧
    (∀ upTo event since missing, before ++ after = upTo ++ event :: since →
      event.missing? entry.cell = some missing →
        event.told id = unresolvedWarnings id (verdicts entry.cell upTo) missing) ∧
    (toldBy entry (before ++ after)).length =
      (rowsOfMisses (verdicts entry.cell (before ++ after))).countP
        (missingValueWarnAfter.toNat ≤ ·) ∧
    (∀ event ∈ before ++ after, event.told id ≠ [] →
      ∃ evaluation ∈ event.evaluations, evaluation.entry.alert.id = id) := by
  have startSound := Run.sound reached .empty
  have middleSound := Run.sound (RunKeeping.run run) startSound
  have isRegistered := Registry.isRegistered_of_runtime? registered
  have named := middleSound.wellFormed.ids id entry found
  have fewer := few
  rw [verdicts_append, List.length_append] at fewer
  have tracked := Run.tracked rest middleSound (.of_registered middleSound found)
    (RunKeeping.tracked run startSound registered found (by omega)) few
  refine ⟨?_, tracked.counts.streak, tracked.counts.warned, ?_, tracked.length_toldBy, ?_⟩
  · intro upTo since state first second
    rcases RunKeeping.since_edit first second startSound isRegistered found with
      ⟨same, unedited⟩ | ⟨unevaluated, other, event, listed, edits⟩
    · refine ⟨⟨fun _ => unedited, fun _ => same⟩, ?_⟩
      rintro ⟨event, listed, edits⟩
      exact absurd edits (unedited event listed)
    · refine ⟨⟨fun same => absurd same other, fun unedited => ?_⟩, fun _ => unevaluated⟩
      exact absurd edits (unedited event listed)
  · rw [← named]
    exact tracked.told
  · exact Run.evaluates_of_told (StepRun.trans (RunKeeping.run run) rest) startSound

/-! An alert on an indicator that is never computed. -/

def strengthBelow : Registered where
  alert :=
    { SharedAlerts.closeAbove "BTC" "owner" with
      logic := .conditions
        [{ subject := .indicator (.named "RSI") "RSI", operator := .less, comparand := .literal 30
           timeframe := .same, percentage := none }] .all }
  cell := 0

def strengthGroup : Group where
  key := GroupKey.of strengthBelow.alert
  members := [strengthBelow]

/-- The alert was activated and its group was handed out. -/
def strengthHanded : SharedGroups where
  registry := (({} : Registry).activate strengthBelow.alert none).2
  handed := [strengthGroup]

theorem strengthHanded_reached : Run {} [.changed [], .handedOut] strengthHanded := by
  have activated := Step.changed {} (.activate strengthBelow.alert none) rfl
  have handed := Step.handedOut { registry := strengthHanded.registry }
  have only : strengthHanded.registry.groups = [strengthGroup] :=
    Registry.groups_of_single (show strengthHanded.registry.alerts.entries =
      [("a1", strengthBelow)] from rfl)
  rw [only] at handed
  exact (StepRun.single activated).snoc handed

/-- The group is evaluated once for each answer of the market. -/
def strengthPasses (answers : List (Except MissingData (List Candle))) :
    List GroupEvent × SharedGroups :=
  answers.foldl (fun sofar fetched =>
    let registry := sofar.2.registry
    let pass := registry.passGroup (fun _ _ => none) strengthGroup fetched ⟨1700000000, 0⟩
      (fun _ => true)
    (sofar.1 ++
      [.passed
        (registry.evaluations (fun _ _ => none) strengthGroup fetched ⟨1700000000, 0⟩
          (fun _ => true))
        pass.journal.warnings],
      { sofar.2 with registry := pass.registry })) ([], strengthHanded)

theorem strengthPasses_run (answers : List (Except MissingData (List Candle))) :
    RunKeeping "a1" strengthHanded (strengthPasses answers).1 (strengthPasses answers).2 ∧
      (strengthPasses answers).2.handed = [strengthGroup] ∧
      (strengthPasses answers).2.registry.get? "a1" = some strengthBelow := by
  refine List.foldlRecOn (motive := fun sofar : List GroupEvent × SharedGroups =>
    RunKeeping "a1" strengthHanded sofar.1 sofar.2 ∧ sofar.2.handed = [strengthGroup] ∧
      sofar.2.registry.get? "a1" = some strengthBelow) answers _ ⟨.nil, rfl, rfl⟩ ?_
  rintro ⟨events, state⟩ ⟨run, handed, found⟩ fetched -
  have waits : strengthGroup ∈ state.handed := by
    rw [handed]
    exact List.mem_singleton_self _
  obtain ⟨cells, -, after⟩ := state.registry.exists_cells_passGroup (fun _ _ => none) strengthGroup
    fetched ⟨1700000000, 0⟩ (fun _ => true)
  have still : (state.registry.passGroup (fun _ _ => none) strengthGroup fetched
      ⟨1700000000, 0⟩ (fun _ => true)).registry.get? "a1" = some strengthBelow := by
    rw [after]
    exact found
  refine ⟨run.snoc ⟨.passed state waits _ fetched _ _, ?_⟩, handed, still⟩
  exact Option.isSome_iff_exists.2 ⟨strengthBelow, still⟩

/-- Four evaluations without a value, a market that does not answer, and two more evaluations. -/
def strengthAnswers : List (Except MissingData (List Candle)) :=
  List.replicate 4 (.ok [SharedAlerts.barAt 3600]) ++
    .error .empty :: List.replicate 2 (.ok [SharedAlerts.barAt 7200])

theorem unresolvable_strength_is_told_once :
    ∃ events final, RunKeeping "a1" strengthHanded events final ∧ events.length = 7 ∧
      (final.registry.cell strengthBelow.cell).missingStreak.toNat = 6 ∧
      (final.registry.cell strengthBelow.cell).warnedUnresolvable = true ∧
      (toldBy strengthBelow events).length = 1 := by
  obtain ⟨run, -, found⟩ := strengthPasses_run strengthAnswers
  have missed : verdicts strengthBelow.cell (strengthPasses strengthAnswers).1 =
      List.replicate 6 true := by decide +kernel
  have told := rows_of_misses_are_told_once strengthHanded_reached rfl run found .nil
    (by rw [List.append_nil, missed]; decide)
  rw [List.append_nil, missed] at told
  obtain ⟨-, streak, warned, -, reports, -⟩ := told
  exact ⟨_, _, run, by decide +kernel, streak, warned.2 (by decide), reports⟩

end SharedGroups

end CandleAlerts
