import CandleAlerts.Proofs.GroupIsolation
import Mathlib.Data.List.DropRight
import Mathlib.Data.List.Induction

/-!
Evaluations in a row that missed a value.

A verdict on an evaluation is whether it missed a value. The state of an alert counts the misses at
the end of the verdicts, and the evaluation that brings them to the limit is the one that is told
about.
-/

namespace CandleAlerts

/-! ## Rows of misses -/

/-- How many misses the verdicts end with. -/
def missedInARow (verdicts : List Bool) : Nat :=
  (verdicts.rtakeWhile id).length

/-- The lengths of the rows of misses that the other verdicts leave between them. -/
def rowsOfMisses (verdicts : List Bool) : List Nat :=
  (verdicts.splitOn false).map List.length

theorem missedInARow_le_length (verdicts : List Bool) : missedInARow verdicts ≤ verdicts.length :=
  (List.rtakeWhile_suffix id verdicts).length_le

@[simp] theorem missedInARow_nil : missedInARow [] = 0 := rfl

@[simp] theorem missedInARow_concat_true (verdicts : List Bool) :
    missedInARow (verdicts ++ [true]) = missedInARow verdicts + 1 := by
  rw [missedInARow, List.rtakeWhile_concat_pos id verdicts true rfl, List.length_append,
    List.length_singleton, missedInARow]

@[simp] theorem missedInARow_concat_false (verdicts : List Bool) :
    missedInARow (verdicts ++ [false]) = 0 := by
  rw [missedInARow, List.rtakeWhile_concat_neg id verdicts false Bool.false_ne_true,
    List.length_nil]

/-- A verdict that is no miss ends one row and begins another. -/
theorem rowsOfMisses_append_false_cons (before after : List Bool) :
    rowsOfMisses (before ++ false :: after) = rowsOfMisses before ++ rowsOfMisses after := by
  simp only [rowsOfMisses, List.splitOn]
  rw [List.splitOnP_append_cons before after rfl, List.map_append]

theorem rowsOfMisses_replicate (count : Nat) :
    rowsOfMisses (List.replicate count true) = [count] := by
  simp only [rowsOfMisses, List.splitOn]
  rw [List.splitOnP_eq_singleton (fun verdict listed => by simp [List.eq_of_mem_replicate listed]),
    List.map_singleton, List.length_replicate]

/-- The last row is the one that goes on. -/
theorem exists_rowsOfMisses_append_replicate (verdicts : List Bool) :
    ∃ others, ∀ count, rowsOfMisses (verdicts ++ List.replicate count true) =
      others ++ [missedInARow verdicts + count] := by
  induction verdicts using List.reverseRecOn with
  | nil =>
      refine ⟨[], fun count => ?_⟩
      rw [List.nil_append, rowsOfMisses_replicate, missedInARow_nil, Nat.zero_add, List.nil_append]
  | append_singleton verdicts verdict induction =>
      cases verdict with
      | false =>
          refine ⟨rowsOfMisses verdicts, fun count => ?_⟩
          rw [List.append_assoc, List.singleton_append, rowsOfMisses_append_false_cons,
            rowsOfMisses_replicate, missedInARow_concat_false, Nat.zero_add]
      | true =>
          obtain ⟨others, rows⟩ := induction
          refine ⟨others, fun count => ?_⟩
          rw [List.append_assoc, List.singleton_append, ← List.replicate_succ, rows,
            missedInARow_concat_true, Nat.add_right_comm, Nat.add_assoc]

/-- One more verdict makes one more row reach a limit if it is the miss that brings the row to
it. -/
theorem countP_rowsOfMisses_concat {limit : Nat} (positive : 0 < limit) (verdicts : List Bool)
    (verdict : Bool) :
    (rowsOfMisses (verdicts ++ [verdict])).countP (limit ≤ ·) =
      (rowsOfMisses verdicts).countP (limit ≤ ·) +
        if verdict = true ∧ missedInARow verdicts + 1 = limit then 1 else 0 := by
  cases verdict with
  | false =>
      have short : ¬ limit ≤ 0 := by omega
      have last : rowsOfMisses [] = [0] := rowsOfMisses_replicate 0
      rw [rowsOfMisses_append_false_cons, last, List.countP_append]
      simp [short]
  | true =>
      obtain ⟨others, rows⟩ := exists_rowsOfMisses_append_replicate verdicts
      have before := rows 0
      have after := rows 1
      rw [List.replicate_zero, List.append_nil, Nat.add_zero] at before
      rw [List.replicate_one] at after
      rw [before, after, List.countP_append, List.countP_append, List.countP_singleton,
        List.countP_singleton, Nat.add_assoc]
      simp only [decide_eq_true_eq, true_and]
      congr 1
      split <;> split <;> split <;> omega

/-! ## One evaluation -/

/-- Whether a state counts the misses at the end of some verdicts, and remembers whether they were
told about. -/
structure AlertRuntime.Counts (runtime : AlertRuntime) (verdicts : List Bool) : Prop where
  streak : runtime.missingStreak.toNat = missedInARow verdicts
  warned : runtime.warnedUnresolvable = true ↔
    missingValueWarnAfter.toNat ≤ missedInARow verdicts

/-- What is told about an alert when an evaluation misses some values, after the verdicts on those
before. -/
def unresolvedWarnings (id : String) (verdicts : List Bool)
    (missing : List (String × MissingValue)) : List Warning :=
  if missing ≠ [] ∧ missedInARow verdicts + 1 = missingValueWarnAfter.toNat then
    [.conditionNeverResolves id missingValueWarnAfter.toNat
      (missing.map (fun entry => entry.1 ++ ": " ++ entry.2.message))]
  else []

theorem length_unresolvedWarnings (id : String) (verdicts : List Bool)
    (missing : List (String × MissingValue)) :
    (unresolvedWarnings id verdicts missing).length =
      if (!missing.isEmpty) = true ∧ missedInARow verdicts + 1 = missingValueWarnAfter.toNat then 1
      else 0 := by
  have same : (!missing.isEmpty) = true ↔ missing ≠ [] := by simp
  rw [unresolvedWarnings]
  simp only [same]
  split <;> rfl

namespace AlertRuntime

variable {runtime : AlertRuntime} {verdicts : List Bool}

theorem Counts.fresh (streak : runtime.missingStreak = 0)
    (warned : runtime.warnedUnresolvable = false) : runtime.Counts [] where
  streak := by rw [streak]; rfl
  warned := by rw [warned]; decide

theorem Counts.afterEdit (runtime : AlertRuntime) : runtime.afterEdit.Counts [] :=
  .fresh rfl rfl

theorem Counts.trackMissing (counts : runtime.Counts verdicts)
    (few : verdicts.length + 1 < 2 ^ 32) (outcome : LogicOutcome) :
    (runtime.trackMissing outcome).2.Counts (verdicts ++ [!outcome.missing.isEmpty]) ∧
      ((runtime.trackMissing outcome).1 = true ↔
        outcome.missing ≠ [] ∧ missedInARow verdicts + 1 = missingValueWarnAfter.toNat) := by
  have limit : missingValueWarnAfter.toNat = 5 := rfl
  cases missing : outcome.missing with
  | nil =>
      simp only [AlertRuntime.trackMissing, missing, List.isEmpty_nil, if_true, Bool.not_true]
      refine ⟨⟨?_, ?_⟩, by simp⟩
      · rw [missedInARow_concat_false]
        rfl
      · rw [missedInARow_concat_false, limit]
        simp
  | cons first others =>
      have most := missedInARow_le_length verdicts
      have next : (runtime.missingStreak + 1).toNat = missedInARow verdicts + 1 := by
        rw [UInt32.toNat_add, counts.streak]
        exact Nat.mod_eq_of_lt (by simp; omega)
      have reaches : missingValueWarnAfter ≤ runtime.missingStreak + 1 ↔
          5 ≤ missedInARow verdicts + 1 := by
        rw [UInt32.le_iff_toNat_le, next, limit]
      have warned := counts.warned
      rw [limit] at warned
      simp only [AlertRuntime.trackMissing, missing, List.isEmpty_cons, Bool.false_eq_true,
        if_false, Bool.not_false]
      refine ⟨⟨?_, ?_⟩, ?_⟩
      · rw [missedInARow_concat_true]
        exact next
      · rw [missedInARow_concat_true, limit]
        simp only [Bool.or_eq_true, Bool.and_eq_true, decide_eq_true_eq, Bool.not_eq_true', reaches,
          warned, ← Bool.not_eq_true]
        omega
      · simp only [Bool.and_eq_true, decide_eq_true_eq, Bool.not_eq_true', reaches, warned,
          ← Bool.not_eq_true, ne_eq, reduceCtorEq, not_false_eq_true, true_and, limit]
        omega

end AlertRuntime

namespace Alert

variable (alert : Alert) (snapshot : Snapshot) (bar : Candle) (now : Instant)

/-- The state of an alert that is being evaluated, as its missing values are counted. -/
def evaluating (runtime : AlertRuntime) : Bool × AlertRuntime :=
  let outcome := alert.evaluate snapshot runtime.latches now
  { runtime with latches := outcome.latches, lastEvaluatedAt := some now }.trackMissing outcome

theorem warnings_pass (runtime : AlertRuntime) :
    (alert.pass snapshot bar now runtime).journal.warnings =
      if (alert.evaluating snapshot now runtime).1 = true then
        [alert.unresolvedWarning (alert.evaluating snapshot now runtime).2
          (alert.evaluate snapshot runtime.latches now)]
      else [] := by
  have warnings (warns : Bool) (after : AlertRuntime) (outcome : LogicOutcome) :
      (if warns = true then
        ({} : Journal).warn (alert.unresolvedWarning after outcome) else {}).warnings =
          if warns = true then [alert.unresolvedWarning after outcome] else [] := by
    cases warns <;> rfl
  rw [← warnings]
  simp only [pass, evaluating]
  split
  · rfl
  · split
    · exact Journal.warnings_count _ _ _
    · exact Journal.warnings_count _ _ _

theorem runtime_pass (runtime : AlertRuntime) (verdicts : List Bool) :
    (alert.pass snapshot bar now runtime).runtime.Counts verdicts ↔
      (alert.evaluating snapshot now runtime).2.Counts verdicts := by
  simp only [pass, evaluating]
  split
  · rfl
  · split
    · exact ⟨fun counts => ⟨counts.streak, counts.warned⟩,
        fun counts => ⟨counts.streak, counts.warned⟩⟩
    · rfl

/-- An evaluation counts its own verdict, and tells about the alert when that brings the misses to
the limit. -/
theorem pass_counts {runtime : AlertRuntime} {verdicts : List Bool}
    (counts : runtime.Counts verdicts) (few : verdicts.length + 1 < 2 ^ 32) :
    (alert.pass snapshot bar now runtime).runtime.Counts
        (verdicts ++ [!(alert.evaluate snapshot runtime.latches now).missing.isEmpty]) ∧
      (alert.pass snapshot bar now runtime).journal.warnings = unresolvedWarnings alert.id verdicts
        (alert.evaluate snapshot runtime.latches now).missing := by
  have evaluated : ({ runtime with
      latches := (alert.evaluate snapshot runtime.latches now).latches
      lastEvaluatedAt := some now } : AlertRuntime).Counts verdicts :=
    ⟨counts.streak, counts.warned⟩
  obtain ⟨counted, told⟩ := evaluated.trackMissing few (alert.evaluate snapshot runtime.latches now)
  refine ⟨(alert.runtime_pass snapshot bar now runtime _).2 counted, ?_⟩
  rw [warnings_pass, unresolvedWarnings]
  by_cases tells : (alert.evaluating snapshot now runtime).1 = true
  · have reached := told.1 tells
    have missed :
        (!(alert.evaluate snapshot runtime.latches now).missing.isEmpty) = true := by
      simp [reached.1]
    have streak := counted.streak
    rw [missed, missedInARow_concat_true, reached.2] at streak
    rw [if_pos tells, if_pos reached, unresolvedWarning]
    exact congrArg (fun count => [Warning.conditionNeverResolves alert.id count _]) streak
  · rw [if_neg tells, if_neg (fun reached => tells (told.2 reached))]

end Alert

/-! ## One group -/

/-- Whether a report tells that the condition of an alert never resolves. -/
def Warning.neverResolves (id : String) : Warning → Bool
  | conditionNeverResolves alertId _ _ => alertId == id
  | _ => false

/-- An evaluation of an alert: on which cell, and the values that it missed. -/
structure AlertEvaluation where
  entry : Registered
  missing : List (String × MissingValue)

/-- The evaluations of a group that are completed, at most one for each member. There are none if it
has nothing to work on. -/
def Registry.evaluations (registry : Registry) (engine : IndicatorEngine) (group : Group)
    (fetched : Except MissingData (List Candle)) (now : Instant) (reached : Registered → Bool) :
    List AlertEvaluation :=
  match group.view? engine fetched with
  | none => []
  | some (snapshot, _) => (registry.completed group snapshot now reached).map (fun member =>
      { entry := member
        missing :=
          (member.alert.evaluate snapshot (registry.cell member.cell).latches now).missing })

theorem Registry.entry_mem_of_mem_evaluations {registry : Registry} {engine : IndicatorEngine}
    {group : Group} {fetched : Except MissingData (List Candle)} {now : Instant}
    {reached : Registered → Bool} {evaluation : AlertEvaluation}
    (among : evaluation ∈ registry.evaluations engine group fetched now reached) :
    evaluation.entry ∈ group.members := by
  unfold evaluations at among
  split at among
  · cases among
  · obtain ⟨member, isCompleted, rfl⟩ := List.mem_map.1 among
    exact mem_of_completed isCompleted

/-- What is told about some members on a bar, each evaluated by its own cell. -/
def toldOf (members : List Registered) (registry : Registry) (snapshot : Snapshot) (bar : Candle)
    (now : Instant) : List Warning :=
  members.flatMap (fun member =>
    (member.alert.pass snapshot bar now (registry.cell member.cell)).journal.warnings)

theorem toldOf_congr {members : List Registered} {first second : Registry}
    (same : ∀ member ∈ members, first.cell member.cell = second.cell member.cell)
    (snapshot : Snapshot) (bar : Candle) (now : Instant) :
    toldOf members first snapshot bar now = toldOf members second snapshot bar now := by
  apply List.flatMap_congr
  intro member among
  rw [same member among]

theorem MembersPass.warnings_foldl_visit (snapshot : Snapshot) (bar : Candle) (now : Instant)
    {members : List Registered} (distinct : (members.map Registered.cell).Nodup)
    (sofar : MembersPass) :
    (members.foldl (visit snapshot bar now) sofar).journal.warnings =
      sofar.journal.warnings ++ toldOf members sofar.registry snapshot bar now := by
  induction members generalizing sofar with
  | nil => exact (List.append_nil _).symm
  | cons first rest induction =>
      rw [List.map_cons, List.nodup_cons] at distinct
      obtain ⟨fresh, distinct⟩ := distinct
      have kept : ∀ member ∈ rest, (sofar.visit snapshot bar now first).registry.cell member.cell =
          sofar.registry.cell member.cell := by
        intro member inRest
        apply sofar.registry.cell_setCell_of_ne
        exact fun same => fresh (same ▸ List.mem_map_of_mem inRest)
      rw [List.foldl_cons, induction distinct, toldOf_congr kept]
      simp only [visit, toldOf, Journal.warnings_append, List.flatMap_cons, List.append_assoc]

namespace Registry

variable {engine : IndicatorEngine} {group : Group} {fetched : Except MissingData (List Candle)}

/-- The evaluation of a group writes cells and nothing else. -/
theorem exists_cells_passGroup (registry : Registry) (engine : IndicatorEngine) (group : Group)
    (fetched : Except MissingData (List Candle)) (now : Instant) (reached : Registered → Bool) :
    ∃ cells : Array AlertRuntime, cells.size = registry.cells.size ∧
      (registry.passGroup engine group fetched now reached).registry = { registry with cells } := by
  cases view : group.view? engine fetched with
  | none => exact ⟨registry.cells, rfl, (registry.skips_of_no_view view now reached).registry⟩
  | some found =>
      rw [(registry.concludes_of_view view now reached).registry]
      refine List.foldlRecOn (motive := fun pass : MembersPass =>
        ∃ cells : Array AlertRuntime, cells.size = registry.cells.size ∧
          pass.registry = { registry with cells })
        (registry.completed group found.1 now reached) _ ⟨registry.cells, rfl, rfl⟩ ?_
      rintro pass ⟨cells, size, same⟩ member -
      have written (runtime : AlertRuntime) : pass.registry.setCell member.cell runtime =
          { registry with cells := cells.setIfInBounds member.cell runtime } := by
        rw [same]
        rfl
      exact ⟨_, by rw [Array.size_setIfInBounds, size], written _⟩

theorem warnings_passGroup_of_view (registry : Registry)
    (distinct : (group.members.map Registered.cell).Nodup) {snapshot : Snapshot} {bar : Candle}
    (view : group.view? engine fetched = some (snapshot, bar)) (now : Instant)
    (reached : Registered → Bool) :
    (registry.passGroup engine group fetched now reached).journal.warnings =
      toldOf (registry.completed group snapshot now reached) registry snapshot bar now := by
  rw [(registry.concludes_of_view view now reached).warnings, passMembers,
    MembersPass.warnings_foldl_visit _ _ _
      (distinct.sublist ((completed_sublist registry group snapshot now reached).map _))]
  rfl

end Registry

/-- Everything that is told about a member tells that its condition never resolves. -/
theorem neverResolves_of_mem_pass {alert : Alert} {snapshot : Snapshot} {bar : Candle}
    {now : Instant} {runtime : AlertRuntime} {warning : Warning}
    (told : warning ∈ (alert.pass snapshot bar now runtime).journal.warnings) (id : String) :
    warning.neverResolves id = (alert.id == id) := by
  rw [alert.warnings_pass] at told
  split at told
  · rw [List.mem_singleton.1 told]
    rfl
  · cases told

/-- What is told about the members of a group comes from the member that it is about. -/
theorem filter_toldOf {members : List Registered}
    (distinct : (members.map (fun member => member.alert.id)).Nodup) {entry : Registered}
    (isMember : entry ∈ members) (registry : Registry) (snapshot : Snapshot) (bar : Candle)
    (now : Instant) :
    (toldOf members registry snapshot bar now).filter (Warning.neverResolves entry.alert.id) =
      (entry.alert.pass snapshot bar now (registry.cell entry.cell)).journal.warnings := by
  have own (member : Registered) (same : member.alert.id = entry.alert.id) :
      (member.alert.pass snapshot bar now (registry.cell member.cell)).journal.warnings.filter
          (Warning.neverResolves entry.alert.id) =
        (member.alert.pass snapshot bar now (registry.cell member.cell)).journal.warnings := by
    rw [List.filter_eq_self]
    intro warning told
    rw [neverResolves_of_mem_pass told]
    exact beq_iff_eq.2 same
  have other (member : Registered) (different : member.alert.id ≠ entry.alert.id) :
      (member.alert.pass snapshot bar now (registry.cell member.cell)).journal.warnings.filter
          (Warning.neverResolves entry.alert.id) = [] := by
    rw [List.filter_eq_nil_iff]
    intro warning told
    rw [neverResolves_of_mem_pass told]
    exact fun same => different (beq_iff_eq.1 same)
  obtain ⟨before, after, rfl⟩ := List.append_of_mem isMember
  rw [List.map_append, List.map_cons, List.perm_middle.nodup_iff, List.nodup_cons,
    ← List.map_append, List.mem_map, not_exists] at distinct
  have elsewhere (member : Registered) (among : member ∈ before ++ after) :
      member.alert.id ≠ entry.alert.id := fun same => distinct.1 member ⟨among, same⟩
  have nothing (some : List Registered) (among : ∀ member ∈ some, member ∈ before ++ after) :
      (toldOf some registry snapshot bar now).filter (Warning.neverResolves entry.alert.id) =
        [] := by
    rw [toldOf, List.filter_flatMap, List.flatMap_eq_nil_iff]
    exact fun member inSome => other member (elsewhere member (among member inSome))
  rw [toldOf, List.flatMap_append, List.flatMap_cons, List.filter_append, List.filter_append,
    own entry rfl, ← toldOf, ← toldOf,
    nothing before (fun member => List.mem_append_left after),
    nothing after (fun member => List.mem_append_right before), List.nil_append, List.append_nil]

end CandleAlerts
