import CandleAlerts.Proofs.PlaybookPass
import Mathlib.Data.List.Basic

/-!
What the logic of an alert takes from the answers to its conditions.

An outcome depends on nothing but the answers to the conditions of the alert, and every reason it
gives for a missing value is the reason of one of them.
-/

namespace CandleAlerts

@[simp] theorem LogicOutcome.note_missing (outcome : LogicOutcome) (id : String)
    (evaluation : Evaluation) :
    (outcome.note id evaluation).missing =
      outcome.missing ++ (evaluation.missing.map (fun reason => (id, reason))).toList := by
  simp only [LogicOutcome.note]
  cases evaluation.missing <;> cases evaluation.satisfied <;> simp

/-! ## Answers that agree -/

/-- Answers that agree on the conditions joined come to the same outcome. -/
theorem joinConditions_congr {first second : Condition → Evaluation} {conditions : List Condition}
    (agree : ∀ condition ∈ conditions, first condition = second condition) (logic : Logic) :
    joinConditions first conditions logic = joinConditions second conditions logic := by
  have folded :
      conditions.zipIdx.foldl (fun (outcome : LogicOutcome) entry =>
        outcome.note (toString entry.2) (first entry.1)) {} =
      conditions.zipIdx.foldl (fun (outcome : LogicOutcome) entry =>
        outcome.note (toString entry.2) (second entry.1)) {} := by
    apply List.foldl_ext
    intro outcome entry member
    rw [agree entry.1 (List.fst_mem_of_mem_zipIdx member)]
  simp only [joinConditions]
  rw [folded]

theorem PlaybookPass.visit_congr {first second : Condition → Evaluation} (latches : Latches)
    (moment : PassMoment) (pass : PlaybookPass) {entry : PlaybookEntry}
    (agree : first entry.condition = second entry.condition) :
    pass.visit first latches moment entry = pass.visit second latches moment entry := by
  simp only [visit]
  rw [agree]

theorem Playbook.join_congr (playbook : Playbook) {first second : Condition → Evaluation}
    (agree : ∀ entry ∈ playbook.entries, first entry.condition = second entry.condition)
    (latches : Latches) (moment : PassMoment) :
    playbook.join first latches moment = playbook.join second latches moment := by
  have passes : playbook.pass first latches moment = playbook.pass second latches moment := by
    apply List.foldl_ext
    intro pass entry member
    apply PlaybookPass.visit_congr
    exact agree entry ((playbook.mem_enabledInOrder entry).1 member).1
  simp only [join]
  rw [passes]

theorem Alert.join_congr (alert : Alert) {first second : Condition → Evaluation}
    (agree : ∀ condition ∈ alert.conditions, first condition = second condition)
    (latches : Latches) (moment : PassMoment) :
    alert.join first latches moment = alert.join second latches moment := by
  simp only [conditions] at agree
  simp only [join]
  cases logic : alert.logic with
  | conditions conditions junction =>
      simp only [logic] at agree
      exact joinConditions_congr agree junction
  | playbook playbook =>
      simp only [logic] at agree
      apply playbook.join_congr
      intro entry member
      exact agree entry.condition (List.mem_map_of_mem member)

/-! ## Missing values -/

/-- Whatever an outcome misses was missed by one of the conditions joined. -/
def LogicOutcome.MissingFrom (answer : Condition → Evaluation) (conditions : List Condition)
    (outcome : LogicOutcome) : Prop :=
  ∀ entry ∈ outcome.missing, ∃ condition ∈ conditions, (answer condition).missing = some entry.2

theorem LogicOutcome.MissingFrom.note {answer : Condition → Evaluation}
    {conditions : List Condition} {outcome : LogicOutcome}
    (origin : outcome.MissingFrom answer conditions) (id : String) {condition : Condition}
    (member : condition ∈ conditions) :
    (outcome.note id (answer condition)).MissingFrom answer conditions := by
  intro entry listed
  rw [note_missing, List.mem_append] at listed
  rcases listed with before | added
  · exact origin entry before
  · cases missing : (answer condition).missing with
    | none => simp [missing] at added
    | some reason =>
        simp only [missing, Option.map_some, Option.toList_some, List.mem_singleton] at added
        exact ⟨condition, member, by rw [missing, added]⟩

theorem joinConditions_missing (answer : Condition → Evaluation) (conditions : List Condition)
    (logic : Logic) : (joinConditions answer conditions logic).MissingFrom answer conditions := by
  have folded : LogicOutcome.MissingFrom answer conditions
      (conditions.zipIdx.foldl (fun (outcome : LogicOutcome) entry =>
        outcome.note (toString entry.2) (answer entry.1)) {}) := by
    refine List.foldlRecOn _ _ (by simp [LogicOutcome.MissingFrom]) ?_
    intro outcome origin entry member
    exact origin.note _ (List.fst_mem_of_mem_zipIdx member)
  exact folded

theorem PlaybookPass.visit_missing {answer : Condition → Evaluation} {conditions : List Condition}
    (latches : Latches) (moment : PassMoment) {pass : PlaybookPass}
    (origin : pass.outcome.MissingFrom answer conditions) {entry : PlaybookEntry}
    (member : entry.condition ∈ conditions) :
    (pass.visit answer latches moment entry).outcome.MissingFrom answer conditions := by
  simp only [visit]
  cases entry.heldBy? latches moment with
  | some latch =>
      intro missing listed
      simp only [LogicOutcome.note_missing, Option.map_none, Option.toList_none,
        List.append_nil] at listed
      exact origin missing listed
  | none =>
      intro missing listed
      rw [LogicOutcome.note_missing] at listed
      apply LogicOutcome.MissingFrom.note origin entry.id member missing
      rw [LogicOutcome.note_missing]
      exact listed

theorem Playbook.join_missing (playbook : Playbook) (answer : Condition → Evaluation)
    (latches : Latches) (moment : PassMoment) :
    (playbook.join answer latches moment).MissingFrom answer
      (playbook.entries.map PlaybookEntry.condition) := by
  have folded : LogicOutcome.MissingFrom answer (playbook.entries.map PlaybookEntry.condition)
      (playbook.pass answer latches moment).outcome := by
    refine List.foldlRecOn (motive := fun pass : PlaybookPass =>
      pass.outcome.MissingFrom answer (playbook.entries.map PlaybookEntry.condition)) _ _
      (by simp [LogicOutcome.MissingFrom]) ?_
    intro pass origin entry member
    exact PlaybookPass.visit_missing latches moment origin
      (List.mem_map_of_mem ((playbook.mem_enabledInOrder entry).1 member).1)
  exact folded

theorem Alert.join_missing (alert : Alert) (answer : Condition → Evaluation) (latches : Latches)
    (moment : PassMoment) :
    (alert.join answer latches moment).MissingFrom answer alert.conditions := by
  simp only [join, conditions]
  cases alert.logic with
  | conditions conditions logic => exact joinConditions_missing answer conditions logic
  | playbook playbook => exact playbook.join_missing answer latches moment

end CandleAlerts
