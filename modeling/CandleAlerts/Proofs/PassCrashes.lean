import CandleAlerts.Evaluation.Group
import CandleAlerts.Proofs.PlaybookPass

/-!
When an evaluation crashes.

It does exactly when an entry of a playbook comes to be latched for more minutes than the calendar
has left. A list of conditions never crashes.
-/

namespace CandleAlerts

/-- Whether a pass latches an entry anew, and beyond the end of the calendar. -/
def PlaybookEntry.overruns (entry : PlaybookEntry) (answer : Condition → Evaluation)
    (latches : Latches) (moment : PassMoment) : Bool :=
  (entry.heldBy? latches moment).isNone && (answer entry.condition).satisfied &&
    0 < entry.validity && !entry.latchFits moment

theorem LogicOutcome.note_crashed (outcome : LogicOutcome) (id : String)
    (evaluation : Evaluation) : (outcome.note id evaluation).crashed = outcome.crashed := by
  simp only [note]
  cases evaluation.missing <;> cases evaluation.satisfied <;> rfl

section Passes

variable (answer : Condition → Evaluation) (latches : Latches) (moment : PassMoment)

theorem PlaybookPass.visit_crashed (pass : PlaybookPass) (entry : PlaybookEntry) :
    (pass.visit answer latches moment entry).outcome.crashed =
      (pass.outcome.crashed || entry.overruns answer latches moment) := by
  simp only [visit, PlaybookEntry.overruns]
  cases entry.heldBy? latches moment with
  | some latch => simp [LogicOutcome.note_crashed]
  | none => simp [LogicOutcome.note_crashed]

theorem PlaybookPass.foldl_visit_crashed (entries : List PlaybookEntry) (pass : PlaybookPass) :
    (entries.foldl (visit answer latches moment) pass).outcome.crashed =
      (pass.outcome.crashed ||
        entries.any (fun entry => entry.overruns answer latches moment)) := by
  induction entries generalizing pass with
  | nil => simp
  | cons entry rest induction =>
      rw [List.foldl_cons, induction, visit_crashed, List.any_cons, Bool.or_assoc]

theorem Playbook.join_crashed (playbook : Playbook) :
    (playbook.join answer latches moment).crashed =
      playbook.enabledInOrder.any (fun entry => entry.overruns answer latches moment) :=
  PlaybookPass.foldl_visit_crashed answer latches moment playbook.enabledInOrder {}

theorem joinConditions_crashed (conditions : List Condition) (logic : Logic) :
    (joinConditions answer conditions logic).crashed = false := by
  refine List.foldlRecOn (motive := fun outcome : LogicOutcome => outcome.crashed = false)
    conditions.zipIdx _ rfl ?_
  intro outcome unharmed entry _
  rw [LogicOutcome.note_crashed, unharmed]

end Passes

/-- Whether an enabled entry of the playbook of an alert is to be latched beyond the end of the
calendar. -/
def Alert.Overruns (alert : Alert) (snapshot : Snapshot) (latches : Latches) (now : Instant) :
    Prop :=
  ∃ playbook, alert.logic = .playbook playbook ∧ ∃ entry ∈ playbook.entries,
    entry.enabled = true ∧ entry.overruns snapshot.evaluate latches (.of snapshot now) = true

theorem Alert.evaluate_crashed_iff (alert : Alert) (snapshot : Snapshot) (latches : Latches)
    (now : Instant) :
    (alert.evaluate snapshot latches now).crashed = true ↔
      alert.Overruns snapshot latches now := by
  simp only [evaluate, join, Overruns]
  cases alert.logic with
  | conditions conditions logic => simp [joinConditions_crashed]
  | playbook playbook =>
      simp [Playbook.join_crashed, Playbook.mem_enabledInOrder, and_assoc]

/-- No evaluation of a group crashes exactly when none of its members overruns. -/
theorem Registry.allSurvive_iff (registry : Registry) (group : Group) (snapshot : Snapshot)
    (now : Instant) :
    registry.allSurvive group snapshot now = true ↔ ∀ member ∈ group.members,
      ¬ member.alert.Overruns snapshot (registry.cell member.cell).latches now := by
  simp only [allSurvive, List.all_eq_true, survives, Bool.not_eq_true',
    ← Alert.evaluate_crashed_iff, Bool.not_eq_true]

/-- A group whose members have conditions and no playbook survives. -/
theorem Registry.allSurvive_of_conditions {registry : Registry} {group : Group}
    (plain : ∀ member ∈ group.members,
      ∃ conditions logic, member.alert.logic = .conditions conditions logic)
    (snapshot : Snapshot) (now : Instant) :
    registry.allSurvive group snapshot now = true := by
  rw [allSurvive_iff]
  rintro member listed ⟨playbook, hasPlaybook, -⟩
  rcases plain member listed with ⟨conditions, logic, isPlain⟩
  rw [isPlain] at hasPlaybook
  cases hasPlaybook

/-- An alert on a high price, which is then to be latched for an hour. -/
def Alert.latchedHour (id symbol : String) : Alert :=
  { id, ownerId := "owner", symbol, timeframe := .hour
    logic := .playbook
      { entries :=
          [{ id := "e1", priority := 0, enabled := true, connector := .all, validity := 60
             validityUnit := .minutes
             condition :=
               { subject := .price .close, operator := .greater, comparand := .literal 100
                 timeframe := .same, percentage := none } }]
        gate := .all }
    fireMode := .perBar, action := .nothing }

/-- A bar with a high price at the end of the calendar, which has less than an hour left. -/
def Candle.lastHour : Candle := ⟨8210266873200, 104, 106, 103, 105, 1⟩

example : ((Alert.latchedHour "a1" "BTC").evaluate
    (.ofFrame "BTC" { timeframe := .hour, candles := [.lastHour] }) Table.empty ⟨0, 0⟩).crashed =
      true := by
  decide +kernel

end CandleAlerts
