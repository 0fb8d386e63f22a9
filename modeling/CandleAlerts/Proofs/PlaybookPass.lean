import CandleAlerts.Alert.Playbook
import CandleAlerts.Proofs.TableLaws
import Mathlib.Data.List.Nodup

/-!
What one pass over a playbook comes to, entry by entry.

A pass is a fold over the enabled entries. With distinct ids each entry contributes by itself:
whether it counts as satisfied and which latch is kept for it depend only on the latches that went
in.
-/

namespace CandleAlerts

namespace PlaybookEntry

/-- Whether an entry counts as satisfied in a pass: held by a latch, or else by its condition. -/
def counts (entry : PlaybookEntry) (answer : Condition → Evaluation) (latches : Latches)
    (moment : PassMoment) : Bool :=
  (entry.heldBy? latches moment).isSome || (answer entry.condition).satisfied

/-- The latch that a pass keeps for an entry: the one that holds it, or a new one. -/
def kept? (entry : PlaybookEntry) (answer : Condition → Evaluation) (latches : Latches)
    (moment : PassMoment) : Option Latch :=
  match entry.heldBy? latches moment with
  | some latch => some latch
  | none =>
      if (answer entry.condition).satisfied && 0 < entry.validity then
        some (entry.newLatch moment)
      else none

theorem heldBy?_eq_some_iff (entry : PlaybookEntry) (latches : Latches) (moment : PassMoment)
    (latch : Latch) :
    entry.heldBy? latches moment = some latch ↔
      latches.get? entry.id = some latch ∧ latch.isValid moment.barIndex moment.now = true := by
  simp [heldBy?, Option.filter_eq_some_iff]

theorem kept?_of_held {entry : PlaybookEntry} {answer : Condition → Evaluation} {latches : Latches}
    {moment : PassMoment} {latch : Latch} (held : entry.heldBy? latches moment = some latch) :
    entry.kept? answer latches moment = some latch := by
  simp [kept?, held]

theorem kept?_of_fresh {entry : PlaybookEntry} {answer : Condition → Evaluation} {latches : Latches}
    {moment : PassMoment} (fresh : entry.heldBy? latches moment = none) :
    entry.kept? answer latches moment =
      if (answer entry.condition).satisfied && 0 < entry.validity then
        some (entry.newLatch moment)
      else none := by
  simp [kept?, fresh]

end PlaybookEntry

@[simp] theorem LogicOutcome.note_latches (outcome : LogicOutcome) (id : String)
    (evaluation : Evaluation) : (outcome.note id evaluation).latches = outcome.latches := by
  simp only [LogicOutcome.note]
  cases evaluation.missing <;> cases evaluation.satisfied <;> rfl

@[simp] theorem LogicOutcome.note_satisfied (outcome : LogicOutcome) (id : String)
    (evaluation : Evaluation) :
    (outcome.note id evaluation).satisfied =
      outcome.satisfied ++ if evaluation.satisfied then [id] else [] := by
  simp only [LogicOutcome.note]
  cases evaluation.missing <;> cases evaluation.satisfied <;> simp

namespace PlaybookPass

variable (answer : Condition → Evaluation) (latches : Latches) (moment : PassMoment)

theorem visit_satisfied (pass : PlaybookPass) (entry : PlaybookEntry) :
    (pass.visit answer latches moment entry).outcome.satisfied =
      pass.outcome.satisfied ++
        if entry.counts answer latches moment then [entry.id] else [] := by
  unfold visit PlaybookEntry.counts
  cases entry.heldBy? latches moment with
  | some latch => simp
  | none => simp

theorem visit_latches (pass : PlaybookPass) (entry : PlaybookEntry) :
    (pass.visit answer latches moment entry).outcome.latches =
      match entry.kept? answer latches moment with
      | some latch => pass.outcome.latches.insert entry.id latch
      | none => pass.outcome.latches := by
  simp only [visit, PlaybookEntry.kept?]
  cases entry.heldBy? latches moment with
  | some latch => simp
  | none =>
      simp only [LogicOutcome.note_latches]
      split <;> rfl

/-- Over a list of entries the satisfied ids are appended in order. -/
theorem foldl_visit_satisfied (entries : List PlaybookEntry) (pass : PlaybookPass) :
    (entries.foldl (visit answer latches moment) pass).outcome.satisfied =
      pass.outcome.satisfied ++
        (entries.filter (fun entry => entry.counts answer latches moment)).map
          PlaybookEntry.id := by
  induction entries generalizing pass with
  | nil => simp
  | cons entry rest induction =>
      rw [List.foldl_cons, induction, visit_satisfied, List.append_assoc, List.filter_cons]
      cases entry.counts answer latches moment with
      | true => simp
      | false => simp

theorem visit_latches_get?_of_ne (pass : PlaybookPass) (entry : PlaybookEntry) (id : String)
    (different : entry.id ≠ id) :
    (pass.visit answer latches moment entry).outcome.latches.get? id =
      pass.outcome.latches.get? id := by
  rw [visit_latches]
  cases entry.kept? answer latches moment with
  | some latch => exact Table.get?_insert_of_ne _ latch different
  | none => rfl

/-- Entries that do not have an id leave its latch as it is. -/
theorem foldl_visit_latches_of_not_mem (entries : List PlaybookEntry) (pass : PlaybookPass)
    (id : String) (absent : id ∉ entries.map PlaybookEntry.id) :
    (entries.foldl (visit answer latches moment) pass).outcome.latches.get? id =
      pass.outcome.latches.get? id := by
  induction entries generalizing pass with
  | nil => rfl
  | cons entry rest induction =>
      simp only [List.map_cons, List.mem_cons, not_or] at absent
      rw [List.foldl_cons, induction _ absent.2]
      exact visit_latches_get?_of_ne answer latches moment pass entry id (Ne.symm absent.1)

/-- With distinct ids the latch kept for an entry is the one its own visit keeps. -/
theorem foldl_visit_latches (entries : List PlaybookEntry) (pass : PlaybookPass)
    (distinct : (entries.map PlaybookEntry.id).Nodup) (entry : PlaybookEntry)
    (member : entry ∈ entries) (absent : pass.outcome.latches.get? entry.id = none) :
    (entries.foldl (visit answer latches moment) pass).outcome.latches.get? entry.id =
      entry.kept? answer latches moment := by
  induction entries generalizing pass with
  | nil => cases member
  | cons head rest induction =>
      rw [List.map_cons, List.nodup_cons] at distinct
      rw [List.foldl_cons]
      rcases List.mem_cons.1 member with same | inRest
      · subst same
        rw [foldl_visit_latches_of_not_mem answer latches moment rest _ _ distinct.1,
          visit_latches]
        cases entry.kept? answer latches moment with
        | some latch => exact Table.get?_insert_self _ _ latch
        | none => exact absent
      · have different : head.id ≠ entry.id := fun same =>
          distinct.1 (same ▸ List.mem_map_of_mem inRest)
        apply induction _ distinct.2 inRest
        rw [visit_latches_get?_of_ne answer latches moment pass head entry.id different]
        exact absent

end PlaybookPass

namespace Playbook

variable (playbook : Playbook) (snapshot : Snapshot) (latches : Latches) (now : Instant)

theorem mem_enabledInOrder (entry : PlaybookEntry) :
    entry ∈ playbook.enabledInOrder ↔ entry ∈ playbook.entries ∧ entry.enabled = true := by
  simp [enabledInOrder]

/-- Ids that are distinct in a playbook are distinct among its enabled entries. -/
theorem enabledInOrder_nodup (distinct : (playbook.entries.map PlaybookEntry.id).Nodup) :
    (playbook.enabledInOrder.map PlaybookEntry.id).Nodup := by
  have permuted : playbook.enabledInOrder.Perm (playbook.entries.filter PlaybookEntry.enabled) :=
    List.mergeSort_perm _ _
  rw [(permuted.map PlaybookEntry.id).nodup_iff]
  exact distinct.sublist (List.filter_sublist.map _)

theorem evaluate_satisfied :
    (playbook.evaluate snapshot latches now).satisfied =
      (playbook.enabledInOrder.filter
        (fun entry => entry.counts snapshot.evaluate latches (.of snapshot now))).map
        PlaybookEntry.id := by
  simp [evaluate, join, pass, PlaybookPass.foldl_visit_satisfied]

/-- An enabled entry is listed as satisfied exactly when it counts as such. -/
theorem mem_evaluate_satisfied (distinct : (playbook.entries.map PlaybookEntry.id).Nodup)
    (entry : PlaybookEntry) (member : entry ∈ playbook.entries) (enabled : entry.enabled = true) :
    entry.id ∈ (playbook.evaluate snapshot latches now).satisfied ↔
      entry.counts snapshot.evaluate latches (.of snapshot now) = true := by
  rw [evaluate_satisfied, List.mem_map]
  constructor
  · rintro ⟨other, listed, same⟩
    rcases List.mem_filter.1 listed with ⟨otherMember, otherCounts⟩
    have otherEntry : other = entry :=
      List.inj_on_of_nodup_map distinct ((playbook.mem_enabledInOrder other).1 otherMember).1
        member same
    exact otherEntry ▸ otherCounts
  · intro counted
    exact ⟨entry, List.mem_filter.2
      ⟨(playbook.mem_enabledInOrder entry).2 ⟨member, enabled⟩, counted⟩, rfl⟩

/-- The latch that a pass keeps for an enabled entry. -/
theorem evaluate_latches_get? (distinct : (playbook.entries.map PlaybookEntry.id).Nodup)
    (entry : PlaybookEntry) (member : entry ∈ playbook.entries) (enabled : entry.enabled = true) :
    (playbook.evaluate snapshot latches now).latches.get? entry.id =
      entry.kept? snapshot.evaluate latches (.of snapshot now) :=
  PlaybookPass.foldl_visit_latches snapshot.evaluate latches (.of snapshot now) _ _
    (playbook.enabledInOrder_nodup distinct) entry
    ((playbook.mem_enabledInOrder entry).2 ⟨member, enabled⟩) rfl

end Playbook

end CandleAlerts
