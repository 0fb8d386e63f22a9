import CandleAlerts.Proofs.ReconcileLaws

/-!
What activations, deactivations and reconciliations have in common.

Each leaves a registered alert as it is, edits it, or takes it out. An edit gives the alert a cell
that no alert had before, and into it copies how often the alert has fired and on which bar last, as
the registered cell tells it at that moment.
-/

namespace CandleAlerts.Registry

/-- How often a registered alert has fired, and the opening time of the bar it fired on last. -/
def firing? (registry : Registry) (id : String) : Option (UInt64 × Option Int) :=
  (registry.runtime? id).map (fun runtime => (runtime.triggerCount, runtime.lastFiredAt))

def IsRegistered (registry : Registry) (id : String) : Prop := (registry.get? id).isSome = true

/-- Whether no two alerts have the same cell. -/
def Apart (registry : Registry) : Prop :=
  ∀ firstId secondId first second, registry.get? firstId = some first →
    registry.get? secondId = some second → first.cell = second.cell → firstId = secondId

theorem firing?_of_get? {registry : Registry} {id : String} {entry : Registered}
    (found : registry.get? id = some entry) :
    registry.firing? id = some ((registry.cell entry.cell).triggerCount,
      (registry.cell entry.cell).lastFiredAt) := by
  simp only [firing?, runtime?]
  rw [found]
  rfl

/-- What a change makes of the registered alerts: each stays with its cell or has a cell that is
new, no two share one, and an alert that stays registered keeps what is known of its firing. -/
structure Revises (before after : Registry) : Prop where
  grows : before.cells.size ≤ after.cells.size
  entries : ∀ id entry, after.get? id = some entry →
    before.get? id = some entry ∨ before.cells.size ≤ entry.cell
  apart : before.Apart → after.Apart
  firing : ∀ id, before.IsRegistered id → after.IsRegistered id →
    after.firing? id = before.firing? id

namespace Revises

theorem refl (registry : Registry) : Revises registry registry :=
  ⟨Nat.le_refl _, fun _ _ found => .inl found, fun apart => apart, fun _ _ _ => rfl⟩

/-- Two changes are one if an alert that stays registered through both was so in between. -/
theorem trans {first second third : Registry} (left : Revises first second)
    (right : Revises second third)
    (between : ∀ id, first.IsRegistered id → third.IsRegistered id → second.IsRegistered id) :
    Revises first third where
  grows := Nat.le_trans left.grows right.grows
  entries id entry found := by
    rcases right.entries id entry found with before | new
    · exact left.entries id entry before
    · exact .inr (Nat.le_trans left.grows new)
  apart apart := right.apart (left.apart apart)
  firing id before after := by
    have middle := between id before after
    rw [right.firing id middle after, left.firing id before middle]

/-- To leave alerts out changes no other. -/
theorem restrict {before after : Registry} (cells : after.cells = before.cells)
    (fewer : ∀ id entry, after.get? id = some entry → before.get? id = some entry) :
    Revises before after where
  grows := Nat.le_of_eq (congrArg Array.size cells.symm)
  entries id entry found := .inl (fewer id entry found)
  apart apart firstId secondId first second firstFound secondFound :=
    apart firstId secondId first second (fewer firstId first firstFound)
      (fewer secondId second secondFound)
  firing id _ stays := by
    rcases Option.isSome_iff_exists.1 stays with ⟨entry, found⟩
    rw [firing?_of_get? found, firing?_of_get? (fewer id entry found)]
    simp only [cell]
    rw [cells]

theorem markChanged (registry : Registry) (id : String) :
    Revises registry (registry.markChanged id) :=
  restrict rfl (fun _ _ found => found)

/-- The state that an edited alert goes on with tells of its firing what the registered cell
tells. -/
theorem register {registry : Registry} (wellFormed : registry.WellFormed) (alert : Alert)
    (initial : Option AlertRuntime) :
    Revises registry (registry.register alert (registry.takenOver alert.id initial)) where
  grows := by simp
  entries id entry found := by
    rw [get?_register] at found
    split at found
    · cases found
      exact .inr (Nat.le_refl _)
    · exact .inl found
  apart apart firstId secondId first second firstFound secondFound same := by
    rw [get?_register] at firstFound secondFound
    split at firstFound
    · rename_i firstNew
      split at secondFound
      · rename_i secondNew
        exact firstNew.symm.trans secondNew
      · cases firstFound
        have within := wellFormed.cells secondId second secondFound
        simp only at same
        omega
    · split at secondFound
      · cases secondFound
        have within := wellFormed.cells firstId first firstFound
        simp only at same
        omega
      · exact apart firstId secondId first second firstFound secondFound same
  firing id before _ := by
    rcases Option.isSome_iff_exists.1 before with ⟨entry, found⟩
    rw [firing?_of_get? found]
    by_cases edited : alert.id = id
    · subst edited
      have registered : (registry.register alert (registry.takenOver alert.id initial)).get?
          alert.id = some { alert, cell := registry.cells.size } := by
        rw [get?_register, if_pos rfl]
      rw [firing?_of_get? registered, cell_register, if_pos rfl]
      simp only [takenOver]
      rw [found]
      rfl
    · have registered : (registry.register alert (registry.takenOver alert.id initial)).get? id =
          some entry := by
        rw [get?_register, if_neg edited]
        exact found
      have within := wellFormed.cells id entry found
      rw [firing?_of_get? registered, cell_register, if_neg (Nat.ne_of_lt within)]

theorem upsert {registry : Registry} (wellFormed : registry.WellFormed) (alert : Alert)
    (initial : Option AlertRuntime) : Revises registry (registry.upsert alert initial).2 := by
  rcases registry.upsert_cases alert initial with ⟨existing, found, same, unchanged⟩ | registered
  · rw [unchanged]
    exact refl registry
  · rw [registered]
    exact register wellFormed alert initial

end Revises

/-- Registering an alert takes no other out. -/
theorem IsRegistered.upsert {registry : Registry} {id : String}
    (isRegistered : registry.IsRegistered id) (alert : Alert) (initial : Option AlertRuntime) :
    (registry.upsert alert initial).2.IsRegistered id := by
  rcases registry.upsert_cases alert initial with ⟨existing, found, same, unchanged⟩ | registered
  · rw [unchanged]
    exact isRegistered
  · rw [registered]
    simp only [IsRegistered]
    rw [get?_register]
    split
    · rfl
    · exact isRegistered

theorem IsRegistered.takeOne {registry : Registry} {id : String}
    (isRegistered : registry.IsRegistered id) (since : Nat)
    (entry : Alert × Option AlertRuntime) : (registry.takeOne since entry).IsRegistered id := by
  simp only [Registry.takeOne]
  split
  · exact isRegistered
  · exact isRegistered.upsert entry.1 entry.2

namespace Revises

variable {registry : Registry} (wellFormed : registry.WellFormed)

include wellFormed

theorem takeOne (since : Nat) (entry : Alert × Option AlertRuntime) :
    Revises registry (registry.takeOne since entry) := by
  simp only [Registry.takeOne]
  split
  · exact refl registry
  · exact upsert wellFormed entry.1 entry.2

theorem foldl_takeOne (since : Nat) (stored : StoredAlerts) :
    Revises registry (stored.foldl (fun registry entry => registry.takeOne since entry)
      registry) := by
  induction stored generalizing registry with
  | nil => exact refl registry
  | cons entry rest induction =>
      have next := registry.takeOne_wellFormed since entry wellFormed
      exact (takeOne wellFormed since entry).trans (induction next)
        (fun _ isRegistered _ => isRegistered.takeOne since entry)

theorem activate (alert : Alert) (initial : Option AlertRuntime) :
    Revises registry (registry.activate alert initial).2 :=
  (markChanged registry alert.id).trans (upsert (wellFormed.markChanged alert.id) alert initial)
    (fun _ isRegistered _ => isRegistered)

omit wellFormed in
theorem deactivate (registry : Registry) (id : String) :
    Revises registry (registry.deactivate id).2 := by
  refine @restrict registry (registry.deactivate id).2 rfl ?_
  intro other entry found
  exact get?_of_get?_deactivate found

theorem reconcile (stored : StoredAlerts) (since : Nat) :
    Revises registry (registry.reconcile stored since).2 := by
  have fewer (id : String) (entry : Registered)
      (found : (registry.reconcile stored since).2.get? id = some entry) :
      (registry.takeStored stored since).get? id = some entry := by
    rw [get?_reconcile] at found
    split at found
    · exact found
    · cases found
  have taken : Revises registry (registry.takeStored stored since) := by
    rw [takeStored_eq]
    exact foldl_takeOne wellFormed since stored
  have removed : Revises (registry.takeStored stored since)
      (registry.reconcile stored since).2 := restrict rfl fewer
  refine taken.trans removed ?_
  intro id _ stays
  rcases Option.isSome_iff_exists.1 stays with ⟨entry, found⟩
  exact Option.isSome_iff_exists.2 ⟨entry, fewer id entry found⟩

end Revises

end CandleAlerts.Registry
