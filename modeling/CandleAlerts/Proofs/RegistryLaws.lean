import CandleAlerts.Proofs.TableLaws
import CandleAlerts.Registry.Reconcile

/-!
Laws of the registry: what each operation does to the registered alerts, to their cells, and to the
record of direct changes.

Cells are never taken away, and an operation that registers an alert adds one at the end. So a cell
in use keeps its place and, unless an evaluation writes it, its state.
-/

namespace CandleAlerts.Registry

/-! ## Cells -/

theorem cell_setCell_self (registry : Registry) {place : Nat} (runtime : AlertRuntime)
    (within : place < registry.cells.size) :
    (registry.setCell place runtime).cell place = runtime := by
  simp [cell, setCell, within]

theorem cell_setCell_of_ne (registry : Registry) {place other : Nat} (runtime : AlertRuntime)
    (different : place ≠ other) :
    (registry.setCell place runtime).cell other = registry.cell other := by
  simp [cell, setCell, Array.getElem?_setIfInBounds_ne different]

@[simp] theorem size_setCell (registry : Registry) (place : Nat) (runtime : AlertRuntime) :
    (registry.setCell place runtime).cells.size = registry.cells.size := by
  simp [setCell]

@[simp] theorem get?_setCell (registry : Registry) (place : Nat) (runtime : AlertRuntime)
    (id : String) : (registry.setCell place runtime).get? id = registry.get? id := rfl

theorem cell_of_size_le (registry : Registry) {place : Nat} (beyond : registry.cells.size ≤ place) :
    registry.cell place = {} := by
  simp [cell, beyond]

/-! ## Registering -/

theorem get?_register (registry : Registry) (alert : Alert) (runtime : AlertRuntime) (id : String) :
    (registry.register alert runtime).get? id =
      if alert.id = id then some { alert, cell := registry.cells.size } else registry.get? id :=
  Table.get?_insert _ _ _ _

@[simp] theorem size_register (registry : Registry) (alert : Alert) (runtime : AlertRuntime) :
    (registry.register alert runtime).cells.size = registry.cells.size + 1 := by
  simp [register]

theorem cell_register (registry : Registry) (alert : Alert) (runtime : AlertRuntime) (place : Nat) :
    (registry.register alert runtime).cell place =
      if place = registry.cells.size then runtime else registry.cell place := by
  simp only [cell, register, Array.getElem?_push]
  split <;> rfl

/-- Deactivating takes one alert out and no other. -/
theorem get?_deactivate (registry : Registry) (id other : String) :
    (registry.deactivate id).2.get? other = if other = id then none else registry.get? other :=
  Table.get?_erase _ _ _

theorem get?_of_get?_deactivate {registry : Registry} {id other : String} {entry : Registered}
    (found : (registry.deactivate id).2.get? other = some entry) :
    registry.get? other = some entry := by
  rw [get?_deactivate] at found
  split at found
  · cases found
  · exact found

/-- The state that an alert starts with when it is added, or goes on with when it is edited. -/
def takenOver (registry : Registry) (id : String) (initial : Option AlertRuntime) : AlertRuntime :=
  match registry.get? id with
  | some existing => (registry.cell existing.cell).afterEdit
  | none => initial.getD {}

theorem upsert_of_absent {registry : Registry} {alert : Alert}
    (absent : registry.get? alert.id = none) (initial : Option AlertRuntime) :
    (registry.upsert alert initial).2 = registry.register alert (initial.getD {}) := by
  simp [upsert, absent]

theorem upsert_of_same {registry : Registry} {alert : Alert} {existing : Registered}
    (found : registry.get? alert.id = some existing) (same : (existing.alert == alert) = true)
    (initial : Option AlertRuntime) : (registry.upsert alert initial).2 = registry := by
  simp [upsert, found, same]

/-- An alert that is registered with the same definition stays as it is; any other gets a new
cell. -/
theorem upsert_cases (registry : Registry) (alert : Alert) (initial : Option AlertRuntime) :
    (∃ existing, registry.get? alert.id = some existing ∧ (existing.alert == alert) = true ∧
      (registry.upsert alert initial).2 = registry) ∨
    (registry.upsert alert initial).2 =
      registry.register alert (registry.takenOver alert.id initial) := by
  simp only [upsert, takenOver]
  cases found : registry.get? alert.id with
  | none => exact .inr rfl
  | some existing =>
      cases same : existing.alert == alert with
      | true => exact .inl ⟨existing, rfl, same, by simp [same]⟩
      | false => exact .inr (by simp [same])

/-- After an alert has been registered its id is, with a definition that is the same. -/
theorem get?_upsert_self (registry : Registry) (alert : Alert) (initial : Option AlertRuntime)
    (reflexive : (alert == alert) = true) :
    ∃ entry, (registry.upsert alert initial).2.get? alert.id = some entry ∧
      (entry.alert == alert) = true := by
  rcases registry.upsert_cases alert initial with ⟨existing, found, same, unchanged⟩ | registered
  · rw [unchanged]
    exact ⟨existing, found, same⟩
  · rw [registered, get?_register, if_pos rfl]
    exact ⟨_, rfl, reflexive⟩

theorem get?_upsert_of_ne (registry : Registry) {alert : Alert} (initial : Option AlertRuntime)
    {id : String} (different : alert.id ≠ id) :
    (registry.upsert alert initial).2.get? id = registry.get? id := by
  rcases registry.upsert_cases alert initial with ⟨existing, found, same, unchanged⟩ | registered
  · rw [unchanged]
  · rw [registered, get?_register, if_neg different]

/-! ## Direct changes -/

theorem changedSince_iff (registry : Registry) (id : String) (since : Nat) :
    registry.changedSince id since = true ↔
      ∃ changed, registry.changedAt.get? id = some changed ∧ since < changed := by
  simp only [changedSince]
  cases registry.changedAt.get? id with
  | none => simp
  | some changed => simp

@[simp] theorem upsert_changedAt (registry : Registry) (alert : Alert)
    (initial : Option AlertRuntime) :
    (registry.upsert alert initial).2.changedAt = registry.changedAt := by
  rcases registry.upsert_cases alert initial with ⟨existing, found, same, unchanged⟩ | registered
  · rw [unchanged]
  · rw [registered]
    rfl

@[simp] theorem upsert_epoch (registry : Registry) (alert : Alert)
    (initial : Option AlertRuntime) :
    (registry.upsert alert initial).2.epoch = registry.epoch := by
  rcases registry.upsert_cases alert initial with ⟨existing, found, same, unchanged⟩ | registered
  · rw [unchanged]
  · rw [registered]
    rfl

/-- A direct change of an id is one since every epoch up to now; what is known of other ids
stays. -/
theorem changedSince_markChanged (registry : Registry) (changed id : String) {since : Nat}
    (past : since ≤ registry.epoch) :
    (registry.markChanged changed).changedSince id since = true ↔
      changed = id ∨ registry.changedSince id since = true := by
  rw [changedSince_iff, changedSince_iff]
  simp only [markChanged, Table.get?_insert]
  by_cases same : changed = id
  · simp only [same, if_true, true_or, iff_true]
    exact ⟨_, rfl, by omega⟩
  · simp [same]

/-! ## Cells that are kept -/

/-- What registering alerts leaves alone: the record of direct changes, and the states of the cells
there are. -/
structure Keeps (before after : Registry) : Prop where
  epoch : after.epoch = before.epoch
  changedAt : after.changedAt = before.changedAt
  grows : before.cells.size ≤ after.cells.size
  cells : ∀ place < before.cells.size, after.cell place = before.cell place

namespace Keeps

theorem refl (registry : Registry) : Keeps registry registry :=
  ⟨rfl, rfl, Nat.le_refl _, fun _ _ => rfl⟩

theorem trans {first second third : Registry} (left : Keeps first second)
    (right : Keeps second third) : Keeps first third where
  epoch := right.epoch.trans left.epoch
  changedAt := right.changedAt.trans left.changedAt
  grows := Nat.le_trans left.grows right.grows
  cells place within :=
    (right.cells place (Nat.lt_of_lt_of_le within left.grows)).trans (left.cells place within)

theorem register (registry : Registry) (alert : Alert) (runtime : AlertRuntime) :
    Keeps registry (registry.register alert runtime) where
  epoch := rfl
  changedAt := rfl
  grows := by simp
  cells place within := by
    rw [cell_register, if_neg (Nat.ne_of_lt within)]

theorem upsert (registry : Registry) (alert : Alert) (initial : Option AlertRuntime) :
    Keeps registry (registry.upsert alert initial).2 := by
  rcases registry.upsert_cases alert initial with ⟨existing, found, same, unchanged⟩ | registered
  · rw [unchanged]
    exact refl registry
  · rw [registered]
    exact register registry alert _

theorem changedSince {before after : Registry} (keeps : Keeps before after) (id : String)
    (since : Nat) : after.changedSince id since = before.changedSince id since := by
  simp only [Registry.changedSince]
  rw [keeps.changedAt]

end Keeps

/-! ## Registries that are well formed -/

/-- Every alert is registered under its own id with a cell there is, and no change is later than the
epoch. -/
structure WellFormed (registry : Registry) : Prop where
  ids : ∀ id entry, registry.get? id = some entry → entry.alert.id = id
  cells : ∀ id entry, registry.get? id = some entry → entry.cell < registry.cells.size
  changes : ∀ id changed, registry.changedAt.get? id = some changed → changed ≤ registry.epoch

namespace WellFormed

theorem empty : WellFormed {} where
  ids _ _ found := by cases found
  cells _ _ found := by cases found
  changes _ _ found := by cases found

variable {registry : Registry}

theorem register (wellFormed : registry.WellFormed) (alert : Alert) (runtime : AlertRuntime) :
    (registry.register alert runtime).WellFormed where
  ids id entry found := by
    rw [get?_register] at found
    split at found
    · rename_i same
      cases found
      exact same
    · exact wellFormed.ids id entry found
  cells id entry found := by
    rw [get?_register] at found
    rw [size_register]
    split at found
    · cases found
      exact Nat.lt_succ_self _
    · exact Nat.lt_succ_of_lt (wellFormed.cells id entry found)
  changes := wellFormed.changes

theorem upsert (wellFormed : registry.WellFormed) (alert : Alert) (initial : Option AlertRuntime) :
    (registry.upsert alert initial).2.WellFormed := by
  rcases registry.upsert_cases alert initial with ⟨existing, found, same, unchanged⟩ | registered
  · rw [unchanged]
    exact wellFormed
  · rw [registered]
    exact wellFormed.register alert _

theorem markChanged (wellFormed : registry.WellFormed) (id : String) :
    (registry.markChanged id).WellFormed where
  ids := wellFormed.ids
  cells := wellFormed.cells
  changes other changed found := by
    simp only [Registry.markChanged, Table.get?_insert] at found ⊢
    split at found
    · cases found
      exact Nat.le_refl _
    · exact Nat.le_succ_of_le (wellFormed.changes other changed found)

theorem activate (wellFormed : registry.WellFormed) (alert : Alert)
    (initial : Option AlertRuntime) : (registry.activate alert initial).2.WellFormed :=
  (wellFormed.markChanged alert.id).upsert alert initial

/-- Fewer alerts and fewer recorded changes leave a registry well formed. -/
theorem restrict (wellFormed : registry.WellFormed) {fewer : Registry}
    (epoch : fewer.epoch = registry.epoch) (cells : fewer.cells.size = registry.cells.size)
    (alerts : ∀ id entry, fewer.get? id = some entry → registry.get? id = some entry)
    (changes : ∀ id changed, fewer.changedAt.get? id = some changed →
      registry.changedAt.get? id = some changed) : fewer.WellFormed where
  ids id entry found := wellFormed.ids id entry (alerts id entry found)
  cells id entry found := by
    rw [cells]
    exact wellFormed.cells id entry (alerts id entry found)
  changes id changed found := by
    rw [epoch]
    exact wellFormed.changes id changed (changes id changed found)

theorem deactivate (wellFormed : registry.WellFormed) (id : String) :
    (registry.deactivate id).2.WellFormed := by
  refine (wellFormed.markChanged id).restrict rfl rfl ?_ (fun _ _ found => found)
  intro other entry found
  exact get?_of_get?_deactivate found

theorem setCell (wellFormed : registry.WellFormed) (place : Nat) (runtime : AlertRuntime) :
    (registry.setCell place runtime).WellFormed where
  ids := wellFormed.ids
  cells id entry found := by
    rw [size_setCell]
    exact wellFormed.cells id entry found
  changes := wellFormed.changes

end WellFormed

end CandleAlerts.Registry
