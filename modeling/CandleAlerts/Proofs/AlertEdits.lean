import CandleAlerts.Proofs.RegistryRevisions
import CandleAlerts.Proofs.StoredMerges

/-!
Edits of alerts.

An operation edits an alert if it gives another definition than the registered one. The alert then
goes on with a cell of its own and the lasting part of its state. As long as it is not edited and
stays registered, it goes on with its definition and its cell.
-/

namespace CandleAlerts

/-! ## What an edit does -/

namespace Registry

/-- Whether an alert goes on with a cell that no alert had before, in a state that an edit
leaves. -/
def Renews (before after : Registry) (id : String) : Prop :=
  ∃ entry, after.get? id = some entry ∧ before.cells.size ≤ entry.cell ∧
    ∃ runtime : AlertRuntime, after.cell entry.cell = runtime.afterEdit

theorem renews_register (registry : Registry) (alert : Alert) (runtime : AlertRuntime) :
    registry.Renews (registry.register alert runtime.afterEdit) alert.id := by
  refine ⟨{ alert, cell := registry.cells.size }, ?_, Nat.le_refl _, ?_⟩
  · rw [get?_register, if_pos rfl]
  · rw [cell_register, if_pos rfl]
    exact ⟨runtime, rfl⟩

/-- To give a registered alert its own definition changes nothing, and to give it another one renews
it. -/
theorem upsert_of_registered {registry : Registry} {alert : Alert} {existing : Registered}
    (found : registry.get? alert.id = some existing) (initial : Option AlertRuntime) :
    ((registry.upsert alert initial).1 = .unchanged ∧
      (registry.upsert alert initial).2 = registry) ∨
    ((registry.upsert alert initial).1 = .updated ∧
      (registry.upsert alert initial).2 =
        registry.register alert (registry.cell existing.cell).afterEdit) := by
  simp only [upsert, found]
  split
  · exact .inl ⟨rfl, rfl⟩
  · exact .inr ⟨rfl, rfl⟩

/-! ## Edits by a reconciliation -/

section Stored

variable {before registry : Registry} {id : String} {entry : Registered} (since : Nat)

/-- Whether taking in a stored alert edits an id. -/
def Takes (registry : Registry) (since : Nat) (id : String)
    (stored : Alert × Option AlertRuntime) : Prop :=
  stored.1.id = id ∧ registry.classOf since stored = some .updated

theorem renews_or_keeps_takeOne (found : registry.get? id = some entry)
    (stored : Alert × Option AlertRuntime) :
    (registry.Takes since id stored ∧ registry.Renews (registry.takeOne since stored) id) ∨
    (¬ registry.Takes since id stored ∧
      (registry.takeOne since stored).get? id = some entry) := by
  rw [← reconcileStored_snd since {} registry stored, Takes]
  by_cases same : stored.1.id = id
  · subst same
    rcases registry.reconcileStored_cases since stored {} with ⟨kind, taken⟩ | ⟨kind, taken⟩ |
      ⟨existing, there, kind, taken⟩ | ⟨absent, kind, taken⟩
    · rw [kind, taken]
      exact .inr ⟨by simp, found⟩
    · rw [kind, taken]
      exact .inr ⟨by simp, found⟩
    · rw [kind, taken]
      exact .inl ⟨⟨rfl, rfl⟩, registry.renews_register stored.1 _⟩
    · rw [absent] at found
      cases found
  · rw [reconcileStored_snd, get?_takeOne_of_left_alone registry since stored
      (fun equal => absurd equal same)]
    exact .inr ⟨fun takes => same takes.1, found⟩

/-- What was renewed stays so, also if it is edited once more. -/
theorem Renews.takeOne (renewed : before.Renews registry id) (wellFormed : registry.WellFormed)
    (stored : Alert × Option AlertRuntime) :
    before.Renews (registry.takeOne since stored) id := by
  obtain ⟨entry, found, new, state⟩ := renewed
  have within := wellFormed.cells id entry found
  rcases renews_or_keeps_takeOne since found stored with
    ⟨-, other, otherFound, newer, otherState⟩ | ⟨-, kept⟩
  · exact ⟨other, otherFound, by omega, otherState⟩
  · refine ⟨entry, kept, new, ?_⟩
    rw [(registry.takeOne_keeps since stored).cells entry.cell within]
    exact state

theorem Renews.foldl_takeOne (renewed : before.Renews registry id)
    (wellFormed : registry.WellFormed) (stored : StoredAlerts) :
    before.Renews (stored.foldl (fun registry entry => registry.takeOne since entry) registry)
      id := by
  induction stored generalizing registry with
  | nil => exact renewed
  | cons first rest induction =>
      exact induction (renewed.takeOne since wellFormed first)
        (registry.takeOne_wellFormed since first wellFormed)

theorem renews_or_keeps_foldl_takeOne (wellFormed : registry.WellFormed)
    (found : registry.get? id = some entry) (stored : StoredAlerts) :
    ((∃ one ∈ stored, registry.Takes since id one) ∧ registry.Renews
      (stored.foldl (fun registry entry => registry.takeOne since entry) registry) id) ∨
    ((∀ one ∈ stored, ¬ registry.Takes since id one) ∧
      (stored.foldl (fun registry entry => registry.takeOne since entry) registry).get? id =
        some entry) := by
  induction stored generalizing registry with
  | nil => exact .inr ⟨fun _ listed => (List.not_mem_nil listed).elim, found⟩
  | cons first rest induction =>
      have next := registry.takeOne_wellFormed since first wellFormed
      rcases renews_or_keeps_takeOne since found first with ⟨takes, renewed⟩ | ⟨leaves, kept⟩
      · exact .inl ⟨⟨first, List.mem_cons_self, takes⟩, renewed.foldl_takeOne since next rest⟩
      · -- as long as the alert is left alone, what would edit it stays the same
        have keeps := registry.takeOne_keeps since first
        have same (one : Alert × Option AlertRuntime) :
            (registry.takeOne since first).Takes since id one ↔ registry.Takes since id one := by
          refine and_congr_right (fun named => ?_)
          subst named
          rw [classOf_congr (keeps.changedSince _ since) (kept.trans found.symm)]
        simp only [List.foldl_cons, List.mem_cons, exists_eq_or_imp, forall_eq_or_imp]
        rcases induction next kept with ⟨⟨one, listed, takes⟩, renewed⟩ | ⟨none, stays⟩
        · refine .inl ⟨.inr ⟨one, listed, (same one).1 takes⟩, ?_⟩
          obtain ⟨other, otherFound, new, state⟩ := renewed
          exact ⟨other, otherFound, Nat.le_trans keeps.grows new, state⟩
        · exact .inr ⟨⟨leaves, fun one listed takes => none one listed ((same one).2 takes)⟩, stays⟩

end Stored

end Registry

/-! ## Edits by any operation -/

namespace RegistryOperation

/-- Whether an operation writes the state of an alert that is evaluated. -/
def writesCell : RegistryOperation → Bool
  | write _ _ => true
  | activate _ _ | deactivate _ | reconcile _ _ | subscribe _ | unsubscribe _ _
  | replaceSubscriptions _ | touchSubscriptions _ _ => false

/-- The registered alerts that an operation gives another definition. -/
def edited (registry : Registry) : RegistryOperation → List String
  | activate alert initial =>
      if (registry.activate alert initial).1 = .updated then [alert.id] else []
  | reconcile stored since =>
      (stored.filter (fun entry => registry.classOf since entry = some .updated)).map
        (fun entry => entry.1.id)
  | deactivate _ | write _ _ | subscribe _ | unsubscribe _ _ | replaceSubscriptions _
  | touchSubscriptions _ _ => []

theorem mem_edited_activate (registry : Registry) (alert : Alert) (initial : Option AlertRuntime)
    (id : String) :
    id ∈ (activate alert initial).edited registry ↔
      alert.id = id ∧ (registry.activate alert initial).1 = .updated := by
  simp only [edited]
  split
  · rename_i updates
    simp [updates, eq_comm]
  · rename_i leaves
    simp [leaves]

theorem mem_edited_reconcile (registry : Registry) (stored : Registry.StoredAlerts) (since : Nat)
    (id : String) :
    id ∈ (reconcile stored since).edited registry ↔
      ∃ one ∈ stored, registry.Takes since id one := by
  simp only [edited, List.mem_map, List.mem_filter, decide_eq_true_eq, Registry.Takes]
  constructor
  · rintro ⟨one, ⟨listed, takes⟩, named⟩
    exact ⟨one, listed, named, takes⟩
  · rintro ⟨one, listed, named, takes⟩
    exact ⟨one, ⟨listed, takes⟩, named⟩

variable {registry : Registry} {operation : RegistryOperation}

theorem revises (wellFormed : registry.WellFormed) (change : operation.writesCell = false) :
    registry.Revises (operation.apply registry) := by
  have same (after : Registry) (alerts : after.alerts = registry.alerts)
      (cells : after.cells = registry.cells) : registry.Revises after := by
    refine .restrict cells (fun id entry found => ?_)
    rw [Registry.get?, ← alerts]
    exact found
  cases operation with
  | activate alert initial => exact .activate wellFormed alert initial
  | deactivate id => exact .deactivate registry id
  | reconcile stored since => exact .reconcile wellFormed stored since
  | write place runtime => cases change
  | subscribe subscription => exact same _ rfl rfl
  | unsubscribe subscriberId conditionId => exact same _ rfl rfl
  | replaceSubscriptions subscriptions => exact same _ rfl rfl
  | touchSubscriptions conditionId now => exact same _ rfl rfl

theorem cell_apply (change : operation.writesCell = false) {place : Nat}
    (within : place < registry.cells.size) :
    (operation.apply registry).cell place = registry.cell place := by
  cases operation with
  | activate alert initial =>
      exact (Registry.Keeps.upsert (registry.markChanged alert.id) alert initial).cells place within
  | reconcile stored since => exact registry.cell_reconcile stored since within
  | write place runtime => cases change
  | _ => rfl

/-- An edit renews an alert, and without one it goes on with its cell as long as it stays
registered. -/
theorem renews_or_keeps (wellFormed : registry.WellFormed) {id : String} {entry : Registered}
    (found : registry.get? id = some entry)
    (stays : (operation.apply registry).IsRegistered id) :
    (id ∈ operation.edited registry ∧ registry.Renews (operation.apply registry) id) ∨
    (id ∉ operation.edited registry ∧ (operation.apply registry).get? id = some entry) := by
  cases operation with
  | activate alert initial =>
      rw [mem_edited_activate]
      by_cases same : alert.id = id
      · subst same
        have there : (registry.markChanged alert.id).get? alert.id = some entry := found
        rcases Registry.upsert_of_registered there initial with ⟨kind, after⟩ | ⟨kind, after⟩
        · refine .inr ⟨fun edits => ?_, ?_⟩
          · have updates : Activation.unchanged = .updated := kind.symm.trans edits.2
            cases updates
          · simp only [apply, Registry.activate]
            rw [after]
            exact found
        · refine .inl ⟨⟨rfl, kind⟩, ?_⟩
          simp only [apply, Registry.activate]
          rw [after]
          exact (registry.markChanged alert.id).renews_register alert _
      · refine .inr ⟨fun edits => same edits.1, ?_⟩
        exact (Registry.get?_upsert_of_ne _ initial same).trans found
  | deactivate other =>
      obtain ⟨after, there⟩ := Option.isSome_iff_exists.1 stays
      have before := Registry.get?_of_get?_deactivate there
      rw [found] at before
      cases before
      exact .inr ⟨by simp [edited], there⟩
  | reconcile stored since =>
      obtain ⟨after, there⟩ := Option.isSome_iff_exists.1 stays
      have taken : (registry.reconcile stored since).2.get? id =
          (registry.takeStored stored since).get? id := by
        simp only [apply] at there
        rw [Registry.get?_reconcile] at there ⊢
        split at there
        · rename_i kept
          exact if_pos kept
        · cases there
      rw [mem_edited_reconcile]
      simp only [apply]
      rw [taken, Registry.takeStored_eq]
      rcases Registry.renews_or_keeps_foldl_takeOne since wellFormed found stored with
        ⟨takes, other, otherFound, new, state⟩ | ⟨leaves, kept⟩
      · refine .inl ⟨takes, other, ?_, new, ?_⟩
        · rw [taken, Registry.takeStored_eq]
          exact otherFound
        · have cells : (registry.reconcile stored since).2.cells =
              (registry.takeStored stored since).cells := rfl
          rw [Registry.cell, cells, Registry.takeStored_eq]
          exact state
      · refine .inr ⟨?_, kept⟩
        rintro ⟨one, listed, takes⟩
        exact leaves one listed takes
  | write place runtime => exact .inr ⟨by simp [edited], found⟩
  | subscribe subscription => exact .inr ⟨by simp [edited], found⟩
  | unsubscribe subscriberId conditionId => exact .inr ⟨by simp [edited], found⟩
  | replaceSubscriptions subscriptions => exact .inr ⟨by simp [edited], found⟩
  | touchSubscriptions conditionId now => exact .inr ⟨by simp [edited], found⟩

end RegistryOperation

end CandleAlerts
