import CandleAlerts.Proofs.ReconcileLaws
import CandleAlerts.Registry.Subscriptions
import Mathlib.Data.List.Induction

/-!
Registries that came about by operations, one after another.

Each direct change of an alert raises the epoch, so the epochs number the direct changes. The
registry's record of them never claims a change that was not made, and a reconciliation forgets only
changes that are not later than the epoch it is given.
-/

namespace CandleAlerts

/-- What is done to a registry. Evaluations write the cells. -/
inductive RegistryOperation where
  | activate (alert : Alert) (initial : Option AlertRuntime)
  | deactivate (id : String)
  | reconcile (stored : Registry.StoredAlerts) (since : Nat)
  | write (place : Nat) (runtime : AlertRuntime)
  | subscribe (subscription : Subscription)
  | unsubscribe (subscriberId conditionId : String)
  | replaceSubscriptions (subscriptions : List Subscription)
  | touchSubscriptions (conditionId : String) (now : Instant)

namespace RegistryOperation

def apply (registry : Registry) : RegistryOperation → Registry
  | activate alert initial => (registry.activate alert initial).2
  | deactivate id => (registry.deactivate id).2
  | reconcile stored since => (registry.reconcile stored since).2
  | write place runtime => registry.setCell place runtime
  | subscribe subscription => registry.subscribe subscription
  | unsubscribe subscriberId conditionId => (registry.unsubscribe subscriberId conditionId).2
  | replaceSubscriptions subscriptions => registry.replaceSubscriptions subscriptions
  | touchSubscriptions conditionId now => registry.touchSubscriptions conditionId now

/-- The id that an operation changes directly. -/
def changed? : RegistryOperation → Option String
  | activate alert _ => some alert.id
  | deactivate id => some id
  | reconcile _ _ | write _ _ | subscribe _ | unsubscribe _ _ | replaceSubscriptions _
  | touchSubscriptions _ _ => none

/-- Whether an operation forgets no change after an epoch. -/
def Remembers (since : Nat) : RegistryOperation → Prop
  | reconcile _ earlier => earlier ≤ since
  | activate _ _ | deactivate _ | write _ _ | subscribe _ | unsubscribe _ _
  | replaceSubscriptions _ | touchSubscriptions _ _ => True

end RegistryOperation

/-- The ids changed directly, the first of them at the epoch one. -/
def directChanges (operations : List RegistryOperation) : List String :=
  operations.filterMap RegistryOperation.changed?

namespace Registry

/-- The registry after some operations, which began with an empty one. -/
def reached (operations : List RegistryOperation) : Registry :=
  operations.foldl RegistryOperation.apply {}

theorem reached_concat (before : List RegistryOperation) (last : RegistryOperation) :
    reached (before ++ [last]) = last.apply (reached before) := by
  simp [reached]

/-! ## What an operation leaves well formed -/

/-- Operations on subscriptions leave well formed what they do not read. -/
theorem WellFormed.of_same {before after : Registry} (wellFormed : before.WellFormed)
    (alerts : after.alerts = before.alerts) (cells : after.cells = before.cells)
    (epoch : after.epoch = before.epoch) (changedAt : after.changedAt = before.changedAt) :
    after.WellFormed := by
  refine wellFormed.restrict epoch (by rw [cells]) ?_ ?_
  · intro id entry found
    rw [get?, ← alerts]
    exact found
  · intro id changed found
    rw [← changedAt]
    exact found

theorem WellFormed.apply {registry : Registry} (wellFormed : registry.WellFormed)
    (operation : RegistryOperation) : (operation.apply registry).WellFormed := by
  cases operation with
  | activate alert initial => exact wellFormed.activate alert initial
  | deactivate id => exact wellFormed.deactivate id
  | reconcile stored since => exact registry.reconcile_wellFormed stored since wellFormed
  | write place runtime => exact wellFormed.setCell place runtime
  | subscribe subscription => exact wellFormed.of_same rfl rfl rfl rfl
  | unsubscribe subscriberId conditionId => exact wellFormed.of_same rfl rfl rfl rfl
  | replaceSubscriptions subscriptions => exact wellFormed.of_same rfl rfl rfl rfl
  | touchSubscriptions conditionId now => exact wellFormed.of_same rfl rfl rfl rfl

theorem reached_wellFormed (operations : List RegistryOperation) :
    (reached operations).WellFormed := by
  refine List.foldlRecOn operations _ WellFormed.empty ?_
  intro registry wellFormed operation _
  exact wellFormed.apply operation

/-! ## The record of direct changes -/

theorem epoch_apply (registry : Registry) (operation : RegistryOperation) :
    (operation.apply registry).epoch = registry.epoch + operation.changed?.toList.length := by
  cases operation with
  | activate alert initial => exact upsert_epoch _ alert initial
  | deactivate id => rfl
  | reconcile stored since => exact registry.epoch_reconcile stored since
  | write place runtime => rfl
  | subscribe subscription => rfl
  | unsubscribe subscriberId conditionId => rfl
  | replaceSubscriptions subscriptions => rfl
  | touchSubscriptions conditionId now => rfl

theorem directChanges_concat (before : List RegistryOperation) (last : RegistryOperation) :
    directChanges (before ++ [last]) = directChanges before ++ last.changed?.toList := by
  simp only [directChanges, List.filterMap_append]
  cases changed : last.changed? <;> simp [changed]

/-- The epoch counts the direct changes. -/
theorem epoch_reached (operations : List RegistryOperation) :
    (reached operations).epoch = (directChanges operations).length := by
  induction operations using List.reverseRecOn with
  | nil => rfl
  | append_singleton before last induction =>
      rw [reached_concat, epoch_apply, induction, directChanges_concat, List.length_append]

/-- A reconciliation forgets the changes that are not later than its epoch. -/
theorem changedSince_reconcile_iff (registry : Registry) (stored : StoredAlerts)
    (pruned since : Nat) (id : String) :
    (registry.reconcile stored pruned).2.changedSince id since = true ↔
      registry.changedSince id since = true ∧ registry.changedSince id pruned = true := by
  simp only [changedSince_iff, changedAt_reconcile, Option.filter_eq_some_iff, decide_eq_true_eq]
  constructor
  · rintro ⟨changed, ⟨recorded, kept⟩, after⟩
    exact ⟨⟨changed, recorded, after⟩, changed, recorded, kept⟩
  · rintro ⟨⟨changed, recorded, after⟩, other, again, kept⟩
    obtain rfl : changed = other := Option.some.inj (recorded.symm.trans again)
    exact ⟨changed, ⟨recorded, kept⟩, after⟩

/-- A direct change is one after every epoch up to now. -/
theorem WellFormed.changedSince_markChanged {registry : Registry} (wellFormed : registry.WellFormed)
    (changed id : String) (since : Nat) :
    (registry.markChanged changed).changedSince id since = true ↔
      registry.changedSince id since = true ∨
        (since ≤ registry.epoch ∧ some changed = some id) := by
  rw [Option.some_inj]
  by_cases past : since ≤ registry.epoch
  · rw [registry.changedSince_markChanged changed id past]
    constructor
    · rintro (rfl | before)
      · exact .inr ⟨past, rfl⟩
      · exact .inl before
    · rintro (before | ⟨-, rfl⟩)
      · exact .inr before
      · exact .inl rfl
  · -- no change is later than the next epoch
    have nothing (later : Registry) (sound : later.WellFormed) (bounded : later.epoch ≤ since) :
        ¬ later.changedSince id since = true := by
      rw [changedSince_iff]
      rintro ⟨epoch, recorded, after⟩
      have within := sound.changes id epoch recorded
      omega
    have before := nothing registry wellFormed (by omega)
    have after := nothing _ (wellFormed.markChanged changed)
      (by simp only [Registry.markChanged]; omega)
    simp [before, after, past]

theorem mem_drop_concat (changes : List String) (changed? : Option String) (since : Nat)
    (id : String) :
    id ∈ (changes ++ changed?.toList).drop since ↔
      id ∈ changes.drop since ∨ (since ≤ changes.length ∧ changed? = some id) := by
  rw [List.drop_append, List.mem_append]
  apply or_congr_right
  cases changed? with
  | none => simp
  | some changed =>
      by_cases past : since ≤ changes.length
      · have all : since - changes.length = 0 := by omega
        simp [all, past, eq_comm]
      · have nothing : 1 ≤ since - changes.length := by omega
        have dropped : [changed].drop (since - changes.length) = [] :=
          List.drop_eq_nil_of_le nothing
        simp [dropped, past]

/-- What an operation adds to the record, if it forgets nothing after the epoch. -/
theorem WellFormed.changedSince_apply {registry : Registry} (wellFormed : registry.WellFormed)
    {operation : RegistryOperation} {since : Nat} (remembers : operation.Remembers since)
    (id : String) :
    (operation.apply registry).changedSince id since = true ↔
      registry.changedSince id since = true ∨
        (since ≤ registry.epoch ∧ operation.changed? = some id) := by
  cases operation with
  | activate alert initial =>
      have keeps := Keeps.upsert (registry.markChanged alert.id) alert initial
      have direct := wellFormed.changedSince_markChanged alert.id id since
      rw [← keeps.changedSince] at direct
      exact direct
  | deactivate changed => exact wellFormed.changedSince_markChanged changed id since
  | reconcile stored pruned =>
      have kept := registry.changedSince_reconcile stored pruned id remembers
      simp [RegistryOperation.apply, RegistryOperation.changed?, kept]
  | write place runtime => simp [RegistryOperation.changed?]; rfl
  | subscribe subscription => simp [RegistryOperation.changed?]; rfl
  | unsubscribe subscriberId conditionId => simp [RegistryOperation.changed?]; rfl
  | replaceSubscriptions subscriptions => simp [RegistryOperation.changed?]; rfl
  | touchSubscriptions conditionId now => simp [RegistryOperation.changed?]; rfl

/-- No operation adds anything else to the record. -/
theorem WellFormed.of_changedSince_apply {registry : Registry} (wellFormed : registry.WellFormed)
    {operation : RegistryOperation} {since : Nat} {id : String}
    (recorded : (operation.apply registry).changedSince id since = true) :
    registry.changedSince id since = true ∨
      (since ≤ registry.epoch ∧ operation.changed? = some id) := by
  by_cases remembers : operation.Remembers since
  · exact (wellFormed.changedSince_apply remembers id).1 recorded
  · cases operation with
    | reconcile stored pruned =>
        exact .inl ((registry.changedSince_reconcile_iff stored pruned since id).1 recorded).1
    | _ => exact (remembers trivial).elim

/-- What is recorded as changed after an epoch was. -/
theorem mem_drop_of_changedSince_reached {operations : List RegistryOperation} {since : Nat}
    {id : String} (recorded : (reached operations).changedSince id since = true) :
    id ∈ (directChanges operations).drop since := by
  induction operations using List.reverseRecOn with
  | nil =>
      obtain ⟨changed, found, -⟩ := (changedSince_iff _ id since).1 recorded
      cases found
  | append_singleton before last induction =>
      rw [reached_concat] at recorded
      rw [directChanges_concat, mem_drop_concat, ← epoch_reached]
      exact ((reached_wellFormed before).of_changedSince_apply recorded).imp_left induction

/-- As long as nothing later was forgotten, all that was changed after an epoch is recorded. -/
theorem changedSince_reached_of_mem_drop {operations : List RegistryOperation} {since : Nat}
    (remember : ∀ operation ∈ operations, operation.Remembers since) {id : String}
    (changed : id ∈ (directChanges operations).drop since) :
    (reached operations).changedSince id since = true := by
  induction operations using List.reverseRecOn with
  | nil => simp [directChanges] at changed
  | append_singleton before last induction =>
      rw [directChanges_concat, mem_drop_concat, ← epoch_reached] at changed
      rw [reached_concat, (reached_wellFormed before).changedSince_apply (remember last (by simp))]
      refine changed.imp_left (induction ?_)
      exact fun operation member => remember operation (by simp [member])

end Registry

end CandleAlerts
