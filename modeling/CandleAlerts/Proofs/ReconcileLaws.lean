import CandleAlerts.Proofs.RegistryLaws

/-!
What a reconciliation does to each id.

An id that was changed directly since the reading began is left alone, together with its state. Any
other id ends up as it is stored: with the stored definition if there is one, and not registered if
there is none.
-/

namespace CandleAlerts.Registry

/-- The alerts of a reading, as they are taken in by a reconciliation. -/
abbrev StoredAlerts := List (Alert × Option AlertRuntime)

/-- The registry after every stored alert has been taken in, and before anything is removed. -/
def takeStored (registry : Registry) (stored : StoredAlerts) (since : Nat) : Registry :=
  (stored.foldl (reconcileStored since) ({}, registry)).2

/-- What taking in one stored alert does to the registry. -/
def takeOne (registry : Registry) (since : Nat) (entry : Alert × Option AlertRuntime) : Registry :=
  if registry.changedSince entry.1.id since then registry
  else (registry.upsert entry.1 entry.2).2

theorem reconcileStored_snd (since : Nat) (report : Reconciled) (registry : Registry)
    (entry : Alert × Option AlertRuntime) :
    (reconcileStored since (report, registry) entry).2 = registry.takeOne since entry := by
  unfold reconcileStored takeOne
  cases changed : registry.changedSince entry.1.id since with
  | true => simp [changed]
  | false => simp [changed]

theorem foldl_reconcileStored_snd (since : Nat) (stored : StoredAlerts) (report : Reconciled)
    (registry : Registry) :
    (stored.foldl (reconcileStored since) (report, registry)).2 =
      stored.foldl (fun registry entry => registry.takeOne since entry) registry := by
  induction stored generalizing report registry with
  | nil => rfl
  | cons entry rest induction =>
      have next : reconcileStored since (report, registry) entry =
          ((reconcileStored since (report, registry) entry).1, registry.takeOne since entry) :=
        Prod.ext rfl (reconcileStored_snd since report registry entry)
      rw [List.foldl_cons, List.foldl_cons, next, induction]

theorem takeStored_eq (registry : Registry) (stored : StoredAlerts) (since : Nat) :
    registry.takeStored stored since =
      stored.foldl (fun registry entry => registry.takeOne since entry) registry :=
  foldl_reconcileStored_snd since stored {} registry

section TakeOne

variable (registry : Registry) (since : Nat) (entry : Alert × Option AlertRuntime)

theorem takeOne_keeps : Keeps registry (registry.takeOne since entry) := by
  simp only [takeOne]
  split
  · exact Keeps.refl registry
  · exact Keeps.upsert registry entry.1 entry.2

theorem takeOne_wellFormed (wellFormed : registry.WellFormed) :
    (registry.takeOne since entry).WellFormed := by
  simp only [takeOne]
  split
  · exact wellFormed
  · exact wellFormed.upsert entry.1 entry.2

/-- An id is left alone by alerts of other ids, and by its own if it was changed directly. -/
theorem get?_takeOne_of_left_alone {id : String}
    (leftAlone : entry.1.id = id → registry.changedSince id since = true) :
    (registry.takeOne since entry).get? id = registry.get? id := by
  simp only [takeOne]
  by_cases same : entry.1.id = id
  · rw [same, if_pos (leftAlone same)]
  · split
    · rfl
    · exact registry.get?_upsert_of_ne entry.2 same

end TakeOne

theorem foldl_takeOne_keeps (since : Nat) (stored : StoredAlerts) (registry : Registry) :
    Keeps registry (stored.foldl (fun registry entry =>
      registry.takeOne since entry) registry) := by
  induction stored generalizing registry with
  | nil => exact Keeps.refl registry
  | cons entry rest induction =>
      exact (takeOne_keeps registry since entry).trans (induction _)

theorem foldl_takeOne_wellFormed (since : Nat) (stored : StoredAlerts) {registry : Registry}
    (wellFormed : registry.WellFormed) :
    (stored.foldl (fun registry entry => registry.takeOne since entry) registry).WellFormed := by
  induction stored generalizing registry with
  | nil => exact wellFormed
  | cons entry rest induction =>
      exact induction (takeOne_wellFormed registry since entry wellFormed)

theorem get?_foldl_takeOne_of_left_alone (since : Nat) (stored : StoredAlerts)
    (registry : Registry) {id : String}
    (leftAlone : ∀ entry ∈ stored, entry.1.id = id → registry.changedSince id since = true) :
    (stored.foldl (fun registry entry => registry.takeOne since entry) registry).get? id =
      registry.get? id := by
  induction stored generalizing registry with
  | nil => rfl
  | cons entry rest induction =>
      rw [List.foldl_cons, induction]
      · exact get?_takeOne_of_left_alone registry since entry
          (leftAlone entry List.mem_cons_self)
      · intro other member same
        rw [(takeOne_keeps registry since entry).changedSince]
        exact leftAlone other (List.mem_cons_of_mem _ member) same

/-- With distinct ids, an alert that was not changed directly ends up with its stored definition. -/
theorem get?_foldl_takeOne_of_mem (since : Nat) (stored : StoredAlerts) (registry : Registry)
    (distinct : (stored.map (fun entry => entry.1.id)).Nodup)
    {entry : Alert × Option AlertRuntime} (member : entry ∈ stored)
    (reflexive : (entry.1 == entry.1) = true)
    (unchanged : registry.changedSince entry.1.id since = false) :
    ∃ registered,
      (stored.foldl (fun registry entry => registry.takeOne since entry) registry).get?
        entry.1.id = some registered ∧ (registered.alert == entry.1) = true := by
  induction stored generalizing registry with
  | nil => cases member
  | cons head rest induction =>
      rw [List.map_cons, List.nodup_cons] at distinct
      rw [List.foldl_cons]
      rcases List.mem_cons.1 member with same | inRest
      · subst same
        rw [get?_foldl_takeOne_of_left_alone]
        · simp only [takeOne]
          rw [unchanged]
          exact registry.get?_upsert_self entry.1 entry.2 reflexive
        · intro other otherMember same
          exact absurd (same ▸ List.mem_map_of_mem otherMember) distinct.1
      · apply induction _ distinct.2 inRest
        rw [(takeOne_keeps registry since head).changedSince]
        exact unchanged

/-! ## Whole reconciliations -/

section Reconcile

variable (registry : Registry) (stored : StoredAlerts) (since : Nat)

theorem takeStored_keeps : Keeps registry (registry.takeStored stored since) := by
  rw [takeStored_eq]
  exact foldl_takeOne_keeps since stored registry

/-- An id stays registered if it is stored or was changed directly. -/
theorem get?_reconcile (id : String) :
    (registry.reconcile stored since).2.get? id =
      if id ∈ stored.map (fun entry => entry.1.id) ∨ registry.changedSince id since = true then
        (registry.takeStored stored since).get? id
      else none := by
  have keeps := (registry.takeStored_keeps stored since).changedSince id since
  have filtered : (registry.reconcile stored since).2.get? id =
      ((registry.takeStored stored since).get? id).filter (fun _ =>
        (registry.takeStored stored since).keepsUnstored since
          (stored.map (fun entry => entry.1.id)) id) :=
    Table.get?_filter _ _ _
  rw [filtered, keepsUnstored, keeps]
  by_cases stays : id ∈ stored.map (fun entry => entry.1.id) ∨
      registry.changedSince id since = true
  · rw [if_pos stays]
    have holds : ((stored.map (fun entry => entry.1.id)).contains id ||
        registry.changedSince id since) = true := by
      rw [Bool.or_eq_true, List.contains_iff_mem]
      exact stays
    rw [holds]
    cases (registry.takeStored stored since).get? id <;> rfl
  · rw [if_neg stays]
    have fails : ((stored.map (fun entry => entry.1.id)).contains id ||
        registry.changedSince id since) = false := by
      rw [Bool.eq_false_iff, ne_eq, Bool.or_eq_true, List.contains_iff_mem]
      exact stays
    rw [fails]
    cases (registry.takeStored stored since).get? id <;> rfl

theorem cell_reconcile {place : Nat} (within : place < registry.cells.size) :
    (registry.reconcile stored since).2.cell place = registry.cell place :=
  (registry.takeStored_keeps stored since).cells place within

@[simp] theorem epoch_reconcile : (registry.reconcile stored since).2.epoch = registry.epoch :=
  (registry.takeStored_keeps stored since).epoch

theorem changedAt_reconcile (id : String) :
    (registry.reconcile stored since).2.changedAt.get? id =
      (registry.changedAt.get? id).filter (fun changed => since < changed) := by
  have filtered : (registry.reconcile stored since).2.changedAt.get? id =
      ((registry.takeStored stored since).changedAt.get? id).filter
        (fun changed => since < changed) := Table.get?_filter _ _ _
  rw [filtered, (registry.takeStored_keeps stored since).changedAt]

/-- Pruning forgets no change that a reading begun since then could undo. -/
theorem changedSince_reconcile (id : String) {later : Nat} (order : since ≤ later) :
    (registry.reconcile stored since).2.changedSince id later = registry.changedSince id later := by
  simp only [changedSince]
  rw [changedAt_reconcile]
  cases registry.changedAt.get? id with
  | none => rfl
  | some changed =>
      by_cases kept : since < changed
      · simp [Option.filter, kept]
      · have notLater : ¬ later < changed := by omega
        simp [Option.filter, kept, notLater]

theorem reconcile_wellFormed (wellFormed : registry.WellFormed) :
    (registry.reconcile stored since).2.WellFormed := by
  have taken : (registry.takeStored stored since).WellFormed := by
    rw [takeStored_eq]
    exact foldl_takeOne_wellFormed since stored wellFormed
  refine taken.restrict rfl rfl ?_ ?_
  · intro id entry found
    rw [get?_reconcile] at found
    split at found
    · exact found
    · cases found
  · intro id changed found
    rw [changedAt_reconcile, Option.filter_eq_some_iff] at found
    rw [(registry.takeStored_keeps stored since).changedAt]
    exact found.1

/-- An id that was changed directly since the reading began is left alone, and so is its state. -/
theorem reconcile_leaves_alone (wellFormed : registry.WellFormed) {id : String}
    (changed : registry.changedSince id since = true) :
    (registry.reconcile stored since).2.get? id = registry.get? id ∧
      (registry.reconcile stored since).2.runtime? id = registry.runtime? id := by
  have same : (registry.reconcile stored since).2.get? id = registry.get? id := by
    rw [get?_reconcile, if_pos (.inr changed), takeStored_eq]
    apply get?_foldl_takeOne_of_left_alone
    intro entry member stored
    exact changed
  refine ⟨same, ?_⟩
  simp only [runtime?]
  rw [same]
  cases found : registry.get? id with
  | none => rfl
  | some entry =>
      rw [Option.map_some, Option.map_some,
        registry.cell_reconcile stored since (wellFormed.cells id entry found)]

/-- Whether exactly some alerts are registered, definitions being compared as the registry does. -/
structure Matches (registry : Registry) (alerts : List Alert) : Prop where
  registered : ∀ alert ∈ alerts, ∃ entry, registry.get? alert.id = some entry ∧
    (entry.alert == alert) = true
  listed : ∀ id entry, registry.get? id = some entry →
    ∃ alert ∈ alerts, alert.id = id ∧ (entry.alert == alert) = true

/-- When nothing was changed directly since the reading began, what is stored is registered, and
nothing else. -/
theorem reconcile_matches (distinct : (stored.map (fun entry => entry.1.id)).Nodup)
    (reflexive : ∀ entry ∈ stored, (entry.1 == entry.1) = true)
    (unchanged : ∀ id, registry.changedSince id since = false) :
    (registry.reconcile stored since).2.Matches (stored.map Prod.fst) := by
  have taken : ∀ entry ∈ stored, ∃ registered,
      (registry.reconcile stored since).2.get? entry.1.id = some registered ∧
        (registered.alert == entry.1) = true := by
    intro entry member
    rw [get?_reconcile, if_pos (.inl (List.mem_map.2 ⟨entry, member, rfl⟩)), takeStored_eq]
    exact get?_foldl_takeOne_of_mem since stored registry distinct member
      (reflexive entry member) (unchanged entry.1.id)
  constructor
  · intro alert member
    rcases List.mem_map.1 member with ⟨entry, entryMember, rfl⟩
    exact taken entry entryMember
  · intro id registered found
    have stays := found
    rw [get?_reconcile, unchanged id] at stays
    split at stays
    · rename_i listed
      rcases listed with stored | changed
      · rcases List.mem_map.1 stored with ⟨entry, member, rfl⟩
        rcases taken entry member with ⟨other, otherFound, equal⟩
        have same : other = registered := Option.some.inj (otherFound.symm.trans found)
        subst same
        exact ⟨entry.1, List.mem_map_of_mem member, rfl, equal⟩
      · cases changed
    · cases stays

end Reconcile

end CandleAlerts.Registry
