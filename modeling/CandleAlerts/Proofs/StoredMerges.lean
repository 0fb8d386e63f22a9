import CandleAlerts.Proofs.AlertEquality
import CandleAlerts.Proofs.RegistryHistories

/-!
A reconciliation as a merge of what is stored into what is registered.

What was changed directly in the meantime stays as it is, and so does what is stored with the same
definition. An edited alert goes on with the lasting part of its state, a new one starts with the
state that comes with it, and what is not stored goes. The report counts what was done, and the same
reconciliation again does nothing more.
-/

namespace CandleAlerts.Registry

/-! ## What a merge does to one alert -/

/-- What becomes of a stored alert: nothing, if its id was changed directly, or else what it is to
be registered. -/
def classOf (registry : Registry) (since : Nat) (entry : Alert × Option AlertRuntime) :
    Option Activation :=
  if registry.changedSince entry.1.id since then none
  else match registry.get? entry.1.id with
    | none => some .added
    | some existing => if existing.alert == entry.1 then some .unchanged else some .updated

/-- Whether an id is registered as it was, with the same cell in the same state. -/
def Untouched (before after : Registry) (id : String) : Prop :=
  after.get? id = before.get? id ∧ after.runtime? id = before.runtime? id

/-- Whether an alert is registered with a state. -/
def Runs (registry : Registry) (alert : Alert) (runtime : AlertRuntime) : Prop :=
  (registry.get? alert.id).map Registered.alert = some alert ∧
    registry.runtime? alert.id = some runtime

/-- What each class of stored alerts comes to. -/
def TakenAs (before after : Registry) (entry : Alert × Option AlertRuntime) :
    Option Activation → Prop
  | none | some .unchanged => Untouched before after entry.1.id
  | some .updated =>
      ∃ runtime, before.runtime? entry.1.id = some runtime ∧
        after.Runs entry.1
          { runtime with latches := Table.empty, missingStreak := 0, warnedUnresolvable := false }
  | some .added => after.Runs entry.1 (entry.2.getD {})

theorem Untouched.trans {first second third : Registry} {id : String}
    (left : Untouched first second id) (right : Untouched second third id) :
    Untouched first third id :=
  ⟨right.1.trans left.1, right.2.trans left.2⟩

/-- An id that is still registered as it was has its cell, and the cells there were are kept. -/
theorem Keeps.untouched {before after : Registry} (keeps : Keeps before after)
    (wellFormed : before.WellFormed) {id : String} (same : after.get? id = before.get? id) :
    Untouched before after id := by
  refine ⟨same, ?_⟩
  rw [runtime?, runtime?, same]
  cases found : before.get? id with
  | none => rfl
  | some entry =>
      rw [Option.map_some, Option.map_some,
        keeps.cells entry.cell (wellFormed.cells id entry found)]

theorem runs_register (registry : Registry) (alert : Alert) (runtime : AlertRuntime) :
    (registry.register alert runtime).Runs alert runtime := by
  have found := registry.get?_register alert runtime alert.id
  rw [if_pos rfl] at found
  refine ⟨by rw [found]; rfl, ?_⟩
  rw [runtime?, found, Option.map_some, cell_register, if_pos rfl]

namespace TakenAs

variable {before middle after : Registry} {entry : Alert × Option AlertRuntime}
  {kind : Option Activation}

theorem of_untouched_after (taken : TakenAs before middle entry kind)
    (untouched : Untouched middle after entry.1.id) : TakenAs before after entry kind := by
  have runs {runtime : AlertRuntime} (there : middle.Runs entry.1 runtime) :
      after.Runs entry.1 runtime := by
    rw [Runs, untouched.1, untouched.2]
    exact there
  rcases kind with _ | activation
  · exact Untouched.trans taken untouched
  · cases activation with
    | unchanged => exact Untouched.trans taken untouched
    | updated =>
        obtain ⟨runtime, found, there⟩ := taken
        exact ⟨runtime, found, runs there⟩
    | added => exact runs taken

theorem of_untouched_before (untouched : Untouched before middle entry.1.id)
    (taken : TakenAs middle after entry kind) : TakenAs before after entry kind := by
  rcases kind with _ | activation
  · exact untouched.trans taken
  · cases activation with
    | unchanged => exact untouched.trans taken
    | updated =>
        obtain ⟨runtime, found, there⟩ := taken
        exact ⟨runtime, untouched.2 ▸ found, there⟩
    | added => exact taken

end TakenAs

theorem classOf_congr {before middle : Registry} {since : Nat}
    {entry : Alert × Option AlertRuntime}
    (changed : middle.changedSince entry.1.id since = before.changedSince entry.1.id since)
    (registered : middle.get? entry.1.id = before.get? entry.1.id) :
    middle.classOf since entry = before.classOf since entry := by
  rw [classOf, classOf, changed, registered]

section TakeOne

variable (registry : Registry) (since : Nat) (entry : Alert × Option AlertRuntime)

/-- What taking in a stored alert does to the registry, and what it reports, for each class. -/
theorem reconcileStored_cases (report : Reconciled) :
    (registry.classOf since entry = none ∧ reconcileStored since (report, registry) entry =
      ({ report with skipped := report.skipped + 1 }, registry)) ∨
    (registry.classOf since entry = some .unchanged ∧
      reconcileStored since (report, registry) entry = (report, registry)) ∨
    (∃ existing, registry.get? entry.1.id = some existing ∧
      registry.classOf since entry = some .updated ∧
      reconcileStored since (report, registry) entry =
        ({ report with updated := report.updated + 1 },
          registry.register entry.1 (registry.cell existing.cell).afterEdit)) ∨
    (registry.get? entry.1.id = none ∧ registry.classOf since entry = some .added ∧
      reconcileStored since (report, registry) entry =
        ({ report with added := report.added + 1 },
          registry.register entry.1 (entry.2.getD {}))) := by
  simp only [classOf, reconcileStored]
  cases changed : registry.changedSince entry.1.id since with
  | true => exact .inl ⟨rfl, rfl⟩
  | false =>
      right
      simp only [Bool.false_eq_true, if_false, upsert]
      cases found : registry.get? entry.1.id with
      | none => exact .inr (.inr ⟨rfl, rfl, rfl⟩)
      | some existing =>
          cases same : existing.alert == entry.1 with
          | true => exact .inl ⟨by simp [same], by simp [same, Reconciled.count]⟩
          | false =>
              exact .inr (.inl ⟨existing, rfl, by simp [same], by simp [same, Reconciled.count]⟩)

/-- Taking in one alert does to it what its class says. -/
theorem takeOne_takenAs :
    TakenAs registry (registry.takeOne since entry) entry (registry.classOf since entry) := by
  rw [← reconcileStored_snd since {} registry entry]
  rcases registry.reconcileStored_cases since entry {} with ⟨kind, taken⟩ | ⟨kind, taken⟩ |
    ⟨existing, found, kind, taken⟩ | ⟨absent, kind, taken⟩
  · rw [kind, taken]
    exact ⟨rfl, rfl⟩
  · rw [kind, taken]
    exact ⟨rfl, rfl⟩
  · rw [kind, taken]
    exact ⟨registry.cell existing.cell, by rw [runtime?, found]; rfl,
      registry.runs_register entry.1 _⟩
  · rw [kind, taken]
    exact registry.runs_register entry.1 _

theorem size_register_alerts (alert : Alert) (runtime : AlertRuntime) :
    (registry.register alert runtime).alerts.size =
      registry.alerts.size + if (registry.get? alert.id).isSome then 0 else 1 :=
  registry.alerts.size_insert alert.id _

theorem size_takeOne :
    (registry.takeOne since entry).alerts.size =
      registry.alerts.size + if registry.classOf since entry = some .added then 1 else 0 := by
  rw [← reconcileStored_snd since {} registry entry]
  rcases registry.reconcileStored_cases since entry {} with ⟨kind, taken⟩ | ⟨kind, taken⟩ |
    ⟨existing, found, kind, taken⟩ | ⟨absent, kind, taken⟩
  · rw [kind, taken]
    rfl
  · rw [kind, taken]
    rfl
  · rw [kind, taken, size_register_alerts, found]
    rfl
  · rw [kind, taken, size_register_alerts, absent]
    rfl

/-- An alert whose registration is not to be changed leaves the registry as it is. -/
theorem takeOne_eq_self (settled : registry.classOf since entry = none ∨
    registry.classOf since entry = some .unchanged) : registry.takeOne since entry = registry := by
  rw [← reconcileStored_snd since {} registry entry]
  rcases registry.reconcileStored_cases since entry {} with ⟨kind, taken⟩ | ⟨kind, taken⟩ |
    ⟨existing, found, kind, taken⟩ | ⟨absent, kind, taken⟩
  · rw [taken]
  · rw [taken]
  · rw [kind] at settled
    simp at settled
  · rw [kind] at settled
    simp at settled

/-- Other alerts are neither touched nor put into another class. -/
theorem takeOne_untouched (wellFormed : registry.WellFormed) {id : String}
    (leftAlone : entry.1.id = id → registry.changedSince id since = true) :
    Untouched registry (registry.takeOne since entry) id :=
  (takeOne_keeps registry since entry).untouched wellFormed
    (get?_takeOne_of_left_alone registry since entry leftAlone)

theorem classOf_takeOne {other : Alert × Option AlertRuntime}
    (different : other.1.id ≠ entry.1.id) :
    (registry.takeOne since entry).classOf since other = registry.classOf since other :=
  classOf_congr ((takeOne_keeps registry since entry).changedSince _ _)
    (get?_takeOne_of_left_alone registry since entry (fun same => absurd same.symm different))

end TakeOne

/-! ## What a merge does to all alerts -/

end CandleAlerts.Registry

namespace CandleAlerts

def Reconciled.note (report : Reconciled) : Option Activation → Reconciled
  | none => { report with skipped := report.skipped + 1 }
  | some activation => report.count activation

theorem Reconciled.foldl_note (kinds : List (Option Activation)) (report : Reconciled) :
    kinds.foldl note report =
      { report with
        added := report.added + kinds.count (some .added)
        updated := report.updated + kinds.count (some .updated)
        skipped := report.skipped + kinds.count none } := by
  induction kinds generalizing report with
  | nil => rfl
  | cons kind rest induction =>
      rw [List.foldl_cons, induction]
      rcases kind with _ | activation
      · simp [note, Nat.add_assoc, Nat.add_comm 1]
      · cases activation <;> simp [note, count, Nat.add_assoc, Nat.add_comm 1]

end CandleAlerts

namespace CandleAlerts.Registry

section TakeAll

variable (since : Nat)

theorem reconcileStored_fst (registry : Registry) (entry : Alert × Option AlertRuntime)
    (report : Reconciled) :
    (reconcileStored since (report, registry) entry).1 =
      report.note (registry.classOf since entry) := by
  rcases registry.reconcileStored_cases since entry report with ⟨kind, taken⟩ | ⟨kind, taken⟩ |
    ⟨existing, found, kind, taken⟩ | ⟨absent, kind, taken⟩
  all_goals
    rw [kind, taken]
    rfl

variable {stored : StoredAlerts} (distinct : (stored.map (fun entry => entry.1.id)).Nodup)

include distinct

/-- With distinct ids, the alerts that come later are put into the classes that they were in. -/
theorem map_classOf_takeOne (registry : Registry) {head : Alert × Option AlertRuntime}
    {rest : StoredAlerts} (split : stored = head :: rest) :
    rest.map ((registry.takeOne since head).classOf since) = rest.map (registry.classOf since) := by
  subst split
  rw [List.map_cons, List.nodup_cons] at distinct
  apply List.map_congr_left
  intro entry member
  exact registry.classOf_takeOne since head
    (fun same => distinct.1 (same ▸ List.mem_map_of_mem member))

/-- The report counts the classes of the stored alerts. -/
theorem foldl_reconcileStored_fst (registry : Registry) (report : Reconciled) :
    (stored.foldl (reconcileStored since) (report, registry)).1 =
      (stored.map (registry.classOf since)).foldl Reconciled.note report := by
  induction stored generalizing registry report with
  | nil => rfl
  | cons head rest induction =>
      have next : reconcileStored since (report, registry) head =
          (report.note (registry.classOf since head), registry.takeOne since head) :=
        Prod.ext (reconcileStored_fst since registry head report)
          (reconcileStored_snd since report registry head)
      have classes := map_classOf_takeOne since distinct registry rfl
      rw [List.map_cons, List.nodup_cons] at distinct
      rw [List.foldl_cons, next, induction distinct.2, classes, List.map_cons, List.foldl_cons]

theorem size_foldl_takeOne (registry : Registry) :
    (stored.foldl (fun registry entry => registry.takeOne since entry) registry).alerts.size =
      registry.alerts.size + (stored.map (registry.classOf since)).count (some .added) := by
  induction stored generalizing registry with
  | nil => rfl
  | cons head rest induction =>
      have classes := map_classOf_takeOne since distinct registry rfl
      rw [List.map_cons, List.nodup_cons] at distinct
      rw [List.foldl_cons, induction distinct.2, classes, size_takeOne, List.map_cons,
        List.count_cons, Nat.add_assoc, Nat.add_comm (ite _ _ _)]
      simp only [beq_iff_eq]

/-- Every stored alert is taken in as its class says, whatever comes before and after it. -/
theorem foldl_takeOne_takenAs {registry : Registry} (wellFormed : registry.WellFormed)
    {entry : Alert × Option AlertRuntime} (member : entry ∈ stored) :
    TakenAs registry (stored.foldl (fun registry entry => registry.takeOne since entry) registry)
      entry (registry.classOf since entry) := by
  induction stored generalizing registry with
  | nil => cases member
  | cons head rest induction =>
      rw [List.map_cons, List.nodup_cons] at distinct
      rw [List.foldl_cons]
      have soundNext := takeOne_wellFormed registry since head wellFormed
      rcases List.mem_cons.1 member with rfl | inRest
      · refine (registry.takeOne_takenAs since entry).of_untouched_after ?_
        refine (foldl_takeOne_keeps since rest _).untouched soundNext ?_
        apply get?_foldl_takeOne_of_left_alone
        intro other otherMember same
        exact absurd (same ▸ List.mem_map_of_mem otherMember) distinct.1
      · have different : entry.1.id ≠ head.1.id :=
          fun same => distinct.1 (same ▸ List.mem_map_of_mem inRest)
        have taken := induction distinct.2 soundNext inRest
        rw [registry.classOf_takeOne since head different] at taken
        refine taken.of_untouched_before ?_
        exact registry.takeOne_untouched since head wellFormed
          (fun same => absurd same.symm different)

end TakeAll

/-! ## Whole merges -/

/-- The ids of stored alerts. -/
def StoredAlerts.ids (stored : StoredAlerts) : List String := stored.map (fun entry => entry.1.id)

/-- The alerts that a merge removes: neither stored nor changed directly. -/
def unstored (registry : Registry) (stored : StoredAlerts) (since : Nat) : Table Registered :=
  registry.alerts.filter (fun id _ =>
    !stored.ids.contains id && !registry.changedSince id since)

/-- What it is for stored alerts to be merged into a registry, with a report of it. -/
structure Merge (before after : Registry) (report : Reconciled) (stored : StoredAlerts)
    (since : Nat) : Prop where
  changed : ∀ id, before.changedSince id since = true → Untouched before after id
  taken : ∀ entry ∈ stored, TakenAs before after entry (before.classOf since entry)
  absent : ∀ id, before.changedSince id since = false → id ∉ stored.ids → after.get? id = none
  report_eq : report =
    { added := (stored.map (before.classOf since)).count (some .added)
      updated := (stored.map (before.classOf since)).count (some .updated)
      removed := (before.unstored stored since).size
      skipped := (stored.map (before.classOf since)).count none }
  size : after.alerts.size + report.removed = before.alerts.size + report.added
  ids : ∀ id entry, after.get? id = some entry → entry.alert.id = id
  subscriptions : after.subscriptions = before.subscriptions
  epoch : after.epoch = before.epoch
  changes : ∀ id changed, after.changedAt.get? id = some changed →
    since < changed ∧ changed ≤ after.epoch
  again : after.reconcile stored since = ({ skipped := report.skipped }, after)

section Merges

variable (registry : Registry) (stored : StoredAlerts) (since : Nat)

theorem takeStored_subscriptions :
    (registry.takeStored stored since).subscriptions = registry.subscriptions := by
  rw [takeStored_eq]
  refine List.foldlRecOn (motive := fun taken : Registry =>
    taken.subscriptions = registry.subscriptions) stored _ rfl ?_
  intro taken same entry _
  rw [← reconcileStored_snd since {} taken entry]
  rcases taken.reconcileStored_cases since entry {} with ⟨-, result⟩ | ⟨-, result⟩ |
    ⟨existing, -, -, result⟩ | ⟨-, -, result⟩
  all_goals
    rw [result]
    exact same

/-- What was registered and is to be removed is not changed by the stored alerts. -/
theorem filter_takeStored :
    (registry.takeStored stored since).alerts.filter (fun id _ =>
      !(registry.takeStored stored since).keepsUnstored since stored.ids id) =
        registry.unstored stored since := by
  apply Table.eq_of_get?
  intro id
  have changed := (registry.takeStored_keeps stored since).changedSince id since
  rw [unstored, Table.get?_filter, Table.get?_filter]
  simp only [keepsUnstored, changed, Bool.not_or]
  by_cases listed : id ∈ stored.ids
  · have contained : stored.ids.contains id = true := List.contains_iff_mem.2 listed
    simp only [contained, Bool.not_true, Bool.false_and]
    cases (registry.takeStored stored since).alerts.get? id <;>
      cases registry.alerts.get? id <;> rfl
  · have same : (registry.takeStored stored since).alerts.get? id = registry.alerts.get? id := by
      rw [takeStored_eq]
      apply get?_foldl_takeOne_of_left_alone
      rintro entry member rfl
      exact absurd (List.mem_map_of_mem member) listed
    rw [same]

theorem removed_reconcile :
    (registry.reconcile stored since).1.removed = (registry.unstored stored since).size ∧
      (registry.reconcile stored since).2.alerts.size + (registry.unstored stored since).size =
        (registry.takeStored stored since).alerts.size := by
  have split := (registry.takeStored stored since).alerts.size_filter_add (fun id _ =>
    (registry.takeStored stored since).keepsUnstored since stored.ids id)
  rw [filter_takeStored] at split
  have removed : (registry.reconcile stored since).1.removed =
      (registry.takeStored stored since).alerts.size -
        (registry.reconcile stored since).2.alerts.size := rfl
  have remaining : (registry.reconcile stored since).2.alerts =
      (registry.takeStored stored since).alerts.filter (fun id _ =>
        (registry.takeStored stored since).keepsUnstored since stored.ids id) := rfl
  rw [removed, remaining]
  omega

variable {stored} (distinct : stored.ids.Nodup)

include distinct in
theorem report_reconcile : (registry.reconcile stored since).1 =
    { added := (stored.map (registry.classOf since)).count (some .added)
      updated := (stored.map (registry.classOf since)).count (some .updated)
      removed := (registry.unstored stored since).size
      skipped := (stored.map (registry.classOf since)).count none } := by
  have report : (registry.reconcile stored since).1 =
      { (stored.foldl (reconcileStored since) ({}, registry)).1 with
        removed := (registry.reconcile stored since).1.removed } := rfl
  rw [report, foldl_reconcileStored_fst since distinct, Reconciled.foldl_note,
    (registry.removed_reconcile stored since).1]
  simp only [Nat.zero_add]

include distinct in
theorem size_reconcile :
    (registry.reconcile stored since).2.alerts.size + (registry.unstored stored since).size =
      registry.alerts.size + (stored.map (registry.classOf since)).count (some .added) := by
  rw [(registry.removed_reconcile stored since).2, takeStored_eq,
    size_foldl_takeOne since distinct]

theorem untouched_removal {id : String}
    (stays : id ∈ stored.ids ∨ registry.changedSince id since = true) :
    Untouched (registry.takeStored stored since) (registry.reconcile stored since).2 id := by
  have same := (registry.get?_reconcile stored since id).trans (if_pos stays)
  refine ⟨same, ?_⟩
  rw [runtime?, runtime?, same]
  rfl

/-- What is neither stored nor changed directly is gone. -/
theorem get?_reconcile_of_neither {id : String}
    (neither : ¬ (id ∈ stored.ids ∨ registry.changedSince id since = true)) :
    (registry.reconcile stored since).2.get? id = none :=
  (registry.get?_reconcile stored since id).trans (if_neg neither)

include distinct in
theorem reconcile_takenAs (wellFormed : registry.WellFormed)
    {entry : Alert × Option AlertRuntime} (member : entry ∈ stored) :
    TakenAs registry (registry.reconcile stored since).2 entry (registry.classOf since entry) := by
  have taken := foldl_takeOne_takenAs since distinct wellFormed member
  rw [← takeStored_eq] at taken
  exact taken.of_untouched_after
    (registry.untouched_removal since (.inl (List.mem_map_of_mem member)))

/-! ## The same merge again -/

theorem classOf_of_changed {entry : Alert × Option AlertRuntime}
    (changed : registry.changedSince entry.1.id since = true) :
    registry.classOf since entry = none := by
  rw [classOf, if_pos changed]

theorem classOf_of_registered {entry : Alert × Option AlertRuntime}
    (unchanged : registry.changedSince entry.1.id since = false) {registered : Registered}
    (found : registry.get? entry.1.id = some registered)
    (same : (registered.alert == entry.1) = true) :
    registry.classOf since entry = some .unchanged := by
  simp only [classOf, unchanged, found, same]
  rfl

theorem isSome_classOf {entry : Alert × Option AlertRuntime}
    (unchanged : registry.changedSince entry.1.id since = false) :
    (registry.classOf since entry).isSome = true := by
  simp only [classOf, unchanged]
  cases registry.get? entry.1.id with
  | none => rfl
  | some existing =>
      simp only [Bool.false_eq_true, if_false]
      split <;> rfl

include distinct in
/-- After a merge, a stored alert is registered as it is stored or was changed directly. -/
theorem classOf_reconcile {entry : Alert × Option AlertRuntime} (member : entry ∈ stored)
    (reflexive : (entry.1 == entry.1) = true) :
    (registry.reconcile stored since).2.classOf since entry =
      (registry.classOf since entry).map (fun _ => .unchanged) := by
  have kept := registry.changedSince_reconcile stored since entry.1.id (Nat.le_refl since)
  cases changed : registry.changedSince entry.1.id since with
  | true =>
      rw [classOf_of_changed _ since changed, classOf_of_changed _ since (kept.trans changed)]
      rfl
  | false =>
      obtain ⟨registered, found, same⟩ :=
        get?_foldl_takeOne_of_mem since stored registry distinct member reflexive changed
      rw [← takeStored_eq] at found
      have stays : entry.1.id ∈ stored.ids := List.mem_map_of_mem member
      rw [classOf_of_registered _ since (kept.trans changed)
        ((registry.untouched_removal since (.inl stays)).1.trans found) same]
      obtain ⟨activation, kind⟩ :=
        Option.isSome_iff_exists.1 (isSome_classOf registry since changed)
      rw [kind]
      rfl

/-- Whether there is nothing to merge: nothing to take in, to remove or to forget. -/
structure Settled (registry : Registry) (stored : StoredAlerts) (since : Nat) : Prop where
  classes : ∀ entry ∈ stored, registry.classOf since entry = none ∨
    registry.classOf since entry = some .unchanged
  registered : ∀ id entry, registry.get? id = some entry →
    id ∈ stored.ids ∨ registry.changedSince id since = true
  changes : ∀ id changed, registry.changedAt.get? id = some changed → since < changed

namespace Settled

variable {registry since} (settled : registry.Settled stored since)

include settled

theorem takeStored_eq_self : registry.takeStored stored since = registry := by
  rw [takeStored_eq]
  refine List.foldlRecOn (motive := fun taken : Registry => taken = registry) stored _ rfl ?_
  rintro taken rfl entry member
  exact taken.takeOne_eq_self since entry (settled.classes entry member)

theorem reconcile_snd : (registry.reconcile stored since).2 = registry := by
  have merged : (registry.reconcile stored since).2 =
      ((registry.takeStored stored since).removeUnstored since stored.ids).pruneChanges since := rfl
  have alerts : registry.alerts.filter (fun id _ => registry.keepsUnstored since stored.ids id) =
      registry.alerts := by
    apply Table.filter_eq_self
    intro id entry found
    rw [keepsUnstored, Bool.or_eq_true, List.contains_iff_mem]
    exact settled.registered id entry found
  have changedAt : registry.changedAt.filter (fun _ changed => since < changed) =
      registry.changedAt := by
    apply Table.filter_eq_self
    intro id changed found
    exact decide_eq_true (settled.changes id changed found)
  rw [merged, settled.takeStored_eq_self, removeUnstored, pruneChanges, alerts, changedAt]

theorem unstored_eq_empty : registry.unstored stored since = Table.empty := by
  apply Table.eq_of_get?
  intro id
  rw [unstored, Table.get?_filter, Table.get?_empty, Option.filter_eq_none_iff]
  intro entry found
  rcases settled.registered id entry found with listed | changed
  · simp [listed]
  · simp [changed]

end Settled

include distinct in
theorem Settled.reconcile_eq {registry : Registry} {since : Nat}
    (settled : registry.Settled stored since) :
    registry.reconcile stored since =
      ({ skipped := (stored.map (registry.classOf since)).count none }, registry) := by
  have nothing (activation : Activation) (other : activation ≠ .unchanged) :
      (stored.map (registry.classOf since)).count (some activation) = 0 := by
    rw [List.count_eq_zero]
    intro listed
    obtain ⟨entry, member, kind⟩ := List.mem_map.1 listed
    rcases settled.classes entry member with changed | unchanged
    · rw [kind] at changed
      cases changed
    · rw [kind] at unchanged
      exact other (Option.some.inj unchanged)
  refine Prod.ext ?_ settled.reconcile_snd
  rw [registry.report_reconcile since distinct, settled.unstored_eq_empty, nothing .added nofun,
    nothing .updated nofun]
  rfl

include distinct in
/-- A merge leaves nothing to merge. -/
theorem settled_reconcile (reflexive : ∀ entry ∈ stored, (entry.1 == entry.1) = true) :
    (registry.reconcile stored since).2.Settled stored since where
  classes entry member := by
    rw [registry.classOf_reconcile since distinct member (reflexive entry member)]
    cases registry.classOf since entry with
    | none => exact .inl rfl
    | some activation => exact .inr rfl
  registered id entry found := by
    rw [registry.changedSince_reconcile stored since id (Nat.le_refl since)]
    by_contra neither
    rw [registry.get?_reconcile_of_neither since neither] at found
    cases found
  changes id changed found := by
    rw [changedAt_reconcile, Option.filter_eq_some_iff] at found
    exact of_decide_eq_true found.2

include distinct in
/-- The same merge again does nothing, and passes over the same alerts. -/
theorem reconcile_again (reflexive : ∀ entry ∈ stored, (entry.1 == entry.1) = true) :
    (registry.reconcile stored since).2.reconcile stored since =
      ({ skipped := (registry.reconcile stored since).1.skipped },
        (registry.reconcile stored since).2) := by
  have skipped : (stored.map ((registry.reconcile stored since).2.classOf since)).count none =
      (stored.map (registry.classOf since)).count none := by
    rw [List.count_eq_countP, List.count_eq_countP, List.countP_map, List.countP_map]
    apply List.countP_congr
    intro entry member
    simp [registry.classOf_reconcile since distinct member (reflexive entry member)]
  rw [(registry.settled_reconcile since distinct reflexive).reconcile_eq distinct, skipped,
    registry.report_reconcile since distinct]

end Merges

/-! ## Merges into registries that came about -/

/-- A reconciliation merges what is stored into the registry. What the registry records as changed
after an epoch was changed after it, and is all that was, unless an earlier reconciliation was given
a later epoch. -/
theorem reconcile_merges (operations : List RegistryOperation) (stored : StoredAlerts) (since : Nat)
    (distinct : stored.ids.Nodup) (numbers : ∀ entry ∈ stored, entry.1.HoldsNoNaN) :
    Merge (reached operations) ((reached operations).reconcile stored since).2
      ((reached operations).reconcile stored since).1 stored since ∧
    (∀ id, (reached operations).changedSince id since = true →
      id ∈ (directChanges operations).drop since) ∧
    ((∀ operation ∈ operations, operation.Remembers since) →
      ∀ id ∈ (directChanges operations).drop since,
        (reached operations).changedSince id since = true) := by
  have wellFormed := reached_wellFormed operations
  have sound := (reached operations).reconcile_wellFormed stored since wellFormed
  refine ⟨?_, fun id => mem_drop_of_changedSince_reached,
    fun remember id => changedSince_reached_of_mem_drop remember⟩
  exact
    { changed := fun id =>
        (reached operations).reconcile_leaves_alone stored since wellFormed
      taken := fun entry member =>
        (reached operations).reconcile_takenAs since distinct wellFormed member
      absent := fun id unchanged unlisted => by
        refine (reached operations).get?_reconcile_of_neither since ?_
        rintro (listed | changed)
        · exact unlisted listed
        · rw [unchanged] at changed
          cases changed
      report_eq := (reached operations).report_reconcile since distinct
      size := by
        have size := (reached operations).size_reconcile since distinct
        have report := (reached operations).report_reconcile since distinct
        rw [report]
        exact size
      ids := sound.ids
      subscriptions := (reached operations).takeStored_subscriptions stored since
      epoch := (reached operations).epoch_reconcile stored since
      changes := fun id changed found =>
        ⟨((reached operations).settled_reconcile since distinct
          (fun entry member => (numbers entry member).beq_self)).changes id changed found,
          sound.changes id changed found⟩
      again := (reached operations).reconcile_again since distinct
        (fun entry member => (numbers entry member).beq_self) }

/-! Four alerts were activated, the last of them since the reading began, and one of them has fired.
Storage holds the first as it is, the second with another definition, the fourth as it was before,
and a new one. -/

def watchAlert (id : String) (bound : Float) : Alert :=
  { id, ownerId := "", symbol := "BTC", timeframe := .hour
    logic := .conditions
      [{ subject := .price .close, operator := .greater, comparand := .literal bound
         timeframe := .same, percentage := none }] .all
    fireMode := .perBar, action := .nothing }

def watchOperations : List RegistryOperation :=
  [.activate (watchAlert "same" 1) none, .activate (watchAlert "edited" 1) none,
   .activate (watchAlert "dropped" 1) none,
   .write 1
    { lastFiredAt := some 3600, triggerCount := 1, missingStreak := 2
      latches := Table.empty.insert "0" (.bars 1 5) },
   .activate (watchAlert "direct" 1) none]

def watchStored : StoredAlerts :=
  [(watchAlert "same" 1, none), (watchAlert "edited" 2, none), (watchAlert "direct" 3, none),
   (watchAlert "fresh" 1, some { triggerCount := 7 })]

theorem watchAlert_holdsNoNaN (id : String) {bound : Float} (number : bound.isNaN = false) :
    (watchAlert id bound).HoldsNoNaN := by
  intro condition member
  obtain rfl := List.mem_singleton.1 member
  exact ⟨number, nofun⟩

theorem watchStored_merges :
    watchStored.ids.Nodup ∧ (∀ entry ∈ watchStored, entry.1.HoldsNoNaN) ∧
    ((reached watchOperations).reconcile watchStored 3).1 =
      { added := 1, updated := 1, removed := 1, skipped := 1 } ∧
    ((reached watchOperations).reconcile watchStored 3).2.Runs (watchAlert "edited" 2)
      { lastFiredAt := some 3600, triggerCount := 1 } ∧
    ((reached watchOperations).reconcile watchStored 3).2.Runs (watchAlert "fresh" 1)
      { triggerCount := 7 } ∧
    Untouched (reached watchOperations) ((reached watchOperations).reconcile watchStored 3).2
      "direct" ∧
    ((reached watchOperations).reconcile watchStored 3).2.get? "dropped" = none := by
  have distinct : watchStored.ids.Nodup := by decide
  have numbers : ∀ entry ∈ watchStored, entry.1.HoldsNoNaN := by
    intro entry member
    simp only [watchStored, List.mem_cons, List.not_mem_nil, or_false] at member
    rcases member with rfl | rfl | rfl | rfl
    all_goals exact watchAlert_holdsNoNaN _ (by decide)
  obtain ⟨merge, -, recorded⟩ := reconcile_merges watchOperations watchStored 3 distinct numbers
  have edited : TakenAs _ _ _ (some .updated) :=
    merge.taken (watchAlert "edited" 2, none) (by simp [watchStored])
  have fresh : TakenAs _ _ _ (some .added) :=
    merge.taken (watchAlert "fresh" 1, some { triggerCount := 7 }) (by simp [watchStored])
  refine ⟨distinct, numbers, merge.report_eq, ?_, fresh, ?_, ?_⟩
  · obtain ⟨runtime, found, runs⟩ := edited
    obtain rfl := Option.some.inj found
    exact runs
  · refine merge.changed "direct" (recorded ?_ "direct" (by decide))
    intro operation member
    simp only [watchOperations, List.mem_cons, List.not_mem_nil, or_false] at member
    rcases member with rfl | rfl | rfl | rfl | rfl <;> trivial
  · exact merge.absent "dropped" (by decide) (by decide)

end CandleAlerts.Registry
