import CandleAlerts.Proofs.ConcurrentEdits
import CandleAlerts.Proofs.PlaybookPass
import CandleAlerts.Proofs.SavedRuntimes

/-!
Where the latches of a registered alert come from.

A latch is written when an entry of a playbook is evaluated. An edit leaves the latches of the old
definition behind with its cell. But the states of alerts are also saved, by id alone, and a
synchronization gives a saved state to whatever definition of that id it then registers. So a latch
was written by the definition that is registered, or that definition came with a saved state that
held it already.
-/

namespace CandleAlerts

/-! ## One evaluation -/

/-- Whether evaluating an alert writes a latch for an entry: its condition is satisfied and no latch
held it. -/
def Alert.Writes (alert : Alert) (snapshot : Snapshot) (latches : Latches) (now : Instant)
    (entryId : String) (latch : Latch) : Prop :=
  ∃ playbook entry, alert.logic = .playbook playbook ∧ entry ∈ playbook.entries ∧
    entry.enabled = true ∧ entry.id = entryId ∧
    entry.heldBy? latches (.of snapshot now) = none ∧
    (snapshot.evaluate entry.condition).satisfied = true ∧ 0 < entry.validity ∧
    latch = entry.newLatch (.of snapshot now)

/-- A latch that a pass over some entries leaves was there before, or is kept for one of them. -/
theorem PlaybookPass.exists_of_latches_foldl (answer : Condition → Evaluation) (latches : Latches)
    (moment : PassMoment) (entries : List PlaybookEntry) (pass : PlaybookPass) {id : String}
    {latch : Latch}
    (found : (entries.foldl (visit answer latches moment) pass).outcome.latches.get? id =
      some latch) :
    pass.outcome.latches.get? id = some latch ∨
      ∃ entry ∈ entries, entry.id = id ∧ entry.kept? answer latches moment = some latch := by
  induction entries generalizing pass with
  | nil => exact .inl found
  | cons head rest induction =>
      rcases induction _ found with before | ⟨entry, member, kept⟩
      · by_cases same : head.id = id
        · rw [visit_latches] at before
          cases kept : head.kept? answer latches moment with
          | none =>
              rw [kept] at before
              exact .inl before
          | some own =>
              rw [kept, same] at before
              have read : some own = some latch :=
                (Table.get?_insert_self _ _ _).symm.trans before
              exact .inr ⟨head, List.mem_cons_self, same, kept.trans read⟩
        · rw [visit_latches_get?_of_ne answer latches moment pass head id same] at before
          exact .inl before
      · exact .inr ⟨entry, List.mem_cons_of_mem _ member, kept⟩

theorem joinConditions_latches (answer : Condition → Evaluation) (conditions : List Condition)
    (logic : Logic) : (joinConditions answer conditions logic).latches = Table.empty := by
  have folded (entries : List (Condition × Nat)) (outcome : LogicOutcome) :
      (entries.foldl (fun outcome entry => outcome.note (toString entry.2) (answer entry.1))
        outcome).latches = outcome.latches := by
    induction entries generalizing outcome with
    | nil => rfl
    | cons entry rest induction => rw [List.foldl_cons, induction, LogicOutcome.note_latches]
  exact folded _ {}

/-- Each latch that an evaluation leaves was there before, or is written by it. -/
theorem Alert.held_or_writes {alert : Alert} {snapshot : Snapshot} {latches : Latches}
    {now : Instant} {entryId : String} {latch : Latch}
    (found : (alert.evaluate snapshot latches now).latches.get? entryId = some latch) :
    latches.get? entryId = some latch ∨ alert.Writes snapshot latches now entryId latch := by
  simp only [Alert.evaluate, Alert.join] at found
  cases isLogic : alert.logic with
  | conditions conditions logic =>
      simp only [isLogic, joinConditions_latches] at found
      cases found
  | playbook playbook =>
      simp only [isLogic, Playbook.join, Playbook.pass] at found
      rcases PlaybookPass.exists_of_latches_foldl _ _ _ _ _ found with absent | listed
      · cases absent
      · rcases listed with ⟨entry, member, sameId, kept⟩
        rcases (playbook.mem_enabledInOrder entry).1 member with ⟨own, enabled⟩
        cases held : entry.heldBy? latches (.of snapshot now) with
        | some old =>
            rw [PlaybookEntry.kept?_of_held held] at kept
            rw [← kept, ← sameId]
            exact .inl ((entry.heldBy?_eq_some_iff _ _ _).1 held).1
        | none =>
            rw [PlaybookEntry.kept?_of_fresh held] at kept
            split at kept
            · rename_i writes
              rw [Bool.and_eq_true, decide_eq_true_iff] at writes
              exact .inr ⟨playbook, entry, isLogic, own, enabled, sameId, held, writes.1, writes.2,
                (Option.some.inj kept).symm⟩
            · cases kept

theorem AlertRuntime.trackMissing_latches (runtime : AlertRuntime) (outcome : LogicOutcome) :
    (runtime.trackMissing outcome).2.latches = runtime.latches := by
  simp only [trackMissing]
  split <;> rfl

theorem Alert.pass_latches (alert : Alert) (snapshot : Snapshot) (bar : Candle) (now : Instant)
    (runtime : AlertRuntime) :
    (alert.pass snapshot bar now runtime).runtime.latches =
      (alert.evaluate snapshot runtime.latches now).latches := by
  have tracked := AlertRuntime.trackMissing_latches
    { runtime with
      latches := (alert.evaluate snapshot runtime.latches now).latches
      lastEvaluatedAt := some now }
    (alert.evaluate snapshot runtime.latches now)
  simp only [pass]
  dsimp only at tracked ⊢
  split
  · exact tracked
  · split
    · exact tracked
    · exact tracked

/-! ## Cells and whose they are -/

namespace Registry

/-- Whether every cell belongs to the definition that is registered with it, and holds no latches but
such as are known to come from a definition. -/
structure Owned (known : Alert → String → Latch → Prop) (owner : Nat → Alert)
    (registry : Registry) : Prop where
  wellFormed : registry.WellFormed
  entries : ∀ id entry, registry.get? id = some entry → owner entry.cell = entry.alert
  latches : ∀ place entryId latch, (registry.cell place).latches.get? entryId = some latch →
    known (owner place) entryId latch

/-- Whether a change leaves every cell to its owner, those there were before. -/
structure Settles (known : Alert → String → Latch → Prop) (owner : Nat → Alert)
    (before after : Registry) : Prop where
  grows : before.cells.size ≤ after.cells.size
  owned : ∃ next, after.Owned known next ∧ ∀ place < before.cells.size, next place = owner place

namespace Owned

variable {known : Alert → String → Latch → Prop} {owner : Nat → Alert} {registry : Registry}

theorem empty (known : Alert → String → Latch → Prop) (owner : Nat → Alert) :
    ({} : Registry).Owned known owner where
  wellFormed := .empty
  entries _ _ found := by cases found
  latches place entryId latch found := by
    rw [cell_of_size_le _ (Nat.zero_le _)] at found
    cases found

theorem mono {wider : Alert → String → Latch → Prop} (owned : registry.Owned known owner)
    (widens : ∀ alert entryId latch, known alert entryId latch → wider alert entryId latch) :
    registry.Owned wider owner :=
  ⟨owned.wellFormed, owned.entries, fun place entryId latch found =>
    widens _ _ _ (owned.latches place entryId latch found)⟩

/-- What keeps the cells and adds no alert settles them. -/
theorem restrict (owned : registry.Owned known owner) {after : Registry}
    (wellFormed : after.WellFormed) (cells : after.cells = registry.cells)
    (fewer : ∀ id entry, after.get? id = some entry → registry.get? id = some entry) :
    Settles known owner registry after where
  grows := Nat.le_of_eq (congrArg Array.size cells.symm)
  owned := by
    refine ⟨owner, ⟨wellFormed, ?_, ?_⟩, fun _ _ => rfl⟩
    · intro id entry found
      exact owned.entries id entry (fewer id entry found)
    · intro place entryId latch found
      simp only [cell, cells] at found
      exact owned.latches place entryId latch found

theorem register (owned : registry.Owned known owner) (alert : Alert) (runtime : AlertRuntime)
    (comes : ∀ entryId latch, runtime.latches.get? entryId = some latch →
      known alert entryId latch) :
    Settles known owner registry (registry.register alert runtime) where
  grows := by simp
  owned := by
    refine ⟨fun place => if place = registry.cells.size then alert else owner place,
      ⟨owned.wellFormed.register alert runtime, ?_, ?_⟩, ?_⟩
    · intro id entry found
      rw [get?_register] at found
      split at found
      · cases found
        exact if_pos rfl
      · have within := owned.wellFormed.cells id entry found
        exact (if_neg (Nat.ne_of_lt within)).trans (owned.entries id entry found)
    · intro place entryId latch found
      rw [cell_register] at found
      by_cases new : place = registry.cells.size
      · rw [if_pos new] at found ⊢
        exact comes entryId latch found
      · rw [if_neg new] at found ⊢
        exact owned.latches place entryId latch found
    · intro place within
      exact if_neg (Nat.ne_of_lt within)

theorem setCell (owned : registry.Owned known owner) {place : Nat} {runtime : AlertRuntime}
    (comes : ∀ entryId latch, runtime.latches.get? entryId = some latch →
      known (owner place) entryId latch) :
    Settles known owner registry (registry.setCell place runtime) where
  grows := by simp
  owned := by
    refine ⟨owner, ⟨owned.wellFormed.setCell place runtime, owned.entries, ?_⟩, fun _ _ => rfl⟩
    intro other entryId latch found
    by_cases same : place = other
    · subst same
      by_cases within : place < registry.cells.size
      · rw [registry.cell_setCell_self runtime within] at found
        exact comes entryId latch found
      · rw [cell_of_size_le _ (by rw [size_setCell]; omega)] at found
        cases found
    · rw [registry.cell_setCell_of_ne runtime same] at found
      exact owned.latches other entryId latch found

end Owned

namespace Settles

variable {known : Alert → String → Latch → Prop} {owner : Nat → Alert}
  {before middle after : Registry}

theorem refl (owned : before.Owned known owner) : Settles known owner before before :=
  ⟨Nat.le_refl _, owner, owned, fun _ _ => rfl⟩

theorem trans (left : Settles known owner before middle)
    (right : ∀ next, middle.Owned known next → Settles known next middle after) :
    Settles known owner before after := by
  rcases left.owned with ⟨next, owned, agrees⟩
  rcases (right next owned).owned with ⟨last, ownedLast, agreesLast⟩
  refine ⟨Nat.le_trans left.grows (right next owned).grows, last, ownedLast, ?_⟩
  intro place within
  rw [agreesLast place (Nat.lt_of_lt_of_le within left.grows), agrees place within]

/-- An alert that is edited starts without latches, and one that is added with those it is given. -/
theorem upsert (owned : before.Owned known owner) (alert : Alert) {initial : Option AlertRuntime}
    (comes : ∀ runtime, initial = some runtime → ∀ entryId latch,
      runtime.latches.get? entryId = some latch → known alert entryId latch) :
    Settles known owner before (before.upsert alert initial).2 := by
  rcases before.upsert_cases alert initial with ⟨existing, found, same, unchanged⟩ | registered
  · rw [unchanged]
    exact refl owned
  · rw [registered]
    apply owned.register
    intro entryId latch found
    simp only [takenOver] at found
    split at found
    · cases found
    · cases isInitial : initial with
      | none =>
          rw [isInitial] at found
          cases found
      | some runtime =>
          rw [isInitial] at found
          exact comes runtime isInitial entryId latch found

theorem activate (owned : before.Owned known owner) (alert : Alert) :
    Settles known owner before (before.activate alert none).2 := by
  have marked : Settles known owner before (before.markChanged alert.id) :=
    owned.restrict (owned.wellFormed.markChanged alert.id) rfl (fun _ _ found => found)
  refine marked.trans (fun next ownedNext => upsert ownedNext alert ?_)
  intro runtime absent
  cases absent

theorem deactivate (owned : before.Owned known owner) (id : String) :
    Settles known owner before (before.deactivate id).2 :=
  owned.restrict (owned.wellFormed.deactivate id) rfl (fun _ _ found =>
    get?_of_get?_deactivate found)

theorem foldl_takeOne (owned : before.Owned known owner) (since : Nat) (stored : StoredAlerts)
    (comes : ∀ alert runtime, (alert, some runtime) ∈ stored → ∀ entryId latch,
      runtime.latches.get? entryId = some latch → known alert entryId latch) :
    Settles known owner before
      (stored.foldl (fun registry entry => registry.takeOne since entry) before) := by
  induction stored generalizing before owner with
  | nil => exact refl owned
  | cons entry rest induction =>
      have first : Settles known owner before (before.takeOne since entry) := by
        simp only [takeOne]
        split
        · exact refl owned
        · apply upsert owned
          intro runtime isInitial
          apply comes entry.1 runtime
          rw [← isInitial]
          exact List.mem_cons_self
      exact first.trans (fun next ownedNext => induction ownedNext
        (fun alert runtime member => comes alert runtime (List.mem_cons_of_mem _ member)))

theorem reconcile (owned : before.Owned known owner) (stored : StoredAlerts) (since : Nat)
    (comes : ∀ alert runtime, (alert, some runtime) ∈ stored → ∀ entryId latch,
      runtime.latches.get? entryId = some latch → known alert entryId latch) :
    Settles known owner before (before.reconcile stored since).2 := by
  have taken : Settles known owner before (before.takeStored stored since) := by
    rw [takeStored_eq]
    exact foldl_takeOne owned since stored comes
  refine taken.trans (fun next ownedNext => ?_)
  refine ownedNext.restrict (reconcile_wellFormed _ _ _ owned.wellFormed) rfl ?_
  intro id entry found
  rw [get?_reconcile] at found
  split at found
  · exact found
  · cases found

end Settles

/-- An alert that is not registered, and was not changed directly, goes on from the state that a
synchronization found for it. -/
theorem reconcile_single_of_absent {registry : Registry} {alert : Alert} {since : Nat}
    (absent : registry.get? alert.id = none)
    (unchanged : registry.changedSince alert.id since = false) (runtime : AlertRuntime) :
    let after := (registry.reconcile [(alert, some runtime)] since).2
    after.get? alert.id = some { alert, cell := registry.cells.size } ∧
      after.cell registry.cells.size = runtime := by
  have taken : registry.takeStored [(alert, some runtime)] since =
      registry.register alert runtime := by
    rw [takeStored_eq, List.foldl_cons, List.foldl_nil, takeOne, unchanged]
    exact upsert_of_absent absent (some runtime)
  constructor
  · rw [get?_reconcile, if_pos (.inl List.mem_cons_self), taken, get?_register, if_pos rfl]
  · have cells : (registry.reconcile [(alert, some runtime)] since).2.cells =
        (registry.takeStored [(alert, some runtime)] since).cells := rfl
    rw [cell, cells, taken]
    exact (cell_register _ _ _ _).trans (if_pos rfl)

end Registry

/-- An alert that is not registered is loaded with the state that is saved for it. -/
theorem StoredReading.stored_take_of_absent {registry : Registry} {mode : FireMode}
    {record : AlertRecord} {alert : Alert} (reading : StoredReading) (saved : SavedStates)
    (read : record.readAlert mode = .ok alert) (absent : registry.get? alert.id = none) :
    (reading.take registry (some saved) mode record).stored =
      reading.stored ++ [(alert, (saved.load? alert.id).join)] := by
  simp only [take, read, absent]
  rfl

/-! ## The steps -/

/-- A synchronization that is loading the alerts of the records it read. -/
structure StorageReading where
  since : Nat
  records : List AlertRecord
  loaded : StoredReading := {}

/-- The registry, what is stored, the states that are saved, the alerts that ticks are evaluating,
and the synchronizations under way. -/
structure PersistentAlerts where
  registry : Registry := {}
  store : Store := {}
  saved : SavedStates := Table.empty
  handed : List Registered := []
  readings : List StorageReading := []

/-- What a step did, as far as latches are concerned. -/
inductive LatchEvent where
  | evaluated (alert : Alert) (snapshot : Snapshot) (latches : Latches) (now : Instant)
  | reconciled (stored : Registry.StoredAlerts)
  | other

namespace PersistentAlerts

/-- The steps. Alerts are evaluated on any snapshot and bar, at any time; storage may be changed to
anything, and saved states may lapse. A synchronization loads its alerts one by one. -/
inductive Step (mode : FireMode) : PersistentAlerts → LatchEvent → PersistentAlerts → Prop
  | activated (state : PersistentAlerts) (alert : Alert) :
      Step mode state .other
        { state with registry := (state.registry.activate alert none).2 }
  | deactivated (state : PersistentAlerts) (id : String) :
      Step mode state .other { state with registry := (state.registry.deactivate id).2 }
  | edited (state : PersistentAlerts) (store : Store) :
      Step mode state .other { state with store }
  | handedOut (state : PersistentAlerts) :
      Step mode state .other
        { state with handed := state.handed ++ state.registry.groups.flatMap Group.members }
  | evaluated (state : PersistentAlerts) (entry : Registered) (before after : List Registered)
      (snapshot : Snapshot) (bar : Candle) (now : Instant)
      (waits : state.handed = before ++ entry :: after) :
      Step mode state
        (.evaluated entry.alert snapshot (state.registry.cell entry.cell).latches now)
        { state with
          registry := state.registry.setCell entry.cell
            (entry.alert.pass snapshot bar now (state.registry.cell entry.cell)).runtime
          handed := before ++ after }
  | saved (state : PersistentAlerts)
      (storable : ∀ id runtime, state.registry.runtime? id = some runtime → runtime.Storable) :
      Step mode state .other { state with saved := state.saved.save state.registry }
  | lapsed (state : PersistentAlerts) (fewer : SavedStates)
      (among : ∀ key text, fewer.get? key = some text → state.saved.get? key = some text) :
      Step mode state .other { state with saved := fewer }
  | opened (state : PersistentAlerts) (since : Nat) :
      Step mode state .other
        { state with
          readings := state.readings ++ [{ since, records := state.store.activeAlerts }] }
  | loaded (state : PersistentAlerts) (reading : StorageReading)
      (before after : List StorageReading) (record : AlertRecord) (records : List AlertRecord)
      (underWay : state.readings = before ++ reading :: after)
      (next : reading.records = record :: records) :
      Step mode state .other
        { state with
          readings := before ++
            { reading with
              records
              loaded := reading.loaded.take state.registry (some state.saved) mode record } ::
            after }
  | reconciled (state : PersistentAlerts) (reading : StorageReading)
      (before after : List StorageReading)
      (underWay : state.readings = before ++ reading :: after) (finished : reading.records = []) :
      Step mode state (.reconciled reading.loaded.stored)
        { state with
          registry := (state.registry.reconcile reading.loaded.stored reading.since).2
          readings := before ++ after }

abbrev Run (mode : FireMode) := StepRun (Step mode)

/-! ## Where latches come from -/

/-- Whether a latch was written by one of the evaluations of a definition. -/
def WrittenBy (events : List LatchEvent) (writer : Alert) (entryId : String) (latch : Latch) :
    Prop :=
  ∃ snapshot latches now, .evaluated writer snapshot latches now ∈ events ∧
    writer.Writes snapshot latches now entryId latch

/-- Whether each of some latches was written by a definition with some id. -/
def WrittenFor (events : List LatchEvent) (id : String) (latches : Latches) : Prop :=
  ∀ entryId latch, latches.get? entryId = some latch →
    ∃ writer, writer.id = id ∧ WrittenBy events writer entryId latch

/-- Whether a latch came with a saved state that a synchronization found for a definition. -/
def CameWith (events : List LatchEvent) (alert : Alert) (entryId : String) (latch : Latch) : Prop :=
  ∃ stored runtime, .reconciled stored ∈ events ∧ (alert, some runtime) ∈ stored ∧
    runtime.latches.get? entryId = some latch

/-- Whether a latch of a definition is accounted for: it was written for the id, and by that
definition unless it came with a saved state. -/
def Accounted (events : List LatchEvent) (alert : Alert) (entryId : String) (latch : Latch) : Prop :=
  (∃ writer, writer.id = alert.id ∧ WrittenBy events writer entryId latch) ∧
    (WrittenBy events alert entryId latch ∨ CameWith events alert entryId latch)

variable {events : List LatchEvent} {alert : Alert} {entryId : String} {latch : Latch}

theorem WrittenBy.append {writer : Alert} (written : WrittenBy events writer entryId latch)
    (more : List LatchEvent) : WrittenBy (events ++ more) writer entryId latch := by
  rcases written with ⟨snapshot, latches, now, listed, writes⟩
  exact ⟨snapshot, latches, now, List.mem_append_left _ listed, writes⟩

theorem WrittenFor.append {id : String} {latches : Latches}
    (written : WrittenFor events id latches) (more : List LatchEvent) :
    WrittenFor (events ++ more) id latches := by
  intro entryId latch found
  rcases written entryId latch found with ⟨writer, sameId, earlier⟩
  exact ⟨writer, sameId, earlier.append more⟩

theorem Accounted.append (accounted : Accounted events alert entryId latch)
    (more : List LatchEvent) : Accounted (events ++ more) alert entryId latch := by
  rcases accounted with ⟨⟨writer, sameId, written⟩, own | restored⟩
  · exact ⟨⟨writer, sameId, written.append more⟩, .inl (own.append more)⟩
  · rcases restored with ⟨stored, runtime, listed, member, found⟩
    refine ⟨⟨writer, sameId, written.append more⟩, .inr ?_⟩
    exact ⟨stored, runtime, List.mem_append_left _ listed, member, found⟩

/-- What is known once some steps were taken: every latch of a cell is accounted for, those of saved
states were written for the id they are saved under, and so were those that were loaded. -/
structure Sound (events : List LatchEvent) (owner : Nat → Alert) (state : PersistentAlerts) :
    Prop where
  owned : state.registry.Owned (Accounted events) owner
  handed : ∀ entry ∈ state.handed,
    entry.cell < state.registry.cells.size ∧ owner entry.cell = entry.alert
  saved : ∀ id runtime, state.saved.load? id = some (some runtime) →
    WrittenFor events id runtime.latches
  loaded : ∀ reading ∈ state.readings, ∀ alert runtime,
    (alert, some runtime) ∈ reading.loaded.stored → WrittenFor events alert.id runtime.latches

namespace Sound

variable {owner : Nat → Alert} {state : PersistentAlerts}

theorem empty (owner : Nat → Alert) : Sound [] owner {} where
  owned := .empty _ owner
  handed _ member := by cases member
  saved _ _ found := by cases found
  loaded _ member := by cases member

theorem append (sound : Sound events owner state) (more : List LatchEvent) :
    Sound (events ++ more) owner state where
  owned := sound.owned.mono (fun _ _ _ accounted => accounted.append more)
  handed := sound.handed
  saved id runtime found := (sound.saved id runtime found).append more
  loaded reading member alert runtime listed :=
    (sound.loaded reading member alert runtime listed).append more

/-- What settles the cells and begins nothing leaves all accounted for. -/
theorem settle (sound : Sound events owner state) {next : PersistentAlerts}
    (settles : Registry.Settles (Accounted events) owner state.registry next.registry)
    (handed : ∀ entry ∈ next.handed, entry ∈ state.handed) (saved : next.saved = state.saved)
    (readings : ∀ reading ∈ next.readings, reading ∈ state.readings) :
    ∃ nextOwner, Sound events nextOwner next := by
  rcases settles.owned with ⟨nextOwner, owned, agrees⟩
  refine ⟨nextOwner, owned, ?_, ?_, ?_⟩
  · intro entry member
    rcases sound.handed entry (handed entry member) with ⟨within, own⟩
    exact ⟨Nat.lt_of_lt_of_le within settles.grows, (agrees _ within).trans own⟩
  · rw [saved]
    exact sound.saved
  · intro reading member
    exact sound.loaded reading (readings reading member)

/-- The latches of a registered alert were written for its id. -/
theorem writtenFor (sound : Sound events owner state) {id : String} {runtime : AlertRuntime}
    (registered : state.registry.runtime? id = some runtime) :
    WrittenFor events id runtime.latches := by
  rcases Option.map_eq_some_iff.1 registered with ⟨entry, found, rfl⟩
  intro entryId latch held
  rcases sound.owned.latches entry.cell entryId latch held with ⟨⟨writer, sameId, written⟩, -⟩
  rw [sound.owned.entries id entry found, sound.owned.wellFormed.ids id entry found] at sameId
  exact ⟨writer, sameId, written⟩

theorem handOut (sound : Sound events owner state) : Sound events owner
    { state with handed := state.handed ++ state.registry.groups.flatMap Group.members } where
  owned := sound.owned
  handed entry member := by
    rcases List.mem_append.1 member with earlier | new
    · exact sound.handed entry earlier
    · rcases List.mem_flatMap.1 new with ⟨group, listed, isMember⟩
      rcases Registry.get?_of_mem_groups listed isMember with ⟨id, found⟩
      exact ⟨sound.owned.wellFormed.cells id entry found, sound.owned.entries id entry found⟩
  saved := sound.saved
  loaded := sound.loaded

theorem save (sound : Sound events owner state)
    (storable : ∀ id runtime, state.registry.runtime? id = some runtime → runtime.Storable) :
    Sound events owner { state with saved := state.saved.save state.registry } where
  owned := sound.owned
  handed := sound.handed
  saved id runtime found := by
    cases registered : state.registry.runtime? id with
    | some current =>
        dsimp only at found
        rw [state.saved.load?_save registered (storable id current registered)] at found
        cases found
        exact sound.writtenFor registered
    | none =>
        apply sound.saved id runtime
        rw [← found]
        simp only [SavedStates.load?]
        rw [SavedStates.get?_save, registered]
        rfl
  loaded := sound.loaded

theorem lapse (sound : Sound events owner state) {fewer : SavedStates}
    (among : ∀ key text, fewer.get? key = some text → state.saved.get? key = some text) :
    Sound events owner { state with saved := fewer } where
  owned := sound.owned
  handed := sound.handed
  saved id runtime found := by
    apply sound.saved id runtime
    simp only [SavedStates.load?] at found ⊢
    cases kept : fewer.get? (stateKey id) with
    | none =>
        rw [kept] at found
        cases found
    | some text =>
        rw [kept] at found
        rw [among _ _ kept]
        exact found
  loaded := sound.loaded

/-- One more alert is loaded, with a state that was saved under its id if with any. -/
theorem load (sound : Sound events owner state) {reading : StorageReading}
    (member : reading ∈ state.readings) (mode : FireMode) (record : AlertRecord) (alert : Alert)
    (runtime : AlertRuntime)
    (listed : (alert, some runtime) ∈
      (reading.loaded.take state.registry (some state.saved) mode record).stored) :
    WrittenFor events alert.id runtime.latches := by
  simp only [StoredReading.take] at listed
  cases read : record.readAlert mode with
  | error refusal =>
      rw [read] at listed
      exact sound.loaded reading member alert runtime listed
  | ok definition =>
      rw [read] at listed
      rcases List.mem_append.1 listed with earlier | new
      · exact sound.loaded reading member alert runtime earlier
      · rcases Prod.mk.inj (List.mem_singleton.1 new) with ⟨rfl, initial⟩
        split at initial
        · cases initial
        · apply sound.saved alert.id runtime
          cases loads : state.saved.load? alert.id with
          | none =>
              rw [loads] at initial
              cases initial
          | some answer =>
              rw [loads] at initial
              exact congrArg some initial.symm

/-- An evaluation writes latches of its own to the cell of its alert, or leaves them there. -/
theorem evaluate (sound : Sound events owner state) {entry : Registered}
    (member : entry ∈ state.handed) (snapshot : Snapshot) (bar : Candle) (now : Instant) :
    Registry.Settles
      (Accounted (events ++
        [.evaluated entry.alert snapshot (state.registry.cell entry.cell).latches now]))
      owner state.registry (state.registry.setCell entry.cell
        (entry.alert.pass snapshot bar now (state.registry.cell entry.cell)).runtime) := by
  have later := sound.append
    [.evaluated entry.alert snapshot (state.registry.cell entry.cell).latches now]
  apply later.owned.setCell
  intro entryId latch held
  rw [Alert.pass_latches] at held
  rcases Alert.held_or_writes held with before | writes
  · exact later.owned.latches entry.cell entryId latch before
  · have written : WrittenBy (events ++
        [.evaluated entry.alert snapshot (state.registry.cell entry.cell).latches now])
        entry.alert entryId latch :=
      ⟨snapshot, _, now, List.mem_append_right _ List.mem_cons_self, writes⟩
    rw [(sound.handed entry member).2]
    exact ⟨⟨entry.alert, rfl, written⟩, .inl written⟩

/-- An alert that a synchronization adds has the latches of the state it was loaded with. -/
theorem reconcile (sound : Sound events owner state) {reading : StorageReading}
    (member : reading ∈ state.readings) :
    Registry.Settles (Accounted (events ++ [.reconciled reading.loaded.stored])) owner
      state.registry (state.registry.reconcile reading.loaded.stored reading.since).2 := by
  have later := sound.append [.reconciled reading.loaded.stored]
  apply Registry.Settles.reconcile later.owned
  intro alert runtime listed entryId latch held
  refine ⟨later.loaded reading member alert runtime listed entryId latch held, .inr ?_⟩
  exact ⟨_, runtime, List.mem_append_right _ List.mem_cons_self, listed, held⟩

end Sound

variable {mode : FireMode} {start final : PersistentAlerts}

theorem Step.sound {state next : PersistentAlerts} {event : LatchEvent}
    (step : Step mode state event next) {owner : Nat → Alert} (sound : Sound events owner state) :
    ∃ nextOwner, Sound (events ++ [event]) nextOwner next := by
  have later := sound.append [event]
  cases step with
  | activated alert =>
      exact later.settle (.activate later.owned alert) (fun _ member => member) rfl
        (fun _ member => member)
  | deactivated id =>
      exact later.settle (.deactivate later.owned id) (fun _ member => member) rfl
        (fun _ member => member)
  | edited store => exact ⟨owner, later.owned, later.handed, later.saved, later.loaded⟩
  | handedOut => exact ⟨owner, later.handOut⟩
  | evaluated entry before after snapshot bar now waits =>
      have member : entry ∈ state.handed := by
        rw [waits]
        exact List.mem_append_right _ List.mem_cons_self
      exact later.settle (sound.evaluate member snapshot bar now)
        (fun _ rest => mem_of_mem_rest waits rest) rfl (fun _ member => member)
  | saved storable => exact ⟨owner, later.save storable⟩
  | lapsed fewer among => exact ⟨owner, later.lapse among⟩
  | opened since =>
      refine ⟨owner, later.owned, later.handed, later.saved, ?_⟩
      intro reading member alert runtime listed
      rcases List.mem_append.1 member with earlier | new
      · exact later.loaded reading earlier alert runtime listed
      · rw [List.mem_singleton.1 new] at listed
        cases listed
  | loaded reading before after record records underWay next =>
      have member : reading ∈ state.readings := by
        rw [underWay]
        exact List.mem_append_right _ List.mem_cons_self
      refine ⟨owner, later.owned, later.handed, later.saved, ?_⟩
      intro other isMember alert runtime listed
      rcases List.mem_append.1 isMember with earlier | new
      · exact later.loaded other (mem_of_mem_rest underWay (List.mem_append_left _ earlier)) alert
          runtime listed
      · rcases List.mem_cons.1 new with rfl | rest
        · exact later.load member mode record alert runtime listed
        · exact later.loaded other (mem_of_mem_rest underWay (List.mem_append_right _ rest)) alert
            runtime listed
  | reconciled reading before after underWay finished =>
      have member : reading ∈ state.readings := by
        rw [underWay]
        exact List.mem_append_right _ List.mem_cons_self
      exact later.settle (sound.reconcile member) (fun _ member => member) rfl
        (fun _ rest => mem_of_mem_rest underWay rest)

theorem Run.sound (run : Run mode {} events final) (owner : Nat → Alert) :
    ∃ finalOwner, Sound events finalOwner final := by
  induction run with
  | nil => exact ⟨owner, .empty owner⟩
  | snoc rest step induction =>
      rcases induction with ⟨middleOwner, sound⟩
      exact step.sound sound

/-- Every latch of a registered alert was written when an entry of its id was evaluated, in a
definition of that alert. It was the definition that is registered, unless a synchronization found a
saved state for that definition that held the latch already. -/
theorem latches_written_or_restored (run : Run mode {} events final) {id : String}
    {entry : Registered} (registered : final.registry.get? id = some entry)
    (held : (final.registry.cell entry.cell).latches.get? entryId = some latch) :
    (∃ writer, writer.id = id ∧ WrittenBy events writer entryId latch) ∧
      (WrittenBy events entry.alert entryId latch ∨ CameWith events entry.alert entryId latch) := by
  rcases Run.sound run (fun _ => entry.alert) with ⟨owner, sound⟩
  have accounted := sound.owned.latches entry.cell entryId latch held
  rw [sound.owned.entries id entry registered] at accounted
  rcases accounted with ⟨⟨writer, sameId, written⟩, origin⟩
  rw [sound.owned.wellFormed.ids id entry registered] at sameId
  exact ⟨⟨writer, sameId, written⟩, origin⟩

/-! An alert on a price that is above a level, which a synchronization finds edited to one on a price
below it. -/

def priceEntry (operator : Operator) : PlaybookEntry :=
  { id := "e1", priority := 0, enabled := true, connector := .all, validity := 5
    validityUnit := .bars
    condition :=
      { subject := .price .close, operator, comparand := .literal 1
        timeframe := .same, percentage := none } }

def onPrice (operator : Operator) : Alert :=
  { id := "a1", ownerId := "", symbol := "BTC", timeframe := .hour
    logic := .playbook { entries := [priceEntry operator], gate := .all }
    fireMode := .perBar, action := .nothing }

def rising : Registered := { alert := onPrice .greater, cell := 0 }

def watching : Registry := (({} : Registry).activate rising.alert none).2

/-- The snapshot of the only bar. -/
def onlyBar : Snapshot :=
  (Snapshot.ofGroup (fun _ _ => none) (GroupKey.of rising.alert) [rising.alert]
    [SharedAlerts.barAt 3600]).1

def latched : Registry :=
  watching.setCell 0 (rising.alert.pass onlyBar (SharedAlerts.barAt 3600) ⟨1700000000, 0⟩
    (watching.cell 0)).runtime

def latchedEvents : List LatchEvent :=
  [.other, .other,
    .evaluated rising.alert onlyBar (watching.cell rising.cell).latches ⟨1700000000, 0⟩]

theorem latched_run (mode : FireMode) : Run mode {} latchedEvents { registry := latched } := by
  have activated : Run mode {} _ _ := .single (.activated {} rising.alert)
  have only : watching.alerts.entries = [("a1", rising)] := rfl
  have handed := @Step.handedOut mode { registry := watching }
  rw [Registry.groups_of_single only] at handed
  have evaluated := @Step.evaluated mode { registry := watching, handed := [rising] } rising [] []
    onlyBar (SharedAlerts.barAt 3600) ⟨1700000000, 0⟩ rfl
  exact (activated.snoc handed).snoc evaluated

theorem latched_get? : latched.get? "a1" = some rising := rfl

theorem latched_holds : (latched.cell rising.cell).latches.get? "e1" = some (.bars 1 5) := by
  decide +kernel

theorem rising_wrote_its_latch :
    ∃ events final, Run .perBar {} events final ∧ final.registry.get? "a1" = some rising ∧
      (final.registry.cell rising.cell).latches.get? "e1" = some (.bars 1 5) ∧
      WrittenBy events rising.alert "e1" (.bars 1 5) := by
  refine ⟨_, _, latched_run .perBar, latched_get?, latched_holds, ?_⟩
  rcases (latches_written_or_restored (latched_run .perBar) latched_get? latched_holds).2
    with own | restored
  · exact own
  · rcases restored with ⟨stored, runtime, listed, -⟩
    simp [latchedEvents] at listed

def fallingRecord : AlertRecord :=
  { id := "a1"
    definition := .object
      [("symbol", .string "BTC"), ("timeframe", .string "1h"),
       ("playbook", .array
         [.object [("id", .string "e1"), ("type", .string "price"), ("field", .string "close"),
            ("operator", .string "<"), ("value", .number (.integer 1)),
            ("validity", .number (.integer 5))]])] }

/-- The alert as it is edited in storage. -/
def falling : Alert := ((fallingRecord.readAlert .perBar).toOption).getD rising.alert

theorem falling_alike : (falling == onPrice .less) = true := by decide +kernel

def latchedStates : SavedStates := SavedStates.save Table.empty latched

def unwatched : Registry := (latched.deactivate "a1").2

theorem latched_storable (id : String) (runtime : AlertRuntime)
    (registered : latched.runtime? id = some runtime) : runtime.Storable := by
  have only : latched.get? id = if "a1" = id then some rising else none := Table.get?_insert _ _ _ _
  have latches : (latched.cell 0).latches.entries = [("e1", .bars 1 5)] := by decide +kernel
  have fired : (latched.cell 0).lastFiredAt = some 3600 := by decide +kernel
  have evaluated : (latched.cell 0).lastEvaluatedAt = some ⟨1700000000, 0⟩ := by decide +kernel
  have triggered : (latched.cell 0).lastTriggeredAt = some ⟨1700000000, 0⟩ := by decide +kernel
  rw [Registry.runtime?, only] at registered
  split at registered
  · obtain rfl : latched.cell 0 = runtime := Option.some.inj registered
    constructor
    · intro key latch held
      rw [← Table.mem_entries_iff, latches, List.mem_singleton] at held
      cases held
      exact ⟨⟨by decide, by decide⟩, by decide⟩
    · intro time known
      rw [fired] at known
      cases known
      decide
    · intro instant known
      rw [evaluated] at known
      cases known
      exact ⟨by decide, by decide, by decide⟩
    · intro instant known
      rw [triggered] at known
      cases known
      exact ⟨by decide, by decide, by decide⟩
  · cases registered

theorem fallingRecord_reads : fallingRecord.readAlert .perBar = .ok falling := by
  have read : (fallingRecord.readAlert .perBar).isOk = true := by decide +kernel
  simp only [falling]
  cases answer : fallingRecord.readAlert .perBar with
  | error refusal =>
      rw [answer] at read
      cases read
  | ok alert => rfl

theorem falling_id : falling.id = "a1" := by decide +kernel

/-- What a synchronization reads after the alert was deactivated. -/
def afterwards : StoredReading :=
  ({} : StoredReading).take unwatched (some latchedStates) .perBar fallingRecord

theorem unwatched_get? : unwatched.get? falling.id = none := by
  rw [falling_id]
  rfl

theorem afterwards_stored : afterwards.stored = [(falling, some (latched.cell rising.cell))] := by
  have registered : latched.runtime? "a1" = some (latched.cell rising.cell) := rfl
  have loads : latchedStates.load? falling.id = some (some (latched.cell rising.cell)) := by
    rw [falling_id, latchedStates]
    exact SavedStates.load?_save Table.empty registered (latched_storable "a1" _ registered)
  rw [afterwards, StoredReading.stored_take_of_absent _ _ fallingRecord_reads unwatched_get?, loads]
  rfl

def editedEvents : List LatchEvent :=
  latchedEvents ++ [.other, .other, .other, .other, .other, .reconciled afterwards.stored]

theorem edited_run : Run .perBar {} editedEvents
    { registry := (unwatched.reconcile afterwards.stored unwatched.epoch).2
      store := ({} : Store).saveAlert fallingRecord
      saved := latchedStates } := by
  have saved := (latched_run .perBar).snoc (.saved _ latched_storable)
  have deactivated := saved.snoc (.deactivated _ "a1")
  have edited := deactivated.snoc (.edited _ (({} : Store).saveAlert fallingRecord))
  have opened : Run .perBar {} _
      { registry := unwatched
        store := ({} : Store).saveAlert fallingRecord
        saved := latchedStates
        readings := [{ since := unwatched.epoch, records := [fallingRecord] }] } :=
    edited.snoc (.opened _ unwatched.epoch)
  have loaded := opened.snoc (.loaded _ { since := unwatched.epoch, records := [fallingRecord] }
    [] [] fallingRecord [] rfl rfl)
  exact loaded.snoc (.reconciled _
    { since := unwatched.epoch, records := [], loaded := afterwards } [] [] rfl rfl)

/-- A saved latch goes on in whatever definition is stored by then. -/
theorem saved_latch_outlives_definition :
    ∃ events final entry, Run .perBar {} events final ∧
      final.registry.get? "a1" = some entry ∧ (entry.alert == onPrice .less) = true ∧
      (final.registry.cell entry.cell).latches.get? "e1" = some (.bars 1 5) ∧
      (∀ writer, WrittenBy events writer "e1" (.bars 1 5) → writer = onPrice .greater) ∧
      ¬ WrittenBy events entry.alert "e1" (.bars 1 5) := by
  have unchanged : unwatched.changedSince falling.id unwatched.epoch = false := by
    rw [falling_id]
    decide +kernel
  rcases Registry.reconcile_single_of_absent unwatched_get? unchanged (latched.cell rising.cell)
    with ⟨registered, cell⟩
  rw [← afterwards_stored, falling_id] at registered
  rw [← afterwards_stored] at cell
  have wrote (writer : Alert) (written : WrittenBy editedEvents writer "e1" (.bars 1 5)) :
      writer = onPrice .greater := by
    rcases written with ⟨snapshot, latches, now, listed, -⟩
    simp only [editedEvents, latchedEvents, List.mem_append, List.mem_cons, List.not_mem_nil,
      or_false, reduceCtorEq, false_or, LatchEvent.evaluated.injEq] at listed
    exact listed.1
  refine ⟨_, _, ⟨falling, unwatched.cells.size⟩, edited_run, registered, falling_alike, ?_, wrote,
    ?_⟩
  · exact (congrArg (fun runtime => runtime.latches.get? "e1") cell).trans latched_holds
  · intro own
    have same : (onPrice .greater == onPrice .less) = true := wrote falling own ▸ falling_alike
    exact absurd same (by decide +kernel)

end PersistentAlerts

end CandleAlerts
