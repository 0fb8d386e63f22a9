import CandleAlerts.Api.Operations
import CandleAlerts.Proofs.AlertEquality
import CandleAlerts.Proofs.ReconcileLaws
import CandleAlerts.Services.Sync

/-!
Synchronizations and API requests in any order of their steps.

A synchronization takes three steps: it reads the epoch, then the active records, and then
reconciles. A request takes two: it changes storage, then the registry. Synchronizations do not
overlap each other; everything else may. A synchronization is given up when its records cannot be
read. Between the steps an evaluation may write a cell.
-/

namespace CandleAlerts

/-! ## The steps -/

/-- A change that a request still has to make to the registry, storage having been changed. -/
inductive RegistryWrite where
  | activate (alert : Alert)
  | deactivate (id : String)

namespace RegistryWrite

def id : RegistryWrite → String
  | activate alert => alert.id
  | deactivate id => id

def apply (registry : Registry) : RegistryWrite → Registry
  | activate alert => (registry.activate alert none).2
  | deactivate id => (registry.deactivate id).2

end RegistryWrite

/-- How far a synchronization has come. -/
inductive SyncPhase where
  | idle
  | epochRead (since : Nat)
  | recordsRead (since : Nat) (records : List AlertRecord)

/-- What synchronizations and requests share, and how far each of them has come. -/
structure SharedState where
  registry : Registry := {}
  store : Store
  pending : List RegistryWrite := []
  phase : SyncPhase := .idle

/-- One step of a request, of a synchronization, or of an evaluation. -/
inductive SharedEvent where
  | saved (definition : Json)
  | dropped (id : String)
  | wrote (write : RegistryWrite)
  | readEpoch
  | readRecords
  | reconciled
  | givenUp
  | evaluated (place : Nat)

namespace SharedEvent

/-- Whether a step belongs to a request. -/
def IsRequest : SharedEvent → Prop
  | saved _ | dropped _ | wrote _ => True
  | readEpoch | readRecords | reconciled | givenUp | evaluated _ => False

/-- The id that a step changed in the registry on behalf of a request. -/
def writtenId? : SharedEvent → Option String
  | wrote write => some write.id
  | saved _ | dropped _ | readEpoch | readRecords | reconciled | givenUp | evaluated _ => none

end SharedEvent

/-- The ids that requests changed in the registry. -/
def writtenIds (events : List SharedEvent) : List String := events.filterMap SharedEvent.writtenId?

theorem mem_writtenIds_append (events : List SharedEvent) (event : SharedEvent) (id : String) :
    id ∈ writtenIds (events ++ [event]) ↔ id ∈ writtenIds events ∨ event.writtenId? = some id := by
  simp [writtenIds]

namespace SharedState

/-- The steps. What a synchronization sees of the registry when it loads saved states may be
outdated. -/
inductive Step (mode : FireMode) : SharedState → SharedEvent → SharedState → Prop
  | saved (state : SharedState) (definition : Json) (alert : Alert)
      (read : Definition.readAlert definition mode = .ok alert) :
      Step mode state (.saved definition)
        { state with
          store := state.store.saveAlert { id := alert.id, definition }
          pending := state.pending ++ [.activate alert] }
  | dropped (state : SharedState) (id : String) :
      Step mode state (.dropped id)
        { state with
          store := (state.store.deactivateAlert id).2
          pending := state.pending ++ [.deactivate id] }
  | wrote (state : SharedState) (write : RegistryWrite) (before after : List RegistryWrite)
      (pending : state.pending = before ++ write :: after) :
      Step mode state (.wrote write)
        { state with registry := write.apply state.registry, pending := before ++ after }
  | readEpoch (state : SharedState) (idle : state.phase = .idle) :
      Step mode state .readEpoch { state with phase := .epochRead state.registry.epoch }
  | readRecords (state : SharedState) (since : Nat) (opened : state.phase = .epochRead since) :
      Step mode state .readRecords
        { state with phase := .recordsRead since state.store.activeAlerts }
  | reconciled (state : SharedState) (since : Nat) (records : List AlertRecord)
      (seen : Registry) (saved : Option SavedStates)
      (read : state.phase = .recordsRead since records) :
      Step mode state .reconciled
        { state with
          registry :=
            (state.registry.reconcile (StoredReading.of seen saved mode records).stored since).2
          phase := .idle }
  | givenUp (state : SharedState) : Step mode state .givenUp { state with phase := .idle }
  | evaluated (state : SharedState) (place : Nat) (runtime : AlertRuntime) :
      Step mode state (.evaluated place)
        { state with registry := state.registry.setCell place runtime }

/-- Any number of steps. -/
inductive Run (mode : FireMode) (start : SharedState) : List SharedEvent → SharedState → Prop
  | nil : Run mode start [] start
  | snoc {events : List SharedEvent} {event : SharedEvent} {middle final : SharedState} :
      Run mode start events middle → Step mode middle event final →
      Run mode start (events ++ [event]) final

end SharedState

/-! ## Operations as steps -/

theorem Api.activate_run {settings : Api.Settings} {services after : Services} {definition : Json}
    {answer : Json} (done : Api.activate settings services definition = (.ok answer, after)) :
    ∃ alert, SharedState.Run settings.defaultFireMode
      { registry := services.registry, store := services.store }
      [.saved definition, .wrote (.activate alert)]
      { registry := after.registry, store := after.store } := by
  simp only [Api.activate] at done
  cases read : Definition.readAlert definition settings.defaultFireMode with
  | error cause =>
      simp only [read] at done
      cases done
  | ok alert =>
      refine ⟨alert, ?_⟩
      simp only [read, Services.changeStore] at done
      have saving := SharedState.Run.snoc .nil (SharedState.Step.saved
        { registry := services.registry, store := services.store } definition alert read)
      have writing := saving.snoc (SharedState.Step.wrote _ (.activate alert) [] [] rfl)
      cases works : services.works .saveAlert with
      | false => simp [works] at done
      | true =>
          simp only [works, if_true] at done
          split at done
          · cases done
            exact writing
          · cases done
            exact writing

theorem Api.deactivate_run {mode : FireMode} {services after : Services} {id : String}
    {answer : Json} (done : Api.deactivate services id = (.ok answer, after)) :
    SharedState.Run mode { registry := services.registry, store := services.store }
      [.dropped id, .wrote (.deactivate id)]
      { registry := after.registry, store := after.store } := by
  simp only [Api.deactivate] at done
  simp only [Services.changeStore] at done
  have dropping : SharedState.Run mode _ _ _ := .snoc .nil (SharedState.Step.dropped
    { registry := services.registry, store := services.store } id)
  have writing := dropping.snoc (SharedState.Step.wrote _ (.deactivate id) [] [] rfl)
  cases works : services.works .deactivateAlert with
  | false => simp [works] at done
  | true =>
      simp only [works, if_true] at done
      cases done
      exact writing

theorem Registry.syncAlerts_run (registry : Registry) (saved : Option SavedStates)
    (mode : FireMode) (store : Store) :
    SharedState.Run mode { registry, store } [.readEpoch, .readRecords, .reconciled]
      { registry := (registry.syncAlerts saved mode store.activeAlerts registry.epoch).2.2
        store } := by
  have opening : SharedState.Run mode _ _ _ :=
    .snoc .nil (SharedState.Step.readEpoch { registry, store } rfl)
  have reading := opening.snoc (SharedState.Step.readRecords _ registry.epoch rfl)
  exact reading.snoc
    (SharedState.Step.reconciled _ registry.epoch store.activeAlerts registry saved rfl)

/-! ## Runs -/

theorem RegistryWrite.apply_wellFormed {registry : Registry} (wellFormed : registry.WellFormed)
    (write : RegistryWrite) : (write.apply registry).WellFormed := by
  cases write with
  | activate alert => exact wellFormed.activate alert none
  | deactivate id => exact wellFormed.deactivate id

theorem RegistryWrite.apply_epoch (registry : Registry) (write : RegistryWrite) :
    (write.apply registry).epoch = registry.epoch + 1 := by
  cases write with
  | activate alert => exact (registry.markChanged alert.id).upsert_epoch alert none
  | deactivate id => rfl

theorem RegistryWrite.changedSince_apply (registry : Registry) (write : RegistryWrite)
    (id : String) {since : Nat} (past : since ≤ registry.epoch) :
    (write.apply registry).changedSince id since = true ↔
      write.id = id ∨ registry.changedSince id since = true := by
  have marked := registry.changedSince_markChanged write.id id past
  cases write with
  | activate alert =>
      have keeps := Registry.Keeps.upsert (registry.markChanged alert.id) alert none
      rw [← marked]
      exact iff_of_eq (congrArg (· = true) (keeps.changedSince id since))
  | deactivate removed => exact marked

namespace SharedState

variable {mode : FireMode} {start state next : SharedState} {event : SharedEvent}
  {events : List SharedEvent}

theorem Step.wellFormed (step : Step mode state event next)
    (wellFormed : state.registry.WellFormed) : next.registry.WellFormed := by
  cases step with
  | saved definition alert read => exact wellFormed
  | dropped id => exact wellFormed
  | wrote write before after pending => exact write.apply_wellFormed wellFormed
  | readEpoch idle => exact wellFormed
  | readRecords since opened => exact wellFormed
  | reconciled since records seen saved read =>
      exact state.registry.reconcile_wellFormed _ since wellFormed
  | givenUp => exact wellFormed
  | evaluated place runtime => exact wellFormed.setCell place runtime

theorem Run.wellFormed (run : Run mode start events state)
    (wellFormed : start.registry.WellFormed) : state.registry.WellFormed := by
  induction run with
  | nil => exact wellFormed
  | snoc rest step induction => exact step.wellFormed induction

/-- What is known while the synchronization is under way that read the epoch `since`, `written`
being the ids that requests have changed in the registry since then. -/
structure Syncing (since : Nat) (written : List String) (state : SharedState) : Prop where
  phase : state.phase = .epochRead since ∨ ∃ records, state.phase = .recordsRead since records
  past : since ≤ state.registry.epoch
  changed : ∀ id, state.registry.changedSince id since = true ↔ id ∈ written

/-- When a synchronization has read the epoch, nothing has been changed since. -/
theorem Step.syncing (step : Step mode state .readEpoch next)
    (wellFormed : state.registry.WellFormed) : Syncing state.registry.epoch [] next := by
  cases step with
  | readEpoch idle =>
      refine ⟨.inl rfl, Nat.le_refl _, ?_⟩
      intro id
      simp only [List.not_mem_nil, iff_false]
      intro changed
      rcases (state.registry.changedSince_iff id _).1 changed with ⟨epoch, found, later⟩
      have bound := wellFormed.changes id epoch found
      omega

/-- A step other than an epoch read ends the synchronization or keeps count of what requests
change. -/
theorem Syncing.step {since : Nat} (syncing : Syncing since (writtenIds events) state)
    (step : Step mode state event next) (other : event ≠ .readEpoch) :
    next.phase = .idle ∨ Syncing since (writtenIds (events ++ [event])) next := by
  have unwritten (none : event.writtenId? = none) (id : String) :
      id ∈ writtenIds (events ++ [event]) ↔ id ∈ writtenIds events := by
    rw [mem_writtenIds_append, none]
    simp
  cases step with
  | saved definition alert read =>
      refine .inr ⟨syncing.phase, syncing.past, ?_⟩
      intro id
      rw [unwritten rfl]
      exact syncing.changed id
  | dropped id =>
      refine .inr ⟨syncing.phase, syncing.past, ?_⟩
      intro id
      rw [unwritten rfl]
      exact syncing.changed id
  | wrote write before after pending =>
      refine .inr ⟨syncing.phase, ?_, ?_⟩
      · rw [write.apply_epoch]
        exact Nat.le_succ_of_le syncing.past
      · intro id
        rw [write.changedSince_apply state.registry id syncing.past, mem_writtenIds_append,
          syncing.changed id, or_comm]
        simp [SharedEvent.writtenId?]
  | readEpoch idle => exact absurd rfl other
  | readRecords begun opened =>
      refine .inr ⟨.inr ⟨state.store.activeAlerts, ?_⟩, syncing.past, ?_⟩
      · rcases syncing.phase with reading | ⟨records, read⟩
        · rw [opened] at reading
          cases reading
          rfl
        · rw [opened] at read
          cases read
      · intro id
        rw [unwritten rfl]
        exact syncing.changed id
  | reconciled begun records seen saved read => exact .inl rfl
  | givenUp => exact .inl rfl
  | evaluated place runtime =>
      refine .inr ⟨syncing.phase, syncing.past, ?_⟩
      intro id
      rw [unwritten rfl]
      exact syncing.changed id

/-- Without another epoch read, no synchronization begins. -/
theorem Step.stays_idle (step : Step mode state event next) (other : event ≠ .readEpoch)
    (idle : state.phase = .idle) : next.phase = .idle := by
  cases step with
  | saved definition alert read => exact idle
  | dropped id => exact idle
  | wrote write before after pending => exact idle
  | readEpoch idle => exact absurd rfl other
  | readRecords since opened =>
      rw [idle] at opened
      cases opened
  | reconciled since records seen saved read => rfl
  | givenUp => rfl
  | evaluated place runtime => exact idle

theorem Run.syncing (run : Run mode start events state) {since : Nat}
    (begun : Syncing since [] start) (other : .readEpoch ∉ events) :
    state.phase = .idle ∨ Syncing since (writtenIds events) state := by
  induction run with
  | nil => exact .inr begun
  | @snoc events event middle final rest step induction =>
      rw [List.mem_append, not_or, List.mem_singleton] at other
      rcases induction other.1 with idle | syncing
      · exact .inl (step.stays_idle (Ne.symm other.2) idle)
      · exact syncing.step step (Ne.symm other.2)

/-- Whether the records that the synchronization under way has read, if it has, are those that are
stored. -/
def UpToDate (state : SharedState) : Prop :=
  ∀ since records, state.phase = .recordsRead since records → records = state.store.activeAlerts

/-- While no request takes a step, the records that have been read stay those that are stored. -/
theorem Step.upToDate (step : Step mode state event next) (quiet : ¬ event.IsRequest)
    (upToDate : UpToDate state) : UpToDate next ∧ next.store = state.store := by
  cases step with
  | saved definition alert read => exact absurd trivial quiet
  | dropped id => exact absurd trivial quiet
  | wrote write before after pending => exact absurd trivial quiet
  | readEpoch idle =>
      refine ⟨?_, rfl⟩
      intro since records phase
      cases phase
  | readRecords since opened =>
      refine ⟨?_, rfl⟩
      intro since records phase
      cases phase
      rfl
  | reconciled since records seen saved read =>
      refine ⟨?_, rfl⟩
      intro since records phase
      cases phase
  | givenUp =>
      refine ⟨?_, rfl⟩
      intro since records phase
      cases phase
  | evaluated place runtime => exact ⟨upToDate, rfl⟩

theorem Run.upToDate (run : Run mode start events state)
    (quiet : ∀ event ∈ events, ¬ event.IsRequest) (begun : UpToDate start) :
    UpToDate state ∧ state.store = start.store := by
  induction run with
  | nil => exact ⟨begun, rfl⟩
  | @snoc events event middle final rest step induction =>
      have before := induction (fun other member => quiet other (List.mem_append_left _ member))
      have after := step.upToDate (quiet event (by simp)) before.1
      exact ⟨after.1, after.2.trans before.2⟩

/-- While no request takes a step, nothing is written. -/
theorem writtenIds_of_quiet (quiet : ∀ event ∈ events, ¬ event.IsRequest) :
    writtenIds events = [] := by
  simp only [writtenIds]
  rw [List.filterMap_eq_nil_iff]
  intro event member
  cases event with
  | wrote write => exact absurd trivial (quiet _ member)
  | saved definition => rfl
  | dropped id => rfl
  | readEpoch => rfl
  | readRecords => rfl
  | reconciled => rfl
  | givenUp => rfl
  | evaluated place => rfl

end SharedState

/-! ## Stored alerts -/

/-- The alert of a record, if its definition is not refused. -/
def AlertRecord.alert? (record : AlertRecord) (mode : FireMode) : Option Alert :=
  (record.readAlert mode).toOption

theorem AlertRecord.alert?_beq_self {record : AlertRecord} {mode : FireMode} {alert : Alert}
    (read : record.alert? mode = some alert) : (alert == alert) = true := by
  simp only [alert?] at read
  cases found : record.readAlert mode with
  | error cause =>
      rw [found] at read
      cases read
  | ok value =>
      rw [found] at read
      cases read
      exact Definition.readAlert_beq_self found

/-- The alerts that are stored as active and not refused, in the order of their records. -/
def Store.readableAlerts (store : Store) (mode : FireMode) : List Alert :=
  store.activeAlerts.filterMap (fun record => record.alert? mode)

theorem StoredReading.map_fst_of (registry : Registry) (saved : Option SavedStates)
    (mode : FireMode) (records : List AlertRecord) :
    (StoredReading.of registry saved mode records).stored.map Prod.fst =
      records.filterMap (fun record => record.alert? mode) := by
  have folded (reading : StoredReading) :
      (records.foldl (StoredReading.take registry saved mode) reading).stored.map Prod.fst =
        reading.stored.map Prod.fst ++ records.filterMap (fun record => record.alert? mode) := by
    induction records generalizing reading with
    | nil => simp
    | cons record rest induction =>
        rw [List.foldl_cons, induction, List.filterMap_cons]
        simp only [take, AlertRecord.alert?]
        cases record.readAlert mode with
        | error refusal => rfl
        | ok alert => simp [Except.toOption]
  exact folded {}

/-- A reading of all that is stored, applied when nothing was changed since it began, makes the
registry match. -/
theorem Registry.reconcile_reading_matches (registry seen : Registry) (saved : Option SavedStates)
    (mode : FireMode) (store : Store) (since : Nat)
    (distinct : ((store.readableAlerts mode).map Alert.id).Nodup)
    (unchanged : ∀ id, registry.changedSince id since = false) :
    (registry.reconcile
      (StoredReading.of seen saved mode store.activeAlerts).stored since).2.Matches
      (store.readableAlerts mode) := by
  have alerts := StoredReading.map_fst_of seen saved mode store.activeAlerts
  simp only [Store.readableAlerts] at distinct ⊢
  rw [← alerts]
  apply Registry.reconcile_matches
  · rw [← alerts, List.map_map] at distinct
    exact distinct
  · intro entry member
    have read : entry.1 ∈ store.activeAlerts.filterMap (fun record => record.alert? mode) := by
      rw [← alerts]
      exact List.mem_map_of_mem member
    rcases List.mem_filterMap.1 read with ⟨record, -, found⟩
    exact AlertRecord.alert?_beq_self found
  · exact unchanged

/-! ## Synchronizing next to requests -/

namespace SharedState

variable {mode : FireMode} {opened read final : SharedState} {between : List SharedEvent}
  {since : Nat}

/-- The reconciliation of the synchronization that read the epoch goes by that epoch. -/
theorem Syncing.of_reconciled (run : Run mode opened between read) (begun : Syncing since [] opened)
    (same : .readEpoch ∉ between) (reconciled : Step mode read .reconciled final) :
    Syncing since (writtenIds between) read ∧ ∃ records seen saved,
      read.phase = .recordsRead since records ∧
      final.registry =
        (read.registry.reconcile (StoredReading.of seen saved mode records).stored since).2 := by
  cases reconciled with
  | reconciled begunAt records seen saved phase =>
      rcases run.syncing begun same with idle | syncing
      · rw [idle] at phase
        cases phase
      · refine ⟨syncing, ?_⟩
        rcases syncing.phase with reading | ⟨others, reading⟩
        · rw [phase] at reading
          cases reading
        · rw [phase] at reading
          cases reading
          exact ⟨records, seen, saved, phase, rfl⟩

/-- A synchronization leaves alone every id that a request changed in the registry after it read the
epoch, and none but these is marked as changed since; it forgets no mark that a later
synchronization goes by. When no request takes a step during it, what is registered afterwards is
what is stored. -/
theorem sync_agrees_with_requests (mode : FireMode) (store : Store) {before : List SharedEvent}
    {start opened read final : SharedState} (reached : Run mode { store } before start)
    (opening : Step mode start .readEpoch opened) {between : List SharedEvent}
    (run : Run mode opened between read) (same : .readEpoch ∉ between)
    (reconciled : Step mode read .reconciled final) :
    (∀ id, read.registry.changedSince id start.registry.epoch = true ↔ id ∈ writtenIds between) ∧
    (∀ id ∈ writtenIds between,
      final.registry.get? id = read.registry.get? id ∧
        final.registry.runtime? id = read.registry.runtime? id) ∧
    (∀ id later, start.registry.epoch ≤ later →
      final.registry.changedSince id later = read.registry.changedSince id later) ∧
    ((∀ event ∈ between, ¬ event.IsRequest) →
      ((start.store.readableAlerts mode).map Alert.id).Nodup →
      final.registry.Matches (start.store.readableAlerts mode)) := by
  have startWellFormed := reached.wellFormed Registry.WellFormed.empty
  have readWellFormed := run.wellFormed (opening.wellFormed startWellFormed)
  rcases Syncing.of_reconciled run (opening.syncing startWellFormed) same reconciled with
    ⟨syncing, records, seen, saved, phase, reconciliation⟩
  rw [reconciliation]
  refine ⟨syncing.changed, ?_, ?_, ?_⟩
  · intro id written
    exact read.registry.reconcile_leaves_alone _ _ readWellFormed ((syncing.changed id).2 written)
  · intro id later order
    exact read.registry.changedSince_reconcile _ _ id order
  · intro quiet distinct
    have openedFresh : UpToDate opened ∧ opened.store = start.store := by
      cases opening with
      | readEpoch idle =>
          refine ⟨?_, rfl⟩
          intro since records phase
          cases phase
    rcases run.upToDate quiet openedFresh.1 with ⟨upToDate, sameStore⟩
    rw [upToDate _ records phase, sameStore, openedFresh.2]
    apply Registry.reconcile_reading_matches _ _ _ _ _ _ distinct
    intro id
    rw [Bool.eq_false_iff]
    intro changed
    have written := (syncing.changed id).1 changed
    rw [writtenIds_of_quiet quiet] at written
    cases written

/-! An alert that is stored and registered after a synchronization has read the records, in which it
is missing. -/

def lateDefinition : Json := .object
  [("id", .string "late"), ("symbol", .string "X"), ("timeframe", .string "1h"),
   ("conditions", .array
     [.object [("operator", .string "gt"), ("value", .number (.integer 1))]])]

def lateAlert : Alert :=
  { id := "late", ownerId := "", symbol := "X", timeframe := .hour
    logic := .conditions
      [{ subject := .price .close, operator := .greater, comparand := .literal 1,
         timeframe := .same, percentage := none }] .all
    fireMode := .perBar, action := .nothing }

def beforeLate : SharedState := { store := {}, phase := .epochRead 0 }

def lateWritten : SharedState :=
  { registry := (({} : Registry).activate lateAlert none).2
    store := ({} : Store).saveAlert { id := "late", definition := lateDefinition }
    phase := .recordsRead 0 [] }

def afterLate : SharedState :=
  { lateWritten with registry := (lateWritten.registry.reconcile [] 0).2, phase := .idle }

theorem late_run : Run .perBar beforeLate
    [.readRecords, .saved lateDefinition, .wrote (.activate lateAlert)] lateWritten := by
  have reading : Run .perBar beforeLate _ _ := .snoc .nil (Step.readRecords beforeLate 0 rfl)
  have saving := reading.snoc (Step.saved _ lateDefinition lateAlert rfl)
  exact saving.snoc (Step.wrote _ (.activate lateAlert) [] [] rfl)

theorem late_alert_stays :
    Run .perBar { store := {} } [] { store := {} } ∧
      Step .perBar { store := {} } .readEpoch beforeLate ∧
      Run .perBar beforeLate [.readRecords, .saved lateDefinition, .wrote (.activate lateAlert)]
        lateWritten ∧
      Step .perBar lateWritten .reconciled afterLate ∧
      afterLate.registry.get? "late" = some { alert := lateAlert, cell := 0 } := by
  have opening : Step .perBar { store := {} } .readEpoch beforeLate :=
    Step.readEpoch { store := {} } rfl
  have reconciled : Step .perBar lateWritten .reconciled afterLate :=
    Step.reconciled lateWritten 0 [] {} none rfl
  have other : SharedEvent.readEpoch ∉
      [SharedEvent.readRecords, .saved lateDefinition, .wrote (.activate lateAlert)] := by simp
  rcases sync_agrees_with_requests .perBar {} .nil opening late_run other reconciled with
    ⟨-, leftAlone, -⟩
  have written : "late" ∈ writtenIds
      [.readRecords, .saved lateDefinition, .wrote (.activate lateAlert)] := by
    simp [writtenIds, SharedEvent.writtenId?, RegistryWrite.id, lateAlert]
  refine ⟨.nil, opening, late_run, reconciled, ?_⟩
  rw [(leftAlone "late" written).1]
  rfl

end SharedState

end CandleAlerts
