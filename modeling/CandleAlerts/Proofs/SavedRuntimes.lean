import CandleAlerts.Proofs.ConcurrentSync
import CandleAlerts.Proofs.GroupEvaluation
import CandleAlerts.Proofs.RuntimeTexts

/-!
A restart loses no state.

The states of the registered alerts are saved under keys of their own. When an empty registry is
synchronized with what is stored, every alert that was registered goes on from the state it had, and
none fires again on the bar that it fired on last.
-/

namespace CandleAlerts

/-! ## Saved states -/

theorem stateKey_inj {first second : String} (same : stateKey first = stateKey second) :
    first = second := by
  unfold stateKey at same
  exact (String.append_right_inj _).mp same

theorem Registry.get?_runtimes (registry : Registry) (id : String) :
    registry.runtimes.get? id = registry.runtime? id :=
  Table.get?_mapValues _ _ _

namespace SavedStates

variable (saved : SavedStates) (registry : Registry) (id : String)

/-- Saving overwrites the states of registered alerts and no others. -/
theorem get?_save : (saved.save registry).get? (stateKey id) =
    ((registry.runtime? id).map AlertRuntime.text).or (saved.get? (stateKey id)) := by
  rw [← registry.get?_runtimes]
  exact Table.get?_foldl_insert stateKey_inj AlertRuntime.text registry.runtimes saved id

variable {registry id}

/-- A state that was saved is loaded. -/
theorem load?_save {runtime : AlertRuntime} (registered : registry.runtime? id = some runtime)
    (storable : runtime.Storable) : (saved.save registry).load? id = some (some runtime) := by
  have written : (saved.save registry).get? (stateKey id) = some runtime.text := by
    rw [get?_save, registered, Option.map_some, Option.some_or]
  rw [load?, written]
  exact congrArg (Option.map some) (AlertRuntime.parse?_text storable)

end SavedStates

/-! ## Restoring -/

/-- An empty registry has the saved state of every alert loaded. -/
theorem StoredReading.stored_of_empty (saved : SavedStates) (mode : FireMode)
    (records : List AlertRecord) :
    (StoredReading.of {} (some saved) mode records).stored =
      (records.filterMap (fun record => record.alert? mode)).map
        (fun alert => (alert, (saved.load? alert.id).join)) := by
  have folded (reading : StoredReading) :
      (records.foldl (StoredReading.take {} (some saved) mode) reading).stored =
        reading.stored ++ (records.filterMap (fun record => record.alert? mode)).map
          (fun alert => (alert, (saved.load? alert.id).join)) := by
    induction records generalizing reading with
    | nil => simp
    | cons record rest induction =>
        rw [List.foldl_cons, induction, List.filterMap_cons]
        simp only [take, AlertRecord.alert?]
        cases record.readAlert mode with
        | error refusal => rfl
        | ok alert => simp [Except.toOption, Registry.get?]
  exact folded {}

namespace Registry

/-- What is known of a registry into which some alerts of another have been taken: these are
registered as they are there, and with the states they have there. -/
structure Restored (original : Registry) (taken : List Alert) (registry : Registry) : Prop where
  wellFormed : registry.WellFormed
  unchanged : ∀ id, registry.changedSince id 0 = false
  alike : ∀ id entry, registry.get? id = some entry →
    ∃ other, original.get? id = some other ∧ (other.alert == entry.alert) = true ∧
      registry.cell entry.cell = original.cell other.cell
  covers : ∀ alert ∈ taken, ∃ entry, registry.get? alert.id = some entry

namespace Restored

variable {original registry : Registry} {taken : List Alert}

/-- An alert that is registered already is covered as well. -/
theorem cover (restored : Restored original taken registry) {alert : Alert} {existing : Registered}
    (present : registry.get? alert.id = some existing) :
    Restored original (alert :: taken) registry where
  wellFormed := restored.wellFormed
  unchanged := restored.unchanged
  alike := restored.alike
  covers member among := by
    rcases List.mem_cons.1 among with rfl | before
    · exact ⟨existing, present⟩
    · exact restored.covers member before

/-- An alert is registered with the state that it has in the original. -/
theorem register (restored : Restored original taken registry) {alert : Alert} {other : Registered}
    (found : original.get? alert.id = some other) (same : (other.alert == alert) = true) :
    Restored original (alert :: taken) (registry.register alert (original.cell other.cell)) where
  wellFormed := restored.wellFormed.register alert (original.cell other.cell)
  unchanged := restored.unchanged
  alike id entry entryFound := by
    rw [get?_register] at entryFound
    split at entryFound
    next sameId =>
      cases entryFound
      refine ⟨other, sameId ▸ found, same, ?_⟩
      rw [cell_register, if_pos rfl]
    next =>
      have within := restored.wellFormed.cells id entry entryFound
      rw [cell_register, if_neg (Nat.ne_of_lt within)]
      exact restored.alike id entry entryFound
  covers member among := by
    rw [get?_register]
    split
    next => exact ⟨_, rfl⟩
    next different =>
      rcases List.mem_cons.1 among with rfl | before
      · exact absurd rfl different
      · exact restored.covers member before

theorem takeOne (restored : Restored original taken registry) {alert : Alert} {other : Registered}
    (found : original.get? alert.id = some other) (same : (other.alert == alert) = true) :
    Restored original (alert :: taken)
      (registry.takeOne 0 (alert, some (original.cell other.cell))) := by
  have taking : registry.takeOne 0 (alert, some (original.cell other.cell)) =
      (registry.upsert alert (some (original.cell other.cell))).2 := by
    rw [Registry.takeOne, restored.unchanged]
    rfl
  rw [taking]
  cases present : registry.get? alert.id with
  | some existing =>
      -- the same id was taken before, from a definition that is the same
      rcases restored.alike alert.id existing present with ⟨stored, storedFound, alike, -⟩
      obtain rfl : stored = other := Option.some.inj (storedFound.symm.trans found)
      rw [upsert_of_same present (BEq.trans (BEq.symm alike) same)]
      exact restored.cover present
  | none =>
      rw [upsert_of_absent present]
      exact restored.register found same

theorem foldl_takeOne (restored : Restored original taken registry)
    (initial : String → Option AlertRuntime) (alerts : List Alert)
    (each : ∀ alert ∈ alerts, initial alert.id = original.runtime? alert.id ∧
      ∃ other, original.get? alert.id = some other ∧ (other.alert == alert) = true) :
    Restored original (alerts.reverse ++ taken)
      ((alerts.map (fun alert => (alert, initial alert.id))).foldl
        (fun registry entry => registry.takeOne 0 entry) registry) := by
  induction alerts generalizing registry taken with
  | nil => exact restored
  | cons alert rest induction =>
      rcases each alert List.mem_cons_self with ⟨state, other, found, same⟩
      have known : initial alert.id = some (original.cell other.cell) := by
        rw [state, runtime?, found, Option.map_some]
      have after := induction (restored.takeOne found same)
        (fun later among => each later (List.mem_cons_of_mem _ among))
      rw [List.map_cons, List.foldl_cons, known, List.reverse_cons, List.append_assoc]
      exact after

/-- What was taken in stays when the subscriptions are replaced. -/
theorem replaceSubscriptions (restored : Restored original taken registry)
    (subscriptions : List Subscription) :
    Restored original taken (registry.replaceSubscriptions subscriptions) where
  wellFormed :=
    restored.wellFormed.restrict rfl rfl (fun _ _ found => found) (fun _ _ found => found)
  unchanged := restored.unchanged
  alike := restored.alike
  covers := restored.covers

section Matching

variable (matching : original.Matches taken)

include matching

/-- Reconciling an empty registry with the alerts of another restores them. -/
theorem reconcile (initial : String → Option AlertRuntime)
    (states : ∀ alert ∈ taken, initial alert.id = original.runtime? alert.id) :
    Restored original taken (({} : Registry).reconcile
      (taken.map (fun alert => (alert, initial alert.id))) 0).2 := by
  have empty : Restored original [] {} :=
    ⟨.empty, fun _ => rfl, fun _ _ found => (by cases found), fun _ among => (by cases among)⟩
  have restored := empty.foldl_takeOne initial taken
    (fun alert among => ⟨states alert among, matching.registered alert among⟩)
  rw [← takeStored_eq] at restored
  generalize isStored : taken.map (fun alert => (alert, initial alert.id)) = stored at restored ⊢
  have storedIds (alert : Alert) (among : alert ∈ taken) :
      alert.id ∈ stored.map (fun entry => entry.1.id) := by
    rw [← isStored, List.map_map]
    exact List.mem_map_of_mem among
  refine ⟨reconcile_wellFormed _ _ _ .empty, ?_, ?_, ?_⟩
  · intro id
    rw [changedSince_reconcile _ _ _ id (Nat.le_refl 0)]
    rfl
  · intro id entry found
    rw [get?_reconcile] at found
    split at found
    · exact restored.alike id entry found
    · cases found
  · intro alert among
    rw [get?_reconcile, if_pos (.inl (storedIds alert among))]
    exact restored.covers alert (List.mem_append_left _ (List.mem_reverse.2 among))

variable (restored : Restored original taken registry)

include restored

theorem runtime?_eq (id : String) : registry.runtime? id = original.runtime? id := by
  cases found : registry.get? id with
  | some entry =>
      rcases restored.alike id entry found with ⟨other, otherFound, -, state⟩
      rw [runtime?, runtime?, found, otherFound, Option.map_some, Option.map_some, state]
  | none =>
      cases otherFound : original.get? id with
      | none => rw [runtime?, runtime?, found, otherFound, Option.map_none, Option.map_none]
      | some other =>
          rcases matching.listed id other otherFound with ⟨alert, among, rfl, -⟩
          rcases restored.covers alert among with ⟨entry, present⟩
          rw [found] at present
          cases present

theorem matches_taken : registry.Matches taken where
  registered alert among := by
    rcases restored.covers alert among with ⟨entry, present⟩
    rcases restored.alike alert.id entry present with ⟨other, found, alike, -⟩
    rcases matching.registered alert among with ⟨stored, storedFound, same⟩
    obtain rfl : stored = other := Option.some.inj (storedFound.symm.trans found)
    exact ⟨entry, present, BEq.trans (BEq.symm alike) same⟩
  listed id entry present := by
    rcases restored.alike id entry present with ⟨other, found, alike, -⟩
    rcases matching.listed id other found with ⟨alert, among, sameId, same⟩
    exact ⟨alert, among, sameId, BEq.trans (BEq.symm alike) same⟩

/-- No alert of a restored registry fires on the bar that it fired on last in the original. -/
theorem fired_fresh (engine : IndicatorEngine) {group : Group} (listed : group ∈ registry.groups)
    (fetched : Except MissingData (List Candle)) (now : Instant) (reached : Registered → Bool)
    {fired : List Fired}
    (done : (registry.passGroup engine group fetched now reached).result = .ok fired) {one : Fired}
    (among : one ∈ fired) :
    (original.runtime? one.alert.id).bind AlertRuntime.lastFiredAt ≠ some one.event.barTime := by
  rcases registry.passGroup_fresh engine group fetched now reached done one among
    with ⟨member, isMember, same, unremembered⟩
  rcases get?_of_mem_groups listed isMember with ⟨id, found⟩
  obtain rfl := restored.wellFormed.ids id member found
  rw [same, ← runtime?_eq matching restored, runtime?, found]
  exact unremembered

end Matching

end Restored

/-- Synchronizing an empty registry with what is stored restores the registry that was saved. -/
theorem restored_sync {registry : Registry} {mode : FireMode} {store : Store}
    (matching : registry.Matches (store.readableAlerts mode))
    (storable : ∀ id runtime, registry.runtime? id = some runtime → runtime.Storable)
    (saved : SavedStates) :
    Restored registry (store.readableAlerts mode)
      (({} : Registry).sync (some (saved.save registry)) mode store).2.2 := by
  have restored := Restored.reconcile matching
    (fun id => ((saved.save registry).load? id).join) (by
      intro alert among
      rcases matching.registered alert among with ⟨entry, found, -⟩
      have registered : registry.runtime? alert.id = some (registry.cell entry.cell) := by
        rw [runtime?, found, Option.map_some]
      rw [saved.load?_save registered (storable alert.id _ registered), registered]
      rfl)
  have reading := StoredReading.stored_of_empty (saved.save registry) mode store.activeAlerts
  have synced : (({} : Registry).sync (some (saved.save registry)) mode store).2.2 =
      (({} : Registry).reconcile (StoredReading.of {} (some (saved.save registry)) mode
        store.activeAlerts).stored 0).2.replaceSubscriptions store.activeSubscriptions := rfl
  rw [synced, reading]
  exact restored.replaceSubscriptions store.activeSubscriptions

/-- A restart loses no state. When the states of a registry are saved, over whatever was saved
before, and an empty registry is then synchronized with the same stored alerts, it registers these
alerts again, each with exactly the state it had, and no alert fires again on the bar that it fired
on last: each state is read back from its text, which is kept under a key of the alert's own. -/
theorem sync_restores {registry : Registry} {mode : FireMode} {store : Store}
    (matching : registry.Matches (store.readableAlerts mode))
    (storable : ∀ id runtime, registry.runtime? id = some runtime → runtime.Storable)
    (saved : SavedStates) :
    let restarted := (({} : Registry).sync (some (saved.save registry)) mode store).2.2
    restarted.Matches (store.readableAlerts mode) ∧
    (∀ id, restarted.runtime? id = registry.runtime? id) ∧
    (∀ runtime : AlertRuntime, runtime.Storable →
      AlertRuntime.parse? runtime.text = some runtime) ∧
    (∀ id, (saved.save registry).get? (stateKey id) =
      ((registry.runtime? id).map AlertRuntime.text).or (saved.get? (stateKey id))) ∧
    (∀ first second, stateKey first = stateKey second → first = second) ∧
    (∀ (engine : IndicatorEngine) (group : Group), group ∈ restarted.groups →
      ∀ (fetched : Except MissingData (List Candle)) (now : Instant)
        (reached : Registered → Bool) (fired : List Fired),
        (restarted.passGroup engine group fetched now reached).result = .ok fired →
        ∀ one ∈ fired, (registry.runtime? one.alert.id).bind AlertRuntime.lastFiredAt ≠
          some one.event.barTime) := by
  intro restarted
  have restored : Restored registry (store.readableAlerts mode) restarted :=
    restored_sync matching storable saved
  refine ⟨restored.matches_taken matching, restored.runtime?_eq matching, ?_, ?_, ?_, ?_⟩
  · intro runtime own
    exact AlertRuntime.parse?_text own
  · intro id
    exact saved.get?_save registry id
  · intro first second same
    exact stateKey_inj same
  · intro engine group listed fetched now reached fired done one among
    exact restored.fired_fresh matching engine listed fetched now reached done among

/-! An alert whose latches reach from the least bar number to beyond the year 9999, and whose
counters are at their ends. -/

def patientDefinition : Json := .object
  [("symbol", .string "X"), ("timeframe", .string "1h"),
   ("playbook", .array
     [.object [("id", .string "dip\""), ("indicator", .string "hammer"), ("operator", .string "is"),
        ("validity", .number (.integer 4294967295)), ("validity_unit", .string "minutes")],
      .object [("indicator", .string "doji"), ("operator", .string "is"),
        ("validity", .number (.integer 3))]])]

def patientEntry (id : String) (priority : Int) (validity : Nat) (unit : ValidityUnit)
    (pattern : String) : PlaybookEntry :=
  { id, priority, enabled := true, connector := .all, validity, validityUnit := unit
    condition :=
      { subject := .indicator (.named pattern) pattern, operator := .pattern
        comparand := .absent, timeframe := .same, percentage := none } }

def patientAlert : Alert :=
  { id := "é:1", ownerId := "", symbol := "X", timeframe := .hour
    logic := .playbook
      { entries :=
          [patientEntry "dip\"" 0 4294967295 .minutes "HAMMER", patientEntry "1" 1 3 .bars "DOJI"]
        gate := .all }
    fireMode := .perBar, action := .nothing }

def patientStore : Store := ({} : Store).saveAlert { id := "é:1", definition := patientDefinition }

def patientRuntime : AlertRuntime :=
  { latches := (Table.empty.insert "1" (.bars (-9223372036854775808) 3)).insert "dip\""
      (.time ⟨1700000000, 120000000⟩ ⟨259398037700, 120000001⟩)
    lastFiredAt := some 1699999200
    triggerCount := 18446744073709551615
    lastEvaluatedAt := some ⟨1700000000, 0⟩
    lastTriggeredAt := some ⟨-62200000000, 999999999⟩
    missingStreak := 4294967295
    warnedUnresolvable := true }

def patientRegistry : Registry := ({} : Registry).register patientAlert patientRuntime

theorem patientRuntime_storable : patientRuntime.Storable where
  latches key latch answered := by
    simp only [patientRuntime, Table.get?_insert] at answered
    split at answered
    · cases answered
      exact ⟨⟨by decide, by decide, by decide⟩, by decide, by decide, by decide⟩
    · split at answered
      · cases answered
        exact ⟨by decide, by decide⟩
      · cases answered
  lastFiredAt time fired := by
    cases fired
    decide
  lastEvaluatedAt instant evaluated := by
    cases evaluated
    exact ⟨by decide, by decide, by decide⟩
  lastTriggeredAt instant triggered := by
    cases triggered
    exact ⟨by decide, by decide, by decide⟩

theorem patientRegistry_get? (id : String) : patientRegistry.get? id =
    if "é:1" = id then some { alert := patientAlert, cell := 0 } else none :=
  get?_register {} patientAlert patientRuntime id

theorem patientRegistry_runtime? (id : String) : patientRegistry.runtime? id =
    if "é:1" = id then some patientRuntime else none := by
  rw [runtime?, patientRegistry_get?]
  split <;> rfl

theorem patientRegistry_matches :
    patientRegistry.Matches (patientStore.readableAlerts .perBar) := by
  have same : (patientStore.readableAlerts .perBar == [patientAlert]) = true := by decide +kernel
  cases listed : patientStore.readableAlerts .perBar with
  | nil =>
      rw [listed] at same
      cases same
  | cons alert rest =>
      rw [listed, List.cons_beq_cons, Bool.and_eq_true] at same
      rcases same with ⟨alike, noMore⟩
      rcases (Alert.beq_iff patientAlert alert).1 (BEq.symm alike) with ⟨logic, sameAlert, -⟩
      have id : alert.id = "é:1" := by rw [sameAlert]; rfl
      obtain rfl : rest = [] := by
        cases rest with
        | nil => rfl
        | cons second more => cases noMore
      constructor
      · intro other among
        obtain rfl := List.mem_singleton.1 among
        exact ⟨_, by rw [patientRegistry_get?, if_pos id.symm], BEq.symm alike⟩
      · intro other entry found
        rw [patientRegistry_get?] at found
        split at found
        next sameId =>
          cases found
          exact ⟨alert, List.mem_singleton_self alert, id.trans sameId, BEq.symm alike⟩
        next => cases found

theorem patient_alert_restored :
    patientRegistry.Matches (patientStore.readableAlerts .perBar) ∧
      (∀ id runtime, patientRegistry.runtime? id = some runtime → runtime.Storable) ∧
      (({} : Registry).sync (some (SavedStates.save Table.empty patientRegistry)) .perBar
        patientStore).2.2.runtime? "é:1" = some patientRuntime := by
  have storable : ∀ id runtime, patientRegistry.runtime? id = some runtime → runtime.Storable := by
    intro id runtime found
    rw [patientRegistry_runtime?] at found
    split at found
    · cases found
      exact patientRuntime_storable
    · cases found
  rcases sync_restores patientRegistry_matches storable Table.empty with ⟨-, restored, -⟩
  refine ⟨patientRegistry_matches, storable, ?_⟩
  rw [restored, patientRegistry_runtime?, if_pos rfl]

end Registry

end CandleAlerts
