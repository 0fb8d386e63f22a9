import CandleAlerts.Api.Router
import CandleAlerts.Proofs.ConcurrentSync
import CandleAlerts.Proofs.StoredDefinitions

/-!
The registry and storage agree on the alerts.

Requests change storage and the registry alike, and an alert is read from its record as it was read
from the request. So whatever was asked for, the registered alerts are those that are stored as
active, and a synchronization finds nothing to do.
-/

namespace CandleAlerts

/-! ## Readings of what is registered -/

namespace Registry

/-- Whether an alert is registered under its id with a definition that is the same. -/
def Holds (registry : Registry) (alert : Alert) : Prop :=
  ∃ entry, registry.get? alert.id = some entry ∧ (entry.alert == alert) = true

variable {registry : Registry} {mode : FireMode}

/-- No saved state is loaded for an alert that is registered. -/
theorem Holds.take {record : AlertRecord} {alert : Alert} (held : registry.Holds alert)
    (read : record.readAlert mode = .ok alert) (saved : Option SavedStates)
    (reading : StoredReading) :
    StoredReading.take registry saved mode reading record =
      { reading with stored := reading.stored ++ [(alert, none)] } := by
  obtain ⟨entry, found, -⟩ := held
  unfold StoredReading.take
  rw [read]
  cases saved <;> simp [found]

theorem reading_of_held (saved : Option SavedStates) {records : List AlertRecord}
    (each : ∀ record ∈ records, ∃ alert, record.readAlert mode = .ok alert ∧
      registry.Holds alert) :
    StoredReading.of registry saved mode records =
      { stored := (records.filterMap (fun record => record.alert? mode)).map (·, none) } := by
  have folded (reading : StoredReading) :
      records.foldl (StoredReading.take registry saved mode) reading =
        { reading with
          stored := reading.stored ++
            (records.filterMap (fun record => record.alert? mode)).map (·, none) } := by
    induction records generalizing reading with
    | nil => simp
    | cons record rest induction =>
        obtain ⟨alert, read, held⟩ := each record List.mem_cons_self
        have others := induction (fun other member => each other (List.mem_cons_of_mem _ member))
        have listed : record.alert? mode = some alert := by
          rw [AlertRecord.alert?, read]
          rfl
        rw [List.foldl_cons, held.take read, others, List.filterMap_cons, listed]
        simp
  exact folded {}

/-- An alert that is registered with the same definition is taken in without a change. -/
theorem Holds.reconcileStored {alert : Alert} (held : registry.Holds alert) {since : Nat}
    (unchanged : registry.changedSince alert.id since = false) (report : Reconciled)
    (initial : Option AlertRuntime) :
    Registry.reconcileStored since (report, registry) (alert, initial) = (report, registry) := by
  obtain ⟨entry, found, same⟩ := held
  simp [Registry.reconcileStored, unchanged, upsert, found, same, Reconciled.count]

/-- When a reading has just the alerts that are registered, a reconciliation changes no alert and no
state. -/
theorem reconcile_held {alerts : List Alert} {since : Nat}
    (unchanged : ∀ id, registry.changedSince id since = false)
    (held : ∀ alert ∈ alerts, registry.Holds alert)
    (listed : ∀ id entry, registry.get? id = some entry → id ∈ alerts.map Alert.id) :
    registry.reconcile (alerts.map (·, none)) since = ({}, registry.pruneChanges since) := by
  have taken : (alerts.map (·, none)).foldl (Registry.reconcileStored since) ({}, registry) =
      ({}, registry) := by
    clear listed
    induction alerts with
    | nil => rfl
    | cons alert rest induction =>
        rw [List.map_cons, List.foldl_cons,
          (held alert List.mem_cons_self).reconcileStored (unchanged alert.id)]
        exact induction (fun other member => held other (List.mem_cons_of_mem _ member))
  have ids : (alerts.map (·, (none : Option AlertRuntime))).map (fun entry => entry.1.id) =
      alerts.map Alert.id := by
    rw [List.map_map]
    rfl
  have kept : registry.removeUnstored since (alerts.map Alert.id) = registry := by
    have all : registry.alerts.filter (fun id _ =>
        registry.keepsUnstored since (alerts.map Alert.id) id) = registry.alerts := by
      apply Table.eq_of_get?
      intro id
      rw [Table.get?_filter]
      cases found : registry.alerts.get? id with
      | none => rfl
      | some entry =>
          have inReading : registry.keepsUnstored since (alerts.map Alert.id) id = true := by
            rw [keepsUnstored, List.contains_iff_mem.2 (listed id entry found), Bool.true_or]
          rw [Option.filter, inReading, if_pos rfl]
    rw [removeUnstored, all]
  simp only [reconcile, taken, ids, kept, Nat.sub_self]

end Registry

/-! ## Agreement -/

theorem Store.mem_activeAlerts_iff {store : Store} {record : AlertRecord} :
    record ∈ store.activeAlerts ↔ ∃ id, store.alerts.get? id = some (record, true) := by
  simp only [Store.activeAlerts, List.mem_map, List.mem_filter, Table.mem_values_iff]
  constructor
  · rintro ⟨⟨_, _⟩, ⟨⟨id, active⟩, rfl⟩, rfl⟩
    exact ⟨id, active⟩
  · rintro ⟨id, active⟩
    exact ⟨(record, true), ⟨⟨id, active⟩, rfl⟩, rfl⟩

/-- Whether the registered alerts are those that are stored as active, under the same ids and with
definitions that are the same. -/
structure Store.Agrees (mode : FireMode) (store : Store) (registry : Registry) : Prop where
  wellFormed : registry.WellFormed
  registered : ∀ id record, store.alerts.get? id = some (record, true) →
    record.id = id ∧ record.definition.normal = record.definition ∧
      ∃ alert, Definition.readAlert record.definition mode = .ok alert ∧ alert.id = id ∧
        registry.Holds alert
  stored : ∀ id entry, registry.get? id = some entry →
    ∃ record, store.alerts.get? id = some (record, true)

namespace Store.Agrees

variable {mode : FireMode} {store : Store} {registry : Registry}

theorem empty {store : Store} (none : store.alerts = Table.empty) : store.Agrees mode {} where
  wellFormed := Registry.WellFormed.empty
  registered id record found := by
    rw [none] at found
    cases found
  stored id entry found := by cases found

/-- An active record is read as the alert that is registered. -/
theorem readAlert (agrees : store.Agrees mode registry) {id : String} {record : AlertRecord}
    (active : store.alerts.get? id = some (record, true)) :
    ∃ alert, record.readAlert mode = .ok alert ∧ alert.id = id ∧ registry.Holds alert := by
  obtain ⟨sameId, normal, alert, read, alertId, held⟩ := agrees.registered id record active
  refine ⟨alert, ?_, alertId, held⟩
  have again := AlertRecord.readAlert_of_read normal read
  rwa [alertId, ← sameId] at again

/-- The agreement is about the alerts alone. -/
theorem of_same (agrees : store.Agrees mode registry) {other : Store} {others : Registry}
    (stored : other.alerts = store.alerts) (alerts : others.alerts = registry.alerts)
    (wellFormed : others.WellFormed) : other.Agrees mode others := by
  have same (id : String) : others.get? id = registry.get? id :=
    congrArg (fun table : Table Registered => table.get? id) alerts
  refine ⟨wellFormed, ?_, ?_⟩
  · intro id record active
    rw [stored] at active
    obtain ⟨sameId, normal, alert, read, alertId, entry, found, equal⟩ :=
      agrees.registered id record active
    exact ⟨sameId, normal, alert, read, alertId, entry, (same _).trans found, equal⟩
  · intro id entry found
    rw [same] at found
    rw [stored]
    exact agrees.stored id entry found

/-- An alert that is stored and registered at once. -/
theorem activate (agrees : store.Agrees mode registry) {definition : Json} {alert : Alert}
    (normal : definition.normal = definition)
    (read : Definition.readAlert definition mode = .ok alert) :
    (store.saveAlert { id := alert.id, definition }).Agrees mode
      (registry.activate alert none).2 where
  wellFormed := agrees.wellFormed.activate alert none
  registered id record active := by
    simp only [Store.saveAlert, Table.get?_insert] at active
    split at active
    · rename_i same
      cases active
      exact ⟨same, normal, alert, read, same, (registry.markChanged alert.id).get?_upsert_self alert
        none (Definition.readAlert_beq_self read)⟩
    · rename_i different
      obtain ⟨sameId, recordNormal, other, otherRead, rfl, entry, found, equal⟩ :=
        agrees.registered id record active
      have still := (registry.markChanged alert.id).get?_upsert_of_ne none different
      exact ⟨sameId, recordNormal, other, otherRead, rfl, entry, still.trans found, equal⟩
  stored id entry found := by
    simp only [Store.saveAlert, Table.get?_insert]
    by_cases same : alert.id = id
    · rw [if_pos same]
      exact ⟨_, rfl⟩
    · rw [if_neg same]
      have before := (registry.markChanged alert.id).get?_upsert_of_ne none same
      exact agrees.stored id entry (before.symm.trans found)

/-- An alert that is given up in both. -/
theorem deactivate (agrees : store.Agrees mode registry) (id : String) :
    (store.deactivateAlert id).2.Agrees mode (registry.deactivate id).2 := by
  have erased (other : String) : (registry.deactivate id).2.get? other =
      if other = id then none else registry.get? other := Table.get?_erase _ _ _
  have given : (∀ record, (store.deactivateAlert id).2.alerts.get? id ≠ some (record, true)) ∧
      ∀ other, other ≠ id →
        (store.deactivateAlert id).2.alerts.get? other = store.alerts.get? other := by
    unfold Store.deactivateAlert
    split
    · simp only [Table.get?_insert]
      refine ⟨by simp, ?_⟩
      intro other different
      rw [if_neg (Ne.symm different)]
    · rename_i notActive
      exact ⟨notActive, fun _ _ => rfl⟩
  refine ⟨agrees.wellFormed.deactivate id, ?_, ?_⟩
  · intro other record active
    have different : other ≠ id := fun same => given.1 record (same ▸ active)
    rw [given.2 other different] at active
    obtain ⟨sameId, normal, alert, read, rfl, entry, found, equal⟩ :=
      agrees.registered other record active
    refine ⟨sameId, normal, alert, read, rfl, entry, ?_, equal⟩
    rw [erased, if_neg different]
    exact found
  · intro other entry found
    rw [erased] at found
    split at found
    · cases found
    · rename_i different
      obtain ⟨record, active⟩ := agrees.stored other entry found
      exact ⟨record, (given.2 other different).trans active⟩

/-! ## A synchronization -/

theorem changedSince_epoch (agrees : store.Agrees mode registry) (id : String) :
    registry.changedSince id registry.epoch = false := by
  rw [Bool.eq_false_iff]
  intro changed
  obtain ⟨epoch, found, later⟩ := (registry.changedSince_iff id _).1 changed
  exact absurd (agrees.wellFormed.changes id epoch found) (Nat.not_le.2 later)

/-- A synchronization reads what is registered, and finds nothing to do. -/
theorem syncAlerts (agrees : store.Agrees mode registry) (saved : Option SavedStates) :
    registry.syncAlerts saved mode store.activeAlerts registry.epoch =
      ({ active := store.activeAlerts.length }, {}, registry.pruneChanges registry.epoch) := by
  have each : ∀ record ∈ store.activeAlerts, ∃ alert, record.readAlert mode = .ok alert ∧
      registry.Holds alert := by
    intro record member
    obtain ⟨id, active⟩ := Store.mem_activeAlerts_iff.1 member
    obtain ⟨alert, read, -, held⟩ := agrees.readAlert active
    exact ⟨alert, read, held⟩
  have readable {record : AlertRecord} {alert : Alert}
      (read : record.readAlert mode = .ok alert) : record.alert? mode = some alert := by
    rw [AlertRecord.alert?, read]
    rfl
  have length : (store.readableAlerts mode).length = store.activeAlerts.length := by
    refine List.filterMap_length_eq_length.2 ?_
    intro record member
    obtain ⟨alert, read, -⟩ := each record member
    rw [readable read]
    rfl
  have held : ∀ alert ∈ store.readableAlerts mode, registry.Holds alert := by
    intro alert member
    obtain ⟨record, among, listed⟩ := List.mem_filterMap.1 member
    obtain ⟨other, read, held⟩ := each record among
    cases (readable read).symm.trans listed
    exact held
  have listed : ∀ id entry, registry.get? id = some entry →
      id ∈ (store.readableAlerts mode).map Alert.id := by
    intro id entry found
    obtain ⟨record, active⟩ := agrees.stored id entry found
    obtain ⟨alert, read, alertId, -⟩ := agrees.readAlert active
    exact List.mem_map.2 ⟨alert, List.mem_filterMap.2
      ⟨record, Store.mem_activeAlerts_iff.2 ⟨id, active⟩, readable read⟩, alertId⟩
  have reconciled := Registry.reconcile_held agrees.changedSince_epoch held listed
  unfold Store.readableAlerts at reconciled length
  simp [Registry.syncAlerts, Registry.reading_of_held saved each, reconciled, length]

end Store.Agrees

/-! ## Whole histories -/

/-- What happens to the services: a request at a second of the calendar and a time on the clock of
claims, an evaluation that writes a cell, or a synchronization. -/
inductive ServiceEvent where
  | requested (request : Api.Request) (now : Int) (clock : Nat)
  | evaluated (place : Nat) (runtime : AlertRuntime)
  | synced (saved : Option SavedStates)

namespace Services

def afterEvent (settings : Api.Settings) (services : Services) : ServiceEvent → Services
  | .requested request now clock => (Api.handle settings services request now clock).2
  | .evaluated place runtime =>
      { services with registry := services.registry.setCell place runtime }
  | .synced saved => (services.sync saved settings.defaultFireMode).2

def afterEvents (settings : Api.Settings) (services : Services) (events : List ServiceEvent) :
    Services :=
  events.foldl (afterEvent settings) services

/-- Whether storage and the registry agree on the alerts, and both are at hand. -/
structure Settled (mode : FireMode) (services : Services) : Prop where
  agrees : services.store.Agrees mode services.registry
  alerts : services.works .loadActiveAlerts = true
  subscriptions : services.works .loadActiveSubscriptions = true

namespace Settled

variable {services : Services}

/-- Whatever changes nothing of the registry but the subscriptions, and no stored alert. -/
theorem of_same {mode : FireMode} (settled : services.Settled mode) {other : Services}
    (stored : other.store.alerts = services.store.alerts)
    (registry : ∃ subscriptions, other.registry = { services.registry with subscriptions })
    (down : other.down = services.down) : other.Settled mode where
  agrees := by
    obtain ⟨subscriptions, same⟩ := registry
    rw [same]
    exact settled.agrees.of_same stored rfl (settled.agrees.wellFormed.restrict rfl rfl
      (fun _ _ found => found) (fun _ _ found => found))
  alerts := by
    rw [works, down]
    exact settled.alerts
  subscriptions := by
    rw [works, down]
    exact settled.subscriptions

theorem activate (settings : Api.Settings) (settled : services.Settled settings.defaultFireMode)
    {definition : Json} (normal : definition.normal = definition) :
    (Api.activate settings services definition).2.Settled settings.defaultFireMode := by
  unfold Api.activate changeStore
  cases read : Definition.readAlert definition settings.defaultFireMode with
  | error cause => exact settled
  | ok alert =>
      have activated := settled.agrees.activate normal read
      cases services.works .saveAlert with
      | false => exact settled
      | true =>
          simp only [if_true]
          split
          · exact ⟨activated, settled.alerts, settled.subscriptions⟩
          · exact ⟨activated, settled.alerts, settled.subscriptions⟩

theorem deactivate {mode : FireMode} (settled : services.Settled mode) (id : String) :
    (Api.deactivate services id).2.Settled mode := by
  unfold Api.deactivate changeStore
  cases services.works .deactivateAlert with
  | false => exact settled
  | true => exact ⟨settled.agrees.deactivate id, settled.alerts, settled.subscriptions⟩

theorem subscribe (settings : Api.Settings) {mode : FireMode} (settled : services.Settled mode)
    (subscriberId conditionId : String) (recipient : Recipient) :
    (Api.subscribe settings services subscriberId conditionId recipient).2.Settled mode := by
  unfold Api.subscribe changeStore
  cases Api.subscriptionRefusal? services.registry subscriberId conditionId recipient with
  | some refusal => exact settled
  | none =>
      cases services.works .saveSubscription with
      | false => exact settled
      | true => exact settled.of_same rfl ⟨_, rfl⟩ rfl

theorem unsubscribe {mode : FireMode} (settled : services.Settled mode)
    (subscriberId conditionId : String) :
    (Api.unsubscribe services subscriberId conditionId).2.Settled mode := by
  unfold Api.unsubscribe changeStore
  cases services.works .deactivateSubscription with
  | false => exact settled
  | true => exact settled.of_same rfl ⟨_, rfl⟩ rfl

theorem claim {mode : FireMode} (settled : services.Settled mode) (key : String)
    (lifetime now : Nat) : (services.claim key lifetime now).2.Settled mode := by
  unfold Services.claim
  split
  · exact settled.of_same rfl ⟨_, rfl⟩ rfl
  · exact settled

theorem claimEvent {mode : FireMode} (settled : services.Settled mode)
    (verifier : Webhook.Verifier) (eventId : String) (clock : Nat) :
    (Api.claimEvent services verifier eventId clock).2.Settled mode := by
  unfold Api.claimEvent
  split
  · exact settled.claim _ _ _
  · exact settled

theorem verify (settings : Api.Settings) {mode : FireMode} (settled : services.Settled mode)
    (request : Api.Request) (now : Int) (clock : Nat) :
    (Api.verify settings services request now clock).2.Settled mode := by
  unfold Api.verify
  split
  · exact settled
  · split
    · exact settled
    · exact settled
    · split
      · exact settled
      · have claimed := settled.claimEvent
        simp only
        split
        · exact claimed _ _ _
        · exact claimed _ _ _

theorem onBody {α : Type} {mode : FireMode} (settled : services.Settled mode)
    (body : Except Api.Rejection α) {operation : α → Api.Answer}
    (each : ∀ value, body = .ok value → (operation value).2.Settled mode) :
    (Api.onBody services body operation).2.Settled mode := by
  cases body with
  | error rejection => exact settled
  | ok value => exact each value rfl

theorem carryOut (settings : Api.Settings) (settled : services.Settled settings.defaultFireMode)
    (request : Api.Request) (now : Int) (clock : Nat) (route : Api.Route) :
    (Api.carryOut settings services request now clock route).2.Settled
      settings.defaultFireMode := by
  cases route with
  | activate =>
      refine settled.onBody _ ?_
      intro definition given
      cases read : request.json with
      | error rejection =>
          rw [read] at given
          cases given
      | ok value =>
          rw [read] at given
          cases given
          exact settled.activate settings value.normal_normal
  | deactivate => exact settled.onBody _ (fun id _ => settled.deactivate id)
  | state alertId =>
      simp only [Api.carryOut]
      split
      · exact settled
      · exact settled
  | subscribe =>
      simp only [Api.carryOut]
      refine settled.onBody request.subscription ?_
      rintro ⟨subscriberId, conditionId, recipient⟩ -
      exact settled.subscribe settings subscriberId conditionId recipient
  | unsubscribe =>
      refine settled.onBody request.unsubscription ?_
      rintro ⟨subscriberId, conditionId⟩ -
      exact settled.unsubscribe subscriberId conditionId
  | verify => exact settled.verify settings request now clock
  | status => exact settled
  | metrics => exact settled

theorem handle (settings : Api.Settings) (settled : services.Settled settings.defaultFireMode)
    (request : Api.Request) (now : Int) (clock : Nat) :
    (Api.handle settings services request now clock).2.Settled settings.defaultFireMode := by
  unfold Api.handle
  split
  · exact settled
  · split
    · exact settled.carryOut settings request now clock _
    · exact settled

/-- What a synchronization answers and leaves of the services. -/
theorem sync_eq {mode : FireMode} (settled : services.Settled mode) (saved : Option SavedStates) :
    services.sync saved mode =
      (.ok { active := services.store.activeAlerts.length
             subscriptions := services.store.activeSubscriptions.length },
       { services with
         registry := (services.registry.pruneChanges services.registry.epoch).replaceSubscriptions
           services.store.activeSubscriptions
         journal := services.journal ++ {} }) := by
  unfold sync
  rw [if_pos settled.alerts, settled.agrees.syncAlerts saved]
  exact if_pos settled.subscriptions

theorem sync {mode : FireMode} (settled : services.Settled mode) (saved : Option SavedStates) :
    (services.sync saved mode).2.Settled mode := by
  rw [settled.sync_eq]
  refine ⟨settled.agrees.of_same rfl rfl ?_, settled.alerts, settled.subscriptions⟩
  refine settled.agrees.wellFormed.restrict rfl rfl (fun _ _ found => found) ?_
  intro id changed found
  replace found := (Table.get?_filter _ _ _).symm.trans found
  exact (Option.filter_eq_some_iff.1 found).1

theorem afterEvent (settings : Api.Settings) (settled : services.Settled settings.defaultFireMode)
    (event : ServiceEvent) :
    (services.afterEvent settings event).Settled settings.defaultFireMode := by
  cases event with
  | requested request now clock => exact settled.handle settings request now clock
  | evaluated place runtime =>
      exact ⟨settled.agrees.of_same rfl rfl (settled.agrees.wellFormed.setCell place runtime),
        settled.alerts, settled.subscriptions⟩
  | synced saved => exact settled.sync saved

theorem afterEvents (settings : Api.Settings) (settled : services.Settled settings.defaultFireMode)
    (events : List ServiceEvent) :
    (services.afterEvents settings events).Settled settings.defaultFireMode := by
  induction events generalizing services with
  | nil => exact settled
  | cons event rest induction => exact induction (settled.afterEvent settings event)

end Settled

/-- Whatever was asked for, and whatever was evaluated and synchronized in between: an alert is
registered exactly when a record of its id is stored as active, every active record is read as its
definition was, and what is registered is the same alert. So a synchronization adds, edits, removes,
skips and refuses nothing, and leaves every definition and every state as it is. -/
theorem sync_after_requests (settings : Api.Settings) (start : Services)
    (unregistered : start.registry = {}) (unstored : start.store.alerts = Table.empty)
    (alertsAtHand : start.works .loadActiveAlerts = true)
    (subscriptionsAtHand : start.works .loadActiveSubscriptions = true)
    (events : List ServiceEvent) :
    let mode := settings.defaultFireMode
    let reached := start.afterEvents settings events
    (∀ id, (∃ entry, reached.registry.get? id = some entry) ↔
      ∃ record, reached.store.alerts.get? id = some (record, true)) ∧
    (∀ id record, reached.store.alerts.get? id = some (record, true) →
      record.id = id ∧ ∃ alert entry,
        Definition.readAlert record.definition mode = .ok alert ∧
        record.readAlert mode = .ok alert ∧ alert.id = id ∧
        reached.registry.get? id = some entry ∧ (entry.alert == alert) = true) ∧
    ∀ saved,
      (reached.sync saved mode).1 = .ok
        { active := reached.store.activeAlerts.length
          added := 0, updated := 0, removed := 0, restored := 0, invalid := 0, skipped := 0
          subscriptions := reached.store.activeSubscriptions.length } ∧
      (reached.sync saved mode).2.registry.alerts = reached.registry.alerts ∧
      (reached.sync saved mode).2.registry.cells = reached.registry.cells ∧
      (reached.sync saved mode).2.store = reached.store := by
  intro mode reached
  have begun : start.Settled mode :=
    ⟨unregistered ▸ .empty unstored, alertsAtHand, subscriptionsAtHand⟩
  have settled : reached.Settled mode := begun.afterEvents settings events
  refine ⟨?_, ?_, ?_⟩
  · intro id
    constructor
    · rintro ⟨entry, found⟩
      exact settled.agrees.stored id entry found
    · rintro ⟨record, active⟩
      obtain ⟨-, -, alert, -, rfl, entry, found, -⟩ := settled.agrees.registered id record active
      exact ⟨entry, found⟩
  · intro id record active
    obtain ⟨sameId, normal, alert, read, rfl, entry, found, equal⟩ :=
      settled.agrees.registered id record active
    have again := AlertRecord.readAlert_of_read normal read
    rw [← sameId] at again
    exact ⟨sameId, alert, entry, read, again, rfl, found, equal⟩
  · intro saved
    rw [settled.sync_eq]
    exact ⟨rfl, rfl, rfl, rfl⟩

/-! Alerts whose ids are given under other names, as a number, between blanks, or beside a null. -/

def watchText (ids : String) : String :=
  "\x7b" ++ ids ++ ",\"symbol\":\"BTC\",\"timeframe\":\"1h\",\"conditions\":" ++
    "[\x7b\"operator\":\"gt\",\"value\":1\x7d]\x7d"

def posted (target body : String) : ServiceEvent :=
  .requested
    { method := "POST", target, headers := [("content-type", "application/json")], body } 0 0

def spelledEvents : List ServiceEvent :=
  [posted "/internal/alerts/activate" (watchText "\"alert_id\":\" a1 \""),
   posted "/internal/alerts/activate" (watchText "\"alertId\":7"),
   posted "/internal/alerts/activate" (watchText "\"id\":null,\"alert_id\":\"c\""),
   posted "/internal/alerts/activate" (watchText "\"id\":\" \""),
   .evaluated 0 { lastFiredAt := some 3600, triggerCount := 5 },
   posted "/internal/alerts/deactivate" "\x7b\"alert_id\":\"c\"\x7d"]

def spelledSettings : Api.Settings :=
  { defaultFireMode := .perBar, timeframes := [.hour], verifier := none, hasMetrics := false
    mac := fun _ _ => [], subscriptionId := fun _ => "" }

def spelledReached : Services :=
  ({ channel := { capacity := 1 } } : Services).afterEvents spelledSettings spelledEvents

theorem spelled_ids_stay_as_they_are :
    (spelledReached.sync none .perBar).1 = .ok { active := 2 } ∧
      ((spelledReached.sync none .perBar).2.registry.runtime? "a1").map
        (fun runtime => (runtime.lastFiredAt, runtime.triggerCount)) = some (some 3600, 5) ∧
      ((spelledReached.sync none .perBar).2.registry.get? "7").isSome = true := by
  obtain ⟨report, alerts, cells, -⟩ := (sync_after_requests spelledSettings
    { channel := { capacity := 1 } } rfl rfl rfl rfl spelledEvents).2.2 none
  have reached : ({ channel := { capacity := 1 } } : Services).afterEvents spelledSettings
      spelledEvents = spelledReached := rfl
  have mode : spelledSettings.defaultFireMode = .perBar := rfl
  rw [reached, mode] at report alerts cells
  have evaluated : spelledReached.store.activeAlerts.length = 2 ∧
      spelledReached.store.activeSubscriptions.length = 0 ∧
      (spelledReached.registry.runtime? "a1").map
        (fun runtime => (runtime.lastFiredAt, runtime.triggerCount)) = some (some 3600, 5) ∧
      (spelledReached.registry.get? "7").isSome = true := by decide +kernel
  obtain ⟨active, subscriptions, runtime, seven⟩ := evaluated
  rw [active, subscriptions] at report
  refine ⟨report, ?_, ?_⟩
  · simp only [Registry.runtime?, Registry.get?, Registry.cell, alerts, cells]
    exact runtime
  · simp only [Registry.get?, alerts]
    exact seven

end Services

end CandleAlerts
