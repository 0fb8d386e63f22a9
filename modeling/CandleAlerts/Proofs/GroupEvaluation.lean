import CandleAlerts.Evaluation.Group
import CandleAlerts.Proofs.RegistryLaws

/-!
What the evaluation of a group finds and what fires.

An alert whose logic triggers on a bar either fires or has fired on that bar before, as long as each
cell remembers nothing but what was found for the alert it belongs to. Every evaluation keeps that
up, whatever becomes of the alerts in between.
-/

namespace CandleAlerts

@[simp] theorem Journal.warnings_append (first second : Journal) :
    (first ++ second).warnings = first.warnings ++ second.warnings := rfl

@[simp] theorem Journal.warnings_count (journal : Journal) (counter : Counter) (times : Nat) :
    (journal.count counter times).warnings = journal.warnings := by
  unfold count
  split <;> rfl

/-- Whether an event tells that an alert was found triggered on a bar. -/
structure TriggerEvent.Tells (event : TriggerEvent) (pair : String × Int) : Prop where
  alertId : event.alertId = pair.1
  barTime : event.barTime = pair.2
  eventId : event.eventId = eventIdOf pair.1 pair.2

theorem TriggerEvent.Tells.pair_eq {fired : Fired} {pair : String × Int}
    (tells : fired.event.Tells pair) : fired.pair = pair :=
  Prod.ext tells.alertId tells.barTime

theorem AlertRuntime.trackMissing_lastFiredAt (runtime : AlertRuntime) (outcome : LogicOutcome) :
    (runtime.trackMissing outcome).2.lastFiredAt = runtime.lastFiredAt := by
  simp only [trackMissing]
  split <;> rfl

theorem AlertRuntime.mayFire_eq_false_iff (runtime : AlertRuntime) (barTime : Int) :
    runtime.mayFire barTime = false ↔ runtime.lastFiredAt = some barTime := by
  simp [mayFire]

/-- What evaluating an alert comes to: nothing triggers, or it fired on this bar before, or it
fires. -/
inductive AlertPass.Result (alert : Alert) (bar : Candle) (runtime : AlertRuntime)
    (pass : AlertPass) : Prop
  | quiet (triggered : pass.triggered = false) (event : pass.event = none)
      (remembered : pass.runtime.lastFiredAt = runtime.lastFiredAt)
  | suppressed (triggered : pass.triggered = true) (event : pass.event = none)
      (before : runtime.lastFiredAt = some bar.time)
      (remembered : pass.runtime.lastFiredAt = runtime.lastFiredAt)
  | fired (triggered : pass.triggered = true) (event : TriggerEvent)
      (sent : pass.event = some event)
      (tells : event.Tells (alert.id, bar.time))
      (remembered : pass.runtime.lastFiredAt = some bar.time)

theorem Alert.pass_triggered (alert : Alert) (snapshot : Snapshot) (bar : Candle) (now : Instant)
    (runtime : AlertRuntime) :
    (alert.pass snapshot bar now runtime).triggered =
      (alert.evaluate snapshot runtime.latches now).triggered := by
  unfold pass
  cases triggered : (alert.evaluate snapshot runtime.latches now).triggered with
  | false => simp [triggered]
  | true =>
      simp only [triggered, Bool.not_true, Bool.false_eq_true, if_false]
      split <;> rfl

theorem Alert.pass_result (alert : Alert) (snapshot : Snapshot) (bar : Candle) (now : Instant)
    (runtime : AlertRuntime) :
    AlertPass.Result alert bar runtime (alert.pass snapshot bar now runtime) := by
  have tracked := AlertRuntime.trackMissing_lastFiredAt
    { runtime with
      latches := (alert.evaluate snapshot runtime.latches now).latches
      lastEvaluatedAt := some now }
    (alert.evaluate snapshot runtime.latches now)
  simp only [pass]
  dsimp only at tracked ⊢
  split
  · exact .quiet rfl rfl tracked
  · split
    · exact .fired rfl _ rfl ⟨rfl, rfl, rfl⟩ rfl
    · rename_i fires
      rw [Bool.not_eq_true, AlertRuntime.mayFire_eq_false_iff] at fires
      exact .suppressed rfl rfl (tracked.symm.trans fires) tracked

/-! ## Members -/

/-- Whether the cells remember no bar but those on which the alerts they belong to were found
triggered. -/
def Registry.Remembers (registry : Registry) (owner : Nat → String) (found : List (String × Int)) :
    Prop :=
  ∀ place time, (registry.cell place).lastFiredAt = some time → (owner place, time) ∈ found

theorem Registry.Remembers.mono {registry : Registry} {owner : Nat → String}
    {found more : List (String × Int)} (remembers : registry.Remembers owner found)
    (subset : ∀ pair ∈ found, pair ∈ more) : registry.Remembers owner more :=
  fun place time fired => subset _ (remembers place time fired)

theorem Registry.Remembers.setCell {registry : Registry} {owner : Nat → String}
    {found : List (String × Int)} (remembers : registry.Remembers owner found) (place : Nat)
    {runtime : AlertRuntime}
    (written : ∀ time, runtime.lastFiredAt = some time → (owner place, time) ∈ found) :
    (registry.setCell place runtime).Remembers owner found := by
  intro other time fired
  by_cases same : place = other
  · subst same
    by_cases within : place < registry.cells.size
    · rw [registry.cell_setCell_self runtime within] at fired
      exact written time fired
    · rw [cell_of_size_le _ (by rw [size_setCell]; omega)] at fired
      cases fired
  · rw [registry.cell_setCell_of_ne runtime same] at fired
    exact remembers other time fired

/-- What is known of a pass over some members, `before` being what had been found before it. -/
structure MembersPass.Accounts (registry : Registry) (owner : Nat → String)
    (before : List (String × Int)) (pass : MembersPass) : Prop where
  alerts : pass.registry.alerts = registry.alerts
  size : pass.registry.cells.size = registry.cells.size
  remembers : pass.registry.Remembers owner (before ++ pass.found)
  fired : ∀ fired ∈ pass.fired, ∃ pair ∈ pass.found, fired.event.Tells pair
  covered : ∀ pair ∈ pass.found, pair ∈ before ∨ ∃ fired ∈ pass.fired, fired.event.Tells pair

theorem MembersPass.Accounts.visit {registry : Registry} {owner : Nat → String}
    {before : List (String × Int)} {pass : MembersPass}
    (accounts : MembersPass.Accounts registry owner before pass) (snapshot : Snapshot)
    (bar : Candle) (now : Instant) {member : Registered}
    (owned : owner member.cell = member.alert.id) :
    MembersPass.Accounts registry owner before (pass.visit snapshot bar now member) := by
  simp only [MembersPass.visit]
  have result := member.alert.pass_result snapshot bar now (pass.registry.cell member.cell)
  generalize member.alert.pass snapshot bar now (pass.registry.cell member.cell) = own at result ⊢
  have size : (pass.registry.setCell member.cell own.runtime).cells.size = registry.cells.size := by
    rw [Registry.size_setCell]
    exact accounts.size
  have wider (pair : String × Int) (known : pair ∈ before ++ pass.found)
      (last : List (String × Int)) :
      pair ∈ before ++ (pass.found ++ last) := by
    rw [← List.append_assoc]
    exact List.mem_append_left _ known
  cases result with
  | quiet triggered event remembered =>
      simp only [triggered, event, Bool.false_eq_true, if_false, List.append_nil, Option.map_none,
        Option.toList_none]
      refine ⟨accounts.alerts, size, ?_, accounts.fired, accounts.covered⟩
      apply accounts.remembers.setCell
      intro time fired
      rw [remembered] at fired
      exact accounts.remembers _ _ fired
  | suppressed triggered event firedBefore remembered =>
      simp only [triggered, event, if_true, List.append_nil, Option.map_none, Option.toList_none]
      have known : (member.alert.id, bar.time) ∈ before ++ pass.found := by
        rw [← owned]
        exact accounts.remembers _ _ firedBefore
      refine ⟨accounts.alerts, size, ?_, ?_, ?_⟩
      · apply (accounts.remembers.mono (fun pair known => wider pair known _)).setCell
        intro time fired
        rw [remembered] at fired
        exact wider _ (accounts.remembers _ _ fired) _
      · intro fired listed
        rcases accounts.fired fired listed with ⟨pair, pairFound, tells⟩
        exact ⟨pair, List.mem_append_left _ pairFound, tells⟩
      · intro pair pairFound
        rcases List.mem_append.1 pairFound with earlier | last
        · exact accounts.covered pair earlier
        · rw [List.mem_singleton] at last
          subst last
          rcases List.mem_append.1 known with old | new
          · exact .inl old
          · exact accounts.covered _ new
  | fired triggered event sent tells remembered =>
      simp only [triggered, sent, if_true, Option.map_some, Option.toList_some]
      refine ⟨accounts.alerts, size, ?_, ?_, ?_⟩
      · apply (accounts.remembers.mono (fun pair known => wider pair known _)).setCell
        intro time fired
        rw [remembered] at fired
        cases fired
        rw [owned]
        simp
      · intro fired listed
        rcases List.mem_append.1 listed with earlier | last
        · rcases accounts.fired fired earlier with ⟨pair, pairFound, told⟩
          exact ⟨pair, List.mem_append_left _ pairFound, told⟩
        · rw [List.mem_singleton] at last
          subst last
          exact ⟨_, by simp, tells⟩
      · intro pair pairFound
        rcases List.mem_append.1 pairFound with earlier | last
        · rcases accounts.covered pair earlier with old | ⟨fired, listed, told⟩
          · exact .inl old
          · exact .inr ⟨fired, List.mem_append_left _ listed, told⟩
        · rw [List.mem_singleton] at last
          subst last
          exact .inr ⟨⟨member.alert, event⟩, by simp, tells⟩

theorem MembersPass.Accounts.foldl {registry : Registry} {owner : Nat → String}
    {before : List (String × Int)} (snapshot : Snapshot) (bar : Candle) (now : Instant)
    (members : List Registered) (owned : ∀ member ∈ members, owner member.cell = member.alert.id)
    {pass : MembersPass} (accounts : MembersPass.Accounts registry owner before pass) :
    MembersPass.Accounts registry owner before
      (members.foldl (MembersPass.visit snapshot bar now) pass) := by
  induction members generalizing pass with
  | nil => exact accounts
  | cons member rest induction =>
      apply induction (fun other inRest => owned other (List.mem_cons_of_mem _ inRest))
      exact accounts.visit snapshot bar now (owned member List.mem_cons_self)

/-! ## Groups -/

/-- Groups are made up of registered alerts. -/
theorem Registry.get?_of_mem_groups {registry : Registry} {group : Group} {member : Registered}
    (listed : group ∈ registry.groups) (isMember : member ∈ group.members) :
    ∃ id, registry.get? id = some member := by
  simp only [Registry.groups] at listed
  rcases List.mem_map.1 listed with ⟨key, -, rfl⟩
  exact (Table.mem_values_iff _ _).1 (List.mem_filter.1 isMember).1

/-- The only alert there is makes up the only group. -/
theorem Registry.groups_of_single {registry : Registry} {id : String} {entry : Registered}
    (only : registry.alerts.entries = [(id, entry)]) :
    registry.groups = [{ key := GroupKey.of entry.alert, members := [entry] }] := by
  simp [groups, groupKeys, membersOf, Table.values, only, List.eraseDups_cons]

namespace Registry

variable {registry : Registry} {group : Group} {snapshot : Snapshot} {now : Instant}

theorem completed_of_allSurvive (survived : registry.allSurvive group snapshot now = true)
    (reached : Registered → Bool) :
    registry.completed group snapshot now reached = group.members := by
  rw [completed, if_pos survived]

theorem completed_sublist (registry : Registry) (group : Group) (snapshot : Snapshot)
    (now : Instant) (reached : Registered → Bool) :
    (registry.completed group snapshot now reached).Sublist group.members := by
  rw [completed]
  split
  · exact .refl _
  · exact List.filter_sublist

theorem mem_of_completed {reached : Registered → Bool} {member : Registered}
    (isCompleted : member ∈ registry.completed group snapshot now reached) :
    member ∈ group.members :=
  (completed_sublist registry group snapshot now reached).subset isCompleted

end Registry

/-- What a group works on: the snapshot of its own candles, and the latest of them. There is none
when the market did not give any. -/
def Group.view? (engine : IndicatorEngine) (group : Group) :
    Except MissingData (List Candle) → Option (Snapshot × Candle)
  | .error _ => none
  | .ok candles => candles.getLast?.map (fun bar =>
      ((Snapshot.ofGroup engine group.key (group.members.map Registered.alert) candles).1, bar))

theorem Group.mem_of_view {engine : IndicatorEngine} {group : Group} {candles : List Candle}
    {snapshot : Snapshot} {bar : Candle}
    (view : group.view? engine (.ok candles) = some (snapshot, bar)) : bar ∈ candles := by
  rcases Option.map_eq_some_iff.1 view with ⟨last, isLast, same⟩
  cases same
  exact List.mem_of_getLast? isLast

namespace GroupPass

/-- Whether a group was passed over for want of candles. -/
structure Skips (registry : Registry) (pass : GroupPass) : Prop where
  result : ∃ missing, pass.result = .error (.missing missing)
  registry : pass.registry = registry
  found : pass.found = []
  lost : pass.lost = []
  warnings : pass.journal.warnings = []

/-- Whether the evaluation of a group comes to what the pass over its members does. -/
structure Concludes (members : MembersPass) (survived : Bool) (pass : GroupPass) : Prop where
  result : pass.result = if survived then .ok members.fired else .error .crash
  registry : pass.registry = members.registry
  found : pass.found = if survived then members.found else []
  lost : pass.lost = if survived then [] else members.fired.map Fired.pair
  warnings : pass.journal.warnings = members.journal.warnings

theorem Concludes.conclude (members : MembersPass) (survived : Bool) :
    (members.conclude survived).Concludes members survived := by
  cases survived <;> exact ⟨rfl, rfl, rfl, rfl, rfl⟩

end GroupPass

namespace Registry

variable {engine : IndicatorEngine} {group : Group} {fetched : Except MissingData (List Candle)}
  {snapshot : Snapshot} {bar : Candle}

/-- A group that has nothing to work on is not evaluated. -/
theorem skips_of_no_view (registry : Registry) (noView : group.view? engine fetched = none)
    (now : Instant) (reached : Registered → Bool) :
    (registry.passGroup engine group fetched now reached).Skips registry := by
  cases fetched with
  | error missing => exact ⟨⟨missing, rfl⟩, rfl, rfl, rfl, rfl⟩
  | ok candles =>
      rw [Group.view?, Option.map_eq_none_iff] at noView
      simp only [passGroup, passCandles]
      rw [noView]
      exact ⟨⟨.empty, rfl⟩, rfl, rfl, rfl, by simp⟩

/-- A group that has something to work on is evaluated by the pass over its members. -/
theorem concludes_of_view (registry : Registry)
    (view : group.view? engine fetched = some (snapshot, bar)) (now : Instant)
    (reached : Registered → Bool) :
    (registry.passGroup engine group fetched now reached).Concludes
      (registry.passMembers (registry.completed group snapshot now reached) snapshot bar now)
      (registry.allSurvive group snapshot now) := by
  cases fetched with
  | error missing => cases view
  | ok candles =>
      rcases Option.map_eq_some_iff.1 view with ⟨last, isLast, same⟩
      cases same
      simp only [passGroup, passCandles]
      rw [isLast]
      have concludes := GroupPass.Concludes.conclude
        (registry.passMembers (registry.completed group
          (Snapshot.ofGroup engine group.key (group.members.map Registered.alert) candles).1 now
          reached)
          (Snapshot.ofGroup engine group.key (group.members.map Registered.alert) candles).1 bar now)
        (registry.allSurvive group
          (Snapshot.ofGroup engine group.key (group.members.map Registered.alert) candles).1 now)
      exact ⟨concludes.result, concludes.registry, concludes.found, concludes.lost,
        by simp [concludes.warnings]⟩

/-- A group that does not fail is evaluated as a whole. -/
theorem exists_view_of_ok {registry : Registry} {now : Instant} {reached : Registered → Bool}
    {fired : List Fired}
    (done : (registry.passGroup engine group fetched now reached).result = .ok fired) :
    ∃ snapshot bar, group.view? engine fetched = some (snapshot, bar) ∧
      registry.allSurvive group snapshot now = true ∧
      (registry.passGroup engine group fetched now reached).registry =
        (registry.passMembers group.members snapshot bar now).registry ∧
      fired = (registry.passMembers group.members snapshot bar now).fired := by
  cases view : group.view? engine fetched with
  | none =>
      obtain ⟨missing, failed⟩ := (registry.skips_of_no_view view now reached).result
      rw [failed] at done
      cases done
  | some found =>
      obtain ⟨snapshot, bar⟩ := found
      have concludes := registry.concludes_of_view view now reached
      cases survived : registry.allSurvive group snapshot now with
      | false =>
          rw [concludes.result, survived] at done
          cases done
      | true =>
          rw [completed_of_allSurvive survived] at concludes
          rw [concludes.result, survived] at done
          cases done
          exact ⟨snapshot, bar, rfl, survived, concludes.registry, rfl⟩

end Registry

def GroupPass.fired (pass : GroupPass) : List Fired :=
  match pass.result with
  | .ok fired => fired
  | .error _ => []

/-- What is known of the evaluation of a group, `before` being what had been found or lost before
it. -/
structure GroupPass.Accounts (registry : Registry) (owner : Nat → String)
    (before : List (String × Int)) (pass : GroupPass) : Prop where
  alerts : pass.registry.alerts = registry.alerts
  size : pass.registry.cells.size = registry.cells.size
  remembers : pass.registry.Remembers owner (before ++ (pass.found ++ pass.lost))
  failed : ∀ failure, pass.result = .error failure → pass.found = []
  fired : ∀ fired, pass.result = .ok fired →
    (∀ one ∈ fired, ∃ pair ∈ pass.found, one.event.Tells pair) ∧
    (∀ pair ∈ pass.found, pair ∈ before ∨ ∃ one ∈ fired, one.event.Tells pair)

theorem GroupPass.Accounts.of_skips {registry : Registry} {owner : Nat → String}
    {before : List (String × Int)} (remembers : registry.Remembers owner before)
    {pass : GroupPass} (skips : pass.Skips registry) :
    GroupPass.Accounts registry owner before pass where
  alerts := congrArg Registry.alerts skips.registry
  size := by rw [skips.registry]
  remembers := by
    rw [skips.registry, skips.found, skips.lost]
    simpa using remembers
  failed _ _ := skips.found
  fired fired done := by
    rcases skips.result with ⟨missing, failed⟩
    rw [failed] at done
    cases done

theorem MembersPass.Accounts.concludes {registry : Registry} {owner : Nat → String}
    {before : List (String × Int)} {members : MembersPass}
    (accounts : MembersPass.Accounts registry owner before members) {survived : Bool}
    {pass : GroupPass} (concludes : pass.Concludes members survived) :
    GroupPass.Accounts registry owner before pass := by
  rcases pass with ⟨result, after, found, lost, journal, computations⟩
  rcases concludes with ⟨sameResult, sameRegistry, sameFound, sameLost, -⟩
  dsimp only at sameResult sameRegistry sameFound sameLost
  subst sameResult sameRegistry sameFound sameLost
  cases survived with
  | true =>
      refine ⟨accounts.alerts, accounts.size, ?_, ?_, ?_⟩
      · simpa using accounts.remembers
      · intro failure failed
        cases failed
      · intro fired done
        cases done
        exact ⟨accounts.fired, accounts.covered⟩
  | false =>
      refine ⟨accounts.alerts, accounts.size, ?_, fun _ _ => rfl, ?_⟩
      · -- Whatever a cell remembers of this pass fired in it, and is lost.
        apply accounts.remembers.mono
        intro pair known
        rcases List.mem_append.1 known with earlier | found
        · exact List.mem_append_left _ earlier
        · rcases accounts.covered pair found with earlier | ⟨fired, listed, tells⟩
          · exact List.mem_append_left _ earlier
          · exact List.mem_append_right _ (tells.pair_eq ▸ List.mem_map_of_mem listed)
      · intro fired done
        cases done

section Group

variable {registry : Registry} {owner : Nat → String} {before : List (String × Int)}
  (remembers : registry.Remembers owner before) (engine : IndicatorEngine) {group : Group}
  (owned : ∀ member ∈ group.members, owner member.cell = member.alert.id)

include remembers owned

/-- Evaluating a group keeps what the cells remember true; whatever it finds was found or lost before
or fires now, and nothing else fires. -/
theorem Registry.passGroup_accounts (fetched : Except MissingData (List Candle)) (now : Instant)
    (reached : Registered → Bool) :
    GroupPass.Accounts registry owner before
      (registry.passGroup engine group fetched now reached) := by
  cases view : group.view? engine fetched with
  | none => exact .of_skips remembers (registry.skips_of_no_view view now reached)
  | some found =>
      obtain ⟨snapshot, bar⟩ := found
      have start : MembersPass.Accounts registry owner before { registry } :=
        ⟨rfl, rfl, by simpa using remembers, by simp, by simp⟩
      have accounts := start.foldl snapshot bar now
        (registry.completed group snapshot now reached)
        (fun member isCompleted => owned member (mem_of_completed isCompleted))
      exact accounts.concludes (registry.concludes_of_view view now reached)

end Group

/-! ## Bars that were fired on before -/

/-- An alert that has fired on a bar does not fire on it again. -/
theorem Alert.pass_event_eq_none (alert : Alert) (snapshot : Snapshot) {bar : Candle}
    (now : Instant) {runtime : AlertRuntime} (before : runtime.lastFiredAt = some bar.time) :
    (alert.pass snapshot bar now runtime).event = none := by
  have tracked := AlertRuntime.trackMissing_lastFiredAt
    { runtime with
      latches := (alert.evaluate snapshot runtime.latches now).latches
      lastEvaluatedAt := some now }
    (alert.evaluate snapshot runtime.latches now)
  simp only [pass]
  dsimp only at tracked ⊢
  split
  · rfl
  · rw [if_neg]
    rw [Bool.not_eq_true, AlertRuntime.mayFire_eq_false_iff, tracked]
    exact before

/-- What is known of a pass over members on a bar: a cell of the registry before it that remembers
the bar still does, and none but alerts whose cells did not have fired. -/
structure MembersPass.Fresh (registry : Registry) (members : List Registered) (bar : Candle)
    (pass : MembersPass) : Prop where
  remembers : ∀ place, (registry.cell place).lastFiredAt = some bar.time →
    (pass.registry.cell place).lastFiredAt = some bar.time
  fired : ∀ fired ∈ pass.fired, ∃ member ∈ members, fired.alert = member.alert ∧
    fired.event.barTime = bar.time ∧ (registry.cell member.cell).lastFiredAt ≠ some bar.time

namespace MembersPass.Fresh

variable {registry : Registry} {members : List Registered} {bar : Candle} {pass : MembersPass}

theorem visit (fresh : Fresh registry members bar pass) (snapshot : Snapshot) (now : Instant)
    {member : Registered} (among : member ∈ members) :
    Fresh registry members bar (pass.visit snapshot bar now member) := by
  have result := member.alert.pass_result snapshot bar now (pass.registry.cell member.cell)
  have silent : (pass.registry.cell member.cell).lastFiredAt = some bar.time →
      (member.alert.pass snapshot bar now (pass.registry.cell member.cell)).event = none :=
    member.alert.pass_event_eq_none snapshot now
  simp only [MembersPass.visit]
  generalize member.alert.pass snapshot bar now (pass.registry.cell member.cell) = own
    at result silent ⊢
  constructor
  · intro place before
    have still := fresh.remembers place before
    by_cases same : member.cell = place
    · subst same
      by_cases within : member.cell < pass.registry.cells.size
      · rw [Registry.cell_setCell_self _ _ within]
        cases result with
        | quiet triggered event remembered => rw [remembered, still]
        | suppressed triggered event firedBefore remembered => rw [remembered, still]
        | fired triggered event sent tells remembered => exact remembered
      · rw [Registry.cell_of_size_le _ (by omega)] at still
        cases still
    · rw [Registry.cell_setCell_of_ne _ _ same]
      exact still
  · intro fired listed
    rcases List.mem_append.1 listed with earlier | last
    · exact fresh.fired fired earlier
    · cases result with
      | quiet triggered event remembered => simp [event] at last
      | suppressed triggered event firedBefore remembered => simp [event] at last
      | fired triggered event sent tells remembered =>
          simp only [sent, Option.map_some, Option.toList_some, List.mem_singleton] at last
          subst last
          refine ⟨member, among, rfl, tells.barTime, ?_⟩
          intro before
          have unsent := silent (fresh.remembers member.cell before)
          rw [sent] at unsent
          cases unsent

theorem foldl (fresh : Fresh registry members bar pass) (snapshot : Snapshot) (now : Instant)
    (visited : List Registered) (among : ∀ member ∈ visited, member ∈ members) :
    Fresh registry members bar (visited.foldl (MembersPass.visit snapshot bar now) pass) := by
  induction visited generalizing pass with
  | nil => exact fresh
  | cons member rest induction =>
      exact induction (fresh.visit snapshot now (among member List.mem_cons_self))
        (fun other inRest => among other (List.mem_cons_of_mem _ inRest))

end MembersPass.Fresh

/-- No alert of a group fires on a bar that its cell remembers. -/
theorem Registry.passGroup_fresh (registry : Registry) (engine : IndicatorEngine) (group : Group)
    (fetched : Except MissingData (List Candle)) (now : Instant) (reached : Registered → Bool)
    {fired : List Fired}
    (done : (registry.passGroup engine group fetched now reached).result = .ok fired) :
    ∀ one ∈ fired, ∃ member ∈ group.members, one.alert = member.alert ∧
      (registry.cell member.cell).lastFiredAt ≠ some one.event.barTime := by
  obtain ⟨snapshot, bar, -, -, -, rfl⟩ := exists_view_of_ok done
  have start : MembersPass.Fresh registry group.members bar { registry } :=
    ⟨fun _ before => before, by simp⟩
  have fresh := start.foldl snapshot now group.members (fun _ among => among)
  intro one listed
  rcases fresh.fired one listed with ⟨member, among, same, barTime, unremembered⟩
  exact ⟨member, among, same, barTime ▸ unremembered⟩

end CandleAlerts
