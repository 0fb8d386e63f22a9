import CandleAlerts.Proofs.ConcurrentEdits
import CandleAlerts.Proofs.GroupSnapshotLaws
import CandleAlerts.Simulation.Basic

/-!
Groups have nothing to do with each other.

Every registered alert is in one group, the one of its own symbol and timeframe, and has a cell of
its own. So what the evaluation of a group makes of an alert depends on the candles of the group and
on the alert's own state, and nothing else changes.
-/

namespace CandleAlerts

/-! ## Every alert in one group -/

section Sorting

variable {α : Type u} {κ : Type v} [DecidableEq κ] (key : α → κ)

/-- One more value goes where its key is. -/
theorem flatMap_filter_cons_perm {keys : List κ} (distinct : keys.Nodup) {first : α}
    (listed : key first ∈ keys) (rest : List α) :
    (keys.flatMap (fun wanted => (first :: rest).filter (fun value => key value == wanted))).Perm
      (first :: keys.flatMap (fun wanted => rest.filter (fun value => key value == wanted))) := by
  induction keys with
  | nil => cases listed
  | cons wanted others induction =>
      rcases List.nodup_cons.1 distinct with ⟨fresh, distinct⟩
      simp only [List.flatMap_cons]
      rcases List.mem_cons.1 listed with same | later
      · have elsewhere : others.flatMap (fun wanted =>
              (first :: rest).filter (fun value => key value == wanted)) =
            others.flatMap (fun wanted => rest.filter (fun value => key value == wanted)) := by
          apply List.flatMap_congr
          intro other among
          have different : key first ≠ other := fun equal => fresh (same ▸ equal ▸ among)
          rw [List.filter_cons_of_neg (by simpa using different)]
        rw [elsewhere, List.filter_cons_of_pos (by simpa using same), List.cons_append]
      · have different : key first ≠ wanted := fun equal => fresh (equal ▸ later)
        rw [List.filter_cons_of_neg (by simpa using different)]
        exact ((induction distinct later).append_left _).trans List.perm_middle

/-- Values that are sorted out by distinct keys stay the same values. -/
theorem flatMap_filter_perm {keys : List κ} (distinct : keys.Nodup) (values : List α)
    (covered : ∀ value ∈ values, key value ∈ keys) :
    (keys.flatMap (fun wanted => values.filter (fun value => key value == wanted))).Perm values := by
  induction values with
  | nil => simp
  | cons first rest induction =>
      have later := induction (fun value inRest => covered value (List.mem_cons_of_mem _ inRest))
      exact (flatMap_filter_cons_perm key distinct (covered first List.mem_cons_self) rest).trans
        (later.cons first)

end Sorting

namespace Registry

variable (registry : Registry)

theorem nodup_groupKeys : registry.groupKeys.Nodup :=
  (List.mergeSort_perm _ _).nodup_iff.2 (nodup_eraseDups _)

theorem mem_groupKeys {entry : Registered} (listed : entry ∈ registry.alerts.values) :
    GroupKey.of entry.alert ∈ registry.groupKeys := by
  rw [groupKeys, List.mem_mergeSort, List.mem_eraseDups]
  exact List.mem_map_of_mem listed

/-- The members of the groups are the registered alerts, each once. -/
theorem members_perm : (registry.groups.flatMap Group.members).Perm registry.alerts.values := by
  simp only [groups, List.flatMap_map]
  exact flatMap_filter_perm (fun entry : Registered => GroupKey.of entry.alert)
    registry.nodup_groupKeys registry.alerts.values (fun _ listed => registry.mem_groupKeys listed)

variable {registry}

/-- A group is told by its key, and its members have that key. -/
theorem mem_groups_iff {group : Group} : group ∈ registry.groups ↔
    group.key ∈ registry.groupKeys ∧ group.members = registry.membersOf group.key := by
  simp only [groups, List.mem_map]
  constructor
  · rintro ⟨key, listed, rfl⟩
    exact ⟨listed, rfl⟩
  · rintro ⟨listed, members⟩
    exact ⟨group.key, listed, by rw [← members]⟩

theorem key_of_member {group : Group} (listed : group ∈ registry.groups) {member : Registered}
    (isMember : member ∈ group.members) : GroupKey.of member.alert = group.key := by
  rw [(mem_groups_iff.1 listed).2] at isMember
  exact eq_of_beq (List.mem_filter.1 isMember).2

theorem group_eq_of_key {first second : Group} (firstListed : first ∈ registry.groups)
    (secondListed : second ∈ registry.groups) (same : first.key = second.key) :
    first = second := by
  rcases first with ⟨key, members⟩
  rcases second with ⟨_, others⟩
  dsimp only at same
  subst same
  have own : members = registry.membersOf key := (mem_groups_iff.1 firstListed).2
  have other : others = registry.membersOf key := (mem_groups_iff.1 secondListed).2
  rw [own, other]

/-- Every registered alert is in exactly one group, which has its symbol and timeframe. -/
theorem exists_unique_group {id : String} {entry : Registered}
    (registered : registry.get? id = some entry) :
    ∃ group ∈ registry.groups, group.key = GroupKey.of entry.alert ∧ entry ∈ group.members ∧
      ∀ other ∈ registry.groups, entry ∈ other.members → other = group := by
  have listed : entry ∈ registry.alerts.values := (Table.mem_values_iff _ _).2 ⟨id, registered⟩
  refine ⟨{ key := GroupKey.of entry.alert, members := registry.membersOf (GroupKey.of entry.alert) },
    mem_groups_iff.2 ⟨registry.mem_groupKeys listed, rfl⟩, rfl, ?_, ?_⟩
  · exact List.mem_filter.2 ⟨listed, beq_self_eq_true _⟩
  · intro other otherListed isMember
    exact group_eq_of_key otherListed (mem_groups_iff.2 ⟨registry.mem_groupKeys listed, rfl⟩)
      (key_of_member otherListed isMember).symm

/-! ## Cells -/

theorem nodup_cells (apart : registry.Apart) :
    (registry.alerts.values.map Registered.cell).Nodup := by
  simp only [Table.values, List.map_map]
  rw [List.nodup_iff_pairwise_ne, List.pairwise_map]
  refine registry.alerts.ordered.imp_of_mem ?_
  intro first second firstListed secondListed before same
  have sameId := apart first.1 second.1 first.2 second.2
    ((registry.alerts.mem_entries_iff _ _).1 firstListed)
    ((registry.alerts.mem_entries_iff _ _).1 secondListed) same
  rw [sameId] at before
  exact absurd before (String.lt_irrefl _)

theorem nodup_cells_of_group (apart : registry.Apart) {group : Group}
    (listed : group ∈ registry.groups) : (group.members.map Registered.cell).Nodup := by
  rw [(mem_groups_iff.1 listed).2]
  exact (nodup_cells apart).sublist (List.filter_sublist.map _)

/-- Members of groups that have the same cell are in the same group. -/
theorem group_eq_of_cell (apart : registry.Apart) {first second : Group}
    (firstListed : first ∈ registry.groups) (secondListed : second ∈ registry.groups)
    {one other : Registered} (isFirst : one ∈ first.members) (isSecond : other ∈ second.members)
    (same : one.cell = other.cell) : first = second := by
  rcases get?_of_mem_groups firstListed isFirst with ⟨firstId, firstFound⟩
  rcases get?_of_mem_groups secondListed isSecond with ⟨secondId, secondFound⟩
  have sameId := apart firstId secondId one other firstFound secondFound same
  rw [sameId, secondFound] at firstFound
  cases firstFound
  apply group_eq_of_key firstListed secondListed
  rw [← key_of_member firstListed isFirst, key_of_member secondListed isSecond]

theorem cell_lt_of_group (wellFormed : registry.WellFormed) {group : Group}
    (listed : group ∈ registry.groups) {member : Registered} (isMember : member ∈ group.members) :
    member.cell < registry.cells.size := by
  rcases get?_of_mem_groups listed isMember with ⟨id, found⟩
  exact wellFormed.cells id member found

end Registry

/-! ## Members by themselves -/

/-- The events of some members on a bar, each by its own cell. -/
def firedBy (members : List Registered) (registry : Registry) (snapshot : Snapshot) (bar : Candle)
    (now : Instant) : List Fired :=
  members.flatMap (fun member =>
    ((member.alert.pass snapshot bar now (registry.cell member.cell)).event.map
      (fun event => ⟨member.alert, event⟩)).toList)

theorem firedBy_congr {members : List Registered} {first second : Registry}
    (same : ∀ member ∈ members, first.cell member.cell = second.cell member.cell)
    (snapshot : Snapshot) (bar : Candle) (now : Instant) :
    firedBy members first snapshot bar now = firedBy members second snapshot bar now := by
  apply List.flatMap_congr
  intro member among
  rw [same member among]

/-- What the evaluation of some members comes to when each goes by its own cell. -/
structure Registry.PassedBy (registry : Registry) (members : List Registered) (snapshot : Snapshot)
    (bar : Candle) (now : Instant) (after : Registry) : Prop where
  alerts : after.alerts = registry.alerts
  size : after.cells.size = registry.cells.size
  cells : ∀ member ∈ members, after.cell member.cell =
    (member.alert.pass snapshot bar now (registry.cell member.cell)).runtime
  others : ∀ place, (∀ member ∈ members, member.cell ≠ place) →
    after.cell place = registry.cell place

theorem MembersPass.foldl_visit_apart (snapshot : Snapshot) (bar : Candle) (now : Instant)
    {members : List Registered} (distinct : (members.map Registered.cell).Nodup)
    (sofar : MembersPass) (within : ∀ member ∈ members, member.cell < sofar.registry.cells.size) :
    sofar.registry.PassedBy members snapshot bar now
        (members.foldl (visit snapshot bar now) sofar).registry ∧
      (members.foldl (visit snapshot bar now) sofar).fired =
        sofar.fired ++ firedBy members sofar.registry snapshot bar now := by
  induction members generalizing sofar with
  | nil => exact ⟨⟨rfl, rfl, by simp, fun _ _ => rfl⟩, (List.append_nil _).symm⟩
  | cons first rest induction =>
      rw [List.map_cons, List.nodup_cons] at distinct
      rcases distinct with ⟨fresh, distinct⟩
      have elsewhere : ∀ member ∈ rest, first.cell ≠ member.cell :=
        fun member inRest same => fresh (same ▸ List.mem_map_of_mem inRest)
      have kept : ∀ member ∈ rest, (sofar.visit snapshot bar now first).registry.cell member.cell =
          sofar.registry.cell member.cell :=
        fun member inRest => sofar.registry.cell_setCell_of_ne _ (elsewhere member inRest)
      rcases induction distinct (sofar.visit snapshot bar now first) (by
        intro member inRest
        simp only [visit, Registry.size_setCell]
        exact within member (List.mem_cons_of_mem _ inRest)) with ⟨passed, fired⟩
      refine ⟨⟨passed.alerts, ?_, ?_, ?_⟩, ?_⟩
      · rw [List.foldl_cons, passed.size]
        simp only [visit, Registry.size_setCell]
      · intro member among
        rcases List.mem_cons.1 among with rfl | inRest
        · rw [List.foldl_cons, passed.others member.cell (fun other inRest =>
            (elsewhere other inRest).symm)]
          exact sofar.registry.cell_setCell_self _ (within member List.mem_cons_self)
        · rw [List.foldl_cons, passed.cells member inRest, kept member inRest]
      · intro place absent
        rw [List.foldl_cons, passed.others place (fun member inRest =>
          absent member (List.mem_cons_of_mem _ inRest))]
        exact sofar.registry.cell_setCell_of_ne _ (absent first List.mem_cons_self)
      · rw [List.foldl_cons, fired, firedBy_congr kept]
        simp only [visit, firedBy, List.flatMap_cons, List.append_assoc]

/-! ## Groups by themselves -/

namespace Registry

variable {engine : IndicatorEngine} {group : Group} {fetched : Except MissingData (List Candle)}

/-- Whether evaluations crash goes by the cells of their own alerts. -/
theorem survives_congr {first second : Registry} {member : Registered}
    (same : first.cell member.cell = second.cell member.cell) (snapshot : Snapshot)
    (now : Instant) : first.survives snapshot now member = second.survives snapshot now member := by
  rw [survives, survives, same]

theorem allSurvive_congr {first second : Registry}
    (same : ∀ member ∈ group.members, first.cell member.cell = second.cell member.cell)
    (snapshot : Snapshot) (now : Instant) :
    first.allSurvive group snapshot now = second.allSurvive group snapshot now := by
  rw [allSurvive, allSurvive, Bool.eq_iff_iff, List.all_eq_true, List.all_eq_true]
  exact forall₂_congr (fun member isMember => by rw [survives_congr (same member isMember)])

theorem completed_congr {first second : Registry}
    (same : ∀ member ∈ group.members, first.cell member.cell = second.cell member.cell)
    (snapshot : Snapshot) (now : Instant) (reached : Registered → Bool) :
    first.completed group snapshot now reached = second.completed group snapshot now reached := by
  rw [completed, completed, allSurvive_congr same]
  split
  · rfl
  · apply List.filter_congr
    intro member isMember
    rw [survives_congr (same member isMember)]

/-- A group that has something to work on is evaluated, each of the members that are completed by
its own cell. -/
theorem passGroup_of_view {registry : Registry}
    (distinct : (group.members.map Registered.cell).Nodup)
    (within : ∀ member ∈ group.members, member.cell < registry.cells.size)
    {snapshot : Snapshot} {bar : Candle} (view : group.view? engine fetched = some (snapshot, bar))
    (now : Instant) (reached : Registered → Bool) :
    let completed := registry.completed group snapshot now reached
    (registry.passGroup engine group fetched now reached).result =
        (if registry.allSurvive group snapshot now then
          .ok (firedBy group.members registry snapshot bar now)
        else .error .crash) ∧
      registry.PassedBy completed snapshot bar now
        (registry.passGroup engine group fetched now reached).registry := by
  intro completed
  have sublist : completed.Sublist group.members :=
    registry.completed_sublist group snapshot now reached
  rcases MembersPass.foldl_visit_apart snapshot bar now (distinct.sublist (sublist.map _))
    { registry } (fun member among => within member (sublist.subset among)) with ⟨passed, fired⟩
  have concludes := registry.concludes_of_view view now reached
  constructor
  · rw [concludes.result]
    split
    · rename_i survived
      rw [passMembers, fired]
      simp [completed, completed_of_allSurvive survived]
    · rfl
  · rw [concludes.registry]
    exact passed

end Registry

/-! ## Counts -/

/-- How often an alert fired more than before. -/
def AlertRuntime.firings (before after : AlertRuntime) : Nat :=
  (after.triggerCount - before.triggerCount).toNat

theorem AlertRuntime.firings_self (runtime : AlertRuntime) : runtime.firings runtime = 0 := by
  simp [firings]

/-- An alert counts its own events. -/
theorem Alert.pass_firings (alert : Alert) (snapshot : Snapshot) (bar : Candle) (now : Instant)
    (runtime : AlertRuntime) :
    runtime.firings (alert.pass snapshot bar now runtime).runtime =
      (alert.pass snapshot bar now runtime).event.toList.length := by
  rcases alert.pass_firing snapshot bar now runtime with
    ⟨silent, count, -⟩ | ⟨event, sent, -, -, count, -⟩
  · rw [silent, AlertRuntime.firings, count]
    simp
  · rw [sent, AlertRuntime.firings, count, UInt64.add_comm, UInt64.add_sub_cancel]
    rfl

/-- Together, the members of a group count its events. -/
theorem sum_firings (members : List Registered) (registry : Registry) (snapshot : Snapshot)
    (bar : Candle) (now : Instant) :
    (members.map (fun member => (registry.cell member.cell).firings
        (member.alert.pass snapshot bar now (registry.cell member.cell)).runtime)).sum =
      (firedBy members registry snapshot bar now).length := by
  rw [firedBy, List.length_flatMap]
  congr 1
  apply List.map_congr_left
  intro member _
  rw [member.alert.pass_firings]
  cases (member.alert.pass snapshot bar now (registry.cell member.cell)).event <;> rfl

end CandleAlerts
