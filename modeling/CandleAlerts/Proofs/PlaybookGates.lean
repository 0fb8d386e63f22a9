import CandleAlerts.Proofs.PlaybookPass
import Mathlib.Data.List.Induction

/-!
When a playbook triggers.

The entries are joined from the left, without precedence, in the order in which they are visited.
Whether the joined value is true can be read off the entries without a fold: some entry that counts
carries it, being the first or joined by `OR`, and no entry after that one undoes it. The order
itself is the only one that goes by priority and keeps entries of one priority as they were given.
-/

namespace CandleAlerts

namespace Playbook

/-! ## The order of visits -/

/-- An order of the enabled entries: by priority, and within one priority as they were given. -/
structure IsVisitingOrder (playbook : Playbook) (ordered : List PlaybookEntry) : Prop where
  byPriority : ordered.Pairwise (fun first second => first.priority ≤ second.priority)
  asGiven : ∀ priority : Int,
    ordered.filter (fun entry => entry.priority = priority) =
      (playbook.entries.filter PlaybookEntry.enabled).filter
        (fun entry => entry.priority = priority)

namespace IsVisitingOrder

variable {playbook : Playbook} {ordered : List PlaybookEntry}

theorem mem_iff (order : playbook.IsVisitingOrder ordered) (entry : PlaybookEntry) :
    entry ∈ ordered ↔ entry ∈ playbook.entries ∧ entry.enabled = true := by
  have sameClass := congrArg (entry ∈ ·) (order.asGiven entry.priority)
  simpa using sameClass

end IsVisitingOrder

theorem priority_head_le {first entry : PlaybookEntry} {rest : List PlaybookEntry}
    (sorted : (first :: rest).Pairwise (fun first second => first.priority ≤ second.priority))
    (listed : entry ∈ first :: rest) : first.priority ≤ entry.priority := by
  rcases List.mem_cons.1 listed with rfl | later
  · exact Int.le_refl _
  · exact (List.pairwise_cons.1 sorted).1 entry later

/-- Entries sorted by priority are determined by what stands at each priority. -/
theorem eq_of_sorted {ordered other : List PlaybookEntry}
    (sorted : ordered.Pairwise (fun first second => first.priority ≤ second.priority))
    (otherSorted : other.Pairwise (fun first second => first.priority ≤ second.priority))
    (same : ∀ priority : Int, ordered.filter (fun entry => entry.priority = priority) =
      other.filter (fun entry => entry.priority = priority)) : ordered = other := by
  induction ordered generalizing other with
  | nil =>
      cases other with
      | nil => rfl
      | cons head tail => simpa using same head.priority
  | cons head tail induction =>
      cases other with
      | nil => simpa using same head.priority
      | cons otherHead otherTail =>
          -- each head stands in the other list, so neither priority is before the other
          have headListed : head ∈ otherHead :: otherTail := by
            have listed := congrArg (head ∈ ·) (same head.priority)
            simpa using listed
          have otherListed : otherHead ∈ head :: tail := by
            have listed := congrArg (otherHead ∈ ·) (same otherHead.priority)
            simpa using listed
          have samePriority : otherHead.priority = head.priority :=
            Int.le_antisymm (priority_head_le otherSorted headListed)
              (priority_head_le sorted otherListed)
          have sameHead : head = otherHead := by
            have firstOfClass := same head.priority
            simp only [List.filter_cons, samePriority, decide_true, if_true] at firstOfClass
            exact (List.cons.inj firstOfClass).1
          subst sameHead
          congr 1
          refine induction (List.pairwise_cons.1 sorted).2 (List.pairwise_cons.1 otherSorted).2
            (fun priority => ?_)
          have sameClass := same priority
          rw [List.filter_cons, List.filter_cons] at sameClass
          split at sameClass
          · exact (List.cons.inj sameClass).2
          · exact sameClass

/-- The order in which the entries are visited is a visiting order. -/
theorem enabledInOrder_isVisitingOrder (playbook : Playbook) :
    playbook.IsVisitingOrder playbook.enabledInOrder := by
  have transitive : ∀ first second third : PlaybookEntry,
      decide (first.priority ≤ second.priority) = true →
        decide (second.priority ≤ third.priority) = true →
          decide (first.priority ≤ third.priority) = true := by
    intro first second third before after
    simp only [decide_eq_true_eq] at *
    omega
  have total : ∀ first second : PlaybookEntry,
      (decide (first.priority ≤ second.priority) || decide (second.priority ≤ first.priority)) =
        true := by
    intro first second
    simp only [Bool.or_eq_true, decide_eq_true_eq]
    omega
  constructor
  · exact (List.pairwise_mergeSort transitive total _).imp (by simp)
  · intro priority
    let ofPriority (entry : PlaybookEntry) : Bool := entry.priority = priority
    let enabled := playbook.entries.filter PlaybookEntry.enabled
    change playbook.enabledInOrder.filter ofPriority = enabled.filter ofPriority
    have permuted : playbook.enabledInOrder.Perm enabled := List.mergeSort_perm _ _
    have level : (enabled.filter ofPriority).Pairwise
        (fun first second => decide (first.priority ≤ second.priority) = true) := by
      refine List.pairwise_of_forall_mem_list (fun first firstMember second secondMember => ?_)
      have firstAt : first.priority = priority := of_decide_eq_true (List.mem_filter.1 firstMember).2
      have secondAt : second.priority = priority :=
        of_decide_eq_true (List.mem_filter.1 secondMember).2
      exact decide_eq_true (by omega)
    have kept : (enabled.filter ofPriority).Sublist playbook.enabledInOrder :=
      List.sublist_mergeSort transitive total level List.filter_sublist
    have keptOfPriority := kept.filter ofPriority
    simp only [List.filter_filter, Bool.and_self] at keptOfPriority
    exact (keptOfPriority.eq_of_length (permuted.filter ofPriority).length_eq.symm).symm

/-- There is one visiting order. -/
theorem IsVisitingOrder.eq_enabledInOrder {playbook : Playbook} {ordered : List PlaybookEntry}
    (order : playbook.IsVisitingOrder ordered) : ordered = playbook.enabledInOrder := by
  have visited := playbook.enabledInOrder_isVisitingOrder
  exact eq_of_sorted order.byPriority visited.byPriority
    (fun priority => (order.asGiven priority).trans (visited.asGiven priority).symm)

end Playbook

/-! ## The joined value -/

/-- Some entry that counts carries the joined value: it is the first or joined by `OR`, and every
entry after it that is joined by `AND` counts as well. -/
def Carried (counts : PlaybookEntry → Bool) (entries : List PlaybookEntry) : Prop :=
  ∃ before entry after, entries = before ++ entry :: after ∧ counts entry = true ∧
    (before = [] ∨ entry.connector = .any) ∧
    ∀ later ∈ after, later.connector = .all → counts later = true

namespace Carried

variable {counts : PlaybookEntry → Bool}

theorem mono {more : PlaybookEntry → Bool} {entries : List PlaybookEntry}
    (carried : Carried counts entries)
    (grows : ∀ entry ∈ entries, counts entry = true → more entry = true) :
    Carried more entries := by
  rcases carried with ⟨before, entry, after, rfl, counted, leads, kept⟩
  refine ⟨before, entry, after, rfl, grows entry (by simp) counted, leads, ?_⟩
  intro later member joinedByAnd
  exact grows later (by simp [member]) (kept later member joinedByAnd)

theorem exists_counted {entries : List PlaybookEntry} (carried : Carried counts entries) :
    ∃ entry ∈ entries, counts entry = true := by
  rcases carried with ⟨before, entry, after, rfl, counted, -⟩
  exact ⟨entry, by simp, counted⟩

/-- One more entry carries the value itself, or leaves it to those before. -/
theorem concat_iff (entries : List PlaybookEntry) (last : PlaybookEntry) :
    Carried counts (entries ++ [last]) ↔
      (counts last = true ∧ (entries = [] ∨ last.connector = .any)) ∨
        (Carried counts entries ∧ (last.connector = .all → counts last = true)) := by
  constructor
  · rintro ⟨before, entry, after, split, counted, leads, kept⟩
    rcases List.eq_nil_or_concat after with rfl | ⟨between, final, rfl⟩
    · obtain ⟨rfl, rfl⟩ := List.append_singleton_inj.1 split
      exact .inl ⟨counted, leads⟩
    · rw [List.concat_eq_append, ← List.cons_append, ← List.append_assoc] at split
      obtain ⟨rfl, rfl⟩ := List.append_singleton_inj.1 split
      refine .inr ⟨⟨before, entry, between, rfl, counted, leads, ?_⟩, kept last (by simp)⟩
      exact fun later member => kept later (by simp [member])
  · rintro (⟨counted, leads⟩ | ⟨⟨before, entry, after, rfl, counted, leads, kept⟩, lastKept⟩)
    · exact ⟨entries, last, [], rfl, counted, leads, by simp⟩
    · refine ⟨before, entry, after ++ [last], by simp, counted, leads, ?_⟩
      intro later member joinedByAnd
      rcases List.mem_append.1 member with earlier | here
      · exact kept later earlier joinedByAnd
      · obtain rfl := List.mem_singleton.1 here
        exact lastKept joinedByAnd

end Carried

namespace PlaybookPass

variable (answer : Condition → Evaluation) (latches : Latches) (moment : PassMoment)

theorem visit_joined (pass : PlaybookPass) (entry : PlaybookEntry) :
    (pass.visit answer latches moment entry).joined =
      some (entry.join (entry.counts answer latches moment) pass.joined) := by
  unfold visit PlaybookEntry.counts
  cases entry.heldBy? latches moment with
  | some latch => rfl
  | none => simp

theorem joined_foldl_visit_eq_none_iff (entries : List PlaybookEntry) :
    (entries.foldl (visit answer latches moment) {}).joined = none ↔ entries = [] := by
  rcases List.eq_nil_or_concat entries with rfl | ⟨before, last, rfl⟩
  · simp
  · simp [visit_joined]

/-- The joined value of a list of entries is true exactly when some entry carries it. -/
theorem joined_foldl_visit_iff (entries : List PlaybookEntry) :
    (entries.foldl (visit answer latches moment) {}).joined.getD false = true ↔
      Carried (fun entry => entry.counts answer latches moment) entries := by
  induction entries using List.reverseRecOn with
  | nil => simp [Carried]
  | append_singleton before last induction =>
      have first := joined_foldl_visit_eq_none_iff answer latches moment before
      rw [List.foldl_concat, visit_joined, Carried.concat_iff, ← induction, Option.getD_some,
        ← first]
      cases (before.foldl (visit answer latches moment) {}).joined with
      | none => simp [PlaybookEntry.join]
      | some joined =>
          cases connector : last.connector with
          | all => simp [PlaybookEntry.join, connector]
          | any => simp [PlaybookEntry.join, connector, or_comm]

/-- The connector of an entry that is visited first is not looked at. -/
theorem visit_first (entry : PlaybookEntry) (connector : Logic) :
    visit answer latches moment {} { entry with connector } =
      visit answer latches moment {} entry := by
  rfl

end PlaybookPass

namespace Playbook

/-- Whether an entry counts as satisfied in a pass over a snapshot. -/
def countsIn (snapshot : Snapshot) (latches : Latches) (now : Instant) (entry : PlaybookEntry) :
    Bool :=
  entry.counts snapshot.evaluate latches (.of snapshot now)

/-- The entry among others that is visited first: none before it comes as early, and none after it
earlier. -/
structure IsVisitedFirst (before : List PlaybookEntry) (first : PlaybookEntry)
    (after : List PlaybookEntry) : Prop where
  enabled : first.enabled = true
  before_later : ∀ entry ∈ before, entry.enabled = true → first.priority < entry.priority
  after_not_earlier : ∀ entry ∈ after, entry.enabled = true → first.priority ≤ entry.priority

/-- The entry visited first comes before the others in their own order. -/
theorem IsVisitedFirst.order {before after : List PlaybookEntry} {first : PlaybookEntry}
    (leads : IsVisitedFirst before first after) (gate : Gate) :
    IsVisitingOrder ⟨before ++ first :: after, gate⟩
      (first :: (Playbook.mk (before ++ after) gate).enabledInOrder) := by
  have others := enabledInOrder_isVisitingOrder ⟨before ++ after, gate⟩
  constructor
  · refine List.pairwise_cons.2 ⟨?_, others.byPriority⟩
    intro entry listed
    obtain ⟨given, enabled⟩ := (others.mem_iff entry).1 listed
    rcases List.mem_append.1 given with earlier | later
    · exact Int.le_of_lt (leads.before_later entry earlier enabled)
    · exact leads.after_not_earlier entry later enabled
  · intro priority
    have othersAsGiven := others.asGiven priority
    simp only [List.filter_append, List.filter_cons, leads.enabled, if_true] at othersAsGiven ⊢
    rw [othersAsGiven]
    split
    · rename_i atPriority
      -- what stands before is of a later priority, so nothing precedes the first of its own
      have nothingBefore : (before.filter PlaybookEntry.enabled).filter
          (fun entry => entry.priority = priority) = [] := by
        refine List.filter_eq_nil_iff.2 (fun entry listed samePriority => ?_)
        obtain ⟨member, enabled⟩ := List.mem_filter.1 listed
        have later := leads.before_later entry member enabled
        simp only [decide_eq_true_eq] at atPriority samePriority
        omega
      rw [nothingBefore, List.nil_append, List.nil_append]
    · rfl

theorem IsVisitedFirst.withConnector {before after : List PlaybookEntry} {first : PlaybookEntry}
    (leads : IsVisitedFirst before first after) (connector : Logic) :
    IsVisitedFirst before { first with connector } after :=
  ⟨leads.enabled, leads.before_later, leads.after_not_earlier⟩

/-- Whatever joins the first entry, a pass comes to the same. -/
theorem evaluate_withConnector {before after : List PlaybookEntry} {first : PlaybookEntry}
    (leads : IsVisitedFirst before first after) (gate : Gate) (connector : Logic)
    (snapshot : Snapshot) (latches : Latches) (now : Instant) :
    evaluate ⟨before ++ { first with connector } :: after, gate⟩ snapshot latches now =
      evaluate ⟨before ++ first :: after, gate⟩ snapshot latches now := by
  have changed := ((leads.withConnector connector).order gate).eq_enabledInOrder
  have given := (leads.order gate).eq_enabledInOrder
  simp only [evaluate, join, pass, ← changed, ← given, List.foldl_cons, PlaybookPass.visit_first]

section Gates

variable (playbook : Playbook) (snapshot : Snapshot) (latches : Latches) (now : Instant)

theorem evaluate_triggered_of_gate_all (gate : playbook.gate = .all) :
    (playbook.evaluate snapshot latches now).triggered = true ↔
      Carried (countsIn snapshot latches now) playbook.enabledInOrder := by
  simp only [evaluate, join, gate]
  exact PlaybookPass.joined_foldl_visit_iff _ _ _ _

/-- Under the gate `ANY` the joined value adds nothing: it is true only if some entry counts. -/
theorem evaluate_triggered_of_gate_any (gate : playbook.gate = .any) :
    (playbook.evaluate snapshot latches now).triggered = true ↔
      ∃ entry ∈ playbook.enabledInOrder, countsIn snapshot latches now entry = true := by
  have listed : (playbook.evaluate snapshot latches now).satisfied.isEmpty = false ↔
      ∃ entry ∈ playbook.enabledInOrder, countsIn snapshot latches now entry = true := by
    rw [evaluate_satisfied]
    simp [List.isEmpty_eq_false_iff, List.filter_eq_nil_iff, countsIn]
  have triggers : (playbook.evaluate snapshot latches now).triggered = true ↔
      (playbook.pass snapshot.evaluate latches (.of snapshot now)).joined.getD false = true ∨
        (playbook.evaluate snapshot latches now).satisfied.isEmpty = false := by
    simp only [evaluate, join, gate, Bool.or_eq_true, Bool.not_eq_true']
  rw [triggers, listed, or_iff_right_iff_imp]
  intro joined
  exact ((PlaybookPass.joined_foldl_visit_iff _ _ _ _).1 joined).exists_counted

/-- The more entries count, the more a playbook triggers. -/
theorem evaluate_triggered_mono {snapshot other : Snapshot} {latches otherLatches : Latches}
    {now later : Instant}
    (grows : ∀ entry ∈ playbook.enabledInOrder, countsIn snapshot latches now entry = true →
      countsIn other otherLatches later entry = true)
    (triggered : (playbook.evaluate snapshot latches now).triggered = true) :
    (playbook.evaluate other otherLatches later).triggered = true := by
  cases gate : playbook.gate with
  | all =>
      have carried := (playbook.evaluate_triggered_of_gate_all _ _ _ gate).1 triggered
      exact (playbook.evaluate_triggered_of_gate_all _ _ _ gate).2 (carried.mono grows)
  | any =>
      obtain ⟨entry, listed, counted⟩ :=
        (playbook.evaluate_triggered_of_gate_any _ _ _ gate).1 triggered
      exact (playbook.evaluate_triggered_of_gate_any _ _ _ gate).2
        ⟨entry, listed, grows entry listed counted⟩

end Gates

/-- When a playbook triggers, over its enabled entries in the order of their visits. Under the gate
`ALL` it triggers exactly when some entry that counts carries the joined value; under the gate `ANY`
exactly when some entry counts; without enabled entries never. What joins the first entry does not
matter, and a pass in which more entries count triggers as well. -/
theorem triggers_exactly_when_carried (playbook : Playbook) (snapshot : Snapshot)
    (latches : Latches) (now : Instant) (ordered : List PlaybookEntry)
    (order : playbook.IsVisitingOrder ordered) :
    (playbook.evaluate snapshot latches now).satisfied =
      (ordered.filter (countsIn snapshot latches now)).map PlaybookEntry.id ∧
    (playbook.gate = .all →
      ((playbook.evaluate snapshot latches now).triggered = true ↔
        Carried (countsIn snapshot latches now) ordered)) ∧
    (playbook.gate = .any →
      ((playbook.evaluate snapshot latches now).triggered = true ↔
        ∃ entry ∈ playbook.entries, entry.enabled = true ∧
          countsIn snapshot latches now entry = true)) ∧
    ((∀ entry ∈ playbook.entries, entry.enabled = false) →
      (playbook.evaluate snapshot latches now).triggered = false) ∧
    (∀ before first after connector, playbook.entries = before ++ first :: after →
      IsVisitedFirst before first after →
      evaluate { playbook with entries := before ++ { first with connector } :: after }
        snapshot latches now = playbook.evaluate snapshot latches now) ∧
    (∀ (other : Snapshot) (otherLatches : Latches) (later : Instant),
      (∀ entry ∈ ordered, countsIn snapshot latches now entry = true →
        countsIn other otherLatches later entry = true) →
      (playbook.evaluate snapshot latches now).triggered = true →
      (playbook.evaluate other otherLatches later).triggered = true) := by
  obtain rfl := order.eq_enabledInOrder
  refine ⟨playbook.evaluate_satisfied snapshot latches now,
    playbook.evaluate_triggered_of_gate_all snapshot latches now, ?_, ?_, ?_, ?_⟩
  · intro gate
    rw [playbook.evaluate_triggered_of_gate_any snapshot latches now gate]
    simp only [mem_enabledInOrder, and_assoc]
  · intro disabled
    have nothing : playbook.enabledInOrder = [] := by
      refine List.eq_nil_iff_forall_not_mem.2 (fun entry listed => ?_)
      obtain ⟨given, enabled⟩ := (playbook.mem_enabledInOrder entry).1 listed
      exact Bool.false_ne_true ((disabled entry given).symm.trans enabled)
    simp only [evaluate, join, pass, nothing]
    cases playbook.gate <;> rfl
  · rintro before first after connector split leads
    obtain ⟨entries, gate⟩ := playbook
    obtain rfl : entries = _ := split
    exact evaluate_withConnector leads gate connector snapshot latches now
  · intro other otherLatches later grows triggered
    exact playbook.evaluate_triggered_mono grows triggered

/-! Three entries given out of order, one of them joined by `OR`, and one that is disabled. -/

def closeEntry (id : String) (priority : Int) (connector : Logic) (operator : Operator)
    (bound : Float) : PlaybookEntry :=
  { id, priority, enabled := true, connector, validity := 0, validityUnit := .bars
    condition :=
      { subject := .price .close, operator, comparand := .literal bound, timeframe := .same
        percentage := none } }

def riseEntry : PlaybookEntry := closeEntry "rise" 0 .any .greater 4

def floorEntry : PlaybookEntry := closeEntry "floor" 1 .all .greater 3

def dipOrEntry : PlaybookEntry := closeEntry "dip" 2 .any .less 1

def idleEntry : PlaybookEntry := { closeEntry "idle" 0 .all .less 1 with enabled := false }

def mixedPlaybook : Playbook :=
  { entries := [dipOrEntry, idleEntry, riseEntry, floorEntry], gate := .all }

def priceSnapshot (close : Float) : Snapshot :=
  .ofFrame "X" { timeframe := .hour, candles := [⟨3600, close, close, close, close, 1⟩] }

theorem mixedPlaybook_order :
    mixedPlaybook.IsVisitingOrder [riseEntry, floorEntry, dipOrEntry] where
  byPriority := by decide
  asGiven priority := by
    have enabled : mixedPlaybook.entries.filter PlaybookEntry.enabled =
        [dipOrEntry, riseEntry, floorEntry] := rfl
    rw [enabled]
    by_cases listed : priority = 0 ∨ priority = 1 ∨ priority = 2
    · rcases listed with rfl | rfl | rfl <;> rfl
    · have others : riseEntry.priority ≠ priority ∧ floorEntry.priority ≠ priority ∧
          dipOrEntry.priority ≠ priority := by
        simp only [riseEntry, floorEntry, dipOrEntry, closeEntry]
        omega
      simp [others]

theorem riseEntry_leads : IsVisitedFirst [dipOrEntry, idleEntry] riseEntry [floorEntry] where
  enabled := rfl
  before_later := by decide
  after_not_earlier := by decide

/-- At a price of five the first two entries count and carry the value past the third, whatever joins
the first; at twenty they still do. -/
theorem mixedPlaybook_triggers :
    mixedPlaybook.IsVisitingOrder [riseEntry, floorEntry, dipOrEntry] ∧
    (mixedPlaybook.evaluate (priceSnapshot 5) .empty ⟨3660, 0⟩).triggered = true ∧
    (evaluate { mixedPlaybook with entries := [dipOrEntry, idleEntry,
      { riseEntry with connector := .all }, floorEntry] }
      (priceSnapshot 5) .empty ⟨3660, 0⟩).triggered = true ∧
    (mixedPlaybook.evaluate (priceSnapshot 20) .empty ⟨7260, 0⟩).triggered = true := by
  obtain ⟨-, gateAll, -, -, connects, grows⟩ := triggers_exactly_when_carried mixedPlaybook
    (priceSnapshot 5) .empty ⟨3660, 0⟩ _ mixedPlaybook_order
  have carried : Carried (countsIn (priceSnapshot 5) .empty ⟨3660, 0⟩)
      [riseEntry, floorEntry, dipOrEntry] :=
    ⟨[], riseEntry, [floorEntry, dipOrEntry], rfl, by decide, .inl rfl, by decide⟩
  have triggered := (gateAll rfl).2 carried
  refine ⟨mixedPlaybook_order, triggered, ?_, ?_⟩
  · exact connects _ _ _ .all rfl riseEntry_leads ▸ triggered
  · exact grows (priceSnapshot 20) .empty ⟨7260, 0⟩ (by decide) triggered

end Playbook

end CandleAlerts
