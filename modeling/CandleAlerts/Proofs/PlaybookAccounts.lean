import CandleAlerts.Proofs.ConditionAnswers
import CandleAlerts.Proofs.LatchWindows
import CandleAlerts.Proofs.PlaybookGates

/-!
What a pass over a playbook accounts for, and what it passes over.

Every enabled entry is listed once, as satisfied or as failed, in the order of the visits. Only
failed entries miss values, and only satisfied ones have latches. Nothing else plays a part: neither
disabled entries, nor the place of an entry among those of other priorities, nor a latch of another
id or one whose window has no room for the present bar or time.
-/

namespace CandleAlerts

/-! ## Windows of latches -/

/-- Whether a bar or a time lies in the window of a latch, which reaches to its last bar or instant
included. -/
def Latch.Covers (latch : Latch) (barIndex : Int) (now : Instant) : Prop :=
  match latch with
  | .time _ validUntil =>
      now.seconds < validUntil.seconds ∨
        (now.seconds = validUntil.seconds ∧ now.nanos ≤ validUntil.nanos)
  | .bars first count => first ≤ barIndex ∧ barIndex ≤ first + count

/-- Whether the bars of a latch's window are numbered by words, and not more than fit half a
word. -/
def Latch.Fits : Latch → Prop
  | .time _ _ => True
  | .bars first count =>
      Word.Holds first ∧ Word.Holds (first + count) ∧ count < UInt32.size

theorem Latch.isValid_iff_covers {latch : Latch} (fits : latch.Fits) {barIndex : Int}
    (word : Word.Holds barIndex) (now : Instant) :
    latch.isValid barIndex now = true ↔ latch.Covers barIndex now := by
  cases latch with
  | time triggeredAt validUntil => exact Instant.notAfter_iff now validUntil
  | bars first count =>
      have size : (UInt64.size : Int) = 18446744073709551616 := rfl
      obtain ⟨firstWord, lastWord, few⟩ := fits
      simp only [Word.Holds, Word.least, Word.greatest, UInt32.size] at word firstWord lastWord few
      simp only [isValid, Covers, Word.sub, Word.wrap, Bool.and_eq_true, decide_eq_true_eq,
        Int.bmod_def, size]
      split <;> omega

/-- As a signed word the length of a bar is itself, or negative if it exceeds the greatest. -/
theorem Timeframe.wrap_seconds (timeframe : Timeframe) :
    Word.wrap timeframe.seconds =
      if (timeframe.seconds : Int) ≤ Word.greatest then (timeframe.seconds : Int)
      else timeframe.seconds - UInt64.size := by
  have size : (UInt64.size : Int) = 18446744073709551616 := rfl
  have bounded : timeframe.seconds < 18446744073709551616 := timeframe.fitsWord
  have remainder := Int.bmod_def timeframe.seconds UInt64.size
  rw [size] at remainder
  rw [Word.wrap, Word.greatest, size]
  omega

/-- A length is at least a minute, and as a signed word at least sixteen on the other side of zero if
it turns negative. -/
theorem Timeframe.le_natAbs_wrap_seconds (timeframe : Timeframe) :
    16 ≤ (Word.wrap timeframe.seconds).natAbs := by
  have size : (UInt64.size : Int) = 18446744073709551616 := rfl
  obtain ⟨long, whole⟩ := timeframe.wholeMinutes
  have bounded : timeframe.seconds < 18446744073709551616 := timeframe.fitsWord
  rw [timeframe.wrap_seconds, size]
  split <;> omega

/-- Bars that open at words have numbers that are small among the words, of at most `2 ^ 60`. -/
theorem Timeframe.natAbs_barIndex_le (timeframe : Timeframe) {time : Int}
    (word : Word.Holds time) : (timeframe.barIndex time).natAbs ≤ 1152921504606846976 := by
  have quotient := Int.natAbs_ediv time (Word.wrap timeframe.seconds)
  have shorter : time.natAbs / (Word.wrap timeframe.seconds).natAbs ≤ time.natAbs / 16 :=
    Nat.div_le_div_left timeframe.le_natAbs_wrap_seconds (by decide)
  simp only [Word.Holds, Word.least, Word.greatest] at word
  rw [barIndex]
  split at quotient <;> omega

/-- A bar that opens at a word has a word for its number. -/
theorem Timeframe.barIndex_holds (timeframe : Timeframe) {time : Int} (word : Word.Holds time) :
    Word.Holds (timeframe.barIndex time) := by
  have small := timeframe.natAbs_barIndex_le word
  simp only [Word.Holds, Word.least, Word.greatest]
  omega

/-- The latest base bar opens at a word, if there is one. -/
def Snapshot.OpensAtWord (snapshot : Snapshot) : Prop :=
  ∀ time, snapshot.barTime? = some time → Word.Holds time

theorem PassMoment.barIndex_holds {snapshot : Snapshot} (opens : snapshot.OpensAtWord)
    (now : Instant) : Word.Holds (PassMoment.of snapshot now).barIndex := by
  simp only [PassMoment.of, Snapshot.barIndex?]
  cases time : snapshot.barTime? with
  | none => exact (by decide : Word.Holds Word.least)
  | some value => exact snapshot.base.barIndex_holds (opens value time)

/-! ## Accounts of one visit -/

theorem Snapshot.evaluate_unsatisfied_of_missing {snapshot : Snapshot} {condition : Condition}
    (missing : (snapshot.evaluate condition).missing.isSome = true) :
    (snapshot.evaluate condition).satisfied = false := by
  simp only [evaluate] at missing ⊢
  cases answer : snapshot.satisfies condition with
  | error reason => rfl
  | ok satisfied =>
      rw [answer] at missing
      cases missing

theorem LogicOutcome.note_failed (outcome : LogicOutcome) (id : String) (evaluation : Evaluation) :
    (outcome.note id evaluation).failed =
      outcome.failed ++ if evaluation.satisfied then [] else [id] := by
  simp only [LogicOutcome.note]
  cases evaluation.missing <;> cases evaluation.satisfied <;> simp

namespace PlaybookEntry

/-- A latch that an entry opens its window with: its own number of bars or minutes, of which there
are some, counted from the bar of the pass. -/
def IsFresh (entry : PlaybookEntry) (moment : PassMoment) (latch : Latch) : Prop :=
  0 < entry.validity ∧
    latch = match entry.validityUnit with
      | .bars => .bars moment.barIndex entry.validity
      | .minutes =>
          .time moment.barTime
            ⟨moment.barTime.seconds + 60 * entry.validity, moment.barTime.nanos⟩

variable {entry : PlaybookEntry} {answer : Condition → Evaluation} {latches : Latches}
  {moment : PassMoment} {latch : Latch}

/-- A latch is kept for an entry that counts, and it is the one that holds it or a new one. -/
theorem counts_of_kept (kept : entry.kept? answer latches moment = some latch) :
    entry.counts answer latches moment = true ∧
      (entry.heldBy? latches moment = some latch ∨
        (entry.heldBy? latches moment = none ∧ entry.IsFresh moment latch)) := by
  cases held : entry.heldBy? latches moment with
  | some holding =>
      rw [kept?_of_held held] at kept
      exact ⟨by rw [counts, held]; rfl, .inl kept⟩
  | none =>
      rw [kept?_of_fresh held] at kept
      split at kept
      · rename_i opens
        obtain ⟨satisfied, valid⟩ := Bool.and_eq_true_iff.1 opens
        refine ⟨by rw [counts, satisfied, Bool.or_true], .inr ⟨rfl, of_decide_eq_true valid, ?_⟩⟩
        exact (Option.some.inj kept).symm
      · cases kept

end PlaybookEntry

namespace PlaybookPass

section Visits

variable (answer : Condition → Evaluation) (latches : Latches) (moment : PassMoment)

theorem visit_failed (pass : PlaybookPass) (entry : PlaybookEntry) :
    (pass.visit answer latches moment entry).outcome.failed =
      pass.outcome.failed ++ if entry.counts answer latches moment then [] else [entry.id] := by
  unfold visit PlaybookEntry.counts
  cases entry.heldBy? latches moment with
  | some latch => simp [LogicOutcome.note_failed]
  | none => simp [LogicOutcome.note_failed]

/-- Over a list of entries the ids that fail are appended in order. -/
theorem foldl_visit_failed (entries : List PlaybookEntry) (pass : PlaybookPass) :
    (entries.foldl (visit answer latches moment) pass).outcome.failed =
      pass.outcome.failed ++
        (entries.filter (fun entry => !entry.counts answer latches moment)).map
          PlaybookEntry.id := by
  induction entries generalizing pass with
  | nil => simp
  | cons entry rest induction =>
      rw [List.foldl_cons, induction, visit_failed, List.append_assoc, List.filter_cons]
      cases entry.counts answer latches moment with
      | true => simp
      | false => simp

end Visits

/-- Whatever misses a value has failed. -/
def MissingFailed (pass : PlaybookPass) : Prop :=
  ∀ entry ∈ pass.outcome.missing, entry.1 ∈ pass.outcome.failed

/-- A visit keeps to it, as an answer with something missing is never that of a satisfied
condition. -/
theorem MissingFailed.visit {pass : PlaybookPass} (accounted : pass.MissingFailed)
    (snapshot : Snapshot) (latches : Latches) (moment : PassMoment) (entry : PlaybookEntry) :
    (pass.visit snapshot.evaluate latches moment entry).MissingFailed := by
  intro missed listed
  rw [visit_failed, List.mem_append]
  unfold PlaybookEntry.counts
  unfold PlaybookPass.visit at listed
  cases held : entry.heldBy? latches moment with
  | some latch =>
      simp only [held, LogicOutcome.note_missing, Option.map_none, Option.toList_none,
        List.append_nil] at listed
      exact .inl (accounted missed listed)
  | none =>
      simp only [held, LogicOutcome.note_missing, List.mem_append] at listed
      rcases listed with before | here
      · exact .inl (accounted missed before)
      · simp only [Option.mem_toList, Option.map_eq_some_iff] at here
        rcases here with ⟨reason, missing, rfl⟩
        have unsatisfied := Snapshot.evaluate_unsatisfied_of_missing
          (Option.isSome_of_eq_some missing)
        simp [unsatisfied]

end PlaybookPass

/-! ## Accounts of a pass -/

/-- What an outcome accounts for, the entries being visited in an order. -/
structure LogicOutcome.Accounts (outcome : LogicOutcome) (ordered : List PlaybookEntry)
    (latches : Latches) (moment : PassMoment) : Prop where
  satisfied_inOrder : outcome.satisfied.Sublist (ordered.map PlaybookEntry.id)
  failed_inOrder : outcome.failed.Sublist (ordered.map PlaybookEntry.id)
  all : (outcome.satisfied ++ outcome.failed).Perm (ordered.map PlaybookEntry.id)
  once : (outcome.satisfied ++ outcome.failed).Nodup
  missing_failed : ∀ missed ∈ outcome.missing, missed.1 ∈ outcome.failed
  latches_satisfied : ∀ id latch, outcome.latches.get? id = some latch →
    id ∈ outcome.satisfied ∧ ∃ entry ∈ ordered, entry.id = id ∧
      ((latches.get? id = some latch ∧ latch.isValid moment.barIndex moment.now = true) ∨
        entry.IsFresh moment latch)

namespace Playbook

variable (playbook : Playbook) (snapshot : Snapshot) (latches : Latches) (now : Instant)

theorem evaluate_failed :
    (playbook.evaluate snapshot latches now).failed =
      (playbook.enabledInOrder.filter
        (fun entry => !entry.counts snapshot.evaluate latches (.of snapshot now))).map
        PlaybookEntry.id := by
  simp [evaluate, join, pass, PlaybookPass.foldl_visit_failed]

theorem evaluate_missing_failed :
    ∀ missed ∈ (playbook.evaluate snapshot latches now).missing,
      missed.1 ∈ (playbook.evaluate snapshot latches now).failed := by
  have accounted : (playbook.pass snapshot.evaluate latches (.of snapshot now)).MissingFailed := by
    refine List.foldlRecOn _ _ (by simp [PlaybookPass.MissingFailed]) ?_
    intro pass accounted entry member
    exact accounted.visit snapshot latches _ entry
  exact accounted

theorem evaluate_latches_of_not_listed {id : String}
    (unlisted : id ∉ playbook.enabledInOrder.map PlaybookEntry.id) :
    (playbook.evaluate snapshot latches now).latches.get? id = none :=
  PlaybookPass.foldl_visit_latches_of_not_mem snapshot.evaluate latches (.of snapshot now) _ _ id
    unlisted

theorem evaluate_accounts (distinct : (playbook.entries.map PlaybookEntry.id).Nodup) :
    (playbook.evaluate snapshot latches now).Accounts playbook.enabledInOrder latches
      (.of snapshot now) := by
  have satisfied := playbook.evaluate_satisfied snapshot latches now
  have failed := playbook.evaluate_failed snapshot latches now
  have all : ((playbook.evaluate snapshot latches now).satisfied ++
      (playbook.evaluate snapshot latches now).failed).Perm
        (playbook.enabledInOrder.map PlaybookEntry.id) := by
    rw [satisfied, failed, ← List.map_append]
    exact (List.filter_append_perm _ _).map _
  refine
    { satisfied_inOrder := satisfied ▸ List.filter_sublist.map _
      failed_inOrder := failed ▸ List.filter_sublist.map _
      all
      once := all.nodup_iff.2 (playbook.enabledInOrder_nodup distinct)
      missing_failed := playbook.evaluate_missing_failed snapshot latches now
      latches_satisfied := ?_ }
  intro id latch stored
  by_cases listed : id ∈ playbook.enabledInOrder.map PlaybookEntry.id
  · rcases List.mem_map.1 listed with ⟨entry, visited, rfl⟩
    obtain ⟨member, enabled⟩ := (playbook.mem_enabledInOrder entry).1 visited
    rw [playbook.evaluate_latches_get? snapshot latches now distinct entry member enabled] at stored
    obtain ⟨counted, origin⟩ := PlaybookEntry.counts_of_kept stored
    refine ⟨(playbook.mem_evaluate_satisfied snapshot latches now distinct entry member enabled).2
      counted, entry, visited, rfl, ?_⟩
    rcases origin with held | ⟨-, fresh⟩
    · exact .inl ((entry.heldBy?_eq_some_iff _ _ _).1 held)
    · exact .inr fresh
  · rw [playbook.evaluate_latches_of_not_listed snapshot latches now listed] at stored
    cases stored

/-! ## What plays no part -/

/-- Latches of which some are gone, each one of an id that no enabled entry has, or one that is not
valid. -/
def WithoutIrrelevant (latches kept : Latches) (moment : PassMoment) : Prop :=
  ∀ id, kept.get? id = latches.get? id ∨
    (kept.get? id = none ∧ ∀ latch, latches.get? id = some latch →
      (∀ entry ∈ playbook.entries, entry.enabled = true → entry.id ≠ id) ∨
        latch.isValid moment.barIndex moment.now = false)

variable {playbook} in
theorem WithoutIrrelevant.heldBy? {latches kept : Latches} {moment : PassMoment}
    (without : playbook.WithoutIrrelevant latches kept moment) {entry : PlaybookEntry}
    (member : entry ∈ playbook.entries) (enabled : entry.enabled = true) :
    entry.heldBy? kept moment = entry.heldBy? latches moment := by
  rcases without entry.id with same | ⟨gone, irrelevant⟩
  · simp only [PlaybookEntry.heldBy?, same]
  · have unheld : entry.heldBy? latches moment = none := by
      rw [Option.eq_none_iff_forall_ne_some]
      intro latch held
      obtain ⟨stored, valid⟩ := (entry.heldBy?_eq_some_iff latches moment latch).1 held
      rcases irrelevant latch stored with foreign | invalid
      · exact foreign entry member enabled rfl
      · rw [valid] at invalid
        cases invalid
    rw [unheld, PlaybookEntry.heldBy?, gone]
    rfl

/-- A visit asks nothing of the latches but which one holds the entry. -/
theorem visit_congr_latches (answer : Condition → Evaluation) {latches kept : Latches}
    {moment : PassMoment} {entry : PlaybookEntry}
    (same : entry.heldBy? kept moment = entry.heldBy? latches moment) (pass : PlaybookPass) :
    pass.visit answer kept moment entry = pass.visit answer latches moment entry := by
  simp only [PlaybookPass.visit, same]

theorem evaluate_withoutIrrelevant {kept : Latches}
    (without : playbook.WithoutIrrelevant latches kept (.of snapshot now)) :
    playbook.evaluate snapshot kept now = playbook.evaluate snapshot latches now := by
  have passes : playbook.pass snapshot.evaluate kept (.of snapshot now) =
      playbook.pass snapshot.evaluate latches (.of snapshot now) := by
    apply List.foldl_ext
    intro pass entry visited
    obtain ⟨member, enabled⟩ := (playbook.mem_enabledInOrder entry).1 visited
    exact visit_congr_latches snapshot.evaluate (without.heldBy? member enabled) pass
  simp only [evaluate, join, passes]

/-- Entries that are visited in the same order come to the same. -/
theorem evaluate_of_visitingOrder {entries : List PlaybookEntry}
    (order : IsVisitingOrder { playbook with entries } playbook.enabledInOrder) :
    evaluate { playbook with entries } snapshot latches now =
      playbook.evaluate snapshot latches now := by
  simp only [evaluate, join, pass, ← order.eq_enabledInOrder]

theorem evaluate_of_enabled {entries : List PlaybookEntry}
    (same : entries.filter PlaybookEntry.enabled = playbook.entries.filter PlaybookEntry.enabled) :
    evaluate { playbook with entries } snapshot latches now =
      playbook.evaluate snapshot latches now := by
  apply evaluate_of_visitingOrder
  have visited := playbook.enabledInOrder_isVisitingOrder
  exact ⟨visited.byPriority, fun priority => by rw [visited.asGiven priority, ← same]⟩

theorem evaluate_of_reordered {entries : List PlaybookEntry}
    (same : ∀ priority : Int, entries.filter (fun entry => entry.priority = priority) =
      playbook.entries.filter (fun entry => entry.priority = priority)) :
    evaluate { playbook with entries } snapshot latches now =
      playbook.evaluate snapshot latches now := by
  apply evaluate_of_visitingOrder
  have visited := playbook.enabledInOrder_isVisitingOrder
  refine ⟨visited.byPriority, fun priority => ?_⟩
  rw [visited.asGiven priority, List.filter_comm, ← same priority, List.filter_comm]

/-! ## Accounts and what plays no part -/

/-- A pass over a playbook lists every enabled entry once, in the order of the visits, as satisfied
or as failed; values are missed by failed entries only, and latches are kept for satisfied ones
only, as they went in or newly opened. It comes to the same without the disabled entries, in every
other order that keeps the entries of each priority as they are, and without the latches that are of
no enabled entry or not valid, which is to say that their windows do not cover the bar or time. -/
theorem accounts_for_enabled_alone (playbook : Playbook) (snapshot : Snapshot) (latches : Latches)
    (now : Instant) (distinct : (playbook.entries.map PlaybookEntry.id).Nodup)
    (ordered : List PlaybookEntry) (order : playbook.IsVisitingOrder ordered) :
    (playbook.evaluate snapshot latches now).Accounts ordered latches (.of snapshot now) ∧
    (∀ entries : List PlaybookEntry,
      entries.filter PlaybookEntry.enabled = playbook.entries.filter PlaybookEntry.enabled →
      evaluate { playbook with entries } snapshot latches now =
        playbook.evaluate snapshot latches now) ∧
    (∀ entries : List PlaybookEntry,
      (∀ priority : Int, entries.filter (fun entry => entry.priority = priority) =
        playbook.entries.filter (fun entry => entry.priority = priority)) →
      evaluate { playbook with entries } snapshot latches now =
        playbook.evaluate snapshot latches now) ∧
    (∀ kept : Latches, playbook.WithoutIrrelevant latches kept (.of snapshot now) →
      playbook.evaluate snapshot kept now = playbook.evaluate snapshot latches now) ∧
    (snapshot.OpensAtWord → ∀ latch : Latch, latch.Fits →
      (latch.isValid (PassMoment.of snapshot now).barIndex now = true ↔
        latch.Covers (PassMoment.of snapshot now).barIndex now)) := by
  obtain rfl := order.eq_enabledInOrder
  refine ⟨playbook.evaluate_accounts snapshot latches now distinct, ?_, ?_, ?_, ?_⟩
  · intro entries
    exact playbook.evaluate_of_enabled snapshot latches now
  · intro entries
    exact playbook.evaluate_of_reordered snapshot latches now
  · intro kept
    exact playbook.evaluate_withoutIrrelevant snapshot latches now
  · intro opens latch fits
    exact latch.isValid_iff_covers fits (PassMoment.barIndex_holds opens now) now

/-! On the second bar, at a price of five: an entry that opens its window, two more of one later
priority, of which one is held by a latch and the other misses the bar before, and one that is
disabled. -/

def openingEntry : PlaybookEntry := { closeEntry "opening" 0 .all .greater 4 with validity := 2 }

def heldEntry : PlaybookEntry := closeEntry "held" 1 .all .less 1

def gapEntry : PlaybookEntry :=
  { closeEntry "gap" 1 .all .greater 1 with
    condition :=
      { subject := .price .close, operator := .greater, comparand := .price .close .previous
        timeframe := .same, percentage := none } }

def watchPlaybook : Playbook :=
  { entries := [heldEntry, idleEntry, gapEntry, openingEntry], gate := .all }

/-- A latch that holds, one of a disabled entry, and one whose window has not opened yet. -/
def watchLatches : Latches :=
  ((Table.empty.insert "held" (.bars 0 2)).insert "idle" (.bars 0 9)).insert "opening" (.bars 5 1)

/-- The entries of the playbook have the priorities zero and one only. -/
theorem watchPlaybook_priority {entry : PlaybookEntry}
    (listed : entry ∈ [openingEntry, heldEntry, gapEntry, idleEntry]) {priority : Int}
    (others : ¬ (priority = 0 ∨ priority = 1)) : entry.priority ≠ priority := by
  have few : entry.priority = 0 ∨ entry.priority = 1 := by
    revert entry
    decide
  omega

theorem watchPlaybook_order :
    watchPlaybook.IsVisitingOrder [openingEntry, heldEntry, gapEntry] where
  byPriority := by decide
  asGiven priority := by
    have enabled : watchPlaybook.entries.filter PlaybookEntry.enabled =
        [heldEntry, gapEntry, openingEntry] := rfl
    rw [enabled]
    by_cases listed : priority = 0 ∨ priority = 1
    · rcases listed with rfl | rfl <;> rfl
    · simp [watchPlaybook_priority _ listed]

theorem watchPlaybook_reordered (priority : Int) :
    [idleEntry, openingEntry, heldEntry, gapEntry].filter (fun entry => entry.priority = priority) =
      watchPlaybook.entries.filter (fun entry => entry.priority = priority) := by
  by_cases listed : priority = 0 ∨ priority = 1
  · rcases listed with rfl | rfl <;> rfl
  · simp [watchPlaybook, watchPlaybook_priority _ listed]

theorem watchLatches_withoutIrrelevant :
    watchPlaybook.WithoutIrrelevant watchLatches (Table.empty.insert "held" (.bars 0 2))
      (.of (priceSnapshot 5) ⟨3660, 0⟩) := by
  intro id
  by_cases idle : id = "idle"
  · subst idle
    refine .inr ⟨rfl, fun latch stored => .inl (by decide)⟩
  by_cases opening : id = "opening"
  · subst opening
    refine .inr ⟨rfl, fun latch stored => .inr ?_⟩
    obtain rfl : Latch.bars 5 1 = latch := Option.some.inj stored
    decide
  · left
    rw [watchLatches, Table.get?_insert_of_ne _ _ (Ne.symm opening),
      Table.get?_insert_of_ne _ _ (Ne.symm idle)]

theorem watchPlaybook_accounts :
    (watchPlaybook.entries.map PlaybookEntry.id).Nodup ∧
    watchPlaybook.IsVisitingOrder [openingEntry, heldEntry, gapEntry] ∧
    (watchPlaybook.evaluate (priceSnapshot 5) watchLatches ⟨3660, 0⟩).Accounts
      [openingEntry, heldEntry, gapEntry] watchLatches (.of (priceSnapshot 5) ⟨3660, 0⟩) ∧
    (watchPlaybook.evaluate (priceSnapshot 5) watchLatches ⟨3660, 0⟩).satisfied =
      ["opening", "held"] ∧
    (watchPlaybook.evaluate (priceSnapshot 5) watchLatches ⟨3660, 0⟩).latches.get? "opening" =
      some (.bars 1 2) ∧
    (evaluate ⟨[heldEntry, gapEntry, openingEntry], .all⟩ (priceSnapshot 5) watchLatches
      ⟨3660, 0⟩).failed = ["gap"] ∧
    (evaluate ⟨[idleEntry, openingEntry, heldEntry, gapEntry], .all⟩ (priceSnapshot 5) watchLatches
      ⟨3660, 0⟩).failed = ["gap"] ∧
    (watchPlaybook.evaluate (priceSnapshot 5) (Table.empty.insert "held" (.bars 0 2))
      ⟨3660, 0⟩).failed = ["gap"] := by
  have distinct : (watchPlaybook.entries.map PlaybookEntry.id).Nodup := by decide
  obtain ⟨accounts, enabled, reordered, without, -⟩ := accounts_for_enabled_alone watchPlaybook
    (priceSnapshot 5) watchLatches ⟨3660, 0⟩ distinct _ watchPlaybook_order
  have failed : (watchPlaybook.evaluate (priceSnapshot 5) watchLatches ⟨3660, 0⟩).failed =
      ["gap"] := by
    rw [evaluate_failed, ← watchPlaybook_order.eq_enabledInOrder]
    decide
  refine ⟨distinct, watchPlaybook_order, accounts, ?_, ?_, ?_, ?_, ?_⟩
  · rw [evaluate_satisfied, ← watchPlaybook_order.eq_enabledInOrder]
    decide
  · exact watchPlaybook.evaluate_latches_get? (priceSnapshot 5) watchLatches ⟨3660, 0⟩ distinct
      openingEntry (by simp [watchPlaybook]) rfl
  · exact (congrArg LogicOutcome.failed (enabled _ rfl)).trans failed
  · exact (congrArg LogicOutcome.failed (reordered _ watchPlaybook_reordered)).trans failed
  · exact (congrArg LogicOutcome.failed (without _ watchLatches_withoutIrrelevant)).trans failed

end Playbook

end CandleAlerts
