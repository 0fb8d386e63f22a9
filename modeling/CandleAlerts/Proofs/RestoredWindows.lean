import CandleAlerts.Proofs.PlaybookAccounts
import CandleAlerts.Proofs.RoutedEvents
import CandleAlerts.Proofs.RuntimeTexts

/-!
Windows of latches that were stored.

A stored state gives a latch back with any word for the bar on which its window opened, however far
from the present one, and the distance of two words may leave the words and come back into them at
the other end. That does no harm. Bars last long enough for their numbers to be small among the
words, and a window has fewer bars than half a word counts, so a distance that came back lies far
outside of every window.
-/

namespace CandleAlerts

/-! ## What stored states hold -/

namespace Json

theorem le_of_nat? {value : Json} {greatest number : Nat}
    (isRead : value.nat? greatest = some number) : number ≤ greatest := by
  obtain ⟨whole, within, rfl⟩ := Option.map_eq_some_iff.1 isRead
  unfold int? at within
  split at within
  · split at within
    · next bounds =>
        cases within
        omega
    · cases within
  · cases within

theorem exists_of_mem_mapM {α β : Type} {decode : α → Option β} {items : List α} {made : List β}
    (all : items.mapM decode = some made) {value : β} (member : value ∈ made) :
    ∃ item ∈ items, decode item = some value := by
  induction items generalizing made with
  | nil =>
      cases all
      cases member
  | cons item rest induction =>
      rw [List.mapM_cons] at all
      obtain ⟨first, decoded, all⟩ := Option.bind_eq_some_iff.1 all
      obtain ⟨others, further, all⟩ := Option.bind_eq_some_iff.1 all
      cases all
      rcases List.mem_cons.1 member with rfl | member
      · exact ⟨item, List.mem_cons_self, decoded⟩
      · obtain ⟨other, among, isRead⟩ := induction further member
        exact ⟨other, List.mem_cons_of_mem _ among, isRead⟩

/-- Every value of a table that was read was read from a member. -/
theorem exists_of_table? {α : Type} {decode : Json → Option α} {value : Json} {table : Table α}
    (isRead : table? decode value = some table) {key : String} {entry : α}
    (found : table.get? key = some entry) : ∃ given, decode given = some entry := by
  obtain ⟨members, -, isRead⟩ := Option.bind_eq_some_iff.1 isRead
  obtain ⟨entries, all, isRead⟩ := Option.bind_eq_some_iff.1 isRead
  cases isRead
  obtain ⟨member, -, decoded⟩ := exists_of_mem_mapM all (Table.mem_of_get?_ofList found)
  obtain ⟨given, read, same⟩ := Option.map_eq_some_iff.1 decoded
  cases same
  exact ⟨member.2, read⟩

end Json

namespace Latch

/-- Whether the text of a stored state can hold a latch. -/
def IsRestorable (latch : Latch) : Prop :=
  ∃ text runtime id, AlertRuntime.parse? text = some runtime ∧
    runtime.latches.get? id = some latch

theorem bars_of_ofJson? {value : Json} {first : Int} {count : Nat}
    (isRead : ofJson? value = some (bars first count)) :
    Word.Holds first ∧ count < UInt32.size := by
  obtain ⟨⟨kind, fields⟩, -, isRead⟩ := Option.bind_eq_some_iff.1 isRead
  dsimp only at isRead
  split at isRead
  · obtain ⟨record, -, isRead⟩ := Option.bind_eq_some_iff.1 isRead
    obtain ⟨triggered, -, isRead⟩ := Option.bind_eq_some_iff.1 isRead
    obtain ⟨valid, -, isRead⟩ := Option.bind_eq_some_iff.1 isRead
    cases isRead
  · obtain ⟨record, -, isRead⟩ := Option.bind_eq_some_iff.1 isRead
    obtain ⟨index, indexRead, isRead⟩ := Option.bind_eq_some_iff.1 isRead
    obtain ⟨number, numberRead, isRead⟩ := Option.bind_eq_some_iff.1 isRead
    cases isRead
    obtain ⟨given, -, isWord⟩ := Option.bind_eq_some_iff.1 indexRead
    obtain ⟨given, -, isCount⟩ := Option.bind_eq_some_iff.1 numberRead
    exact ⟨Json.holds_of_int64? isWord, Nat.lt_of_le_sub_one (by decide) (Json.le_of_nat? isCount)⟩
  · cases isRead

/-- The latches of a state that was read were read themselves. -/
theorem exists_of_parse? {text : String} {runtime : AlertRuntime}
    (isRead : AlertRuntime.parse? text = some runtime) {id : String} {latch : Latch}
    (held : runtime.latches.get? id = some latch) : ∃ given, ofJson? given = some latch := by
  obtain ⟨value, -, isRead⟩ := Option.bind_eq_some_iff.1 isRead
  obtain ⟨record, -, isRead⟩ := Option.bind_eq_some_iff.1 isRead
  obtain ⟨latches, latchesRead, isRead⟩ := Option.bind_eq_some_iff.1 isRead
  have kept : runtime.latches = latches := by
    simp only [bind, Option.bind_eq_some_iff] at isRead
    obtain ⟨fired, -, count, -, evaluated, -, triggered, -, streak, -, warned, -, isRead⟩ := isRead
    cases isRead
    rfl
  rw [kept] at held
  unfold Json.Record.defaulted? at latchesRead
  split at latchesRead
  · exact Json.exists_of_table? latchesRead held
  · cases latchesRead
    cases held

/-- The latches that count bars can be stored and restored with any word and any half word. -/
theorem isRestorable_bars_iff {first : Int} {count : Nat} :
    (bars first count).IsRestorable ↔ Word.Holds first ∧ count < UInt32.size := by
  constructor
  · rintro ⟨text, runtime, id, isRead, held⟩
    obtain ⟨given, isLatch⟩ := exists_of_parse? isRead held
    exact bars_of_ofJson? isLatch
  · intro storable
    have stored : ({ latches := Table.empty.insert "entry" (bars first count) } :
        AlertRuntime).Storable := by
      refine ⟨?_, nofun, nofun, nofun⟩
      intro key latch found
      rw [Table.get?_insert] at found
      split at found
      · cases found
        exact storable
      · cases found
    exact ⟨_, _, "entry", AlertRuntime.parse?_text stored, Table.get?_insert_self _ _ _⟩

/-! ## Windows -/

/-- From a number of at most `2 ^ 60` the distance to any word comes round, if it does, to one that
is longer than every window. -/
theorem isValid_bars_iff {first : Int} {count : Nat} (holds : Word.Holds first)
    (few : count < UInt32.size) {number : Int} (small : number.natAbs ≤ 1152921504606846976)
    (now : Instant) :
    (bars first count).isValid number now = true ↔
      0 ≤ number - first ∧ number - first ≤ count := by
  have size : (UInt64.size : Int) = 18446744073709551616 := rfl
  simp only [Word.Holds, Word.least, Word.greatest, UInt32.size] at holds few
  simp only [isValid, Word.sub, Word.wrap, Bool.and_eq_true, decide_eq_true_eq, Int.bmod_def, size]
  split <;> omega

/-- Latches come back with any word for the bar on which their window opened and any half word for
the number of its bars. Whatever came back, the window holds exactly the bars from that bar on which
come at most that number later, for bars of any length at any time; and in a pass on a bar the latch
holds its entry exactly if the bar is among them. -/
theorem restored_window_exact (first : Int) (count : Nat) :
    ((bars first count).IsRestorable ↔ Word.Holds first ∧ count < UInt32.size) ∧
    ((bars first count).IsRestorable →
      (∀ (timeframe : Timeframe) (time : Int), Word.Holds time → ∀ now,
        ((bars first count).isValid (timeframe.barIndex time) now = true ↔
          0 ≤ timeframe.barIndex time - first ∧ timeframe.barIndex time - first ≤ count)) ∧
      ∀ (snapshot : Snapshot) (time : Int), snapshot.barTime? = some time → Word.Holds time →
        ∀ (entry : PlaybookEntry) (latches : Latches) (now : Instant),
          latches.get? entry.id = some (bars first count) →
          (entry.heldBy? latches (.of snapshot now) = some (bars first count) ↔
            0 ≤ snapshot.base.barIndex time - first ∧
              snapshot.base.barIndex time - first ≤ count)) := by
  refine ⟨isRestorable_bars_iff, fun restorable => ?_⟩
  obtain ⟨holds, few⟩ := isRestorable_bars_iff.1 restorable
  have window (timeframe : Timeframe) (time : Int) (word : Word.Holds time) (now : Instant) :=
    isValid_bars_iff holds few (timeframe.natAbs_barIndex_le word) now
  refine ⟨window, ?_⟩
  intro snapshot time opens word entry latches now stored
  have number : (PassMoment.of snapshot now).barIndex = snapshot.base.barIndex time := by
    simp only [PassMoment.of, Snapshot.barIndex?, opens, Option.map_some, Option.getD_some]
  rw [PlaybookEntry.heldBy?_eq_some_iff, number, ← window snapshot.base time word
    (PassMoment.of snapshot now).now]
  simp only [stored, true_and]

/-- The latest latch and the earliest hour: their distance comes round to a positive one, which is
outside of the longest window. -/
theorem latest_window_restored :
    (bars Word.greatest 4294967295).IsRestorable ∧ Word.Holds Word.least ∧
    0 < Word.sub (Timeframe.hour.barIndex Word.least) Word.greatest ∧
    (bars Word.greatest 4294967295).isValid (Timeframe.hour.barIndex Word.least) ⟨0, 0⟩ = false ∧
    (bars 0 2).IsRestorable ∧ (Playbook.priceSnapshot 5).barTime? = some 3600 ∧
    Playbook.heldEntry.heldBy? (Table.empty.insert "held" (bars 0 2))
      (.of (Playbook.priceSnapshot 5) ⟨3660, 0⟩) = some (bars 0 2) := by
  obtain ⟨latest, apart⟩ := restored_window_exact Word.greatest 4294967295
  obtain ⟨early, within⟩ := restored_window_exact 0 2
  have restored := latest.2 (by decide)
  have earlyRestored := early.2 (by decide)
  have word : Word.Holds Word.least := by decide
  refine ⟨restored, word, by decide, ?_, earlyRestored, rfl, ?_⟩
  · rw [← Bool.not_eq_true, (apart restored).1 Timeframe.hour Word.least word ⟨0, 0⟩]
    decide
  · exact ((within earlyRestored).2 (Playbook.priceSnapshot 5) 3600 rfl (by decide)
      Playbook.heldEntry _ ⟨3660, 0⟩ rfl).2 (by decide)

/-- The least word, which stands for no bar at all, is too far from zero for that. -/
example : (bars Word.greatest 1).isValid Word.least ⟨0, 0⟩ = true := by decide

end Latch

end CandleAlerts
