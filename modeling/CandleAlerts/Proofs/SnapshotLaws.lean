import CandleAlerts.Evaluation.GroupSnapshot
import Mathlib.Data.List.Basic

/-!
Laws of snapshots: which frame a timeframe has, and which columns a request has on it.

Requests that are the same are equal, so the columns computed for one of them are found under every
other.
-/

namespace CandleAlerts

/-! ## Requests and needs -/

theorem toBits_injective : Function.Injective Float.toBits := by
  rintro ⟨⟨first, firstValid⟩⟩ ⟨⟨second, secondValid⟩⟩ same
  have sameBits : first = second := same
  subst sameBits
  rfl

namespace IndicatorSpec

/-- The identity of a request tells all of it. -/
theorem identity_injective : Function.Injective identity := by
  rintro ⟨firstName, ⟨firstEntries, firstOrdered⟩⟩ ⟨secondName, ⟨secondEntries, secondOrdered⟩⟩ same
  simp only [identity, Prod.mk.injEq] at same
  rcases same with ⟨sameName, sameBits⟩
  have entryInjective :
      Function.Injective (fun entry : String × Float => (entry.1, entry.2.toBits)) := by
    rintro ⟨firstKey, firstValue⟩ ⟨secondKey, secondValue⟩ equal
    simp only [Prod.mk.injEq] at equal
    exact Prod.ext equal.1 (toBits_injective equal.2)
  have sameEntries : firstEntries = secondEntries := entryInjective.list_map sameBits
  subst sameName sameEntries
  rfl

theorem same_iff (first second : IndicatorSpec) : first.same second = true ↔ first = second := by
  rw [same, beq_iff_eq]
  exact identity_injective.eq_iff

instance : LawfulBEq IndicatorSpec where
  eq_of_beq equal := (same_iff _ _).1 equal
  rfl := (same_iff _ _).2 rfl

instance : DecidableEq IndicatorSpec := instDecidableEqOfLawfulBEq

end IndicatorSpec

theorem IndicatorNeed.same_iff (first second : IndicatorNeed) :
    first.same second = true ↔ first = second := by
  rw [same, Bool.and_eq_true, beq_iff_eq, IndicatorSpec.same_iff]
  exact Prod.ext_iff.symm

/-! ## Columns of a frame -/

namespace Frame

@[simp] theorem withIndicator_timeframe (frame : Frame) (spec : IndicatorSpec) (columns : Columns) :
    (frame.withIndicator spec columns).timeframe = frame.timeframe := rfl

@[simp] theorem withIndicator_candles (frame : Frame) (spec : IndicatorSpec) (columns : Columns) :
    (frame.withIndicator spec columns).candles = frame.candles := rfl

theorem columns?_withIndicator (frame : Frame) (spec : IndicatorSpec) (columns : Columns)
    (asked : IndicatorSpec) :
    (frame.withIndicator spec columns).columns? asked =
      if spec = asked then some columns else frame.columns? asked := by
  simp only [columns?, withIndicator]
  rw [List.find?_cons]
  by_cases same : spec = asked
  · simp [same, (IndicatorSpec.same_iff asked asked).2 rfl]
  · have different : spec.same asked = false := by
      rw [Bool.eq_false_iff]
      exact fun answers => same ((IndicatorSpec.same_iff spec asked).1 answers)
    rw [different, if_neg same]
    simp only [List.find?_filter]
    congr 2
    funext entry
    -- an entry that answers the request asked for is not the one that was replaced
    cases answers : entry.1.same asked with
    | false => simp
    | true =>
        rw [(IndicatorSpec.same_iff entry.1 asked).1 answers]
        have kept : asked.same spec = false := by
          rw [Bool.eq_false_iff]
          exact fun asks => same ((IndicatorSpec.same_iff asked spec).1 asks).symm
        simp [kept]

end Frame

/-! ## Frames of a snapshot -/

namespace Snapshot

@[simp] theorem withFrame_base (snapshot : Snapshot) (frame : Frame) :
    (snapshot.withFrame frame).base = snapshot.base := rfl

theorem frame?_timeframe {snapshot : Snapshot} {timeframe : Timeframe} {frame : Frame}
    (found : snapshot.frame? timeframe = some frame) : frame.timeframe = timeframe := by
  simpa using List.find?_some found

theorem frame?_ofFrame (symbol : String) (frame : Frame) (timeframe : Timeframe) :
    (ofFrame symbol frame).frame? timeframe =
      if frame.timeframe = timeframe then some frame else none := by
  simp only [ofFrame, frame?]
  by_cases same : frame.timeframe = timeframe
  · simp [same]
  · simp [same]

theorem frame?_withFrame (snapshot : Snapshot) (frame : Frame) (timeframe : Timeframe) :
    (snapshot.withFrame frame).frame? timeframe =
      if frame.timeframe = timeframe then some frame else snapshot.frame? timeframe := by
  simp only [frame?, withFrame]
  rw [List.find?_cons]
  by_cases same : frame.timeframe = timeframe
  · simp [same]
  · simp only [beq_eq_false_iff_ne.2 same, if_neg same]
    rw [List.find?_filter]
    congr 1
    funext other
    by_cases asked : other.timeframe = timeframe
    · simp [asked, Ne.symm same]
    · simp [asked]

end Snapshot

end CandleAlerts
