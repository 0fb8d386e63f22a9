import CandleAlerts.Proofs.FloatValues
import CandleAlerts.Proofs.UnusableOperands

/-!
Percentages in exact arithmetic.

A percentage moves the threshold that an indicator sets, by a part of the indicator's value. As long
as the value is not negative, the threshold moves away from the wanted side, and a condition that is
satisfied with a percentage is satisfied with a smaller one and with none. From a negative value the
threshold moves the other way: there a percentage leaves no satisfied condition unsatisfied.
-/

namespace CandleAlerts

/-! ## Evaluating in other numbers -/

section Numbers

variable {α : Type} [Add α] [Sub α] [Mul α] [Div α] [OfNat α 1] [OfNat α 100] [LT α] [LE α]
  [DecidableLT α] [DecidableLE α] [OfScientific α]

/-- Whether a condition is satisfied when the values that were read are turned into numbers of
another kind, and the percentage is one of them. Only an indicator on the right side is computed
with; all the rest is evaluated as ever. -/
def Frame.satisfiesIn (number : Float → α) (frame : Frame) (condition : Condition)
    (percentage : Option α) : Except MissingValue Bool :=
  match condition.comparand with
  | .indicator spec component => do
      let left ← frame.subjectValue condition.subject
      if condition.operator = .pattern then return left != 0.0
      let right ← frame.indicatorValue spec component >>= requireFinite spec.name
      return condition.operator.holds (number left)
        (applyPercentage (number right) condition.operator percentage)
  | _ => frame.satisfies condition

def Snapshot.satisfiesIn (number : Float → α) (snapshot : Snapshot) (condition : Condition)
    (percentage : Option α) : Except MissingValue Bool :=
  let timeframe := condition.timeframe.resolve snapshot.base
  match snapshot.frame? timeframe with
  | none => .error (.frame timeframe)
  | some frame => frame.satisfiesIn number condition percentage

def Snapshot.evaluateIn (number : Float → α) (snapshot : Snapshot) (condition : Condition)
    (percentage : Option α) : Evaluation :=
  match snapshot.satisfiesIn number condition percentage with
  | .ok satisfied => { satisfied, missing := none }
  | .error missing => { satisfied := false, missing := some missing }

/-- Both sides of a condition with an indicator on the right, as they are read: finite, and before
any percentage. -/
def Frame.operands (frame : Frame) (subject : Subject) (spec : IndicatorSpec)
    (component : String) : Except MissingValue (Float × Float) := do
  let left ← frame.subjectValue subject
  let right ← frame.indicatorValue spec component >>= requireFinite spec.name
  return (left, right)

theorem Frame.satisfiesIn_eq (frame : Frame) (condition : Condition) {spec : IndicatorSpec}
    {component : String} (right : condition.comparand = .indicator spec component)
    (noPattern : condition.operator ≠ .pattern) (number : Float → α) (percentage : Option α) :
    frame.satisfiesIn number condition percentage =
      (frame.operands condition.subject spec component).map (fun sides =>
        condition.operator.holds (number sides.1)
          (applyPercentage (number sides.2) condition.operator percentage)) := by
  simp only [satisfiesIn, right, operands, if_neg noPattern]
  cases frame.subjectValue condition.subject with
  | error reason => rfl
  | ok left =>
      cases frame.indicatorValue spec component >>= requireFinite spec.name <;> rfl

/-- What it takes to satisfy a condition with an indicator on the right. -/
theorem Snapshot.evaluateIn_satisfied_iff {snapshot : Snapshot} {condition : Condition}
    {spec : IndicatorSpec} {component : String}
    (right : condition.comparand = .indicator spec component)
    (noPattern : condition.operator ≠ .pattern) (number : Float → α) (percentage : Option α) :
    (snapshot.evaluateIn number condition percentage).satisfied = true ↔
      ∃ frame left reading, snapshot.frameOf? condition = some frame ∧
        frame.operands condition.subject spec component = .ok (left, reading) ∧
        condition.operator.holds (number left)
          (applyPercentage (number reading) condition.operator percentage) = true := by
  rw [evaluateIn, satisfiesIn]
  cases found : snapshot.frame? (condition.timeframe.resolve snapshot.base) with
  | none => simp [frameOf?, found]
  | some frame =>
      have answered := frame.satisfiesIn_eq condition right noPattern number percentage
      cases read : frame.operands condition.subject spec component with
      | error reason =>
          rw [read] at answered
          simp [answered, Except.map, frameOf?, found, read]
      | ok sides =>
          obtain ⟨left, reading⟩ := sides
          rw [read] at answered
          simp [answered, Except.map, frameOf?, found, read]

end Numbers

theorem Frame.operands_finite {frame : Frame} {subject : Subject} {spec : IndicatorSpec}
    {component : String} {left right : Float}
    (read : frame.operands subject spec component = .ok (left, right)) :
    left.isFinite = true ∧ right.isFinite = true ∧
      frame.componentReading? spec component = some right := by
  obtain ⟨_, subjectRead, read⟩ := exists_of_bind_eq_ok read
  obtain ⟨_, indicatorRead, read⟩ := exists_of_bind_eq_ok read
  cases read
  obtain ⟨there, finite⟩ := requireFinite_indicatorValue.1 indicatorRead
  exact ⟨(subjectValue_eq_ok_iff.1 subjectRead).2.2, finite, there⟩

/-- In doubles, with the percentage of the condition, that is how conditions are evaluated. -/
theorem Snapshot.evaluateIn_id (snapshot : Snapshot) (condition : Condition) :
    snapshot.evaluateIn id condition condition.percentage = snapshot.evaluate condition := by
  have same (frame : Frame) :
      frame.satisfiesIn id condition condition.percentage = frame.satisfies condition := by
    cases right : condition.comparand with
    | indicator spec component =>
        simp only [Frame.satisfiesIn, Frame.satisfies, Frame.comparandValue, right, id, bind_assoc,
          pure_bind]
    | literal value => simp only [Frame.satisfiesIn, right]
    | range low high => simp only [Frame.satisfiesIn, right]
    | price field bar => simp only [Frame.satisfiesIn, right]
    | absent => simp only [Frame.satisfiesIn, right]
  have sameAnswer :
      snapshot.satisfiesIn id condition condition.percentage = snapshot.satisfies condition := by
    rw [satisfiesIn, satisfies]
    cases snapshot.frame? (condition.timeframe.resolve snapshot.base) with
    | none => rfl
    | some frame => exact same frame
  cases answered : snapshot.satisfies condition with
  | ok satisfied => simp only [evaluateIn, evaluate, sameAnswer, answered]
  | error missing => simp only [evaluateIn, evaluate, sameAnswer, answered]

/-- Evaluation in exact arithmetic. -/
def Snapshot.evaluateExactly (snapshot : Snapshot) (condition : Condition)
    (percentage : Option ℚ) : Evaluation :=
  snapshot.evaluateIn Float.value condition percentage

/-! ## Thresholds -/

/-- An operator that wants its left side on one side of its right side. -/
def Operator.Directed (operator : Operator) : Prop :=
  operator.wantsAbove = true ∨ operator.wantsBelow = true

instance (operator : Operator) : Decidable operator.Directed := by
  unfold Operator.Directed
  infer_instance

/-- Of two thresholds, `far` is the one that leaves less on the wanted side. -/
def Operator.Tighter (operator : Operator) (far near : ℚ) : Prop :=
  if operator.wantsAbove then near ≤ far else far ≤ near

namespace Operator

variable {operator : Operator}

theorem holds_of_tighter {left near far : ℚ} (directed : operator.Directed)
    (tighter : operator.Tighter far near) (holds : operator.holds left far = true) :
    operator.holds left near = true := by
  cases operator with
  | greater => exact decide_eq_true (lt_of_le_of_lt tighter (of_decide_eq_true holds))
  | greaterOrEqual => exact decide_eq_true (le_trans tighter (of_decide_eq_true holds))
  | crossesAbove => exact decide_eq_true (lt_of_le_of_lt tighter (of_decide_eq_true holds))
  | less => exact decide_eq_true (lt_of_lt_of_le (of_decide_eq_true holds) tighter)
  | lessOrEqual => exact decide_eq_true (le_trans (of_decide_eq_true holds) tighter)
  | crossesBelow => exact decide_eq_true (lt_of_lt_of_le (of_decide_eq_true holds) tighter)
  | equals => simp [Directed, wantsAbove, wantsBelow] at directed
  | between => simp [Directed, wantsAbove, wantsBelow] at directed
  | pattern => simp [Directed, wantsAbove, wantsBelow] at directed

/-- No percentage is a percentage of zero. -/
theorem applyPercentage_getD (operator : Operator) (reading : ℚ) (percentage : Option ℚ) :
    applyPercentage reading operator (some (percentage.getD 0)) =
      applyPercentage reading operator percentage := by
  cases percentage <;> simp [applyPercentage]

/-- More percent make a threshold tighter where they make the reading greater, and less percent
where the reading is negative. -/
theorem tighter_applyPercentage_iff (directed : operator.Directed) (reading more less : ℚ) :
    operator.Tighter (applyPercentage reading operator (some more))
        (applyPercentage reading operator (some less)) ↔
      0 ≤ reading * (more - less) := by
  by_cases above : operator.wantsAbove = true
  · simp only [Tighter, applyPercentage, if_pos above]
    rw [← sub_nonneg]
    have moved : reading * (1 + more / 100) - reading * (1 + less / 100) =
        reading * (more - less) / 100 := by ring
    rw [moved, le_div_iff₀ (by norm_num), zero_mul]
  · have below : operator.wantsBelow = true := directed.resolve_left above
    simp only [Tighter, applyPercentage, if_neg above, if_pos below]
    rw [← sub_nonneg]
    have moved : reading * (1 - less / 100) - reading * (1 - more / 100) =
        reading * (more - less) / 100 := by ring
    rw [moved, le_div_iff₀ (by norm_num), zero_mul]

/-- Finite values compare as the numbers that they stand for. -/
theorem holds_value (directed : operator.Directed) {left right : Float}
    (leftFinite : left.isFinite = true) (rightFinite : right.isFinite = true) :
    operator.holds (Float.value left) (Float.value right) = operator.holds left right := by
  have less := Float.lt_iff_value_lt leftFinite rightFinite
  have greater := Float.lt_iff_value_lt rightFinite leftFinite
  have atMost := Float.le_iff_value_le leftFinite rightFinite
  have atLeast := Float.le_iff_value_le rightFinite leftFinite
  cases operator with
  | greater => exact decide_eq_decide.2 greater.symm
  | greaterOrEqual => exact decide_eq_decide.2 atLeast.symm
  | crossesAbove => exact decide_eq_decide.2 greater.symm
  | less => exact decide_eq_decide.2 less.symm
  | lessOrEqual => exact decide_eq_decide.2 atMost.symm
  | crossesBelow => exact decide_eq_decide.2 less.symm
  | equals => simp [Directed, wantsAbove, wantsBelow] at directed
  | between => simp [Directed, wantsAbove, wantsBelow] at directed
  | pattern => simp [Directed, wantsAbove, wantsBelow] at directed

end Operator

/-! ## Answers -/

theorem Operator.Directed.ne_pattern {operator : Operator} (directed : operator.Directed) :
    operator ≠ .pattern := by
  rintro rfl
  exact absurd directed (by decide)

namespace Snapshot

section Answers

variable {condition : Condition} {spec : IndicatorSpec} {component : String}
  (right : condition.comparand = .indicator spec component)
  (directed : condition.operator.Directed)

include right directed

/-- Without a percentage, exact arithmetic gives the answers that doubles give. -/
theorem evaluateExactly_none (snapshot : Snapshot) :
    snapshot.evaluateExactly condition none =
      snapshot.evaluate { condition with percentage := none } := by
  have same (frame : Frame) : frame.satisfiesIn Float.value condition none =
      frame.satisfiesIn id { condition with percentage := none } none := by
    have inDoubles := frame.satisfiesIn_eq { condition with percentage := none } right
      directed.ne_pattern id none
    rw [inDoubles, frame.satisfiesIn_eq condition right directed.ne_pattern]
    cases read : frame.operands condition.subject spec component with
    | error reason => rfl
    | ok sides =>
        -- Nothing is computed with, and the two sides compare as the numbers that they stand for.
        obtain ⟨leftFinite, rightFinite, -⟩ := Frame.operands_finite read
        exact congrArg Except.ok (Operator.holds_value directed leftFinite rightFinite)
  have answers : snapshot.satisfiesIn Float.value condition none =
      snapshot.satisfiesIn id { condition with percentage := none } none := by
    rw [satisfiesIn, satisfiesIn]
    cases snapshot.frame? (condition.timeframe.resolve snapshot.base) with
    | none => rfl
    | some frame => exact same frame
  rw [evaluateExactly, ← evaluateIn_id, evaluateIn, evaluateIn, answers]

/-- An answer stays when the percentage changes in the direction in which the reading on the right
makes the threshold less tight. -/
theorem satisfied_of_satisfied {snapshot : Snapshot} {far near : Option ℚ}
    (looser : ∀ reading, snapshot.comparandReading? condition = some reading →
      0 ≤ Float.value reading * (far.getD 0 - near.getD 0))
    (satisfied : (snapshot.evaluateExactly condition far).satisfied = true) :
    (snapshot.evaluateExactly condition near).satisfied = true := by
  obtain ⟨frame, left, reading, found, read, holds⟩ :=
    (evaluateIn_satisfied_iff right directed.ne_pattern _ _).1 satisfied
  refine (evaluateIn_satisfied_iff right directed.ne_pattern _ _).2
    ⟨frame, left, reading, found, read, ?_⟩
  have there : snapshot.comparandReading? condition = some reading := by
    rw [comparandReading?, found, right]
    exact (Frame.operands_finite read).2.2
  rw [← Operator.applyPercentage_getD] at holds ⊢
  exact Operator.holds_of_tighter directed
    ((Operator.tighter_applyPercentage_iff directed _ _ _).2 (looser reading there)) holds

/-- Over a reading that is not negative a percentage only tightens: what is satisfied with it is
satisfied with each smaller one and with none. Over a reading that is not positive a percentage only
loosens. -/
theorem percentage_tightens_or_loosens (snapshot : Snapshot) {percentage : ℚ}
    (notNegative : 0 ≤ percentage) :
    ((∀ reading, snapshot.comparandReading? condition = some reading → 0 ≤ Float.value reading) →
      (snapshot.evaluateExactly condition (some percentage)).satisfied = true →
        (snapshot.evaluate { condition with percentage := none }).satisfied = true ∧
        ∀ smaller, 0 ≤ smaller → smaller ≤ percentage →
          (snapshot.evaluateExactly condition (some smaller)).satisfied = true) ∧
    ((∀ reading, snapshot.comparandReading? condition = some reading → Float.value reading ≤ 0) →
      ((snapshot.evaluate { condition with percentage := none }).satisfied = true →
        (snapshot.evaluateExactly condition (some percentage)).satisfied = true) ∧
      ∀ smaller, 0 ≤ smaller → smaller ≤ percentage →
        (snapshot.evaluateExactly condition (some smaller)).satisfied = true →
          (snapshot.evaluateExactly condition (some percentage)).satisfied = true) := by
  rw [← evaluateExactly_none right directed]
  constructor
  · intro positive satisfied
    refine ⟨?_, fun smaller _ ordered => ?_⟩
    · refine satisfied_of_satisfied right directed (fun reading read => ?_) satisfied
      exact mul_nonneg (positive reading read) (sub_nonneg.2 notNegative)
    · refine satisfied_of_satisfied right directed (fun reading read => ?_) satisfied
      exact mul_nonneg (positive reading read) (sub_nonneg.2 ordered)
  · intro negative
    refine ⟨fun satisfied => ?_, fun smaller _ ordered satisfied => ?_⟩
    · refine satisfied_of_satisfied right directed (fun reading read => ?_) satisfied
      exact mul_nonneg_of_nonpos_of_nonpos (negative reading read) (sub_nonpos.2 notNegative)
    · refine satisfied_of_satisfied right directed (fun reading read => ?_) satisfied
      exact mul_nonneg_of_nonpos_of_nonpos (negative reading read) (sub_nonpos.2 ordered)

end Answers

/-! A MACD line above its signal line by half. Where the two are positive, that takes more than
being above it; where they are negative, it takes less. -/

def halfAboveSignalDefinition : Json :=
  .object [("indicator", .string "MACD"), ("component", .string "line"), ("op", .string ">"),
    ("compare_indicator", .object [("indicator", .string "MACD"), ("component", .string "signal")]),
    ("percentage", .number (.integer 50))]

def halfAboveSignal : Condition :=
  { subject := .indicator (.named "MACD") "line", operator := .greater
    comparand := .indicator (.named "MACD") "signal", timeframe := .same, percentage := some 50 }

/-- A snapshot of an hour with the two lines of MACD. -/
def linesSnapshot (line signal : Float) : Snapshot :=
  .ofFrame "BTCUSDT"
    { timeframe := .hour
      candles := [{ time := 0, openPrice := 1, high := 1, low := 1, close := 1, volume := 1 }]
      indicators := [(.named "MACD",
        (Table.empty.insert "MACD_MACD" line).insert "MACD_Signal" signal)] }

theorem readCondition_halfAboveSignal :
    Definition.readCondition halfAboveSignalDefinition = .ok halfAboveSignal := by
  with_unfolding_all rfl

theorem line_half_above_signal :
    Definition.readCondition halfAboveSignalDefinition = .ok halfAboveSignal ∧
    ((linesSnapshot 16 10).evaluate { halfAboveSignal with percentage := none }).satisfied =
      true ∧
    ((linesSnapshot 16 10).evaluateExactly halfAboveSignal (some 25)).satisfied = true := by
  have positive : ∀ reading,
      (linesSnapshot 16 10).comparandReading? halfAboveSignal = some reading →
        0 ≤ Float.value reading := by
    intro reading read
    cases read
    decide +kernel
  have satisfied :
      ((linesSnapshot 16 10).evaluateExactly halfAboveSignal (some 50)).satisfied = true := by
    decide +kernel
  obtain ⟨without, smaller⟩ :=
    (percentage_tightens_or_loosens rfl (by decide) (linesSnapshot 16 10) (by norm_num)).1
      positive satisfied
  exact ⟨readCondition_halfAboveSignal, without, smaller 25 (by norm_num) (by norm_num)⟩

/-- Over a negative reading a condition may be satisfied with a percentage and not without. -/
theorem percentage_may_loosen :
    ¬ ∀ (snapshot : Snapshot) (definition : Json) (condition : Condition),
      Definition.readCondition definition = .ok condition →
      ∀ spec component, condition.comparand = .indicator spec component →
        condition.operator.Directed → ∀ percentage : ℚ, 0 ≤ percentage →
          (snapshot.evaluateExactly condition (some percentage)).satisfied = true →
            (snapshot.evaluateExactly condition none).satisfied = true ∧
            ∀ smaller, 0 ≤ smaller → smaller ≤ percentage →
              (snapshot.evaluateExactly condition (some smaller)).satisfied = true := by
  intro always
  have satisfied : ((linesSnapshot (-12) (-10)).evaluateExactly halfAboveSignal
      (some 50)).satisfied = true := by decide +kernel
  have without := (always (linesSnapshot (-12) (-10)) halfAboveSignalDefinition halfAboveSignal
    readCondition_halfAboveSignal _ _ rfl (by decide) 50 (by norm_num) satisfied).1
  have unsatisfied : ((linesSnapshot (-12) (-10)).evaluateExactly halfAboveSignal
      none).satisfied = false := by decide +kernel
  rw [unsatisfied] at without
  cases without

end Snapshot

end CandleAlerts
