import CandleAlerts.Condition.Evaluation
import CandleAlerts.Proofs.FloatComparison
import CandleAlerts.Proofs.WellFormedDefinitions

/-!
Operands that are no finite numbers.

A left side that is not finite, and an indicator on the right side that is not finite, leave a
condition unsatisfied, and the answer says what is missing. A price on the right side is compared as
it stands. Nothing is reported then, and an infinite price satisfies every comparison that it
happens to lie on the wanted side of.
-/

namespace CandleAlerts

/-! ## Readings -/

namespace Frame

/-- A component of an indicator as it stands in the columns. -/
def componentReading? (frame : Frame) (spec : IndicatorSpec) (component : String) : Option Float :=
  (frame.columns? spec).bind (fun columns => resolveComponent? columns spec.name component)

/-- The left side of a condition as it stands in the frame, finite or not. -/
def subjectReading? (frame : Frame) : Subject → Option Float
  | .indicator spec component => frame.componentReading? spec component
  | .price field => frame.last?.map (fun candle => candle.value field)
  | .volume => frame.last?.map Candle.volume

def bar? (frame : Frame) : BarOffset → Option Candle
  | .current => frame.last?
  | .previous => frame.previous?

/-- The right side of a condition as it stands in the frame, if it is read from there. -/
def comparandReading? (frame : Frame) : Comparand → Option Float
  | .indicator spec component => frame.componentReading? spec component
  | .price field bar => (frame.bar? bar).map (fun candle => candle.value field)
  | .literal _ | .range _ _ | .absent => none

end Frame

namespace Snapshot

/-- The frame that a condition is about. -/
def frameOf? (snapshot : Snapshot) (condition : Condition) : Option Frame :=
  snapshot.frame? (condition.timeframe.resolve snapshot.base)

def subjectReading? (snapshot : Snapshot) (condition : Condition) : Option Float :=
  (snapshot.frameOf? condition).bind (fun frame => frame.subjectReading? condition.subject)

def comparandReading? (snapshot : Snapshot) (condition : Condition) : Option Float :=
  (snapshot.frameOf? condition).bind (fun frame => frame.comparandReading? condition.comparand)

end Snapshot

/-- The answer to a condition that cannot be told: unsatisfied, with what is missing. -/
def Evaluation.Untold (evaluation : Evaluation) : Prop :=
  evaluation.satisfied = false ∧ evaluation.missing.isSome = true

/-- A reading that is not there, or is no finite number. -/
def Unusable (reading : Option Float) : Prop :=
  ∀ value, reading = some value → value.isFinite = false

/-! ## Values that are required to be finite -/

theorem requireFinite_eq_ok_iff {label : String} {value result : Float} :
    requireFinite label value = .ok result ↔ value = result ∧ result.isFinite = true := by
  rw [requireFinite]
  split
  · next finite =>
      rw [Except.ok.injEq]
      constructor
      · rintro rfl
        exact ⟨rfl, finite⟩
      · exact And.left
  · next notFinite =>
      refine ⟨nofun, ?_⟩
      rintro ⟨rfl, finite⟩
      exact absurd finite notFinite

namespace Frame

variable {frame : Frame}

theorem indicatorValue_eq_ok_iff {spec : IndicatorSpec} {component : String} {value : Float} :
    frame.indicatorValue spec component = .ok value ↔
      frame.componentReading? spec component = some value := by
  simp only [indicatorValue, componentReading?]
  cases frame.columns? spec with
  | none => simp
  | some columns =>
      simp only [Option.bind_some]
      cases resolveComponent? columns spec.name component <;> simp

/-- An indicator's value is had when it is there and finite. -/
theorem requireFinite_indicatorValue {spec : IndicatorSpec} {component : String} {value : Float} :
    (frame.indicatorValue spec component >>= requireFinite spec.name) = .ok value ↔
      frame.componentReading? spec component = some value ∧ value.isFinite = true := by
  constructor
  · intro done
    rcases exists_of_bind_eq_ok done with ⟨component, computed, required⟩
    rcases requireFinite_eq_ok_iff.1 required with ⟨rfl, finite⟩
    exact ⟨indicatorValue_eq_ok_iff.1 computed, finite⟩
  · rintro ⟨read, finite⟩
    rw [indicatorValue_eq_ok_iff.2 read]
    exact requireFinite_eq_ok_iff.2 ⟨rfl, finite⟩

/-- A left side is had when the frame has bars and the reading is there and finite. -/
theorem subjectValue_eq_ok_iff {subject : Subject} {value : Float} :
    frame.subjectValue subject = .ok value ↔
      frame.last?.isSome = true ∧ frame.subjectReading? subject = some value ∧
        value.isFinite = true := by
  cases ending : frame.last? with
  | none => simp [subjectValue, ending]
  | some last =>
      cases subject with
      | indicator spec component =>
          simp only [subjectValue, ending, subjectReading?, Option.isSome_some, true_and]
          exact requireFinite_indicatorValue
      | price field => simp [subjectValue, ending, subjectReading?, requireFinite_eq_ok_iff]
      | volume => simp [subjectValue, ending, subjectReading?, requireFinite_eq_ok_iff]

theorem comparandValue_indicator {condition : Condition} {spec : IndicatorSpec}
    {component : String} (right : condition.comparand = .indicator spec component)
    (unusable : Unusable (frame.comparandReading? condition.comparand)) :
    ∃ reason, frame.comparandValue condition = .error reason := by
  cases done : frame.comparandValue condition with
  | error reason => exact ⟨reason, rfl⟩
  | ok result =>
      simp only [comparandValue, right] at done
      rw [← bind_assoc] at done
      rcases exists_of_bind_eq_ok done with ⟨value, computed, -⟩
      rcases requireFinite_indicatorValue.1 computed with ⟨read, finite⟩
      rw [right] at unusable
      rw [unusable value read] at finite
      cases finite

theorem comparandValue_price {condition : Condition} {field : PriceField} {bar : BarOffset}
    {candle : Candle} (right : condition.comparand = .price field bar)
    (found : frame.bar? bar = some candle) :
    frame.comparandValue condition = .ok (candle.value field) := by
  cases bar with
  | current => simp only [comparandValue, right, show frame.last? = some candle from found]
  | previous => simp only [comparandValue, right, show frame.previous? = some candle from found]

/-- A frame in which some bar is found has a last one. -/
theorem last_isSome_of_bar {bar : BarOffset} {candle : Candle}
    (found : frame.bar? bar = some candle) : frame.last?.isSome = true := by
  cases bar with
  | current => exact Option.isSome_of_eq_some found
  | previous =>
      have earlier : candle ∈ frame.candles.dropLast := List.mem_of_getLast? found
      have nonempty : frame.candles ≠ [] := List.ne_nil_of_mem (List.mem_of_mem_dropLast earlier)
      rw [last?, List.getLast?_isSome]
      exact nonempty

end Frame

/-! ## Comparing with what is not finite -/

/-- A finite value lies below what is infinite upwards and above what is infinite downwards, and in
no other relation to what is not finite. -/
theorem Operator.holds_of_not_finite (operator : Operator) {left right : Float}
    (finite : left.isFinite = true) (notFinite : right.isFinite = false) :
    operator.holds left right =
      (operator.wantsBelow && decide (0 < right) || operator.wantsAbove && decide (right < 0)) := by
  have apart : (decide (left - right < 1e-10) && decide (right - left < 1e-10)) = false := by
    rw [← Bool.not_eq_true, Bool.and_eq_true, decide_eq_true_iff, decide_eq_true_iff]
    exact Float.not_near finite notFinite (by decide)
  cases operator with
  | greater => simp [holds, wantsAbove, wantsBelow, Float.gt_iff_lt_zero finite notFinite]
  | crossesAbove => simp [holds, wantsAbove, wantsBelow, Float.gt_iff_lt_zero finite notFinite]
  | less => simp [holds, wantsAbove, wantsBelow, Float.lt_iff_zero_lt finite notFinite]
  | crossesBelow => simp [holds, wantsAbove, wantsBelow, Float.lt_iff_zero_lt finite notFinite]
  | greaterOrEqual => simp [holds, wantsAbove, wantsBelow, Float.ge_iff_lt_zero finite notFinite]
  | lessOrEqual => simp [holds, wantsAbove, wantsBelow, Float.le_iff_zero_lt finite notFinite]
  | equals => simp only [holds, apart, wantsAbove, wantsBelow, Bool.false_and, Bool.or_self]
  | between => rfl
  | pattern => rfl

/-! ## Conditions -/

namespace Frame

variable {frame : Frame} {condition : Condition}

theorem satisfies_of_subjectValue_error {reason : MissingValue}
    (failed : frame.subjectValue condition.subject = .error reason) :
    frame.satisfies condition = .error reason := by
  simp only [satisfies, failed]
  rfl

/-- Unless the condition is about a pattern or a range, both of its sides are compared. -/
theorem satisfies_of_compared {left : Float}
    (read : frame.subjectValue condition.subject = .ok left)
    (noPattern : condition.operator ≠ .pattern)
    (noRange : ∀ low high, condition.comparand ≠ .range low high) :
    frame.satisfies condition =
      (frame.comparandValue condition).map (condition.operator.holds left) := by
  have binding : frame.satisfies condition =
      frame.comparandValue condition >>=
        fun right => .ok (condition.operator.holds left right) := by
    simp only [satisfies, read, bind, Except.bind, if_neg noPattern]
    cases right : condition.comparand with
    | range low high => exact absurd right (noRange low high)
    | literal value => rfl
    | indicator spec component => rfl
    | price field bar => rfl
    | absent => rfl
  rw [binding]
  cases frame.comparandValue condition <;> rfl

end Frame

namespace Snapshot

variable {snapshot : Snapshot} {condition : Condition} {frame : Frame}

theorem satisfies_eq (found : snapshot.frameOf? condition = some frame) :
    snapshot.satisfies condition = frame.satisfies condition := by
  simp only [satisfies, show snapshot.frame? _ = some frame from found]

theorem untold_of_error
    (failed : ∀ frame, snapshot.frameOf? condition = some frame →
      ∃ reason, frame.satisfies condition = .error reason) :
    (snapshot.evaluate condition).Untold := by
  have unsatisfied : ∃ reason, snapshot.satisfies condition = .error reason := by
    cases found : snapshot.frameOf? condition with
    | some frame =>
        rw [satisfies_eq found]
        exact failed frame found
    | none =>
        refine ⟨.frame (condition.timeframe.resolve snapshot.base), ?_⟩
        simp only [satisfies, show snapshot.frame? _ = none from found]
  rcases unsatisfied with ⟨reason, unsatisfied⟩
  simp only [evaluate, unsatisfied]
  exact ⟨rfl, rfl⟩

theorem untold_of_subject (unusable : Unusable (snapshot.subjectReading? condition)) :
    (snapshot.evaluate condition).Untold := by
  apply untold_of_error
  intro frame found
  rw [subjectReading?, found] at unusable
  cases subject : frame.subjectValue condition.subject with
  | error reason => exact ⟨reason, Frame.satisfies_of_subjectValue_error subject⟩
  | ok left =>
      rcases Frame.subjectValue_eq_ok_iff.1 subject with ⟨-, read, finite⟩
      rw [unusable left read] at finite
      cases finite

theorem untold_of_indicator (wellFormed : condition.WellFormed) {spec : IndicatorSpec}
    {component : String} (right : condition.comparand = .indicator spec component)
    (unusable : Unusable (snapshot.comparandReading? condition)) :
    (snapshot.evaluate condition).Untold := by
  apply untold_of_error
  intro frame found
  rw [comparandReading?, found] at unusable
  cases subject : frame.subjectValue condition.subject with
  | error reason => exact ⟨reason, Frame.satisfies_of_subjectValue_error subject⟩
  | ok left =>
      have noPattern : condition.operator ≠ .pattern := by
        rw [Ne, wellFormed.pattern_iff, right]
        exact nofun
      have compared := Frame.satisfies_of_compared subject noPattern (by rw [right]; exact nofun)
      rcases Frame.comparandValue_indicator right unusable with ⟨reason, failed⟩
      rw [failed] at compared
      exact ⟨reason, compared⟩

theorem evaluate_of_price (wellFormed : condition.WellFormed) {field : PriceField} {bar : BarOffset}
    (comparand : condition.comparand = .price field bar) {left right : Float}
    (leftRead : snapshot.subjectReading? condition = some left) (finite : left.isFinite = true)
    (rightRead : snapshot.comparandReading? condition = some right) :
    snapshot.evaluate condition = ⟨condition.operator.holds left right, none⟩ := by
  rcases Option.bind_eq_some_iff.1 leftRead with ⟨frame, found, leftThere⟩
  rw [comparandReading?, found, comparand] at rightRead
  rcases Option.map_eq_some_iff.1 rightRead with ⟨candle, there, rfl⟩
  have subject := Frame.subjectValue_eq_ok_iff.2 ⟨Frame.last_isSome_of_bar there, leftThere, finite⟩
  have noPattern : condition.operator ≠ .pattern := by
    rw [Ne, wellFormed.pattern_iff, comparand]
    exact nofun
  have compared := Frame.satisfies_of_compared subject noPattern (by rw [comparand]; exact nofun)
  rw [Frame.comparandValue_price comparand there] at compared
  simp only [evaluate, (satisfies_eq found).trans compared]
  rfl

/-! ## Operands that are no finite numbers -/

/-- A left side, or an indicator on the right, that is not there or not finite leaves a condition
unsatisfied with something missing. A price on the right that is not finite is compared as it
stands, without a word. -/
theorem evaluate_unusable (snapshot : Snapshot) {definition : Json} {condition : Condition}
    (read : Definition.readCondition definition = .ok condition) :
    (Unusable (snapshot.subjectReading? condition) → (snapshot.evaluate condition).Untold) ∧
    (∀ spec component, condition.comparand = .indicator spec component →
      Unusable (snapshot.comparandReading? condition) → (snapshot.evaluate condition).Untold) ∧
    (∀ field bar left right, condition.comparand = .price field bar →
      snapshot.subjectReading? condition = some left → left.isFinite = true →
      snapshot.comparandReading? condition = some right → right.isFinite = false →
      snapshot.evaluate condition =
        { satisfied := condition.operator.wantsBelow && decide (0 < right) ||
            condition.operator.wantsAbove && decide (right < 0)
          missing := none }) := by
  have wellFormed := Definition.readCondition_wellFormed read
  refine ⟨untold_of_subject, fun spec component => untold_of_indicator wellFormed, ?_⟩
  intro field bar left right comparand leftRead finite rightRead notFinite
  rw [evaluate_of_price wellFormed comparand leftRead finite rightRead,
    condition.operator.holds_of_not_finite finite notFinite]

/-! A bar without an upper end: that it closes below its high is satisfied, and that its high is
above its close cannot be told. -/

def closeBelowHighDefinition : Json :=
  .object [("compare_field", .string "high"), ("op", .string "<")]

def closeBelowHigh : Condition :=
  { subject := .price .close, operator := .less, comparand := .price .high .current
    timeframe := .same, percentage := none }

def highAboveCloseDefinition : Json :=
  .object [("field", .string "high"), ("op", .string ">"), ("compare_field", .string "close")]

def highAboveClose : Condition :=
  { subject := .price .high, operator := .greater, comparand := .price .close .current
    timeframe := .same, percentage := none }

def endlessBar : Candle :=
  { time := 0, openPrice := 1, high := 1 / 0, low := 0, close := 1, volume := 10 }

def endlessSnapshot : Snapshot :=
  .ofFrame "BTCUSDT" { timeframe := .hour, candles := [endlessBar] }

theorem readCondition_closeBelowHigh :
    Definition.readCondition closeBelowHighDefinition = .ok closeBelowHigh := by
  with_unfolding_all rfl

theorem readCondition_highAboveClose :
    Definition.readCondition highAboveCloseDefinition = .ok highAboveClose := by
  with_unfolding_all rfl

theorem endless_bar_answers :
    Definition.readCondition closeBelowHighDefinition = .ok closeBelowHigh ∧
    endlessSnapshot.evaluate closeBelowHigh = { satisfied := true, missing := none } ∧
    Definition.readCondition highAboveCloseDefinition = .ok highAboveClose ∧
    (endlessSnapshot.evaluate highAboveClose).Untold := by
  have compared := (evaluate_unusable endlessSnapshot readCondition_closeBelowHigh).2.2
    .high .current 1 (1 / 0) rfl rfl (by decide) rfl (by decide)
  refine ⟨readCondition_closeBelowHigh, compared, readCondition_highAboveClose, ?_⟩
  apply (evaluate_unusable endlessSnapshot readCondition_highAboveClose).1
  intro value read
  cases read
  decide

/-- An operand that is no finite number may satisfy a condition with nothing missing. -/
theorem unusable_operand_may_satisfy :
    ¬ ∀ (snapshot : Snapshot) (definition : Json) (condition : Condition),
      Definition.readCondition definition = .ok condition →
      ∀ value, (snapshot.subjectReading? condition = some value ∨
          snapshot.comparandReading? condition = some value) → value.isFinite = false →
        (snapshot.evaluate condition).Untold := by
  intro always
  have untold := always endlessSnapshot closeBelowHighDefinition closeBelowHigh
    readCondition_closeBelowHigh (1 / 0) (.inr rfl) (by decide)
  have satisfied : (endlessSnapshot.evaluate closeBelowHigh).satisfied = true := by decide
  rw [untold.1] at satisfied
  cases satisfied

end Snapshot

end CandleAlerts
