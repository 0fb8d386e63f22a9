import CandleAlerts.Condition.Basic
import CandleAlerts.Indicator.Component
import CandleAlerts.Market.Snapshot

/-!
Evaluating a condition on a snapshot.

Evaluation never fails. A condition whose sides cannot be read is not satisfied, and the answer says
what is missing.
-/

namespace CandleAlerts

/-- Why a side of a condition could not be read. -/
inductive MissingValue where
  | frame (timeframe : Timeframe)
  | noBars
  | previousBar
  | indicator (spec : IndicatorSpec)
  | component (owner part : String)

def MissingValue.message : MissingValue → String
  | frame timeframe => "no " ++ timeframe.text ++ " frame in snapshot"
  | noBars => "no bars in frame"
  | previousBar => "no previous bar"
  | indicator spec => "indicator " ++ spec.text ++ " was not computed"
  | component owner part =>
      "component `" ++ part ++ "` of " ++ owner ++ " could not be resolved"

/-- The answer to a condition. -/
structure Evaluation where
  satisfied : Bool
  missing : Option MissingValue

/-- Raise a threshold by a percentage for operators that want the left side above, and lower it for
those that want it below. -/
def applyPercentage [Add α] [Sub α] [Mul α] [Div α] [OfNat α 1] [OfNat α 100]
    (threshold : α) (operator : Operator) : Option α → α
  | none => threshold
  | some percentage =>
      if operator.wantsAbove then threshold * (1 + percentage / 100)
      else if operator.wantsBelow then threshold * (1 - percentage / 100)
      else threshold

/-- Compare two values. Crossing looks at the current bar alone; equality leaves a distance below
`1e-10`. Ranges and patterns are no comparisons of two values. -/
def Operator.holds [Sub α] [LT α] [LE α] [DecidableLT α] [DecidableLE α] [OfScientific α]
    (operator : Operator) (left right : α) : Bool :=
  match operator with
  | .greater | .crossesAbove => right < left
  | .less | .crossesBelow => left < right
  | .greaterOrEqual => right ≤ left
  | .lessOrEqual => left ≤ right
  | .equals => left - right < 1e-10 && right - left < 1e-10
  | .between | .pattern => false

def requireFinite (label : String) (value : Float) : Except MissingValue Float :=
  if value.isFinite then .ok value else .error (.component label "value")

namespace Frame

def indicatorValue (frame : Frame) (spec : IndicatorSpec) (component : String) :
    Except MissingValue Float :=
  match frame.columns? spec with
  | none => .error (.indicator spec)
  | some columns =>
      match resolveComponent? columns spec.name component with
      | none => .error (.component spec.name component)
      | some value => .ok value

/-- The value of a condition's left side, which must be finite. -/
def subjectValue (frame : Frame) (subject : Subject) : Except MissingValue Float :=
  match frame.last? with
  | none => .error .noBars
  | some last =>
      match subject with
      | .indicator spec component => do
          requireFinite spec.name (← frame.indicatorValue spec component)
      | .price field => requireFinite "price" (last.value field)
      | .volume => requireFinite "volume" last.volume

/-- The value of a condition's right side. Only an indicator's value must be finite, and only an
indicator's value is changed by a percentage. -/
def comparandValue (frame : Frame) (condition : Condition) : Except MissingValue Float :=
  match condition.comparand with
  | .literal value => .ok value
  | .indicator spec component => do
      let value ← requireFinite spec.name (← frame.indicatorValue spec component)
      return applyPercentage value condition.operator condition.percentage
  | .price field .current =>
      match frame.last? with
      | none => .error .noBars
      | some candle => .ok (candle.value field)
  | .price field .previous =>
      match frame.previous? with
      | none => .error .previousBar
      | some candle => .ok (candle.value field)
  | .absent | .range _ _ => .ok (0.0 / 0.0)

def satisfies (frame : Frame) (condition : Condition) : Except MissingValue Bool := do
  let left ← frame.subjectValue condition.subject
  if condition.operator = .pattern then return left != 0.0
  match condition.comparand with
  | .range low high =>
      return condition.operator = .between && low ≤ left && left ≤ high
  | _ => return condition.operator.holds left (← frame.comparandValue condition)

end Frame

/-- Whether a condition is satisfied on its timeframe's frame, or what is missing. -/
def Snapshot.satisfies (snapshot : Snapshot) (condition : Condition) : Except MissingValue Bool :=
  let timeframe := condition.timeframe.resolve snapshot.base
  match snapshot.frame? timeframe with
  | none => .error (.frame timeframe)
  | some frame => frame.satisfies condition

def Snapshot.evaluate (snapshot : Snapshot) (condition : Condition) : Evaluation :=
  match snapshot.satisfies condition with
  | .ok satisfied => { satisfied, missing := none }
  | .error missing => { satisfied := false, missing := some missing }

end CandleAlerts
