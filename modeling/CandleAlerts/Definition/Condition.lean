import CandleAlerts.Condition.Basic
import CandleAlerts.Definition.Fields
import CandleAlerts.Definition.Names

/-!
Reading a condition from its definition.

Fields go by several names and operators by several spellings; all of that is settled here, once.
What comes out pairs each operator with a right side that it can be compared with.
-/

namespace CandleAlerts.Definition

/-- The spellings of the operators, in lower case with underscores. -/
def operatorSpellings : List (Operator × List String) :=
  [(.greater, [">", "gt", "greater_than", "above", "greater"]),
   (.less, ["<", "lt", "less_than", "below", "less"]),
   (.greaterOrEqual, [">=", "gte", "ge", "greater_or_equal", "at_least"]),
   (.lessOrEqual, ["<=", "lte", "le", "less_or_equal", "at_most"]),
   (.equals, ["=", "==", "eq", "equal", "equals"]),
   (.crossesAbove, ["crosses_above", "cross_above", "crossover", "crosses_over", "cross_up"]),
   (.crossesBelow, ["crosses_below", "cross_below", "crossunder", "crosses_under", "cross_down"]),
   (.between, ["between", "in_range", "range"]),
   (.pattern, ["pattern", "detected", "is"])]

/-- A word in lower case without blanks at its ends, hyphens and spaces read as underscores. -/
def underscored (text : String) : String :=
  Text.replaceChars (Text.asciiLower (Text.trim text)) ['-', ' '] '_'

def operator? (text : String) : Option Operator :=
  (operatorSpellings.find? (fun entry => entry.2.contains (underscored text))).map Prod.fst

/-- Add the parameters of an object to a request, in the order of their names; a null is passed
over. -/
def withParameters (spec : IndicatorSpec) (members : Fields) :
    Except DefinitionError IndicatorSpec :=
  members.foldlM (fun spec member =>
    if member.2.isNull then .ok spec
    else match number? member.2 with
      | some value => .ok (spec.withParameter member.1 value)
      | none => refuse "params" (member.1 ++ "=" ++ member.2.compact)) spec

def indicatorSpec (fields : Fields) : Except DefinitionError IndicatorSpec := do
  let name ← require "indicator"
    ((text? fields Names.indicator).filter (fun name => !(Text.trim name).isEmpty))
  let spec ← match field? fields Names.parameters with
    | none => .ok (IndicatorSpec.named name)
    | some (.object members) => withParameters (IndicatorSpec.named name) members
    | some other => refuseValue "params" other
  withParameters spec (Names.inlineParameters.filterMap
    (fun name => (given? fields name).map (fun value => (name, value))))

def bounds (fields : Fields) : Except DefinitionError (Float × Float) := do
  let low ← require "low" (field? fields Names.low)
  let high ← require "high" (field? fields Names.high)
  return (← requireNumber "low" low, ← requireNumber "high" high)

/-- Read the two ends wherever they are given: in a pair, in an object, or among the fields. -/
def rangeEnds (fields : Fields) : Except DefinitionError (Float × Float) :=
  match field? fields Names.rangeValue with
  | some (.array [low, high]) => do
      return (← requireNumber "value" low, ← requireNumber "value" high)
  | some (.object members) => bounds members
  | some other => refuseValue "value" other
  | none => bounds fields

/-- Read a range, which must not be empty. -/
def range (fields : Fields) : Except DefinitionError Comparand := do
  let (low, high) ← rangeEnds fields
  if high < low then
    refuse "value" ("range " ++ Decimal.label low ++ ".." ++ Decimal.label high ++ " is empty")
  else return .range low high

/-- The ways to give a right side. -/
inductive CompareMode where
  | literal
  | indicator
  | price (bar : BarOffset)
  | absent

def compareModeSpellings : List (CompareMode × List String) :=
  [(.literal, ["literal", "value", "number"]),
   (.indicator, ["other_indicator", "otherindicator", "indicator"]),
   (.price .current, ["price_field", "pricefield", "field"]),
   (.price .previous, ["previous_bar_field", "previousbarfield", "previous_bar"]),
   (.absent, ["none"])]

/-- How the right side is given: as said, or else as the fields suggest. -/
def compareMode (fields : Fields) (operator : Operator) : Except DefinitionError CompareMode :=
  match text? fields Names.compareMode with
  | some given =>
      let spelling := underscored given
      match compareModeSpellings.find? (fun entry => entry.2.contains spelling) with
      | some entry => .ok entry.1
      | none => refuse "compare_mode" spelling
  | none =>
      if operator = .pattern then .ok .absent
      else if (field? fields Names.compareIndicator).isSome then .ok .indicator
      else if (field? fields Names.compareField).isSome then .ok (.price .current)
      else .ok .literal

/-- Read a literal, or a range when the operator wants one. -/
def literal (fields : Fields) (operator : Operator) : Except DefinitionError Comparand := do
  if operator = .between then range fields
  else
    let value ← require "value" (field? fields Names.value)
    return .literal (← requireNumber "value" value)

/-- The fields of an indicator on the right side: an object, or a name with parameters beside it. -/
def otherIndicatorFields (fields : Fields) (given : Json) : Except DefinitionError Fields :=
  match given with
  | .object members => .ok members
  | .string name =>
      .ok (("indicator", .string name) ::
        match field? fields Names.compareParameters with
        | some parameters => [("params", parameters)]
        | none => [])
  | other => refuseValue "compare_indicator" other

def otherIndicator (fields : Fields) : Except DefinitionError Comparand := do
  let given ← require "compare_indicator" (field? fields Names.compareIndicator)
  let nested ← otherIndicatorFields fields given
  let spec ← indicatorSpec nested
  let component := ((text? nested Names.nestedComponent).or
    (text? fields Names.compareComponent)).getD spec.name
  return .indicator spec component

def givenComparand (fields : Fields) (operator : Operator) : Except DefinitionError Comparand := do
  match ← compareMode fields operator with
  | .literal => literal fields operator
  | .indicator => otherIndicator fields
  | .price bar =>
      let given := (text? fields Names.comparePriceField).getD "close"
      match PriceField.parse? given with
      | some field => return .price field bar
      | none => refuse "compare_field" given
  | .absent => return .absent

/-- Read the right side. A pattern has none, and only a range goes with `between`. -/
def comparand (fields : Fields) (operator : Operator) : Except DefinitionError Comparand := do
  match ← givenComparand fields operator, operator with
  | .absent, .pattern => return .absent
  | .absent, _ => refuse "compare_mode" "none is only valid for pattern conditions"
  | _, .pattern => return .absent
  | .range low high, .between => return .range low high
  | _, .between => refuse "operator" "between needs a literal range"
  | comparand, _ => return comparand

/-- Read the left side. Without a kind, a condition that names an indicator is about it, and any
other is about a price. -/
def subject (fields : Fields) : Except DefinitionError Subject := do
  let kind := match text? fields Names.kind with
    | some given => Text.asciiLower (Text.trim given)
    | none => if (field? fields Names.indicatorHint).isSome then "indicator" else "price"
  if kind = "indicator" ∨ kind = "pattern" ∨ kind = "candlestick" then
    let spec ← indicatorSpec fields
    return .indicator spec ((text? fields Names.component).getD spec.name)
  else if kind = "price" then
    return .price (← readOr "price_field" .close PriceField.parse? (text? fields Names.priceField))
  else if kind = "volume" then return .volume
  else refuse "kind" kind

def timeframeChoice (fields : Fields) : Except DefinitionError TimeframeChoice :=
  match text? fields Names.conditionTimeframe with
  | none => .ok .same
  | some given =>
      let trimmed := Text.asciiLower (Text.trim given)
      if trimmed = "same" ∨ trimmed = "" then .ok .same
      else match Timeframe.parse? given with
        | some timeframe => .ok (.specific timeframe)
        | none => .error (.unknownTimeframe given)

/-- Read an operator, which must be known. -/
def readOperator (given : String) : Except DefinitionError Operator :=
  match operator? given with
  | some operator => .ok operator
  | none => .error (.unknownOperator given)

/-- Read the percentage of a condition, if it has one. -/
def percentage (fields : Fields) : Except DefinitionError (Option Float) :=
  match field? fields Names.percentage with
  | none => .ok none
  | some value => (requireNumber "percentage" value).map some

def readCondition (value : Json) : Except DefinitionError Condition := do
  let fields ← fieldsOf value
  let given ← require "operator" (text? fields Names.operator)
  let operator ← readOperator given
  let subject ← subject fields
  match operator, subject with
  | .pattern, .price _ | .pattern, .volume =>
      refuse "operator" "pattern requires an indicator condition"
  | _, _ =>
      let comparand ← comparand fields operator
      let timeframe ← timeframeChoice fields
      let percentage ← percentage fields
      return { subject, operator, comparand, timeframe, percentage }

end CandleAlerts.Definition
