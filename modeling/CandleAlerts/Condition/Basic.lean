import CandleAlerts.Indicator.Spec
import CandleAlerts.Market.Timeframe

/-!
Conditions: one value of a market compared with another.
-/

namespace CandleAlerts

/-- What a condition reads on its left side. -/
inductive ConditionKind where
  | indicator
  | price
  | volume
deriving DecidableEq

def ConditionKind.text : ConditionKind → String
  | indicator => "indicator"
  | price => "price"
  | volume => "volume"

/-- How the sides of a condition are compared. -/
inductive Operator where
  | greater
  | less
  | greaterOrEqual
  | lessOrEqual
  | equals
  | crossesAbove
  | crossesBelow
  | between
  | pattern
deriving DecidableEq

namespace Operator

def all : List Operator :=
  [greater, less, greaterOrEqual, lessOrEqual, equals, crossesAbove, crossesBelow, between, pattern]

def text : Operator → String
  | greater => "gt"
  | less => "lt"
  | greaterOrEqual => "gte"
  | lessOrEqual => "lte"
  | equals => "equals"
  | crossesAbove => "crosses_above"
  | crossesBelow => "crosses_below"
  | between => "between"
  | pattern => "pattern"

def ofText? (text : String) : Option Operator :=
  all.find? (fun operator => operator.text == text)

def wantsAbove : Operator → Bool
  | greater | greaterOrEqual | crossesAbove => true
  | _ => false

def wantsBelow : Operator → Bool
  | less | lessOrEqual | crossesBelow => true
  | _ => false

end Operator

/-- The left side of a condition. -/
inductive Subject where
  | indicator (spec : IndicatorSpec) (component : String)
  | price (field : PriceField)
  | volume
deriving BEq

/-- Which bar a price is read from. -/
inductive BarOffset where
  | current
  | previous
deriving DecidableEq

def BarOffset.text : BarOffset → String
  | current => "current"
  | previous => "previous"

/-- The right side of a condition. -/
inductive Comparand where
  | literal (value : Float)
  | range (low high : Float)
  | indicator (spec : IndicatorSpec) (component : String)
  | price (field : PriceField) (bar : BarOffset)
  | absent
deriving BEq

/-- The timeframe of a condition: the alert's own, or one of its own choice. -/
inductive TimeframeChoice where
  | same
  | specific (timeframe : Timeframe)
deriving DecidableEq

/-- The timeframe chosen, `base` being the alert's own. -/
def TimeframeChoice.resolve (choice : TimeframeChoice) (base : Timeframe) : Timeframe :=
  match choice with
  | same => base
  | specific timeframe => timeframe

/-- One condition. The percentage raises or lowers an indicator on the right side. -/
structure Condition where
  subject : Subject
  operator : Operator
  comparand : Comparand
  timeframe : TimeframeChoice
  percentage : Option Float
deriving BEq

namespace Condition

def kind (condition : Condition) : ConditionKind :=
  match condition.subject with
  | .indicator _ _ => .indicator
  | .price _ => .price
  | .volume => .volume

/-- The indicators the condition reads, left and then right. -/
def indicators (condition : Condition) : List IndicatorSpec :=
  (match condition.subject with
    | .indicator spec _ => [spec]
    | _ => []) ++
  (match condition.comparand with
    | .indicator spec _ => [spec]
    | _ => [])

end Condition

end CandleAlerts
