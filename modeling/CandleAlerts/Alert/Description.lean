import CandleAlerts.Alert.Basic
import CandleAlerts.Json.Write

/-!
Alerts described in JSON, as they are understood after reading their definitions.
-/

namespace CandleAlerts

def IndicatorSpec.toJson (spec : IndicatorSpec) : Json := .object
  [("name", .string spec.name), ("params", .ofTable Json.ofAnyFloat spec.parameters),
   ("display", .string spec.text)]

def Subject.toJson : Subject → Json
  | indicator spec component => .object
      [("spec", spec.toJson), ("component", .string component)]
  | price field => .object [("field", .string field.text)]
  | volume => .object []

def Comparand.toJson : Comparand → Json
  | literal value => .object [("mode", .string "literal"), ("value", .ofAnyFloat value)]
  | range low high => .object
      [("mode", .string "range"), ("low", .ofAnyFloat low), ("high", .ofAnyFloat high)]
  | indicator spec component => .object
      [("mode", .string "indicator"), ("spec", spec.toJson), ("component", .string component)]
  | price field bar => .object
      [("mode", .string "price_field"), ("field", .string field.text), ("bar", .string bar.text)]
  | absent => .object [("mode", .string "none")]

def TimeframeChoice.text : TimeframeChoice → String
  | same => "same"
  | specific timeframe => timeframe.text

def Condition.toJson (condition : Condition) : Json := .object
  [("kind", .string condition.kind.text), ("subject", condition.subject.toJson),
   ("operator", .string condition.operator.text), ("compare", condition.comparand.toJson),
   ("timeframe", .string condition.timeframe.text),
   ("percentage", .ofOption Json.ofAnyFloat condition.percentage),
   ("indicators", .ofList (fun spec => .string spec.text) condition.indicators)]

def PlaybookEntry.toJson (entry : PlaybookEntry) : Json := .object
  [("id", .string entry.id), ("priority", .ofInt entry.priority),
   ("enabled", .boolean entry.enabled), ("connector", .string entry.connector.text),
   ("validity", .ofNat entry.validity), ("validity_unit", .string entry.validityUnit.text),
   ("condition", entry.condition.toJson)]

def AlertAction.toJson : AlertAction → Json
  | webhook url secret => .object
      [("type", .string "webhook"), ("url", .string url), ("secret", .ofOption .string secret)]
  | inApp => .object [("type", .string "in_app")]
  | bot botId => .object [("type", .string "bot"), ("bot_id", .string botId)]
  | nothing => .object [("type", .string "none")]

def AlertLogic.toJson : AlertLogic → Json
  | .conditions list logic => .object
      [("type", .string "conditions"), ("logic", .string logic.text),
       ("conditions", .ofList Condition.toJson list)]
  | .playbook given => .object
      [("type", .string "playbook"), ("gate", .string given.gate.text),
       ("entries", .ofList PlaybookEntry.toJson given.entries)]

namespace Alert

def timeframeTexts (alert : Alert) : List String :=
  ((alert.requiredTimeframes.mergeSort
    (fun first second => first.seconds ≤ second.seconds)).eraseDups).map Timeframe.text

/-- The indicators an alert needs, each once, in the order of their texts. -/
def indicatorTexts (alert : Alert) : List String :=
  ((alert.requiredIndicators.eraseDupsBy
    (fun first second => first.1 == second.1 && first.2.same second.2)).map
    (fun need => need.1.text ++ " " ++ need.2.text)).mergeSort (fun first second => first ≤ second)

def toJson (alert : Alert) : Json := .object
  [("id", .string alert.id), ("owner_id", .string alert.ownerId), ("symbol", .string alert.symbol),
   ("timeframe", .string alert.timeframe.text), ("fire_mode", .string alert.fireMode.text),
   ("action", alert.action.toJson), ("logic", alert.logic.toJson),
   ("required_timeframes", .ofList .string alert.timeframeTexts),
   ("required_indicators", .ofList .string alert.indicatorTexts)]

end Alert

end CandleAlerts
