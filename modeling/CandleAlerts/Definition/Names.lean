/-!
The names that the fields of an alert definition go by.

A field is given under any name of its list; the first name that is present and not null counts.
-/

namespace CandleAlerts.Definition.Names

def alertId : List String := ["id", "alert_id", "alertId"]
def ownerId : List String := ["owner_id", "ownerId", "user_id", "userId"]
def symbol : List String := ["symbol", "ticker"]
def alertTimeframe : List String := ["timeframe", "base_timeframe", "baseTimeframe", "interval"]
def fireMode : List String := ["fire_mode", "fireMode", "trigger_frequency", "triggerFrequency"]
def playbook : List String := ["playbook"]
def conditions : List String := ["conditions"]
def logic : List String := ["logic", "group_logic", "groupLogic", "condition_logic"]

def entries : List String := ["entries", "conditions"]
def gate : List String := ["gate", "gate_logic", "gateLogic"]
def outerGate : List String := ["gate_logic", "gateLogic"]
def entryId : List String := ["id", "entry_id", "entryId"]
def priority : List String := ["priority", "order"]
def enabled : List String := ["enabled", "is_enabled", "active"]
def connector : List String := ["connector", "connector_logic", "connectorLogic", "logic"]
def validity : List String := ["validity_duration", "validityDuration", "validity"]
def validityUnit : List String := ["validity_unit", "validityUnit"]
def condition : List String := ["condition"]

def operator : List String := ["operator", "op", "comparison"]
def kind : List String := ["kind", "type", "condition_type"]
def indicatorHint : List String := ["indicator", "indicator_name", "indicatorName"]
def component : List String := ["component", "output", "indicator_component"]
def priceField : List String := ["field", "price_field", "priceField", "source"]
def conditionTimeframe : List String := ["timeframe", "tf"]
def percentage : List String := ["percentage", "percent", "pct", "offset_percent"]

def compareMode : List String := ["compare_mode", "compareMode", "compare_to", "compareTo"]
def value : List String := ["value", "compare_value", "compareValue", "threshold"]
def compareIndicator : List String := ["compare_indicator", "compareIndicator"]
def compareParameters : List String := ["compare_params", "compareParams"]
def nestedComponent : List String := ["component", "output"]
def compareComponent : List String := ["compare_component", "compareComponent"]
def compareField : List String := ["compare_field", "compareField"]
def comparePriceField : List String := ["compare_field", "compareField", "value"]
def rangeValue : List String := ["value", "compare_value", "compareValue", "range"]
def low : List String := ["low", "min", "lower", "value_min"]
def high : List String := ["high", "max", "upper", "value_max"]

def indicator : List String := ["indicator", "indicator_name", "indicatorName", "name", "pattern"]
def parameters : List String := ["params", "parameters", "indicator_params"]

/-- Parameters that may stand beside the other fields of a condition. -/
def inlineParameters : List String :=
  ["period", "fast", "slow", "signal", "std_dev", "stddev", "length"]

def action : List String := ["action", "action_type", "actionType"]
def actionKind : List String := ["type", "kind"]
def outerUrl : List String := ["webhook_url", "webhookUrl"]
def outerSecret : List String := ["webhook_secret", "webhookSecret"]
def url : List String := ["url", "webhook_url", "webhookUrl"]
def secret : List String := ["secret", "webhook_secret", "webhookSecret"]
def botId : List String := ["bot_id", "botId"]

end CandleAlerts.Definition.Names
