import CandleAlerts.Alert.Basic
import CandleAlerts.Definition.Condition

/-!
Reading an alert from its definition.
-/

namespace CandleAlerts.Definition

def logic? (text : String) : Option Logic :=
  let word := Text.asciiUpper (Text.trim text)
  if word = "AND" ∨ word = "ALL" ∨ word = "&&" then some .all
  else if word = "OR" ∨ word = "ANY" ∨ word = "||" then some .any
  else none

def gate? (text : String) : Option Gate :=
  let word := Text.asciiUpper (Text.trim text)
  if word = "ALL" ∨ word = "AND" then some .all
  else if word = "ANY" ∨ word = "OR" then some .any
  else none

def validityUnit? (text : String) : Option ValidityUnit :=
  let word := Text.asciiLower (Text.trim text)
  if ["bars", "bar", "candles", "candle"].contains word then some .bars
  else if ["minutes", "minute", "mins", "min", "m"].contains word then some .minutes
  else none

def requireValue (field : String) (decode : Json → Option α) (default : α) :
    Option Json → Except DefinitionError α
  | none => .ok default
  | some value =>
      match decode value with
      | some decoded => .ok decoded
      | none => refuseValue field value

/-- Read a playbook entry. Its condition is nested in it or stands among its fields. -/
def readEntry (value : Json) (index : Nat) : Except DefinitionError PlaybookEntry := do
  let fields ← fieldsOf value
  let id := (id? fields Names.entryId).getD (toString index)
  let priority ← requireValue "priority" (Json.int? (-2147483648) 2147483647) index
    (field? fields Names.priority)
  let enabled ← requireValue "enabled" Json.bool? true (field? fields Names.enabled)
  let connector ← readOr "connector_logic" .all logic? (text? fields Names.connector)
  let validity ← requireValue "validity_duration" (Json.nat? (UInt32.size - 1)) 0
    (field? fields Names.validity)
  let validityUnit ← readOr "validity_unit" .bars validityUnit? (text? fields Names.validityUnit)
  let condition ← readCondition ((field? fields Names.condition).getD value)
  return { id, priority, enabled, connector, validity, validityUnit, condition }

def atIndex (index : Nat) : Except DefinitionError α → Except DefinitionError α
  | .ok value => .ok value
  | .error cause => .error (.condition index cause)

/-- Read one more entry, whose id must differ from those before it. -/
def takeEntry (entries : List PlaybookEntry) (given : Json × Nat) :
    Except DefinitionError (List PlaybookEntry) := do
  let entry ← atIndex given.2 (readEntry given.1 given.2)
  if entries.any (fun other => other.id == entry.id) then .error (.duplicateEntry entry.id)
  else return entries ++ [entry]

def readEntries (values : List Json) : Except DefinitionError (List PlaybookEntry) :=
  values.zipIdx.foldlM takeEntry []

/-- The entries of a playbook, in an array or in an object that holds them, and the fields beside
them. -/
def playbookItems (value : Json) (alert : Fields) : Except DefinitionError (List Json × Fields) :=
  match value with
  | .array items => .ok (items, alert)
  | .object members =>
      match (field? members Names.entries).bind Json.items? with
      | some items => .ok (items, members)
      | none => .error .emptyLogic
  | _ => refuse "playbook" "expected an object or array"

/-- Read a playbook. The gate stands beside the entries or, under a narrower name, beside the
playbook. -/
def readPlaybook (value : Json) (alert : Fields) : Except DefinitionError Playbook := do
  let (list, gateFields) ← playbookItems value alert
  if list.isEmpty then .error .emptyLogic
  else
    let gate ← readOr "gate_logic" .all gate?
      ((text? gateFields Names.gate).or (text? alert Names.outerGate))
    return { entries := ← readEntries list, gate }

/-- Read the logic of an alert: a playbook if there is one, else a list of conditions. -/
def alertLogic (fields : Fields) : Except DefinitionError AlertLogic := do
  match field? fields Names.playbook with
  | some value => return .playbook (← readPlaybook value fields)
  | none =>
      match (field? fields Names.conditions).bind Json.items? with
      | none | some [] => .error .emptyLogic
      | some items =>
          let conditions ← items.zipIdx.mapM (fun given => atIndex given.2 (readCondition given.1))
          return .conditions conditions
            (← readOr "logic" .all logic? (text? fields Names.logic))

/-- A webhook to an address of the web. An empty secret is none. -/
def webhook (url : String) (secret : Option String) : Except DefinitionError AlertAction :=
  let url := Text.trim url
  if Text.startsWith url "http://" || Text.startsWith url "https://" then
    .ok (.webhook url (secret.filter (fun secret => !secret.isEmpty)))
  else refuse "url" url

/-- Read what an alert does: named by a text with its particulars among the fields, or an object of
its own. An address alone means a webhook. -/
def alertAction (fields : Fields) : Except DefinitionError AlertAction := do
  match field? fields Names.action with
  | none =>
      match text? fields Names.outerUrl with
      | some url => webhook url (text? fields Names.outerSecret)
      | none => return .nothing
  | some value =>
      let (kind, particulars) ← match value with
        | .string kind => .ok (kind, fields)
        | .object members => .ok ((text? members Names.actionKind).getD "none", members)
        | other => refuseValue "action" other
      let word := Text.asciiLower (Text.trim kind)
      if word = "webhook" then
        webhook (← require "url" (text? particulars Names.url)) (text? particulars Names.secret)
      else if ["in_app", "inapp", "notification", "notify"].contains word then return .inApp
      else if ["bot", "bot_trigger", "trade"].contains word then
        return .bot (← require "bot_id" (id? particulars Names.botId))
      else if word = "none" ∨ word = "" then return .nothing
      else refuse "action" word

def readTimeframe (given : String) : Except DefinitionError Timeframe :=
  match Timeframe.parse? given with
  | some timeframe => .ok timeframe
  | none => .error (.unknownTimeframe given)

/-- Read an alert. A definition that does not say how often it may fire takes the default mode. -/
def readAlert (value : Json) (defaultFireMode : FireMode) : Except DefinitionError Alert := do
  let fields ← fieldsOf value
  let id ← require "id" (id? fields Names.alertId)
  let ownerId := (id? fields Names.ownerId).getD ""
  let symbol ← require "symbol"
    (((text? fields Names.symbol).map (fun given => Text.asciiUpper (Text.trim given))).filter
      (fun symbol => !symbol.isEmpty))
  let given ← require "timeframe" (text? fields Names.alertTimeframe)
  let timeframe ← readTimeframe given
  let logic ← alertLogic fields
  let fireMode ← readOr "fire_mode" defaultFireMode FireMode.parse? (text? fields Names.fireMode)
  let action ← alertAction fields
  return { id, ownerId, symbol, timeframe, logic, fireMode, action }

end CandleAlerts.Definition
