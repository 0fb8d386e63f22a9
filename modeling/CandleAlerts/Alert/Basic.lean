import CandleAlerts.Condition.Basic

/-!
Alerts: when to tell whom what a market does.
-/

namespace CandleAlerts

/-- How conditions are joined. -/
inductive Logic where
  | all
  | any
deriving DecidableEq

def Logic.text : Logic → String
  | all => "AND"
  | any => "OR"

/-- What the validity of a playbook entry is counted in. -/
inductive ValidityUnit where
  | bars
  | minutes
deriving DecidableEq

def ValidityUnit.text : ValidityUnit → String
  | bars => "bars"
  | minutes => "minutes"

/-- One entry of a playbook. The connector joins it to the entries before; a validity of zero means
that it is never latched. -/
structure PlaybookEntry where
  id : String
  priority : Int
  enabled : Bool
  connector : Logic
  validity : Nat
  validityUnit : ValidityUnit
  condition : Condition
deriving BEq

/-- What a playbook asks of its entries: their joined value, or any one of them. -/
inductive Gate where
  | all
  | any
deriving DecidableEq

def Gate.text : Gate → String
  | all => "ALL"
  | any => "ANY"

/-- Conditions with priorities, connectors and latches. -/
structure Playbook where
  entries : List PlaybookEntry
  gate : Gate
deriving BEq

/-- How often an alert may fire. -/
inductive FireMode where
  | perBar
  | perClose
  | perTick
deriving DecidableEq

namespace FireMode

/-- The names of a mode, in lower case; the first is the one it is written with. -/
def names : FireMode → List String
  | perBar => ["per_bar", "once_per_bar", "bar"]
  | perClose => ["per_close", "once_per_bar_close", "on_close", "close"]
  | perTick => ["per_tick", "every_tick", "tick"]

def all : List FireMode := [perBar, perClose, perTick]

/-- Read a mode's name, in either letter case and with blanks around it. -/
def parse? (text : String) : Option FireMode :=
  let name := Text.asciiLower (Text.trim text)
  all.find? (fun mode => mode.names.contains name)

def text : FireMode → String
  | perBar => "per_bar"
  | perClose => "per_close"
  | perTick => "per_tick"

end FireMode

/-- What an alert does by itself when it fires. -/
inductive AlertAction where
  | webhook (url : String) (secret : Option String)
  | inApp
  | bot (botId : String)
  | nothing
deriving DecidableEq

inductive AlertLogic where
  | conditions (conditions : List Condition) (logic : Logic)
  | playbook (playbook : Playbook)
deriving BEq

structure Alert where
  id : String
  ownerId : String
  symbol : String
  timeframe : Timeframe
  logic : AlertLogic
  fireMode : FireMode
  action : AlertAction
deriving BEq

namespace Alert

def conditions (alert : Alert) : List Condition :=
  match alert.logic with
  | .conditions conditions _ => conditions
  | .playbook playbook => playbook.entries.map PlaybookEntry.condition

/-- Every indicator the alert needs, with the timeframe it is needed on. -/
def requiredIndicators (alert : Alert) : List (Timeframe × IndicatorSpec) :=
  alert.conditions.flatMap (fun condition =>
    condition.indicators.map (fun spec => (condition.timeframe.resolve alert.timeframe, spec)))

/-- Every timeframe the alert reads, its own among them. -/
def requiredTimeframes (alert : Alert) : List Timeframe :=
  alert.timeframe :: alert.conditions.map (fun condition =>
    condition.timeframe.resolve alert.timeframe)

end Alert

end CandleAlerts
