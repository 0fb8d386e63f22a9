import CandleAlerts.Json.Write
import CandleAlerts.Decimal.Read
import CandleAlerts.Text.Blank

/-!
Reading the fields of an alert definition, and why a definition is refused.
-/

namespace CandleAlerts

/-- Why a definition is refused. -/
inductive DefinitionError where
  | notAnObject
  | missingField (field : String)
  | invalidField (field reason : String)
  | unknownOperator (given : String)
  | unknownTimeframe (given : String)
  | emptyLogic
  | duplicateEntry (id : String)
  /-- The condition or entry at a position is refused. -/
  | condition (index : Nat) (cause : DefinitionError)

def DefinitionError.message : DefinitionError → String
  | notAnObject => "alert definition must be a JSON object"
  | missingField field => "missing required field `" ++ field ++ "`"
  | invalidField field reason => "invalid value for `" ++ field ++ "`: " ++ reason
  | unknownOperator given => "unknown operator `" ++ given ++ "`"
  | unknownTimeframe given => "unknown timeframe `" ++ given ++ "`"
  | emptyLogic => "alert has neither conditions nor a playbook"
  | duplicateEntry id => "duplicate playbook entry id `" ++ id ++ "`"
  | condition index cause => "condition " ++ toString index ++ ": " ++ cause.message

namespace Definition

/-- The members of a definition, in normal form. -/
abbrev Fields := List (String × Json)

def fieldsOf (value : Json) : Except DefinitionError Fields :=
  match value with
  | .object members => .ok members
  | _ => .error .notAnObject

def given? (fields : Fields) (name : String) : Option Json :=
  (Json.lookup? fields name).filter (fun value => !value.isNull)

/-- What is given for a field: the first of its names that is present and not null. -/
def field? (fields : Fields) (names : List String) : Option Json :=
  names.findSome? (given? fields)

/-- The text given for a field. A field that is given as something else counts as not given. -/
def text? (fields : Fields) (names : List String) : Option String :=
  (field? fields names).bind Json.text?

/-- An id: a text that is not blank, without the blanks at its ends, or a number as it is
written. -/
def id? (fields : Fields) (names : List String) : Option String :=
  match field? fields names with
  | some (.string text) =>
      let trimmed := Text.trim text
      if trimmed.isEmpty then none else some trimmed
  | some (.number value) => some (String.ofList (Json.numberText value))
  | _ => none

def number? (value : Json) : Option Float :=
  let number := match value with
    | .string text => Decimal.readFloat? (Text.trimBlanks text.toList)
    | other => other.float?
  number.filter Float.isFinite

def refuse (field reason : String) : Except DefinitionError α :=
  .error (.invalidField field reason)

def refuseValue (field : String) (value : Json) : Except DefinitionError α :=
  refuse field value.compact

def require (field : String) : Option α → Except DefinitionError α
  | some value => .ok value
  | none => .error (.missingField field)

def requireNumber (field : String) (value : Json) : Except DefinitionError Float :=
  match number? value with
  | some number => .ok number
  | none => refuseValue field value

/-- Read a text if one is given, and refuse one that cannot be read. -/
def readOr (field : String) (default : α) (read? : String → Option α) :
    Option String → Except DefinitionError α
  | none => .ok default
  | some given =>
      match read? given with
      | some value => .ok value
      | none => refuse field given

end Definition

end CandleAlerts
