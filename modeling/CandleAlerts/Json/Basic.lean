import CandleAlerts.Table
import CandleAlerts.Word

/-!
JSON values.

Integers and doubles are kept apart, as they are written apart. An object keeps its members as they
were written; its normal form has the members sorted by name, and of members with one name the last.
-/

namespace CandleAlerts

/-- A JSON number: an integer of at most 64 bits, or a double. -/
inductive Number where
  | integer (value : Int)
  | double (value : Float)

inductive Json where
  | null
  | boolean (value : Bool)
  | number (value : Number)
  | string (text : String)
  | array (items : List Json)
  | object (members : List (String × Json))

instance : Inhabited Json := ⟨.null⟩

namespace Json

mutual

/-- The value with the members of every object sorted by name, the last of each name alone kept. -/
def normal : Json → Json
  | array items => array (normalItems items)
  | object members => object (normalMembers members).entries
  | scalar => scalar

def normalItems : List Json → List Json
  | [] => []
  | item :: rest => item.normal :: normalItems rest

/-- The normal forms of the members, as a table: a later member of the same name prevails. -/
def normalMembers : List (String × Json) → Table Json
  | [] => Table.empty
  | (name, value) :: rest =>
      let others := normalMembers rest
      if others.contains name then others else others.insert name value.normal

end

/-- A number of a double; a double that is not finite has no number and is written as null. -/
def ofFloat (value : Float) : Json :=
  if value.isFinite then .number (.double value) else .null

def ofInt (value : Int) : Json := .number (.integer value)

def ofNat (value : Nat) : Json := .number (.integer value)

/-- An optional value, null when absent. -/
def ofOption (encode : α → Json) : Option α → Json
  | none => .null
  | some value => encode value

def ofList (encode : α → Json) (items : List α) : Json := .array (items.map encode)

def ofTable (encode : α → Json) (table : Table α) : Json :=
  .object (table.mapValues (fun _ value => encode value)).entries

def isNull : Json → Bool
  | null => true
  | _ => false

def members? : Json → Option (List (String × Json))
  | object members => some members
  | _ => none

def items? : Json → Option (List Json)
  | array items => some items
  | _ => none

def text? : Json → Option String
  | string text => some text
  | _ => none

def bool? : Json → Option Bool
  | boolean value => some value
  | _ => none

/-- The integer from `least` to `greatest` that a value is. A double is no integer, whole or not. -/
def int? (least greatest : Int) : Json → Option Int
  | number (.integer value) => if least ≤ value ∧ value ≤ greatest then some value else none
  | _ => none

/-- The natural number of at most `greatest` that a value is. -/
def nat? (greatest : Nat) (value : Json) : Option Nat :=
  (value.int? 0 greatest).map Int.toNat

/-- A signed 64-bit integer. -/
def int64? (value : Json) : Option Int := value.int? Word.least Word.greatest

def float? : Json → Option Float
  | number (.integer value) => some (Float.ofInt value)
  | number (.double value) => some value
  | _ => none

/-- The last member of a name. -/
def lookup? (members : List (String × Json)) (name : String) : Option Json :=
  (members.reverse.find? (fun member => member.1 == name)).map Prod.snd

def get? (value : Json) (name : String) : Option Json :=
  value.members?.bind (fun members => lookup? members name)

end Json

end CandleAlerts
