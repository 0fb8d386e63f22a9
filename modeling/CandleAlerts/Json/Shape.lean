import CandleAlerts.Json.Basic

/-!
How much of a JSON value is wanted.

Who reads a record wants the members it knows. The others are passed over: only their form is looked
at, so that they may hold numbers beyond the doubles and unpaired surrogates, and may be nested as
deeply as they like.
-/

namespace CandleAlerts.Json

/-- How much of a value is wanted. -/
inductive Shape where
  /-- All of it. -/
  | whole
  /-- The fields of a record: the members of these names, or the items of an array in this order. -/
  | record (fields : List (String × Shape))
  /-- Nothing. -/
  | passed

namespace Shape

def ofFields (names : List String) : Shape := .record (names.map (fun name => (name, .whole)))

def isPassed : Shape → Bool
  | passed => true
  | _ => false

def member (shape : Shape) (name : String) : Shape :=
  match shape with
  | whole => whole
  | record fields => ((fields.find? (fun field => field.1 == name)).map Prod.snd).getD passed
  | passed => passed

def item (shape : Shape) (before : List Json) : Shape :=
  match shape with
  | whole => whole
  | record fields => (fields[before.length]?.map Prod.snd).getD whole
  | passed => passed

end Shape

end CandleAlerts.Json
