import CandleAlerts.Json.Read

/-!
What is known of a JSON value before its text has been read to the end.

A text may be refused for the shape of its value as soon as that is known, whatever follows. An
outline is what has been read of a value, and it refutes a shape when no more need be read to see
that the value does not have it.
-/

namespace CandleAlerts.Json

/-- What is known of a value. -/
inductive Outline where
  | unknown
  | complete (value : Json)
  /-- An open array: its complete items, and what is known of the one that follows. -/
  | array (items : List Json) (next : Outline)
  /-- An open object: its complete members, and the name of the one that follows with what is known
  of it. -/
  | object (members : List (String × Json)) (next : Option (String × Outline))

/-- What is known of an open array or object when it is known what follows its complete parts. -/
def Frame.outline (next : Outline) : Frame → Outline
  | .array _ items => .array items.reverse next
  | .object _ members => .object members.reverse none
  | .member _ members name => .object members.reverse (some (name, next))

def Reader.outline (reader : Reader) : Outline :=
  reader.stack.foldl Frame.outline
    (match reader.expected with
    | .nothing value => .complete value
    | _ => .unknown)

/-- A field that a record must have, and when a value is seen to be no value of it. -/
structure Field where
  name : String
  refutes : Outline → Bool

namespace Outline

def refutesText : Outline → Bool
  | unknown | complete (.string _) => false
  | _ => true

def isVariant (variants : List String) : Json → Bool
  | .string name => variants.contains name
  | _ => false

/-- Whether an open value is seen to be no variant that a tag names. What stands beside the tag is
not looked at before the value is complete. -/
def refutesTag (tag : String) (variants : List String) : Outline → Bool
  | array [] next => next.refutesText
  | array (first :: _) _ => !isVariant variants first
  | object members next =>
      let tags := members.filter (fun member => member.1 == tag)
      let follows := next.any (fun member => member.1 == tag)
      match tags with
      | [] => follows && next.any (fun member => member.2.refutesText)
      | [(_, value)] => follows || !isVariant variants value
      | _ => true
  | _ => false

/-- Whether parts of a record are seen not to be its fields: a field is repeated, or is not what it
should be. -/
def refutesParts (fields : List Field) (parts : List (String × Outline)) : Bool :=
  fields.any (fun field =>
    let given := parts.filter (fun part => part.1 == field.name)
    1 < given.length || given.any (fun part => field.refutes part.2))

/-- Whether a value is seen to be no record. An array that is too long has the right shape, for the
record ends with its last field. -/
def refutesRecord (fields : List Field) (outline : Outline) : Bool :=
  let names := fields.map Field.name
  let members (complete : List (String × Json)) : List (String × Outline) :=
    complete.map (fun member => (member.1, .complete member.2))
  match outline with
  | unknown => false
  | complete (.object given) =>
      !names.all (fun name => given.any (fun member => member.1 == name)) ||
        refutesParts fields (members given)
  | complete (.array items) =>
      items.length < fields.length || refutesParts fields (names.zip (items.map .complete))
  | complete _ => true
  | array items next => refutesParts fields (names.zip (items.map .complete ++ [next]))
  | object given next => refutesParts fields (members given ++ next.toList)

end Outline

end CandleAlerts.Json
