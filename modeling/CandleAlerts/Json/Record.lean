import CandleAlerts.Json.Basic

/-!
Reading records from JSON.

A record is an object whose members are its fields, or an array of its fields in their order. A
field may be named once only; members of other names are passed over. A field that is absent is an
error unless it has a default or, in an object, may be null.
-/

namespace CandleAlerts.Json

inductive Record where
  | named (members : List (String × Json))
  | listed (fields : List (String × Json))

namespace Record

def of? (fields : List String) : Json → Option Record
  | .object members =>
      if fields.all (fun field => (members.filter (fun member => member.1 == field)).length ≤ 1) then
        some (.named members)
      else none
  | .array items =>
      if items.length ≤ fields.length then some (.listed (fields.zip items)) else none
  | _ => none

def given? (record : Record) (field : String) : Option Json :=
  match record with
  | named members => lookup? members field
  | listed fields => lookup? fields field

def required? (record : Record) (field : String) (decode : Json → Option α) : Option α :=
  (record.given? field).bind decode

/-- A field that may be null and that an object may leave out. -/
def optional? (record : Record) (field : String) (decode : Json → Option α) : Option (Option α) :=
  match record, record.given? field with
  | _, some .null => some none
  | _, some value => (decode value).map some
  | named _, none => some none
  | listed _, none => none

/-- A field with a default for when it is not given. -/
def defaulted? (record : Record) (field : String) (default : α) (decode : Json → Option α) :
    Option α :=
  match record.given? field with
  | some value => decode value
  | none => some default

end Record

def nullable? (decode : Json → Option α) : Json → Option (Option α)
  | .null => some none
  | value => (decode value).map some

def list? (decode : Json → Option α) (value : Json) : Option (List α) :=
  value.items?.bind (fun items => items.mapM decode)

/-- Every member of an object; the last of each name prevails. -/
def table? (decode : Json → Option α) (value : Json) : Option (Table α) := do
  let members ← value.members?
  let entries ← members.mapM (fun member => (decode member.2).map (fun read => (member.1, read)))
  return Table.ofList entries

/-- A value tagged with the name of its variant: the tag and what else was given, which is an object
with a member of the tag's name or an array that begins with the tag. -/
def tagged? (tag : String) : Json → Option (String × Json)
  | .object members =>
      match members.filter (fun member => member.1 == tag) with
      | [(_, .string variant)] =>
          some (variant, .object (members.filter (fun member => member.1 != tag)))
      | _ => none
  | .array (.string variant :: rest) => some (variant, .array rest)
  | _ => none

end CandleAlerts.Json
