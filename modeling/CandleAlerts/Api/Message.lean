import CandleAlerts.Json.Write
import CandleAlerts.Json.Read
import CandleAlerts.Text.Hex
import CandleAlerts.Text.Letters

/-!
Requests and responses of the internal API.
-/

namespace CandleAlerts.Api

/-- A request. Header names are compared without regard to letter case. -/
structure Request where
  method : String
  /-- The path asked for, with a query or a fragment; it may be absolute. -/
  target : String
  headers : List (String × String)
  body : String

/-- A response; without a body of its own for what the router itself refuses, and without a status
when the connection ends unanswered. -/
structure Response where
  status : Option Nat
  body : Option Json

/-- Why a request is refused before it reaches its operation. -/
inductive Rejection where
  | noRoute
  | wrongMethod
  | notJson
  | malformedJson
  | wrongShape
  | malformedPath
deriving DecidableEq

def Rejection.status : Rejection → Nat
  | noRoute => 404
  | wrongMethod => 405
  | notJson => 415
  | malformedJson => 400
  | wrongShape => 422
  | malformedPath => 400

def Rejection.response (rejection : Rejection) : Response :=
  { status := some rejection.status, body := none }

namespace Request

/-- The first header of a name. -/
def header? (request : Request) (name : String) : Option String :=
  (request.headers.find? (fun header => Text.asciiLower header.1 == Text.asciiLower name)).map
    Prod.snd

/-- The first header of a name, if it is text: visible ASCII characters, blanks and tabs. -/
def textHeader? (request : Request) (name : String) : Option String :=
  (request.header? name).filter (fun value => value.toList.all (fun character =>
    (32 ≤ character.toNat && character.toNat < 127) || character == '\t'))

end Request

/-- What stands after the scheme and the host of an absolute target. -/
def afterHost? (target : List Char) : Option (List Char) :=
  let inScheme (character : Char) : Bool :=
    character.isAlphanum || character == '+' || character == '-' || character == '.'
  match target.dropWhile inScheme with
  | ':' :: '/' :: '/' :: rest =>
      some (rest.dropWhile (fun character =>
        character != '/' && character != '?' && character != '#'))
  | _ => none

/-- The path of a target, its query and its fragment left aside. -/
def targetPath (target : List Char) : List Char :=
  let asked := if target.head? == some '/' then target else (afterHost? target).getD target
  match asked.takeWhile (fun character => character != '?' && character != '#') with
  | [] => ['/']
  | path => path

def percentDecoded : List UInt8 → List UInt8
  | 0x25 :: high :: low :: rest =>
      match Text.hexValue? (Char.ofNat high.toNat), Text.hexValue? (Char.ofNat low.toNat) with
      | some highValue, some lowValue =>
          UInt8.ofNat (highValue * 16 + lowValue) :: percentDecoded rest
      | _, _ => 0x25 :: percentDecoded (high :: low :: rest)
  | byte :: rest => byte :: percentDecoded rest
  | [] => []

/-- A part of a path with its percent escapes undone, if that leaves text. -/
def decodePathPart? (part : String) : Option String :=
  String.fromUTF8? ⟨(percentDecoded part.toUTF8.toList).toArray⟩

end CandleAlerts.Api
