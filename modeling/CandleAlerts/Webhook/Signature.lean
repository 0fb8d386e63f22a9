import CandleAlerts.Decimal.Read
import CandleAlerts.Decimal.Written
import CandleAlerts.Hash.Keyed
import CandleAlerts.Text.Blank
import CandleAlerts.Text.Hex
import CandleAlerts.Text.Letters

/-!
Signatures of webhook requests.

A request is signed with a secret over its timestamp and its body. The signature header carries the
timestamp and the tag: `t=1700000000,s=5eb4…`. What makes tags is a parameter, so nothing here
depends on it.
-/

namespace CandleAlerts.Webhook

/-- The message that a tag is made of: the timestamp, a point, the body. -/
def signedMessage (timestamp : Int) (body : String) : String :=
  String.ofList (Decimal.writeInt timestamp ++ '.' :: body.toList)

def sign (mac : Mac) (secret : String) (timestamp : Int) (body : String) : String :=
  String.ofList (Text.hexOfBytes (mac secret (signedMessage timestamp body)))

structure SignatureHeader where
  timestamp : Int
  signature : String
deriving DecidableEq

namespace SignatureHeader

def text (header : SignatureHeader) : String :=
  String.ofList ('t' :: '=' :: (Decimal.writeInt header.timestamp ++ ',' :: 's' :: '=' ::
    header.signature.toList))

/-- What the parts of a header have said so far. A timestamp that cannot be read undoes one read
before. -/
structure Parts where
  timestamp : Option Int := none
  signature : Option (List Char) := none

/-- Take in one part of a header; parts of other names are passed over. -/
def Parts.take (parts : Parts) (part : List Char) : Parts :=
  match Text.splitAtFirst? '=' (Text.trimBlanks part) with
  | some (['t'], value) => { parts with timestamp := (Decimal.readInt64 value).toOption }
  | some (['s'], value) => { parts with signature := some value }
  | _ => parts

/-- Read a header: parts with commas between them. -/
def parse? (text : String) : Option SignatureHeader :=
  let parts := (Text.splitAtEach ',' text.toList).foldl Parts.take {}
  match parts.timestamp, parts.signature with
  | some timestamp, some signature =>
      if signature.isEmpty then none
      else some { timestamp, signature := String.ofList signature }
  | _, _ => none

end SignatureHeader

def signatureHeader (mac : Mac) (secret : String) (timestamp : Int) (body : String) :
    SignatureHeader :=
  { timestamp, signature := sign mac secret timestamp body }

/-- Why a signed request is refused. -/
inductive VerifyError where
  | malformedHeader
  | expired (maxAge : Nat)
  | badSignature
  | missingEventId
  | eventIdMismatch (header signed : String)
  | duplicate (eventId : String)
  | store (reason : String)
  /-- Verifying the request crashed; it is not answered. -/
  | crashed (reason : String)
deriving DecidableEq

def VerifyError.message : VerifyError → String
  | malformedHeader => "malformed signature header"
  | expired maxAge => "signature older than " ++ toString maxAge ++ "s"
  | badSignature => "signature mismatch"
  | missingEventId => "signed body carries no eventId"
  | eventIdMismatch header signed =>
      "event id header `" ++ header ++ "` does not match signed eventId `" ++ signed ++ "`"
  | duplicate eventId => "event " ++ eventId ++ " already processed"
  | store reason => "dedup store unavailable: " ++ reason
  | crashed reason => reason

/-- Check the signature of a body. The timestamp must lie within `maxAge` seconds of `now`, before
or after. -/
def checkSignature (mac : Mac) (secret body header : String) (maxAge : Nat) (now : Int) :
    Except VerifyError Unit :=
  match SignatureHeader.parse? header with
  | none => .error .malformedHeader
  | some given =>
      if maxAge < (now - given.timestamp).natAbs then .error (.expired maxAge)
      else if Text.bytesOfHex? given.signature.toList =
          some (mac secret (signedMessage given.timestamp body)) then .ok ()
      else .error .badSignature

end CandleAlerts.Webhook
