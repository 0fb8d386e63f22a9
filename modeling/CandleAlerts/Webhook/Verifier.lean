import CandleAlerts.Claims
import CandleAlerts.Json.Read
import CandleAlerts.Webhook.Signature

/-!
Verifying signed requests on the receiver's side: the signature, its age, the event the body names,
and that no request for the event was accepted before.
-/

namespace CandleAlerts.Webhook

/-- A receiver that holds a secret and accepts signatures up to an age in seconds. -/
structure Verifier where
  secret : String
  maxAge : Nat

def signedEventId? (body : String) : Option String :=
  (((Json.parse? body).bind (fun value => value.get? "eventId")).bind Json.text?).filter
    (fun id => !id.isEmpty)

def claimKey (eventId : String) : String := "webhook:" ++ eventId

namespace Verifier

/-- The event id of a request that is signed as it must be. -/
def examine (mac : Mac) (verifier : Verifier) (body header eventIdHeader : String) (now : Int) :
    Except VerifyError String := do
  checkSignature mac verifier.secret body header verifier.maxAge now
  match signedEventId? body with
  | none => .error .missingEventId
  | some signed =>
      if signed = eventIdHeader then .ok signed
      else .error (.eventIdMismatch eventIdHeader signed)

/-- How long an accepted event id is remembered, on the clock of claims: as long as a signature for
it can stay fresh. -/
def memory (verifier : Verifier) : Nat := 2 * verifier.maxAge * Claims.second

/-- The longest span of time, in seconds, is the greatest word. -/
def memoryFits (verifier : Verifier) : Bool := 2 * verifier.maxAge < UInt64.size

/-- The answer to a request for an event, by what became of the claim on it. -/
def settle (eventId : String) : ClaimOutcome → Except VerifyError String
  | .claimed => .ok eventId
  | .taken => .error (.duplicate eventId)
  | .unavailable reason => .error (.store reason)
  | .crashed => .error (.crashed "overflow when adding duration to instant")

/-- What becomes of a request whose event cannot be remembered for long enough. -/
def memoryOverflow : VerifyError := .crashed "overflow when multiplying duration by scalar"

/-- Claim the event of a request that passed every other check. -/
def claimEvent (verifier : Verifier) (claims : Claims) (eventId : String) (clock : Nat) :
    Except VerifyError String × Claims :=
  if verifier.memoryFits then
    let (outcome, claims) := claims.claim (claimKey eventId) verifier.memory clock
    (settle eventId outcome, claims)
  else (.error memoryOverflow, claims)

/-- Verify a request. Only one that passes every other check claims its event id. -/
def verify (mac : Mac) (verifier : Verifier) (claims : Claims) (body header eventIdHeader : String)
    (now : Int) (clock : Nat) : Except VerifyError String × Claims :=
  match verifier.examine mac body header eventIdHeader now with
  | .error refusal => (.error refusal, claims)
  | .ok eventId => verifier.claimEvent claims eventId clock

end Verifier

end CandleAlerts.Webhook
