import CandleAlerts.Journal
import CandleAlerts.Time.Instant

/-!
Delivering a webhook request with retries.

An attempt that is answered with success or a lasting refusal ends the delivery. After any other
attempt the delivery waits, twice as long each time, and tries again until its attempts are used up.
-/

namespace CandleAlerts.Webhook

inductive AttemptResult where
  | status (code : Nat)
  | failure (reason : String)
  | timeout
deriving DecidableEq

inductive StatusClass where
  | delivered
  | retryable
  | rejected
deriving DecidableEq

/-- Success is delivered; a fault of the request is rejected, except that there were too many
requests; anything else may pass. -/
def classifyStatus (code : Nat) : StatusClass :=
  if 200 ≤ code ∧ code ≤ 299 then .delivered
  else if code = 429 then .retryable
  else if 400 ≤ code ∧ code ≤ 499 then .rejected
  else .retryable

/-- Why a delivery failed. -/
inductive DeliveryError where
  | exhausted (attempts : Nat) (reason : String)
  | rejected (status attempts : Nat)
deriving DecidableEq

def DeliveryError.message : DeliveryError → String
  | exhausted attempts reason =>
      "delivery failed after " ++ toString attempts ++ " attempts: " ++ reason
  | rejected status _ => "delivery rejected with status " ++ toString status

/-- How often, how patiently and how long a delivery is tried. Times are in milliseconds. -/
structure RetryPolicy where
  maxRetries : UInt32
  backoffBase : Nat
  timeout : Nat

/-- The end of a delivery. The status is that of the last attempt that was answered. -/
structure DeliveryOutcome where
  attempts : Nat
  status : Option Nat
  error : Option DeliveryError
deriving DecidableEq

/-- A delivery under way: the number of its attempt and the status answered last. -/
structure DeliveryProgress where
  attempt : Nat
  status : Option Nat := none
deriving DecidableEq

inductive DeliveryStep where
  | attempt (wait : Nat) (progress : DeliveryProgress)
  | finished (outcome : DeliveryOutcome)
deriving DecidableEq

namespace RetryPolicy

/-- How many attempts there may be. The greatest count of retries leaves none, for the sum is a
word. -/
def attempts (policy : RetryPolicy) : Nat := (policy.maxRetries + 1).toNat

/-- The longest wait: as many seconds as a word counts. -/
def longestWait : Nat := (UInt64.size - 1) * 1000 + 999

def wait (policy : RetryPolicy) (attempt : Nat) : Nat :=
  min (policy.backoffBase * min (Nat.pow 2 attempt) (UInt32.size - 1)) longestWait

def start (policy : RetryPolicy) : DeliveryStep :=
  if policy.attempts = 0 then
    .finished { attempts := 0, status := none, error := some (.exhausted 0 "") }
  else .attempt 0 { attempt := 1 }

def reason (policy : RetryPolicy) : AttemptResult → String
  | .status code => "status " ++ toString code
  | .failure reason => reason
  | .timeout => "timed out after " ++ spanText policy.timeout

def retry (policy : RetryPolicy) (progress : DeliveryProgress) (status : Option Nat)
    (reason : String) : DeliveryStep :=
  if progress.attempt < policy.attempts then
    .attempt (policy.wait progress.attempt) { attempt := progress.attempt + 1, status }
  else
    .finished
      { attempts := policy.attempts, status, error := some (.exhausted policy.attempts reason) }

def afterAttempt (policy : RetryPolicy) (progress : DeliveryProgress) (result : AttemptResult) :
    DeliveryStep :=
  match result with
  | .status code =>
      match classifyStatus code with
      | .delivered =>
          .finished { attempts := progress.attempt, status := some code, error := none }
      | .rejected =>
          .finished
            { attempts := progress.attempt, status := some code
              error := some (.rejected code progress.attempt) }
      | .retryable => policy.retry progress (some code) (policy.reason result)
  | _ => policy.retry progress progress.status (policy.reason result)

end RetryPolicy

def DeliveryOutcome.journal (outcome : DeliveryOutcome) (url eventId : String) : Journal :=
  match outcome.error with
  | none => ({} : Journal).count .webhookDelivered 1
  | some (.rejected status _) =>
      (({} : Journal).count (.webhookFailed "terminal") 1).warn
        (.webhookRejected url eventId status)
  | some (.exhausted attempts reason) =>
      (({} : Journal).count (.webhookFailed "exhausted") 1).warn
        (.retriesExhausted url eventId attempts reason)

end CandleAlerts.Webhook
