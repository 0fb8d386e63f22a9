import CandleAlerts.Table

/-!
Claims: who first claims a key has it alone until the claim expires.

Keys of work that must be done once are claimed before it is begun. The clock counts nanoseconds,
and a claim that would expire only when it has run out crashes.
-/

namespace CandleAlerts

/-- The keys that are claimed, each with the time from which it is free again. -/
structure Claims where
  expiries : Table Nat := Table.empty

/-- What became of an attempt to claim a key. -/
inductive ClaimOutcome where
  | claimed
  | taken
  | unavailable (reason : String)
  | crashed
deriving DecidableEq

namespace Claims

def alive (claims : Claims) (now : Nat) : Claims :=
  { expiries := claims.expiries.filter (fun _ expiry => now < expiry) }

def holds (claims : Claims) (key : String) (now : Nat) : Bool :=
  (claims.alive now).expiries.contains key

/-- One second on the clock. -/
def second : Nat := 1000000000

/-- The time at which the clock has run out: its seconds are words. -/
def clockEnd : Nat := 9223372036854775808 * second

def claim (claims : Claims) (key : String) (lifetime now : Nat) : ClaimOutcome × Claims :=
  if claims.holds key now then (.taken, claims.alive now)
  else if now + lifetime < clockEnd then
    (.claimed, { expiries := (claims.alive now).expiries.insert key (now + lifetime) })
  else (.crashed, claims.alive now)

end Claims

end CandleAlerts
