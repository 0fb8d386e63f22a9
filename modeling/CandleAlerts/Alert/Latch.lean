import CandleAlerts.Time.Instant
import CandleAlerts.Word

/-!
Latches: a playbook entry that was satisfied once keeps counting as satisfied for a while.
-/

namespace CandleAlerts

/-- How long an entry stays latched: until an instant, or for a number of bars. -/
inductive Latch where
  | time (triggeredAt validUntil : Instant)
  | bars (triggeredBarIndex : Int) (validForBars : Nat)
deriving DecidableEq

/-- Whether a latch still holds, at its last instant or bar included. -/
def Latch.isValid (latch : Latch) (barIndex : Int) (now : Instant) : Bool :=
  match latch with
  | .time _ validUntil => now.notAfter validUntil
  | .bars triggeredBarIndex validForBars =>
      let elapsed := Word.sub barIndex triggeredBarIndex
      0 ≤ elapsed && elapsed ≤ validForBars

end CandleAlerts
