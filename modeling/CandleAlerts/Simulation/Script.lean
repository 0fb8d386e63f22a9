import CandleAlerts.Market.Candle
import CandleAlerts.Table

/-!
Scripted collaborators: what a market and the receivers of webhooks reply in a simulation, and after
how long.
-/

namespace CandleAlerts.Simulation

/-- Replies that are given in order; the last is given again and again. -/
abbrev Script (ρ : Type u) := List ρ

namespace Script

def next : Script ρ → Option ρ × Script ρ
  | [] => (none, [])
  | [last] => (some last, [last])
  | first :: second :: rest => (some first, second :: rest)

end Script

/-- A reply after a delay in milliseconds. -/
structure Reply (α : Type u) where
  delay : Nat := 0
  answer : α

inductive MarketAnswer where
  | candles (candles : List Candle)
  | failure (reason : String)
  /-- Whoever asked does not survive it. -/
  | crash

inductive ReceiverAnswer where
  | status (code : Nat)
  | failure (reason : String)
  | crash

end CandleAlerts.Simulation
