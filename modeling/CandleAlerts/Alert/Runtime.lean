import CandleAlerts.Alert.Playbook
import CandleAlerts.Json.Record
import CandleAlerts.Json.Write
import CandleAlerts.Json.Read
import CandleAlerts.Time.Rfc3339

/-!
The state of an alert from one evaluation to the next.
-/

namespace CandleAlerts

structure AlertRuntime where
  latches : Latches := Table.empty
  /-- The opening time of the bar the alert last fired on. -/
  lastFiredAt : Option Int := none
  triggerCount : UInt64 := 0
  lastEvaluatedAt : Option Instant := none
  lastTriggeredAt : Option Instant := none
  /-- How many of the latest evaluations in a row missed a value. -/
  missingStreak : UInt32 := 0
  warnedUnresolvable : Bool := false

instance : Inhabited AlertRuntime := ⟨{}⟩

/-- The consecutive evaluations with a missing value after which an alert is reported. -/
def missingValueWarnAfter : UInt32 := 5

namespace Instant

def toJson (instant : Instant) : Json := .string instant.text

def ofJson? (value : Json) : Option Instant := value.text?.bind parse?

end Instant

namespace Latch

def toJson : Latch → Json
  | time triggeredAt validUntil => .object
      [("kind", .string "time"), ("triggered_at", triggeredAt.toJson),
       ("valid_until", validUntil.toJson)]
  | bars triggeredBarIndex validForBars => .object
      [("kind", .string "bars"), ("triggered_bar_index", .ofInt triggeredBarIndex),
       ("valid_for_bars", .ofNat validForBars)]

def ofJson? (value : Json) : Option Latch := do
  let (kind, fields) ← Json.tagged? "kind" value
  match kind with
  | "time" =>
      let record ← Json.Record.of? ["triggered_at", "valid_until"] fields
      return .time (← record.required? "triggered_at" Instant.ofJson?)
        (← record.required? "valid_until" Instant.ofJson?)
  | "bars" =>
      let record ← Json.Record.of? ["triggered_bar_index", "valid_for_bars"] fields
      return .bars (← record.required? "triggered_bar_index" Json.int64?)
        (← record.required? "valid_for_bars" (Json.nat? (UInt32.size - 1)))
  | _ => none

end Latch

namespace AlertRuntime

def toJson (runtime : AlertRuntime) : Json := .object
  [("latches", .ofTable Latch.toJson runtime.latches),
   ("last_fired_at", .ofOption .ofInt runtime.lastFiredAt),
   ("trigger_count", .ofNat runtime.triggerCount.toNat),
   ("last_evaluated_at", .ofOption Instant.toJson runtime.lastEvaluatedAt),
   ("last_triggered_at", .ofOption Instant.toJson runtime.lastTriggeredAt),
   ("missing_streak", .ofNat runtime.missingStreak.toNat),
   ("warned_unresolvable", .boolean runtime.warnedUnresolvable)]

def fieldNames : List String :=
  ["latches", "last_fired_at", "trigger_count", "last_evaluated_at", "last_triggered_at",
   "missing_streak", "warned_unresolvable"]

def ofJson? (value : Json) : Option AlertRuntime := do
  let record ← Json.Record.of? fieldNames value
  return {
    latches := ← record.defaulted? "latches" Table.empty (Json.table? Latch.ofJson?)
    lastFiredAt := ← record.optional? "last_fired_at" Json.int64?
    triggerCount := UInt64.ofNat
      (← record.defaulted? "trigger_count" 0 (Json.nat? (UInt64.size - 1)))
    lastEvaluatedAt := ← record.optional? "last_evaluated_at" Instant.ofJson?
    lastTriggeredAt := ← record.optional? "last_triggered_at" Instant.ofJson?
    missingStreak := UInt32.ofNat
      (← record.defaulted? "missing_streak" 0 (Json.nat? (UInt32.size - 1)))
    warnedUnresolvable := ← record.defaulted? "warned_unresolvable" false Json.bool? }

def text (runtime : AlertRuntime) : String := runtime.toJson.compact

def parse? (text : String) : Option AlertRuntime :=
  (Json.readAs? (.ofFields fieldNames) text).bind ofJson?

/-- The state after an alert was edited: when it fired and was evaluated stays, while latches and
missing values belonged to the old definition. -/
def afterEdit (runtime : AlertRuntime) : AlertRuntime :=
  { runtime with latches := Table.empty, missingStreak := 0, warnedUnresolvable := false }

/-- Whether an alert that triggered may fire on the bar that opened at `barTime`: once for each bar,
whatever its mode. -/
def mayFire (runtime : AlertRuntime) (barTime : Int) : Bool :=
  runtime.lastFiredAt != some barTime

def recordFired (runtime : AlertRuntime) (barTime : Int) (now : Instant) : AlertRuntime :=
  { runtime with
    lastFiredAt := some barTime
    lastTriggeredAt := some now
    triggerCount := runtime.triggerCount + 1 }

end AlertRuntime

end CandleAlerts
