import CandleAlerts.Condition.Evaluation
import CandleAlerts.Proofs.WellFormedDefinitions

/-!
The answers that evaluation never has to fall back on.

Evaluation is total: where the operator and the right side of a condition do not belong together, it
answers all the same. To say that it never gets there, the fallbacks are made parameters. With those
that evaluation has, the evaluator with parameters is the evaluator; on a well formed condition it
is the evaluator with any.
-/

namespace CandleAlerts

/-- What evaluation comes to where an operator and a right side do not belong together. -/
structure Fallbacks where
  /-- A range under another operator than `between`. -/
  strayRange : Except MissingValue Bool
  /-- The value of a right side that is none or a range. -/
  noValue : Except MissingValue Float
  /-- The comparison of two values by `between` or `pattern`. -/
  noComparison : Except MissingValue Bool

/-- The fallbacks that evaluation has: not satisfied, and no number. -/
def Fallbacks.unsatisfied : Fallbacks where
  strayRange := .ok false
  noValue := .ok (0.0 / 0.0)
  noComparison := .ok false

namespace Operator

def holdsOr (noComparison : Except MissingValue Bool) (operator : Operator) (left right : Float) :
    Except MissingValue Bool :=
  match operator with
  | .between | .pattern => noComparison
  | operator => .ok (operator.holds left right)

theorem holdsOr_false (operator : Operator) (left right : Float) :
    operator.holdsOr (.ok false) left right = .ok (operator.holds left right) := by
  cases operator <;> rfl

theorem holdsOr_eq (noComparison : Except MissingValue Bool) {operator : Operator}
    (notBetween : operator ≠ .between) (notPattern : operator ≠ .pattern) (left right : Float) :
    operator.holdsOr noComparison left right = .ok (operator.holds left right) := by
  cases operator <;> first | rfl | exact absurd rfl notBetween | exact absurd rfl notPattern

end Operator

namespace Frame

def comparandValueOr (noValue : Except MissingValue Float) (frame : Frame)
    (condition : Condition) : Except MissingValue Float :=
  match condition.comparand with
  | .absent | .range _ _ => noValue
  | _ => frame.comparandValue condition

/-- Evaluation on a frame with each fallback left open. -/
def satisfiesOr (fallbacks : Fallbacks) (frame : Frame) (condition : Condition) :
    Except MissingValue Bool := do
  let left ← frame.subjectValue condition.subject
  if condition.operator = .pattern then return left != 0.0
  match condition.comparand with
  | .range low high =>
      match condition.operator with
      | .between => return low ≤ left && left ≤ high
      | _ => fallbacks.strayRange
  | _ =>
      condition.operator.holdsOr fallbacks.noComparison left
        (← frame.comparandValueOr fallbacks.noValue condition)

variable (frame : Frame) (condition : Condition)

theorem comparandValueOr_nan :
    frame.comparandValueOr (.ok (0.0 / 0.0)) condition = frame.comparandValue condition := by
  unfold comparandValueOr comparandValue
  cases condition.comparand <;> rfl

theorem comparandValueOr_eq (noValue : Except MissingValue Float)
    (given : condition.comparand ≠ .absent)
    (single : ∀ low high, condition.comparand ≠ .range low high) :
    frame.comparandValueOr noValue condition = frame.comparandValue condition := by
  unfold comparandValueOr
  cases right : condition.comparand with
  | range low high => exact absurd right (single low high)
  | absent => exact absurd right given
  | literal value => rfl
  | indicator spec component => rfl
  | price field bar => rfl

/-- Once the left side is read, what is left depends on the right side and the operator alone. -/
theorem satisfiesOr_unsatisfied :
    frame.satisfiesOr .unsatisfied condition = frame.satisfies condition := by
  unfold satisfiesOr satisfies
  refine congrArg _ (funext fun left => ?_)
  split
  · rfl
  · simp only [Fallbacks.unsatisfied, comparandValueOr_nan, Operator.holdsOr_false]
    cases condition.comparand with
    | range low high => cases condition.operator <;> rfl
    | literal value => rfl
    | indicator spec component => rfl
    | price field bar => rfl
    | absent => rfl

theorem satisfiesOr_eq (fallbacks : Fallbacks) (wellFormed : condition.WellFormed) :
    frame.satisfiesOr fallbacks condition = frame.satisfies condition := by
  unfold satisfiesOr satisfies
  refine congrArg _ (funext fun left => ?_)
  split
  · rfl
  · rename_i notPattern
    have given : condition.comparand ≠ .absent := fun absent =>
      notPattern (wellFormed.pattern_iff.2 absent)
    by_cases between : condition.operator = .between
    · rcases wellFormed.between_iff.1 between with ⟨low, high, range⟩
      rw [range, between]
      rfl
    · have single : ∀ low high, condition.comparand ≠ .range low high :=
        fun low high range => between (wellFormed.between_iff.2 ⟨low, high, range⟩)
      simp only [frame.comparandValueOr_eq condition fallbacks.noValue given single,
        Operator.holdsOr_eq _ between notPattern]
      cases right : condition.comparand with
      | range low high => exact absurd right (single low high)
      | absent => exact absurd right given
      | literal value => rfl
      | indicator spec component => rfl
      | price field bar => rfl

end Frame

namespace Snapshot

/-- Evaluation with each fallback left open. -/
def satisfiesOr (fallbacks : Fallbacks) (snapshot : Snapshot) (condition : Condition) :
    Except MissingValue Bool :=
  let timeframe := condition.timeframe.resolve snapshot.base
  match snapshot.frame? timeframe with
  | none => .error (.frame timeframe)
  | some frame => frame.satisfiesOr fallbacks condition

variable (snapshot : Snapshot) (condition : Condition)

/-- Evaluation is evaluation with the fallbacks it has, on well formed conditions and on others. -/
theorem satisfiesOr_unsatisfied :
    snapshot.satisfiesOr .unsatisfied condition = snapshot.satisfies condition := by
  simp only [satisfiesOr, satisfies]
  cases snapshot.frame? (condition.timeframe.resolve snapshot.base) with
  | none => rfl
  | some frame => exact frame.satisfiesOr_unsatisfied condition

/-- On a well formed condition no fallback is reached: whatever they are, the answer is the same. -/
theorem satisfiesOr_eq (fallbacks : Fallbacks) (wellFormed : condition.WellFormed) :
    snapshot.satisfiesOr fallbacks condition = snapshot.satisfies condition := by
  simp only [satisfiesOr, satisfies]
  cases snapshot.frame? (condition.timeframe.resolve snapshot.base) with
  | none => rfl
  | some frame => exact frame.satisfiesOr_eq condition fallbacks wellFormed

end Snapshot

namespace Definition

/-- An alert that has been read is well formed, and its conditions are evaluated on every snapshot
without a fallback. -/
theorem readAlert_evaluates {value : Json} {mode : FireMode} {alert : Alert}
    (read : readAlert value mode = .ok alert) :
    alert.WellFormed ∧ ∀ condition ∈ alert.conditions, ∀ (snapshot : Snapshot)
      (fallbacks : Fallbacks),
      snapshot.satisfiesOr fallbacks condition = snapshot.satisfies condition := by
  have wellFormed := readAlert_wellFormed read
  refine ⟨wellFormed, ?_⟩
  intro condition member snapshot fallbacks
  exact snapshot.satisfiesOr_eq condition fallbacks (wellFormed.conditions condition member)

/-! A playbook of a pattern and a range, under the names and spellings that people give them. -/

def reversalDefinition : Json := .object
  [("id", .number (.integer 7)), ("symbol", .string " btcusdt "), ("timeframe", .string "1h"),
   ("playbook", .array
     [.object [("indicator", .string "hammer"), ("operator", .string "is")],
      .object [("indicator", .string "rsi"), ("period", .number (.integer 14)),
        ("operator", .string "in range"),
        ("value", .array [.number (.integer 20), .number (.integer 40)])]]),
   ("webhook_url", .string "https://example.org/hook"), ("webhook_secret", .string "")]

def reversalAlert : Alert :=
  { id := "7", ownerId := "", symbol := "BTCUSDT", timeframe := .hour
    logic := .playbook
      { entries :=
          [{ id := "0", priority := 0, enabled := true, connector := .all, validity := 0
             validityUnit := .bars
             condition :=
               { subject := .indicator (.named "HAMMER") "HAMMER", operator := .pattern
                 comparand := .absent, timeframe := .same, percentage := none } },
           { id := "1", priority := 1, enabled := true, connector := .all, validity := 0
             validityUnit := .bars
             condition :=
               { subject := .indicator ((IndicatorSpec.named "RSI").withParameter "period" 14) "RSI"
                 operator := .between, comparand := .range 20 40
                 timeframe := .same, percentage := none } }]
        gate := .all }
    fireMode := .perBar, action := .webhook "https://example.org/hook" none }

theorem reversal_reads_and_evaluates :
    ∃ alert, readAlert reversalDefinition .perBar = .ok alert ∧ (alert == reversalAlert) = true ∧
      alert.WellFormed ∧ ∀ condition ∈ alert.conditions, ∀ (snapshot : Snapshot)
        (fallbacks : Fallbacks),
        snapshot.satisfiesOr fallbacks condition = snapshot.satisfies condition := by
  have same : (readAlert reversalDefinition .perBar).toOption.any (· == reversalAlert) = true := by
    decide +kernel
  cases read : readAlert reversalDefinition .perBar with
  | error refusal =>
      rw [read] at same
      cases same
  | ok alert =>
      rw [read] at same
      exact ⟨alert, rfl, same, readAlert_evaluates read⟩

end Definition

end CandleAlerts
