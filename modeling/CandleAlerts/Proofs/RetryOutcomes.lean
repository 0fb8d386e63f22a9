import CandleAlerts.Simulation.Script
import CandleAlerts.Webhook.Delivery
import Mathlib.Data.List.Induction

/-!
What a delivery comes to, by the results of its attempts.

A delivery goes by nothing but these results: after each it tries again or ends, and its outcome
counts the attempts that were made. The results come from a receiver that gives its replies one
after the other.
-/

namespace CandleAlerts

namespace Webhook

/-! ## What a delivery comes to -/

/-- Where a delivery stands after one more result, unless it has ended before. -/
def DeliveryStep.next? (policy : RetryPolicy) (result : AttemptResult) :
    DeliveryStep → Option DeliveryStep
  | .attempt _ progress => some (policy.afterAttempt progress result)
  | .finished _ => none

/-- Whether a step comes after so many attempts, none of them beyond what the policy allows. -/
def DeliveryStep.Counts (policy : RetryPolicy) (made : Nat) : DeliveryStep → Prop
  | .attempt _ progress => progress.attempt = made + 1 ∧ made < policy.attempts
  | .finished outcome => outcome.attempts = made

namespace RetryPolicy

variable {policy : RetryPolicy}

/-- Where a delivery stands after the results of all its attempts, if it makes so many. -/
def after? (policy : RetryPolicy) (results : List AttemptResult) : Option DeliveryStep :=
  results.foldlM (fun step result => step.next? policy result) policy.start

theorem after?_append (policy : RetryPolicy) (earlier later : List AttemptResult) :
    policy.after? (earlier ++ later) = (policy.after? earlier).bind
      (fun step => later.foldlM (fun step result => step.next? policy result) step) := by
  rw [after?, List.foldlM_append]
  rfl

theorem after?_next {results : List AttemptResult} {wait : Nat} {progress : DeliveryProgress}
    (awaits : policy.after? results = some (.attempt wait progress)) (result : AttemptResult) :
    policy.after? (results ++ [result]) = some (policy.afterAttempt progress result) := by
  rw [after?_append, awaits]
  rfl

theorem start_counts (policy : RetryPolicy) : policy.start.Counts policy 0 := by
  unfold start
  split
  · rfl
  · rename_i allowed
    exact ⟨rfl, Nat.pos_of_ne_zero allowed⟩

theorem retry_counts {progress : DeliveryProgress} {made : Nat}
    (attempt : progress.attempt = made + 1) (allowed : made < policy.attempts)
    (status : Option Nat) (reason : String) :
    (policy.retry progress status reason).Counts policy (made + 1) := by
  unfold retry
  split
  · rename_i more
    exact ⟨by rw [attempt], attempt ▸ more⟩
  · rename_i usedUp
    rw [attempt] at usedUp
    exact Nat.le_antisymm (Nat.not_lt.1 usedUp) allowed

theorem afterAttempt_counts {progress : DeliveryProgress} {made : Nat}
    (attempt : progress.attempt = made + 1) (allowed : made < policy.attempts)
    (result : AttemptResult) : (policy.afterAttempt progress result).Counts policy (made + 1) := by
  cases result with
  | status code =>
      dsimp only [afterAttempt]
      split
      · exact attempt
      · exact attempt
      · exact retry_counts attempt allowed _ _
  | failure reason => exact retry_counts attempt allowed _ _
  | timeout => exact retry_counts attempt allowed _ _

/-- A delivery counts its attempts: none is counted that was not made. -/
theorem after?_counts (policy : RetryPolicy) (results : List AttemptResult) :
    ∀ step, policy.after? results = some step → step.Counts policy results.length := by
  induction results using List.reverseRecOn with
  | nil =>
      rintro step ⟨⟩
      exact policy.start_counts
  | append_singleton earlier result induction =>
      intro step reached
      rw [after?_append, Option.bind_eq_some_iff] at reached
      rcases reached with ⟨before, stood, moved⟩
      rw [List.length_append, List.length_singleton]
      cases before with
      | attempt wait progress =>
          rcases induction _ stood with ⟨attempt, allowed⟩
          cases moved
          exact afterAttempt_counts attempt allowed result
      | finished outcome => cases moved

/-- A delivery that has ended makes no more attempts. -/
theorem eq_of_prefix_of_finished {results more : List AttemptResult} {outcome : DeliveryOutcome}
    {step : DeliveryStep} (ended : policy.after? results = some (.finished outcome))
    (initial : results <+: more) (reached : policy.after? more = some step) : more = results := by
  rcases initial with ⟨rest, rfl⟩
  cases rest with
  | nil => exact List.append_nil _
  | cons result rest =>
      rw [after?_append, ended] at reached
      cases reached

end RetryPolicy

end Webhook

namespace Simulation

/-! ## Replies in order -/

namespace Script

/-- So many replies of a script and what is left of it. The usual reply stands where the script
gives none. -/
def replies (usual : ρ) : Nat → Script ρ → List ρ × Script ρ
  | 0, script => ([], script)
  | count + 1, script =>
      let (earlier, rest) := replies usual count script
      (earlier ++ [(next rest).1.getD usual], (next rest).2)

theorem replies_prefix (usual : ρ) (script : Script ρ) {fewer count : Nat} (le : fewer ≤ count) :
    (replies usual fewer script).1 <+: (replies usual count script).1 := by
  induction le with
  | refl => exact List.prefix_rfl
  | step _ induction => exact induction.trans (List.prefix_append _ _)

theorem mem_of_next {script : Script ρ} {reply : ρ} (given : (next script).1 = some reply) :
    reply ∈ script := by
  rcases script with _ | ⟨first, _ | ⟨second, rest⟩⟩
  · cases given
  · cases given
    exact List.mem_cons_self
  · cases given
    exact List.mem_cons_self

theorem mem_of_mem_next {script : Script ρ} {reply : ρ} (among : reply ∈ (next script).2) :
    reply ∈ script := by
  rcases script with _ | ⟨first, _ | ⟨second, rest⟩⟩
  · exact among
  · exact among
  · exact List.mem_cons_of_mem _ among

end Script

end Simulation

end CandleAlerts
