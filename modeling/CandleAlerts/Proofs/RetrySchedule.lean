import CandleAlerts.Proofs.DispatchRuns

/-!
When a delivery tries again, and what it comes to.

The first result that is a success or a lasting refusal ends a delivery, unless its attempts are
used up before. Up to then its progress is told by the number of attempts and by the status
answered last, and from one attempt to the next it waits twice as long. Where the receiver's replies
give these results, the requests go out at the times that follow.
-/

namespace CandleAlerts

namespace Webhook

/-! ## Results that end a delivery -/

namespace AttemptResult

def Succeeds : AttemptResult → Prop
  | .status code => 200 ≤ code ∧ code ≤ 299
  | _ => False

/-- Whether a request is refused for good. That there are too many requests may pass. -/
def Refuses : AttemptResult → Prop
  | .status code => 400 ≤ code ∧ code ≤ 499 ∧ code ≠ 429
  | _ => False

def IsFinal (result : AttemptResult) : Prop := result.Succeeds ∨ result.Refuses

def status? : AttemptResult → Option Nat
  | .status code => some code
  | _ => none

theorem IsFinal.exists_status {result : AttemptResult} (isFinal : result.IsFinal) :
    ∃ code, result = .status code := by
  cases result with
  | status code => exact ⟨code, rfl⟩
  | failure reason => exact (isFinal.elim id id).elim
  | timeout => exact (isFinal.elim id id).elim

theorem Succeeds.not_refuses {result : AttemptResult} (succeeds : result.Succeeds) :
    ¬result.Refuses := by
  cases result with
  | status code =>
      intro refuses
      exact absurd (Nat.le_trans refuses.1 succeeds.2) (by decide)
  | failure reason => exact id
  | timeout => exact id

end AttemptResult

theorem classifyStatus_eq_delivered_iff (code : Nat) :
    classifyStatus code = .delivered ↔ (AttemptResult.status code).Succeeds := by
  unfold classifyStatus AttemptResult.Succeeds
  split_ifs <;> simp_all

theorem classifyStatus_eq_rejected_iff (code : Nat) :
    classifyStatus code = .rejected ↔ (AttemptResult.status code).Refuses := by
  unfold classifyStatus AttemptResult.Refuses
  split_ifs <;> simp <;> omega

/-- The status that was answered last. -/
def lastStatus? (results : List AttemptResult) : Option Nat :=
  (results.filterMap AttemptResult.status?).getLast?

theorem lastStatus?_concat (results : List AttemptResult) (result : AttemptResult) :
    lastStatus? (results ++ [result]) = result.status?.or (lastStatus? results) := by
  unfold lastStatus?
  rw [List.filterMap_append, List.getLast?_append]
  cases result <;> rfl

/-- The results of the first attempts. Attempts are counted from one. -/
def firstResults (results : Nat → AttemptResult) (count : Nat) : List AttemptResult :=
  (List.range' 1 count).map results

theorem length_firstResults (results : Nat → AttemptResult) (count : Nat) :
    (firstResults results count).length = count := by
  rw [firstResults, List.length_map, List.length_range']

theorem firstResults_succ (results : Nat → AttemptResult) (count : Nat) :
    firstResults results (count + 1) = firstResults results count ++ [results (count + 1)] := by
  rw [firstResults, List.range'_1_concat, List.map_append, Nat.add_comm 1 count]
  rfl

theorem firstResults_prefix_of_le (results : Nat → AttemptResult) {fewer count : Nat}
    (le : fewer ≤ count) : firstResults results fewer <+: firstResults results count := by
  induction le with
  | refl => exact List.prefix_rfl
  | step _ induction =>
      rw [firstResults_succ]
      exact induction.trans (List.prefix_append _ _)

/-- Whether the first result that ends a delivery is that of an attempt. -/
structure IsFirstFinal (results : Nat → AttemptResult) (attempt : Nat) : Prop where
  counted : 0 < attempt
  isFinal : (results attempt).IsFinal
  first : ∀ earlier, 0 < earlier → earlier < attempt → ¬(results earlier).IsFinal

namespace RetryPolicy

variable {policy : RetryPolicy}

/-! ## Steps by the kind of result -/

theorem afterAttempt_of_succeeds {code : Nat} (succeeds : (AttemptResult.status code).Succeeds)
    (progress : DeliveryProgress) :
    policy.afterAttempt progress (.status code) =
      .finished { attempts := progress.attempt, status := some code, error := none } := by
  dsimp only [afterAttempt]
  rw [(classifyStatus_eq_delivered_iff code).2 succeeds]

theorem afterAttempt_of_refuses {code : Nat} (refuses : (AttemptResult.status code).Refuses)
    (progress : DeliveryProgress) :
    policy.afterAttempt progress (.status code) =
      .finished
        { attempts := progress.attempt, status := some code
          error := some (.rejected code progress.attempt) } := by
  dsimp only [afterAttempt]
  rw [(classifyStatus_eq_rejected_iff code).2 refuses]

theorem afterAttempt_of_not_isFinal {result : AttemptResult} (goesOn : ¬result.IsFinal)
    (progress : DeliveryProgress) :
    policy.afterAttempt progress result =
      policy.retry progress (result.status?.or progress.status) (policy.reason result) := by
  cases result with
  | status code =>
      have retryable : classifyStatus code = .retryable := by
        cases classified : classifyStatus code with
        | delivered =>
            exact absurd (.inl ((classifyStatus_eq_delivered_iff code).1 classified)) goesOn
        | rejected =>
            exact absurd (.inr ((classifyStatus_eq_rejected_iff code).1 classified)) goesOn
        | retryable => rfl
      dsimp only [afterAttempt]
      rw [retryable]
      rfl
  | failure reason => rfl
  | timeout => rfl

/-! ## Waits -/

theorem wait_le_wait (policy : RetryPolicy) {earlier later : Nat} (le : earlier ≤ later) :
    policy.wait earlier ≤ policy.wait later := by
  have powers : Nat.pow 2 earlier ≤ Nat.pow 2 later := Nat.pow_le_pow_right Nat.two_pos le
  have factors : min (Nat.pow 2 earlier) (UInt32.size - 1) ≤
      min (Nat.pow 2 later) (UInt32.size - 1) := by omega
  have products := Nat.mul_le_mul_left policy.backoffBase factors
  unfold wait
  omega

/-- How long a delivery waits for its next attempt after so many. The first one is made at once. -/
def waitAfter (policy : RetryPolicy) : Nat → Nat
  | 0 => 0
  | made + 1 => policy.wait (made + 1)

theorem wait_of_afterAttempt {progress next : DeliveryProgress} {result : AttemptResult}
    {wait : Nat} (retried : policy.afterAttempt progress result = .attempt wait next) :
    wait = policy.wait progress.attempt := by
  by_cases isFinal : result.IsFinal
  · obtain ⟨code, rfl⟩ := isFinal.exists_status
    rcases isFinal with succeeds | refuses
    · rw [afterAttempt_of_succeeds succeeds] at retried
      cases retried
    · rw [afterAttempt_of_refuses refuses] at retried
      cases retried
  · rw [afterAttempt_of_not_isFinal isFinal, retry] at retried
    split at retried
    · cases retried
      rfl
    · cases retried

/-- How long a delivery waits depends on nothing but the number of its attempts. -/
theorem after?_wait {results : List AttemptResult} {wait : Nat} {progress : DeliveryProgress}
    (awaits : policy.after? results = some (.attempt wait progress)) :
    wait = policy.waitAfter results.length := by
  cases results using List.reverseRecOn with
  | nil =>
      have started : policy.start = .attempt wait progress := Option.some.inj awaits
      unfold start at started
      split at started
      · cases started
      · cases started
        rfl
  | append_singleton earlier result =>
      rw [after?_append, Option.bind_eq_some_iff] at awaits
      rcases awaits with ⟨before, stood, moved⟩
      cases before with
      | attempt _ sofar =>
          have count : sofar.attempt = earlier.length + 1 := (after?_counts policy _ _ stood).1
          have retried : policy.afterAttempt sofar result = .attempt wait progress :=
            Option.some.inj moved
          rw [wait_of_afterAttempt retried, count, List.length_append, List.length_singleton]
          rfl
      | finished outcome => cases moved

/-! ## Where a delivery stands, and how it ends -/

/-- As long as no result ends it, a delivery stands before its next attempt. -/
theorem after?_of_none_isFinal (results : Nat → AttemptResult) {made : Nat}
    (allowed : made < policy.attempts)
    (goesOn : ∀ attempt, 0 < attempt → attempt ≤ made → ¬(results attempt).IsFinal) :
    policy.after? (firstResults results made) =
      some (.attempt (policy.waitAfter made)
        { attempt := made + 1, status := lastStatus? (firstResults results made) }) := by
  induction made with
  | zero =>
      have someAllowed : policy.attempts ≠ 0 := Nat.ne_of_gt allowed
      have started : policy.start = .attempt 0 { attempt := 1 } := if_neg someAllowed
      exact congrArg some started
  | succ made induction =>
      have stood := induction (Nat.lt_of_succ_lt allowed)
        (fun attempt counted le => goesOn attempt counted (Nat.le_succ_of_le le))
      rw [firstResults_succ, after?_next stood, lastStatus?_concat,
        afterAttempt_of_not_isFinal (goesOn _ (Nat.succ_pos made) (Nat.le_refl _)), retry,
        if_pos allowed]
      rfl

/-- Whether a delivery with these results ends with an attempt. -/
structure EndsWith (policy : RetryPolicy) (results : Nat → AttemptResult) (last : Nat) : Prop where
  counted : 0 < last
  allowed : last ≤ policy.attempts
  first : ∀ earlier, 0 < earlier → earlier < last → ¬(results earlier).IsFinal
  ends : (results last).IsFinal ∨ last = policy.attempts

theorem exists_endsWith (results : Nat → AttemptResult) (allowed : 0 < policy.attempts) :
    ∃ last, policy.EndsWith results last := by
  classical
  have ends : ∃ last, 0 < last ∧ ((results last).IsFinal ∨ last = policy.attempts) :=
    ⟨policy.attempts, allowed, .inr rfl⟩
  refine ⟨Nat.find ends, (Nat.find_spec ends).1, Nat.find_min' ends ⟨allowed, .inr rfl⟩, ?_,
    (Nat.find_spec ends).2⟩
  intro earlier counted before isFinal
  exact Nat.find_min ends before ⟨counted, .inl isFinal⟩

namespace EndsWith

variable {results : Nat → AttemptResult} {last : Nat}

/-- A delivery ends within its attempts exactly with the first result that ends it. -/
theorem isFirstFinal_iff (endsWith : policy.EndsWith results last) (attempt : Nat) :
    (attempt ≤ policy.attempts ∧ IsFirstFinal results attempt) ↔
      attempt = last ∧ (results last).IsFinal := by
  constructor
  · rintro ⟨within, isFirst⟩
    have same : attempt = last := by
      rcases Nat.lt_trichotomy attempt last with before | same | after
      · exact absurd isFirst.isFinal (endsWith.first attempt isFirst.counted before)
      · exact same
      · rcases endsWith.ends with isFinal | usedUp
        · exact absurd isFinal (isFirst.first last endsWith.counted after)
        · omega
    exact ⟨same, same ▸ isFirst.isFinal⟩
  · rintro ⟨rfl, isFinal⟩
    exact ⟨endsWith.allowed, endsWith.counted, isFinal, endsWith.first⟩

end EndsWith

/-- What the last attempt of a delivery makes of it. -/
inductive Concludes (policy : RetryPolicy) (last : Nat) :
    AttemptResult → Option DeliveryError → Prop
  | delivered {result : AttemptResult} : result.Succeeds → Concludes policy last result none
  | rejected {code : Nat} : (AttemptResult.status code).Refuses →
      Concludes policy last (.status code) (some (.rejected code last))
  | exhausted {result : AttemptResult} : ¬result.IsFinal → last = policy.attempts →
      Concludes policy last result (some (.exhausted last (policy.reason result)))

namespace Concludes

variable {last : Nat} {result : AttemptResult} {error : Option DeliveryError}

theorem eq_none_iff (concludes : policy.Concludes last result error) :
    error = none ↔ result.Succeeds := by
  cases concludes with
  | delivered succeeds => exact ⟨fun _ => succeeds, fun _ => rfl⟩
  | rejected refuses =>
      exact ⟨nofun, fun succeeds => (succeeds.not_refuses refuses).elim⟩
  | exhausted goesOn usedUp =>
      exact ⟨nofun, fun succeeds => (goesOn (.inl succeeds)).elim⟩

theorem eq_rejected_iff (concludes : policy.Concludes last result error) (code attempts : Nat) :
    error = some (.rejected code attempts) ↔
      attempts = last ∧ result = .status code ∧ result.Refuses := by
  cases concludes with
  | delivered succeeds =>
      exact ⟨nofun, fun told => (succeeds.not_refuses told.2.2).elim⟩
  | rejected refuses =>
      constructor
      · rintro ⟨⟩
        exact ⟨rfl, rfl, refuses⟩
      · rintro ⟨rfl, ⟨⟩, -⟩
        rfl
  | exhausted goesOn usedUp =>
      exact ⟨nofun, fun told => (goesOn (.inr told.2.2)).elim⟩

theorem eq_exhausted_iff (concludes : policy.Concludes last result error) (attempts : Nat)
    (reason : String) :
    error = some (.exhausted attempts reason) ↔
      ¬result.IsFinal ∧ attempts = last ∧ reason = policy.reason result := by
  cases concludes with
  | delivered succeeds =>
      exact ⟨nofun, fun told => (told.1 (.inl succeeds)).elim⟩
  | rejected refuses =>
      exact ⟨nofun, fun told => (told.1 (.inr refuses)).elim⟩
  | exhausted goesOn usedUp =>
      constructor
      · rintro ⟨⟩
        exact ⟨goesOn, rfl, rfl⟩
      · rintro ⟨-, rfl, rfl⟩
        rfl

end Concludes

theorem EndsWith.after? {results : Nat → AttemptResult} {last : Nat}
    (endsWith : policy.EndsWith results last) :
    ∃ error, policy.Concludes last (results last) error ∧
      policy.after? (firstResults results last) =
        some (.finished
          { attempts := last, status := lastStatus? (firstResults results last), error }) := by
  obtain ⟨made, rfl⟩ := Nat.exists_eq_add_one.2 endsWith.counted
  have stood := after?_of_none_isFinal results (Nat.lt_of_succ_le endsWith.allowed)
    (fun attempt counted le => endsWith.first attempt counted (Nat.lt_succ_of_le le))
  rw [firstResults_succ, after?_next stood, lastStatus?_concat]
  have ends := endsWith.ends
  generalize results (made + 1) = result at ends ⊢
  by_cases isFinal : result.IsFinal
  · obtain ⟨code, rfl⟩ := isFinal.exists_status
    rcases isFinal with succeeds | refuses
    · exact ⟨_, .delivered succeeds, congrArg some (afterAttempt_of_succeeds succeeds _)⟩
    · exact ⟨_, .rejected refuses, congrArg some (afterAttempt_of_refuses refuses _)⟩
  · have usedUp := ends.resolve_left isFinal
    refine ⟨_, .exhausted isFinal usedUp, ?_⟩
    have noneLeft : ¬made + 1 < policy.attempts := Nat.not_lt.2 (Nat.le_of_eq usedUp.symm)
    rw [afterAttempt_of_not_isFinal isFinal, retry, if_neg noneLeft, ← usedUp]

/-- What a delivery with these results comes to. -/
structure Settles (policy : RetryPolicy) (results : Nat → AttemptResult)
    (outcome : DeliveryOutcome) : Prop where
  attempts_of_first : ∀ attempt, IsFirstFinal results attempt →
    outcome.attempts = min attempt (policy.maxRetries.toNat + 1)
  attempts_of_none : (∀ attempt, ¬IsFirstFinal results attempt) →
    outcome.attempts = policy.maxRetries.toNat + 1
  delivered : outcome.error = none ↔
    ∃ attempt ≤ policy.maxRetries.toNat + 1,
      IsFirstFinal results attempt ∧ (results attempt).Succeeds
  rejected : ∀ code attempts, outcome.error = some (.rejected code attempts) ↔
    attempts ≤ policy.maxRetries.toNat + 1 ∧ IsFirstFinal results attempts ∧
      results attempts = .status code ∧ (results attempts).Refuses
  exhausted : ∀ attempts reason, outcome.error = some (.exhausted attempts reason) ↔
    (∀ attempt ≤ policy.maxRetries.toNat + 1, ¬IsFirstFinal results attempt) ∧
      attempts = policy.maxRetries.toNat + 1 ∧ reason = policy.reason (results attempts)
  status : outcome.status = lastStatus? (firstResults results outcome.attempts)

/-- How a delivery with these results goes from attempt to attempt until its outcome. -/
structure Retries (policy : RetryPolicy) (results : Nat → AttemptResult)
    (outcome : DeliveryOutcome) : Prop where
  begins : policy.after? [] = some (.attempt 0 { attempt := 1 })
  between : ∀ made, 0 < made → made < outcome.attempts →
    policy.after? (firstResults results made) =
      some (.attempt
        (min (policy.backoffBase * min (2 ^ made) (UInt32.size - 1)) longestWait)
        { attempt := made + 1, status := lastStatus? (firstResults results made) })
  ends : policy.after? (firstResults results outcome.attempts) = some (.finished outcome)
  noMore : ∀ made, outcome.attempts < made → policy.after? (firstResults results made) = none

theorem attempts_of_budget (budget : policy.maxRetries.toNat < UInt32.size - 1) :
    policy.attempts = policy.maxRetries.toNat + 1 := by
  have fits : policy.maxRetries.toNat + 1 < UInt32.size := by omega
  rw [attempts, UInt32.toNat_add]
  exact Nat.mod_eq_of_lt fits

/-- A delivery that awaits another attempt has made fewer than it ends with. -/
theorem lt_of_awaits {results : Nat → AttemptResult} {outcome : DeliveryOutcome}
    {made last wait : Nat} {progress : DeliveryProgress}
    (ended : policy.after? (firstResults results last) = some (.finished outcome))
    (awaits : policy.after? (firstResults results made) = some (.attempt wait progress)) :
    made < last := by
  refine Nat.lt_of_not_le (fun le => ?_)
  rw [eq_of_prefix_of_finished ended (firstResults_prefix_of_le results le) awaits, ended] at awaits
  cases awaits

/-- A delivery ends once. -/
theorem eq_of_finished {results : Nat → AttemptResult} {outcome other : DeliveryOutcome}
    {last otherLast : Nat}
    (ended : policy.after? (firstResults results last) = some (.finished outcome))
    (otherEnded : policy.after? (firstResults results otherLast) = some (.finished other)) :
    outcome = other ∧ last = otherLast := by
  have same : firstResults results last = firstResults results otherLast := by
    rcases Nat.le_total last otherLast with le | le
    · exact (eq_of_prefix_of_finished ended (firstResults_prefix_of_le results le) otherEnded).symm
    · exact eq_of_prefix_of_finished otherEnded (firstResults_prefix_of_le results le) ended
  refine ⟨?_, ?_⟩
  · rw [same, otherEnded] at ended
    cases ended
    rfl
  · rw [← length_firstResults results last, same, length_firstResults]

namespace EndsWith

variable {results : Nat → AttemptResult} {last : Nat}

theorem attempts_of_first (endsWith : policy.EndsWith results last) {attempt : Nat}
    (isFirst : IsFirstFinal results attempt) : last = min attempt policy.attempts := by
  rcases Nat.le_total attempt policy.attempts with within | beyond
  · rw [Nat.min_eq_left within]
    exact ((endsWith.isFirstFinal_iff attempt).1 ⟨within, isFirst⟩).1.symm
  · rw [Nat.min_eq_right beyond]
    rcases endsWith.ends with isFinal | usedUp
    · have notBefore : ¬last < attempt :=
        fun before => isFirst.first last endsWith.counted before isFinal
      have := endsWith.allowed
      omega
    · exact usedUp

theorem settles (endsWith : policy.EndsWith results last)
    (budget : policy.maxRetries.toNat < UInt32.size - 1) {error : Option DeliveryError}
    (concludes : policy.Concludes last (results last) error) :
    policy.Settles results
      { attempts := last, status := lastStatus? (firstResults results last), error } := by
  have total := attempts_of_budget budget
  have firstFinal := endsWith.isFirstFinal_iff
  rw [total] at firstFinal
  constructor
  case attempts_of_first =>
    intro attempt isFirst
    rw [← total]
    exact endsWith.attempts_of_first isFirst
  case attempts_of_none =>
    intro none
    rcases endsWith.ends with isFinal | usedUp
    · exact absurd ((firstFinal last).2 ⟨rfl, isFinal⟩).2 (none last)
    · exact usedUp.trans total
  case delivered =>
    refine concludes.eq_none_iff.trans ⟨fun succeeds => ?_, ?_⟩
    · obtain ⟨within, isFirst⟩ := (firstFinal last).2 ⟨rfl, .inl succeeds⟩
      exact ⟨last, within, isFirst, succeeds⟩
    · rintro ⟨attempt, within, isFirst, succeeds⟩
      exact ((firstFinal attempt).1 ⟨within, isFirst⟩).1 ▸ succeeds
  case rejected =>
    intro code attempts
    refine (concludes.eq_rejected_iff code attempts).trans ⟨?_, ?_⟩
    · rintro ⟨rfl, answered, refuses⟩
      obtain ⟨within, isFirst⟩ := (firstFinal attempts).2 ⟨rfl, .inr refuses⟩
      exact ⟨within, isFirst, answered, refuses⟩
    · rintro ⟨within, isFirst, answered, refuses⟩
      obtain ⟨rfl, -⟩ := (firstFinal attempts).1 ⟨within, isFirst⟩
      exact ⟨rfl, answered, refuses⟩
  case exhausted =>
    intro attempts reason
    refine (concludes.eq_exhausted_iff attempts reason).trans ⟨?_, ?_⟩
    · rintro ⟨goesOn, rfl, rfl⟩
      exact ⟨fun attempt within isFirst => goesOn ((firstFinal attempt).1 ⟨within, isFirst⟩).2,
        (endsWith.ends.resolve_left goesOn).trans total, rfl⟩
    · rintro ⟨none, rfl, rfl⟩
      have goesOn : ¬(results last).IsFinal := fun isFinal =>
        none last (total ▸ endsWith.allowed) ((firstFinal last).2 ⟨rfl, isFinal⟩).2
      have usedUp := (endsWith.ends.resolve_left goesOn).trans total
      exact ⟨goesOn, usedUp.symm, by rw [usedUp]⟩
  case status => rfl

theorem retries (endsWith : policy.EndsWith results last) {outcome : DeliveryOutcome}
    (attempts : outcome.attempts = last)
    (ended : policy.after? (firstResults results last) = some (.finished outcome)) :
    policy.Retries results outcome := by
  subst attempts
  constructor
  case begins =>
    exact after?_of_none_isFinal results (Nat.lt_of_lt_of_le endsWith.counted endsWith.allowed)
      (fun attempt counted le => absurd counted (Nat.not_lt.2 le))
  case between =>
    intro made someMade before
    have stood := after?_of_none_isFinal results (Nat.lt_of_lt_of_le before endsWith.allowed)
      (fun attempt counted le => endsWith.first attempt counted (Nat.lt_of_le_of_lt le before))
    obtain ⟨earlier, rfl⟩ := Nat.exists_eq_add_one.2 someMade
    exact stood
  case ends => exact ended
  case noMore =>
    intro made beyond
    cases reached : policy.after? (firstResults results made) with
    | none => rfl
    | some step =>
        have same := congrArg List.length (eq_of_prefix_of_finished ended
          (firstResults_prefix_of_le results (Nat.le_of_lt beyond)) reached)
        rw [length_firstResults, length_firstResults] at same
        exact absurd same (Nat.ne_of_gt beyond)

end EndsWith

end RetryPolicy

end Webhook

namespace Simulation

/-! ## When the requests go out -/

/-- The reply that a script gives after so many. -/
def Script.replyAfter (usual : ρ) (script : Script ρ) (count : Nat) : ρ :=
  (next (replies usual count script).2).1.getD usual

/-- When the last of so many attempts is answered, if each takes so long. -/
def answerTime (policy : Webhook.RetryPolicy) (durations : Nat → Nat) (start : Nat) : Nat → Nat
  | 0 => start
  | made + 1 => answerTime policy durations start made + policy.waitAfter made +
      durations (made + 1)

/-- When the attempt is made that comes after so many. -/
def attemptTime (policy : Webhook.RetryPolicy) (durations : Nat → Nat) (start made : Nat) : Nat :=
  answerTime policy durations start made + policy.waitAfter made

/-- Whether a phase is due when it should be: the attempts made were answered at a time, and the
next has to wait so long. -/
def DeliveryPhase.OnTime (answered pause now : Nat) : DeliveryPhase → Prop
  | .pausing due _ => due = answered + pause ∧ now ≤ due
  | .answering due _ _ => due = answered ∧ now ≤ due
  | .crashed => False
  | .ended _ => now = answered

namespace State

/-- Whether the first replies of a receiver give these results, after these durations. -/
def Answers (setting : Setting) (state : State) (url : String)
    (results : Nat → Webhook.AttemptResult) (durations : Nat → Nat) (count : Nat) : Prop :=
  ∀ made < count, attemptResult? setting
      (Script.replyAfter usualReply (state.receivers.getD url []) made) =
    some (durations (made + 1), results (made + 1))

/-- Whether the pauses before so many attempts run in full, as a timer runs any span whose end its
clock reaches. -/
def PausesInFull (setting : Setting) (count : Nat) : Prop :=
  ∀ made < count, setting.timer (setting.policy.waitAfter made) = setting.policy.waitAfter made

/-- A delivery has made so many attempts since the origin, each at its time, with these results. -/
structure Paced (setting : Setting) (target : WebhookTarget)
    (results : Nat → Webhook.AttemptResult) (durations : Nat → Nat) (origin : State) (made : Nat)
    (phase : DeliveryPhase) (state : State) : Prop where
  calls : ∃ calls, state.calls = origin.calls ++ calls ∧ calls.map Call.time =
    (List.range made).map (attemptTime setting.policy durations origin.time)
  receiver : state.receivers.getD target.url [] =
    (Script.replies usualReply made (origin.receivers.getD target.url [])).2
  reached : phase.Reached setting.policy (Webhook.firstResults results made)
  onTime : phase.OnTime (answerTime setting.policy durations origin.time made)
    (setting.timer (setting.policy.waitAfter made)) state.time

namespace Paced

variable {setting : Setting} {event : TriggerEvent} {target : WebhookTarget}
  {results : Nat → Webhook.AttemptResult} {durations : Nat → Nat} {origin : State}
  {made count due : Nat} {phase : DeliveryPhase} {progress : Webhook.DeliveryProgress}
  {result : Webhook.AttemptResult} {state : State}

/-- The attempt that is due is made at its time. -/
theorem attempt
    (paced : Paced setting target results durations origin made (.pausing due progress)
      state)
    (answers : origin.Answers setting target.url results durations count)
    (full : PausesInFull setting count) (within : made < count) (isDue : due ≤ state.time) :
    Paced setting target results durations origin (made + 1)
      (state.attempt setting event target progress).1
      (state.attempt setting event target progress).2 := by
  have given : ((state.asking setting event target).receiverReply target.url).1 =
      Script.replyAfter usualReply (origin.receivers.getD target.url []) made := by
    have next : ((state.asking setting event target).receiverReply target.url).1 =
        (Script.next (state.receivers.getD target.url [])).1.getD usualReply := rfl
    rw [next, paced.receiver]
    rfl
  have left := receiverReply_receivers (state.asking setting event target) target.url target.url
  have called := receiverReply_calls (state.asking setting event target) target.url
  have time := (receiverReply_delivers (state.asking setting event target) target.url).time
  rw [attempt_eq, given, answers made within]
  generalize ((state.asking setting event target).receiverReply target.url).2 = after
    at left called time ⊢
  rcases paced.onTime with ⟨isTime, notLate⟩
  have now : state.time = attemptTime setting.policy durations origin.time made := by
    rw [full made within] at isTime
    exact (Nat.le_antisymm notLate isDue).trans isTime
  constructor
  case calls =>
    rcases paced.calls with ⟨calls, before, times⟩
    refine ⟨calls ++ [request setting event target state], ?_, ?_⟩
    · rw [called, ← List.append_assoc, ← before]
      rfl
    · rw [List.map_append, times, List.range_succ, List.map_append]
      exact congrArg (fun time => _ ++ [time]) now
  case receiver =>
    rw [left, if_pos rfl]
    exact congrArg (fun script => (Script.next script).2) paced.receiver
  case reached =>
    rcases paced.reached with ⟨wait, awaits⟩
    exact ⟨wait, _, Webhook.firstResults_succ results made, awaits⟩
  case onTime =>
    refine ⟨?_, Nat.le_add_right _ _⟩
    rw [time]
    exact congrArg (· + durations (made + 1)) now

/-- When an attempt is answered, the next is planned after its wait. -/
theorem followStep
    (paced : Paced setting target results durations origin made
      (.answering due progress result) state) (isDue : due ≤ state.time) :
    Paced setting target results durations origin made
      (state.followStep setting event target (setting.policy.afterAttempt progress result)).1
      (state.followStep setting event target (setting.policy.afterAttempt progress result)).2 := by
  rcases paced.reached with ⟨wait, earlier, isLast, awaited⟩
  have stands := Webhook.RetryPolicy.after?_next awaited result
  rw [← isLast] at stands
  rcases paced.onTime with ⟨isTime, notLate⟩
  have now := (Nat.le_antisymm notLate isDue).trans isTime
  generalize setting.policy.afterAttempt progress result = step at stands ⊢
  constructor
  case calls =>
    rw [followStep_calls]
    exact paced.calls
  case receiver =>
    rw [followStep_receivers]
    exact paced.receiver
  case reached => exact reached_followStep stands setting state event target
  case onTime =>
    cases step with
    | attempt wait next =>
        have waits := Webhook.RetryPolicy.after?_wait stands
        rw [Webhook.length_firstResults] at waits
        refine ⟨?_, Nat.le_add_right _ _⟩
        rw [now, waits]
    | finished outcome => exact now

variable (event) in
/-- However far it is carried on, a delivery keeps to its schedule until it has ended. -/
theorem carryOn {outcome : Webhook.DeliveryOutcome}
    (paced : Paced setting target results durations origin made phase state)
    (ended : setting.policy.after? (Webhook.firstResults results outcome.attempts) =
      some (.finished outcome))
    (answers : origin.Answers setting target.url results durations outcome.attempts)
    (full : PausesInFull setting outcome.attempts) (moves : Nat) :
    ∃ more, Paced setting target results durations origin more
      (State.carryOn setting event target moves phase state).1
      (State.carryOn setting event target moves phase state).2 := by
  induction moves generalizing made phase state with
  | zero => exact ⟨made, paced⟩
  | succ moves induction =>
      cases phase with
      | pausing due progress =>
          unfold State.carryOn
          dsimp only
          split
          · exact ⟨made, paced⟩
          · rename_i isDue
            rcases paced.reached with ⟨wait, awaits⟩
            -- so the reply is one of those that are known
            have within := Webhook.RetryPolicy.lt_of_awaits ended awaits
            exact induction (paced.attempt answers full within (Nat.not_lt.1 isDue))
      | answering due progress result =>
          unfold State.carryOn
          dsimp only
          split
          · exact ⟨made, paced⟩
          · rename_i isDue
            exact induction (paced.followStep (Nat.not_lt.1 isDue))
      | crashed => exact ⟨made, paced⟩
      | ended outcome => exact ⟨made, paced⟩

/-- The clock may go on to the time at which a delivery is due. -/
theorem at_due (paced : Paced setting target results durations origin made phase state)
    (isDue : phase.due? = some due) :
    Paced setting target results durations origin made phase { state with time := due } where
  calls := paced.calls
  receiver := paced.receiver
  reached := paced.reached
  onTime := by
    have onTime := paced.onTime
    cases phase with
    | pausing due progress =>
        cases isDue
        exact ⟨onTime.1, Nat.le_refl _⟩
    | answering due progress result =>
        cases isDue
        exact ⟨onTime.1, Nat.le_refl _⟩
    | crashed => cases isDue
    | ended outcome => cases isDue

variable (event) in
/-- From one time it is due to the next, a delivery by itself comes to its end. -/
theorem deliverAlone {outcome : Webhook.DeliveryOutcome}
    (paced : Paced setting target results durations origin made phase state)
    (ended : setting.policy.after? (Webhook.firstResults results outcome.attempts) =
      some (.finished outcome))
    (answers : origin.Answers setting target.url results durations outcome.attempts)
    (full : PausesInFull setting outcome.attempts) (isDue : phase.due? = some due)
    (now : due ≤ state.time) {rounds : Nat} (enough : phase.movesLeft setting.policy < rounds) :
    (State.deliverAlone setting event target rounds phase state).1 = some outcome ∧
      Paced setting target results durations origin outcome.attempts (.ended outcome)
        (State.deliverAlone setting event target rounds phase state).2 := by
  induction rounds generalizing made due phase state with
  | zero => cases enough
  | succ rounds induction =>
      have moved := (carryOn_movesLeft setting event target (deliveryMoves setting) phase state).2
        (Nat.succ_pos _) ⟨due, isDue, now⟩
      rcases paced.carryOn event ended answers full (deliveryMoves setting) with
        ⟨more, carried⟩
      unfold State.deliverAlone
      dsimp only
      generalize State.carryOn setting event target (deliveryMoves setting) phase state = after
        at moved carried ⊢
      rcases after with ⟨next, later⟩
      dsimp only at moved carried ⊢
      have fewer : next.movesLeft setting.policy < rounds :=
        Nat.lt_of_lt_of_le moved (Nat.le_of_lt_succ enough)
      cases next with
      | pausing due progress =>
          exact induction (carried.at_due rfl) rfl (Nat.le_refl _) fewer
      | answering due progress result =>
          exact induction (carried.at_due rfl) rfl (Nat.le_refl _) fewer
      | crashed => exact carried.reached.elim
      | ended last =>
          obtain ⟨rfl, rfl⟩ := Webhook.RetryPolicy.eq_of_finished ended carried.reached
          exact ⟨rfl, carried⟩

end Paced

/-- For every retry budget but the greatest, every base of the waits and every sequence of results,
a delivery ends with the first result that is a success or a lasting refusal, or else with its last
attempt. It tells which of these it was, and the status answered last. Its waits never get shorter,
and after the last attempt there is none. When its pauses run in full, a receiver whose replies give
these results sees the requests at just these times. -/
theorem deliverAlone_settles (setting : Setting)
    (budget : setting.policy.maxRetries.toNat < UInt32.size - 1)
    (results : Nat → Webhook.AttemptResult) :
    ∃ outcome, setting.policy.Settles results outcome ∧ setting.policy.Retries results outcome ∧
      (∀ earlier later, earlier ≤ later →
        setting.policy.wait earlier ≤ setting.policy.wait later) ∧
      ∀ (event : TriggerEvent) (target : WebhookTarget) (state : State) (durations : Nat → Nat),
        state.Answers setting target.url results durations outcome.attempts →
        PausesInFull setting outcome.attempts →
        ∀ rounds, deliveryMoves setting ≤ rounds →
          let started := state.startDelivery setting event target
          let done := deliverAlone setting event target rounds started.1 started.2
          done.1 = some outcome ∧
            (∃ made, done.2.calls = state.calls ++ made ∧ made.map Call.time =
              (List.range outcome.attempts).map
                (attemptTime setting.policy durations state.time)) ∧
            done.2.time = answerTime setting.policy durations state.time outcome.attempts := by
  have allowed : 0 < setting.policy.attempts := by
    rw [Webhook.RetryPolicy.attempts_of_budget budget]
    exact Nat.succ_pos _
  obtain ⟨last, endsWith⟩ := Webhook.RetryPolicy.exists_endsWith results allowed
  obtain ⟨error, concludes, ended⟩ := endsWith.after?
  refine ⟨_, endsWith.settles budget concludes, endsWith.retries rfl ended,
    fun _ _ => setting.policy.wait_le_wait, ?_⟩
  intro event target state durations answers full rounds enough started done
  have begins : setting.policy.start = .attempt 0 { attempt := 1 } :=
    if_neg (Nat.ne_of_gt allowed)
  have atOnce : setting.timer 0 = 0 := full 0 endsWith.counted
  have isStarted : started = (.pausing (state.time + setting.timer 0) { attempt := 1 }, state) :=
    congrArg (state.followStep setting event target) begins
  have paced : Paced setting target results durations state 0 started.1 started.2 := by
    rw [isStarted]
    exact
      { calls := ⟨[], (List.append_nil _).symm, rfl⟩
        receiver := rfl
        reached := ⟨0, congrArg some begins⟩
        onTime := ⟨rfl, Nat.le_add_right _ _⟩ }
  have isDue : started.1.due? = some state.time := by
    rw [isStarted, atOnce]
    rfl
  have now : state.time ≤ started.2.time := by
    rw [isStarted]
  have few : started.1.movesLeft setting.policy < rounds := by
    rw [isStarted]
    unfold deliveryMoves at enough
    dsimp only [DeliveryPhase.movesLeft]
    omega
  obtain ⟨outcome, paced⟩ := paced.deliverAlone event ended answers full isDue now few
  exact ⟨outcome, paced.calls, paced.onTime⟩

/-! The receiver that answers with a failure, then not at all, and then well. -/

def reluctantResults : Nat → Webhook.AttemptResult
  | 1 => .status 503
  | 2 => .failure "reset"
  | _ => .status 200

theorem reluctant_delivery_settles :
    patientSetting.policy.maxRetries.toNat < UInt32.size - 1 ∧
      reluctantStart.Answers patientSetting quotedTarget.url reluctantResults (fun _ => 0) 3 ∧
      PausesInFull patientSetting 3 ∧
      let started := reluctantStart.startDelivery patientSetting quotedEvent quotedTarget
      let done := deliverAlone patientSetting quotedEvent quotedTarget 10 started.1 started.2
      done.1 = some { attempts := 3, status := some 200, error := none } ∧
        done.2.calls.map Call.time = [0, 2000, 6000] ∧ done.2.time = 6000 := by
  have budget : patientSetting.policy.maxRetries.toNat < UInt32.size - 1 := by decide
  have answers :
      reluctantStart.Answers patientSetting quotedTarget.url reluctantResults (fun _ => 0) 3 := by
    intro made within
    rcases made with _ | _ | _ | made
    · rfl
    · rfl
    · rfl
    · omega
  have third : Webhook.IsFirstFinal reluctantResults 3 := by
    refine ⟨by decide, .inl ⟨by decide, by decide⟩, ?_⟩
    intro earlier counted before
    rcases earlier with _ | _ | _ | earlier
    · cases counted
    · rintro (succeeds | refuses)
      · exact absurd succeeds.2 (by decide)
      · exact absurd refuses.2.1 (by decide)
    · rintro (succeeds | refuses)
      · exact succeeds
      · exact refuses
    · omega
  obtain ⟨⟨attempts, status, error⟩, settles, -, -, runs⟩ :=
    deliverAlone_settles patientSetting budget reluctantResults
  obtain rfl : attempts = 3 := settles.attempts_of_first 3 third
  obtain rfl : status = some 200 := settles.status
  obtain rfl : error = none :=
    settles.delivered.2 ⟨3, by decide, third, ⟨by decide, by decide⟩⟩
  obtain ⟨outcome, ⟨made, calls, times⟩, time⟩ :=
    runs quotedEvent quotedTarget reluctantStart (fun _ => 0) answers (fun _ _ => rfl) 10 (by decide)
  refine ⟨budget, answers, fun _ _ => rfl, outcome, ?_, time⟩
  rw [calls]
  exact times

end State

end Simulation

end CandleAlerts
