import CandleAlerts.Proofs.DigitTexts
import CandleAlerts.Proofs.WellFormedDefinitions
import CandleAlerts.Simulation.Run
import CandleAlerts.Webhook.Verifier

/-!
Configurations that the program can run on.

Every number is read over the whole range of its type, and then used where not all of the range can
be: timers need a length, sums and products are words, and only so many permits can be counted.
Which configurations can be run on is told by the numbers that the variables give.
-/

namespace CandleAlerts

namespace Config

/-- What the parts of the program need of a configuration. -/
structure IsRunnable (config : Config) : Prop where
  ticks : config.evaluationInterval ≠ 0
  syncs : config.syncInterval ≠ 0
  /-- The attempts of a delivery are the retries and one more. -/
  attempts : config.webhookMaxRetries.toNat + 1 < UInt32.size
  /-- Event ids are remembered for twice the accepted age. -/
  memory : config.webhookMaxAge * 2 < UInt64.size
  groups : 1 ≤ (SchedulerSettings.ofConfig config).maxConcurrentGroups ∧
    (SchedulerSettings.ofConfig config).maxConcurrentGroups ≤ mostPermits
  dispatches : 1 ≤ (SchedulerSettings.ofConfig config).slots ∧
    (SchedulerSettings.ofConfig config).slots ≤ mostPermits

instance (config : Config) : Decidable config.IsRunnable :=
  decidable_of_iff
    ((config.evaluationInterval ≠ 0 ∧ config.syncInterval ≠ 0) ∧
      (config.webhookMaxRetries.toNat + 1 < UInt32.size ∧
        config.webhookMaxAge * 2 < UInt64.size) ∧
      (1 ≤ (SchedulerSettings.ofConfig config).maxConcurrentGroups ∧
        (SchedulerSettings.ofConfig config).maxConcurrentGroups ≤ mostPermits) ∧
      (1 ≤ (SchedulerSettings.ofConfig config).slots ∧
        (SchedulerSettings.ofConfig config).slots ≤ mostPermits))
    ⟨fun ⟨⟨ticks, syncs⟩, ⟨attempts, memory⟩, groups, dispatches⟩ =>
      ⟨ticks, syncs, attempts, memory, groups, dispatches⟩,
    fun ⟨ticks, syncs, attempts, memory, groups, dispatches⟩ =>
      ⟨⟨ticks, syncs⟩, ⟨attempts, memory⟩, groups, dispatches⟩⟩

/-! ## What the variables give -/

namespace Environment

/-- Whether a variable, or else its default, gives a number. -/
def Gives (environment : Environment) (setting default : String) (number : Nat) : Prop :=
  Decimal.WritesNatural (environment.getD setting default).toList number

/-- Whether no variable gives a number that its type has and that cannot be used. -/
structure IsUsable (environment : Environment) : Prop where
  ticks : ¬ environment.Gives "EVAL_INTERVAL_SECS" "60" 0
  syncs : ¬ environment.Gives "REGISTRY_SYNC_SECS" "30" 0
  attempts : ¬ environment.Gives "WEBHOOK_MAX_RETRIES" "3" (2 ^ 32 - 1)
  memory : ∀ age, environment.Gives "WEBHOOK_MAX_AGE_SECS" "300" age → age < 2 ^ 63
  groups : ∀ limit, environment.Gives "EVAL_MAX_CONCURRENT_GROUPS" "8" limit → limit ≤ mostPermits
  dispatches : ∀ limit, environment.Gives "DISPATCH_MAX_INFLIGHT" "256" limit → limit ≤ mostPermits

end Environment

variable {environment : Environment} {config : Config}

theorem gives_of_number {setting default kind : String} {greatest number : Nat}
    (read : Config.number environment setting default kind greatest = .ok number) :
    environment.Gives setting default number ∧ number ≤ greatest := by
  refine (Decimal.readNat_eq_ok_iff _ _ _).1 ?_
  unfold Config.number at read
  cases result : Decimal.readNat greatest (environment.getD setting default).toList with
  | error fault =>
      rw [result] at read
      cases read
  | ok given =>
      rw [result] at read
      cases read
      rfl

theorem gives_of_seconds {setting default : String} {span : Nat}
    (read : seconds environment setting default = .ok span) :
    environment.Gives setting default span := by
  unfold seconds at read
  cases result : Decimal.readNat (UInt64.size - 1) (environment.getD setting default).toList with
  | error fault =>
      rw [result] at read
      cases read
  | ok given =>
      rw [result] at read
      cases read
      exact ((Decimal.readNat_eq_ok_iff _ _ _).1 result).1

/-- Whether the numbers of a configuration are those that the variables give. -/
structure GivenBy (config : Config) (environment : Environment) : Prop where
  ticks : environment.Gives "EVAL_INTERVAL_SECS" "60" config.evaluationInterval
  syncs : environment.Gives "REGISTRY_SYNC_SECS" "30" config.syncInterval
  retries : environment.Gives "WEBHOOK_MAX_RETRIES" "3" config.webhookMaxRetries.toNat
  age : environment.Gives "WEBHOOK_MAX_AGE_SECS" "300" config.webhookMaxAge
  groups : environment.Gives "EVAL_MAX_CONCURRENT_GROUPS" "8" config.maxConcurrentGroups
  dispatches : environment.Gives "DISPATCH_MAX_INFLIGHT" "256" config.maxDispatches

theorem givenBy_of_accepted (accepted : ofEnvironment environment = .ok config) :
    config.GivenBy environment := by
  obtain ⟨interval, intervalRead, accepted⟩ := exists_of_bind_eq_ok accepted
  obtain ⟨timeframes, -, accepted⟩ := exists_of_bind_eq_ok accepted
  obtain ⟨groupTimeout, -, accepted⟩ := exists_of_bind_eq_ok accepted
  obtain ⟨groups, groupsRead, accepted⟩ := exists_of_bind_eq_ok accepted
  obtain ⟨candles, -, accepted⟩ := exists_of_bind_eq_ok accepted
  obtain ⟨dispatches, dispatchesRead, accepted⟩ := exists_of_bind_eq_ok accepted
  obtain ⟨timeout, -, accepted⟩ := exists_of_bind_eq_ok accepted
  obtain ⟨retries, retriesRead, accepted⟩ := exists_of_bind_eq_ok accepted
  obtain ⟨age, ageRead, accepted⟩ := exists_of_bind_eq_ok accepted
  obtain ⟨fireMode, -, accepted⟩ := exists_of_bind_eq_ok accepted
  obtain ⟨backend, -, accepted⟩ := exists_of_bind_eq_ok accepted
  obtain ⟨port, -, accepted⟩ := exists_of_bind_eq_ok accepted
  obtain ⟨sync, syncRead, accepted⟩ := exists_of_bind_eq_ok accepted
  obtain ⟨router, -, accepted⟩ := exists_of_bind_eq_ok accepted
  cases accepted
  obtain ⟨retriesGiven, retriesFit⟩ := gives_of_number retriesRead
  have size : UInt32.size = 2 ^ 32 := rfl
  have retriesKept : (UInt32.ofNat retries).toNat = retries :=
    UInt32.toNat_ofNat_of_lt' (by omega)
  refine ⟨gives_of_seconds intervalRead, gives_of_seconds syncRead, ?_, gives_of_seconds ageRead,
    (gives_of_number groupsRead).1, (gives_of_number dispatchesRead).1⟩
  dsimp only
  rw [retriesKept]
  exact retriesGiven

/-- A variable gives one number, so what the variables may not give is what the configuration may
not hold. Limits are at least one in any case. -/
theorem GivenBy.isRunnable_iff (numbers : config.GivenBy environment) :
    config.IsRunnable ↔ environment.IsUsable := by
  have one : 1 ≤ mostPermits := by decide
  constructor
  · intro runnable
    refine ⟨?_, ?_, ?_, ?_, ?_, ?_⟩
    · exact fun zero => runnable.ticks (numbers.ticks.unique zero)
    · exact fun zero => runnable.syncs (numbers.syncs.unique zero)
    · intro most
      have attempts := runnable.attempts
      rw [numbers.retries.unique most] at attempts
      exact absurd attempts (by decide)
    · intro age gives
      have memory := runnable.memory
      rw [numbers.age.unique gives] at memory
      have size : UInt64.size = 2 ^ 64 := rfl
      omega
    · intro limit gives
      rw [← numbers.groups.unique gives]
      exact Nat.le_trans (Nat.le_max_left _ _) runnable.groups.2
    · intro limit gives
      rw [← numbers.dispatches.unique gives]
      exact Nat.le_trans (Nat.le_trans (Nat.le_max_left _ _) (Nat.le_max_left _ _))
        runnable.dispatches.2
  · intro usable
    have age := usable.memory _ numbers.age
    have groups := usable.groups _ numbers.groups
    have dispatches := usable.dispatches _ numbers.dispatches
    have retriesSize := config.webhookMaxRetries.toNat_lt
    refine ⟨?_, ?_, ?_, ?_, ⟨Nat.le_max_right _ _, ?_⟩, ⟨Nat.le_max_right _ _, ?_⟩⟩
    · exact fun zero => usable.ticks (zero ▸ numbers.ticks)
    · exact fun zero => usable.syncs (zero ▸ numbers.syncs)
    · have notMost : config.webhookMaxRetries.toNat ≠ 2 ^ 32 - 1 :=
        fun most => usable.attempts (most ▸ numbers.retries)
      have size : UInt32.size = 2 ^ 32 := rfl
      omega
    · have size : UInt64.size = 2 ^ 64 := rfl
      omega
    · exact Nat.max_le.2 ⟨groups, one⟩
    · exact Nat.max_le.2 ⟨Nat.max_le.2 ⟨dispatches, one⟩, one⟩

/-! ## What depends on them -/

/-- A scheduler ticks at once if there is an interval. -/
theorem schedule_startScheduler_iff {setting : Simulation.Setting}
    (given : setting.scheduler = .ofConfig config) (state : Simulation.State) (duration : Nat) :
    (state.startScheduler setting duration).schedule = some state.time ↔
      config.evaluationInterval ≠ 0 := by
  have planned (schedule : Option Nat) (after : Simulation.State)
      (same : after.schedule = schedule) : after.planTick.schedule = schedule := by
    unfold Simulation.State.planTick
    split
    · exact same
    · exact same
  unfold Simulation.State.startScheduler
  rw [planned _ _ rfl, given]
  simp only [Simulation.State.plan, SchedulerSettings.ofConfig, Nat.mul_eq_zero]
  by_cases zero : config.evaluationInterval = 0
  · simp [zero]
  · simp [zero]

/-- A delivery begins with an attempt if the attempts can be counted. -/
theorem start_policy_iff {policy : Webhook.RetryPolicy}
    (given : policy.maxRetries = config.webhookMaxRetries) :
    policy.start = .attempt 0 { attempt := 1 } ↔
      config.webhookMaxRetries.toNat + 1 < UInt32.size := by
  have size : UInt32.size = 2 ^ 32 := rfl
  have fits := config.webhookMaxRetries.toNat_lt
  have attempts : policy.attempts = (config.webhookMaxRetries.toNat + 1) % 2 ^ 32 := by
    rw [Webhook.RetryPolicy.attempts, given, UInt32.toNat_add]
    rfl
  unfold Webhook.RetryPolicy.start
  rw [attempts]
  split
  · rename_i none
    simp only [reduceCtorEq, false_iff]
    omega
  · rename_i some
    simp only [true_iff]
    omega

/-- An environment is accepted with what its configuration is computed to be. -/
theorem exists_accepted {holds : Config → Prop} [DecidablePred holds]
    (computed : (ofEnvironment environment).toOption.any (fun config => holds config) = true) :
    ∃ config, ofEnvironment environment = .ok config ∧ holds config := by
  cases accepted : ofEnvironment environment with
  | error fault =>
      rw [accepted] at computed
      cases computed
  | ok config =>
      rw [accepted] at computed
      exact ⟨config, rfl, of_decide_eq_true computed⟩

/-- The environment with a single variable. -/
def Environment.only (setting value : String) : Environment := Table.empty.insert setting value

/-- An accepted configuration can be run on exactly if no variable gives a number that its type has
and that cannot be used. The scheduler ticks, a delivery makes an attempt and an event id is
remembered for a span that can be told, each unless its own variable gives such a number. Limits are
at least one, whatever is given. -/
theorem accepted_isRunnable_iff (accepted : ofEnvironment environment = .ok config) :
    (config.IsRunnable ↔ environment.IsUsable) ∧
    (∀ setting state duration, setting.scheduler = .ofConfig config →
      ((Simulation.State.startScheduler setting state duration).schedule = some state.time ↔
        ¬ environment.Gives "EVAL_INTERVAL_SECS" "60" 0)) ∧
    (∀ policy : Webhook.RetryPolicy, policy.maxRetries = config.webhookMaxRetries →
      (policy.start = .attempt 0 { attempt := 1 } ↔
        ¬ environment.Gives "WEBHOOK_MAX_RETRIES" "3" (2 ^ 32 - 1))) ∧
    (∀ verifier : Webhook.Verifier, verifier.maxAge = config.webhookMaxAge →
      (verifier.memory < UInt64.size * Claims.second ↔
        ∀ age, environment.Gives "WEBHOOK_MAX_AGE_SECS" "300" age → age < 2 ^ 63)) ∧
    1 ≤ (SchedulerSettings.ofConfig config).maxConcurrentGroups ∧
    1 ≤ (SchedulerSettings.ofConfig config).slots := by
  have numbers := givenBy_of_accepted accepted
  have words : UInt64.size = 2 ^ 64 := rfl
  have halfWords : UInt32.size = 2 ^ 32 := rfl
  refine ⟨numbers.isRunnable_iff, ?_, ?_, ?_, Nat.le_max_right _ _, Nat.le_max_right _ _⟩
  · intro setting state duration given
    rw [schedule_startScheduler_iff given]
    exact not_congr ⟨fun zero => zero ▸ numbers.ticks, numbers.ticks.unique⟩
  · intro policy given
    have fits := config.webhookMaxRetries.toNat_lt
    have most : config.webhookMaxRetries.toNat = 2 ^ 32 - 1 ↔
        environment.Gives "WEBHOOK_MAX_RETRIES" "3" (2 ^ 32 - 1) :=
      ⟨fun most => most ▸ numbers.retries, numbers.retries.unique⟩
    rw [start_policy_iff given, ← most]
    omega
  · intro verifier given
    have age : (∀ age, environment.Gives "WEBHOOK_MAX_AGE_SECS" "300" age → age < 2 ^ 63) ↔
        config.webhookMaxAge < 2 ^ 63 :=
      ⟨fun all => all _ numbers.age, fun short age gives => numbers.age.unique gives ▸ short⟩
    rw [age, Webhook.Verifier.memory, given, Nat.mul_lt_mul_right (by decide)]
    omega

/-- The configuration without any variable. -/
theorem default_configuration_isRunnable :
    ∃ config, ofEnvironment Table.empty = .ok config ∧ config.IsRunnable ∧
      Environment.IsUsable Table.empty := by
  have computed : (ofEnvironment Table.empty).toOption.any
      (fun config => config.IsRunnable) = true := by
    decide +kernel
  obtain ⟨config, accepted, runnable⟩ := exists_accepted computed
  exact ⟨config, accepted, runnable, (accepted_isRunnable_iff accepted).1.1 runnable⟩

/-- Each variable by itself can give a number that is accepted and cannot be used. -/
theorem unusable_settings_accepted :
    (∃ config, ofEnvironment (.only "EVAL_INTERVAL_SECS" "0") = .ok config ∧
      config.evaluationInterval = 0) ∧
    (∃ config, ofEnvironment (.only "REGISTRY_SYNC_SECS" "0") = .ok config ∧
      config.syncInterval = 0) ∧
    (∃ config, ofEnvironment (.only "WEBHOOK_MAX_RETRIES" "4294967295") = .ok config ∧
      config.webhookMaxRetries + 1 = 0) ∧
    (∃ config, ofEnvironment (.only "WEBHOOK_MAX_AGE_SECS" "9223372036854775808") = .ok config ∧
      UInt64.size ≤ config.webhookMaxAge * 2) ∧
    (∃ config, ofEnvironment (.only "EVAL_MAX_CONCURRENT_GROUPS" "2305843009213693952") =
        .ok config ∧
      mostPermits < (SchedulerSettings.ofConfig config).maxConcurrentGroups) ∧
    (∃ config, ofEnvironment (.only "DISPATCH_MAX_INFLIGHT" "2305843009213693952") = .ok config ∧
      mostPermits < (SchedulerSettings.ofConfig config).slots) := by
  refine ⟨?_, ?_, ?_, ?_, ?_, ?_⟩
  all_goals
    apply exists_accepted
    decide +kernel

end Config

end CandleAlerts
