import CandleAlerts.Proofs.DispatchClaims

/-!
What claims are told apart by.

A claim is made on a key, which is derived from the id of an event and from what the event is
claimed for: to be dispatched, or to be accepted in a signed request. The id is derived from an
alert and the opening time of a bar. Nothing is lost on the way from these to the key. So after any
number of dispatches and requests, an event is passed over only for its own sake: because it was
dispatched before, or accepted before, and the claim made then has not lapsed.
-/

namespace CandleAlerts

/-! ## Keys -/

/-- What a claim is made for: to dispatch an event, or to accept a signed request for one. -/
inductive ClaimUse where
  | dispatching (eventId : String)
  | accepting (eventId : String)
deriving DecidableEq

namespace ClaimUse

def key : ClaimUse → String
  | dispatching eventId => dispatchKey eventId
  | accepting eventId => Webhook.claimKey eventId

end ClaimUse

/-- The keys of the two uses begin with different letters. -/
theorem dispatchKey_ne_claimKey (first second : String) :
    dispatchKey first ≠ Webhook.claimKey second := by
  intro same
  have letters := congrArg (fun key => key.toList.head?) same
  simp only [dispatchKey, Webhook.claimKey, String.toList_append] at letters
  cases letters

theorem ClaimUse.key_inj {first second : ClaimUse} : first.key = second.key ↔ first = second := by
  cases first with
  | dispatching firstId =>
      cases second with
      | dispatching secondId => simp only [key, dispatchKey_inj, dispatching.injEq]
      | accepting secondId => simp only [key, dispatchKey_ne_claimKey, reduceCtorEq]
  | accepting firstId =>
      cases second with
      | dispatching secondId =>
          simp only [key, (dispatchKey_ne_claimKey _ _).symm, reduceCtorEq]
      | accepting secondId => simp only [key, Webhook.claimKey_inj, accepting.injEq]

/-! ## Dispatches -/

namespace Services

variable {services : Services} {alert : Alert} {event : TriggerEvent} {secret : String}
  {now : Instant} {clock : Nat}

/-- An event is passed over exactly if its key is held or cannot be claimed for long enough. -/
theorem beginDispatch_eq_none_iff (works : services.works .claim = true) :
    (services.beginDispatch alert event secret now clock).1 = none ↔
      services.claims.holds (dispatchKey event.eventId) clock = true ∨
        Claims.clockEnd ≤ clock + dispatchMemory := by
  simp only [beginDispatch, Services.claim, works, if_true]
  rcases services.claims.claim_cases (dispatchKey event.eventId) dispatchMemory clock with
    ⟨held, taken⟩ | ⟨free, ends, claimed⟩ | ⟨free, endless, crashed⟩
  · rw [taken, held]
    simp
  · rw [claimed, free]
    simpa using ends
  · rw [crashed, free]
    simpa using endless

/-- A key is held if it was held before, and when the event whose key it is was just dispatched and
claimed. -/
theorem beginDispatch_holds_key {later : Nat} (ordered : clock ≤ later) (key : String) :
    (services.beginDispatch alert event secret now clock).2.claims.holds key later = true ↔
      services.claims.holds key later = true ∨
        services.works .claim = true ∧
          (services.beginDispatch alert event secret now clock).1 ≠ none ∧
          dispatchKey event.eventId = key ∧ later < clock + dispatchMemory := by
  cases works : services.works .claim with
  | false =>
      simp only [beginDispatch, Services.claim, works, Bool.false_eq_true, if_false, false_and,
        or_false]
      rw [(services.beginClaimed_apart alert event secret now).1]
  | true =>
      rw [ne_eq, beginDispatch_eq_none_iff works]
      simp only [beginDispatch, Services.claim, works, if_true, true_and]
      rcases services.claims.claim_cases (dispatchKey event.eventId) dispatchMemory clock with
        ⟨held, taken⟩ | ⟨free, ends, claimed⟩ | ⟨-, endless, crashed⟩
      · rw [taken]
        dsimp only
        rw [Claims.holds_eq_of_alive (services.claims.alive_alive (Nat.le_refl clock)) ordered]
        simp [held]
      · rw [claimed]
        dsimp only
        rw [(beginClaimed_apart _ alert event secret now).1,
          services.claims.holds_claimed free ordered]
        simp [free, ends]
      · rw [crashed]
        dsimp only
        rw [Claims.holds_eq_of_alive (services.claims.alive_alive (Nat.le_refl clock)) ordered]
        simp [endless]

end Services

/-! ## Runs -/

/-- The services at a time on the clock of claims. -/
structure TimedServices where
  services : Services
  clock : Nat

/-- A claim that was granted: what for, and when it lapses. -/
structure GrantedClaim where
  use : ClaimUse
  expiry : Nat

namespace TimedServices

/-- The steps, and the claims that they are granted. Events are dispatched and requests are handled
at any time, and nothing else touches the claims. -/
inductive Step : TimedServices → Option GrantedClaim → TimedServices → Prop
  | dispatched (timed : TimedServices) (alert : Alert) (event : TriggerEvent) (secret : String)
      (now : Instant) (works : timed.services.works .claim = true)
      (begun : (timed.services.beginDispatch alert event secret now timed.clock).1 ≠ none) :
      Step timed (some ⟨.dispatching event.eventId, timed.clock + dispatchMemory⟩)
        { timed with
          services := (timed.services.beginDispatch alert event secret now timed.clock).2 }
  | dispatchedUnclaimed (timed : TimedServices) (alert : Alert) (event : TriggerEvent)
      (secret : String) (now : Instant) (fails : timed.services.works .claim = false) :
      Step timed none
        { timed with
          services := (timed.services.beginDispatch alert event secret now timed.clock).2 }
  | passedOver (timed : TimedServices) (alert : Alert) (event : TriggerEvent) (secret : String)
      (now : Instant)
      (duplicate : (timed.services.beginDispatch alert event secret now timed.clock).1 = none) :
      Step timed none
        { timed with
          services := (timed.services.beginDispatch alert event secret now timed.clock).2 }
  | accepted (timed : TimedServices) (settings : Api.Settings) (request : Api.Request) (now : Int)
      (verifier : Webhook.Verifier) (eventId : String)
      (receives : settings.verifier = some verifier)
      (answered : (Api.handle settings timed.services request now timed.clock).1 =
        Api.verified eventId) :
      Step timed (some ⟨.accepting eventId, timed.clock + verifier.memory⟩)
        { timed with services := (Api.handle settings timed.services request now timed.clock).2 }
  | requested (timed : TimedServices) (settings : Api.Settings) (request : Api.Request)
      (now : Int)
      (otherwise : ∀ eventId, (Api.handle settings timed.services request now timed.clock).1 ≠
        Api.verified eventId) :
      Step timed none
        { timed with services := (Api.handle settings timed.services request now timed.clock).2 }
  | elsewhere (timed : TimedServices) {after : Services}
      (untouched : after.claims = timed.services.claims) :
      Step timed none { timed with services := after }
  | waited (timed : TimedServices) (time : Nat) :
      Step timed none { timed with clock := timed.clock + time }

abbrev Run := StepRun Step

/-- Whether a claim for a use was among those granted and has not lapsed at a time. -/
def Granted (events : List (Option GrantedClaim)) (use : ClaimUse) (time : Nat) : Prop :=
  ∃ claim, some claim ∈ events ∧ claim.use = use ∧ time < claim.expiry

variable {start timed next final : TimedServices} {event : Option GrantedClaim}
  {events : List (Option GrantedClaim)}

theorem Step.forward (step : Step timed event next) : timed.clock ≤ next.clock := by
  cases step with
  | waited time => exact Nat.le_add_right _ _
  | dispatched | dispatchedUnclaimed | passedOver | accepted | requested | elsewhere =>
      exact Nat.le_refl _

/-- After a step the keys are held that were held before, and that of the use for which a claim was
granted. -/
theorem Step.holds_key (step : Step timed event next) {later : Nat} (ordered : timed.clock ≤ later)
    (use : ClaimUse) :
    next.services.claims.holds use.key later = true ↔
      timed.services.claims.holds use.key later = true ∨ Granted [event] use later := by
  have nothing : ¬ Granted [none] use later := by
    rintro ⟨claim, member, -⟩
    cases List.mem_singleton.1 member
  have granted (other : ClaimUse) (expiry : Nat) : Granted [some ⟨other, expiry⟩] use later ↔
      other.key = use.key ∧ later < expiry := by
    rw [ClaimUse.key_inj]
    constructor
    · rintro ⟨claim, member, same, lasts⟩
      cases List.mem_singleton.1 member
      exact ⟨same, lasts⟩
    · rintro ⟨same, lasts⟩
      exact ⟨_, List.mem_singleton_self _, same, lasts⟩
  cases step with
  | dispatched alert triggered secret now works begun =>
      rw [Services.beginDispatch_holds_key ordered, granted, ClaimUse.key]
      simp only [works, begun, ne_eq, not_false_eq_true, true_and]
  | dispatchedUnclaimed alert triggered secret now fails =>
      rw [Services.beginDispatch_holds_key ordered]
      simp only [fails, Bool.false_eq_true, false_and, nothing]
  | passedOver alert triggered secret now duplicate =>
      rw [Services.beginDispatch_holds_key ordered]
      simp only [duplicate, ne_eq, not_true_eq_false, false_and, and_false, nothing]
  | accepted settings request now verifier eventId receives answered =>
      rw [(Api.handle_handled timed.services).holds_key ordered, granted]
      refine or_congr_right ⟨?_, ?_⟩
      · rintro ⟨receiver, acceptedId, receiving, given, same, lasts⟩
        cases Option.some.inj (receiving.symm.trans receives)
        cases Api.verified_inj.1 (given.symm.trans answered)
        exact ⟨same, lasts⟩
      · rintro ⟨same, lasts⟩
        exact ⟨verifier, eventId, receives, answered, same, lasts⟩
  | requested settings request now otherwise =>
      rw [(Api.handle_handled timed.services).holds_key ordered]
      refine or_congr_right ⟨?_, fun granted => absurd granted nothing⟩
      rintro ⟨receiver, acceptedId, -, given, -⟩
      exact absurd given (otherwise acceptedId)
  | elsewhere untouched =>
      dsimp only
      rw [untouched]
      simp only [nothing, or_false]
  | waited time => simp only [nothing, or_false]

theorem granted_snoc (use : ClaimUse) (time : Nat) :
    Granted (events ++ [event]) use time ↔ Granted events use time ∨ Granted [event] use time := by
  simp only [Granted, List.mem_append, or_and_right, exists_or]

/-- After a run the keys are held that were held to begin with, and those of the uses for which a
claim was granted that has not lapsed. -/
theorem Run.holds_key (run : Run start events final) {later : Nat} (ordered : final.clock ≤ later)
    (use : ClaimUse) :
    final.services.claims.holds use.key later = true ↔
      start.services.claims.holds use.key later = true ∨ Granted events use later := by
  induction run with
  | nil => simp [Granted]
  | snoc rest step induction =>
      have earlier := Nat.le_trans step.forward ordered
      rw [step.holds_key earlier, induction earlier, granted_snoc, or_assoc]

/-- Event ids tell alerts and bars apart, and keys tell events apart and what they are claimed for.
Whatever was dispatched, accepted and done besides, an event is then passed over exactly if its own
key was held to begin with or it was dispatched and the claim has not lapsed, and a genuine request
is refused as a duplicate exactly if the same holds of its event and requests that were accepted.
Besides, nothing is dispatched and nothing accepted once the clock ends before a new claim would. -/
theorem keys_never_collide :
    (∀ (firstId secondId : String) (firstTime secondTime : Int),
      eventIdOf firstId firstTime = eventIdOf secondId secondTime ↔
        firstId = secondId ∧ firstTime = secondTime) ∧
    (∀ first second : String,
      (dispatchKey first = dispatchKey second ↔ first = second) ∧
      (Webhook.claimKey first = Webhook.claimKey second ↔ first = second) ∧
      dispatchKey first ≠ Webhook.claimKey second) ∧
    ∀ (start final : TimedServices) (events : List (Option GrantedClaim)),
      Run start events final → final.services.works .claim = true →
      (∀ (alert : Alert) (event : TriggerEvent) (secret : String) (now : Instant),
        (final.services.beginDispatch alert event secret now final.clock).1 = none ↔
          start.services.claims.holds (dispatchKey event.eventId) final.clock = true ∨
            Granted events (.dispatching event.eventId) final.clock ∨
            Claims.clockEnd ≤ final.clock + dispatchMemory) ∧
      ∀ (settings : Api.Settings) (verifier : Webhook.Verifier) (request : Api.Request) (now : Int)
        (eventId : String),
        (⟨request, now, final.clock⟩ : Api.TimedRequest).Genuine settings verifier eventId →
        ((Api.handle settings final.services request now final.clock).1 =
            Api.settled eventId .taken ↔
          (start.services.claims.holds (Webhook.claimKey eventId) final.clock = true ∨
            Granted events (.accepting eventId) final.clock) ∧ verifier.memoryFits = true) ∧
        ((Api.handle settings final.services request now final.clock).1 = Api.verified eventId ↔
          ¬ (start.services.claims.holds (Webhook.claimKey eventId) final.clock = true ∨
            Granted events (.accepting eventId) final.clock) ∧
          final.clock + verifier.memory < Claims.clockEnd) := by
  refine ⟨fun _ _ _ _ => eventIdOf_inj,
    fun _ _ => ⟨dispatchKey_inj, Webhook.claimKey_inj, dispatchKey_ne_claimKey _ _⟩, ?_⟩
  intro start final events run works
  have held (use : ClaimUse) := run.holds_key (Nat.le_refl final.clock) use
  constructor
  · intro alert event secret now
    exact (Services.beginDispatch_eq_none_iff works).trans
      ((or_congr_left (held (.dispatching event.eventId))).trans or_assoc)
  · intro settings verifier request now eventId genuine
    have free := Api.response_of_genuine genuine works
    rw [← Bool.not_eq_true] at free
    exact ⟨(Api.duplicate_of_genuine genuine works).trans
        (and_congr_left' (held (.accepting eventId))),
      free.trans (and_congr_left' (not_congr (held (.accepting eventId))))⟩

/-! An event of an hour, which is dispatched, the signed request that its receiver gets two seconds
later, and an event of another alert, whose id and hour have the same letters. -/

def hourEvent (alertId : String) (barTime : Int) : TriggerEvent :=
  .of { AlertDesk.watch .hour with id := alertId } (SharedAlerts.barAt barTime) {} ⟨0, 0⟩

def fresh : TimedServices := { services := { channel := { capacity := 1 } }, clock := 0 }

def afterDispatch : Services :=
  (fresh.services.beginDispatch (AlertDesk.watch .hour) (hourEvent "a1" 3600) "" ⟨0, 0⟩ 0).2

theorem use_of_granted {claim : GrantedClaim} {use : ClaimUse} {time : Nat}
    (granted : Granted [some claim, none] use time) : use = claim.use := by
  obtain ⟨other, member, same, -⟩ := granted
  rcases List.mem_cons.1 member with given | member
  · cases given
    exact same.symm
  · cases List.mem_singleton.1 member

theorem fresh_holds_nothing (key : String) (time : Nat) :
    fresh.services.claims.holds key time = false := rfl

theorem run_afterDispatch :
    Run fresh [some ⟨.dispatching "a1:3600", dispatchMemory⟩, none]
      { services := afterDispatch, clock := 2 * Claims.second } := by
  have begun : (fresh.services.beginDispatch (AlertDesk.watch .hour) (hourEvent "a1" 3600) ""
      ⟨0, 0⟩ 0).1 ≠ none := by
    rw [ne_eq, Services.beginDispatch_eq_none_iff rfl, fresh_holds_nothing]
    decide
  have dispatched := Step.dispatched fresh (AlertDesk.watch .hour) (hourEvent "a1" 3600) "" ⟨0, 0⟩
    rfl begun
  have waited := Step.waited { services := afterDispatch, clock := 0 } (2 * Claims.second)
  rw [Nat.zero_add] at waited
  exact (StepRun.single dispatched).snoc waited

theorem one_event_dispatched_and_accepted :
    Run fresh [some ⟨.dispatching "a1:3600", dispatchMemory⟩, none]
      { services := afterDispatch, clock := 2 * Claims.second } ∧
    afterDispatch.works .claim = true ∧
    (⟨Api.signedRequest, 1700000000, 2 * Claims.second⟩ : Api.TimedRequest).Genuine Api.receiving
      Webhook.Verifier.fiveMinutes "a1:3600" ∧
    (afterDispatch.beginDispatch (AlertDesk.watch .hour) (hourEvent "a1" 3600) "" ⟨0, 0⟩
      (2 * Claims.second)).1 = none ∧
    (Api.handle Api.receiving afterDispatch Api.signedRequest 1700000000
      (2 * Claims.second)).1 = Api.verified "a1:3600" ∧
    (afterDispatch.beginDispatch (AlertDesk.watch .hour) (hourEvent "a1:3" 600) "" ⟨0, 0⟩
      (2 * Claims.second)).1 ≠ none := by
  have works : afterDispatch.works .claim = true := rfl
  obtain ⟨-, -, runs⟩ := keys_never_collide
  obtain ⟨dispatches, requests⟩ := runs _ _ _ run_afterDispatch works
  refine ⟨run_afterDispatch, works, Api.genuine_signedRequest, ?_, ?_, ?_⟩
  · exact (dispatches _ _ _ _).2 (.inr (.inl ⟨_, List.mem_cons_self, rfl, by decide⟩))
  · refine (requests _ _ _ _ _ Api.genuine_signedRequest).2.2 ⟨?_, by decide⟩
    rintro (held | granted)
    · cases held
    · cases use_of_granted granted
  · intro passedOver
    rcases (dispatches _ _ _ _).1 passedOver with held | granted | endless
    · cases held
    · have same := use_of_granted granted
      revert same
      decide
    · revert endless
      decide

end TimedServices

end CandleAlerts
