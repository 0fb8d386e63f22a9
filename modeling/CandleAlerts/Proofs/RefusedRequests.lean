import CandleAlerts.Api.Router
import CandleAlerts.Proofs.ClaimLifetimes
import CandleAlerts.Proofs.ReplayProtection

/-!
What refused requests leave behind.

Nothing but the removal of claims that have expired anyway: a request that is refused changes neither
the registry nor storage, and claims nothing. As no answer depends on claims that have expired,
leaving the refused requests out of a sequence changes none of the other answers. What a receiver
remembers comes from the requests alone that it accepted.
-/

namespace CandleAlerts

/-! ## Services that are alike -/

/-- Whether services differ in nothing but claims that have expired. -/
structure Services.AlikeAt (clock : Nat) (first second : Services) : Prop where
  apartFromClaims : second = { first with claims := second.claims }
  alive : first.claims.alive clock = second.claims.alive clock

namespace Services.AlikeAt

variable {clock earlier later : Nat} {first second third : Services}

theorem refl (services : Services) : AlikeAt clock services services :=
  ⟨rfl, rfl⟩

theorem symm (alike : AlikeAt clock first second) : AlikeAt clock second first := by
  refine ⟨?_, alike.alive.symm⟩
  rw [alike.apartFromClaims]

theorem trans (left : AlikeAt clock first second) (right : AlikeAt clock second third) :
    AlikeAt clock first third := by
  refine ⟨?_, left.alive.trans right.alive⟩
  rw [right.apartFromClaims, left.apartFromClaims]

theorem mono (alike : AlikeAt earlier first second) (ordered : earlier ≤ later) :
    AlikeAt later first second :=
  ⟨alike.apartFromClaims, Claims.alive_eq_mono alike.alive ordered⟩

theorem down (alike : AlikeAt clock first second) : second.down = first.down := by
  rw [alike.apartFromClaims]

end Services.AlikeAt

namespace Api

/-- Whether a response says that the request was carried out. -/
def Response.succeeds (response : Response) : Bool :=
  response.status.any (fun status => 200 ≤ status && status < 300)

/-- What becomes of a request whose handling crashes. -/
def unanswered : Response := { status := none, body := none }

/-- The answer to a signed request for an event that is accepted. -/
def verified (eventId : String) : Response :=
  respond (.ok (.object [("valid", .boolean true), ("event_id", .string eventId)]))

theorem verified_inj {first second : String} : verified first = verified second ↔ first = second := by
  simp [verified, respond]

theorem Rejection.response_fails (rejection : Rejection) :
    rejection.response.succeeds = false := by
  cases rejection <;> rfl

theorem Refusal.response_fails (refusal : Refusal) : refusal.response.succeeds = false := by
  cases refusal <;> rfl

theorem Refusal.response_ne_verified (refusal : Refusal) (eventId : String) :
    refusal.response ≠ verified eventId := by
  intro same
  have failed := refusal.response_fails
  rw [same] at failed
  cases failed

/-! ## Operations apart from verifying -/

/-- Whether what an operation does to services has nothing to do with claims, is not the acceptance of
a signed request, and is nothing at all when it is refused. -/
structure PlainAt (operation : Services → Response × Services) (services : Services) : Prop where
  claims : ∀ claims, operation { services with claims } =
    ((operation services).1, { (operation services).2 with claims })
  refused : (operation services).1.succeeds = false → (operation services).2 = services
  down : (operation services).2.down = services.down
  notVerified : ∀ eventId, (operation services).1 ≠ verified eventId

namespace PlainAt

variable {operation : Services → Response × Services} {services : Services}

theorem of_failure {response : Response} (failed : response.succeeds = false)
    (result : ∀ claims, operation { services with claims } = (response, { services with claims })) :
    PlainAt operation services := by
  have here : operation services = (response, services) := result services.claims
  refine ⟨?_, ?_, ?_, ?_⟩
  · intro claims
    rw [result claims, here]
  · intro _
    rw [here]
  · rw [here]
  · intro eventId same
    rw [here] at same
    dsimp only at same
    rw [same] at failed
    cases failed

theorem of_success
    (claims : ∀ claims, operation { services with claims } =
      ((operation services).1, { (operation services).2 with claims }))
    (succeeded : (operation services).1.succeeds = true)
    (down : (operation services).2.down = services.down)
    (notVerified : ∀ eventId, (operation services).1 ≠ verified eventId) :
    PlainAt operation services := by
  refine ⟨claims, ?_, down, notVerified⟩
  intro failed
  rw [succeeded] at failed
  cases failed

theorem keeps_claims (plain : PlainAt operation services) :
    (operation services).2.claims = services.claims :=
  congrArg (fun result => result.2.claims) (plain.claims services.claims)

/-- Services that are alike are alike after a plain operation, and it answers the same. -/
theorem alike {clock : Nat} {other : Services} (plain : PlainAt operation services)
    (alike : services.AlikeAt clock other) :
    (operation other).1 = (operation services).1 ∧
      (operation services).2.AlikeAt clock (operation other).2 := by
  have same : operation other =
      ((operation services).1, { (operation services).2 with claims := other.claims }) := by
    rw [← plain.claims other.claims, ← alike.apartFromClaims]
  rw [same]
  refine ⟨rfl, rfl, ?_⟩
  dsimp only
  rw [plain.keeps_claims]
  exact alike.alive

end PlainAt

@[simp]
theorem works_withClaims (services : Services) (claims : Claims) (part : ServicePart) :
    ({ services with claims } : Services).works part = services.works part :=
  rfl

theorem activate_plain (settings : Settings) (definition : Json) (services : Services) :
    PlainAt (fun services => (respond (activate settings services definition).1,
      (activate settings services definition).2)) services := by
  cases read : Definition.readAlert definition settings.defaultFireMode with
  | error cause =>
      apply PlainAt.of_failure (Refusal.definition cause).response_fails
      intro claims
      simp only [activate, read, respond]
  | ok alert =>
      cases works : services.works .saveAlert with
      | false =>
          apply PlainAt.of_failure Refusal.storage.response_fails
          intro claims
          simp [activate, read, Services.changeStore, works, respond]
      | true =>
          apply PlainAt.of_success <;>
            simp only [activate, read, Services.changeStore, works, works_withClaims, if_true]
          · intro claims
            split <;> rfl
          · rfl
          · split <;> rfl
          · simp [respond, verified]

theorem deactivate_plain (alertId : String) (services : Services) :
    PlainAt (fun services => (respond (deactivate services alertId).1,
      (deactivate services alertId).2)) services := by
  cases works : services.works .deactivateAlert with
  | false =>
      apply PlainAt.of_failure Refusal.storage.response_fails
      intro claims
      simp [deactivate, Services.changeStore, works, respond]
  | true =>
      apply PlainAt.of_success <;>
        simp [deactivate, Services.changeStore, works, respond, verified, Response.succeeds]

theorem subscribe_plain (settings : Settings) (subscriberId conditionId : String)
    (recipient : Recipient) (services : Services) :
    PlainAt (fun services =>
      (respond (subscribe settings services subscriberId conditionId recipient).1,
        (subscribe settings services subscriberId conditionId recipient).2)) services := by
  cases found : subscriptionRefusal? services.registry subscriberId conditionId recipient with
  | some refusal =>
      apply PlainAt.of_failure refusal.response_fails
      intro claims
      simp only [subscribe, found, respond]
  | none =>
      cases works : services.works .saveSubscription with
      | false =>
          apply PlainAt.of_failure Refusal.storage.response_fails
          intro claims
          simp [subscribe, found, Services.changeStore, works, respond]
      | true =>
          apply PlainAt.of_success <;>
            simp [subscribe, found, Services.changeStore, works, respond, verified,
              Response.succeeds]

theorem unsubscribe_plain (subscriberId conditionId : String) (services : Services) :
    PlainAt (fun services => (respond (unsubscribe services subscriberId conditionId).1,
      (unsubscribe services subscriberId conditionId).2)) services := by
  cases works : services.works .deactivateSubscription with
  | false =>
      apply PlainAt.of_failure Refusal.storage.response_fails
      intro claims
      simp [unsubscribe, Services.changeStore, works, respond]
  | true =>
      apply PlainAt.of_success <;>
        simp [unsubscribe, Services.changeStore, works, respond, verified, Response.succeeds]

theorem showState_plain (alertId : String) (services : Services) :
    PlainAt (fun services => (respond (showState services alertId), services)) services := by
  cases found : services.registry.get? alertId with
  | none =>
      apply PlainAt.of_failure
        (Refusal.notFound ("alert " ++ alertId ++ " is not active")).response_fails
      intro claims
      simp only [showState, found, respond]
  | some entry =>
      apply PlainAt.of_success <;> simp [showState, found, respond, verified, Response.succeeds]

theorem onBody_plain {α : Type} (body : Except Rejection α) (operation : Services → α → Answer)
    (services : Services)
    (plain : ∀ value, PlainAt (fun services => (respond (operation services value).1,
      (operation services value).2)) services) :
    PlainAt (fun services => onBody services body (operation services)) services := by
  cases body with
  | error rejection => exact PlainAt.of_failure rejection.response_fails (fun _ => rfl)
  | ok value => exact plain value

theorem carryOut_plain (settings : Settings) (request : Request) (now : Int) (clock : Nat)
    {route : Route} (apart : route ≠ .verify) (services : Services) :
    PlainAt (fun services => carryOut settings services request now clock route) services := by
  cases route with
  | activate => exact onBody_plain _ _ services (fun definition =>
      activate_plain settings definition services)
  | deactivate => exact onBody_plain _ _ services (fun alertId => deactivate_plain alertId services)
  | state alertId =>
      simp only [carryOut]
      cases decodePathPart? alertId with
      | none => exact PlainAt.of_failure Rejection.malformedPath.response_fails (fun _ => rfl)
      | some alertId => exact showState_plain alertId services
  | subscribe =>
      simp only [carryOut]
      generalize request.subscription = body
      apply onBody_plain body
      rintro ⟨subscriberId, conditionId, recipient⟩
      exact subscribe_plain settings subscriberId conditionId recipient services
  | unsubscribe =>
      simp only [carryOut]
      generalize request.unsubscription = body
      apply onBody_plain body
      rintro ⟨subscriberId, conditionId⟩
      exact unsubscribe_plain subscriberId conditionId services
  | verify => exact absurd rfl apart
  | status =>
      apply PlainAt.of_success <;>
        simp [carryOut, verified, respond, showStatus, Response.succeeds]
  | metrics =>
      cases has : settings.hasMetrics with
      | true =>
          apply PlainAt.of_success <;>
            simp [carryOut, has, verified, respond, Response.succeeds]
      | false =>
          apply PlainAt.of_failure Refusal.unavailable.response_fails
          intro claims
          simp [carryOut, has]

/-! ## Verifying -/

theorem claim_alike {clock : Nat} {first second : Services} (alike : first.AlikeAt clock second)
    (key : String) (lifetime : Nat) :
    (second.claim key lifetime clock).1 = (first.claim key lifetime clock).1 ∧
      (first.claim key lifetime clock).2.AlikeAt clock (second.claim key lifetime clock).2 := by
  have same : first.claims.claim key lifetime clock = second.claims.claim key lifetime clock :=
    Claims.claim_eq_of_alive alike.alive
  simp only [Services.claim, Services.works, alike.down, same]
  cases first.down.contains .claim with
  | true => exact ⟨rfl, alike⟩
  | false =>
      refine ⟨rfl, ?_, rfl⟩
      rw [alike.apartFromClaims]
      rfl

/-- What verifying checks before it claims anything: the receiver, and the event id of a request that
passes. -/
def checked (settings : Settings) (request : Request) (now : Int) :
    Except Refusal (Webhook.Verifier × String) :=
  match settings.verifier with
  | none => .error .unavailable
  | some verifier =>
      match request.textHeader? signatureHeaderName, request.textHeader? eventIdHeaderName with
      | none, _ => .error (.unauthorized ("missing " ++ signatureHeaderName ++ " header"))
      | _, none => .error (.invalid ("missing " ++ eventIdHeaderName ++ " header"))
      | some signature, some eventId =>
          match verifier.examine settings.mac request.body signature eventId now with
          | .error error => .error (.ofVerifyError error)
          | .ok eventId => .ok (verifier, eventId)

/-- The answer to a request that passed every check, by what became of the claim on its event. -/
def settled (eventId : String) : ClaimOutcome → Response
  | .claimed => verified eventId
  | .taken => (Refusal.ofVerifyError (.duplicate eventId)).response
  | .unavailable reason => (Refusal.ofVerifyError (.store reason)).response
  | .crashed => unanswered

theorem unanswered_fails : unanswered.succeeds = false := rfl

theorem unanswered_ne_verified (eventId : String) : unanswered ≠ verified eventId := by
  intro same
  cases congrArg Response.status same

theorem unanswered_ne_taken (eventId : String) : unanswered ≠ settled eventId .taken := by
  intro same
  cases congrArg Response.status same

section Verifying

variable {settings : Settings} {request : Request} {now : Int} {clock : Nat} {services : Services}
  {verifier : Webhook.Verifier} {eventId : String}

/-- Verifying is checking and then claiming, if the event can be remembered for long enough. -/
theorem carryOut_verify_eq (settings : Settings) (services : Services) (request : Request)
    (now : Int) (clock : Nat) :
    carryOut settings services request now clock .verify =
      match checked settings request now with
      | .error refusal => (refusal.response, services)
      | .ok (verifier, eventId) =>
          if verifier.memoryFits then
            (settled eventId (services.claim (Webhook.claimKey eventId) verifier.memory clock).1,
              (services.claim (Webhook.claimKey eventId) verifier.memory clock).2)
          else (unanswered, services) := by
  simp only [carryOut, verify, checked, claimEvent]
  cases settings.verifier with
  | none => rfl
  | some verifier =>
      cases request.textHeader? signatureHeaderName with
      | none => rfl
      | some signature =>
          cases request.textHeader? eventIdHeaderName with
          | none => rfl
          | some header =>
              dsimp only
              cases verifier.examine settings.mac request.body signature header now with
              | error error => rfl
              | ok eventId =>
                  dsimp only
                  cases verifier.memoryFits with
                  | false => rfl
                  | true =>
                      simp only [if_true]
                      cases (services.claim (Webhook.claimKey eventId) verifier.memory clock).1 <;>
                        rfl

theorem checked_eq_ok {signature header : String} (receives : settings.verifier = some verifier)
    (signed : request.textHeader? signatureHeaderName = some signature)
    (named : request.textHeader? eventIdHeaderName = some header)
    (examined : verifier.examine settings.mac request.body signature header now = .ok eventId) :
    checked settings request now = .ok (verifier, eventId) := by
  simp only [checked, receives, signed, named, examined]

/-- A receiver whose requests pass is the one there is. -/
theorem verifier_of_checked (passed : checked settings request now = .ok (verifier, eventId)) :
    settings.verifier = some verifier := by
  simp only [checked] at passed
  split at passed
  · cases passed
  · rename_i receiver receives
    split at passed
    · cases passed
    · cases passed
    · split at passed
      · cases passed
      · cases passed
        exact receives

end Verifying

/-! ## Requests -/

/-- What handling a request may come to. -/
inductive Handled (settings : Settings) (services : Services) (clock : Nat) :
    Response × Services → Prop
  | refused {response : Response} {after : Services} (failed : response.succeeds = false)
      (alike : services.AlikeAt clock after) : Handled settings services clock (response, after)
  | done {response : Response} {after : Services} (succeeded : response.succeeds = true)
      (claims : after.claims = services.claims) (down : after.down = services.down)
      (notVerified : ∀ eventId, response ≠ verified eventId) :
      Handled settings services clock (response, after)
  | accepted {verifier : Webhook.Verifier} {eventId : String}
      (receives : settings.verifier = some verifier)
      (free : services.claims.holds (Webhook.claimKey eventId) clock = false) :
      Handled settings services clock (verified eventId,
        { services with
          claims :=
            { expiries := (services.claims.alive clock).expiries.insert (Webhook.claimKey eventId)
                (clock + verifier.memory) } })

namespace Handled

variable {settings : Settings} {services : Services} {clock : Nat} {result : Response × Services}

theorem alike_of_failure (handled : Handled settings services clock result)
    (failed : result.1.succeeds = false) : services.AlikeAt clock result.2 := by
  cases handled with
  | refused _ alike => exact alike
  | done succeeded =>
      rw [succeeded] at failed
      cases failed
  | accepted => cases failed

theorem down (handled : Handled settings services clock result) :
    result.2.down = services.down := by
  cases handled with
  | refused _ alike => exact alike.down
  | done _ _ down => exact down
  | accepted => rfl

/-- A key is held if it was held before, and when a request was just accepted for the event whose
key it is. -/
theorem holds_key (handled : Handled settings services clock result) {later : Nat}
    (ordered : clock ≤ later) (key : String) :
    result.2.claims.holds key later = true ↔
      services.claims.holds key later = true ∨
        ∃ verifier eventId, settings.verifier = some verifier ∧ result.1 = verified eventId ∧
          Webhook.claimKey eventId = key ∧ later < clock + verifier.memory := by
  cases handled with
  | refused failed alike =>
      rw [Claims.holds_eq_of_alive alike.alive ordered]
      constructor
      · exact .inl
      · rintro (held | ⟨verifier, eventId, -, same, -⟩)
        · exact held
        · dsimp only at same
          rw [same] at failed
          cases failed
  | done _ claims _ notVerified =>
      dsimp only
      rw [claims]
      constructor
      · exact .inl
      · rintro (held | ⟨verifier, eventId, -, same, -⟩)
        · exact held
        · exact absurd same (notVerified eventId)
  | accepted receiving free =>
      rename_i receiver acceptedId
      dsimp only
      rw [services.claims.holds_claimed free ordered]
      refine or_congr_right ⟨?_, ?_⟩
      · rintro ⟨same, lasts⟩
        exact ⟨receiver, acceptedId, receiving, rfl, same, lasts⟩
      · rintro ⟨verifier, eventId, receives, answered, same, lasts⟩
        cases Option.some.inj (receiving.symm.trans receives)
        cases verified_inj.1 answered
        exact ⟨same, lasts⟩

/-- An event id is held by the receiver if it was held before, and when a request for it was just
accepted. -/
theorem holds (handled : Handled settings services clock result) {later : Nat}
    (ordered : clock ≤ later) {verifier : Webhook.Verifier}
    (receives : settings.verifier = some verifier) (eventId : String) :
    result.2.claims.holds (Webhook.claimKey eventId) later = true ↔
      services.claims.holds (Webhook.claimKey eventId) later = true ∨
        result.1 = verified eventId ∧ later < clock + verifier.memory := by
  rw [handled.holds_key ordered]
  refine or_congr_right ⟨?_, ?_⟩
  · rintro ⟨receiver, acceptedId, receiving, answered, same, lasts⟩
    cases Option.some.inj (receiving.symm.trans receives)
    cases Webhook.claimKey_inj.1 same
    exact ⟨answered, lasts⟩
  · rintro ⟨answered, lasts⟩
    exact ⟨verifier, eventId, receives, answered, rfl, lasts⟩

end Handled

section Handling

variable {settings : Settings} {request : Request} {now : Int} {clock : Nat}

theorem carryOut_verify_handled (services : Services) :
    Handled settings services clock
      (carryOut settings services request now clock .verify) := by
  cases passed : checked settings request now with
  | error refusal =>
      rw [carryOut_verify_eq, passed]
      exact .refused refusal.response_fails (.refl services)
  | ok found =>
      rcases found with ⟨verifier, eventId⟩
      rw [carryOut_verify_eq, passed]
      dsimp only
      split
      case isFalse => exact .refused unanswered_fails (.refl services)
      have pruned : services.AlikeAt clock { services with claims := services.claims.alive clock } :=
        ⟨rfl, (services.claims.alive_alive (Nat.le_refl clock)).symm⟩
      cases works : services.works .claim with
      | false =>
          simp only [Services.claim, works, Bool.false_eq_true, if_false]
          exact .refused (Refusal.response_fails _) (.refl services)
      | true =>
          simp only [Services.claim, works, if_true]
          rcases services.claims.claim_cases (Webhook.claimKey eventId) verifier.memory clock with
            ⟨-, taken⟩ | ⟨free, -, claimed⟩ | ⟨-, -, crashed⟩
          · rw [taken]
            exact .refused (Refusal.response_fails _) pruned
          · rw [claimed]
            exact .accepted (verifier_of_checked passed) free
          · rw [crashed]
            exact .refused unanswered_fails pruned

theorem carryOut_verify_alike {first second : Services} (alike : first.AlikeAt clock second) :
    (carryOut settings second request now clock .verify).1 =
        (carryOut settings first request now clock .verify).1 ∧
      (carryOut settings first request now clock .verify).2.AlikeAt clock
        (carryOut settings second request now clock .verify).2 := by
  cases passed : checked settings request now with
  | error refusal =>
      rw [carryOut_verify_eq, carryOut_verify_eq, passed]
      exact ⟨rfl, alike⟩
  | ok found =>
      rcases found with ⟨verifier, eventId⟩
      rw [carryOut_verify_eq, carryOut_verify_eq, passed]
      dsimp only
      split
      · rcases claim_alike alike (Webhook.claimKey eventId) verifier.memory with ⟨outcome, after⟩
        exact ⟨congrArg (settled eventId) outcome, after⟩
      · exact ⟨rfl, alike⟩

theorem PlainAt.handled {operation : Services → Response × Services} {services : Services}
    (plain : PlainAt operation services) : Handled settings services clock (operation services) := by
  cases succeeded : (operation services).1.succeeds with
  | true => exact .done succeeded plain.keeps_claims plain.down plain.notVerified
  | false =>
      refine .refused succeeded ?_
      rw [plain.refused succeeded]
      exact .refl services

theorem carryOut_handled (services : Services) (route : Route) :
    Handled settings services clock (carryOut settings services request now clock route) := by
  by_cases verifies : route = .verify
  · rw [verifies]
    exact carryOut_verify_handled services
  · exact (carryOut_plain settings request now clock verifies services).handled

theorem carryOut_alike {first second : Services} (alike : first.AlikeAt clock second)
    (route : Route) :
    (carryOut settings second request now clock route).1 =
        (carryOut settings first request now clock route).1 ∧
      (carryOut settings first request now clock route).2.AlikeAt clock
        (carryOut settings second request now clock route).2 := by
  by_cases verifies : route = .verify
  · rw [verifies]
    exact carryOut_verify_alike alike
  · exact (carryOut_plain settings request now clock verifies first).alike alike

/-- Asking for the head alone only leaves the body out. -/
theorem carryOut_head_handled (services : Services) (route : Route)
    (allowed : route.allows "HEAD" = true) :
    Handled settings services clock
      ({ (carryOut settings services request now clock route).1 with body := none },
        (carryOut settings services request now clock route).2) := by
  have apart : route ≠ .verify := by
    rintro rfl
    cases allowed
  have plain := carryOut_plain settings request now clock apart services
  cases succeeded : (carryOut settings services request now clock route).1.succeeds with
  | true =>
      refine .done succeeded plain.keeps_claims plain.down ?_
      intro eventId same
      cases congrArg Response.body same
  | false =>
      refine .refused succeeded ?_
      rw [plain.refused succeeded]
      exact .refl services

theorem handle_handled (services : Services) :
    Handled settings services clock (handle settings services request now clock) := by
  simp only [handle]
  split
  · exact .refused (Rejection.response_fails _) (.refl services)
  · rename_i route found
    by_cases allowed : route.allows request.method = true
    · rw [if_pos allowed]
      by_cases head : request.method = "HEAD"
      · simp only [if_pos head]
        rw [head] at allowed
        exact carryOut_head_handled services route allowed
      · simp only [if_neg head]
        exact carryOut_handled services route
    · rw [if_neg allowed]
      exact .refused (Rejection.response_fails _) (.refl services)

/-- Services that are alike answer a request alike, and are alike afterwards. -/
theorem handle_alike {first second : Services} (alike : first.AlikeAt clock second) :
    (handle settings second request now clock).1 = (handle settings first request now clock).1 ∧
      (handle settings first request now clock).2.AlikeAt clock
        (handle settings second request now clock).2 := by
  simp only [handle]
  split
  · exact ⟨rfl, alike⟩
  · rename_i route found
    by_cases allowed : route.allows request.method = true
    · rw [if_pos allowed, if_pos allowed]
      rcases carryOut_alike alike route with ⟨answer, after⟩
      refine ⟨?_, after⟩
      dsimp only
      rw [answer]
    · rw [if_neg allowed, if_neg allowed]
      exact ⟨rfl, alike⟩

end Handling

/-! ## Requests one after the other -/

/-- A request, and the second of the calendar and the time on the clock of claims at which it comes. -/
structure TimedRequest where
  request : Request
  now : Int
  clock : Nat

/-- A request that was handled, its response, and the services before and after. -/
structure Exchange where
  asked : TimedRequest
  response : Response
  before : Services
  after : Services

def Exchange.Accepted (exchange : Exchange) : Prop := exchange.response.succeeds = true

instance (exchange : Exchange) : Decidable exchange.Accepted :=
  inferInstanceAs (Decidable (exchange.response.succeeds = true))

def TimedRequest.exchange (settings : Settings) (services : Services) (asked : TimedRequest) :
    Exchange where
  asked := asked
  response := (handle settings services asked.request asked.now asked.clock).1
  before := services
  after := (handle settings services asked.request asked.now asked.clock).2

section Sequences

variable (settings : Settings)

/-- Handle requests one after the other. -/
def exchanges (services : Services) : List TimedRequest → List Exchange
  | [] => []
  | asked :: rest =>
      asked.exchange settings services :: exchanges (asked.exchange settings services).after rest

/-- The services after all requests were handled. -/
def afterAll (services : Services) (requests : List TimedRequest) : Services :=
  requests.foldl (fun services asked => (asked.exchange settings services).after) services

variable {settings}

theorem eq_exchange_of_mem (requests : List TimedRequest) (services : Services) :
    ∀ exchange ∈ exchanges settings services requests,
      exchange = exchange.asked.exchange settings exchange.before := by
  induction requests generalizing services with
  | nil =>
      intro exchange member
      cases member
  | cons asked rest induction =>
      intro exchange member
      rw [exchanges] at member
      rcases List.mem_cons.1 member with same | later
      · rw [same]
        rfl
      · exact induction _ exchange later

/-- Without the requests that are refused, the others are answered the same. -/
theorem answers_without_refused (requests : List TimedRequest)
    (ordered : requests.Pairwise (fun first later => first.clock ≤ later.clock))
    {first second : Services} {clock : Nat} (begun : ∀ asked ∈ requests, clock ≤ asked.clock)
    (alike : first.AlikeAt clock second) :
    (exchanges settings second (((exchanges settings first requests).filter
        (fun exchange => exchange.Accepted)).map Exchange.asked)).map Exchange.response =
      ((exchanges settings first requests).filter
        (fun exchange => exchange.Accepted)).map Exchange.response := by
  induction requests generalizing first second clock with
  | nil => rfl
  | cons asked rest induction =>
      rw [List.pairwise_cons] at ordered
      have now := alike.mono (begun asked List.mem_cons_self)
      rw [exchanges]
      by_cases accepted : (asked.exchange settings first).Accepted
      · have alikeAfter : (asked.exchange settings second).response =
              (asked.exchange settings first).response ∧
            (asked.exchange settings first).after.AlikeAt asked.clock
              (asked.exchange settings second).after := handle_alike now
        rcases alikeAfter with ⟨answer, after⟩
        rw [List.filter_cons_of_pos (by simpa using accepted), List.map_cons, List.map_cons,
          exchanges, List.map_cons]
        exact congrArg₂ List.cons answer (induction ordered.2 ordered.1 after)
      · rw [List.filter_cons_of_neg (by simpa using accepted)]
        have refused : (asked.exchange settings first).response.succeeds = false :=
          Bool.eq_false_iff.2 accepted
        exact induction ordered.2 ordered.1
          (((handle_handled first).alike_of_failure refused).symm.trans now)

/-- What the receiver holds after a sequence of requests are the event ids it held before, and those
of the requests that it accepted. -/
theorem holds_afterAll (requests : List TimedRequest) (services : Services) {later : Nat}
    (ordered : ∀ asked ∈ requests, asked.clock ≤ later) {verifier : Webhook.Verifier}
    (receives : settings.verifier = some verifier) (eventId : String) :
    (afterAll settings services requests).claims.holds (Webhook.claimKey eventId) later = true ↔
      services.claims.holds (Webhook.claimKey eventId) later = true ∨
        ∃ exchange ∈ exchanges settings services requests, exchange.response = verified eventId ∧
          later < exchange.asked.clock + verifier.memory := by
  induction requests generalizing services with
  | nil => simp [afterAll, exchanges]
  | cons asked rest induction =>
      have handled : Handled settings services asked.clock
          (handle settings services asked.request asked.now asked.clock) :=
        handle_handled services
      have first := handled.holds (ordered asked List.mem_cons_self) receives eventId
      have others := induction (asked.exchange settings services).after
        (fun asked member => ordered asked (List.mem_cons_of_mem _ member))
      rw [afterAll, List.foldl_cons, exchanges]
      refine others.trans ?_
      simp only [TimedRequest.exchange] at first ⊢
      rw [first, or_assoc, List.exists_mem_cons_iff]

theorem down_afterAll (requests : List TimedRequest) (services : Services) :
    (afterAll settings services requests).down = services.down := by
  induction requests generalizing services with
  | nil => rfl
  | cons asked rest induction =>
      rw [afterAll, List.foldl_cons]
      exact (induction _).trans (handle_handled services).down

/-- Whether a request is signed as it must be for an event, and asks to be verified. -/
structure TimedRequest.Genuine (asked : TimedRequest) (settings : Settings)
    (verifier : Webhook.Verifier) (eventId : String) : Prop where
  route : Route.ofPath? (targetPath asked.request.target.toList) = some .verify
  method : asked.request.method = "POST"
  passes : checked settings asked.request asked.now = .ok (verifier, eventId)

/-- The answer to a genuine request is what became of the claim on its event. -/
theorem response_eq_settled {asked : TimedRequest} {verifier : Webhook.Verifier} {eventId : String}
    (genuine : asked.Genuine settings verifier eventId) (services : Services) :
    (asked.exchange settings services).response =
      if verifier.memoryFits then settled eventId
        (services.claim (Webhook.claimKey eventId) verifier.memory asked.clock).1
      else unanswered := by
  have allowed : Route.verify.allows "POST" = true := rfl
  simp only [TimedRequest.exchange, handle, genuine.route, genuine.method, allowed,
    carryOut_verify_eq, genuine.passes, if_true]
  cases verifier.memoryFits <;> rfl

/-- A genuine request is accepted exactly when its event is free and its claim ends on the clock. -/
theorem response_of_genuine {asked : TimedRequest} {verifier : Webhook.Verifier} {eventId : String}
    (genuine : asked.Genuine settings verifier eventId) {services : Services}
    (works : services.works .claim = true) :
    (asked.exchange settings services).response = verified eventId ↔
      services.claims.holds (Webhook.claimKey eventId) asked.clock = false ∧
        asked.clock + verifier.memory < Claims.clockEnd := by
  rw [response_eq_settled genuine services]
  simp only [Services.claim, works, if_true]
  rcases services.claims.claim_cases (Webhook.claimKey eventId) verifier.memory asked.clock with
    ⟨held, taken⟩ | ⟨free, ends, claimed⟩ | ⟨free, endless, crashed⟩
  · rw [taken, held]
    cases verifier.memoryFits <;>
      simp [settled, Refusal.response_ne_verified, unanswered_ne_verified]
  · rw [claimed, free, Webhook.Verifier.memoryFits_of_ends ends]
    simp [settled, ends]
  · rw [crashed, free]
    cases verifier.memoryFits <;>
      simp [settled, unanswered_ne_verified, Nat.not_lt.2 endless]

/-- It is refused as a duplicate exactly when its event is held and could be remembered for long
enough. -/
theorem duplicate_of_genuine {asked : TimedRequest} {verifier : Webhook.Verifier} {eventId : String}
    (genuine : asked.Genuine settings verifier eventId) {services : Services}
    (works : services.works .claim = true) :
    (asked.exchange settings services).response = settled eventId .taken ↔
      services.claims.holds (Webhook.claimKey eventId) asked.clock = true ∧
        verifier.memoryFits = true := by
  rw [response_eq_settled genuine services]
  simp only [Services.claim, works, if_true]
  cases verifier.memoryFits with
  | false => simp [unanswered_ne_taken]
  | true =>
      rcases services.claims.claim_cases (Webhook.claimKey eventId) verifier.memory asked.clock with
        ⟨held, taken⟩ | ⟨free, -, claimed⟩ | ⟨free, -, crashed⟩
      · rw [taken, held]
        simp
      · rw [claimed, free]
        simp [settled, (Refusal.response_ne_verified _ _).symm]
      · rw [crashed, free]
        simpa [settled] using unanswered_ne_taken eventId

/-- A request that is refused changes nothing but that claims go which have expired. Without the
requests that are refused the others are answered the same, and a genuine signed request is accepted
unless its event id was held to begin with or is held for another that was accepted, or cannot be
held for as long as it should be. -/
theorem refused_requests_leave_no_trace (settings : Settings) (services : Services)
    (requests : List TimedRequest)
    (ordered : requests.Pairwise (fun first later => first.clock ≤ later.clock)) :
    (∀ exchange ∈ exchanges settings services requests, ¬ exchange.Accepted →
      exchange.before.AlikeAt exchange.asked.clock exchange.after) ∧
    (exchanges settings services (((exchanges settings services requests).filter
        (fun exchange => exchange.Accepted)).map Exchange.asked)).map Exchange.response =
      ((exchanges settings services requests).filter
        (fun exchange => exchange.Accepted)).map Exchange.response ∧
    ∀ (asked : TimedRequest) (verifier : Webhook.Verifier) (eventId : String),
      asked.Genuine settings verifier eventId → services.works .claim = true →
      (∀ earlier ∈ requests, earlier.clock ≤ asked.clock) →
      ((asked.exchange settings (afterAll settings services requests)).response =
          verified eventId ↔
        services.claims.holds (Webhook.claimKey eventId) asked.clock = false ∧
          (∀ exchange ∈ exchanges settings services requests,
            exchange.response = verified eventId →
              exchange.asked.clock + verifier.memory ≤ asked.clock) ∧
          asked.clock + verifier.memory < Claims.clockEnd) := by
  refine ⟨?_, ?_, ?_⟩
  · intro exchange member refused
    have same := eq_exchange_of_mem requests services exchange member
    rw [same] at refused ⊢
    exact (handle_handled exchange.before).alike_of_failure (Bool.eq_false_iff.2 refused)
  · exact answers_without_refused requests ordered (fun _ _ => Nat.zero_le _) (.refl services)
  · intro asked verifier eventId genuine works earlier
    have worksStill : (afterAll settings services requests).works .claim = true := by
      rw [Services.works, down_afterAll]
      exact works
    have held := holds_afterAll requests services earlier (verifier_of_checked genuine.passes)
      eventId
    rw [response_of_genuine genuine worksStill, ← Bool.not_eq_true, held, ← Bool.not_eq_true,
      ← and_assoc]
    simp

end Sequences

/-! A signed request that comes too early, one that asks for nothing there is, and the signed request
again when it is fresh. -/

def receiving : Settings where
  defaultFireMode := .perBar
  timeframes := []
  verifier := some Webhook.Verifier.fiveMinutes
  hasMetrics := false
  mac := Hash.hmacSha256
  subscriptionId := toString

def signedRequest : Request where
  method := "POST"
  target := "/internal/webhooks/verify"
  headers := [("x-signature", Webhook.Verifier.replayed.header), ("x-event-id", "a1:3600")]
  body := Webhook.Verifier.replayed.body

def lostRequest : Request where
  method := "POST"
  target := "/internal/webhooks"
  headers := []
  body := ""

def refusedRequests : List TimedRequest :=
  [⟨signedRequest, 1690000000, 0⟩, ⟨lostRequest, 1690000001, Claims.second⟩]

theorem refusedRequests_refused :
    (exchanges receiving { channel := { capacity := 1 } } refusedRequests).all
      (fun exchange => !exchange.response.succeeds) = true := by decide +kernel

theorem genuine_signedRequest :
    (⟨signedRequest, 1700000000, 2 * Claims.second⟩ : TimedRequest).Genuine receiving
      Webhook.Verifier.fiveMinutes "a1:3600" where
  route := by rfl
  method := rfl
  passes := by
    have signature : signedRequest.textHeader? signatureHeaderName =
        some Webhook.Verifier.replayed.header := by decide +kernel
    have eventId : signedRequest.textHeader? eventIdHeaderName = some "a1:3600" := by
      decide +kernel
    have examined : Webhook.Verifier.fiveMinutes.examine receiving.mac signedRequest.body
        Webhook.Verifier.replayed.header "a1:3600" 1700000000 = .ok "a1:3600" :=
      Webhook.Verifier.fiveMinutes_examine_replayed (by decide)
    have receives : receiving.verifier = some Webhook.Verifier.fiveMinutes := rfl
    exact checked_eq_ok receives signature eventId examined

/-- The early request leaves its event to the one that comes in time. -/
theorem early_request_leaves_event_free :
    refusedRequests.Pairwise (fun first later => first.clock ≤ later.clock) ∧
    (∀ exchange ∈ exchanges receiving { channel := { capacity := 1 } } refusedRequests,
      exchange.before.AlikeAt exchange.asked.clock exchange.after) ∧
    ((⟨signedRequest, 1700000000, 2 * Claims.second⟩ : TimedRequest).exchange receiving
      (afterAll receiving { channel := { capacity := 1 } } refusedRequests)).response =
        verified "a1:3600" := by
  have ordered : refusedRequests.Pairwise (fun first later => first.clock ≤ later.clock) := by
    decide
  have refused : ∀ exchange ∈ exchanges receiving { channel := { capacity := 1 } } refusedRequests,
      ¬ exchange.Accepted := by
    intro exchange member
    have failed := List.all_eq_true.1 refusedRequests_refused exchange member
    simpa [Exchange.Accepted] using failed
  rcases refused_requests_leave_no_trace receiving { channel := { capacity := 1 } } refusedRequests
    ordered with ⟨untouched, -, accepted⟩
  refine ⟨ordered, fun exchange member => untouched exchange member (refused exchange member), ?_⟩
  rw [accepted _ _ _ genuine_signedRequest rfl (by decide)]
  refine ⟨by decide +kernel, ?_, by decide⟩
  intro exchange member same
  apply absurd _ (refused exchange member)
  rw [Exchange.Accepted, same]
  rfl

end Api

end CandleAlerts
