import CandleAlerts.Proofs.ClaimLifetimes

/-!
How often a receiver accepts one signed request.

An accepted event id is remembered for twice the age that a signature may have, and a signature is
fresh for as long as that, but up to and including its last second. So a request can be accepted
again only at the very end: when it first came as early as it could, and comes again as late as it
can. Accepted any later the first time, it is accepted once.
-/

namespace CandleAlerts.Webhook

/-- A request as it comes in, and when, in nanoseconds on the clock of claims. -/
structure Arrival where
  body : String
  header : String
  eventId : String
  clock : Nat

/-- A request that came in, and the answer to it. -/
structure Reception extends Arrival where
  answer : Except VerifyError String

def Reception.Accepted (reception : Reception) : Prop := ∃ eventId, reception.answer = .ok eventId

/-- The whole seconds at a time of the clock, which showed zero at `origin` in nanoseconds. -/
def secondAt (origin : Int) (clock : Nat) : Int := (origin + clock) / Claims.second

namespace Verifier

section Receiving

variable (mac : Mac) (verifier : Verifier) (origin : Int)

/-- Verify requests one after the other as they come in. -/
def receptions (claims : Claims) : List Arrival → List Reception
  | [] => []
  | arrival :: rest =>
      let (answer, claims) := verifier.verify mac claims arrival.body arrival.header
        arrival.eventId (secondAt origin arrival.clock) arrival.clock
      { arrival with answer } :: receptions claims rest

theorem receptions_cons (claims : Claims) (arrival : Arrival) (rest : List Arrival)
    {answer : Except VerifyError String} {after : Claims}
    (verified : verifier.verify mac claims arrival.body arrival.header arrival.eventId
      (secondAt origin arrival.clock) arrival.clock = (answer, after)) :
    verifier.receptions mac origin claims (arrival :: rest) =
      { arrival with answer } :: verifier.receptions mac origin after rest := by
  rw [receptions, verified]

end Receiving

variable {mac : Mac} {verifier : Verifier} {origin : Int}

/-! ## One request -/

/-- What must hold of a request for the receiver to examine it successfully. -/
theorem examine_eq_ok {body header eventIdHeader eventId : String} {now : Int}
    (examined : verifier.examine mac body header eventIdHeader now = .ok eventId) :
    signedEventId? body = some eventId ∧ ∃ given, SignatureHeader.parse? header = some given ∧
      (now - given.timestamp).natAbs ≤ verifier.maxAge := by
  simp only [examine] at examined
  cases checked : checkSignature mac verifier.secret body header verifier.maxAge now with
  | error refusal =>
      rw [checked] at examined
      cases examined
  | ok _ =>
      rw [checked] at examined
      have signed : signedEventId? body = some eventId := by
        cases named : signedEventId? body with
        | none =>
            rw [named] at examined
            cases examined
        | some signed =>
            rw [named] at examined
            by_cases same : signed = eventIdHeader
            · have answered : Except.ok signed = Except.ok eventId :=
                (if_pos same).symm.trans examined
              rw [Except.ok.inj answered]
            · have answered := (if_neg same).symm.trans examined
              cases answered
      refine ⟨signed, ?_⟩
      simp only [checkSignature] at checked
      split at checked
      · cases checked
      · rename_i given parsed
        split at checked
        · cases checked
        · rename_i fresh
          exact ⟨given, parsed, Nat.not_lt.1 fresh⟩

/-- A claim that ends on the clock is no longer than the longest span of time. -/
theorem memoryFits_of_ends {clock : Nat} (ends : clock + verifier.memory < Claims.clockEnd) :
    verifier.memoryFits = true := by
  simp only [memory, Claims.clockEnd, Claims.second] at ends
  refine decide_eq_true ?_
  change 2 * verifier.maxAge < 18446744073709551616
  omega

theorem claimEvent_of_free {claims : Claims} {eventId : String} {clock : Nat}
    (free : claims.holds (claimKey eventId) clock = false)
    (ends : clock + verifier.memory < Claims.clockEnd) :
    verifier.claimEvent claims eventId clock =
      (.ok eventId, ⟨(claims.alive clock).expiries.insert (claimKey eventId)
        (clock + verifier.memory)⟩) := by
  rw [claimEvent, if_pos (memoryFits_of_ends ends), Claims.claim_of_free free ends]
  rfl

/-- An event whose claim does not end on the clock is never accepted. -/
theorem claimEvent_of_endless {claims : Claims} {eventId : String} {clock : Nat}
    (free : claims.holds (claimKey eventId) clock = false)
    (endless : Claims.clockEnd ≤ clock + verifier.memory) :
    ∃ reason, (verifier.claimEvent claims eventId clock).1 = .error (.crashed reason) := by
  rw [claimEvent]
  split
  · rw [Claims.claim, free, if_neg Bool.false_ne_true, if_neg (Nat.not_lt.2 endless)]
    exact ⟨_, rfl⟩
  · exact ⟨_, rfl⟩

theorem claimEvent_eq_ok {claims after : Claims} {eventId acceptedId : String} {clock : Nat}
    (accepted : verifier.claimEvent claims eventId clock = (.ok acceptedId, after)) :
    acceptedId = eventId ∧ claims.holds (claimKey eventId) clock = false ∧
      after.expiries.get? (claimKey eventId) = some (clock + verifier.memory) := by
  rw [claimEvent] at accepted
  split at accepted
  case isFalse => cases accepted
  rcases claims.claim_cases (claimKey eventId) verifier.memory clock with
    ⟨-, taken⟩ | ⟨free, -, claimed⟩ | ⟨-, -, crashed⟩
  · rw [taken] at accepted
    cases accepted
  · rw [claimed] at accepted
    cases accepted
    exact ⟨rfl, free, Table.get?_insert_self _ _ _⟩
  · rw [crashed] at accepted
    cases accepted

/-- Whatever becomes of an event, no claim that lasts is lost. -/
theorem claimEvent_keeps (verifier : Verifier) (claims : Claims) (eventId : String)
    (clock : Nat) : Claims.Keeps clock claims (verifier.claimEvent claims eventId clock).2 := by
  rw [claimEvent]
  split
  · rcases claims.claim_cases (claimKey eventId) verifier.memory clock with
      ⟨-, taken⟩ | ⟨free, -, claimed⟩ | ⟨-, -, crashed⟩
    · rw [taken]
      exact .alive claims
    · rw [claimed]
      exact .claimed claims free _
    · rw [crashed]
      exact .alive claims
  · exact .refl claims

/-- An accepted request names its event and is fresh; its event was free, and is claimed. -/
theorem verify_eq_ok {claims after : Claims} {body header eventIdHeader eventId : String}
    {now : Int} {clock : Nat}
    (accepted : verifier.verify mac claims body header eventIdHeader now clock =
      (.ok eventId, after)) :
    signedEventId? body = some eventId ∧
      (∃ given, SignatureHeader.parse? header = some given ∧
        (now - given.timestamp).natAbs ≤ verifier.maxAge) ∧
      claims.holds (claimKey eventId) clock = false ∧
      after.expiries.get? (claimKey eventId) = some (clock + verifier.memory) := by
  simp only [verify] at accepted
  split at accepted
  · cases accepted
  · rename_i examinedId examined
    rcases claimEvent_eq_ok accepted with ⟨rfl, free, claimed⟩
    rcases examine_eq_ok examined with ⟨signed, fresh⟩
    exact ⟨signed, fresh, free, claimed⟩

/-- A request that stands examination is accepted when its event is free and its claim ends on the
clock. -/
theorem verify_of_examined {body header eventIdHeader eventId : String} {now : Int}
    (examined : verifier.examine mac body header eventIdHeader now = .ok eventId) (claims : Claims)
    (clock : Nat) :
    verifier.verify mac claims body header eventIdHeader now clock =
      verifier.claimEvent claims eventId clock := by
  simp only [verify, examined]

theorem verify_of_free {claims : Claims} {body header eventIdHeader eventId : String} {now : Int}
    {clock : Nat} (examined : verifier.examine mac body header eventIdHeader now = .ok eventId)
    (free : claims.holds (claimKey eventId) clock = false)
    (ends : clock + verifier.memory < Claims.clockEnd) :
    verifier.verify mac claims body header eventIdHeader now clock =
      (.ok eventId, ⟨(claims.alive clock).expiries.insert (claimKey eventId)
        (clock + verifier.memory)⟩) := by
  rw [verify_of_examined examined]
  exact claimEvent_of_free free ends

/-- A claim that has not expired outlasts any request. -/
theorem verify_keeps_claim {claims : Claims} {key : String} {expiry : Nat} (body header
    eventIdHeader : String) (now : Int) {clock : Nat}
    (claimed : claims.expiries.get? key = some expiry) (lasts : clock < expiry) :
    (verifier.verify mac claims body header eventIdHeader now clock).2.expiries.get? key =
      some expiry := by
  simp only [verify]
  split
  · exact claimed
  · exact verifier.claimEvent_keeps claims _ clock key expiry claimed lasts

/-! ## Requests one after the other -/

theorem receptions_toArrival (mac : Mac) (verifier : Verifier) (origin : Int) (claims : Claims)
    (arrivals : List Arrival) :
    (verifier.receptions mac origin claims arrivals).map Reception.toArrival = arrivals := by
  induction arrivals generalizing claims with
  | nil => rfl
  | cons arrival rest induction => exact congrArg (arrival :: ·) (induction _)

/-- Whatever is remembered, only a fresh signature is accepted. -/
theorem fresh_of_accepted (arrivals : List Arrival) (claims : Claims) :
    ∀ reception ∈ verifier.receptions mac origin claims arrivals, reception.Accepted →
      ∃ given, SignatureHeader.parse? reception.header = some given ∧
        (secondAt origin reception.clock - given.timestamp).natAbs ≤ verifier.maxAge := by
  induction arrivals generalizing claims with
  | nil =>
      intro reception member
      cases member
  | cons arrival rest induction =>
      intro reception member accepted
      rcases List.mem_cons.1 member with same | later
      · subst same
        rcases accepted with ⟨eventId, answer⟩
        exact (verify_eq_ok (Prod.ext answer rfl)).2.1
      · exact induction _ reception later accepted

/-- While an event id is remembered, no request for it is accepted. -/
theorem not_accepted_before_expiry {eventId : String} {expiry : Nat} (arrivals : List Arrival)
    (ordered : arrivals.Pairwise (fun first later => first.clock ≤ later.clock))
    {claims : Claims} (claimed : claims.expiries.get? (claimKey eventId) = some expiry) :
    ∀ reception ∈ verifier.receptions mac origin claims arrivals, reception.Accepted →
      signedEventId? reception.body = some eventId → expiry ≤ reception.clock := by
  induction arrivals generalizing claims with
  | nil =>
      intro reception member
      cases member
  | cons arrival rest induction =>
      rw [List.pairwise_cons] at ordered
      intro reception member accepted named
      by_cases lasts : arrival.clock < expiry
      · rcases List.mem_cons.1 member with same | later
        · subst same
          rcases accepted with ⟨acceptedId, answer⟩
          rcases verify_eq_ok (Prod.ext answer rfl) with ⟨signed, -, free, -⟩
          have sameId : acceptedId = eventId := Option.some.inj (signed.symm.trans named)
          subst sameId
          have held := (Claims.holds_iff claims _ arrival.clock).2 ⟨expiry, claimed, lasts⟩
          rw [free] at held
          cases held
        · exact induction ordered.2
            (verify_keeps_claim arrival.body arrival.header arrival.eventId _ claimed lasts)
            reception later accepted named
      · have arrived : reception.toArrival ∈ arrival :: rest := by
          rw [← receptions_toArrival mac verifier origin claims
            (arrival :: rest)]
          exact List.mem_map_of_mem member
        rcases List.mem_cons.1 arrived with same | later
        · rw [same]
          exact Nat.not_lt.1 lasts
        · exact Nat.le_trans (Nat.not_lt.1 lasts) (ordered.1 _ later)

/-- The first second at which a signature is fresh and the last are the only two that are as far
apart as a memory is long. -/
theorem ends_of_fresh {first later : Nat} {timestamp : Int}
    (fresh : (secondAt origin first - timestamp).natAbs ≤ verifier.maxAge)
    (still : (secondAt origin later - timestamp).natAbs ≤ verifier.maxAge)
    (forgotten : first + verifier.memory ≤ later) :
    secondAt origin first = timestamp - verifier.maxAge ∧
      secondAt origin later = timestamp + verifier.maxAge := by
  have apart : secondAt origin first + 2 * verifier.maxAge ≤ secondAt origin later := by
    simp only [secondAt, memory, Claims.second] at *
    omega
  omega

/-- A signed request is accepted twice only if it first came in the first second in which it was
fresh and came again in the last, when its event had just been forgotten. -/
theorem accepted_again_only_at_the_end (mac : Mac) (verifier : Verifier) (origin : Int)
    (claims : Claims) (arrivals : List Arrival)
    (ordered : arrivals.Pairwise (fun first later => first.clock ≤ later.clock)) :
    (verifier.receptions mac origin claims arrivals).Pairwise (fun first later =>
      first.body = later.body → first.header = later.header → first.Accepted → later.Accepted →
        ∃ given, SignatureHeader.parse? first.header = some given ∧
          secondAt origin first.clock = given.timestamp - verifier.maxAge ∧
          secondAt origin later.clock = given.timestamp + verifier.maxAge ∧
          first.clock + verifier.memory ≤ later.clock) := by
  induction arrivals generalizing claims with
  | nil => exact .nil
  | cons arrival rest induction =>
      rw [List.pairwise_cons] at ordered
      refine List.pairwise_cons.2 ⟨?_, induction _ ordered.2⟩
      intro later member sameBody sameHeader firstAccepted laterAccepted
      rcases firstAccepted with ⟨eventId, answer⟩
      rcases verify_eq_ok (Prod.ext answer rfl) with ⟨signed, ⟨given, parsed, fresh⟩, -, claimed⟩
      have named : signedEventId? later.body = some eventId := sameBody ▸ signed
      have forgotten := not_accepted_before_expiry rest ordered.2 claimed later member laterAccepted
        named
      rcases fresh_of_accepted rest _ later member laterAccepted with ⟨again, parsedAgain, still⟩
      have sameGiven : again = given :=
        Option.some.inj (parsedAgain.symm.trans (sameHeader ▸ parsed))
      rw [sameGiven] at still
      rcases ends_of_fresh fresh still forgotten with ⟨atStart, atEnd⟩
      exact ⟨given, parsed, atStart, atEnd, forgotten⟩

/-! A request signed five minutes ahead, which comes at once and again ten minutes later. -/

def replayed : Arrival where
  body := "\x7b\"eventId\":\"a1:3600\"\x7d"
  header := "t=1700000300,s=d136dafada7917a1c56ef3521c8629af7f325d8977b68307e4f4a0797c7a2c06"
  eventId := "a1:3600"
  clock := 0

def replayedLater : Arrival := { replayed with clock := 600 * Claims.second }

def fiveMinutes : Verifier := { secret := "k", maxAge := 300 }

theorem fiveMinutes_examine_replayed {now : Int} (fresh : (now - 1700000300).natAbs ≤ 300) :
    fiveMinutes.examine Hash.hmacSha256 replayed.body replayed.header "a1:3600" now =
      .ok "a1:3600" := by
  have parsed : SignatureHeader.parse? replayed.header = some
      { timestamp := 1700000300
        signature := "d136dafada7917a1c56ef3521c8629af7f325d8977b68307e4f4a0797c7a2c06" } := by
    decide +kernel
  have tag : Text.bytesOfHex?
      "d136dafada7917a1c56ef3521c8629af7f325d8977b68307e4f4a0797c7a2c06".toList =
        some (Hash.hmacSha256 "k" (signedMessage 1700000300 replayed.body)) := by decide +kernel
  have signed : signedEventId? replayed.body = some "a1:3600" := by decide +kernel
  have checked : checkSignature Hash.hmacSha256 "k" replayed.body replayed.header 300 now =
      .ok () := by
    simp only [checkSignature, parsed]
    rw [if_neg (Nat.not_lt.2 fresh), if_pos tag]
  simp only [examine, fiveMinutes, checked, signed]
  rfl

/-- Both are accepted: the first in the first second in which the signature is fresh, the other in
the last. -/
theorem replayed_accepted :
    fiveMinutes.receptions Hash.hmacSha256 (1700000000 * Claims.second) {}
      [replayed, replayedLater] =
        [{ replayed with answer := .ok "a1:3600" },
          { replayedLater with answer := .ok "a1:3600" }] := by
  have early : secondAt (1700000000 * Claims.second) replayed.clock = 1700000000 := by decide
  have late : secondAt (1700000000 * Claims.second) replayedLater.clock = 1700000600 := by decide
  have first : fiveMinutes.examine Hash.hmacSha256 replayed.body replayed.header replayed.eventId
      1700000000 = .ok "a1:3600" := fiveMinutes_examine_replayed (by decide)
  have second : fiveMinutes.examine Hash.hmacSha256 replayedLater.body replayedLater.header
      replayedLater.eventId 1700000600 = .ok "a1:3600" :=
    fiveMinutes_examine_replayed (by decide)
  rw [← early] at first
  rw [← late] at second
  rw [receptions_cons _ _ _ _ _ _ (verify_of_free first rfl (by decide)),
    receptions_cons _ _ _ _ _ _ (verify_of_free second (by decide +kernel) (by decide))]
  rfl

/-- Not every run of a receiver accepts a signed request at most once. -/
theorem replay_accepted_at_the_end :
    ¬ ∀ (mac : Mac) (verifier : Verifier) (origin : Int) (claims : Claims)
      (arrivals : List Arrival),
      arrivals.Pairwise (fun first later => first.clock ≤ later.clock) →
      (verifier.receptions mac origin claims arrivals).Pairwise (fun first later =>
        first.body = later.body → first.header = later.header → first.Accepted →
          ¬ later.Accepted) := by
  intro once
  have apart := once Hash.hmacSha256 fiveMinutes (1700000000 * Claims.second) {}
    [replayed, replayedLater] (by decide)
  rw [replayed_accepted, List.pairwise_pair] at apart
  exact apart rfl rfl ⟨_, rfl⟩ ⟨_, rfl⟩

theorem replayed_came_at_the_ends :
    ∃ given, SignatureHeader.parse? replayed.header = some given ∧
      secondAt (1700000000 * Claims.second) replayed.clock =
        given.timestamp - fiveMinutes.maxAge ∧
      secondAt (1700000000 * Claims.second) replayedLater.clock =
        given.timestamp + fiveMinutes.maxAge ∧
      replayed.clock + fiveMinutes.memory ≤ replayedLater.clock := by
  have ends := accepted_again_only_at_the_end Hash.hmacSha256 fiveMinutes
    (1700000000 * Claims.second) {} [replayed, replayedLater] (by decide)
  rw [replayed_accepted, List.pairwise_pair] at ends
  exact ends rfl rfl ⟨_, rfl⟩ ⟨_, rfl⟩

end Verifier

end CandleAlerts.Webhook
