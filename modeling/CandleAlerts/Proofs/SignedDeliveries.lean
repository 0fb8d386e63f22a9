import CandleAlerts.Proofs.DeliveryFrames
import CandleAlerts.Proofs.JsonMembers
import CandleAlerts.Proofs.ReplayProtection
import CandleAlerts.Proofs.SignatureTexts
import CandleAlerts.Simulation.Deliveries

/-!
Sender and receiver of webhook requests agree.

Whatever becomes of the attempts of a delivery, each makes a request that a receiver with the same
secret finds good: the body is read back and names the event, the header is read back and its
signature is right. The receiver answers with the id of the event unless it has seen the event
before, or accepts so old requests that its clock ends before it may forget the event.
-/

namespace CandleAlerts

/-! ## The body of a request -/

namespace TriggerValue

theorem readable_toJson (value : TriggerValue) (room : Nat) : value.toJson.Readable (room + 1) := by
  refine ⟨Nat.succ_pos room, Json.readableMembers_iff.mpr ?_⟩
  simp only [List.mem_cons, List.not_mem_nil, or_false]
  rintro member (rfl | rfl | rfl | rfl | rfl) <;> exact Json.readable_ofFloat _ _

end TriggerValue

namespace TriggerEvent

/-- What holds of the members of each kind holds of every member of an event's JSON. -/
theorem forall_member {event : TriggerEvent} {holds : String × Json → Prop}
    (text : ∀ name ∈ fieldNames, name ≠ "triggerValue" → ∀ text, holds (name, .string text))
    (texts : ∀ name ∈ fieldNames, name ≠ "triggerValue" → ∀ items,
      holds (name, .ofList .string items))
    (barTime : holds ("barTime", .ofInt event.barTime))
    (triggerValue : holds ("triggerValue", event.triggerValue.toJson))
    (publishedAt : holds ("publishedAt", .ofOption Instant.toJson event.publishedAt))
    {members : List (String × Json)} (isObject : event.toJson = .object members) :
    ∀ member ∈ members, holds member := by
  cases isObject
  simp only [List.mem_append, List.mem_cons, List.not_mem_nil, or_false]
  rintro member ((among | among) | rfl)
  · rcases among with rfl | rfl | rfl | rfl | rfl | rfl | rfl | rfl | rfl | rfl | rfl
    · exact text _ (by decide) (by decide) _
    · exact text _ (by decide) (by decide) _
    · exact text _ (by decide) (by decide) _
    · exact text _ (by decide) (by decide) _
    · exact text _ (by decide) (by decide) _
    · exact text _ (by decide) (by decide) _
    · exact text _ (by decide) (by decide) _
    · exact barTime
    · exact triggerValue
    · exact texts _ (by decide) (by decide) _
    · exact texts _ (by decide) (by decide) _
  · split at among
    · cases among
    · obtain rfl := List.mem_singleton.mp among
      exact texts _ (by decide) (by decide) _
  · exact publishedAt

theorem readable_toJson {event : TriggerEvent} (holds : Word.Holds event.barTime) (room : Nat) :
    event.toJson.Readable (room + 2) := by
  refine ⟨Nat.succ_pos _, Json.readableMembers_iff.mpr ?_⟩
  apply forall_member
  · intro _ _ _ _
    trivial
  · intro _ _ _ items
    exact Json.readable_ofList items (fun _ _ => trivial)
  · exact Json.readable_ofInt holds
  · exact event.triggerValue.readable_toJson room
  · exact Json.readable_ofOption _ (fun _ _ => trivial)
  · rfl

end TriggerEvent

namespace Webhook

/-- An object with what every body carries. -/
def augmented (members : List (String × Json)) (eventId : String) (timestamp : Int) : Table Json :=
  (((Json.normalMembers members).insert "eventId" (.string eventId)).insert "timestamp"
    (.ofInt timestamp)).insert "version" (.string payloadVersion)

theorem augment_object (members : List (String × Json)) (eventId : String) (timestamp : Int) :
    augment (.object members) eventId timestamp =
      .object (augmented members eventId timestamp).entries := rfl

theorem get?_augmented (members : List (String × Json)) (eventId : String) (timestamp : Int) :
    (augmented members eventId timestamp).get? "eventId" = some (.string eventId) := by
  rw [augmented, Table.get?_insert_of_ne _ _ (by decide), Table.get?_insert_of_ne _ _ (by decide),
    Table.get?_insert_self]

theorem readable_augmented {members : List (String × Json)} {room : Nat}
    (readable : Json.ReadableMembers room members) (eventId : String) {timestamp : Int}
    (holds : Word.Holds timestamp) :
    Json.ReadableMembers room (augmented members eventId timestamp).entries := by
  have normal : (Json.object members).normal.Readable (room + 1) :=
    Json.Readable.normal _ ⟨Nat.succ_pos room, readable⟩
  refine Json.readableMembers_entries_iff.mpr ?_
  intro name value answered
  rw [augmented, Table.get?_insert] at answered
  split at answered
  next =>
      cases answered
      trivial
  next =>
      rw [Table.get?_insert] at answered
      split at answered
      next =>
          cases answered
          exact Json.readable_ofInt holds
      next =>
          rw [Table.get?_insert] at answered
          split at answered
          next =>
              cases answered
              trivial
          next => exact Json.readableMembers_entries_iff.mp normal.2 name value answered

/-- A body names its event. -/
theorem signedEventId?_body {event : TriggerEvent} (barTime : Word.Holds event.barTime)
    (named : event.eventId ≠ "") {timestamp : Int} (holds : Word.Holds timestamp) :
    signedEventId? (body event timestamp) = some event.eventId := by
  have given : event.eventId.isEmpty = false := by
    rw [← Bool.not_eq_true, String.isEmpty_iff]
    exact named
  have readable := event.readable_toJson barTime 125
  obtain ⟨members, isObject⟩ : ∃ members, event.toJson = .object members := ⟨_, rfl⟩
  rw [isObject] at readable
  have member : (Json.object (augmented members event.eventId timestamp).entries).get? "eventId" =
      some (.string event.eventId) := by
    rw [Json.get?_object, Json.lookup?_entries, get?_augmented]
  have kept : (Json.object (augmented members event.eventId timestamp).entries).Readable
      Json.maximalDepth := ⟨by decide, readable_augmented readable.2 event.eventId holds⟩
  unfold signedEventId? body
  rw [isObject, augment_object, Json.text?_parse?_canonical kept member]
  simp [Option.filter, given]

end Webhook

theorem Webhook.Verifier.examine_of_signed {mac : Mac} {verifier : Verifier}
    {body header eventId : String} {now : Int}
    (checked : checkSignature mac verifier.secret body header verifier.maxAge now = .ok ())
    (signed : signedEventId? body = some eventId) :
    verifier.examine mac body header eventId now = .ok eventId := by
  simp only [examine, checked, signed, if_true, bind, Except.bind]

theorem TriggerEvent.eventIdOf_ne_empty (alertId : String) (barTime : Int) :
    eventIdOf alertId barTime ≠ "" := by
  intro empty
  have characters := congrArg String.toList empty
  simp [eventIdOf] at characters

namespace Simulation

/-! ## The requests of a delivery -/

/-- A request for an event, as it is made at a second of the calendar. -/
structure Call.Asks (call : Call) (mac : Mac) (event : TriggerEvent) (target : WebhookTarget)
    (timestamp : Int) : Prop where
  url : call.url = target.url
  eventId : call.eventId = event.eventId
  body : call.body = Webhook.body event timestamp
  signature : call.signature =
    (Webhook.signatureHeader mac target.secret timestamp call.body).text

namespace State

variable (setting : Setting) (event : TriggerEvent) (target : WebhookTarget)

/-- The request that an attempt makes. -/
def request (state : State) : Call :=
  { time := state.time
    url := target.url
    eventId := event.eventId
    signature := (Webhook.signatureHeader setting.mac target.secret setting.calendar.seconds
      (Webhook.body event setting.calendar.seconds)).text
    body := Webhook.body event setting.calendar.seconds }

theorem request_asks (state : State) :
    (request setting event target state).Asks setting.mac event target setting.calendar.seconds :=
  { url := rfl, eventId := rfl, body := rfl, signature := rfl }

theorem receiverReply_calls (state : State) (url : String) :
    (state.receiverReply url).2.calls = state.calls := by
  unfold receiverReply
  dsimp only
  split <;> rfl

/-- An attempt makes one request. -/
theorem attempt_calls (state : State) (progress : Webhook.DeliveryProgress) :
    (state.attempt setting event target progress).2.calls =
      state.calls ++ [request setting event target state] := by
  have replied := receiverReply_calls { state with
    calls := state.calls ++ [request setting event target state]
    services := state.services.count .webhookAttempts 1 } target.url
  unfold attempt
  dsimp only
  split <;> exact replied

theorem followStep_calls (state : State) (step : Webhook.DeliveryStep) :
    (state.followStep setting event target step).2.calls = state.calls := by
  cases step <;> rfl

/-- The requests made between two states, each signed at a second that is allowed. -/
def Requested (mac : Mac) (allowed : Int → Prop) (before after : State) : Prop :=
  ∃ made, after.calls = before.calls ++ made ∧
    ∀ call ∈ made, ∃ timestamp, allowed timestamp ∧ call.Asks mac event target timestamp

variable {event target} {mac : Mac} {allowed : Int → Prop}

theorem Requested.of_same {before after : State} (same : after.calls = before.calls) :
    Requested event target mac allowed before after :=
  ⟨[], by rw [same, List.append_nil], by simp⟩

theorem Requested.trans {first second third : State}
    (left : Requested event target mac allowed first second)
    (right : Requested event target mac allowed second third) :
    Requested event target mac allowed first third := by
  rcases left with ⟨earlier, leftCalls, leftAsks⟩
  rcases right with ⟨later, rightCalls, rightAsks⟩
  refine ⟨earlier ++ later, by rw [rightCalls, leftCalls, List.append_assoc], ?_⟩
  intro call member
  rcases List.mem_append.mp member with inEarlier | inLater
  · exact leftAsks call inEarlier
  · exact rightAsks call inLater

theorem attempt_requested (state : State) (progress : Webhook.DeliveryProgress)
    (now : allowed setting.calendar.seconds) :
    Requested event target setting.mac allowed state
      (state.attempt setting event target progress).2 := by
  refine ⟨_, attempt_calls setting event target state progress, ?_⟩
  intro call member
  obtain rfl := List.mem_singleton.mp member
  exact ⟨_, now, request_asks setting event target state⟩

/-- However far a delivery is carried on, all it posts is requests for its event, signed at the
second at which they are made. -/
theorem carryOn_requested (moves : Nat) (phase : DeliveryPhase) (state : State)
    (now : allowed setting.calendar.seconds) :
    Requested event target setting.mac allowed state
      (carryOn setting event target moves phase state).2 := by
  have keeps : DeliveryFrame setting event (fun served => served = target)
      (Requested event target setting.mac allowed) :=
    { refl := fun _ => .of_same rfl
      trans := .trans
      attempt := by
        rintro _ rfl state progress
        exact attempt_requested setting state progress now
      followStep := by
        rintro _ rfl state step
        exact .of_same (followStep_calls setting event _ state step) }
  exact keeps.carryOn rfl moves phase state

/-! ## A delivery as the clocks go on -/

variable (event target) in
/-- A delivery carried on at several times, each with the moment on the calendar. -/
def deliverAt : (rounds : List (Instant × Nat)) → DeliveryPhase → State → DeliveryPhase × State
  | [], phase, state => (phase, state)
  | (calendar, time) :: rounds, phase, state =>
      let (phase, state) := carryOn { setting with calendar } event target
        (deliveryMoves setting) phase { state with time }
      deliverAt rounds phase state

theorem deliverAt_requested (rounds : List (Instant × Nat)) (phase : DeliveryPhase) (state : State)
    (moments : ∀ round ∈ rounds, allowed round.1.seconds) :
    Requested event target setting.mac allowed state
      (deliverAt setting event target rounds phase state).2 := by
  induction rounds generalizing phase state with
  | nil => exact .of_same rfl
  | cons round rounds induction =>
      rcases round with ⟨calendar, time⟩
      have first : Requested event target setting.mac allowed { state with time }
          (carryOn { setting with calendar } event target (deliveryMoves setting) phase
            { state with time }).2 :=
        carryOn_requested { setting with calendar } (deliveryMoves setting) phase
          { state with time } (moments (calendar, time) List.mem_cons_self)
      exact Requested.trans (Requested.of_same rfl) (first.trans
        (induction _ _ (fun later member => moments later (List.mem_cons_of_mem _ member))))

theorem deliverAt_time (rounds : List (Instant × Nat)) (phase : DeliveryPhase) (state : State)
    (time : Nat) : (deliverAt setting event target rounds phase { state with time }).2.calls =
      (deliverAt setting event target rounds phase state).2.calls := by
  cases rounds <;> rfl

variable (event target) in
/-- A delivery by itself is one on a calendar that stands still. -/
theorem exists_rounds_deliverAlone (rounds : Nat) (phase : DeliveryPhase) (state : State) :
    ∃ times : List Nat, (deliverAlone setting event target rounds phase state).2.calls =
      (deliverAt setting event target (times.map (fun time => (setting.calendar, time))) phase
        state).2.calls := by
  induction rounds generalizing phase state with
  | zero => exact ⟨[], rfl⟩
  | succ rounds induction =>
      unfold deliverAlone
      dsimp only
      split
      next => exact ⟨[state.time], rfl⟩
      next _ due _ _ =>
          obtain ⟨times, same⟩ := induction
            (carryOn setting event target (deliveryMoves setting) phase state).1
            { (carryOn setting event target (deliveryMoves setting) phase state).2 with
              time := due }
          exact ⟨state.time :: times, same.trans (deliverAt_time setting _ _ _ due)⟩
      next => exact ⟨[state.time], rfl⟩

/-! ## What the receiver answers -/

variable (mac event target allowed) in
/-- Whether receivers with the secret find a request good, which is made at one of the seconds that
are allowed. At any time at which it is fresh, a receiver that has not claimed the event answers with
its id if the claim on it ends on the receiver's clock. It crashes otherwise. -/
structure IsAnswered (call : Call) (header : Webhook.SignatureHeader) : Prop where
  parsed : Webhook.SignatureHeader.parse? call.signature = some header
  signed : allowed header.timestamp
  asks : call.Asks mac event target header.timestamp
  answer : ∀ (maxAge : Nat) (claims : Claims) (now : Int) (clock : Nat),
    let receiver : Webhook.Verifier := ⟨target.secret, maxAge⟩
    let answer := (receiver.verify mac claims call.body call.signature call.eventId now clock).1
    (now - header.timestamp).natAbs ≤ maxAge →
    claims.holds (Webhook.claimKey event.eventId) clock = false →
    (clock + receiver.memory < Claims.clockEnd → answer = .ok event.eventId) ∧
    (Claims.clockEnd ≤ clock + receiver.memory → ∃ reason, answer = .error (.crashed reason))

theorem isAnswered_of_asks {call : Call} {timestamp : Int}
    (asks : call.Asks mac event target timestamp) (tagged : ∀ key message, mac key message ≠ [])
    (barTime : Word.Holds event.barTime) (named : event.eventId ≠ "")
    (holds : Word.Holds timestamp) (now : allowed timestamp) :
    IsAnswered event target mac allowed call
      (Webhook.signatureHeader mac target.secret timestamp call.body) where
  parsed := by
    rw [asks.signature]
    exact Webhook.SignatureHeader.parse?_text holds (tagged _ _)
  signed := now
  asks := asks
  answer maxAge claims now clock := by
    intro receiver answer fresh free
    have examined : receiver.examine mac call.body call.signature call.eventId now =
        .ok event.eventId := by
      rw [asks.signature, asks.eventId]
      refine Webhook.Verifier.examine_of_signed
        (Webhook.checkSignature_signatureHeader (tagged _ _) holds fresh) ?_
      rw [asks.body]
      exact Webhook.signedEventId?_body barTime named holds
    constructor
    · intro ends
      exact congrArg Prod.fst (Webhook.Verifier.verify_of_free examined free ends)
    · intro endless
      simp only [answer, Webhook.Verifier.verify_of_examined examined]
      exact Webhook.Verifier.claimEvent_of_endless free endless

/-- Every request made between two states is answered, if it is made at a second that a word
holds. -/
theorem Requested.isAnswered {before after : State}
    (requested : Requested event target mac allowed before after)
    (tagged : ∀ key message, mac key message ≠ []) (barTime : Word.Holds event.barTime)
    (named : event.eventId ≠ "")
    (holds : ∀ timestamp, allowed timestamp → Word.Holds timestamp) :
    ∃ made, after.calls = before.calls ++ made ∧
      ∀ call ∈ made, ∃ header, IsAnswered event target mac allowed call header := by
  obtain ⟨made, calls, asks⟩ := requested
  refine ⟨made, calls, fun call member => ?_⟩
  obtain ⟨timestamp, now, asked⟩ := asks call member
  exact ⟨_, isAnswered_of_asks asked tagged barTime named (holds timestamp now) now⟩

/-- Sender and receiver agree. Every request of the delivery of an event, with any retry policy, any
replies and any clocks, carries a header with the second at which it was made, and a receiver with
the secret that has not claimed the event and accepts requests of that age answers with the event's
id just when the claim on it ends on the receiver's clock. The same holds of the requests of a
delivery by itself. -/
theorem deliverAt_accepted (tagged : ∀ key message, setting.mac key message ≠ []) (alert : Alert)
    (bar : Candle) (barTime : Word.Holds bar.time) (outcome : LogicOutcome) (now : Instant)
    (botTargets : List String) (publishedAt : Option Instant) (target : WebhookTarget)
    (state : State) (rounds : List (Instant × Nat))
    (moments : ∀ round ∈ rounds, Word.Holds round.1.seconds) :
    let event := { TriggerEvent.of alert bar outcome now with botTargets, publishedAt }
    let started := state.startDelivery setting event target
    (∃ made, (deliverAt setting event target rounds started.1 started.2).2.calls =
        state.calls ++ made ∧
      ∀ call ∈ made, ∃ header, IsAnswered event target setting.mac
        (fun timestamp => ∃ round ∈ rounds, timestamp = round.1.seconds) call header) ∧
    ∀ count, Word.Holds setting.calendar.seconds →
      ∃ made, (deliverAlone setting event target count started.1 started.2).2.calls =
          state.calls ++ made ∧
        ∀ call ∈ made, ∃ header, IsAnswered event target setting.mac
          (fun timestamp => timestamp = setting.calendar.seconds) call header := by
  intro event started
  have begun {allowed : Int → Prop} :
      Requested event target setting.mac allowed state started.2 :=
    .of_same (followStep_calls setting event target state _)
  have named : event.eventId ≠ "" := TriggerEvent.eventIdOf_ne_empty _ _
  constructor
  · refine (begun.trans (deliverAt_requested setting rounds started.1 started.2
      (fun round member => ⟨round, member, rfl⟩))).isAnswered tagged barTime named ?_
    rintro _ ⟨round, among, rfl⟩
    exact moments round among
  · intro count holds
    obtain ⟨times, same⟩ := exists_rounds_deliverAlone setting event target count started.1 started.2
    rw [same]
    refine (begun.trans (deliverAt_requested setting _ started.1 started.2 ?_)).isAnswered tagged
      barTime named ?_
    · intro round among
      obtain ⟨time, -, rfl⟩ := List.mem_map.mp among
      rfl
    · rintro _ rfl
      exact holds

/-! A delivery that is answered with a failure, then not at all, and then well, of an event without
a price. -/

def quotedAlert : Alert :=
  { id := "a\"1\"", ownerId := "owner\n", symbol := "BTC", timeframe := .hour
    logic := .conditions [] .all
    fireMode := .perBar, action := .webhook "https://example.com" (some "k") }

def pricelessBar : Candle := ⟨3600, 0.0 / 0.0, 1.0 / 0.0, 1.5, -2.0, 1e300⟩

def patientSetting : Setting :=
  { scheduler :=
      { interval := 60000, timeframes := [.hour], groupTimeout := 5000, maxConcurrentGroups := 1
        candleLimit := 300, maxDispatches := 1 }
    policy := { maxRetries := 3, backoffBase := 1000, timeout := 10000 }
    defaultSecret := "secret"
    mac := Hash.hmacSha256
    calendar := ⟨1700000000, 0⟩
    api :=
      { defaultFireMode := .perBar, timeframes := [.hour], verifier := none, hasMetrics := false
        mac := Hash.hmacSha256, subscriptionId := fun _ => "" } }

def quotedTarget : WebhookTarget :=
  { subscriptionId := none, url := "https://example.com", secret := "k" }

def reluctantStart : State :=
  { State.beginning patientSetting { channel := { capacity := 1 } } (fun _ _ => none) with
    receivers := Table.empty.insert "https://example.com"
      [{ answer := .status 503 }, { answer := .failure "reset" }, { answer := .status 200 }] }

def quotedEvent : TriggerEvent :=
  .of quotedAlert pricelessBar { triggered := true, satisfied := ["c1"] } ⟨1700000000, 0⟩

def reluctantRounds : List (Instant × Nat) :=
  [(⟨1700000000, 0⟩, 0), (⟨1700000002, 0⟩, 2000), (⟨1700000006, 0⟩, 6000)]

def reluctantCalls : List Call :=
  let started := reluctantStart.startDelivery patientSetting quotedEvent quotedTarget
  (deliverAt patientSetting quotedEvent quotedTarget reluctantRounds started.1 started.2).2.calls

theorem tagged_hmacSha256 (key message : String) : Hash.hmacSha256 key message ≠ [] := by
  intro none
  have length := Hash.length_hmacSha256 key message
  rw [none] at length
  cases length

theorem three_attempts_accepted :
    reluctantCalls.map Call.time = [0, 2000, 6000] ∧
      ∀ call ∈ reluctantCalls, ∃ header,
        Webhook.SignatureHeader.parse? call.signature = some header ∧
        (Webhook.Verifier.verify Hash.hmacSha256 ⟨"k", 300⟩ {} call.body call.signature
          call.eventId (header.timestamp + 300) 0).1 = .ok "a\"1\":3600" := by
  refine ⟨by decide +kernel, ?_⟩
  obtain ⟨⟨made, calls, accepted⟩, -⟩ := deliverAt_accepted patientSetting tagged_hmacSha256
    quotedAlert pricelessBar (by decide) { triggered := true, satisfied := ["c1"] }
    ⟨1700000000, 0⟩ [] none quotedTarget reluctantStart reluctantRounds (by decide)
  intro call member
  have among : call ∈ made := by
    have same : reluctantCalls = [] ++ made := calls
    rw [same] at member
    exact member
  obtain ⟨header, answered⟩ := accepted call among
  exact ⟨header, answered.parsed,
    (answered.answer 300 {} (header.timestamp + 300) 0 (by omega) (by decide)).1 (by decide)⟩

/-- A receiver that would accept requests of any age crashes on every one. -/
theorem ageless_receiver_crashes :
    ∃ call ∈ reluctantCalls, ∃ header,
      Webhook.SignatureHeader.parse? call.signature = some header ∧
      ∃ reason, (Webhook.Verifier.verify Hash.hmacSha256 ⟨"k", 9223372036854775807⟩ {} call.body
        call.signature call.eventId header.timestamp 0).1 = .error (.crashed reason) := by
  have begun : Requested quotedEvent quotedTarget Hash.hmacSha256
      (fun timestamp => ∃ round ∈ reluctantRounds, timestamp = round.1.seconds) reluctantStart
      (reluctantStart.startDelivery patientSetting quotedEvent quotedTarget).2 :=
    .of_same (followStep_calls patientSetting quotedEvent quotedTarget _ _)
  have requested := begun.trans (deliverAt_requested patientSetting reluctantRounds
    (reluctantStart.startDelivery patientSetting quotedEvent quotedTarget).1 _
    (fun round member => ⟨round, member, rfl⟩))
  obtain ⟨made, calls, answered⟩ := requested.isAnswered tagged_hmacSha256 (by decide)
    (TriggerEvent.eventIdOf_ne_empty _ _) (by
      rintro _ ⟨round, among, rfl⟩
      revert round
      decide)
  have same : reluctantCalls = [] ++ made := calls
  rw [List.nil_append] at same
  cases listed : made with
  | nil =>
      have several : reluctantCalls ≠ [] := by decide +kernel
      rw [same, listed] at several
      exact absurd rfl several
  | cons call rest =>
      have among : call ∈ made := listed ▸ List.mem_cons_self
      obtain ⟨header, answered⟩ := answered call among
      exact ⟨call, same ▸ among, header, answered.parsed,
        (answered.answer 9223372036854775807 {} header.timestamp 0 (by simp) (by decide)).2
          (by decide)⟩

end State

end Simulation

end CandleAlerts
