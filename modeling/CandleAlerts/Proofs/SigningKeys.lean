import CandleAlerts.Proofs.KeySources
import CandleAlerts.Proofs.StepRuns
import CandleAlerts.Proofs.WellFormedDefinitions

/-!
Which keys webhook requests are signed with.

Alerts and subscriptions are accepted each in its own way. Reading an alert drops an empty secret,
so that the default takes its place; granting a subscription keeps it. Whatever happens to the
program, these are the only sources of a key, and an empty one comes from the latter.
-/

namespace CandleAlerts.Simulation

/-! ## Runs -/

/-- A subscription that a client was granted. -/
structure Grant where
  id : String
  recipient : Recipient
deriving DecidableEq

/-- What a client is granted that asks for a subscription. -/
def Grant.of? (settings : Api.Settings) (services : Services) (subscriberId conditionId : String)
    (recipient : Recipient) : Option Grant :=
  match (Api.subscribe settings services subscriberId conditionId recipient).1 with
  | .ok _ => some { id := settings.subscriptionId services.issuedIds, recipient }
  | .error _ => none

/-- Whether a request for a target is signed with the secret that was given for it, or else with the
default: by an accepted alert, which never gives an empty one, or with a subscription that was
granted. -/
structure Call.SignedWith (call : Call) (setting : Setting) (grants : List (Option Grant))
    (target : WebhookTarget) (given : Option String) : Prop where
  asks : ∃ event timestamp, call.Asks setting.mac event target timestamp
  secret : target.secret = given.getD setting.defaultSecret
  source : (target.subscriptionId = none ∧ given ≠ some "" ∧
      ∃ alert : Alert, alert.Accepted ∧ alert.action = .webhook target.url given) ∨
    ∃ id, target.subscriptionId = some id ∧
      some { id, recipient := .webhook target.url given } ∈ grants

/-- A key is empty only if the default is, or an empty secret came with a subscription. -/
theorem Call.SignedWith.empty_granted {call : Call} {setting : Setting}
    {grants : List (Option Grant)} {target : WebhookTarget} {given : Option String}
    (signed : call.SignedWith setting grants target given) (isEmpty : target.secret = "") :
    setting.defaultSecret = "" ∨
      ∃ id, some { id, recipient := .webhook target.url (some "") } ∈ grants := by
  have secret := signed.secret
  rw [isEmpty] at secret
  cases given with
  | none => exact .inl secret.symm
  | some given =>
      have same : given = "" := secret.symm
      rw [same] at signed
      rcases signed.source with ⟨-, notEmpty, -⟩ | ⟨id, -, granted⟩
      · exact absurd rfl notEmpty
      · exact .inr ⟨id, granted⟩

theorem Call.IsFor.signedWith {call : Call} {setting : Setting} {grants : List (Option Grant)}
    (isFor : call.IsFor setting.mac
      (Keyed setting.defaultSecret (fun id recipient => some ⟨id, recipient⟩ ∈ grants))) :
    ∃ target given, call.SignedWith setting grants target given := by
  rcases isFor with ⟨event, target, timestamp, keyed, asks⟩
  cases keyed with
  | @own alert url given accepted action =>
      have wellFormed : given ≠ some "" := by
        rcases accepted with ⟨definition, mode, read⟩
        have wellFormed := (Definition.readAlert_wellFormed read).action
        rw [action] at wellFormed
        exact wellFormed.2
      exact ⟨_, given, ⟨event, timestamp, asks⟩, rfl,
        .inl ⟨rfl, wellFormed, alert, accepted, action⟩⟩
  | @subscribed id url given isGranted =>
      exact ⟨_, given, ⟨event, timestamp, asks⟩, rfl, .inr ⟨id, rfl, isGranted⟩⟩

namespace State

/-- What brings no alert, recipient, errand, delivery or request that was not there before. A market
that answers something else does so, a client that has a signature checked, time that passes; and so
does a program that ends and begins anew with nothing but its storage. -/
structure BringsNothing (before after : State) : Prop where
  registered : ∀ id entry, after.services.registry.get? id = some entry →
    before.services.registry.get? id = some entry
  listed : ∀ id recipient,
    after.services.Lists id recipient → before.services.Lists id recipient
  evaluated : ∀ member, after.Evaluates member → before.Evaluates member
  pending : ∀ errand ∈ after.pending, errand ∈ before.pending
  jobs : ∀ job ∈ after.jobs, job ∈ before.jobs
  calls : after.calls = before.calls

theorem BringsNothing.of_calm {before after : State} (calm : Calm (fun _ => False) before after)
    (same : after.services.listings = before.services.listings) : BringsNothing before after where
  registered id entry get := by
    rw [Registry.get?, calm.services.alerts] at get
    exact get
  listed _ _ listed := listed.of_listings same
  evaluated := calm.evaluates
  pending errand member := calm.pending.mem_iff.1 member
  jobs job member := by
    rw [calm.jobs] at member
    exact member
  calls := by
    rcases calm.calls with ⟨more, calls, none⟩
    have isEmpty : more = [] := List.eq_nil_iff_forall_not_mem.2 none
    rw [calls, isEmpty, List.append_nil]

/-- What can happen to the program next, at any moment of the calendar, and the subscription that is
granted by it. -/
inductive Acts (setting : Setting) : State → Option Grant → State → Prop
  | performed {state : State} {before after : List (Nat × Task)} {due : Nat} {task : Task}
      (agenda : state.agenda = before ++ (due, task) :: after) (calendar : Instant) :
      Acts setting state none
        ({ state with agenda := before ++ after, time := max state.time due }.perform
          { setting with calendar } task)
  | ticked (state : State) (now : Instant) : Acts setting state none (state.beginTick setting now)
  | dispatched (state : State) {alert : Alert} (accepted : alert.Accepted) (event : TriggerEvent)
      (calendar : Instant) :
      Acts setting state none (state.takeNumber.2.beginErrand { setting with calendar }
        { number := state.numbers, alert, event, group := none })
  | activated (state : State) (definition : Json) :
      Acts setting state none
        { state with services := (Api.activate setting.api state.services definition).2 }
  | deactivated (state : State) (alertId : String) :
      Acts setting state none { state with services := (Api.deactivate state.services alertId).2 }
  | subscribed (state : State) (subscriberId conditionId : String) (recipient : Recipient) :
      Acts setting state
        (Grant.of? setting.api state.services subscriberId conditionId recipient)
        { state with services :=
            (Api.subscribe setting.api state.services subscriberId conditionId recipient).2 }
  | unsubscribed (state : State) (subscriberId conditionId : String) :
      Acts setting state none
        { state with services := (Api.unsubscribe state.services subscriberId conditionId).2 }
  | synchronized (state : State) (saved : Option SavedStates) (mode : FireMode) :
      Acts setting state none { state with services := (state.services.sync saved mode).2 }
  | elsewhere {state after : State} (brings : BringsNothing state after) :
      Acts setting state none after

/-- What is true of the keys before a step is true after it, with what it grants. -/
theorem Acts.keysKnown {setting : Setting} {granted : String → Recipient → Prop}
    {state next : State} {grant : Option Grant} (acts : Acts setting state grant next)
    (isGranted : ∀ given, grant = some given → granted given.id given.recipient)
    (known : KeysKnown setting granted state) : KeysKnown setting granted next := by
  cases acts with
  | performed agenda calendar =>
      have atMoment : KeysKnown { setting with calendar } granted state :=
        known.of_setting rfl rfl
      exact (atMoment.perform agenda _).of_setting rfl rfl
  | ticked now => exact known.beginTick now
  | dispatched accepted event calendar =>
      have numbered : KeysKnown setting granted { state with numbers := state.numbers + 1 } :=
        known.of_same rfl rfl rfl (fun _ member => member) known.pending
      have atMoment : KeysKnown { setting with calendar } granted
          { state with numbers := state.numbers + 1 } := numbered.of_setting rfl rfl
      exact (atMoment.beginErrand accepted).of_setting rfl rfl
  | activated definition =>
      refine known.of_services
        (Services.accepted_of_activate known.registered setting.api definition) ?_
      intro id recipient listed
      exact known.listed id recipient
        (listed.of_listings (Services.activate_listings setting.api state.services definition))
  | deactivated alertId =>
      refine known.of_services (Services.accepted_of_deactivate known.registered alertId) ?_
      intro id recipient listed
      exact known.listed id recipient
        (listed.of_listings (state.services.deactivate_listings alertId))
  | subscribed subscriberId conditionId recipient =>
      have registry := Services.accepted_of_subscribe known.registered setting.api subscriberId
        conditionId recipient
      refine known.of_services registry ?_
      intro id other listed
      rcases Services.lists_of_subscribe listed with before | ⟨⟨answer, done⟩, rfl, rfl⟩
      · exact known.listed id other before
      · refine isGranted ⟨_, _⟩ ?_
        simp only [Grant.of?, done]
  | unsubscribed subscriberId conditionId =>
      refine known.of_services
        (Services.accepted_of_unsubscribe known.registered subscriberId conditionId) ?_
      exact fun id recipient listed =>
        known.listed id recipient (Services.lists_of_unsubscribe listed)
  | synchronized saved mode =>
      refine known.of_services (Services.accepted_of_sync known.registered saved mode) ?_
      exact fun id recipient listed => known.listed id recipient (Services.lists_of_sync listed)
  | elsewhere brings =>
      exact
        { registered := fun id entry get =>
            known.registered id entry (brings.registered id entry get)
          evaluated := fun member evaluated =>
            known.evaluated member (brings.evaluated member evaluated)
          pending := fun errand member => known.pending errand (brings.pending errand member)
          listed := fun id recipient listed =>
            known.listed id recipient (brings.listed id recipient listed)
          jobs := fun job member => known.jobs job (brings.jobs job member)
          calls := by
            rw [brings.calls]
            exact known.calls }

/-- Whether nothing has happened yet that a request could come from. There may be definitions in
storage. -/
structure Blank (state : State) : Prop where
  registered : state.services.registry.alerts = Table.empty
  listings : state.services.listings = (Table.empty, [])
  tick : state.tick = none
  pending : state.pending = []
  jobs : state.jobs = []
  calls : state.calls = []

theorem Blank.keysKnown {state : State} (blank : state.Blank) (setting : Setting)
    (granted : String → Recipient → Prop) : KeysKnown setting granted state where
  registered id entry get := by
    rw [Registry.get?, blank.registered] at get
    cases get
  evaluated := by
    rintro member ⟨tick, under, -⟩
    rw [blank.tick] at under
    cases under
  pending := by simp [blank.pending]
  listed := by
    rcases Prod.mk.inj blank.listings with ⟨registered, stored⟩
    rintro id recipient ⟨subscription, -, -, isStored | ⟨conditionId, isRegistered⟩⟩
    · rw [stored] at isStored
      cases isStored
    · rw [Registry.subscriptionsTo, registered] at isRegistered
      cases isRegistered
  jobs := by simp [blank.jobs]
  calls := by simp [blank.calls]

/-! ## The drivers of a simulation -/

/-- A run in which no subscription is granted. -/
def Silently (setting : Setting) (before after : State) : Prop :=
  ∃ steps, StepRun (Acts setting) before (List.replicate steps none) after

namespace Silently

variable {setting : Setting}

theorem refl (state : State) : Silently setting state state := ⟨0, .nil⟩

theorem single {before after : State} (acts : Acts setting before none after) :
    Silently setting before after := ⟨1, .single acts⟩

theorem trans {first second third : State} (left : Silently setting first second)
    (right : Silently setting second third) : Silently setting first third := by
  rcases left with ⟨steps, run⟩
  rcases right with ⟨more, rest⟩
  refine ⟨steps + more, ?_⟩
  rw [List.replicate_add]
  exact run.trans rest

theorem of_calm {before after : State} (calm : Calm (fun _ => False) before after)
    (same : after.services.listings = before.services.listings) :
    Silently setting before after :=
  single (.elsewhere (.of_calm calm same))

/-- The reports of ticks and dispatches are no business of a delivery. -/
theorem of_reports (state : State) (tickReports : List TickReport)
    (dispatchReports : List (Nat × DispatchReport)) :
    Silently setting state { state with tickReports, dispatchReports } :=
  of_calm (.of_same (.refl _) rfl rfl rfl rfl rfl (Nat.le_refl _) rfl rfl
    (fun _ evaluates => evaluates)) rfl

theorem step? {until? : Option Nat} {state next : State}
    (steps : state.step? setting until? = some next) : Silently setting state next := by
  rcases step?_cases steps with ⟨due, task, rest, agenda, rfl⟩
  rw [← List.nil_append ((due, task) :: rest)] at agenda
  have performed : Acts setting state none _ := .performed agenda setting.calendar
  exact (single performed).trans (of_calm (runRouter_calm _) (runRouter_listings _))

theorem runUntil (until? : Option Nat) (happened : State → Bool) (steps : Nat) (state : State) :
    Silently setting state (State.runUntil setting until? happened steps state) :=
  runUntil_joins refl trans step? happened steps state

theorem tickOnce (steps : Nat) (now : Instant) (state : State) :
    Silently setting state (state.tickOnce setting steps now).2 :=
  ((of_reports state [] state.dispatchReports).trans (single (.ticked _ now))).trans
    ((runUntil _ _ steps _).trans (of_reports _ [] _))

theorem runScheduler (steps duration : Nat) (state : State) :
    Silently setting state (state.runScheduler setting steps duration) :=
  (of_calm (startScheduler_calm setting state duration)
    (congrArg Services.listings (startScheduler_services state setting duration))).trans
      ((runUntil _ _ steps _).trans (of_reports _ [] _))

theorem dispatchOnce (steps : Nat) {alert : Alert} (accepted : alert.Accepted)
    (event : TriggerEvent) (state : State) :
    Silently setting state (state.dispatchOnce setting steps alert event).2 :=
  (single (.dispatched state accepted event setting.calendar)).trans
    ((runUntil _ _ steps _).trans (of_reports _ _ []))

end Silently

/-! ## Keys -/

/-- Whatever happens to a program that begins with nothing, each request that it makes is signed
with the secret that was given for its target or else with the default. So no key is empty unless
the default is, or a client was granted a subscription with an empty secret. -/
theorem signed_with_given_secret {setting : Setting} {start final : State} (blank : start.Blank)
    {grants : List (Option Grant)} (run : StepRun (Acts setting) start grants final) :
    ∀ call ∈ final.calls, ∃ target given, call.SignedWith setting grants target given ∧
      (target.secret = "" → setting.defaultSecret = "" ∨
        ∃ id, some { id, recipient := .webhook target.url (some "") } ∈ grants) := by
  have known : KeysKnown setting (fun id recipient => some ⟨id, recipient⟩ ∈ grants) final := by
    refine run.keeps (KeysKnown setting _) (blank.keysKnown setting _) ?_
    intro grant member state next acts known
    exact acts.keysKnown (fun given same => same ▸ member) known
  intro call member
  rcases (known.calls call member).signedWith with ⟨target, given, signed⟩
  exact ⟨target, given, signed, signed.empty_granted⟩

/-! An alert that triggers. It has a webhook of its own, which was defined with an empty secret, and
a client subscribes another webhook to it. -/

namespace Hooks

def definition : Json := .object
  [("id", .string "a1"), ("owner_id", .string "owner"), ("symbol", .string "BTC"),
   ("timeframe", .string "1h"),
   ("conditions", .array
     [.object [("field", .string "close"), ("op", .string ">"), ("value", .number (.integer 1))]]),
   ("webhook_url", .string "https://own"), ("webhook_secret", .string "")]

def scheduler : SchedulerSettings :=
  { interval := 60000, timeframes := [.hour], groupTimeout := 5000, maxConcurrentGroups := 1
    candleLimit := 300, maxDispatches := 1 }

def setting (mac : Mac) : Setting where
  scheduler
  policy := { maxRetries := 1, backoffBase := 1000, timeout := 10000 }
  defaultSecret := "default"
  mac
  calendar := ⟨1700000000, 0⟩
  api :=
    { defaultFireMode := .perBar, timeframes := [.hour], verifier := none, hasMetrics := false
      mac, subscriptionId := toString }

def start : State :=
  { services := { channel := { capacity := 1 } }
    market := Table.empty.insert "BTC" [{ answer := .candles [⟨3600, 5, 6, 4, 5, 1⟩] }]
    indicators := fun _ _ => none
    slots := scheduler.slots }

def activated (mac : Mac) : State :=
  { start with services := (Api.activate (setting mac).api start.services definition).2 }

def recipient (secret : String) : Recipient := .webhook "https://subscribed" (some secret)

def subscribed (mac : Mac) (secret : String) : State :=
  { activated mac with
    services := (Api.subscribe (setting mac).api (activated mac).services "client" "a1"
      (recipient secret)).2 }

/-- The program after a tick that evaluates the alert. -/
def ticked (mac : Mac) (secret : String) : State :=
  ((subscribed mac secret).tickOnce (setting mac) 20 ⟨1700000000, 0⟩).2

/-- A tag that gives the key away, and with it whether there is one. -/
def keyTag : Mac := fun key _ => key.toList.map (fun letter => UInt8.ofNat letter.toNat)

end Hooks

open Hooks in
theorem own_secret_and_default_sign :
    ∃ grants, start.Blank ∧
      StepRun (Acts (setting Hash.hmacSha256)) start grants (ticked Hash.hmacSha256 "own") ∧
      (ticked Hash.hmacSha256 "own").calls.map Call.url = ["https://own", "https://subscribed"] ∧
      ∀ call ∈ (ticked Hash.hmacSha256 "own").calls, ∃ target given,
        call.SignedWith (setting Hash.hmacSha256) grants target given ∧ target.secret ≠ "" := by
  have blank : start.Blank := ⟨rfl, rfl, rfl, rfl, rfl, rfl⟩
  have granted : Grant.of? (setting Hash.hmacSha256).api (activated Hash.hmacSha256).services
      "client" "a1" (recipient "own") = some ⟨"0", recipient "own"⟩ := by decide +kernel
  have requested : StepRun (Acts (setting Hash.hmacSha256)) start
      ([none] ++ [some ⟨"0", recipient "own"⟩]) (subscribed Hash.hmacSha256 "own") := by
    rw [← granted]
    exact (StepRun.single (.activated start definition)).trans
      (.single (.subscribed (activated Hash.hmacSha256) "client" "a1" (recipient "own")))
  rcases Silently.tickOnce 20 ⟨1700000000, 0⟩ (subscribed Hash.hmacSha256 "own") with
    ⟨steps, ticks⟩
  have run : StepRun (Acts (setting Hash.hmacSha256)) start _ (ticked Hash.hmacSha256 "own") :=
    requested.trans ticks
  refine ⟨_, blank, run, by decide +kernel, ?_⟩
  intro call member
  rcases signed_with_given_secret blank run call member with ⟨target, given, signed, empty⟩
  refine ⟨target, given, signed, ?_⟩
  intro isEmpty
  rcases empty isEmpty with noDefault | ⟨id, among⟩
  · exact absurd noDefault (by decide)
  · simp [recipient, List.mem_replicate] at among

open Hooks in
/-- A client that subscribes with an empty secret is granted the subscription, and is sent a request
that no secret but the empty one signs, although there is a default. -/
theorem empty_secret_signs :
    (setting keyTag).defaultSecret ≠ "" ∧
      Grant.of? (setting keyTag).api (activated keyTag).services "client" "a1" (recipient "") =
        some ⟨"0", recipient ""⟩ ∧
      ∃ call ∈ (ticked keyTag "").calls, call.url = "https://subscribed" ∧
        call.signature =
          (Webhook.signatureHeader keyTag "" (setting keyTag).calendar.seconds call.body).text ∧
        ∀ secret, secret ≠ "" → call.signature ≠
          (Webhook.signatureHeader keyTag secret (setting keyTag).calendar.seconds
            call.body).text := by
  refine ⟨by decide, by decide +kernel, ?_⟩
  have made : ("https://subscribed", "t=1700000000,s=") ∈
      (ticked keyTag "").calls.map (fun call => (call.url, call.signature)) := by decide +kernel
  rcases List.mem_map.1 made with ⟨call, member, same⟩
  rcases Prod.mk.inj same with ⟨url, written⟩
  have signature : call.signature =
      (Webhook.signatureHeader keyTag "" (setting keyTag).calendar.seconds call.body).text :=
    written.trans (show _ = Webhook.SignatureHeader.text ⟨1700000000, ""⟩ by decide)
  refine ⟨call, member, url, signature, ?_⟩
  intro secret notEmpty alike
  have untagged : secret.toList.map (fun letter => UInt8.ofNat letter.toNat) = [] :=
    (Webhook.tag_eq_of_text_eq (signature.symm.trans alike)).symm
  exact notEmpty (String.toList_eq_nil_iff.1 (List.map_eq_nil_iff.1 untagged))

end State

end CandleAlerts.Simulation
