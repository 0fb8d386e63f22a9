import CandleAlerts.Proofs.DispatchAsides
import CandleAlerts.Proofs.DispatchTargets
import CandleAlerts.Proofs.Origins
import CandleAlerts.Proofs.RunInvariant
import CandleAlerts.Proofs.SignedDeliveries

/-!
Where the keys of webhook requests come from.

A key comes from an alert that was accepted, from a subscription that was granted, or else it is the
default. The two sources meet in the targets of a dispatch, and a delivery under way keeps its
target, so that every request that a simulation makes can be traced back to the one or the other.
-/

namespace CandleAlerts

/-! ## Keys of targets -/

/-- Whether a target is that of an accepted alert or of a granted subscription, with the secret that
was given there or else with the default. -/
inductive Keyed (defaultSecret : String) (granted : String → Recipient → Prop) :
    WebhookTarget → Prop
  | own {alert : Alert} {url : String} {secret : Option String} (accepted : alert.Accepted)
      (action : alert.action = .webhook url secret) :
      Keyed defaultSecret granted
        { subscriptionId := none, url, secret := secret.getD defaultSecret }
  | subscribed {id url : String} {secret : Option String}
      (isGranted : granted id (.webhook url secret)) :
      Keyed defaultSecret granted
        { subscriptionId := some id, url, secret := secret.getD defaultSecret }

theorem Targets.keyed {alert : Alert} (accepted : alert.Accepted)
    {granted : String → Recipient → Prop} {subscriptions : List Subscription}
    (listed : ∀ subscription ∈ subscriptions, granted subscription.id subscription.recipient)
    (defaultSecret : String) :
    ∀ target ∈ (Targets.of alert subscriptions defaultSecret).webhooks,
      Keyed defaultSecret granted target := by
  intro target member
  rw [(Targets.of_cover alert subscriptions defaultSecret).webhooks] at member
  rcases List.mem_append.1 member with isOwn | isSubscribed
  · rw [Option.mem_toList] at isOwn
    cases action : alert.action with
    | webhook url secret =>
        simp only [Alert.webhook?, action, Option.some.injEq] at isOwn
        rw [← isOwn]
        exact .own accepted action
    | _ => simp [Alert.webhook?, action] at isOwn
  · rcases List.mem_filterMap.1 isSubscribed with ⟨subscription, inList, isTarget⟩
    have isGranted := listed subscription inList
    cases recipient : subscription.recipient with
    | webhook url secret =>
        simp only [Subscription.webhook?, recipient, Option.some.injEq] at isTarget
        rw [← isTarget]
        rw [recipient] at isGranted
        exact .subscribed isGranted
    | _ => simp [Subscription.webhook?, recipient] at isTarget

theorem Services.beginDispatch_keyed {services after : Services} {alert : Alert}
    (accepted : alert.Accepted) {granted : String → Recipient → Prop}
    (listed : ∀ id recipient, services.Lists id recipient → granted id recipient)
    {event : TriggerEvent} {defaultSecret : String} {now : Instant} {clock : Nat}
    {dispatch : Dispatch}
    (begun : services.beginDispatch alert event defaultSecret now clock = (some dispatch, after)) :
    ∀ target ∈ dispatch.webhooks, Keyed defaultSecret granted target := by
  rcases services.exists_claim (dispatchKey event.eventId) dispatchMemory clock with
    ⟨claims, claimed⟩
  rcases services.beginDispatch_cases alert event defaultSecret now clock with same | same
  · rw [same] at begun
    cases begun
  · rw [same, claimed] at begun
    cases begun
    exact Targets.keyed accepted (fun subscription member => listed _ _
      (services.lists_of_registered (List.mem_filter.1 member).1)) defaultSecret

namespace Simulation

/-- Whether a request is for one of some targets: it goes to its address and is signed with its
secret. -/
def Call.IsFor (mac : Mac) (serves : WebhookTarget → Prop) (call : Call) : Prop :=
  ∃ event target timestamp, serves target ∧ call.Asks mac event target timestamp

namespace State

/-! ## What leaves subscriptions alone -/

section Services

variable (state : State)

theorem receiverReply_services (url : String) :
    (state.receiverReply url).2.services = state.services := by
  simp only [receiverReply]
  split <;> rfl

theorem attempt_listings (setting : Setting) (event : TriggerEvent) (target : WebhookTarget)
    (progress : Webhook.DeliveryProgress) :
    (state.attempt setting event target progress).2.services.listings =
      state.services.listings := by
  have replied (now : State) :
      (now.receiverReply target.url).2.services.listings = now.services.listings :=
    congrArg Services.listings (receiverReply_services now target.url)
  unfold attempt
  dsimp only
  split
  · exact replied _
  · exact replied _

theorem planTick_services : state.planTick.services = state.services := by
  simp only [planTick]
  split <;> rfl

theorem settleTick_services : state.settleTick.services = state.services := by
  simp only [settleTick]
  split
  · rfl
  · split
    · exact planTick_services _
    · rfl

theorem endGroup_services (place : Nat) (note : TickReport → TickReport) :
    (state.endGroup place note).services = state.services := by
  simp only [endGroup]
  split
  · rfl
  · exact settleTick_services _

theorem failGroup_listings (place : Nat) (reason : String) :
    (state.failGroup place reason).services.listings = state.services.listings := by
  simp only [failGroup, endGroup_services]
  rfl

theorem completeGroup_services (place count : Nat) :
    (state.completeGroup place count).services = state.services :=
  endGroup_services _ _ _

theorem releasePermit_services : state.releasePermit.services = state.services := by
  simp only [releasePermit]
  split
  · rfl
  · split <;> rfl

theorem detachGroup_listings (setting : Setting) (group : Group) (place count : Nat) :
    (state.detachGroup setting group place count).services.listings =
      state.services.listings := by
  simp only [detachGroup, completeGroup_services]
  rfl

theorem onTick_listings (number : Nat) {change : Tick → State → State}
    (same : ∀ tick, (change tick state).services.listings = state.services.listings) :
    (state.onTick number change).services.listings = state.services.listings := by
  simp only [onTick]
  split
  · split
    · exact same _
    · rfl
  · rfl

theorem marketReply_services (key : GroupKey) :
    (state.marketReply key).2.services = state.services := by
  simp only [marketReply]
  exact (apply_ite State.services _ _ _).trans (ite_self _)

theorem noteErrandDone_listings (tick place : Nat) :
    (state.noteErrandDone tick place).services.listings = state.services.listings := by
  apply onTick_listings
  intro current
  split
  · split
    · exact congrArg Services.listings (completeGroup_services _ _ _)
    · rfl
  · rfl

theorem spendBudget_listings (setting : Setting) (tick place : Nat) :
    (state.spendBudget setting tick place).services.listings = state.services.listings := by
  apply onTick_listings
  intro current
  split
  · exact detachGroup_listings _ _ _ _ _
  · rfl

theorem planDeliveries_services (number : Nat) (places : List Nat)
    (deliveries : List (WebhookTarget × DeliveryPhase)) :
    (state.planDeliveries number places deliveries).services = state.services := by
  refine List.foldlRecOn (motive := fun now : State => now.services = state.services) places _
    rfl ?_
  intro now same place _
  split
  · exact same
  · exact same

theorem enterGroups_listings (setting : Setting) (groups : List Group) (tick : Tick) :
    (groups.foldl (enterGroup setting) (tick, state)).2.services.listings =
      state.services.listings := by
  refine List.foldlRecOn (motive := fun entered : Tick × State =>
    entered.2.services.listings = state.services.listings) groups _ rfl ?_
  rintro ⟨current, now⟩ same group _
  simp only [enterGroup]
  split
  · exact same
  · split
    · exact same
    · exact same

theorem runRouter_listings : state.runRouter.services.listings = state.services.listings := by
  simp only [runRouter]
  split
  · rfl
  · exact Services.routeWaiting_listings _ _

theorem startScheduler_services (setting : Setting) (duration : Nat) :
    (state.startScheduler setting duration).services = state.services :=
  planTick_services _

end Services

/-! ## Keys of requests -/

/-- What leaves alerts, recipients, errands and jobs alone, and makes requests for no other targets
than those that are served. -/
structure Follows (setting : Setting) (serves : WebhookTarget → Prop) (before after : State) :
    Prop where
  calm : Calm (fun _ => True) before after
  lists : ∀ id recipient, after.services.Lists id recipient → before.services.Lists id recipient
  calls : ∀ call ∈ after.calls, call ∈ before.calls ∨ call.IsFor setting.mac serves

namespace Follows

variable {setting : Setting} {serves : WebhookTarget → Prop}

theorem of_calm {before after : State} (calm : Calm (fun _ => False) before after)
    (lists : ∀ id recipient,
      after.services.Lists id recipient → before.services.Lists id recipient) :
    Follows setting serves before after where
  calm := calm.mono (fun _ => False.elim)
  lists := lists
  calls := by
    rcases calm.calls with ⟨more, calls, none⟩
    intro call member
    rw [calls] at member
    rcases List.mem_append.1 member with before | new
    · exact .inl before
    · exact (none call new).elim

theorem refl (state : State) : Follows setting serves state state :=
  of_calm (.refl state) (fun _ _ listed => listed)

theorem trans {first second third : State} (left : Follows setting serves first second)
    (right : Follows setting serves second third) : Follows setting serves first third where
  calm := left.calm.trans right.calm
  lists id recipient listed := left.lists id recipient (right.lists id recipient listed)
  calls call member := by
    rcases right.calls call member with before | isFor
    · exact left.calls call before
    · exact .inr isFor

theorem attempt (event : TriggerEvent) {target : WebhookTarget} (served : serves target)
    (state : State) (progress : Webhook.DeliveryProgress) :
    Follows setting serves state (state.attempt setting event target progress).2 where
  calm := attempt_calm setting state trivial target progress
  lists _ _ listed := listed.of_listings (attempt_listings state setting event target progress)
  calls call member := by
    rw [attempt_calls] at member
    rcases List.mem_append.1 member with before | new
    · exact .inl before
    · rw [List.mem_singleton.1 new]
      exact .inr ⟨event, target, _, served, request_asks setting event target state⟩

theorem followStep (event : TriggerEvent) (target : WebhookTarget) (state : State)
    (step : Webhook.DeliveryStep) :
    Follows setting serves state (state.followStep setting event target step).2 := by
  refine of_calm (followStep_calm setting state event target step) ?_
  intro id recipient listed
  cases step with
  | attempt wait progress => exact listed
  | finished outcome => exact listed

variable (setting serves) in
theorem deliveryFrame (event : TriggerEvent) :
    DeliveryFrame setting event serves (Follows setting serves) where
  refl := refl
  trans := trans
  attempt served state progress := attempt event served state progress
  followStep {target} _ state step := followStep event target state step

end Follows

/-- What is known of the keys of a simulation: every alert was accepted, every recipient that is
listed was granted, and every delivery and every request is for a target of the one or the other. -/
structure KeysKnown (setting : Setting) (granted : String → Recipient → Prop) (state : State) :
    Prop where
  registered : state.services.registry.Accepted
  evaluated : ∀ member, state.Evaluates member → member.alert.Accepted
  pending : ∀ errand ∈ state.pending, errand.alert.Accepted
  listed : ∀ id recipient, state.services.Lists id recipient → granted id recipient
  jobs : ∀ job ∈ state.jobs, ∀ delivery ∈ job.deliveries,
    Keyed setting.defaultSecret granted delivery.1
  calls : ∀ call ∈ state.calls, call.IsFor setting.mac (Keyed setting.defaultSecret granted)

namespace KeysKnown

variable {setting : Setting} {granted : String → Recipient → Prop} {state after : State}

theorem follows (known : KeysKnown setting granted state)
    (follows : Follows setting (Keyed setting.defaultSecret granted) state after) :
    KeysKnown setting granted after where
  registered := known.registered.of_alerts follows.calm.services.alerts
  evaluated member evaluated := known.evaluated member (follows.calm.evaluates member evaluated)
  pending errand member := known.pending errand (follows.calm.pending.mem_iff.1 member)
  listed id recipient listed := known.listed id recipient (follows.lists id recipient listed)
  jobs := by
    rw [follows.calm.jobs]
    exact known.jobs
  calls call member := (follows.calls call member).elim (known.calls call) id

/-- What is about no event and leaves the subscriptions alone keeps the keys known. -/
theorem calm (known : KeysKnown setting granted state) (calm : Calm (fun _ => False) state after)
    (same : after.services.listings = state.services.listings) :
    KeysKnown setting granted after :=
  known.follows (.of_calm calm (fun _ _ listed => listed.of_listings same))

/-- The errands that are pending are what matters of the agenda, the queue and the slots, and jobs
may be given up. -/
theorem of_same (known : KeysKnown setting granted state)
    (services : after.services = state.services) (calls : after.calls = state.calls)
    (tick : after.tick = state.tick) (jobs : ∀ job ∈ after.jobs, job ∈ state.jobs)
    (pending : ∀ errand ∈ after.pending, errand.alert.Accepted) :
    KeysKnown setting granted after where
  registered := by
    rw [services]
    exact known.registered
  evaluated member := by
    rintro ⟨current, under, evaluated⟩
    rw [tick] at under
    exact known.evaluated member ⟨current, under, evaluated⟩
  pending := pending
  listed := by
    rw [services]
    exact known.listed
  jobs job member := known.jobs job (jobs job member)
  calls := by
    rw [calls]
    exact known.calls

/-- Of a setting no more matters than the default secret and what makes tags. -/
theorem of_setting (known : KeysKnown setting granted state) {other : Setting}
    (defaultSecret : other.defaultSecret = setting.defaultSecret) (mac : other.mac = setting.mac) :
    KeysKnown other granted state where
  registered := known.registered
  evaluated := known.evaluated
  pending := known.pending
  listed := known.listed
  jobs := by
    rw [defaultSecret]
    exact known.jobs
  calls := by
    rw [defaultSecret, mac]
    exact known.calls

/-- The services may change as long as no other alerts and recipients come with it. -/
theorem of_services (known : KeysKnown setting granted state) {services : Services}
    (registered : services.registry.Accepted)
    (listed : ∀ id recipient, services.Lists id recipient → granted id recipient) :
    KeysKnown setting granted { state with services } :=
  ⟨registered, known.evaluated, known.pending, listed, known.jobs, known.calls⟩

/-! ## Errands -/

theorem plan_errand (known : KeysKnown setting granted state) {errand : Errand}
    (accepted : errand.alert.Accepted) (due : Nat) {task : Task}
    (isErrand : task.errand? = some errand) : KeysKnown setting granted (state.plan due task) := by
  refine known.of_same rfl rfl rfl (fun _ member => member) ?_
  intro other member
  have planned := (state.pending_plan due task).mem_iff.1 member
  rw [isErrand] at planned
  rcases List.mem_cons.1 planned with rfl | before
  · exact accepted
  · exact known.pending other before

theorem releaseSlot (known : KeysKnown setting granted state) :
    KeysKnown setting granted state.releaseSlot := by
  simp only [State.releaseSlot]
  split
  · exact known.of_same rfl rfl rfl (fun _ member => member) known.pending
  · rename_i next rest waiting
    have before (errand : Errand) : errand ∈ state.pending ↔
        errand ∈ next :: { state with waiting := rest }.pending :=
      (pending_call waiting).mem_iff
    have called : KeysKnown setting granted { state with waiting := rest } :=
      known.of_same rfl rfl rfl (fun _ member => member)
        (fun errand member =>
          known.pending errand ((before errand).2 (List.mem_cons_of_mem _ member)))
    exact called.plan_errand (known.pending next ((before next).2 List.mem_cons_self)) _ rfl

theorem withoutJob (known : KeysKnown setting granted state) (number : Nat) :
    KeysKnown setting granted (state.withoutJob number) :=
  known.of_same rfl rfl rfl (fun _ member => (List.mem_filter.1 member).1) known.pending

theorem endErrand (known : KeysKnown setting granted state) (errand : Errand) :
    KeysKnown setting granted (state.endErrand errand) := by
  simp only [State.endErrand]
  split
  · exact known.withoutJob errand.number
  · exact (known.withoutJob errand.number).releaseSlot.calm (plan_calm _ _ rfl) rfl

/-! ## Dispatches -/

theorem settleJob (known : KeysKnown setting granted state) {job : Job}
    (keyed : ∀ delivery ∈ job.deliveries, Keyed setting.defaultSecret granted delivery.1)
    (places : List Nat) : KeysKnown setting granted (state.settleJob setting job places) := by
  simp only [State.settleJob]
  split
  · rename_i outcomes _
    have finished : Follows setting (Keyed setting.defaultSecret granted) state
        { state with
          services := (state.services.finishDispatch job.dispatch outcomes setting.calendar).2 } :=
      { calm := .of_services state (Services.finishDispatch_undisturbed _ trivial _ _)
        lists := fun _ _ => Services.lists_of_finishDispatch
        calls := fun _ => .inl }
    exact ((known.follows finished).calm (reportDispatch_calm _ _ _) rfl).endErrand job.errand
  · have removed := known.withoutJob job.errand.number
    have put : KeysKnown setting granted
        { state.withoutJob job.errand.number with
          jobs := (state.withoutJob job.errand.number).jobs ++ [job] } := by
      refine ⟨removed.registered, removed.evaluated, removed.pending, removed.listed, ?_,
        removed.calls⟩
      intro other member
      rcases List.mem_append.1 member with before | new
      · exact removed.jobs other before
      · rw [List.mem_singleton.1 new]
        exact keyed
    exact put.calm (planDeliveries_calm _ _ _ _)
      (congrArg Services.listings (planDeliveries_services _ _ _ _))

theorem beginJob (known : KeysKnown setting granted state) (errand : Errand) {dispatch : Dispatch}
    (keyed : ∀ target ∈ dispatch.webhooks, Keyed setting.defaultSecret granted target) :
    KeysKnown setting granted (state.beginJob setting errand dispatch) := by
  have frame := Follows.deliveryFrame setting (Keyed setting.defaultSecret granted) dispatch.event
  simp only [State.beginJob]
  rcases frame.startDeliveries_of_served keyed state with ⟨starts, startedKeyed⟩
  generalize state.startDeliveries setting dispatch = start at starts startedKeyed ⊢
  rcases start with ⟨started, startedState⟩
  dsimp only at starts startedKeyed ⊢
  rcases frame.carryOnAll_of_served (List.range started.length) startedKeyed startedState with
    ⟨carries, carriedKeyed⟩
  generalize State.carryOnAll setting dispatch.event (List.range started.length) started
    startedState = result at carries carriedKeyed ⊢
  rcases result with ⟨carried, carriedState⟩
  have now := (known.follows starts).follows carries
  cases carried with
  | none => exact now.endErrand errand
  | some deliveries =>
      have notified : Calm (fun _ => False) carriedState
          { carriedState with services := (carriedState.services.notifyUsers dispatch).2 } :=
        .of_services carriedState (Services.notifyUsers_undisturbed _ _)
      exact (now.calm notified (Services.notifyUsers_listings _ _)).settleJob
        (carriedKeyed deliveries rfl) _

theorem beginErrand (known : KeysKnown setting granted state) {errand : Errand}
    (accepted : errand.alert.Accepted) :
    KeysKnown setting granted (state.beginErrand setting errand) := by
  have registry := state.services.beginDispatch_registry errand.alert errand.event
    setting.defaultSecret setting.calendar 0
  have listings := state.services.beginDispatch_listings errand.alert errand.event
    setting.defaultSecret setting.calendar 0
  simp only [State.beginErrand]
  generalize begun : state.services.beginDispatch errand.alert errand.event setting.defaultSecret
    setting.calendar 0 = result at registry listings ⊢
  rcases result with ⟨dispatch, services⟩
  dsimp only at registry listings ⊢
  have now : KeysKnown setting granted { state with services } :=
    known.of_services (known.registered.of_alerts (congrArg Registry.alerts registry))
      (fun id recipient listed => known.listed id recipient (listed.of_listings listings))
  cases dispatch with
  | none => exact (now.calm (reportDispatch_calm _ _ _) rfl).endErrand errand
  | some dispatch =>
      exact now.beginJob errand (Services.beginDispatch_keyed accepted known.listed begun)

theorem admitErrand (known : KeysKnown setting granted state) {errand : Errand}
    (accepted : errand.alert.Accepted) :
    KeysKnown setting granted (state.admitErrand setting errand) := by
  simp only [State.admitErrand]
  split
  · refine known.of_same rfl rfl rfl (fun _ member => member) ?_
    intro other member
    rcases List.mem_append.1 member with onAgenda | waits
    · exact known.pending other (List.mem_append_left _ onAgenda)
    · rcases List.mem_append.1 waits with before | new
      · exact known.pending other (List.mem_append_right _ before)
      · rw [List.mem_singleton.1 new]
        exact accepted
  · have taken : KeysKnown setting granted { state with slots := state.slots - 1 } :=
      known.of_same rfl rfl rfl (fun _ member => member) known.pending
    exact taken.beginErrand accepted

theorem carryOnJob (known : KeysKnown setting granted state) (number place : Nat) :
    KeysKnown setting granted (state.carryOnJob setting number place) := by
  unfold State.carryOnJob
  split
  · exact known
  · rename_i job isJob
    dsimp only
    generalize List.filter _ (state.placesToCarryOn job place) = places
    have frame := Follows.deliveryFrame setting (Keyed setting.defaultSecret granted)
      job.dispatch.event
    rcases frame.carryOnAll_of_served places (known.jobs job (List.mem_of_find?_eq_some isJob))
      state with ⟨carries, carriedKeyed⟩
    generalize State.carryOnAll setting job.dispatch.event places job.deliveries state = result
      at carries carriedKeyed ⊢
    rcases result with ⟨carried, carriedState⟩
    have now := known.follows carries
    cases carried with
    | none => exact now.endErrand job.errand
    | some deliveries =>
        have keyed := carriedKeyed deliveries rfl
        exact settleJob now (show ∀ delivery ∈ ({ job with deliveries } : Job).deliveries, _ from
          keyed) places

/-! ## Groups -/

theorem handAll (known : KeysKnown setting granted state) {fired : List Fired}
    (accepted : ∀ one ∈ fired, one.alert.Accepted) (tick place : Nat) :
    KeysKnown setting granted (fired.foldl (State.handOne tick place) state) := by
  refine List.foldlRecOn (motive := KeysKnown setting granted) fired _ known ?_
  intro now known one among
  have numbered : KeysKnown setting granted { now with numbers := now.numbers + 1 } :=
    known.of_same rfl rfl rfl (fun _ member => member) known.pending
  exact numbered.plan_errand (accepted one among) now.time rfl

theorem handOver (known : KeysKnown setting granted state) {fired : List Fired}
    (accepted : ∀ one ∈ fired, one.alert.Accepted) (tick : Nat) (group : Group) (place : Nat) :
    KeysKnown setting granted (state.handOver setting tick group place fired) := by
  have after := known.handAll accepted tick place
  simp only [State.handOver]
  generalize fired.foldl (State.handOne tick place) state = now at after ⊢
  split
  · exact after.calm (completeGroup_calm _ _ _)
      (congrArg Services.listings (completeGroup_services _ _ _))
  · split
    · exact after.calm (detachGroup_calm _ _ _ _ _) (detachGroup_listings _ _ _ _ _)
    · have dispatching : Calm (fun _ => False) now (now.onTick tick (fun current state =>
          state.setPhase current place (.dispatching fired.length fired.length))) :=
        onTick_calm tick (fun current under => setPhase_calm under current rfl place _)
      exact after.calm (dispatching.trans (plan_calm _ _ rfl))
        (onTick_listings now tick (fun _ => rfl))

theorem evaluateGroup (known : KeysKnown setting granted state) (tick : Tick) {group : Group}
    (accepted : ∀ member ∈ group.members, member.alert.Accepted) (place : Nat)
    (fetched : Except MissingData (List Candle)) :
    KeysKnown setting granted (state.evaluateGroup setting tick group place fetched) := by
  rcases state.services.registry.passGroup_origins state.indicators group fetched tick.now
    (setting.reached tick.number place) with ⟨alerts, subscriptions, fired⟩
  unfold State.evaluateGroup
  generalize state.services.registry.passGroup state.indicators group fetched tick.now
    (setting.reached tick.number place) = pass at alerts subscriptions fired ⊢
  have evaluated : KeysKnown setting granted
      { state with
        services := { state.services with registry := pass.registry }.note pass.journal
        computations := state.computations ++ pass.computations
        found := state.found ++ pass.found
        lost := state.lost ++ pass.lost } :=
    { registered := known.registered.of_alerts alerts
      evaluated := known.evaluated
      pending := known.pending
      listed := fun id recipient listed =>
        known.listed id recipient (listed.of_listings (Prod.ext subscriptions rfl))
      jobs := known.jobs
      calls := known.calls }
  have after := evaluated.calm (releasePermit_calm _)
    (congrArg Services.listings (releasePermit_services _))
  dsimp only
  generalize State.releasePermit _ = now at after ⊢
  cases result : pass.result with
  | error failure =>
      have skipped (services : Services) (same : services.listings = now.services.listings)
          (undisturbed : Services.Undisturbed (fun _ => False) now.services services) :
          KeysKnown setting granted ({ now with services }.failGroup place failure.reason) :=
        (after.calm (.of_services now undisturbed) same).calm (failGroup_calm _ _ _)
          (failGroup_listings _ _ _)
      exact skipped _ rfl (.note _ _)
  | ok among =>
      have counted : KeysKnown setting granted
          { now with services := now.services.count .groupsEvaluated 1 } :=
        after.calm (.of_services now (.count _ _ _)) rfl
      refine counted.handOver ?_ tick.number group place
      intro one isFired
      have inPass : one ∈ pass.fired := by
        simp only [GroupPass.fired, result]
        exact isFired
      rcases fired one inPass with ⟨member, isMember, same⟩
      rw [same]
      exact accepted member isMember

theorem receiveFetch (known : KeysKnown setting granted state) (tick : Tick) {group : Group}
    (accepted : ∀ member ∈ group.members, member.alert.Accepted) (place : Nat)
    (result : FetchResult) :
    KeysKnown setting granted (state.receiveFetch setting tick group place result) := by
  cases result with
  | crash =>
      exact (known.calm (releasePermit_calm _)
        (congrArg Services.listings (releasePermit_services _))).calm (failGroup_calm _ _ _)
          (failGroup_listings _ _ _)
  | fetched candles => exact known.evaluateGroup tick accepted place candles

theorem accepted_of_group (known : KeysKnown setting granted state) {current : Tick}
    (under : state.tick = some current) {place : Nat} {group : Group} {phase : GroupPhase}
    (get : current.groups[place]? = some (group, phase)) :
    ∀ member ∈ group.members, member.alert.Accepted :=
  fun member isMember => known.evaluated member
    ⟨current, under, (group, phase), Array.mem_of_getElem? get, isMember⟩

theorem onTick (known : KeysKnown setting granted state) (number : Nat)
    {change : Tick → State → State}
    (changes : ∀ tick, state.tick = some tick → KeysKnown setting granted (change tick state)) :
    KeysKnown setting granted (state.onTick number change) := by
  simp only [State.onTick]
  split
  · rename_i tick under
    split
    · exact changes tick under
    · exact known
  · exact known

theorem beginFetch (known : KeysKnown setting granted state) (tick place : Nat) :
    KeysKnown setting granted (state.beginFetch setting tick place) := by
  apply known.onTick
  intro current under
  split
  · exact known
  · rename_i group phase get
    have accepted := known.accepted_of_group under get
    dsimp only
    generalize asked : ({ state with fetches := state.fetches ++ [_] } : State) = asking
    have listed : KeysKnown setting granted asking := by
      rw [← asked]
      exact known.of_same rfl rfl rfl (fun _ member => member) known.pending
    have after := listed.calm (marketReply_calm asking group.key)
      (congrArg Services.listings (marketReply_services asking group.key))
    have still : (asking.marketReply group.key).2.tick = some current := by
      rw [marketReply_tick, ← asked]
      exact under
    generalize asking.marketReply group.key = replied at after still ⊢
    rcases replied with ⟨reply, now⟩
    split
    · exact after.receiveFetch current accepted place _
    · exact after.calm ((setPhase_calm still current rfl place _).trans (plan_calm _ _ rfl)) rfl

theorem admitGroup (known : KeysKnown setting granted state) (tick place : Nat) :
    KeysKnown setting granted (state.admitGroup setting tick place) := by
  apply known.onTick
  intro current under
  have same (changed : Tick) (groups : changed.groups = current.groups) :
      KeysKnown setting granted { state with tick := some changed } := by
    refine known.calm (Calm.of_tick ?_) rfl
    intro other member equal evaluated
    cases equal
    exact evaluates_of_groups under groups evaluated
  split
  · exact same _ rfl
  · exact (same { current with permits := current.permits - 1 } rfl).beginFetch tick place

theorem finishFetch (known : KeysKnown setting granted state) (tick place : Nat) :
    KeysKnown setting granted (state.finishFetch setting tick place) := by
  apply known.onTick
  intro current under
  split
  · rename_i group result get
    exact known.receiveFetch current (known.accepted_of_group under get) place result
  · exact known

/-! ## Ticks -/

theorem beginTick (known : KeysKnown setting granted state) (now : Instant) :
    KeysKnown setting granted (state.beginTick setting now) := by
  have begun : KeysKnown setting granted
      { state with
        numbers := state.numbers + 1
        services := state.services.count .ticks 1 } :=
    known.calm (.of_same (.count _ _ _) rfl rfl rfl rfl rfl (Nat.le_succ _) rfl rfl
      (fun _ evaluates => evaluates)) rfl
  have entered := Sound.enterGroups setting state.services.registry.groups
    (fun group listed member isMember => Registry.get?_of_mem_groups listed isMember)
    ({ number := state.numbers, now, permits := setting.scheduler.maxConcurrentGroups },
      { state with
        numbers := state.numbers + 1
        services := state.services.count .ticks 1 })
    (by
      rintro member ⟨entry, listed, -⟩
      simp at listed)
  have same := enterGroups_listings
    { state with
      numbers := state.numbers + 1
      services := state.services.count .ticks 1 } setting state.services.registry.groups
    { number := state.numbers, now, permits := setting.scheduler.maxConcurrentGroups }
  simp only [State.beginTick, State.takeNumber]
  dsimp only at entered ⊢
  change KeysKnown setting granted (State.settleTick
    { (state.services.registry.groups.foldl (enterGroup setting) _).2 with
      tick := some (state.services.registry.groups.foldl (enterGroup setting) _).1 })
  generalize state.services.registry.groups.foldl (enterGroup setting) _ = result
    at entered same ⊢
  rcases result with ⟨tick, after⟩
  rcases entered with ⟨evaluates, enter⟩
  dsimp only at evaluates enter same ⊢
  have taken := begun.calm enter same
  have ticking : KeysKnown setting granted { after with tick := some tick } := by
    refine ⟨taken.registered, ?_, taken.pending, taken.listed, taken.jobs, taken.calls⟩
    rintro member ⟨current, under, evaluated⟩
    cases under
    rcases evaluates member evaluated with ⟨id, get⟩
    exact known.registered id member get
  exact ticking.calm (settleTick_calm _) (congrArg Services.listings (settleTick_services _))

theorem beginDueTick (known : KeysKnown setting granted state) :
    KeysKnown setting granted (state.beginDueTick setting) := by
  simp only [State.beginDueTick]
  split
  · split
    · rename_i due _ _ _
      have scheduled : KeysKnown setting granted
          { state with schedule := some (nextDue setting.scheduler.interval due state.time) } :=
        known.of_same rfl rfl rfl (fun _ member => member) known.pending
      exact scheduled.beginTick setting.calendar
    · exact known
  · exact known

/-! ## Tasks -/

/-- What comes up on the agenda keeps the keys known, whichever it is. -/
theorem perform (known : KeysKnown setting granted state) {before after : List (Nat × Task)}
    {due : Nat} {task : Task} (agenda : state.agenda = before ++ (due, task) :: after)
    (time : Nat) :
    KeysKnown setting granted
      ({ state with agenda := before ++ after, time }.perform setting task) := by
  have inHand (errand : Errand) : errand ∈ state.pending ↔ errand ∈ task.errand?.toList ++
      { state with agenda := before ++ after, time }.pending :=
    (pending_take agenda).mem_iff
  have taken : KeysKnown setting granted { state with agenda := before ++ after, time } :=
    known.of_same rfl rfl rfl (fun _ member => member)
      (fun errand member =>
        known.pending errand ((inHand errand).2 (List.mem_append_right _ member)))
  have accepted (errand : Errand) (isErrand : task.errand? = some errand) :
      errand.alert.Accepted := by
    refine known.pending errand ((inHand errand).2 (List.mem_append_left _ ?_))
    rw [isErrand]
    exact List.mem_cons_self
  cases task with
  | groupReady tick place => exact taken.admitGroup tick place
  | groupAdmitted tick place => exact taken.beginFetch tick place
  | groupFetched tick place => exact taken.finishFetch tick place
  | groupErrandDone tick place =>
      exact taken.calm (noteErrandDone_calm _ _ _) (noteErrandDone_listings _ _ _)
  | groupBudgetSpent tick place =>
      exact taken.calm (spendBudget_calm _ _ _ _) (spendBudget_listings _ _ _ _)
  | errandReady errand => exact taken.admitErrand (accepted errand rfl)
  | errandAdmitted errand => exact taken.beginErrand (accepted errand rfl)
  | deliveryDue number place => exact taken.carryOnJob number place
  | tickDue => exact taken.beginDueTick
  | schedulerStops => exact taken.calm (stopScheduler_calm _) rfl

end KeysKnown

end State

end Simulation

end CandleAlerts
