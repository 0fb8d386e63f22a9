import CandleAlerts.Api.Operations
import CandleAlerts.Proofs.StepRuns
import CandleAlerts.Proofs.SubscriptionLaws
import Mathlib.Data.List.Nodup

/-!
Synchronizations of subscriptions and API requests in any order of their steps.

A synchronization takes two steps: it loads the active subscriptions, and then puts them in the
place of those in the registry. A request takes two: it changes storage, then the registry. Any
number of both may be under way. Nothing tells a synchronization what was changed after it loaded,
so what a request does is undone by exactly those that loaded before storage was changed and replace
after the registry was.
-/

namespace CandleAlerts

/-! ## The steps -/

/-- A change that a request still has to make to the registry, storage having been changed. -/
inductive SubscriptionWrite where
  | subscribe (subscription : Subscription)
  | unsubscribe (subscriberId conditionId : String)

def SubscriptionWrite.apply (registry : Registry) : SubscriptionWrite → Registry
  | subscribe subscription => registry.subscribe subscription
  | unsubscribe subscriberId conditionId => (registry.unsubscribe subscriberId conditionId).2

/-- What synchronizations and requests share, and how far each of them has come. -/
structure SharedSubscriptions where
  registry : Registry := {}
  store : Store := {}
  pending : List SubscriptionWrite := []
  /-- What the synchronizations under way have loaded, numbered in the order they did. -/
  readings : List (Nat × List Subscription) := []
  /-- How many synchronizations have loaded. -/
  loads : Nat := 0

/-- One step of a request or of a synchronization. -/
inductive SubscriptionEvent where
  | saved (subscription : Subscription)
  | dropped (subscriberId conditionId : String)
  | wrote (write : SubscriptionWrite)
  | loaded
  | replaced (number : Nat)

namespace SubscriptionEvent

/-- Whether a step gives up a subscriber's subscriptions to a condition. -/
def GivesUp (subscriberId conditionId : String) (event : SubscriptionEvent) : Prop :=
  event = dropped subscriberId conditionId ∨
    event = wrote (.unsubscribe subscriberId conditionId)

/-- Whether a step puts another subscription in the place of one. -/
def Supersedes (subscription : Subscription) (event : SubscriptionEvent) : Prop :=
  ∃ other : Subscription, event = wrote (.subscribe other) ∧ other ≠ subscription ∧
    other.conditionId = subscription.conditionId ∧ other.replaces subscription = true

/-- Whether a step registers a subscription of some id. -/
def Registers (id : String) (event : SubscriptionEvent) : Prop :=
  ∃ subscription : Subscription, event = wrote (.subscribe subscription) ∧ subscription.id = id

/-- Whether a step replaces the registry's subscriptions by what was loaded earlier than some
number. -/
def ReplacesBefore (number : Nat) (event : SubscriptionEvent) : Prop :=
  ∃ earlier < number, event = replaced earlier

end SubscriptionEvent

namespace SharedSubscriptions

/-- The steps. Every subscription that is stored has an id of its own. -/
inductive Step : SharedSubscriptions → SubscriptionEvent → SharedSubscriptions → Prop
  | saved (state : SharedSubscriptions) (subscription : Subscription)
      (active : subscription.active = true)
      (fresh : ∀ other ∈ state.store.subscriptions, other.id ≠ subscription.id) :
      Step state (.saved subscription)
        { state with
          store := state.store.saveSubscription subscription
          pending := state.pending ++ [.subscribe subscription] }
  | dropped (state : SharedSubscriptions) (subscriberId conditionId : String) :
      Step state (.dropped subscriberId conditionId)
        { state with
          store := (state.store.deactivateSubscription subscriberId conditionId).2
          pending := state.pending ++ [.unsubscribe subscriberId conditionId] }
  | wrote (state : SharedSubscriptions) (write : SubscriptionWrite)
      (before after : List SubscriptionWrite) (pending : state.pending = before ++ write :: after) :
      Step state (.wrote write)
        { state with registry := write.apply state.registry, pending := before ++ after }
  | loaded (state : SharedSubscriptions) :
      Step state .loaded
        { state with
          readings := state.readings ++ [(state.loads, state.store.activeSubscriptions)]
          loads := state.loads + 1 }
  | replaced (state : SharedSubscriptions) (number : Nat) (subscriptions : List Subscription)
      (before after : List (Nat × List Subscription))
      (underWay : state.readings = before ++ (number, subscriptions) :: after) :
      Step state (.replaced number)
        { state with
          registry := state.registry.replaceSubscriptions subscriptions
          readings := before ++ after }

abbrev Run := StepRun Step

end SharedSubscriptions

/-! ## Operations as steps -/

open SharedSubscriptions in
theorem Api.subscribe_run {settings : Api.Settings} {services after : Services}
    {subscriberId conditionId : String} {recipient : Recipient} {answer : Json}
    (fresh : ∀ other ∈ services.store.subscriptions,
      other.id ≠ settings.subscriptionId services.issuedIds)
    (done : Api.subscribe settings services subscriberId conditionId recipient =
      (.ok answer, after)) :
    ∃ subscription : Subscription, subscription.subscriberId = subscriberId ∧
      subscription.conditionId = conditionId ∧ subscription.recipient = recipient ∧
      Run { registry := services.registry, store := services.store }
        [.saved subscription, .wrote (.subscribe subscription)]
        { registry := after.registry, store := after.store } := by
  simp only [Api.subscribe, Services.changeStore] at done
  cases refused : Api.subscriptionRefusal? services.registry subscriberId conditionId recipient with
  | some refusal => simp [refused] at done
  | none =>
      cases works : services.works .saveSubscription with
      | false => simp [refused, works] at done
      | true =>
          simp only [refused, works, if_true] at done
          cases done
          have saving : Run { registry := services.registry, store := services.store } _ _ :=
            .single (Step.saved _
              { id := settings.subscriptionId services.issuedIds, subscriberId, conditionId
                recipient, active := true, lastTriggeredAt := none } rfl fresh)
          exact ⟨_, rfl, rfl, rfl, saving.snoc (Step.wrote _ _ [] [] rfl)⟩

open SharedSubscriptions in
theorem Api.unsubscribe_run {services after : Services} {subscriberId conditionId : String}
    {answer : Json}
    (done : Api.unsubscribe services subscriberId conditionId = (.ok answer, after)) :
    Run { registry := services.registry, store := services.store }
      [.dropped subscriberId conditionId, .wrote (.unsubscribe subscriberId conditionId)]
      { registry := after.registry, store := after.store } := by
  simp only [Api.unsubscribe, Services.changeStore] at done
  cases works : services.works .deactivateSubscription with
  | false => simp [works] at done
  | true =>
      simp only [works, if_true] at done
      cases done
      have dropping : Run { registry := services.registry, store := services.store } _ _ :=
        .single (Step.dropped _ subscriberId conditionId)
      exact dropping.snoc (Step.wrote _ (.unsubscribe subscriberId conditionId) [] [] rfl)

open SharedSubscriptions in
theorem Registry.syncSubscriptions_run (registry : Registry) (report : SyncReport) (store : Store) :
    Run { registry, store } [.loaded, .replaced 0]
      { registry := (registry.syncSubscriptions report store.activeSubscriptions).2, store
        loads := 1 } := by
  have loading : Run { registry, store } _ _ := .single (Step.loaded _)
  exact loading.snoc (Step.replaced _ 0 store.activeSubscriptions [] [] rfl)

/-! ## What is known of every subscription -/

/-- Whether a subscription of this id, subscriber and condition is stored, active or not. -/
def Store.Knows (store : Store) (subscription : Subscription) : Prop :=
  ∃ stored ∈ store.subscriptions, stored.id = subscription.id ∧
    stored.subscriberId = subscription.subscriberId ∧
    stored.conditionId = subscription.conditionId

namespace Store

variable {store : Store}

theorem knows_of_mem_activeSubscriptions {subscription : Subscription}
    (member : subscription ∈ store.activeSubscriptions) : store.Knows subscription :=
  ⟨subscription, (List.mem_filter.1 member).1, rfl, rfl, rfl⟩

theorem Knows.saveSubscription {known subscription : Subscription} (knows : store.Knows known)
    (fresh : ∀ other ∈ store.subscriptions, other.id ≠ subscription.id) :
    (store.saveSubscription subscription).Knows known := by
  rcases knows with ⟨stored, member, same⟩
  refine ⟨stored, ?_, same⟩
  rw [store.subscriptions_saveSubscription fresh]
  exact List.mem_append_left _ member

theorem knows_saveSubscription (store : Store) (subscription : Subscription) :
    (store.saveSubscription subscription).Knows subscription :=
  ⟨subscription, List.mem_append_right _ List.mem_cons_self, rfl, rfl, rfl⟩

theorem Knows.deactivateSubscription {known : Subscription} (knows : store.Knows known)
    (subscriberId conditionId : String) :
    (store.deactivateSubscription subscriberId conditionId).2.Knows known := by
  rcases knows with ⟨stored, member, same⟩
  refine ⟨_, List.mem_map_of_mem member, ?_⟩
  split
  · exact same
  · exact same

theorem nodup_ids_saveSubscription (distinct : (store.subscriptions.map Subscription.id).Nodup)
    {subscription : Subscription}
    (fresh : ∀ other ∈ store.subscriptions, other.id ≠ subscription.id) :
    ((store.saveSubscription subscription).subscriptions.map Subscription.id).Nodup := by
  rw [store.subscriptions_saveSubscription fresh, List.map_append, List.map_cons, List.map_nil,
    List.nodup_append]
  refine ⟨distinct, List.nodup_singleton _, ?_⟩
  intro id listed last new same
  rcases List.mem_map.1 listed with ⟨other, member, rfl⟩
  rw [List.mem_singleton.1 new] at same
  exact fresh other member same

/-- Where ids are distinct, the id tells the subscriber and the condition. -/
theorem Knows.owner (distinct : (store.subscriptions.map Subscription.id).Nodup)
    {first second : Subscription} (knowsFirst : store.Knows first)
    (knowsSecond : store.Knows second) (same : first.id = second.id) :
    first.subscriberId = second.subscriberId ∧ first.conditionId = second.conditionId := by
  rcases knowsFirst with ⟨firstStored, firstMember, firstId, firstSubscriber, firstCondition⟩
  rcases knowsSecond with ⟨secondStored, secondMember, secondId, secondSubscriber, secondCondition⟩
  have stored : firstStored = secondStored := by
    apply List.inj_on_of_nodup_map distinct firstMember secondMember
    rw [firstId, secondId, same]
  subst stored
  exact ⟨firstSubscriber.symm.trans secondSubscriber, firstCondition.symm.trans secondCondition⟩

end Store

namespace SharedSubscriptions

/-- Ids are distinct, whatever is registered, loaded or about to be registered is stored, and what
is loaded is active. -/
structure Consistent (state : SharedSubscriptions) : Prop where
  distinct : (state.store.subscriptions.map Subscription.id).Nodup
  registered : ∀ conditionId, ∀ subscription ∈ state.registry.activeSubscriptions conditionId,
    subscription.conditionId = conditionId ∧ state.store.Knows subscription
  pending : ∀ subscription, .subscribe subscription ∈ state.pending →
    subscription.active = true ∧ state.store.Knows subscription
  readings : ∀ reading ∈ state.readings, reading.1 < state.loads ∧
    ∀ subscription ∈ reading.2, subscription.active = true ∧ state.store.Knows subscription

variable {state next : SharedSubscriptions} {event : SubscriptionEvent}

theorem Consistent.of_unregistered
    (distinct : (state.store.subscriptions.map Subscription.id).Nodup)
    (registered : state.registry.subscriptions = Table.empty) (pending : state.pending = [])
    (readings : state.readings = []) : state.Consistent where
  distinct := distinct
  registered conditionId subscription member := by
    simp only [Registry.activeSubscriptions, Registry.subscriptionsTo] at member
    rw [registered] at member
    cases member
  pending subscription member := by
    rw [pending] at member
    cases member
  readings reading member := by
    rw [readings] at member
    cases member

/-- A request keeps the state consistent by a change of storage that forgets nothing. -/
theorem Consistent.request (consistent : state.Consistent) {store : Store}
    {write : SubscriptionWrite} (distinct : (store.subscriptions.map Subscription.id).Nodup)
    (keeps : ∀ known, state.store.Knows known → store.Knows known)
    (stored : ∀ subscription, write = .subscribe subscription →
      subscription.active = true ∧ store.Knows subscription) :
    Consistent { state with store, pending := state.pending ++ [write] } where
  distinct := distinct
  registered conditionId subscription member := by
    have known := consistent.registered conditionId subscription member
    exact ⟨known.1, keeps subscription known.2⟩
  pending subscription member := by
    rcases List.mem_append.1 member with earlier | last
    · have known := consistent.pending subscription earlier
      exact ⟨known.1, keeps subscription known.2⟩
    · exact stored subscription (List.mem_singleton.1 last).symm
  readings reading member := by
    have known := consistent.readings reading member
    refine ⟨known.1, ?_⟩
    intro subscription inside
    exact ⟨(known.2 subscription inside).1, keeps subscription (known.2 subscription inside).2⟩

/-- A write that waits registers what is stored. -/
theorem Consistent.applied (consistent : state.Consistent) {write : SubscriptionWrite}
    (waits : write ∈ state.pending) {conditionId : String} {subscription : Subscription}
    (member : subscription ∈ (write.apply state.registry).activeSubscriptions conditionId) :
    subscription.conditionId = conditionId ∧ state.store.Knows subscription := by
  cases write with
  | subscribe new =>
      have known := consistent.pending new waits
      simp only [SubscriptionWrite.apply] at member
      rw [state.registry.activeSubscriptions_subscribe known.1] at member
      split at member
      · rename_i same
        rcases List.mem_append.1 member with earlier | last
        · exact consistent.registered conditionId subscription (List.mem_filter.1 earlier).1
        · rw [List.mem_singleton.1 last]
          exact ⟨same, known.2⟩
      · exact consistent.registered conditionId subscription member
  | unsubscribe subscriberId givenUp =>
      simp only [SubscriptionWrite.apply] at member
      rw [state.registry.activeSubscriptions_unsubscribe] at member
      exact consistent.registered conditionId subscription (List.mem_filter.1 member).1

theorem Step.consistent (step : Step state event next) (consistent : state.Consistent) :
    next.Consistent := by
  cases step with
  | saved subscription active fresh =>
      refine consistent.request ?_ (fun _ knows => knows.saveSubscription fresh) ?_
      · exact Store.nodup_ids_saveSubscription consistent.distinct fresh
      · intro other same
        cases same
        exact ⟨active, state.store.knows_saveSubscription subscription⟩
  | dropped subscriberId conditionId =>
      refine consistent.request ?_
        (fun _ knows => knows.deactivateSubscription subscriberId conditionId) ?_
      · rw [Store.map_id_deactivateSubscription]
        exact consistent.distinct
      · intro other same
        cases same
  | wrote write before after pending =>
      refine ⟨consistent.distinct, ?_, ?_, consistent.readings⟩
      · intro conditionId subscription member
        exact consistent.applied (by simp [pending]) member
      · intro subscription member
        exact consistent.pending subscription (mem_of_mem_rest pending member)
  | loaded =>
      refine ⟨consistent.distinct, consistent.registered, consistent.pending, ?_⟩
      intro reading member
      rcases List.mem_append.1 member with earlier | last
      · have known := consistent.readings reading earlier
        exact ⟨Nat.lt_succ_of_lt known.1, known.2⟩
      · rw [List.mem_singleton.1 last]
        refine ⟨Nat.lt_succ_self _, ?_⟩
        intro subscription inside
        exact ⟨(List.mem_filter.1 inside).2, Store.knows_of_mem_activeSubscriptions inside⟩
  | replaced number subscriptions before after underWay =>
      refine ⟨consistent.distinct, ?_, consistent.pending, ?_⟩
      · intro conditionId subscription member
        simp only at member
        rw [state.registry.activeSubscriptions_replaceSubscriptions] at member
        have inside := List.mem_filter.1 member
        have known := consistent.readings (number, subscriptions) (by simp [underWay])
        exact ⟨by simpa using inside.2, (known.2 subscription (List.mem_filter.1 inside.1).1).2⟩
      · intro reading member
        exact consistent.readings reading (mem_of_mem_rest underWay member)

theorem Consistent.run {start final : SharedSubscriptions} {events : List SubscriptionEvent}
    (consistent : start.Consistent) (run : Run start events final) : final.Consistent :=
  run.keeps Consistent consistent (fun _ _ _ _ step => step.consistent)

/-! ## A subscription that was made -/

/-- What is known of a subscription once it is stored, `number` being that of the next
synchronization to load then: it is stored as active, and all that load later find it so. -/
structure Held (subscription : Subscription) (number : Nat) (state : SharedSubscriptions) :
    Prop where
  past : number ≤ state.loads
  stored : subscription ∈ state.store.activeSubscriptions
  loaded : ∀ reading ∈ state.readings, number ≤ reading.1 → subscription ∈ reading.2

theorem Step.held {subscription : Subscription} (consistent : state.Consistent)
    (step : Step state (.saved subscription) next) : Held subscription state.loads next := by
  cases step with
  | saved subscription active fresh =>
      refine ⟨Nat.le_refl _, ?_, ?_⟩
      · simp only
        rw [state.store.activeSubscriptions_saveSubscription fresh active]
        exact List.mem_append_right _ List.mem_cons_self
      · intro reading member later
        have earlier := (consistent.readings reading member).1
        omega

theorem Held.step {subscription : Subscription} {number : Nat}
    (held : Held subscription number state) (step : Step state event next)
    (kept : event ≠ .dropped subscription.subscriberId subscription.conditionId) :
    Held subscription number next := by
  cases step with
  | saved new active fresh =>
      refine ⟨held.past, ?_, held.loaded⟩
      simp only
      rw [state.store.activeSubscriptions_saveSubscription fresh active]
      exact List.mem_append_left _ held.stored
  | dropped subscriberId conditionId =>
      refine ⟨held.past, ?_, held.loaded⟩
      simp only
      rw [state.store.activeSubscriptions_deactivateSubscription, List.mem_filter]
      refine ⟨held.stored, ?_⟩
      rw [Bool.not_eq_true', Bool.eq_false_iff]
      intro same
      rw [Bool.and_eq_true, beq_iff_eq, beq_iff_eq] at same
      rw [same.1, same.2] at kept
      exact kept rfl
  | wrote write before after pending => exact ⟨held.past, held.stored, held.loaded⟩
  | loaded =>
      refine ⟨Nat.le_succ_of_le held.past, held.stored, ?_⟩
      intro reading member later
      rcases List.mem_append.1 member with earlier | last
      · exact held.loaded reading earlier later
      · rw [List.mem_singleton.1 last]
        exact held.stored
  | replaced number subscriptions before after underWay =>
      refine ⟨held.past, held.stored, ?_⟩
      intro reading member later
      exact held.loaded reading (mem_of_mem_rest underWay member) later

/-- A subscription that is stored stays registered while it is neither given up nor replaced, but
for synchronizations that loaded before it was stored. -/
theorem Held.registered {subscription : Subscription} {number : Nat}
    (held : Held subscription number state) (step : Step state event next)
    (kept : ¬ event.GivesUp subscription.subscriberId subscription.conditionId)
    (foremost : ¬ event.Supersedes subscription) (recent : ¬ event.ReplacesBefore number)
    (consistent : state.Consistent)
    (registered : subscription ∈ state.registry.activeSubscriptions subscription.conditionId) :
    subscription ∈ next.registry.activeSubscriptions subscription.conditionId := by
  cases step with
  | saved new active fresh => exact registered
  | dropped subscriberId conditionId => exact registered
  | wrote write before after pending =>
      cases write with
      | subscribe new =>
          have active := (consistent.pending new (by simp [pending])).1
          simp only [SubscriptionWrite.apply]
          rw [state.registry.activeSubscriptions_subscribe active]
          split
          · rename_i same
            by_cases again : new = subscription
            · exact List.mem_append_right _ (List.mem_singleton.2 again.symm)
            · apply List.mem_append_left
              rw [List.mem_filter]
              refine ⟨registered, ?_⟩
              rw [Bool.not_eq_true', Bool.eq_false_iff]
              intro replaces
              exact foremost ⟨new, rfl, again, same, replaces⟩
          · exact registered
      | unsubscribe subscriberId conditionId =>
          simp only [SubscriptionWrite.apply]
          rw [state.registry.activeSubscriptions_unsubscribe, List.mem_filter]
          refine ⟨registered, ?_⟩
          rw [Bool.not_eq_true', Bool.eq_false_iff]
          intro same
          rw [Bool.and_eq_true, beq_iff_eq, beq_iff_eq] at same
          rw [same.1, same.2] at kept
          exact kept (.inr rfl)
  | loaded => exact registered
  | replaced which subscriptions before after underWay =>
      have later : number ≤ which := by
        rw [← Nat.not_lt]
        intro earlier
        exact recent ⟨which, earlier, rfl⟩
      have inside := held.loaded (which, subscriptions) (by simp [underWay]) later
      simp only
      rw [state.registry.activeSubscriptions_replaceSubscriptions, List.mem_filter,
        List.mem_filter]
      exact ⟨⟨inside, (List.mem_filter.1 held.stored).2⟩, by simp⟩

/-- Whether no active subscription of an id is registered. -/
def Unregistered (id : String) (state : SharedSubscriptions) : Prop :=
  ∀ conditionId, ∀ subscription ∈ state.registry.activeSubscriptions conditionId,
    subscription.id ≠ id

/-- What the synchronizations under way that loaded before some number did not find. -/
structure Unseen (id : String) (number : Nat) (state : SharedSubscriptions) : Prop where
  past : number ≤ state.loads
  unloaded : ∀ reading ∈ state.readings, reading.1 < number →
    ∀ subscription ∈ reading.2, subscription.id ≠ id

theorem Step.unseen {subscription : Subscription} (consistent : state.Consistent)
    (step : Step state (.saved subscription) next) : Unseen subscription.id state.loads next := by
  cases step with
  | saved subscription active fresh =>
      refine ⟨Nat.le_refl _, ?_⟩
      intro reading member earlier other inside
      rcases ((consistent.readings reading member).2 other inside).2 with
        ⟨stored, storedMember, storedId, -⟩
      rw [← storedId]
      exact fresh stored storedMember

theorem Unseen.step {id : String} {number : Nat} (unseen : Unseen id number state)
    (step : Step state event next) : Unseen id number next := by
  cases step with
  | saved subscription active fresh => exact ⟨unseen.past, unseen.unloaded⟩
  | dropped subscriberId conditionId => exact ⟨unseen.past, unseen.unloaded⟩
  | wrote write before after pending => exact ⟨unseen.past, unseen.unloaded⟩
  | loaded =>
      refine ⟨Nat.le_succ_of_le unseen.past, ?_⟩
      intro reading member earlier
      rcases List.mem_append.1 member with before | last
      · exact unseen.unloaded reading before earlier
      · rw [List.mem_singleton.1 last] at earlier
        exact absurd earlier (Nat.not_lt.2 unseen.past)
  | replaced which subscriptions before after underWay =>
      refine ⟨unseen.past, ?_⟩
      intro reading member
      exact unseen.unloaded reading (mem_of_mem_rest underWay member)

/-- A synchronization that loaded before a subscription was stored leaves it unregistered. -/
theorem Unseen.unregistered {id : String} {number : Nat} (unseen : Unseen id number state)
    (step : Step state event next) (outdated : event.ReplacesBefore number) :
    Unregistered id next := by
  rcases outdated with ⟨which, earlier, rfl⟩
  cases step with
  | replaced which subscriptions before after underWay =>
      intro conditionId subscription member
      simp only at member
      rw [state.registry.activeSubscriptions_replaceSubscriptions, List.mem_filter,
        List.mem_filter] at member
      exact unseen.unloaded (which, subscriptions) (by simp [underWay]) earlier subscription
        member.1.1

/-! ## What is no longer stored as active -/

/-- What is known of an id from when it is not stored as active, `number` being that of the next
synchronization to load then: no later one finds it active. -/
structure Gone (id : String) (number : Nat) (state : SharedSubscriptions) : Prop where
  past : number ≤ state.loads
  known : id ∈ state.store.subscriptions.map Subscription.id
  unstored : ∀ subscription ∈ state.store.activeSubscriptions, subscription.id ≠ id
  unloaded : ∀ reading ∈ state.readings, number ≤ reading.1 →
    ∀ subscription ∈ reading.2, subscription.id ≠ id

/-- Giving up a subscriber's subscriptions to a condition leaves none of them active in storage. -/
theorem Step.gone (consistent : state.Consistent) {subscription : Subscription}
    (step : Step state (.dropped subscription.subscriberId subscription.conditionId) next)
    (stored : subscription ∈ state.store.subscriptions) :
    Gone subscription.id state.loads next := by
  cases step with
  | dropped subscriberId conditionId =>
      refine ⟨Nat.le_refl _, ?_, ?_, ?_⟩
      · simp only
        rw [Store.map_id_deactivateSubscription]
        exact List.mem_map_of_mem stored
      · intro other member same
        simp only at member
        rw [state.store.activeSubscriptions_deactivateSubscription, List.mem_filter] at member
        have found : other = subscription :=
          List.inj_on_of_nodup_map consistent.distinct (List.mem_filter.1 member.1).1 stored same
        simp [found] at member
      · intro reading member later
        have earlier := (consistent.readings reading member).1
        omega

theorem Gone.step {id : String} {number : Nat} (gone : Gone id number state)
    (step : Step state event next) : Gone id number next := by
  cases step with
  | saved subscription active fresh =>
      refine ⟨gone.past, ?_, ?_, gone.unloaded⟩
      · simp only
        rw [state.store.subscriptions_saveSubscription fresh, List.map_append]
        exact List.mem_append_left _ gone.known
      · intro other member
        simp only at member
        rw [state.store.activeSubscriptions_saveSubscription fresh active] at member
        rcases List.mem_append.1 member with earlier | last
        · exact gone.unstored other earlier
        · rw [List.mem_singleton.1 last]
          intro same
          rcases List.mem_map.1 gone.known with ⟨stored, storedMember, storedId⟩
          exact fresh stored storedMember (storedId.trans same.symm)
  | dropped subscriberId conditionId =>
      refine ⟨gone.past, ?_, ?_, gone.unloaded⟩
      · simp only
        rw [Store.map_id_deactivateSubscription]
        exact gone.known
      · intro other member
        simp only at member
        rw [state.store.activeSubscriptions_deactivateSubscription] at member
        exact gone.unstored other (List.mem_filter.1 member).1
  | wrote write before after pending =>
      exact ⟨gone.past, gone.known, gone.unstored, gone.unloaded⟩
  | loaded =>
      refine ⟨Nat.le_succ_of_le gone.past, gone.known, gone.unstored, ?_⟩
      intro reading member later
      rcases List.mem_append.1 member with earlier | last
      · exact gone.unloaded reading earlier later
      · rw [List.mem_singleton.1 last]
        exact gone.unstored
  | replaced which subscriptions before after underWay =>
      refine ⟨gone.past, gone.known, gone.unstored, ?_⟩
      intro reading member
      exact gone.unloaded reading (mem_of_mem_rest underWay member)

/-- What is gone stays unregistered, but for synchronizations that loaded before and for a request
that subscribed before and registers only now. -/
theorem Gone.unregistered {id : String} {number : Nat} (gone : Gone id number state)
    (step : Step state event next) (recent : ¬ event.ReplacesBefore number)
    (past : ¬ event.Registers id) (consistent : state.Consistent)
    (unregistered : Unregistered id state) : Unregistered id next := by
  cases step with
  | saved subscription active fresh => exact unregistered
  | dropped subscriberId conditionId => exact unregistered
  | wrote write before after pending =>
      intro conditionId subscription member
      cases write with
      | subscribe new =>
          have active := (consistent.pending new (by simp [pending])).1
          simp only [SubscriptionWrite.apply] at member
          rw [state.registry.activeSubscriptions_subscribe active] at member
          split at member
          · rcases List.mem_append.1 member with earlier | last
            · exact unregistered conditionId subscription (List.mem_filter.1 earlier).1
            · rw [List.mem_singleton.1 last]
              intro same
              exact past ⟨new, rfl, same⟩
          · exact unregistered conditionId subscription member
      | unsubscribe subscriberId givenUp =>
          simp only [SubscriptionWrite.apply] at member
          rw [state.registry.activeSubscriptions_unsubscribe] at member
          exact unregistered conditionId subscription (List.mem_filter.1 member).1
  | loaded => exact unregistered
  | replaced which subscriptions before after underWay =>
      intro conditionId subscription member
      have later : number ≤ which := by
        rw [← Nat.not_lt]
        intro earlier
        exact recent ⟨which, earlier, rfl⟩
      simp only at member
      rw [state.registry.activeSubscriptions_replaceSubscriptions, List.mem_filter,
        List.mem_filter] at member
      exact gone.unloaded (which, subscriptions) (by simp [underWay]) later subscription
        member.1.1

/-- Once the request that gave it up has changed the registry, a subscription that was stored before
is not registered. -/
theorem Consistent.unregistered (consistent : state.Consistent) {subscription : Subscription}
    (step : Step state
      (.wrote (.unsubscribe subscription.subscriberId subscription.conditionId)) next)
    (known : state.store.Knows subscription) : Unregistered subscription.id next := by
  cases step with
  | wrote write before after pending =>
      intro other registered member same
      simp only [SubscriptionWrite.apply] at member
      rw [state.registry.activeSubscriptions_unsubscribe, List.mem_filter] at member
      rcases consistent.registered other registered member.1 with ⟨otherCondition, otherKnown⟩
      have owner := otherKnown.owner consistent.distinct known same
      simp [owner, ← otherCondition] at member

theorem knows_of_run {start final : SharedSubscriptions} {events : List SubscriptionEvent}
    {subscription : Subscription} (run : Run start events final)
    (known : start.store.Knows subscription) : final.store.Knows subscription := by
  refine run.keeps (fun state => state.store.Knows subscription) known ?_
  intro event member state next step knows
  cases step with
  | saved new active fresh => exact knows.saveSubscription fresh
  | dropped subscriberId conditionId =>
      exact knows.deactivateSubscription subscriberId conditionId
  | wrote write before after pending => exact knows
  | loaded => exact knows
  | replaced number subscriptions before after underWay => exact knows

/-! ## Whole requests -/

section Requests

variable {asked changed writing acked final : SharedSubscriptions}
  {between later : List SubscriptionEvent}

theorem stays_registered {subscription : Subscription} (consistent : asked.Consistent)
    (saving : Step asked (.saved subscription) changed) (working : Run changed between writing)
    (writes : Step writing (.wrote (.subscribe subscription)) acked) (rest : Run acked later final)
    (keptBetween : ∀ event ∈ between,
      event ≠ .dropped subscription.subscriberId subscription.conditionId)
    (keptLater : ∀ event ∈ later,
      ¬ event.GivesUp subscription.subscriberId subscription.conditionId ∧
        ¬ event.Supersedes subscription ∧ ¬ event.ReplacesBefore asked.loads) :
    subscription ∈ final.registry.activeSubscriptions subscription.conditionId := by
  have held : Held subscription asked.loads writing :=
    working.keeps (Held subscription asked.loads) (saving.held consistent)
      (fun event member _ _ step held => held.step step (keptBetween event member))
  have writingConsistent := (saving.consistent consistent).run working
  have registered :
      subscription ∈ acked.registry.activeSubscriptions subscription.conditionId := by
    have active : subscription.active = true := (List.mem_filter.1 held.stored).2
    cases writes with
    | wrote write before after pending =>
        simp only [SubscriptionWrite.apply]
        rw [writing.registry.activeSubscriptions_subscribe active, if_pos rfl]
        exact List.mem_append_right _ List.mem_cons_self
  have all := rest.keeps
    (fun state => state.Consistent ∧ Held subscription asked.loads state ∧
      subscription ∈ state.registry.activeSubscriptions subscription.conditionId)
    ⟨writes.consistent writingConsistent, held.step writes (fun same => by cases same), registered⟩
  refine (all ?_).2.2
  intro event member state next step ⟨consistent, held, registered⟩
  rcases keptLater event member with ⟨kept, foremost, recent⟩
  refine ⟨step.consistent consistent, held.step step (fun same => kept (.inl same)), ?_⟩
  exact held.registered step kept foremost recent consistent registered

theorem left_unregistered {subscription : Subscription} (consistent : asked.Consistent)
    (saving : Step asked (.saved subscription) changed) (working : Run changed between writing)
    (writes : Step writing (.wrote (.subscribe subscription)) acked) (rest : Run acked later final)
    {outdated : SubscriptionEvent} (early : outdated.ReplacesBefore asked.loads)
    {undone : SharedSubscriptions} (replaces : Step final outdated undone) :
    Unregistered subscription.id undone := by
  have unseenWriting : Unseen subscription.id asked.loads writing :=
    working.keeps (Unseen subscription.id asked.loads) (saving.unseen consistent)
      (fun _ _ _ _ step unseen => unseen.step step)
  have unseen : Unseen subscription.id asked.loads final :=
    rest.keeps (Unseen subscription.id asked.loads) (unseenWriting.step writes)
      (fun _ _ _ _ step unseen => unseen.step step)
  exact unseen.unregistered replaces early

theorem stays_unregistered {subscription : Subscription} (consistent : asked.Consistent)
    (dropping : Step asked (.dropped subscription.subscriberId subscription.conditionId) changed)
    (working : Run changed between writing)
    (writes : Step writing
      (.wrote (.unsubscribe subscription.subscriberId subscription.conditionId)) acked)
    (rest : Run acked later final) (stored : subscription ∈ asked.store.subscriptions)
    (kept : ∀ event ∈ later, ¬ event.ReplacesBefore asked.loads ∧
      ¬ event.Registers subscription.id) :
    Unregistered subscription.id final := by
  have goneWriting : Gone subscription.id asked.loads writing :=
    working.keeps (Gone subscription.id asked.loads) (dropping.gone consistent stored)
      (fun _ _ _ _ step gone => gone.step step)
  have writingConsistent := (dropping.consistent consistent).run working
  have known : writing.store.Knows subscription :=
    knows_of_run working (knows_of_run (.single dropping) ⟨subscription, stored, rfl, rfl, rfl⟩)
  have all := rest.keeps
    (fun state => state.Consistent ∧ Gone subscription.id asked.loads state ∧
      Unregistered subscription.id state)
    ⟨writes.consistent writingConsistent, goneWriting.step writes,
      writingConsistent.unregistered writes known⟩
  refine (all ?_).2.2
  intro event member state next step ⟨consistent, gone, unregistered⟩
  rcases kept event member with ⟨recent, past⟩
  exact ⟨step.consistent consistent, gone.step step,
    gone.unregistered step recent past consistent unregistered⟩

end Requests

/-- After a start from storage, a subscription that was acknowledged stays registered until it is
given up or replaced, and one that was given up stays unregistered, but for synchronizations that
loaded before the request changed storage; each of these leaves a new subscription unregistered. A
subscription that is given up must not be on its way to the registry still. -/
theorem undone_by_earlier_loads_only {start asked : SharedSubscriptions}
    {earlier : List SubscriptionEvent}
    (distinct : (start.store.subscriptions.map Subscription.id).Nodup)
    (unregistered : start.registry.subscriptions = Table.empty) (pending : start.pending = [])
    (readings : start.readings = []) (reached : Run start earlier asked) :
    (∀ subscription changed between writing acked later final,
      Step asked (.saved subscription) changed → Run changed between writing →
      Step writing (.wrote (.subscribe subscription)) acked → Run acked later final →
      ((∀ event ∈ between,
          event ≠ .dropped subscription.subscriberId subscription.conditionId) →
        (∀ event ∈ later, ¬ event.GivesUp subscription.subscriberId subscription.conditionId ∧
          ¬ event.Supersedes subscription ∧ ¬ event.ReplacesBefore asked.loads) →
        subscription ∈ final.registry.activeSubscriptions subscription.conditionId) ∧
      ∀ outdated undone, outdated.ReplacesBefore asked.loads → Step final outdated undone →
        Unregistered subscription.id undone) ∧
    (∀ subscription ∈ asked.store.subscriptions, ∀ changed between writing acked later final,
      Step asked (.dropped subscription.subscriberId subscription.conditionId) changed →
      Run changed between writing →
      Step writing (.wrote (.unsubscribe subscription.subscriberId subscription.conditionId))
        acked →
      Run acked later final →
      (∀ event ∈ later, ¬ event.ReplacesBefore asked.loads ∧
        ¬ event.Registers subscription.id) →
      Unregistered subscription.id final) := by
  have consistent : asked.Consistent :=
    (Consistent.of_unregistered distinct unregistered pending readings).run reached
  constructor
  · intro subscription changed between writing acked later final saving working writes rest
    constructor
    · exact stays_registered consistent saving working writes rest
    · intro outdated undone early replaces
      exact left_unregistered consistent saving working writes rest early replaces
  · intro subscription stored changed between writing acked later final dropping working writes rest
    exact stays_unregistered consistent dropping working writes rest stored

/-! A subscription that is made, and one that is given up, while a synchronization is between its
two steps. -/

def inAppSubscription : Subscription :=
  { id := "s1", subscriberId := "u1", conditionId := "a1", recipient := .inApp "u1", active := true
    lastTriggeredAt := none }

theorem save_inApp (state : SharedSubscriptions) (empty : state.store.subscriptions = []) :
    Step state (.saved inAppSubscription)
      { state with
        store := state.store.saveSubscription inAppSubscription
        pending := state.pending ++ [.subscribe inAppSubscription] } := by
  refine Step.saved state inAppSubscription rfl ?_
  rw [empty]
  intro other member
  cases member

theorem outdated_load_undoes_both :
    (∃ final, Run {}
        [.loaded, .saved inAppSubscription, .wrote (.subscribe inAppSubscription), .replaced 0]
        final ∧
      final.store.activeSubscriptions = [inAppSubscription] ∧
      final.registry.activeSubscriptions "a1" = []) ∧
    (∃ final, Run {}
        [.saved inAppSubscription, .wrote (.subscribe inAppSubscription), .loaded,
          .dropped "u1" "a1", .wrote (.unsubscribe "u1" "a1"), .replaced 0] final ∧
      final.store.activeSubscriptions = [] ∧
      final.registry.activeSubscriptions "a1" = [inAppSubscription]) := by
  constructor
  · have loading : Run {} _ _ := .single (Step.loaded {})
    have saving := loading.snoc (save_inApp _ rfl)
    have writing := saving.snoc (Step.wrote _ _ [] [] rfl)
    exact ⟨_, writing.snoc (Step.replaced _ 0 [] [] [] rfl), by decide +kernel, by decide +kernel⟩
  · have saving : Run {} _ _ := .single (save_inApp {} rfl)
    have writing := saving.snoc (Step.wrote _ _ [] [] rfl)
    have loading := writing.snoc (Step.loaded _)
    have dropping := loading.snoc (Step.dropped _ "u1" "a1")
    have givingUp := dropping.snoc (Step.wrote _ (.unsubscribe "u1" "a1") [] [] rfl)
    exact ⟨_, givingUp.snoc (Step.replaced _ 0 [inAppSubscription] [] [] rfl), by decide +kernel,
      by decide +kernel⟩

theorem later_load_keeps :
    ∃ changed writing acked final, Step {} (.saved inAppSubscription) changed ∧
      Run changed [.loaded] writing ∧
      Step writing (.wrote (.subscribe inAppSubscription)) acked ∧
      Run acked [.replaced 0] final ∧
      inAppSubscription ∈ final.registry.activeSubscriptions "a1" := by
  have saving := save_inApp {} rfl
  have loading : Run _ _ _ := .single (Step.loaded
    { store := ({} : Store).saveSubscription inAppSubscription
      pending := [.subscribe inAppSubscription] })
  have writes := Step.wrote
    { store := ({} : Store).saveSubscription inAppSubscription
      pending := [.subscribe inAppSubscription], readings := [(0, [inAppSubscription])]
      loads := 1 }
    (.subscribe inAppSubscription) [] [] rfl
  have replacing : Run _ _ _ := .single (Step.replaced
    { registry := ({} : Registry).subscribe inAppSubscription
      store := ({} : Store).saveSubscription inAppSubscription
      readings := [(0, [inAppSubscription])], loads := 1 } 0 [inAppSubscription] [] [] rfl)
  have kept := @undone_by_earlier_loads_only {} {} [] List.nodup_nil rfl rfl rfl .nil
  refine ⟨_, _, _, _, saving, loading, writes, replacing, ?_⟩
  refine (kept.1 inAppSubscription _ _ _ _ _ _ saving loading writes replacing).1 ?_ ?_
  · intro event member
    rw [List.mem_singleton.1 member]
    intro same
    cases same
  · intro event member
    rw [List.mem_singleton.1 member]
    refine ⟨?_, ?_, ?_⟩
    · rintro (same | same)
      · cases same
      · cases same
    · rintro ⟨other, same, -⟩
      cases same
    · rintro ⟨number, below, -⟩
      exact Nat.not_lt_zero number below

end SharedSubscriptions

end CandleAlerts
