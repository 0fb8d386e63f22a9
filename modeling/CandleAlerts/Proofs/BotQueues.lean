import CandleAlerts.Proofs.RoutedEvents

/-!
The queues of bots under repeated delivery.

Payloads reach the router in any order and as often as the broker likes, and not all of them are
events. Whatever comes, a bot has each event it is a target of queued exactly once, and what is
queued does not depend on the order of the payloads.
-/

namespace CandleAlerts

/-- The entries that a payload asks for: its event for each target, a target as often as it is
named. -/
def TriggerEvent.askedBy (payload : String) : List (String × TriggerEvent) :=
  match TriggerEvent.parse? payload with
  | some event => event.botTargets.map (·, event)
  | none => []

theorem TriggerEvent.mem_askedBy {payload : String} {entry : String × TriggerEvent} :
    entry ∈ askedBy payload ↔
      parse? payload = some entry.2 ∧ entry.1 ∈ entry.2.botTargets := by
  rcases entry with ⟨bot, event⟩
  unfold askedBy
  cases read : parse? payload with
  | none => simp
  | some sent =>
      simp only [List.mem_map, Prod.mk.injEq, Option.some.injEq]
      constructor
      · rintro ⟨target, listed, rfl, rfl⟩
        exact ⟨rfl, listed⟩
      · rintro ⟨rfl, listed⟩
        exact ⟨bot, listed, rfl, rfl⟩

/-- What tells the entries of the queue apart: the bot and the id of the event. -/
def queueKey (entry : String × TriggerEvent) : String × String := (entry.1, entry.2.eventId)

namespace Store

def queueKeys (store : Store) : List (String × String) := store.botQueue.map queueKey

theorem isQueued_iff (store : Store) (bot eventId : String) :
    store.isQueued bot eventId = true ↔ (bot, eventId) ∈ store.queueKeys := by
  simp [isQueued, queueKeys, queueKey]

/-! ## One step -/

/-- Storage after entries were asked for: the keys stay distinct, those of the entries are added,
and nothing is queued but what was asked for. -/
structure Serves (asked : List (String × TriggerEvent)) (before after : Store) : Prop where
  distinct : before.queueKeys.Nodup → after.queueKeys.Nodup
  keys : ∀ key, key ∈ after.queueKeys ↔ key ∈ before.queueKeys ∨ key ∈ asked.map queueKey
  entries : ∀ entry ∈ after.botQueue, entry ∈ before.botQueue ∨ entry ∈ asked

theorem Serves.refl (store : Store) : Serves [] store store where
  distinct := id
  keys _ := by simp
  entries _ listed := .inl listed

theorem Serves.trans {asked more : List (String × TriggerEvent)} {first second third : Store}
    (left : Serves asked first second) (right : Serves more second third) :
    Serves (asked ++ more) first third where
  distinct before := right.distinct (left.distinct before)
  keys key := by
    rw [right.keys, left.keys, List.map_append, List.mem_append, or_assoc]
  entries entry listed := by
    rcases right.entries entry listed with earlier | asked
    · rcases left.entries entry earlier with before | asked
      · exact .inl before
      · exact .inr (List.mem_append_left _ asked)
    · exact .inr (List.mem_append_right _ asked)

/-- An entry is queued unless its key is: the answer tells by how much the queue grew. -/
theorem enqueueBot_serves (store : Store) (bot : String) (event : TriggerEvent) :
    Serves [(bot, event)] store (store.enqueueBot bot event).2 ∧
      (store.enqueueBot bot event).2.botQueue.length =
        store.botQueue.length + (store.enqueueBot bot event).1.toNat := by
  cases queued : store.isQueued bot event.eventId with
  | true =>
      have listed : queueKey (bot, event) ∈ store.queueKeys := (store.isQueued_iff _ _).1 queued
      rw [enqueueBot_of_isQueued queued]
      refine ⟨⟨id, ?_, fun _ listed => .inl listed⟩, rfl⟩
      intro key
      rw [List.map_singleton, List.mem_singleton]
      exact ⟨.inl, fun held => held.elim id (fun same => same ▸ listed)⟩
  | false =>
      have fresh : queueKey (bot, event) ∉ store.queueKeys := by
        intro listed
        rw [(store.isQueued_iff _ _).2 listed] at queued
        cases queued
      rw [enqueueBot_of_not_isQueued queued]
      refine ⟨⟨?_, ?_, ?_⟩, by simp⟩
      · intro distinct
        rw [queueKeys, List.map_append, List.map_singleton]
        exact distinct.append (List.nodup_singleton _) (by simpa using fresh)
      · intro key
        simp [queueKeys]
      · intro entry listed
        exact List.mem_append.1 listed

/-! ## Many entries -/

/-- Queue entries one after the other. -/
def enqueueAll (store : Store) (asked : List (String × TriggerEvent)) : Store :=
  asked.foldl (fun store entry => (store.enqueueBot entry.1 entry.2).2) store

theorem enqueueAll_append (store : Store) (asked more : List (String × TriggerEvent)) :
    store.enqueueAll (asked ++ more) = (store.enqueueAll asked).enqueueAll more :=
  List.foldl_append

theorem enqueueAll_serves (asked : List (String × TriggerEvent)) (store : Store) :
    store.Serves asked (store.enqueueAll asked) := by
  induction asked generalizing store with
  | nil => exact .refl store
  | cons entry rest induction =>
      exact (store.enqueueBot_serves entry.1 entry.2).1.trans (induction _)

end Store

/-! ## The keys beside the queue -/

/-- A queue with the set of its keys beside it, which tells whether an entry is new without a search
of the queue. -/
structure KeyedQueue where
  keys : List (String × String) := []
  entries : List (String × TriggerEvent) := []

namespace KeyedQueue

def enqueue (queue : KeyedQueue) (entry : String × TriggerEvent) : Bool × KeyedQueue :=
  if queueKey entry ∈ queue.keys then (false, queue)
  else (true, { keys := queueKey entry :: queue.keys, entries := queue.entries ++ [entry] })

def enqueueAll (queue : KeyedQueue) (asked : List (String × TriggerEvent)) : KeyedQueue :=
  asked.foldl (fun queue entry => (queue.enqueue entry).2) queue

/-- Whether a queue holds what is stored, and its keys are just those of its entries. -/
structure Keeps (queue : KeyedQueue) (store : Store) : Prop where
  entries : queue.entries = store.botQueue
  keys : ∀ key, key ∈ queue.keys ↔ key ∈ store.queueKeys

/-- The set of the keys and a search of the queue give the same answer, and go on to. -/
theorem Keeps.enqueue {queue : KeyedQueue} {store : Store} (keeps : queue.Keeps store)
    (bot : String) (event : TriggerEvent) :
    (queue.enqueue (bot, event)).1 = (store.enqueueBot bot event).1 ∧
      (queue.enqueue (bot, event)).2.Keeps (store.enqueueBot bot event).2 := by
  have found : queueKey (bot, event) ∈ queue.keys ↔
      store.isQueued bot event.eventId = true := by
    rw [keeps.keys, store.isQueued_iff]
    rfl
  cases queued : store.isQueued bot event.eventId with
  | true =>
      rw [Store.enqueueBot_of_isQueued queued, KeyedQueue.enqueue, if_pos (found.2 queued)]
      exact ⟨rfl, keeps⟩
  | false =>
      have fresh : queueKey (bot, event) ∉ queue.keys := by simp [found, queued]
      rw [Store.enqueueBot_of_not_isQueued queued, KeyedQueue.enqueue, if_neg fresh]
      refine ⟨rfl, congrArg (· ++ [(bot, event)]) keeps.entries, ?_⟩
      intro key
      rw [List.mem_cons, keeps.keys, or_comm]
      simp [Store.queueKeys]

theorem Keeps.enqueueAll {queue : KeyedQueue} {store : Store} (keeps : queue.Keeps store)
    (asked : List (String × TriggerEvent)) :
    (queue.enqueueAll asked).Keeps (store.enqueueAll asked) := by
  induction asked generalizing queue store with
  | nil => exact keeps
  | cons entry rest induction => exact induction (keeps.enqueue entry.1 entry.2).2

theorem Keeps.of_empty {store : Store} (empty : store.botQueue = []) :
    KeyedQueue.Keeps {} store where
  entries := empty.symm
  keys key := by simp [Store.queueKeys, empty]

end KeyedQueue

namespace Services

/-! ## The router -/

/-- Queueing for bots goes through all of them, and counts by how much the queue grows. -/
theorem queueForBots_eq (event : TriggerEvent) (bots : List String) (queued : Nat)
    (services : Services) (working : services.works .enqueueBotTrigger = true) :
    let result := queueForBots event queued services bots
    result.2.works .enqueueBotTrigger = true ∧
      result.2.store = services.store.enqueueAll (bots.map (·, event)) ∧
      ∃ count, result.1 = some (queued + count) ∧
        result.2.store.botQueue.length = services.store.botQueue.length + count := by
  induction bots generalizing queued services with
  | nil => exact ⟨working, rfl, 0, rfl, rfl⟩
  | cons bot rest induction =>
      have grown := (services.store.enqueueBot_serves bot event).2
      have later : services.store.enqueueAll ((bot :: rest).map (·, event)) =
          (services.store.enqueueBot bot event).2.enqueueAll (rest.map (·, event)) := rfl
      rw [queueForBots, if_pos working, later]
      generalize services.store.enqueueBot bot event = answer at grown
      rcases answer with ⟨isNew, store⟩
      cases isNew with
      | true =>
          obtain ⟨stillWorking, stored, count, counted, longer⟩ := induction (queued + 1)
            (Services.count { services with store } .botTriggersQueued 1) working
          have oneMore : store.botQueue.length = services.store.botQueue.length + 1 := grown
          refine ⟨stillWorking, stored, 1 + count, ?_, ?_⟩
          · rw [← Nat.add_assoc]
            exact counted
          · rw [← Nat.add_assoc, ← oneMore]
            exact longer
      | false =>
          obtain ⟨stillWorking, stored, count, counted, longer⟩ := induction queued
            { services with store } working
          have sameLength : store.botQueue.length = services.store.botQueue.length := grown
          exact ⟨stillWorking, stored, count, counted, sameLength ▸ longer⟩

/-- What routing the event of a payload answers; a payload that is no event has nothing queued. -/
def routed? (services : Services) (payload : String) : Option Nat :=
  match TriggerEvent.parse? payload with
  | some event => (services.route event).1
  | none => some 0

def routeAll (services : Services) (payloads : List String) : Services :=
  payloads.foldl routePayload services

/-- The sum of what routing answers along a run, unless it fails. -/
def routedAll? (services : Services) : List String → Option Nat
  | [] => some 0
  | payload :: rest => do
      return (← services.routed? payload) + (← (services.routePayload payload).routedAll? rest)

/-- A payload has its entries queued. -/
theorem routePayload_eq {services : Services}
    (working : services.works .enqueueBotTrigger = true) (payload : String) :
    (services.routePayload payload).works .enqueueBotTrigger = true ∧
      (services.routePayload payload).store =
        services.store.enqueueAll (TriggerEvent.askedBy payload) ∧
      ∃ count, services.routed? payload = some count ∧
        (services.routePayload payload).store.botQueue.length =
          services.store.botQueue.length + count := by
  unfold routePayload routed? TriggerEvent.askedBy
  cases TriggerEvent.parse? payload with
  | none => exact ⟨working, rfl, 0, rfl, rfl⟩
  | some event =>
      obtain ⟨stillWorking, stored, count, counted, grown⟩ :=
        queueForBots_eq event event.botTargets 0 services working
      rw [Nat.zero_add] at counted
      exact ⟨stillWorking, stored, count, counted, grown⟩

theorem routeAll_eq {services : Services}
    (working : services.works .enqueueBotTrigger = true) (payloads : List String) :
    (services.routeAll payloads).store =
        services.store.enqueueAll (payloads.flatMap TriggerEvent.askedBy) ∧
      ∃ count, services.routedAll? payloads = some count ∧
        (services.routeAll payloads).store.botQueue.length =
          services.store.botQueue.length + count := by
  induction payloads generalizing services with
  | nil => exact ⟨rfl, 0, rfl, rfl⟩
  | cons payload rest induction =>
      obtain ⟨stillWorking, stored, count, counted, grown⟩ := routePayload_eq working payload
      obtain ⟨later, more, restCounted, longer⟩ := induction stillWorking
      refine ⟨?_, count + more, ?_, ?_⟩
      · rw [List.flatMap_cons, Store.enqueueAll_append, ← stored]
        exact later
      · rw [routedAll?, counted, restCounted]
        rfl
      · rw [← Nat.add_assoc, ← grown]
        exact longer

/-- Whatever payloads the router is given, and in whatever order and however often: no bot has two
entries of one event, a bot has an entry of an event exactly when a payload is read as an event of
this id with the bot among its targets, and every entry is such an event. The queue is that of all
the entries asked for, told apart by a set of keys. Its keys do not depend on the order of the
payloads, and routing counts each entry once. -/
theorem queued_exactly_once (services : Services)
    (working : services.works .enqueueBotTrigger = true) (empty : services.store.botQueue = [])
    (payloads : List String) :
    let queue := (services.routeAll payloads).store.botQueue
    (queue.map queueKey).Nodup ∧
      (∀ bot eventId, (∃ entry ∈ queue, entry.1 = bot ∧ entry.2.eventId = eventId) ↔
        ∃ payload ∈ payloads, ∃ event, TriggerEvent.parse? payload = some event ∧
          event.eventId = eventId ∧ bot ∈ event.botTargets) ∧
      (∀ entry ∈ queue, ∃ payload ∈ payloads,
        TriggerEvent.parse? payload = some entry.2 ∧ entry.1 ∈ entry.2.botTargets) ∧
      KeyedQueue.Keeps (KeyedQueue.enqueueAll {} (payloads.flatMap TriggerEvent.askedBy))
        (services.routeAll payloads).store ∧
      (∀ reordered : List String, payloads.Perm reordered →
        (queue.map queueKey).Perm ((services.routeAll reordered).store.botQueue.map queueKey)) ∧
      services.routedAll? payloads = some queue.length := by
  intro queue
  have noKeys : services.store.queueKeys = [] := by
    rw [Store.queueKeys, empty]
    rfl
  have serves (payloads : List String) :
      services.store.Serves (payloads.flatMap TriggerEvent.askedBy)
        (services.routeAll payloads).store :=
    (routeAll_eq working payloads).1 ▸ Store.enqueueAll_serves _ _
  have distinct (payloads : List String) :
      ((services.routeAll payloads).store.botQueue.map queueKey).Nodup :=
    (serves payloads).distinct (noKeys ▸ List.nodup_nil)
  have keys (payloads : List String) (key : String × String) :
      key ∈ (services.routeAll payloads).store.botQueue.map queueKey ↔
        ∃ payload ∈ payloads, ∃ entry ∈ TriggerEvent.askedBy payload, queueKey entry = key := by
    refine ((serves payloads).keys key).trans ?_
    simp only [noKeys, List.not_mem_nil, false_or, List.mem_map, List.mem_flatMap]
    exact ⟨fun ⟨entry, ⟨payload, listed, asked⟩, same⟩ => ⟨payload, listed, entry, asked, same⟩,
      fun ⟨payload, listed, entry, asked, same⟩ => ⟨entry, ⟨payload, listed, asked⟩, same⟩⟩
  obtain ⟨stored, count, counted, grown⟩ := routeAll_eq working payloads
  refine ⟨distinct payloads, ?_, ?_, ?_, ?_, ?_⟩
  · intro bot eventId
    have asked := keys payloads (bot, eventId)
    simp only [List.mem_map, queueKey, Prod.mk.injEq] at asked
    rw [asked]
    constructor
    · rintro ⟨payload, listed, ⟨target, event⟩, among, rfl, rfl⟩
      obtain ⟨read, isTarget⟩ := TriggerEvent.mem_askedBy.1 among
      exact ⟨payload, listed, event, read, rfl, isTarget⟩
    · rintro ⟨payload, listed, event, read, rfl, isTarget⟩
      exact ⟨payload, listed, (bot, event), TriggerEvent.mem_askedBy.2 ⟨read, isTarget⟩, rfl, rfl⟩
  · intro entry queued
    rcases (serves payloads).entries entry queued with before | asked
    · rw [empty] at before
      cases before
    · obtain ⟨payload, listed, among⟩ := List.mem_flatMap.1 asked
      exact ⟨payload, listed, TriggerEvent.mem_askedBy.1 among⟩
  · rw [stored]
    exact (KeyedQueue.Keeps.of_empty empty).enqueueAll _
  · intro reordered same
    refine (List.perm_ext_iff_of_nodup (distinct payloads) (distinct reordered)).2 ?_
    intro key
    rw [keys payloads key, keys reordered key]
    simp only [same.mem_iff]
  · rw [counted, grown, empty, List.length_nil, Nat.zero_add]

/-! An event delivered twice, as an array of its fields, with other texts in between. It names a bot
twice. -/

def repeatedPayload : String :=
  "[\"a1:3600\",\"a1\",\"a1\",\"\",\"BTC\",\"1h\",\"2023-11-14T22:13:20Z\",3600,[5,5,6,4,1],[],[]," ++
    "[\"b2\",\"b1\",\"b2\"],null]"

def repeatedPayloads : List String := [repeatedPayload, "not json", repeatedPayload]

theorem two_bots_queued_once :
    (Fired.services.routeAll repeatedPayloads).store.queueKeys.Nodup ∧
      (∃ entry ∈ (Fired.services.routeAll repeatedPayloads).store.botQueue,
        entry.1 = "b1" ∧ entry.2.eventId = "a1:3600") ∧
      Fired.services.routedAll? repeatedPayloads = some 2 := by
  obtain ⟨distinct, queued, -, -, -, counted⟩ := queued_exactly_once
    Fired.services rfl rfl repeatedPayloads
  have read : (TriggerEvent.parse? repeatedPayload).any (fun event =>
      event.eventId == "a1:3600" && event.botTargets.contains "b1") = true := by decide +kernel
  obtain ⟨event, isRead, holds⟩ := (Option.any_eq_true _ _).1 read
  rw [Bool.and_eq_true, beq_iff_eq, List.contains_iff_mem] at holds
  have length : (Fired.services.routeAll repeatedPayloads).store.botQueue.length = 2 := by
    decide +kernel
  rw [length] at counted
  exact ⟨distinct,
    (queued "b1" "a1:3600").2 ⟨_, List.mem_cons_self, event, isRead, holds.1, holds.2⟩, counted⟩

end Services

end CandleAlerts
