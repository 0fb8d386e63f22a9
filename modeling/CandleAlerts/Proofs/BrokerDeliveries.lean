import CandleAlerts.Broker.Channel
import Mathlib.Data.List.Basic

/-!
What reaches the subscribers of the broker.

A reception is a loop of looks at the channel, and between two looks of one subscriber anything may
happen: messages are published, others subscribe and receive, the broker goes away. Every message
published is numbered by its place in the stream, and each look takes a subscriber from one place to a
later one. On the way it is given at most the last message passed, and of the messages its pattern
selects it misses only those that the channel no longer keeps.
-/

namespace CandleAlerts

namespace Channel

/-! ## One look at the channel -/

/-- One round of a reception; `none` when there has to be another. A receiver that fell behind what is
kept moves up to the oldest, and a message that the pattern does not select is passed over. -/
def look (channel : Channel) (receiver : Receiver) : Option Received × Receiver :=
  if receiver.place < channel.oldest then (none, { receiver with place := channel.oldest })
  else match channel.kept[receiver.place - channel.oldest]? with
    | some message =>
        (if receiver.pattern.selects message.topic then some (.message message) else none,
          { receiver with place := receiver.place + 1 })
    | none => (some (if channel.isOpen then .empty else .closed), receiver)

/-- Of all messages published so far the channel keeps the latest, up to its capacity. -/
structure Keeps (channel : Channel) (stream : List Message) : Prop where
  published : channel.published = stream.length
  kept : channel.kept = stream.drop (stream.length - channel.capacity)

namespace Keeps

variable {channel : Channel} {stream : List Message}

theorem oldest (keeps : channel.Keeps stream) :
    channel.oldest = stream.length - channel.capacity := by
  rw [Channel.oldest, keeps.published, keeps.kept, List.length_drop]
  omega

theorem publish (keeps : channel.Keeps stream) (message : Message) :
    (channel.publish message).Keeps (stream ++ [message]) := by
  refine ⟨?_, ?_⟩
  · simp [Channel.publish, keeps.published]
  · have behind : stream.length - channel.capacity ≤ stream.length := Nat.sub_le _ _
    simp only [Channel.publish, keeps.kept, ← List.drop_append_of_le_length behind, List.drop_drop,
      List.length_drop, List.length_append, List.length_singleton]
    congr 1
    omega

/-- What is kept from a place on is what was published from there on. -/
theorem kept_drop (keeps : channel.Keeps stream) {place : Nat} (within : channel.oldest ≤ place) :
    channel.kept.drop (place - channel.oldest) = stream.drop place := by
  rw [keeps.kept, List.drop_drop, ← keeps.oldest, Nat.add_sub_of_le within]

theorem kept_getElem? (keeps : channel.Keeps stream) {place : Nat}
    (within : channel.oldest ≤ place) :
    channel.kept[place - channel.oldest]? = stream[place]? := by
  have first := congrArg List.head? (keeps.kept_drop within)
  simpa only [List.head?_drop] using first

end Keeps

theorem look_of_behind (channel : Channel) {receiver : Receiver}
    (behind : receiver.place < channel.oldest) :
    channel.look receiver = (none, { receiver with place := channel.oldest }) := by
  rw [look, if_pos behind]

section Reached

variable {channel : Channel} {stream : List Message} (keeps : channel.Keeps stream)
  {receiver : Receiver} (reached : channel.oldest ≤ receiver.place)

include keeps reached

theorem look_of_next {message : Message} (next : stream[receiver.place]? = some message) :
    channel.look receiver =
      (if receiver.pattern.selects message.topic then some (.message message) else none,
        { receiver with place := receiver.place + 1 }) := by
  rw [look, if_neg (Nat.not_lt.2 reached), keeps.kept_getElem? reached, next]

theorem look_of_end (next : stream[receiver.place]? = none) :
    channel.look receiver = (some (if channel.isOpen then .empty else .closed), receiver) := by
  rw [look, if_neg (Nat.not_lt.2 reached), keeps.kept_getElem? reached, next]

theorem receive_of_next {message : Message} (next : stream[receiver.place]? = some message) :
    channel.receive receiver =
      if receiver.pattern.selects message.topic then
        (.message message, { receiver with place := receiver.place + 1 })
      else channel.receive { receiver with place := receiver.place + 1 } := by
  obtain ⟨inside, here⟩ := List.getElem?_eq_some_iff.1 next
  have rest : stream.drop receiver.place = message :: stream.drop (receiver.place + 1) := by
    rw [← here, List.drop_eq_getElem_cons inside]
  have later : channel.oldest ≤ receiver.place + 1 := Nat.le_succ_of_le reached
  unfold receive
  simp only [Nat.max_eq_left reached, Nat.max_eq_left later, keeps.kept_drop reached,
    keeps.kept_drop later, rest, nextSelected]
  cases receiver.pattern.selects message.topic <;> rfl

theorem receive_of_end (next : stream[receiver.place]? = none)
    (within : receiver.place ≤ stream.length) :
    channel.receive receiver = (if channel.isOpen then .empty else .closed, receiver) := by
  have beyond := List.getElem?_eq_none_iff.1 next
  have passed : channel.published = receiver.place := keeps.published.trans (by omega)
  unfold receive
  simp only [Nat.max_eq_left reached, keeps.kept_drop reached, List.drop_of_length_le beyond,
    nextSelected, passed]

end Reached

/-! ## Whole receptions -/

/-- A reception is one look after the other until there is an answer. -/
theorem receive_eq_look {channel : Channel} {stream : List Message}
    (keeps : channel.Keeps stream) {receiver : Receiver}
    (within : receiver.place ≤ stream.length) :
    channel.receive receiver =
      match channel.look receiver with
      | (some received, next) => (received, next)
      | (none, next) => channel.receive next := by
  by_cases behind : receiver.place < channel.oldest
  · rw [channel.look_of_behind behind]
    unfold receive
    simp only [Nat.max_eq_right (Nat.le_of_lt behind), Nat.max_self]
  · have reached : channel.oldest ≤ receiver.place := Nat.le_of_not_lt behind
    cases next : stream[receiver.place]? with
    | none => rw [look_of_end keeps reached next, receive_of_end keeps reached next within]
    | some message =>
        rw [look_of_next keeps reached next, receive_of_next keeps reached next]
        cases receiver.pattern.selects message.topic <;> rfl

end Channel

/-- The message that a receiver is given, if it is given one. -/
def Received.message? : Received → Option Message
  | .message given => some given
  | .empty | .closed => none

namespace Broadcast

/-! ## Reads -/

/-- A read of a subscription: the places before and after it, how many messages had been published, and
the message given, if any. -/
structure Read where
  before : Nat
  after : Nat
  published : Nat
  given : Option Message

/-- What a read does: it goes forward to at most what has been published, it may give the last message
on its way, and of the others it passes on its way those that are selected are no longer kept. -/
structure Read.Sound (read : Read) (stream : List Message) (capacity : Nat)
    (pattern : TopicPattern) : Prop where
  forward : read.before ≤ read.after
  within : read.after ≤ read.published
  published : read.published ≤ stream.length
  given : ∀ message, read.given = some message →
    ∃ place, read.after = place + 1 ∧ read.before ≤ place ∧ stream[place]? = some message ∧
      pattern.selects message.topic = true
  missed : ∀ place message, read.before ≤ place → place < read.after →
    stream[place]? = some message → pattern.selects message.topic = true →
    (read.given = some message ∧ read.after = place + 1) ∨ place + 1 + capacity ≤ read.published

namespace Read.Sound

variable {read : Read} {stream : List Message} {capacity : Nat} {pattern : TopicPattern}

theorem mono (sound : read.Sound stream capacity pattern) (more : List Message) :
    read.Sound (stream ++ more) capacity pattern := by
  have same : ∀ place < stream.length, (stream ++ more)[place]? = stream[place]? :=
    fun place inside => List.getElem?_append_left inside
  have inside := sound.published
  have within := sound.within
  refine ⟨sound.forward, within, ?_, ?_, ?_⟩
  · rw [List.length_append]
    omega
  · intro message given
    obtain ⟨place, after, before, here, selected⟩ := sound.given message given
    exact ⟨place, after, before, (same place (by omega)).trans here, selected⟩
  · intro place message before after here selected
    rw [same place (by omega)] at here
    exact sound.missed place message before after here selected

/-- A read that gives nothing and one that goes on from there are one read. -/
theorem trans {next : Read} (sound : read.Sound stream capacity pattern)
    (nextSound : next.Sound stream capacity pattern) (nothing : read.given = none)
    (chained : next.before = read.after) (same : read.published = next.published) :
    Read.Sound { next with before := read.before } stream capacity pattern := by
  have forward := sound.forward
  have nextForward := nextSound.forward
  refine ⟨by simp only; omega, nextSound.within, nextSound.published, ?_, ?_⟩
  · intro message given
    obtain ⟨place, after, before, here, selected⟩ := nextSound.given message given
    exact ⟨place, after, by simp only; omega, here, selected⟩
  · intro place message before after here selected
    by_cases early : place < read.after
    · rcases sound.missed place message before early here selected with ⟨given, -⟩ | late
      · rw [nothing] at given
        cases given
      · exact .inr (same ▸ late)
    · exact nextSound.missed place message (by omega) after here selected

end Read.Sound

end Broadcast

namespace Channel

open Broadcast

variable {channel : Channel} {stream : List Message} (keeps : channel.Keeps stream)
  {receiver : Receiver} (within : receiver.place ≤ stream.length)

theorem look_pattern (channel : Channel) (receiver : Receiver) :
    (channel.look receiver).2.pattern = receiver.pattern := by
  unfold look
  split
  · rfl
  · split <;> rfl

include keeps within

/-- What a look does. -/
theorem look_sound :
    Read.Sound ⟨receiver.place, (channel.look receiver).2.place, channel.published,
      (channel.look receiver).1.bind Received.message?⟩ stream channel.capacity
      receiver.pattern := by
  have published := keeps.published
  by_cases behind : receiver.place < channel.oldest
  · rw [channel.look_of_behind behind]
    have oldest := keeps.oldest
    refine ⟨by simp only; omega, by simp only; omega, by simp only; omega, nofun, ?_⟩
    intro place message before after here selected
    simp only at before after ⊢
    exact .inr (by omega)
  · have reached : channel.oldest ≤ receiver.place := Nat.le_of_not_lt behind
    cases next : stream[receiver.place]? with
    | none =>
        rw [look_of_end keeps reached next]
        have nothing : (some (if channel.isOpen then Received.empty else .closed)).bind
            Received.message? = none := by
          cases channel.isOpen <;> rfl
        rw [nothing]
        refine ⟨Nat.le_refl _, by simp only; omega, by simp only; omega, nofun, ?_⟩
        intro place message before after
        simp only at before after
        omega
    | some message =>
        obtain ⟨inside, -⟩ := List.getElem?_eq_some_iff.1 next
        rw [look_of_next keeps reached next]
        refine ⟨by simp only; omega, by simp only; omega, by simp only; omega, ?_, ?_⟩
        · intro given isGiven
          simp only at isGiven
          split at isGiven
          · rename_i selected
            cases isGiven
            exact ⟨receiver.place, rfl, Nat.le_refl _, next, selected⟩
          · cases isGiven
        · intro place other before after here selected
          simp only at before after ⊢
          obtain rfl : place = receiver.place := by omega
          obtain rfl : other = message := Option.some.inj (here.symm.trans next)
          rw [if_pos selected]
          exact .inl ⟨rfl, rfl⟩

/-- A look that has no answer yet goes forward. -/
theorem look_forward {next : Receiver} (goesOn : channel.look receiver = (none, next)) :
    receiver.place < next.place ∧ next.place ≤ stream.length := by
  have sound := look_sound keeps within
  rw [goesOn] at sound
  refine ⟨?_, Nat.le_trans sound.within sound.published⟩
  by_cases behind : receiver.place < channel.oldest
  · rw [channel.look_of_behind behind] at goesOn
    cases goesOn
    exact behind
  · have reached : channel.oldest ≤ receiver.place := Nat.le_of_not_lt behind
    cases here : stream[receiver.place]? with
    | none =>
        rw [look_of_end keeps reached here] at goesOn
        cases goesOn
    | some message =>
        rw [look_of_next keeps reached here, Prod.mk.injEq] at goesOn
        rw [← goesOn.2]
        exact Nat.lt_succ_self _

/-- A look that answers without a message has nothing more to pass. -/
theorem look_answer {received : Received} {next : Receiver}
    (answered : channel.look receiver = (some received, next)) (nothing : received.message? = none) :
    next.place = channel.published ∧ (received = .closed → channel.isOpen = false) := by
  by_cases behind : receiver.place < channel.oldest
  · rw [channel.look_of_behind behind] at answered
    cases answered
  · have reached : channel.oldest ≤ receiver.place := Nat.le_of_not_lt behind
    cases here : stream[receiver.place]? with
    | none =>
        have beyond := List.getElem?_eq_none_iff.1 here
        rw [look_of_end keeps reached here] at answered
        cases answered
        refine ⟨(Nat.le_antisymm within beyond).trans keeps.published.symm, ?_⟩
        cases channel.isOpen <;> simp
    | some message =>
        rw [look_of_next keeps reached here] at answered
        split at answered
        · cases answered
          cases nothing
        · cases answered

/-- What a whole reception does: it is a read, and if it gives nothing it reads to the end. -/
theorem receive_sound :
    (channel.receive receiver).2.pattern = receiver.pattern ∧
    Read.Sound ⟨receiver.place, (channel.receive receiver).2.place, channel.published,
      (channel.receive receiver).1.message?⟩ stream channel.capacity receiver.pattern ∧
    ((channel.receive receiver).1.message? = none →
      (channel.receive receiver).2.place = channel.published ∧
        ((channel.receive receiver).1 = .closed → channel.isOpen = false)) := by
  -- the induction is on how much there is left to pass
  induction left : stream.length - receiver.place using Nat.strongRecOn
    generalizing receiver with
  | _ left induction =>
      have pattern := channel.look_pattern receiver
      have sound := look_sound keeps within
      rw [receive_eq_look keeps within]
      rcases looked : channel.look receiver with ⟨_ | received, next⟩
      · obtain ⟨forward, inside⟩ := look_forward keeps within looked
        rw [looked] at pattern sound
        obtain ⟨nextPattern, nextSound, nextEnd⟩ := induction _ (by omega) inside rfl
        have samePattern : next.pattern = receiver.pattern := pattern
        rw [samePattern] at nextPattern nextSound
        exact ⟨nextPattern, sound.trans nextSound rfl rfl rfl, nextEnd⟩
      · rw [looked] at pattern sound
        exact ⟨pattern, sound, look_answer keeps within looked⟩

end Channel

namespace Broadcast

/-! ## What a read gives of what it passes -/

/-- The messages from one place to another that a pattern selects. -/
def selectedBetween (pattern : TopicPattern) (stream : List Message) (before after : Nat) :
    List Message :=
  ((stream.drop before).take (after - before)).filter (fun message =>
    pattern.selects message.topic)

section Selected

variable {pattern : TopicPattern} {stream : List Message}

theorem mem_selectedBetween {before after : Nat} {message : Message}
    (member : message ∈ selectedBetween pattern stream before after) :
    ∃ place, before ≤ place ∧ place < after ∧ stream[place]? = some message ∧
      pattern.selects message.topic = true := by
  obtain ⟨passed, selected⟩ := List.mem_filter.1 member
  obtain ⟨index, here⟩ := List.mem_iff_getElem?.1 passed
  rw [List.getElem?_take, List.getElem?_drop] at here
  split at here
  · exact ⟨before + index, by omega, by omega, here, selected⟩
  · cases here

/-- What is selected up to a place, and then what is selected from there on. -/
theorem selectedBetween_append {before middle after : Nat} (first : before ≤ middle)
    (second : middle ≤ after) :
    selectedBetween pattern stream before after =
      selectedBetween pattern stream before middle ++ selectedBetween pattern stream middle after := by
  unfold selectedBetween
  have length : after - before = (middle - before) + (after - middle) := by omega
  rw [← List.filter_append, length, List.take_add, List.drop_drop, Nat.add_sub_of_le first]

theorem selectedBetween_self (place : Nat) : selectedBetween pattern stream place place = [] := by
  simp [selectedBetween]

theorem selectedBetween_succ {place : Nat} {message : Message}
    (here : stream[place]? = some message) (selected : pattern.selects message.topic = true) :
    selectedBetween pattern stream place (place + 1) = [message] := by
  have alone : (stream.drop place).take 1 = [message] := by
    obtain ⟨inside, rfl⟩ := List.getElem?_eq_some_iff.1 here
    rw [List.drop_eq_getElem_cons inside]
    rfl
  rw [selectedBetween, Nat.add_sub_cancel_left, alone, List.filter_singleton, selected]
  rfl

end Selected

namespace Read.Sound

variable {read : Read} {stream : List Message} {capacity : Nat} {pattern : TopicPattern}

theorem given_sublist (sound : read.Sound stream capacity pattern) :
    read.given.toList.Sublist (selectedBetween pattern stream read.before read.after) := by
  cases given : read.given with
  | none => exact List.nil_sublist _
  | some message =>
      obtain ⟨place, after, before, here, selected⟩ := sound.given message given
      rw [after, selectedBetween_append before (Nat.le_succ _), selectedBetween_succ here selected]
      exact List.sublist_append_right _ _

/-- A read of a subscription that is not too far behind gives all that is selected. -/
theorem given_eq (sound : read.Sound stream capacity pattern)
    (close : read.published ≤ read.before + capacity) :
    read.given.toList = selectedBetween pattern stream read.before read.after := by
  have onlyGiven : ∀ place message, read.before ≤ place → place < read.after →
      stream[place]? = some message → pattern.selects message.topic = true →
      read.given = some message ∧ read.after = place + 1 := by
    intro place message before after here selected
    rcases sound.missed place message before after here selected with given | late
    · exact given
    · omega
  cases given : read.given with
  | none =>
      refine (List.eq_nil_iff_forall_not_mem.2 (fun message member => ?_)).symm
      obtain ⟨place, before, after, here, selected⟩ := mem_selectedBetween member
      exact absurd (given.symm.trans (onlyGiven place message before after here selected).1) nofun
  | some message =>
      obtain ⟨place, after, before, here, selected⟩ := sound.given message given
      have nothingBefore : selectedBetween pattern stream read.before place = [] := by
        refine List.eq_nil_iff_forall_not_mem.2 (fun other member => ?_)
        obtain ⟨earlier, passed, sooner, there, otherSelected⟩ := mem_selectedBetween member
        have last := (onlyGiven earlier other passed (by omega) there otherSelected).2
        omega
      rw [after, selectedBetween_append before (Nat.le_succ _), nothingBefore,
        selectedBetween_succ here selected]
      rfl

end Read.Sound

/-! ## Subscriptions -/

/-- A subscription with its history: how many messages had been published when it was made, and every
read since. -/
structure Follower where
  start : Nat
  receiver : Receiver
  reads : List Read := []

namespace Follower

def received (follower : Follower) : List Message := follower.reads.filterMap Read.given

def selects (follower : Follower) (message : Message) : Bool :=
  follower.receiver.pattern.selects message.topic

/-- Note a read after which the receiver has moved on. -/
def read (published : Nat) (take : Receiver → Option Message × Receiver) (follower : Follower) :
    Follower :=
  let (given, receiver) := take follower.receiver
  { follower with
    receiver
    reads := follower.reads ++
      [{ before := follower.receiver.place, after := receiver.place, published, given }] }

end Follower

/-- Whether reads lead from one place to another, each beginning where the one before it ended. -/
def Chained (start : Nat) : List Read → (place : Nat) → Prop
  | [], place => start = place
  | read :: rest, place => read.before = start ∧ Chained read.after rest place

theorem Chained.concat {start : Nat} {reads : List Read} {read : Read}
    (chained : Chained start reads read.before) : Chained start (reads ++ [read]) read.after := by
  induction reads generalizing start with
  | nil => exact ⟨chained.symm, rfl⟩
  | cons first rest induction => exact ⟨chained.1, induction chained.2⟩

/-- What the reads pass, one of them passes. -/
theorem Chained.exists_read {start final place : Nat} {reads : List Read}
    (chained : Chained start reads final) (after : start ≤ place) (before : place < final) :
    ∃ read ∈ reads, read.before ≤ place ∧ place < read.after := by
  induction reads generalizing start with
  | nil =>
      obtain rfl : start = final := chained
      omega
  | cons first rest induction =>
      obtain ⟨rfl, later⟩ := chained
      by_cases here : place < first.after
      · exact ⟨first, List.mem_cons_self, after, here⟩
      · obtain ⟨read, member, passes⟩ := induction later (by omega)
        exact ⟨read, List.mem_cons_of_mem _ member, passes⟩

section Histories

variable {stream : List Message} {capacity : Nat} {pattern : TopicPattern} {start final : Nat}
  {reads : List Read}

theorem Chained.forward (chained : Chained start reads final)
    (sound : ∀ read ∈ reads, read.Sound stream capacity pattern) : start ≤ final := by
  induction reads generalizing start with
  | nil => exact Nat.le_of_eq chained
  | cons first rest induction =>
      obtain ⟨rfl, later⟩ := chained
      rw [List.forall_mem_cons] at sound
      exact Nat.le_trans sound.1.forward (induction later sound.2)

theorem Chained.given_sublist (chained : Chained start reads final)
    (sound : ∀ read ∈ reads, read.Sound stream capacity pattern) :
    (reads.filterMap Read.given).Sublist (selectedBetween pattern stream start final) := by
  induction reads generalizing start with
  | nil => exact List.nil_sublist _
  | cons first rest induction =>
      obtain ⟨rfl, later⟩ := chained
      rw [List.forall_mem_cons] at sound
      rw [selectedBetween_append sound.1.forward (later.forward sound.2)]
      have both := sound.1.given_sublist.append (induction later sound.2)
      cases given : first.given with
      | none => simpa [given] using both
      | some message => simpa [given] using both

theorem Chained.given_eq (chained : Chained start reads final)
    (sound : ∀ read ∈ reads, read.Sound stream capacity pattern)
    (close : ∀ read ∈ reads, read.published ≤ read.before + capacity) :
    reads.filterMap Read.given = selectedBetween pattern stream start final := by
  induction reads generalizing start with
  | nil =>
      obtain rfl : start = final := chained
      exact (selectedBetween_self _).symm
  | cons first rest induction =>
      obtain ⟨rfl, later⟩ := chained
      rw [List.forall_mem_cons] at sound close
      rw [selectedBetween_append sound.1.forward (later.forward sound.2),
        ← sound.1.given_eq close.1, ← induction later sound.2 close.2]
      cases given : first.given with
      | none => simp [given]
      | some message => simp [given]

end Histories

/-- A history of a subscription over what has been published: sound reads, each from where the one
before it ended. -/
structure Follower.Sound (follower : Follower) (stream : List Message) (capacity : Nat) : Prop where
  chained : Chained follower.start follower.reads follower.receiver.place
  reads : ∀ read ∈ follower.reads, read.Sound stream capacity follower.receiver.pattern
  within : follower.receiver.place ≤ stream.length

namespace Follower.Sound

variable {follower : Follower} {stream : List Message} {capacity : Nat}

theorem fresh (stream : List Message) (capacity : Nat) (pattern : TopicPattern) :
    Follower.Sound ⟨stream.length, ⟨pattern, stream.length⟩, []⟩ stream capacity :=
  ⟨rfl, nofun, Nat.le_refl _⟩

theorem mono (sound : follower.Sound stream capacity) (more : List Message) :
    follower.Sound (stream ++ more) capacity := by
  refine ⟨sound.chained, fun read member => (sound.reads read member).mono more, ?_⟩
  rw [List.length_append]
  exact Nat.le_trans sound.within (Nat.le_add_right _ _)

theorem read {published : Nat} {take : Receiver → Option Message × Receiver}
    (sound : follower.Sound stream capacity)
    (pattern : (take follower.receiver).2.pattern = follower.receiver.pattern)
    (takes : Read.Sound ⟨follower.receiver.place, (take follower.receiver).2.place, published,
      (take follower.receiver).1⟩ stream capacity follower.receiver.pattern) :
    (follower.read published take).Sound stream capacity := by
  refine ⟨Chained.concat sound.chained, ?_, Nat.le_trans takes.within takes.published⟩
  intro read member
  change read.Sound stream capacity (take follower.receiver).2.pattern
  rw [pattern]
  rcases List.mem_append.1 member with earlier | last
  · exact sound.reads read earlier
  · exact List.mem_singleton.1 last ▸ takes

/-- A message that was passed has been given, or was no longer kept. -/
theorem given_or_missed (sound : follower.Sound stream capacity) {place : Nat} {message : Message}
    (after : follower.start ≤ place) (before : place < follower.receiver.place)
    (here : stream[place]? = some message) (selected : follower.selects message = true) :
    (∃ read ∈ follower.reads, read.given = some message ∧ read.after = place + 1) ∨
      ∃ read ∈ follower.reads, read.before ≤ place ∧ place < read.after ∧
        place + 1 + capacity ≤ read.published := by
  obtain ⟨read, member, reached, passed⟩ := sound.chained.exists_read after before
  rcases (sound.reads read member).missed place message reached passed here selected with
    given | late
  · exact .inl ⟨read, member, given⟩
  · exact .inr ⟨read, member, reached, passed, late⟩

end Follower.Sound

/-! ## Runs -/

/-- A broker with its subscriptions and all that was published. -/
structure State where
  channel : Channel
  stream : List Message := []
  followers : List Follower := []

/-- What can happen next. A subscription goes by its number; it receives in one go, or takes a look
and leaves room for others. -/
inductive Operation where
  | publish (message : Message)
  | subscribe (pattern : TopicPattern)
  | receive (subscription : Nat)
  | look (subscription : Nat)
  | close

namespace State

/-- Have a subscription read. -/
def readBy (state : State) (subscription : Nat) (take : Receiver → Option Message × Receiver) :
    State :=
  { state with
    followers := state.followers.modify subscription (Follower.read state.channel.published take) }

/-- Let something happen. Once the broker is gone, nothing is published and nobody subscribes. -/
def step (state : State) : Operation → State
  | .publish message =>
      if state.channel.isOpen then
        { state with
          channel := state.channel.publish message
          stream := state.stream ++ [message] }
      else state
  | .subscribe pattern =>
      if state.channel.isOpen then
        { state with
          followers := state.followers ++
            [{ start := state.channel.published, receiver := state.channel.subscribe pattern }] }
      else state
  | .receive subscription =>
      state.readBy subscription (fun receiver =>
        let (received, next) := state.channel.receive receiver
        (received.message?, next))
  | .look subscription =>
      state.readBy subscription (fun receiver =>
        let (answer?, next) := state.channel.look receiver
        (answer?.bind Received.message?, next))
  | .close => { state with channel := state.channel.close }

def run (capacity : Nat) (operations : List Operation) : State :=
  operations.foldl step { channel := { capacity } }

/-- The channel keeps what it should of all that was published, and every history is sound. -/
structure Sound (state : State) (capacity : Nat) : Prop where
  keeps : state.channel.Keeps state.stream
  sameCapacity : state.channel.capacity = capacity
  followers : ∀ follower ∈ state.followers, follower.Sound state.stream capacity

namespace Sound

variable {state : State} {capacity : Nat}

theorem readBy (sound : state.Sound capacity) (subscription : Nat)
    {take : Receiver → Option Message × Receiver}
    (pattern : ∀ receiver, receiver.place ≤ state.stream.length →
      (take receiver).2.pattern = receiver.pattern)
    (takes : ∀ receiver, receiver.place ≤ state.stream.length →
      Read.Sound ⟨receiver.place, (take receiver).2.place, state.channel.published,
        (take receiver).1⟩ state.stream capacity receiver.pattern) :
    (state.readBy subscription take).Sound capacity := by
  refine ⟨sound.keeps, sound.sameCapacity, ?_⟩
  intro follower member
  obtain ⟨number, found⟩ := List.mem_iff_getElem?.1 member
  rw [State.readBy, List.getElem?_modify] at found
  obtain ⟨before, there, rfl⟩ := Option.map_eq_some_iff.1 found
  have beforeSound := sound.followers before (List.mem_of_getElem? there)
  split
  · exact beforeSound.read (pattern _ beforeSound.within) (takes _ beforeSound.within)
  · exact beforeSound

theorem step (sound : state.Sound capacity) (operation : Operation) :
    (state.step operation).Sound capacity := by
  cases operation with
  | publish message =>
      simp only [State.step]
      split
      · exact ⟨sound.keeps.publish message, sound.sameCapacity,
          fun follower member => (sound.followers follower member).mono [message]⟩
      · exact sound
  | subscribe pattern =>
      simp only [State.step]
      split
      · refine ⟨sound.keeps, sound.sameCapacity, ?_⟩
        intro follower member
        rcases List.mem_append.1 member with earlier | new
        · exact sound.followers follower earlier
        · rw [List.mem_singleton.1 new, Channel.subscribe, sound.keeps.published]
          exact .fresh state.stream capacity pattern
      · exact sound
  | receive subscription =>
      refine sound.readBy subscription (fun receiver within => ?_) (fun receiver within => ?_)
      · exact (Channel.receive_sound sound.keeps within).1
      · exact sound.sameCapacity ▸ (Channel.receive_sound sound.keeps within).2.1
  | look subscription =>
      refine sound.readBy subscription (fun receiver _ => ?_) (fun receiver within => ?_)
      · exact state.channel.look_pattern receiver
      · exact sound.sameCapacity ▸ Channel.look_sound sound.keeps within
  | close => exact ⟨⟨sound.keeps.published, sound.keeps.kept⟩, sound.sameCapacity, sound.followers⟩

theorem run (capacity : Nat) (operations : List Operation) :
    (State.run capacity operations).Sound capacity := by
  suffices ∀ state : State, state.Sound capacity →
      (operations.foldl State.step state).Sound capacity from
    this _ ⟨⟨rfl, List.drop_nil.symm⟩, rfl, nofun⟩
  induction operations with
  | nil => exact fun _ sound => sound
  | cons operation rest induction => exact fun state sound => induction _ (sound.step operation)

/-- When a reception ends for good, all that is selected and kept has been given. -/
theorem given_of_closed (sound : state.Sound capacity) {follower : Follower}
    (member : follower ∈ state.followers)
    (closed : (state.channel.receive follower.receiver).1 = .closed) :
    state.channel.isOpen = false ∧
      ∀ place message, follower.start ≤ place → state.channel.oldest ≤ place →
        state.stream[place]? = some message → follower.selects message = true →
        ∃ read ∈ follower.reads, read.given = some message ∧ read.after = place + 1 := by
  have followerSound := sound.followers follower member
  obtain ⟨-, reads, ends⟩ := Channel.receive_sound sound.keeps followerSound.within
  have nothing : (state.channel.receive follower.receiver).1.message? = none := by
    rw [closed]
    rfl
  obtain ⟨toTheEnd, gone⟩ := ends nothing
  refine ⟨gone closed, ?_⟩
  intro place message after kept here selected
  have inside : place < state.stream.length := (List.getElem?_eq_some_iff.1 here).1
  have oldest := sound.keeps.oldest
  have published := sound.keeps.published
  have sameCapacity := sound.sameCapacity
  -- what is kept lies before the receiver: a reception to the end would have given it
  have passed : place < follower.receiver.place := by
    by_contra notPassed
    have notMissed := reads.missed place message (Nat.le_of_not_lt notPassed)
      (by simp only [toTheEnd]; omega) here selected
    rw [nothing] at notMissed
    rcases notMissed with ⟨given, -⟩ | late
    · cases given
    · simp only at late
      omega
  rcases followerSound.given_or_missed after passed here selected with given | missed
  · exact given
  · obtain ⟨read, readMember, -, -, late⟩ := missed
    have earlier := (followerSound.reads read readMember).published
    omega

/-- A subscription that is never more than the capacity behind, and has nothing left to receive, has
received all that is selected. -/
theorem received_eq_of_close (sound : state.Sound capacity) {follower : Follower}
    (member : follower ∈ state.followers)
    (close : ∀ read ∈ follower.reads, read.published ≤ read.before + capacity)
    (closeNow : state.stream.length ≤ follower.receiver.place + capacity)
    (drained : (state.channel.receive follower.receiver).1.message? = none) :
    follower.received = (state.stream.drop follower.start).filter follower.selects := by
  have followerSound := sound.followers follower member
  obtain ⟨-, reads, ends⟩ := Channel.receive_sound sound.keeps followerSound.within
  have published := sound.keeps.published
  rw [sound.sameCapacity] at reads
  have rest := reads.given_eq (by simp only; omega)
  simp only [drained, (ends drained).1, published] at rest
  have forward := followerSound.chained.forward followerSound.reads
  have all : selectedBetween follower.receiver.pattern state.stream follower.start
      state.stream.length = (state.stream.drop follower.start).filter follower.selects := by
    rw [selectedBetween, List.take_of_length_le (Nat.le_of_eq List.length_drop)]
    rfl
  rw [Follower.received, followerSound.chained.given_eq followerSound.reads close, ← all,
    selectedBetween_append forward followerSound.within, ← rest]
  exact (List.append_nil _).symm

end Sound

/-- What a subscription is given over any run, whatever else happens between its looks. It is given,
in the order of the stream and each place at most once, messages published since it was made that its
pattern selects. One of these that it has passed without being given it was followed by at least as
many messages as the channel keeps when the subscription read past it. So one that is never further
behind has been given all of them once nothing is left to receive, and a reception ends for good only
when the broker is gone and all that is selected and kept has been given. -/
theorem gives_all_but_overrun (capacity : Nat) (operations : List Operation) :
    ∀ follower ∈ (run capacity operations).followers,
      follower.received.Sublist
        (((run capacity operations).stream.drop follower.start).filter follower.selects) ∧
      (∀ place message, follower.start ≤ place → place < follower.receiver.place →
        (run capacity operations).stream[place]? = some message →
        follower.selects message = true →
        (∃ read ∈ follower.reads, read.given = some message ∧ read.after = place + 1) ∨
          ∃ read ∈ follower.reads, read.before ≤ place ∧ place < read.after ∧
            place + 1 + capacity ≤ read.published) ∧
      ((∀ read ∈ follower.reads, read.published ≤ read.before + capacity) →
        (run capacity operations).stream.length ≤ follower.receiver.place + capacity →
        ((run capacity operations).channel.receive follower.receiver).1.message? = none →
        follower.received =
          ((run capacity operations).stream.drop follower.start).filter follower.selects) ∧
      (((run capacity operations).channel.receive follower.receiver).1 = .closed →
        (run capacity operations).channel.isOpen = false ∧
          ∀ place message, follower.start ≤ place →
            (run capacity operations).channel.oldest ≤ place →
            (run capacity operations).stream[place]? = some message →
            follower.selects message = true →
            ∃ read ∈ follower.reads, read.given = some message ∧ read.after = place + 1) ∧
      (run capacity operations).channel.receive follower.receiver =
        (match (run capacity operations).channel.look follower.receiver with
        | (some received, next) => (received, next)
        | (none, next) => (run capacity operations).channel.receive next) := by
  have sound := Sound.run capacity operations
  intro follower member
  have followerSound := sound.followers follower member
  refine ⟨?_, ?_, sound.received_eq_of_close member, sound.given_of_closed member,
    Channel.receive_eq_look sound.keeps followerSound.within⟩
  · have given := followerSound.chained.given_sublist followerSound.reads
    exact given.trans ((List.take_sublist _ _).filter _)
  · intro place message after before here selected
    exact followerSound.given_or_missed after before here selected

/-! A channel that keeps two messages, with a subscription that reads late and one that keeps up. -/

def numbered (topic payload : String) : Message := { topic, key := "BTC", payload }

def lateAndPrompt : List Operation :=
  [.subscribe (.family "condition."), .subscribe (.single "condition.b"),
   .publish (numbered "condition.a" "1"), .publish (numbered "condition.b" "2"), .receive 1,
   .publish (numbered "condition.a" "3"), .look 0, .publish (numbered "condition.b" "4"), .look 1,
   .look 1, .receive 0, .receive 0, .close, .receive 0]

def lateFollower : Follower where
  start := 0
  receiver := ⟨.family "condition.", 4⟩
  reads :=
    [⟨0, 1, 3, none⟩, ⟨1, 3, 4, some (numbered "condition.a" "3")⟩,
     ⟨3, 4, 4, some (numbered "condition.b" "4")⟩, ⟨4, 4, 4, none⟩]

def promptFollower : Follower where
  start := 0
  receiver := ⟨.single "condition.b", 4⟩
  reads :=
    [⟨0, 2, 2, some (numbered "condition.b" "2")⟩, ⟨2, 3, 4, none⟩,
     ⟨3, 4, 4, some (numbered "condition.b" "4")⟩]

theorem followers_lateAndPrompt :
    (run 2 lateAndPrompt).followers = [lateFollower, promptFollower] := by
  rfl

/-- The late subscription misses the first two messages, each followed by two more before it read past
it; the prompt one gets all of its topic. -/
theorem late_misses_and_prompt_gets_all :
    lateFollower ∈ (run 2 lateAndPrompt).followers ∧
    promptFollower ∈ (run 2 lateAndPrompt).followers ∧
    (∃ read ∈ lateFollower.reads, read.before ≤ 1 ∧ 1 < read.after ∧ 1 + 1 + 2 ≤ read.published) ∧
    promptFollower.received = [numbered "condition.b" "2", numbered "condition.b" "4"] ∧
    (run 2 lateAndPrompt).channel.isOpen = false := by
  have lateMember : lateFollower ∈ (run 2 lateAndPrompt).followers := by
    simp [followers_lateAndPrompt]
  have promptMember : promptFollower ∈ (run 2 lateAndPrompt).followers := by
    simp [followers_lateAndPrompt]
  obtain ⟨-, lateMisses, -, lateEnds, -⟩ :=
    gives_all_but_overrun 2 lateAndPrompt lateFollower lateMember
  obtain ⟨-, -, promptGets, -, -⟩ :=
    gives_all_but_overrun 2 lateAndPrompt promptFollower promptMember
  refine ⟨lateMember, promptMember, ?_, promptGets (by decide) (by decide) rfl, (lateEnds rfl).1⟩
  have missed := lateMisses 1 (numbered "condition.b" "2") (by decide) (by decide) rfl (by decide)
  refine missed.resolve_left ?_
  rintro ⟨read, member, given, -⟩
  have others : ∀ read ∈ lateFollower.reads,
      read.given ≠ some (numbered "condition.b" "2") := by decide
  exact others read member given

end State

end Broadcast

end CandleAlerts
