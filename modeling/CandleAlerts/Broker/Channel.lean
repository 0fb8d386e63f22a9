import CandleAlerts.Broker.Topic

/-!
The broker inside one process.

A channel keeps the latest messages. Each receiver has a place in the stream of all messages; a
receiver that fell behind what is kept goes on with the oldest message that is.
-/

namespace CandleAlerts

structure Message where
  topic : String
  key : String
  payload : String
deriving DecidableEq

/-- A stream of messages of which the latest are kept, oldest first. -/
structure Channel where
  capacity : Nat
  kept : List Message := []
  /-- How many messages were published. -/
  published : Nat := 0
  isOpen : Bool := true

/-- A subscription to a channel, and the number of messages it has passed. -/
structure Receiver where
  pattern : TopicPattern
  place : Nat

/-- What a receiver is given. -/
inductive Received where
  | message (message : Message)
  /-- Nothing is waiting. -/
  | empty
  /-- Nothing is waiting and nothing will come. -/
  | closed

namespace Channel

def publish (channel : Channel) (message : Message) : Channel :=
  let messages := channel.kept ++ [message]
  { channel with
    kept := messages.drop (messages.length - channel.capacity)
    published := channel.published + 1 }

def subscribe (channel : Channel) (pattern : TopicPattern) : Receiver :=
  { pattern, place := channel.published }

/-- Close the channel; what is kept can still be received. -/
def close (channel : Channel) : Channel := { channel with isOpen := false }

/-- The first of the messages from `place` on that a pattern selects, and the place after it. -/
def nextSelected (pattern : TopicPattern) (place : Nat) : List Message → Option (Message × Nat)
  | [] => none
  | message :: rest =>
      if pattern.selects message.topic then some (message, place + 1)
      else nextSelected pattern (place + 1) rest

def oldest (channel : Channel) : Nat := channel.published - channel.kept.length

def receive (channel : Channel) (receiver : Receiver) : Received × Receiver :=
  let place := max receiver.place channel.oldest
  match nextSelected receiver.pattern place (channel.kept.drop (place - channel.oldest)) with
  | some (message, next) => (.message message, { receiver with place := next })
  | none =>
      (if channel.isOpen then .empty else .closed, { receiver with place := channel.published })

def receiveAll (channel : Channel) (receiver : Receiver) : List Message × Receiver :=
  let place := max receiver.place channel.oldest
  ((channel.kept.drop (place - channel.oldest)).filter
     (fun message => receiver.pattern.selects message.topic),
   { receiver with place := channel.published })

end Channel

end CandleAlerts
