import CandleAlerts.Text.Letters

/-!
Topics that events are published under, and patterns that select topics.
-/

namespace CandleAlerts

def conditionTopicStart : String := "condition."

def conditionTopic (conditionId : String) : String := conditionTopicStart ++ conditionId

/-- What a subscription selects: one topic, or every topic with a beginning. -/
inductive TopicPattern where
  | single (topic : String)
  | family (start : String)
deriving DecidableEq

namespace TopicPattern

/-- Read a pattern; an asterisk at its end makes it a family. -/
def parse (text : String) : TopicPattern :=
  match text.toList.reverse with
  | '*' :: rest => family (String.ofList rest.reverse)
  | _ => single text

def selects (pattern : TopicPattern) (topic : String) : Bool :=
  match pattern with
  | single name => name == topic
  | family start => Text.startsWith topic start

/-- The characters that mean something of their own in a regular expression. -/
def metacharacters : List Char := "\\.+*?()|[]\x7b\x7d^$".toList

/-- A text as a regular expression that matches it alone. -/
def literally (text : List Char) : List Char :=
  text.flatMap (fun character =>
    if metacharacters.contains character then ['\\', character] else [character])

/-- The pattern as a Kafka subscription, where a text that begins with `^` is a regular
expression. -/
def subscription : TopicPattern → String
  | single topic => topic
  | family start => String.ofList ('^' :: (literally start.toList ++ ['.', '*']))

end TopicPattern

end CandleAlerts
