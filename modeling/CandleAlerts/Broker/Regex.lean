import CandleAlerts.Decimal.Read
import CandleAlerts.Text.Letters

/-!
Subscriptions as a Kafka client takes them.

A text that begins with `^` is an extended regular expression, which selects the topics it is found
in; any other text is the name of one topic. An expression is read character by character, with the
groups that are open on a stack.
-/

namespace CandleAlerts

/-- A regular expression. -/
inductive Regex where
  | empty
  /-- One character. -/
  | one (accepts : Char → Bool)
  /-- The start of the text. -/
  | start
  /-- The end of the text. -/
  | finish
  | both (first second : Regex)
  | either (first second : Regex)
  | times (least : Nat) (most : Option Nat) (part : Regex)

namespace Regex

def exactly (character : Char) : Regex := one (fun other => other == character)

/-- Any character but a line break. -/
def any : Regex := one (fun character => character != '\n')

/-! ## Matching -/

/-- Whether so many matches in a row make up `matched`, between what comes before and after. -/
def Repeats (part : List Char → List Char → List Char → Prop) :
    Nat → (before matched after : List Char) → Prop
  | 0, _, matched, _ => matched = []
  | count + 1, before, matched, after =>
      ∃ head tail, matched = head ++ tail ∧ part before head (tail ++ after) ∧
        Repeats part count (before ++ head) tail after

/-- Whether an expression matches `matched`, between what comes before and after it. -/
def Matches : Regex → (before matched after : List Char) → Prop
  | empty, _, matched, _ => matched = []
  | one accepts, _, matched, _ => ∃ character, matched = [character] ∧ accepts character = true
  | start, before, matched, _ => before = [] ∧ matched = []
  | finish, _, matched, after => matched = [] ∧ after = []
  | both first second, before, matched, after =>
      ∃ head tail, matched = head ++ tail ∧ first.Matches before head (tail ++ after) ∧
        second.Matches (before ++ head) tail after
  | either first second, before, matched, after =>
      first.Matches before matched after ∨ second.Matches before matched after
  | times least most part, before, matched, after =>
      ∃ count, least ≤ count ∧ (∀ bound ∈ most, count ≤ bound) ∧
        Repeats part.Matches count before matched after

/-- Whether an expression matches some part of a text. -/
def FoundIn (regex : Regex) (text : List Char) : Prop :=
  ∃ before matched after, text = before ++ matched ++ after ∧ regex.Matches before matched after

/-- Whether an expression matches a text from its start to its end. -/
def MatchesWhole (regex : Regex) (text : List Char) : Prop := regex.Matches [] text []

/-! ## Reading -/

/-- The characters that a backslash takes the meaning of their own from. -/
def specials : List Char :=
  ['^', '$', '.', '*', '+', '?', '(', ')', '[', ']', '\x7b', '\x7d', '|', '\\']

/-- A group under way: the branches before the present one, and the parts of that. -/
structure Draft where
  branches : List Regex := []
  parts : List Regex := []

namespace Draft

def add (draft : Draft) (part : Regex) : Draft := { draft with parts := draft.parts ++ [part] }

def branch (draft : Draft) : Regex := draft.parts.foldr both empty

def endBranch (draft : Draft) : Draft := { branches := draft.branches ++ [draft.branch] }

def regex (draft : Draft) : Regex := draft.branches.foldr either draft.branch

/-- Repeat the part that was read last; there must be one. -/
def repeatLast (draft : Draft) (least : Nat) (most : Option Nat) : Option Draft :=
  draft.parts.getLast?.map (fun part =>
    { draft with parts := draft.parts.dropLast ++ [times least most part] })

end Draft

/-- What the next character is read as: as it stands, after a backslash, or within the brackets or
braces that were opened. -/
inductive Mode where
  | plain
  | escaped
  | set (given : List Char)
  | bounds (given : List Char)

structure Reader where
  draft : Draft := {}
  outer : List Draft := []
  mode : Mode := .plain

/-- The characters of a set: single ones, and ranges with a hyphen inside. -/
def members? : List Char → Option (Char → Bool)
  | low :: '-' :: high :: rest =>
      if low ≤ high then
        (members? rest).map (fun others character =>
          (decide (low ≤ character) && decide (character ≤ high)) || others character)
      else none
  | single :: rest =>
      (members? rest).map (fun others character => character == single || others character)
  | [] => some (fun _ => false)

/-- One character of a set, or outside of it if it begins with `^`. Named sets are not read. -/
def ofSet? (given : List Char) : Option Regex :=
  if Text.occursIn ['[', ':'] given || Text.occursIn ['[', '.'] given ||
      Text.occursIn ['[', '='] given then none
  else match given with
    | '^' :: excluded =>
        (members? excluded).map (fun isMember => one (fun character => !isMember character))
    | _ => (members? given).map one

/-- The least and the greatest number of repetitions: `m`, `m,` or `m,n`. -/
def bounds? (given : List Char) : Option (Nat × Option Nat) :=
  let number? := fun text => (Decimal.readDigits 255 .tooLarge 0 text).toOption
  match Text.splitAtEach ',' given with
  | [[]] => none
  | [exact] => (number? exact).map (fun count => (count, some count))
  | [[], _] => none
  | [least, []] => (number? least).map (fun least => (least, none))
  | [least, most] => do
      let least ← number? least
      let most ← number? most
      if least ≤ most then return (least, some most) else none
  | _ => none

namespace Reader

def add (reader : Reader) (part : Regex) : Reader :=
  { reader with draft := reader.draft.add part, mode := .plain }

def repeatLast (reader : Reader) (least : Nat) (most : Option Nat) : Option Reader :=
  (reader.draft.repeatLast least most).map (fun draft => { reader with draft, mode := .plain })

def openGroup (reader : Reader) : Reader :=
  { reader with draft := {}, outer := reader.draft :: reader.outer }

def closeGroup (reader : Reader) : Option Reader :=
  match reader.outer with
  | [] => none
  | draft :: outer => some { reader with draft := draft.add reader.draft.regex, outer }

/-- Read a character that stands for itself or for what it means. -/
def takePlain (reader : Reader) (character : Char) : Option Reader :=
  match character with
  | '\\' => some { reader with mode := .escaped }
  | '[' => some { reader with mode := .set [] }
  | '\x7b' => some { reader with mode := .bounds [] }
  | '(' => some reader.openGroup
  | ')' => reader.closeGroup
  | '|' => some { reader with draft := reader.draft.endBranch }
  | '*' => reader.repeatLast 0 none
  | '+' => reader.repeatLast 1 none
  | '?' => reader.repeatLast 0 (some 1)
  | '.' => some (reader.add any)
  | '^' => some (reader.add start)
  | '$' => some (reader.add finish)
  | other => some (reader.add (exactly other))

def take (reader : Reader) (character : Char) : Option Reader :=
  match reader.mode with
  | .plain => reader.takePlain character
  | .escaped =>
      if specials.contains character then some (reader.add (exactly character)) else none
  | .set given =>
      -- a bracket that comes first is one of the set
      if character = ']' ∧ given ≠ [] ∧ given ≠ ['^'] then (ofSet? given).map reader.add
      else some { reader with mode := .set (given ++ [character]) }
  | .bounds given =>
      if character = '\x7d' then
        (bounds? given).bind (fun bounds => reader.repeatLast bounds.1 bounds.2)
      else some { reader with mode := .bounds (given ++ [character]) }

end Reader

/-- Read an expression. One that is not finished, or whose meaning is not settled, is none. -/
def read? (text : List Char) : Option Regex :=
  (text.foldlM Reader.take {}).bind (fun reader =>
    match reader.outer, reader.mode with
    | [], .plain => some reader.draft.regex
    | _, _ => none)

example : (read? "^a\\.[b-d]+(e|f)\x7b2,3\x7d$".toList).isSome = true := by decide
example : (read? "(a".toList).isNone = true ∧ (read? "*a".toList).isNone = true := by decide

end Regex

/-- Whether a client that is subscribed with a text is given a topic, `selects` being what it takes
for an expression to select one. -/
def ClientSelects (selects : Regex → List Char → Prop) (subscription topic : String) : Prop :=
  match subscription.toList with
  | '^' :: rest => ∃ regex, Regex.read? ('^' :: rest) = some regex ∧ selects regex topic.toList
  | _ => topic = subscription

end CandleAlerts
