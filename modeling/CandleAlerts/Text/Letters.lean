/-!
Letter case of texts whose letters are compared as ASCII.

Only the letters `A` to `Z` and `a` to `z` are exchanged; every other character stays as it is.
-/

namespace CandleAlerts.Text

def asciiLower (text : String) : String :=
  String.ofList (text.toList.map Char.toLower)

def asciiUpper (text : String) : String :=
  String.ofList (text.toList.map Char.toUpper)

/-- The text with every character in `replaced` changed to `replacement`. -/
def replaceChars (text : String) (replaced : List Char) (replacement : Char) : String :=
  String.ofList (text.toList.map (fun character =>
    if replaced.contains character then replacement else character))

/-- Whether `text` begins with `start`. -/
def startsWith (text start : String) : Bool :=
  start.toList.isPrefixOf text.toList

/-- Whether `part` occurs somewhere in `text`. -/
def occursIn (part : List Char) : List Char → Bool
  | [] => part.isEmpty
  | head :: tail => part.isPrefixOf (head :: tail) || occursIn part tail

/-- The parts of a text between the occurrences of `separator`; there is always at least one. -/
def splitAtEach (separator : Char) : List Char → List (List Char)
  | [] => [[]]
  | head :: tail =>
      if head = separator then [] :: splitAtEach separator tail
      else match splitAtEach separator tail with
        | first :: rest => (head :: first) :: rest
        | [] => [[head]]

/-- The text before and the text after the first `separator`, if there is one. -/
def splitAtFirst? (separator : Char) : List Char → Option (List Char × List Char)
  | [] => none
  | head :: tail =>
      if head = separator then some ([], tail)
      else (splitAtFirst? separator tail).map (fun parts => (head :: parts.1, parts.2))

/-- The texts joined with `separator` between neighbours. -/
def joinWith (separator : String) : List String → String
  | [] => ""
  | [only] => only
  | first :: second :: rest => first ++ separator ++ joinWith separator (second :: rest)

example : asciiUpper "btcusdt" = "BTCUSDT" := by decide
example : splitAtEach ',' "a,,b".toList = ["a".toList, [], "b".toList] := by decide

end CandleAlerts.Text
