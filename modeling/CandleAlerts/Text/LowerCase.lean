import CandleAlerts.Text.CaseTables

/-!
Lower case of texts in any script.

A character goes to its lower case by the Unicode tables. Two characters are special: the capital I
with a dot becomes two characters, and the capital sigma depends on its place, for it ends a word in
another form than it stands inside one.
-/

namespace CandleAlerts.Text

private def inRanges (ranges : List (Nat × Nat)) (character : Char) : Bool :=
  ranges.any (fun range => range.1 ≤ character.toNat && character.toNat ≤ range.2)

def isCased (character : Char) : Bool := inRanges casedRanges character

/-- Whether a character is passed over when the end of a word is looked for. -/
def isCaseIgnorable (character : Char) : Bool := inRanges caseIgnorableRanges character

def lowerChar (character : Char) : Char :=
  let code := character.toNat
  match lowerRuns.find? (fun run =>
      run.first ≤ code && code ≤ run.last && (code - run.first) % run.step == 0) with
  | some run => Char.ofNat (Int.ofNat code + run.distance).toNat
  | none => character

private def reachesCased (text : List Char) : Bool :=
  match text.dropWhile isCaseIgnorable with
  | next :: _ => isCased next
  | [] => false

/-- The lower case of a text, `before` being what precedes it, nearest first. -/
def lowerFrom (before : List Char) : List Char → List Char
  | [] => []
  | character :: rest =>
      let lowered :=
        if character.toNat = 0x3A3 then
          [Char.ofNat (if reachesCased before && !reachesCased rest then 0x3C2 else 0x3C3)]
        else if character.toNat = 0x130 then ['i', Char.ofNat 0x307]
        else if character.toNat < 128 then [character.toLower]
        else [lowerChar character]
      lowered ++ lowerFrom (character :: before) rest

def lower (text : String) : String :=
  String.ofList (lowerFrom [] text.toList)

end CandleAlerts.Text
