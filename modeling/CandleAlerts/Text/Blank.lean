/-!
White space at the ends of a text.

The blank characters are those with the Unicode property `White_Space`; the six that the core
library calls white space are among them.
-/

namespace CandleAlerts.Text

/-- Whether a character has the Unicode property `White_Space`. -/
def isBlank (character : Char) : Bool :=
  let code := character.toNat
  (9 ≤ code && code ≤ 13) || code == 0x20 || code == 0x85 || code == 0xA0 || code == 0x1680 ||
    (0x2000 ≤ code && code ≤ 0x200A) || code == 0x2028 || code == 0x2029 || code == 0x202F ||
    code == 0x205F || code == 0x3000

def trimStart (text : List Char) : List Char :=
  text.dropWhile isBlank

def trimEnd (text : List Char) : List Char :=
  (text.reverse.dropWhile isBlank).reverse

def trimBlanks (text : List Char) : List Char :=
  trimEnd (trimStart text)

def trim (text : String) : String :=
  String.ofList (trimBlanks text.toList)

example : trim "  RSI\t" = "RSI" := by decide
example : trim (String.ofList [Char.ofNat 0xA0, 'x', ' ', 'y', Char.ofNat 0x3000]) = "x y" := by
  decide

end CandleAlerts.Text
