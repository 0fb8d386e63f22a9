import CandleAlerts.Text.Letters

/-!
Media types as the content type of a request names them.

A media type has a kind and a subkind of token characters; after the last plus sign of the subkind
stands its suffix. Parameters follow, each after a semicolon and blanks. Parameters are read with a
machine that takes one character at a time.
-/

namespace CandleAlerts.Api

def isTokenCharacter (character : Char) : Bool :=
  character.isAlphanum || "!#$%&'*+-.^_`|~".toList.contains character

def mayBeQuoted (character : Char) : Bool :=
  31 < character.toNat && character.toNat != 127

/-- Where the parameters of a media type have been read to. -/
inductive ParameterState where
  | beforeName
  | inName
  | beforeValue
  | inValue
  /-- After the opening quote: a quoted value has at least one character, which may be a quote. -/
  | afterQuote
  | inQuotes
  | afterQuoted

namespace ParameterState

def take (state : ParameterState) (character : Char) : Option ParameterState :=
  let token (next : ParameterState) : Option ParameterState :=
    if isTokenCharacter character then some next else none
  let quoted : Option ParameterState :=
    if mayBeQuoted character then some inQuotes else none
  match state, character with
  | beforeName, ' ' => some beforeName
  | beforeName, _ => token inName
  | inName, '=' => some beforeValue
  | inName, _ => token inName
  | beforeValue, '"' => some afterQuote
  | beforeValue, _ => token inValue
  | inValue, ';' => some beforeName
  | inValue, _ => token inValue
  | afterQuote, _ => quoted
  | inQuotes, '"' => some afterQuoted
  | inQuotes, _ => quoted
  | afterQuoted, ';' => some beforeName
  | afterQuoted, ' ' => some afterQuoted
  | afterQuoted, _ => none

/-- Whether the parameters may end here. A value may be missing, a name or a closing quote may
not. -/
def mayEnd : ParameterState → Bool
  | beforeName | beforeValue | inValue | afterQuoted => true
  | inName | afterQuote | inQuotes => false

end ParameterState

def areParameters (text : List Char) : Bool :=
  ((text.foldlM ParameterState.take .beforeName).map ParameterState.mayEnd).getD false

structure MediaType where
  kind : List Char
  subkind : List Char
  suffix : Option (List Char)

/-- Divide a subkind at its last plus sign, unless it begins with that. -/
def splitSubkind (text : List Char) : List Char × Option (List Char) :=
  match Text.splitAtFirst? '+' text.reverse with
  | some (suffix, subkind) =>
      if subkind.isEmpty then (text, none) else (subkind.reverse, some suffix.reverse)
  | none => (text, none)

def MediaType.parse? (text : List Char) : Option MediaType :=
  (Text.splitAtFirst? '/' (text.map Char.toLower)).bind (fun (kind, rest) =>
    let essence := rest.takeWhile (· != ';')
    let parametersAllowed := match rest.dropWhile (· != ';') with
      | [] => true
      | _ :: parameters => areParameters parameters
    if !kind.isEmpty && kind.all isTokenCharacter && essence.all isTokenCharacter &&
        parametersAllowed then
      let (subkind, suffix) := splitSubkind essence
      some { kind, subkind, suffix }
    else none)

def isJsonMediaType (text : String) : Bool :=
  match MediaType.parse? text.toList with
  | some mediaType =>
      mediaType.kind == "application".toList &&
        (mediaType.subkind == "json".toList || mediaType.suffix == some "json".toList)
  | none => false

example : isJsonMediaType "application/json; charset=utf-8" = true := by decide +kernel
example : isJsonMediaType "Application/Problem+JSON;a=\"b;c\"" = true := by decide +kernel
example : isJsonMediaType "application/json;a" = false := by decide +kernel

end CandleAlerts.Api
