import CandleAlerts.Proofs.DigitTexts
import CandleAlerts.Webhook.Signature

/-!
The texts of signatures read back.

Bytes come back from their hexadecimal text and a signature header from its own text, so a receiver
with the same secret finds every signature right that is as fresh as it demands.
-/

namespace CandleAlerts

namespace Text

/-! ## Bytes -/

theorem hexDigit_ne_comma : ∀ value < 16, hexDigit value ≠ ',' := by
  decide

theorem isBlank_hexDigit : ∀ value < 16, isBlank (hexDigit value) = false := by
  decide

theorem bytesOfHex?_hexOfBytes (bytes : List UInt8) :
    bytesOfHex? (hexOfBytes bytes) = some bytes := by
  induction bytes with
  | nil => rfl
  | cons byte rest induction =>
      have small : byte.toNat < 256 := byte.toNat_lt
      have high := hexValue?_hexDigit (byte.toNat / 16) (by omega)
      have low := hexValue?_hexDigit (byte.toNat % 16) (by omega)
      have whole : byte.toNat / 16 * 16 + byte.toNat % 16 = byte.toNat := Nat.div_add_mod' _ _
      change bytesOfHex? (hexDigit (byte.toNat / 16) :: hexDigit (byte.toNat % 16) ::
        hexOfBytes rest) = _
      simp only [bytesOfHex?, high, low, induction, whole, UInt8.ofNat_toNat, bind,
        Option.bind_some, pure]

theorem mem_hexOfBytes {bytes : List UInt8} {character : Char}
    (member : character ∈ hexOfBytes bytes) : ∃ value < 16, character = hexDigit value := by
  obtain ⟨byte, -, digit⟩ := List.mem_flatMap.mp member
  have small : byte.toNat < 256 := byte.toNat_lt
  rcases List.mem_cons.mp digit with same | digit
  · exact ⟨byte.toNat / 16, by omega, same⟩
  · exact ⟨byte.toNat % 16, by omega, List.mem_singleton.mp digit⟩

/-! ## Parting texts -/

theorem splitAtEach_of_not_mem {separator : Char} {text : List Char} (absent : separator ∉ text) :
    splitAtEach separator text = [text] := by
  induction text with
  | nil => rfl
  | cons head tail induction =>
      simp only [List.mem_cons, not_or] at absent
      rw [splitAtEach, if_neg (fun same => absent.1 same.symm), induction absent.2]

theorem splitAtEach_append {separator : Char} {first : List Char} (absent : separator ∉ first)
    (rest : List Char) :
    splitAtEach separator (first ++ separator :: rest) = first :: splitAtEach separator rest := by
  induction first with
  | nil => simp [splitAtEach]
  | cons head tail induction =>
      simp only [List.mem_cons, not_or] at absent
      rw [List.cons_append, splitAtEach, if_neg (fun same => absent.1 same.symm),
        induction absent.2]

theorem isBlank_of_isDigit {character : Char} (isDigit : character.isDigit = true) :
    isBlank character = false := by
  have range := Decimal.toNat_of_isDigit isDigit
  simp only [isBlank, Bool.or_eq_false_iff, Bool.and_eq_false_iff, decide_eq_false_iff_not,
    beq_eq_false_iff_ne]
  omega

theorem dropWhile_of_not_blank {text : List Char}
    (noBlank : ∀ character ∈ text, isBlank character = false) : text.dropWhile isBlank = text := by
  cases text with
  | nil => rfl
  | cons head tail => exact List.dropWhile_cons_of_neg (by simp [noBlank head])

/-- A text without blanks is left as it is when blanks are trimmed. -/
theorem trimBlanks_of_not_blank {text : List Char}
    (noBlank : ∀ character ∈ text, isBlank character = false) : trimBlanks text = text := by
  have reversed : ∀ character ∈ text.reverse, isBlank character = false :=
    fun character member => noBlank character (List.mem_reverse.mp member)
  rw [trimBlanks, trimStart, dropWhile_of_not_blank noBlank, trimEnd,
    dropWhile_of_not_blank reversed, List.reverse_reverse]

end Text

namespace Hash

theorem length_sha256 (message : List UInt8) : (sha256 message).length = 32 := by
  simp [sha256, Chaining.words, bytesOfWord]

/-- A tag has thirty-two bytes. -/
theorem length_hmacSha256 (key message : String) : (hmacSha256 key message).length = 32 :=
  length_sha256 _

end Hash

namespace Webhook

/-! ## Signature headers -/

namespace SignatureHeader

theorem take_timestamp (parts : Parts) {timestamp : Int} (holds : Word.Holds timestamp) :
    parts.take ('t' :: '=' :: Decimal.writeInt timestamp) =
      { parts with timestamp := some timestamp } := by
  have noBlank : ∀ character ∈ 't' :: '=' :: Decimal.writeInt timestamp,
      Text.isBlank character = false := by
    intro character member
    simp only [List.mem_cons] at member
    rcases member with rfl | rfl | digit
    · decide
    · decide
    · rcases Decimal.mem_writeInt digit with rfl | isDigit
      · decide
      · exact Text.isBlank_of_isDigit isDigit
  unfold Parts.take
  rw [Text.trimBlanks_of_not_blank noBlank]
  simp [Text.splitAtFirst?, Decimal.readInt64_writeInt holds, Except.toOption]

theorem take_signature (parts : Parts) (bytes : List UInt8) :
    parts.take ('s' :: '=' :: Text.hexOfBytes bytes) =
      { parts with signature := some (Text.hexOfBytes bytes) } := by
  have noBlank : ∀ character ∈ 's' :: '=' :: Text.hexOfBytes bytes,
      Text.isBlank character = false := by
    intro character member
    simp only [List.mem_cons] at member
    rcases member with rfl | rfl | digit
    · decide
    · decide
    · obtain ⟨value, small, rfl⟩ := Text.mem_hexOfBytes digit
      exact Text.isBlank_hexDigit value small
  unfold Parts.take
  rw [Text.trimBlanks_of_not_blank noBlank]
  simp [Text.splitAtFirst?]

/-- The header of a signature that has at least one byte is read back. -/
theorem parse?_text {timestamp : Int} (holds : Word.Holds timestamp) {bytes : List UInt8}
    (given : bytes ≠ []) :
    parse? (SignatureHeader.mk timestamp (String.ofList (Text.hexOfBytes bytes))).text =
      some ⟨timestamp, String.ofList (Text.hexOfBytes bytes)⟩ := by
  have noComma : ',' ∉ 't' :: '=' :: Decimal.writeInt timestamp := by
    intro member
    simp only [List.mem_cons] at member
    rcases member with same | same | digit
    · cases same
    · cases same
    · rcases Decimal.mem_writeInt digit with same | isDigit
      · cases same
      · exact absurd isDigit (by decide)
  have noCommaAfter : ',' ∉ 's' :: '=' :: Text.hexOfBytes bytes := by
    intro member
    simp only [List.mem_cons] at member
    rcases member with same | same | digit
    · cases same
    · cases same
    · obtain ⟨value, small, same⟩ := Text.mem_hexOfBytes digit
      exact Text.hexDigit_ne_comma value small same.symm
  have someDigits : (Text.hexOfBytes bytes).isEmpty = false := by
    cases bytes with
    | nil => exact absurd rfl given
    | cons byte rest => rfl
  have parts : Text.splitAtEach ',' (SignatureHeader.mk timestamp
      (String.ofList (Text.hexOfBytes bytes))).text.toList =
        ['t' :: '=' :: Decimal.writeInt timestamp, 's' :: '=' :: Text.hexOfBytes bytes] := by
    rw [text, String.toList_ofList, String.toList_ofList]
    exact (Text.splitAtEach_append noComma _).trans
      (congrArg _ (Text.splitAtEach_of_not_mem noCommaAfter))
  unfold parse?
  rw [parts]
  simp only [List.foldl_cons, List.foldl_nil, take_timestamp _ holds, take_signature, someDigits,
    Bool.false_eq_true, if_false]

end SignatureHeader

/-- A signature is found right by whoever has the secret, as long as it is fresh. -/
theorem checkSignature_signatureHeader {mac : Mac} {secret body : String} {timestamp now : Int}
    {maxAge : Nat} (tagged : mac secret (signedMessage timestamp body) ≠ [])
    (holds : Word.Holds timestamp) (fresh : (now - timestamp).natAbs ≤ maxAge) :
    checkSignature mac secret body (signatureHeader mac secret timestamp body).text maxAge now =
      .ok () := by
  have read : SignatureHeader.parse? (signatureHeader mac secret timestamp body).text =
      some ⟨timestamp, sign mac secret timestamp body⟩ := SignatureHeader.parse?_text holds tagged
  unfold checkSignature
  rw [read]
  dsimp only
  rw [if_neg (Nat.not_lt.mpr fresh), sign, String.toList_ofList, Text.bytesOfHex?_hexOfBytes,
    if_pos rfl]

/-- Headers that say the same carry the same tag. -/
theorem tag_eq_of_text_eq {mac : Mac} {first second body : String} {timestamp : Int}
    (same : (signatureHeader mac first timestamp body).text =
      (signatureHeader mac second timestamp body).text) :
    mac first (signedMessage timestamp body) = mac second (signedMessage timestamp body) := by
  have letters := congrArg String.toList same
  simp only [signatureHeader, SignatureHeader.text, sign, String.toList_ofList, List.cons.injEq,
    List.append_cancel_left_eq, true_and] at letters
  have bytes := congrArg Text.bytesOfHex? letters
  rw [Text.bytesOfHex?_hexOfBytes, Text.bytesOfHex?_hexOfBytes] at bytes
  exact Option.some.inj bytes

end Webhook

end CandleAlerts
