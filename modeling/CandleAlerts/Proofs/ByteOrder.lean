import CandleAlerts.Table
import Mathlib.Data.List.Basic
import Mathlib.Tactic.SplitIfs

/-!
The order of texts and the order of their bytes.

Texts are compared by their characters, one after the other. In UTF-8 the bytes of a greater
character are greater at the first place where they differ, so comparing the bytes gives the same
order.
-/

namespace CandleAlerts.Text

/-- The bytes of a text in UTF-8. -/
def bytes (text : String) : List UInt8 := text.toByteArray.data.toList

theorem bytes_eq (text : String) : bytes text = text.toList.flatMap String.utf8EncodeChar := by
  rw [bytes, ← String.utf8Encode_toList]
  exact List.toList_data_toByteArray

theorem byte_lt_iff {first second : Nat} (firstSmall : first < 256) (secondSmall : second < 256) :
    UInt8.ofNat first < UInt8.ofNat second ↔ first < second := by
  rw [UInt8.lt_iff_toNat_lt, UInt8.toNat_ofNat_of_lt' firstSmall,
    UInt8.toNat_ofNat_of_lt' secondSmall]

theorem byte_inj {first second : Nat} (firstSmall : first < 256) (secondSmall : second < 256) :
    UInt8.ofNat first = UInt8.ofNat second ↔ first = second := by
  rw [← UInt8.toNat_inj, UInt8.toNat_ofNat_of_lt' firstSmall,
    UInt8.toNat_ofNat_of_lt' secondSmall]

/-- The bytes of a greater character are greater, whatever follows. -/
theorem utf8EncodeChar_lt {first second : Char} (less : first < second)
    (rest others : List UInt8) :
    String.utf8EncodeChar first ++ rest < String.utf8EncodeChar second ++ others := by
  have codes : first.val.toNat < second.val.toNat := less
  have bound : second.val.toNat < 0x110000 := by
    have valid := second.valid
    unfold UInt32.isValidChar Nat.isValidChar at valid
    omega
  -- The groups of six bits are the digits of a code to the base 64.
  have groups (code : Nat) :
      code / 4096 = code / 64 / 64 ∧ code / 262144 = code / 64 / 64 / 64 := by
    omega
  unfold String.utf8EncodeChar
  generalize first.val.toNat = code at *
  generalize second.val.toNat = greater at *
  dsimp only
  rw [(groups code).1, (groups code).2, (groups greater).1, (groups greater).2]
  split_ifs <;>
    simp (disch := omega) only [List.cons_append, List.nil_append, List.cons_lt_cons_iff,
      byte_lt_iff, byte_inj] <;> omega

theorem flatMap_utf8EncodeChar_lt {left right : List Char} (less : left < right) :
    left.flatMap String.utf8EncodeChar < right.flatMap String.utf8EncodeChar := by
  induction left generalizing right with
  | nil =>
      cases right with
      | nil => cases less
      | cons head tail =>
          have given : String.utf8EncodeChar head ≠ [] := by
            rw [← List.length_pos_iff, String.length_utf8EncodeChar]
            exact head.utf8Size_pos
          obtain ⟨byte, more, encoded⟩ := List.exists_cons_of_ne_nil given
          rw [List.flatMap_nil, List.flatMap_cons, encoded]
          exact List.nil_lt_cons _ _
  | cons first rest induction =>
      cases right with
      | nil => cases less
      | cons head tail =>
          rw [List.flatMap_cons, List.flatMap_cons]
          rcases List.cons_lt_cons_iff.1 less with lower | ⟨rfl, later⟩
          · exact utf8EncodeChar_lt lower _ _
          · exact List.append_left_lt (induction later)

/-- A lesser text has lesser bytes. -/
theorem bytes_lt {first second : String} (less : first < second) : bytes first < bytes second := by
  rw [bytes_eq, bytes_eq]
  exact flatMap_utf8EncodeChar_lt less

end CandleAlerts.Text
