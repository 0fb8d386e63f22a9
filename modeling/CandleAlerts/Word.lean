/-!
Arithmetic of signed 64-bit words.

Bar numbers and bar times are words: a result that leaves the range of the words comes back into it
at the other end.
-/

namespace CandleAlerts.Word

/-- The least word, `-2 ^ 63`. -/
def least : Int := -9223372036854775808

/-- The greatest word, `2 ^ 63 - 1`. -/
def greatest : Int := 9223372036854775807

/-- The word congruent to an integer modulo `2 ^ 64`. -/
def wrap (value : Int) : Int := value.bmod UInt64.size

def Holds (value : Int) : Prop := least ≤ value ∧ value ≤ greatest

instance (value : Int) : Decidable (Holds value) := by unfold Holds; infer_instance

/-- A word is left as it is. -/
theorem wrap_eq_self {value : Int} (holds : Holds value) : wrap value = value := by
  unfold wrap
  unfold Holds least greatest at holds
  have size : (UInt64.size : Int) = 18446744073709551616 := rfl
  exact Int.bmod_eq_of_le (by omega) (by omega)

def sub (left right : Int) : Int := wrap (left - right)

example : wrap (greatest + 1) = least := by decide

end CandleAlerts.Word
