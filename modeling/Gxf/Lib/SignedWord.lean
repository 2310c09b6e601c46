import Mathlib.Algebra.Ring.Int.Defs

/-!
# Signed words

A signed word of 64 bits keeps an integer modulo `2^64`, as the one in the range around zero.
-/

namespace Gxf.Lib

/-- What a signed word of 64 bits keeps of an integer. -/
def int64 (value : Int) : Int :=
  (value + 9223372036854775808) % 18446744073709551616 - 9223372036854775808

/-- An integer that a signed word keeps as it is. -/
def InInt64 (value : Int) : Prop := -9223372036854775808 ≤ value ∧ value < 9223372036854775808

instance (value : Int) : Decidable (InInt64 value) := inferInstanceAs (Decidable (_ ∧ _))

theorem inInt64_int64 (value : Int) : InInt64 (int64 value) := by
  rw [InInt64, int64]
  omega

theorem int64_eq_self {value : Int} (inside : InInt64 value) : int64 value = value := by
  obtain ⟨low, high⟩ := inside
  rw [int64]
  omega

theorem int64_le_self {value : Int} (low : -9223372036854775808 ≤ value) : int64 value ≤ value := by
  rw [int64]
  omega

end Gxf.Lib
