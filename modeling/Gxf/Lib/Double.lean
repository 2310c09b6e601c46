import Mathlib.Data.Int.Log
import Mathlib.Data.Rat.Floor
import Mathlib.Algebra.Order.Field.Rat
import Mathlib.Tactic.Linarith

/-!
# Rounding to doubles

A result of arithmetic on doubles is the double nearest to the exact result, the one with an even
mantissa of two.  A mantissa has 53 bits, and its unit is not less than `2^(-1074)`.  The exponents
have no upper end here: a number beyond the largest double stands for an infinity.
-/

namespace Gxf.Lib

/-- The integer nearest to a number, the even one of two. -/
def nearestEven (value : ℚ) : ℤ :=
  if value - ⌊value⌋ < 1 / 2 ∨ value - ⌊value⌋ = 1 / 2 ∧ ⌊value⌋ % 2 = 0 then ⌊value⌋
  else ⌊value⌋ + 1

/-- The exponent of the unit in the last place. -/
def unitExponent (value : ℚ) : ℤ := max (Int.log 2 |value| - 52) (-1074)

/-- The distance of doubles at a number. -/
def spacing (value : ℚ) : ℚ := 2 ^ unitExponent value

/-- The double nearest to a number. -/
def toDouble (value : ℚ) : ℚ := nearestEven (value / spacing value) * spacing value

example : toDouble (toDouble (7 / 10) * 10) = 7 := by decide +kernel

/-! ## Integers -/

section NearestEven

variable {value other : ℚ} {whole : ℤ}

/-- An integer is reached from half a unit below it, and from there only if it is even. -/
theorem le_nearestEven_iff : whole ≤ nearestEven value ↔
    (whole : ℚ) - 1 / 2 < value ∨ (whole : ℚ) - 1 / 2 = value ∧ whole % 2 = 0 := by
  have below : (⌊value⌋ : ℚ) ≤ value := Int.floor_le value
  have above : value < ⌊value⌋ + 1 := Int.lt_floor_add_one value
  rcases Int.lt_trichotomy whole (⌊value⌋ + 1) with lower | rfl | higher
  · have lower := Int.lt_add_one_iff.mp lower
    have least : (whole : ℚ) ≤ ⌊value⌋ := Int.cast_le.mpr lower
    refine iff_of_true ?_ (.inl (by linarith))
    rw [nearestEven]
    split <;> omega
  · push_cast
    rw [nearestEven]
    split
    next stays =>
      refine iff_of_false (by omega) ?_
      rintro (past | ⟨half, even⟩)
      · rcases stays with near | ⟨half, -⟩ <;> linarith
      · rcases stays with near | ⟨-, floorEven⟩
        · linarith
        · omega
    next rises =>
      refine iff_of_true (Int.le_refl _) ?_
      obtain ⟨far, tie⟩ := not_or.mp rises
      rcases (not_lt.mp far).lt_or_eq with past | half
      · exact .inl (by linarith)
      · exact .inr ⟨by linarith, by have odd := not_and.mp tie half.symm; omega⟩
  · have most : (⌊value⌋ : ℚ) + 2 ≤ whole := by
      exact_mod_cast (by omega : ⌊value⌋ + 2 ≤ whole)
    refine iff_of_false (fun reached => ?_) ?_
    · rw [nearestEven] at reached
      split at reached <;> omega
    · rintro (past | ⟨half, -⟩) <;> linarith

theorem nearestEven_mono (le : value ≤ other) : nearestEven value ≤ nearestEven other := by
  rw [le_nearestEven_iff]
  rcases le_nearestEven_iff.mp (Int.le_refl (nearestEven value)) with past | ⟨half, even⟩
  · exact .inl (past.trans_le le)
  · rcases le.lt_or_eq with less | rfl
    · exact .inl (half.trans_lt less)
    · exact .inr ⟨half, even⟩

theorem nearestEven_intCast (whole : ℤ) : nearestEven whole = whole := by
  rw [nearestEven, Int.floor_intCast, if_pos (.inl (by norm_num))]

theorem nearestEven_neg (value : ℚ) : nearestEven (-value) = -nearestEven value := by
  refine eq_of_forall_le_iff fun whole => ?_
  have mirrored : whole ≤ -nearestEven value ↔ ¬1 - whole ≤ nearestEven value := by omega
  rw [mirrored, le_nearestEven_iff, le_nearestEven_iff]
  push_cast
  rcases lt_trichotomy value (1 / 2 - whole) with before | half | behind
  · refine iff_of_true (.inl (by linarith)) ?_
    rintro (past | ⟨half, -⟩) <;> linarith
  · have parity : (1 - whole) % 2 = 0 ↔ ¬whole % 2 = 0 := by omega
    have here : (whole : ℚ) - 1 / 2 = -value := by linarith
    have there : (1 : ℚ) - whole - 1 / 2 = value := by linarith
    rw [here, there, parity]
    simp
  · refine iff_of_false ?_ (not_not.mpr (.inl (by linarith)))
    rintro (past | ⟨half, -⟩) <;> linarith

end NearestEven

/-! ## Doubles -/

section ToDouble

variable {value other : ℚ} {mantissa : ℤ}

theorem spacing_pos (value : ℚ) : 0 < spacing value := zpow_pos (by norm_num) _

theorem toDouble_le (le : value ≤ mantissa * spacing value) :
    toDouble value ≤ mantissa * spacing value := by
  have scaled : value / spacing value ≤ mantissa := (div_le_iff₀ (spacing_pos value)).mpr le
  have rounded := (nearestEven_mono scaled).trans_eq (nearestEven_intCast mantissa)
  exact mul_le_mul_of_nonneg_right (Int.cast_le.mpr rounded) (spacing_pos value).le

theorem le_toDouble (le : mantissa * spacing value ≤ value) :
    mantissa * spacing value ≤ toDouble value := by
  have scaled : (mantissa : ℚ) ≤ value / spacing value := (le_div_iff₀ (spacing_pos value)).mpr le
  have rounded := (nearestEven_intCast mantissa).symm.trans_le (nearestEven_mono scaled)
  exact mul_le_mul_of_nonneg_right (Int.cast_le.mpr rounded) (spacing_pos value).le

theorem toDouble_eq_self (exact : value = mantissa * spacing value) : toDouble value = value :=
  le_antisymm ((toDouble_le exact.le).trans_eq exact.symm) (exact.trans_le (le_toDouble exact.ge))

/-- An even multiple of the unit is reached from half a unit below it. -/
theorem le_toDouble_iff : mantissa * spacing value ≤ toDouble value ↔
    (mantissa - 1 / 2) * spacing value < value ∨
      (mantissa - 1 / 2) * spacing value = value ∧ mantissa % 2 = 0 := by
  rw [toDouble, mul_le_mul_iff_left₀ (spacing_pos value), Int.cast_le, le_nearestEven_iff,
    lt_div_iff₀ (spacing_pos value), eq_div_iff (spacing_pos value).ne']

theorem toDouble_zero : toDouble 0 = 0 := by
  rw [toDouble, zero_div, ← Int.cast_zero, nearestEven_intCast, Int.cast_zero, zero_mul]

theorem toDouble_neg (value : ℚ) : toDouble (-value) = -toDouble value := by
  have same : spacing (-value) = spacing value := by rw [spacing, spacing, unitExponent,
    unitExponent, abs_neg]
  rw [toDouble, toDouble, same, neg_div, nearestEven_neg, Int.cast_neg, neg_mul]

theorem zpow_eq_mul_spacing {exponent : ℤ} (le : unitExponent value ≤ exponent) :
    (2 : ℚ) ^ exponent =
      ((2 ^ (exponent - unitExponent value).toNat : ℤ) : ℚ) * spacing value := by
  rw [spacing, Int.cast_pow, Int.cast_ofNat, ← zpow_natCast, ← zpow_add₀ (by norm_num)]
  congr 1
  omega

theorem unitExponent_le {exponent : ℤ} (normal : -1074 ≤ exponent) (some : value ≠ 0)
    (small : |value| < 2 ^ (exponent + 53)) : unitExponent value ≤ exponent := by
  have log : Int.log 2 |value| < exponent + 53 :=
    (Int.lt_zpow_iff_log_lt Nat.one_lt_two (abs_pos.mpr some)).mp small
  rw [unitExponent]
  omega

theorem unitExponent_eq {exponent : ℤ} (normal : -1074 ≤ exponent)
    (low : (2 : ℚ) ^ 52 * 2 ^ exponent ≤ value) (high : value < 2 ^ 53 * 2 ^ exponent) :
    unitExponent value = exponent := by
  have positive : 0 < value := (mul_pos (by norm_num) (zpow_pos (by norm_num) _)).trans_le low
  have power (bits : ℕ) : (2 : ℚ) ^ bits * 2 ^ exponent = 2 ^ (exponent + bits) := by
    rw [← zpow_natCast, ← zpow_add₀ (by norm_num), add_comm]
  rw [power] at low high
  have atLeast := (Int.zpow_le_iff_le_log Nat.one_lt_two positive).mp low
  have below := (Int.lt_zpow_iff_log_lt Nat.one_lt_two positive).mp high
  rw [unitExponent, abs_of_pos positive]
  push_cast at atLeast below
  omega

/-- A number with a mantissa of 53 bits is a double. -/
theorem toDouble_dyadic {exponent : ℤ} (normal : -1074 ≤ exponent) (small : |mantissa| < 2 ^ 53) :
    toDouble (mantissa * 2 ^ exponent) = mantissa * 2 ^ exponent := by
  by_cases none : mantissa = 0
  · rw [none, Int.cast_zero, zero_mul, toDouble_zero]
  · have some : (mantissa * 2 ^ exponent : ℚ) ≠ 0 :=
      mul_ne_zero (Int.cast_ne_zero.mpr none) (zpow_pos (by norm_num) _).ne'
    have below : |(mantissa * 2 ^ exponent : ℚ)| < 2 ^ (exponent + 53) := by
      have bits : |(mantissa : ℚ)| < 2 ^ (53 : ℤ) := by exact_mod_cast small
      rw [abs_mul, abs_of_pos (zpow_pos (by norm_num : (0 : ℚ) < 2) exponent), add_comm,
        zpow_add₀ (by norm_num)]
      exact mul_lt_mul_of_pos_right bits (zpow_pos (by norm_num) _)
    have power := zpow_eq_mul_spacing (unitExponent_le normal some below)
    apply @toDouble_eq_self _ (mantissa * 2 ^
      (exponent - unitExponent (mantissa * 2 ^ exponent)).toNat)
    rw [Int.cast_mul, mul_assoc, ← power]

theorem toDouble_intCast (small : |mantissa| < 2 ^ 53) : toDouble mantissa = mantissa := by
  have exact := toDouble_dyadic (by decide : -1074 ≤ (0 : ℤ)) small
  rwa [zpow_zero, mul_one] at exact

theorem unitExponent_mono (positive : 0 < value) (le : value ≤ other) :
    unitExponent value ≤ unitExponent other := by
  have log : Int.log 2 |value| ≤ Int.log 2 |other| := by
    rw [abs_of_pos positive, abs_of_pos (positive.trans_le le)]
    exact Int.log_mono_right positive le
  rw [unitExponent, unitExponent]
  omega

/-- Where the unit of a greater number is greater, a power of two lies between them. -/
theorem toDouble_le_toDouble_of_lt (positive : 0 < value) (le : value ≤ other)
    (coarser : unitExponent value < unitExponent other) : toDouble value ≤ toDouble other := by
  have logs : unitExponent other = Int.log 2 other - 52 ∧ Int.log 2 value < Int.log 2 other := by
    rw [unitExponent, unitExponent, abs_of_pos positive, abs_of_pos (positive.trans_le le)]
      at coarser
    rw [unitExponent, abs_of_pos (positive.trans_le le)]
    omega
  have above : value < 2 ^ Int.log 2 other :=
    (Int.lt_zpow_iff_log_lt Nat.one_lt_two positive).mpr logs.2
  have below : (2 : ℚ) ^ Int.log 2 other ≤ other :=
    Int.zpow_log_le_self Nat.one_lt_two (positive.trans_le le)
  have upper := zpow_eq_mul_spacing (by omega : unitExponent value ≤ Int.log 2 other)
  have lower := zpow_eq_mul_spacing (by omega : unitExponent other ≤ Int.log 2 other)
  calc toDouble value ≤ _ := toDouble_le (above.le.trans_eq upper)
    _ = 2 ^ Int.log 2 other := upper.symm
    _ = _ := lower
    _ ≤ toDouble other := le_toDouble (lower.symm.trans_le below)

theorem toDouble_nonneg (nonneg : 0 ≤ value) : 0 ≤ toDouble value := by
  have reached := @le_toDouble value 0 (by rwa [Int.cast_zero, zero_mul])
  rwa [Int.cast_zero, zero_mul] at reached

theorem toDouble_mono_of_pos (positive : 0 < value) (le : value ≤ other) :
    toDouble value ≤ toDouble other := by
  rcases (unitExponent_mono positive le).lt_or_eq with coarser | same
  · exact toDouble_le_toDouble_of_lt positive le coarser
  · have unit : spacing value = spacing other := by rw [spacing, same, spacing]
    have scaled : value / spacing value ≤ other / spacing value :=
      div_le_div_of_nonneg_right le (spacing_pos value).le
    rw [toDouble, toDouble, ← unit]
    exact mul_le_mul_of_nonneg_right (Int.cast_le.mpr (nearestEven_mono scaled))
      (spacing_pos value).le

/-- Rounding keeps the order. -/
theorem toDouble_mono (le : value ≤ other) : toDouble value ≤ toDouble other := by
  rcases lt_or_ge 0 value with positive | notPositive
  · exact toDouble_mono_of_pos positive le
  have low : toDouble value ≤ 0 := by
    have mirrored := toDouble_nonneg (neg_nonneg.mpr notPositive)
    rw [toDouble_neg] at mirrored
    exact neg_nonneg.mp mirrored
  rcases lt_or_ge other 0 with negative | nonneg
  · have mirrored := toDouble_mono_of_pos (neg_pos.mpr negative) (neg_le_neg le)
    rw [toDouble_neg, toDouble_neg] at mirrored
    exact neg_le_neg_iff.mp mirrored
  · exact low.trans (toDouble_nonneg nonneg)

theorem unitExponent_neg (small : |value| < 2 ^ 52) : unitExponent value < 0 := by
  by_cases none : value = 0
  · rw [none]
    decide +kernel
  · have bits : |value| < 2 ^ ((-1 : ℤ) + 53) := by exact_mod_cast small
    exact (unitExponent_le (by decide) none bits).trans_lt (by decide)

/-- An integer is reached from half a unit below it, where the unit is a fraction. -/
theorem intCast_le_toDouble_iff {whole : ℤ} (small : |value| < 2 ^ 52) :
    whole ≤ toDouble value ↔ whole ≤ value + spacing value / 2 := by
  have fine := unitExponent_neg small
  have power := zpow_eq_mul_spacing fine.le
  obtain ⟨bits, isBits⟩ : ∃ bits, (0 - unitExponent value).toNat = bits + 1 :=
    ⟨(0 - unitExponent value).toNat - 1, by omega⟩
  rw [zpow_zero, isBits] at power
  have multiple : (whole : ℚ) = (whole * 2 ^ (bits + 1) : ℤ) * spacing value := by
    rw [Int.cast_mul, mul_assoc, ← power, mul_one]
  have even : whole * 2 ^ (bits + 1) % 2 = 0 := by
    rw [pow_succ, ← mul_assoc]
    exact Int.mul_emod_left _ _
  rw [multiple, le_toDouble_iff, and_iff_left even, ← le_iff_lt_or_eq, sub_mul]
  constructor <;> intro le <;> linarith

/-- From where on a double is reached: from half a unit below it. -/
theorem dyadic_le_toDouble_iff {exponent : ℤ} (normal : -1074 ≤ exponent)
    (low : 2 ^ 52 < mantissa) (high : mantissa ≤ 2 ^ 53) :
    mantissa * 2 ^ exponent ≤ toDouble value ↔
      (mantissa - 1 / 2) * 2 ^ exponent < value ∨
        (mantissa - 1 / 2) * 2 ^ exponent = value ∧ mantissa % 2 = 0 := by
  have unit : (0 : ℚ) < 2 ^ exponent := zpow_pos (by norm_num) _
  have before : (mantissa - 1 / 2) * 2 ^ exponent < (mantissa : ℚ) * 2 ^ exponent :=
    mul_lt_mul_of_pos_right (by linarith) unit
  have after : ((mantissa - 1 : ℤ) : ℚ) * 2 ^ exponent < (mantissa - 1 / 2) * 2 ^ exponent :=
    mul_lt_mul_of_pos_right (by push_cast; linarith) unit
  rcases le_or_gt ((mantissa : ℚ) * 2 ^ exponent) value with reached | short
  · have exact : toDouble (mantissa * 2 ^ exponent) = mantissa * 2 ^ exponent := by
      rcases high.lt_or_eq with less | top
      · exact toDouble_dyadic normal (abs_lt.mpr ⟨by omega, less⟩)
      · have power := @toDouble_dyadic 1 (exponent + 53) (by omega) (by norm_num)
        rw [zpow_add₀ (by norm_num), Int.cast_one, one_mul] at power
        rw [top, Int.cast_pow, Int.cast_ofNat, mul_comm]
        exact power
    exact iff_of_true (exact.symm.trans_le (toDouble_mono reached)) (.inl (before.trans_le reached))
  rcases lt_or_ge value (((mantissa - 1 : ℤ) : ℚ) * 2 ^ exponent) with far | near
  · have exact := toDouble_dyadic normal
      (abs_lt.mpr ⟨by omega, by omega⟩ : |mantissa - 1| < 2 ^ 53)
    refine iff_of_false ((toDouble_mono far.le).trans_lt ?_).not_ge ?_
    · rw [exact]
      exact after.trans before
    · rintro (past | ⟨half, -⟩) <;> linarith
  · have least : (2 : ℚ) ^ 52 ≤ (mantissa - 1 : ℤ) := by
      exact_mod_cast (by omega : (2 : ℤ) ^ 52 ≤ mantissa - 1)
    have most : (mantissa : ℚ) ≤ 2 ^ 53 := by exact_mod_cast high
    have same : unitExponent value = exponent := unitExponent_eq normal
      ((mul_le_mul_of_nonneg_right least unit.le).trans near)
      (short.trans_le (mul_le_mul_of_nonneg_right most unit.le))
    have spaced : spacing value = 2 ^ exponent := by rw [spacing, same]
    rw [← spaced]
    exact le_toDouble_iff

end ToDouble

end Gxf.Lib
