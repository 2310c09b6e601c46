import Gxf.Std.SchedulingTerms.Pacing
import Gxf.Std.Time

/-!
# Periods of periodic terms

A periodic term divides by its period and adds it to its target.  The period is a positive integer
of 64 bits unless the number in the text is too small or too large for its unit.
-/

namespace Gxf.Std

open Gxf.Core Gxf.Lib ComponentParams

namespace PeriodicSchedulingTerm

/-- `initialize()`, for the parameters `policy` and `recess_period`. -/
def initParsed (policy : PeriodicSchedulingPolicy) (recessPeriod : Text) :
    Except GxfResult PeriodicSchedulingTerm :=
  match parseRecessPeriodString recessPeriod with
  | .error code => .error code
  | .ok recessPeriodNs => .ok (init policy recessPeriodNs.toNat)

/-- What `onExecute_abi` divides by. -/
def divisor (term : PeriodicSchedulingTerm) : Option Nat :=
  match term.nextTarget, term.policy with
  | some _, .kNoCatchUpMissedTicks => some term.recessPeriodNs
  | some _, .kCatchUpMissedTicks | some _, .kMinTimeBetweenTicks | none, _ => none

/-- An execution moves the target, and to a later time if there is one in 64 bits. -/
def Advances (term : PeriodicSchedulingTerm) (timestamp : Int) : Prop :=
  ∀ target, term.nextTarget = some target →
    ∃ next, (term.onExecute timestamp).nextTarget = some next ∧ next ≠ target ∧
      (Lib.InInt64 (target + term.recessPeriodNs) → target < next)

/-- The period is a positive integer of 64 bits, no execution divides by zero, and missed ticks are
caught up. -/
structure Dependable (term : PeriodicSchedulingTerm) : Prop where
  positive : 1 ≤ term.recessPeriodNs
  fits : term.recessPeriodNs < 2 ^ 63
  divides : ∀ executed : List Int, (executed.foldl onExecute term).divisor ≠ some 0
  advances : term.policy = .kCatchUpMissedTicks →
    ∀ (executed : List Int) (timestamp : Int), (executed.foldl onExecute term).Advances timestamp

theorem onExecute_parameters (term : PeriodicSchedulingTerm) (timestamp : Int) :
    (term.onExecute timestamp).policy = term.policy ∧
      (term.onExecute timestamp).recessPeriodNs = term.recessPeriodNs := by
  unfold onExecute
  split
  next => exact ⟨rfl, rfl⟩
  next => cases term.policy <;> exact ⟨rfl, rfl⟩

theorem foldl_onExecute_parameters (term : PeriodicSchedulingTerm) (executed : List Int) :
    (executed.foldl onExecute term).policy = term.policy ∧
      (executed.foldl onExecute term).recessPeriodNs = term.recessPeriodNs := by
  induction executed generalizing term with
  | nil => exact ⟨rfl, rfl⟩
  | cons timestamp executed ih =>
      obtain ⟨samePolicy, samePeriod⟩ := ih (term.onExecute timestamp)
      obtain ⟨policy, period⟩ := onExecute_parameters term timestamp
      exact ⟨samePolicy.trans policy, samePeriod.trans period⟩

theorem dependable_of_positive {term : PeriodicSchedulingTerm} (positive : 1 ≤ term.recessPeriodNs)
    (fits : term.recessPeriodNs < 2 ^ 63) : term.Dependable where
  positive := positive
  fits := fits
  divides executed isZero := by
    have samePeriod := (foldl_onExecute_parameters term executed).2
    unfold divisor at isZero
    split at isZero
    next =>
      have zero : (executed.foldl onExecute term).recessPeriodNs = 0 := Option.some.inj isZero
      omega
    all_goals cases isZero
  advances catchesUp executed timestamp target isTarget := by
    obtain ⟨samePolicy, samePeriod⟩ := foldl_onExecute_parameters term executed
    refine ⟨Lib.int64 (target + term.recessPeriodNs), ?_, ?_, fun inside => ?_⟩
    · rw [onExecute, isTarget]
      dsimp only
      rw [samePolicy, catchesUp, samePeriod]
    · rw [Lib.int64]
      omega
    · rw [samePeriod] at inside
      rw [Lib.int64_eq_self inside]
      omega

end PeriodicSchedulingTerm

/-- The numbers of a unit whose period is at least a nanosecond and less than `2 ^ 63` of them.  The
double of a product reaches a bound from half a unit below it; `9671406556917033` is one less than
twice the mantissa of a billionth, and `1152921504606847` is the mantissa of a thousandth. -/
def PeriodUnit.Representable : PeriodUnit → Rat → Prop
  | nanoseconds, value => 1 ≤ value ∧ value < 2 ^ 63
  | hertz, value => 9671406556917033 * value < 2 ^ 83 ∧ 2 ^ 20 ≤ 9671406556917033 * value
  | milliseconds, value =>
      9671406556917033 < 2 ^ 23 * (1152921504606847 * value) ∧
        1152921504606847 * value ≤ 2 ^ 40 * 9671406556917033
  | seconds, value =>
      1 - 1 / 2 ^ 54 ≤ 1000000000 * value ∧ 1000000000 * value < 2 ^ 63 - 512

section Thresholds

variable {value : Rat}

theorem one_le_toDouble_iff : 1 ≤ toDouble value ↔ 1 - 1 / 2 ^ 54 ≤ value := by
  have reached := @dyadic_le_toDouble_iff value (2 ^ 53) (-53) (by norm_num) (by norm_num) le_rfl
  norm_num at reached ⊢
  rw [reached, ← le_iff_lt_or_eq]

theorem bound_le_toDouble_iff : 2 ^ 63 ≤ toDouble value ↔ 2 ^ 63 - 512 ≤ value := by
  have reached := @dyadic_le_toDouble_iff value (2 ^ 53) 10 (by norm_num) (by norm_num) le_rfl
  norm_num at reached ⊢
  rw [reached, ← le_iff_lt_or_eq]

/-- A bound on a billion times a double that `4835703278458517` is the first mantissa to reach. -/
theorem le_toDouble_mul_iff {exponent : Int} {bound : Rat} (normal : -1074 ≤ exponent)
    (reaches : bound ≤ 4835703278458517 * 2 ^ exponent * 1000000000)
    (short : toDouble (9671406556917033 / 2 * 2 ^ exponent) * 1000000000 < bound) :
    bound ≤ toDouble value * 1000000000 ↔ 9671406556917033 / 2 * 2 ^ exponent < value := by
  constructor
  · intro reached
    by_contra low
    have below := mul_le_mul_of_nonneg_right (toDouble_mono (not_lt.mp low))
      (by norm_num : (0 : Rat) ≤ 1000000000)
    exact absurd (reached.trans below) short.not_ge
  · intro past
    have first := (@dyadic_le_toDouble_iff value 4835703278458517 exponent normal (by norm_num)
      (by norm_num)).mpr (.inl (by push_cast; linarith))
    push_cast at first
    exact reaches.trans (mul_le_mul_of_nonneg_right first (by norm_num))

theorem one_le_scaled_iff : 1 ≤ toDouble (toDouble value * 1000000000) ↔
    9671406556917033 < 2 ^ 83 * value := by
  rw [one_le_toDouble_iff, @le_toDouble_mul_iff _ (-82) _ (by norm_num) (by norm_num)
    (by decide +kernel)]
  norm_num
  constructor <;> intro less <;> linarith

theorem bound_le_scaled_iff : 2 ^ 63 ≤ toDouble (toDouble value * 1000000000) ↔
    9671406556917033 < 2 ^ 20 * value := by
  rw [bound_le_toDouble_iff, @le_toDouble_mul_iff _ (-19) _ (by norm_num) (by norm_num)
    (by decide +kernel)]
  norm_num
  constructor <;> intro less <;> linarith

theorem toDouble_thousandth : toDouble (1 / 1000) = 1152921504606847 / 2 ^ 60 := by decide +kernel

end Thresholds

namespace PeriodUnit

theorem representable_iff (unit : PeriodUnit) {value : Rat} (positive : 0 < value) :
    unit.Representable value ↔ 1 ≤ unit.period value ∧ unit.period value < 2 ^ 63 := by
  rw [← not_le (a := (2 : Rat) ^ 63)]
  cases unit with
  | nanoseconds => rw [period, not_le, Representable]
  | hertz =>
      rw [period, one_le_scaled_iff, bound_le_scaled_iff, not_lt, mul_one_div, mul_one_div,
        lt_div_iff₀ positive, div_le_iff₀ positive, Representable]
  | milliseconds =>
      rw [period, one_le_scaled_iff, bound_le_scaled_iff, toDouble_thousandth, not_lt,
        Representable]
      constructor <;> rintro ⟨atLeast, below⟩ <;> constructor <;> linarith
  | seconds =>
      rw [period, one_le_toDouble_iff, bound_le_toDouble_iff, not_le, Representable, mul_comm]

theorem truncate_period_iff (unit : PeriodUnit) {value : Rat} (positive : 0 < value) :
    (1 ≤ (truncate (unit.period value)).toNat ∧
        (truncate (unit.period value)).toNat < 2 ^ 63) ↔ unit.Representable value := by
  rw [representable_iff unit positive, truncate_eq_floor (unit.period_nonneg positive)]
  have atLeast : (1 : Int) ≤ ⌊unit.period value⌋ ↔ 1 ≤ unit.period value := by
    rw [Int.le_floor, Int.cast_one]
  have below : ⌊unit.period value⌋ < 2 ^ 63 ↔ unit.period value < 2 ^ 63 := by
    rw [Int.floor_lt]
    norm_cast
  rw [← atLeast, ← below]
  omega

end PeriodUnit

open PeriodicSchedulingTerm

/-- For every text: the terms that it gives are dependable if and only if its number is in the range
of its unit. -/
theorem initParsed_dependable_iff (text : Text) :
    (∀ policy term, initParsed policy text = .ok term → term.Dependable) ↔
      ∀ value unit, quantity text = some (value, unit) → unit.Representable value := by
  have parsed := parseRecessPeriodString_eq text
  cases isQuantity : quantity text with
  | none =>
      rw [isQuantity] at parsed
      refine iff_of_true (fun policy term isTerm => ?_) nofun
      rw [initParsed, parsed] at isTerm
      cases isTerm
  | some entry =>
      obtain ⟨value, unit⟩ := entry
      rw [isQuantity] at parsed
      dsimp only at parsed
      have positive := pos_of_quantity isQuantity
      constructor
      · intro dependable other otherUnit same
        cases same
        have term := dependable .kNoCatchUpMissedTicks _ (by rw [initParsed, parsed])
        exact (unit.truncate_period_iff positive).mp ⟨term.positive, term.fits⟩
      · intro inRange policy term isTerm
        rw [initParsed, parsed] at isTerm
        cases isTerm
        obtain ⟨atLeast, below⟩ := (unit.truncate_period_iff positive).mpr (inRange value unit rfl)
        exact dependable_of_positive atLeast below

/-- Half a nanosecond is accepted: its period is zero, and the second execution divides by it. -/
theorem half_nanosecond_divides_by_zero :
    ∃ term, initParsed .kNoCatchUpMissedTicks "0.5".toList = .ok term ∧
      (term.onExecute 7).divisor = some 0 ∧ ¬term.Dependable := by
  refine ⟨init .kNoCatchUpMissedTicks 0, by decide +kernel, rfl, fun dependable => ?_⟩
  exact absurd dependable.positive (by decide)

example : initParsed .kCatchUpMissedTicks "2e9hz".toList = .ok (init .kCatchUpMissedTicks 0) := by
  decide +kernel

example : parseRecessPeriodString "1e30".toList = .ok 1000000000000000000000000000000 := by
  decide +kernel

end Gxf.Std
