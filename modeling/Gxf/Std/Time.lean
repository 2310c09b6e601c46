import Gxf.Lib.Double
import Gxf.Std.GraphDriver.Parameters

/-!
# Periods as texts

A period is a number with a unit.  Numbers are read as `std::strtod` documents it, with the exact
value of what is read.  Products and quotients are rounded to doubles, and converted to integers by
dropping the fraction.
-/

namespace Gxf.Std

open Gxf.Core Gxf.Lib ComponentParams

/-- A number that `std::strtod` returns. -/
inductive Double where
  | finite (value : Rat)
  | infinite
  | nan
  deriving DecidableEq, Repr

def digitValue (c : Char) : Nat :=
  if c.isDigit then c.toNat - '0'.toNat else c.toLower.toNat - 'a'.toNat + 10

def digitsValue (base : Nat) (digits : Text) : Nat :=
  digits.foldl (fun value c => value * base + digitValue c) 0

/-- Whether a character is a digit in base 16. -/
def isHexDigit (c : Char) : Bool :=
  c.isDigit || ('a'.toNat ≤ c.toLower.toNat && c.toLower.toNat ≤ 'f'.toNat)

/-- Digits with an optional point, and what follows them. -/
def scanMantissa (base : Nat) (isDigit : Char → Bool) (text : Text) : Option (Rat × Text) :=
  let whole := text.takeWhile isDigit
  let (fraction, rest) :=
    match text.dropWhile isDigit with
    | '.' :: behind => (behind.takeWhile isDigit, behind.dropWhile isDigit)
    | rest => ([], rest)
  if whole = [] ∧ fraction = [] then none
  else some ((digitsValue base (whole ++ fraction) : Rat) / (base ^ fraction.length : Nat), rest)

/-- The factor of an optional exponent behind a mark, and what follows it. -/
def scanExponent (base : Nat) (mark : Char) (text : Text) : Rat × Text :=
  match text with
  | [] => (1, [])
  | c :: behind =>
      let (negative, unsigned) := splitSign behind
      let digits := unsigned.takeWhile Char.isDigit
      if c.toLower ≠ mark ∨ digits = [] then (1, text)
      else
        let factor : Rat := (base ^ digitsValue 10 digits : Nat)
        (if negative then 1 / factor else factor, unsigned.dropWhile Char.isDigit)

/-- A number behind its sign. -/
def scanUnsigned (text : Text) : Option (Double × Text) :=
  let decimal := (scanMantissa 10 Char.isDigit text).map fun (mantissa, rest) =>
    let (factor, rest) := scanExponent 10 'e' rest
    (.finite (mantissa * factor), rest)
  match text.take 2 |>.map Char.toLower with
  | ['0', 'x'] =>
      match scanMantissa 16 isHexDigit (text.drop 2) with
      | some (mantissa, rest) =>
          let (factor, rest) := scanExponent 2 'p' rest
          some (.finite (mantissa * factor), rest)
      | none => decimal
  | _ =>
      if (text.take 8).map Char.toLower = "infinity".toList then some (.infinite, text.drop 8)
      else if (text.take 3).map Char.toLower = "inf".toList then some (.infinite, text.drop 3)
      else if (text.take 3).map Char.toLower = "nan".toList then
        let rest := text.drop 3
        match rest with
        | '(' :: inner =>
            match inner.dropWhile fun c => c.isAlphanum || c == '_' with
            | ')' :: behind => some (.nan, behind)
            | _ => some (.nan, rest)
        | _ => some (.nan, rest)
      else decimal

/-- `std::strtod(text, &suffix)`, unless no number can be read. -/
def strtod (text : Text) : Option (Double × Text) :=
  let (negative, unsigned) := splitSign (text.dropWhile isSpace)
  (scanUnsigned unsigned).map fun (number, rest) =>
    match number with
    | .finite value => (.finite (if negative then -value else value), rest)
    | .infinite => (.infinite, rest)
    | .nan => (.nan, rest)

/-- `static_cast<int64_t>(value)`, for any number. -/
def truncate (value : Rat) : Int := value.num.tdiv value.den

/-- `TimeToTimestamp(time)`. -/
def timeToTimestamp (time : Rat) : Int := truncate (toDouble (time * 1000000000))

def discardSpace : Text → Text
  | ' ' :: rest => rest
  | suffix => suffix

/-- `ParseRecessPeriodString(text, cid)`. -/
def parseRecessPeriodString (text : Text) : Except GxfResult Int :=
  match strtod (text.map Char.toLower) with
  | some (.finite value, suffix) =>
      if value ≤ 0 then .error .GXF_ARGUMENT_INVALID
      else
        let suffixString := discardSpace suffix
        if suffixString = [] then .ok (truncate value)
        else if suffixString = "hz".toList then .ok (timeToTimestamp (toDouble (1 / value)))
        else if suffixString = "ms".toList then
          .ok (timeToTimestamp (toDouble (toDouble (1 / 1000) * value)))
        else if suffixString = "s".toList then .ok (timeToTimestamp value)
        else .error .GXF_ARGUMENT_INVALID
  | some (.infinite, _) | some (.nan, _) | none => .error .GXF_ARGUMENT_INVALID

example : (parseRecessPeriodString "50Hz".toList).toOption = some 20000000 := by decide +kernel

example : (parseRecessPeriodString "0.2s".toList).toOption = some 200000000 := by decide +kernel

example : (parseRecessPeriodString " 0x1.8p1 ms".toList).toOption = some 3000000 := by
  decide +kernel

/-- The units of a period. -/
inductive PeriodUnit where
  | nanoseconds
  | hertz
  | milliseconds
  | seconds
  deriving DecidableEq, Repr

namespace PeriodUnit

def ofSuffix (suffix : Text) : Option PeriodUnit :=
  let suffixString := discardSpace suffix
  if suffixString = [] then some nanoseconds
  else if suffixString = "hz".toList then some hertz
  else if suffixString = "ms".toList then some milliseconds
  else if suffixString = "s".toList then some seconds
  else none

/-- The period of a number in nanoseconds, with its fraction. -/
def period : PeriodUnit → Rat → Rat
  | nanoseconds, value => value
  | hertz, value => toDouble (toDouble (1 / value) * 1000000000)
  | milliseconds, value => toDouble (toDouble (toDouble (1 / 1000) * value) * 1000000000)
  | seconds, value => toDouble (value * 1000000000)

end PeriodUnit

/-- The number and the unit of an accepted text. -/
def quantity (text : Text) : Option (Rat × PeriodUnit) :=
  match strtod (text.map Char.toLower) with
  | some (.finite value, suffix) =>
      if value ≤ 0 then none else (PeriodUnit.ofSuffix suffix).map fun unit => (value, unit)
  | some (.infinite, _) | some (.nan, _) | none => none

theorem parseRecessPeriodString_eq (text : Text) : parseRecessPeriodString text =
      match quantity text with
      | some (value, unit) => .ok (truncate (unit.period value))
      | none => .error .GXF_ARGUMENT_INVALID := by
  unfold parseRecessPeriodString quantity
  split
  next value suffix isNumber =>
    split
    next => rfl
    next =>
      unfold PeriodUnit.ofSuffix
      dsimp only
      split
      next => rfl
      next =>
        split
        next => rfl
        next =>
          split
          next => rfl
          next => split <;> rfl
  next => rfl
  next => rfl
  next => rfl

/-- Only positive numbers are accepted. -/
theorem pos_of_quantity {text : Text} {value : Rat} {unit : PeriodUnit}
    (isQuantity : quantity text = some (value, unit)) : 0 < value := by
  unfold quantity at isQuantity
  split at isQuantity
  next =>
    split at isQuantity
    next => cases isQuantity
    next positive =>
      obtain ⟨_, _, same⟩ := Option.map_eq_some_iff.mp isQuantity
      cases same
      exact not_le.mp positive
  all_goals cases isQuantity

theorem PeriodUnit.period_nonneg (unit : PeriodUnit) {value : Rat} (positive : 0 < value) :
    0 ≤ unit.period value := by
  have scaled {time : Rat} (nonneg : 0 ≤ time) : 0 ≤ toDouble (time * 1000000000) :=
    toDouble_nonneg (mul_nonneg nonneg (by norm_num))
  cases unit with
  | nanoseconds => exact positive.le
  | hertz => exact scaled (toDouble_nonneg (one_div_nonneg.mpr positive.le))
  | milliseconds =>
      exact scaled (toDouble_nonneg (mul_nonneg (toDouble_nonneg (by norm_num)) positive.le))
  | seconds => exact scaled positive.le

theorem truncate_eq_floor {value : Rat} (nonneg : 0 ≤ value) : truncate value = ⌊value⌋ := by
  rw [truncate, Rat.floor_def', Int.tdiv_eq_ediv_of_nonneg (Rat.num_nonneg.mpr nonneg)]

end Gxf.Std
