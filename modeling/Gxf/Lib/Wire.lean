import Mathlib.Data.UInt
import Mathlib.Tactic.Ring

/-!
# Formats of a fixed width

A format writes every value of a type as the same number of bytes and reads it back.  Headers
are assembled from formats of numbers, least significant byte first, without padding.
-/

namespace Gxf.Lib

/-- A format of a fixed width. -/
structure Format (Value : Type) where
  width : Nat
  encode : Value → List UInt8
  decode : List UInt8 → Value
  length_encode : ∀ value, (encode value).length = width
  decode_encode : ∀ value rest, decode (encode value ++ rest) = value

namespace Format

attribute [simp] length_encode

variable {Value Other : Type}

/-- The digits of a number to the base 256, lowest first. -/
def digits : Nat → Nat → List UInt8
  | 0, _ => []
  | width + 1, number => UInt8.ofNat number :: digits width (number / 256)

/-- The number with given digits, of which there are `width`. -/
def ofDigits : Nat → List UInt8 → Nat
  | width + 1, byte :: bytes => byte.toNat + 256 * ofDigits width bytes
  | _, _ => 0

theorem length_digits (width number : Nat) : (digits width number).length = width := by
  induction width generalizing number with
  | zero => rfl
  | succ width ih => exact congrArg Nat.succ (ih (number / 256))

theorem ofDigits_digits (width : Nat) {number : Nat} (small : number < 256 ^ width)
    (rest : List UInt8) : ofDigits width (digits width number ++ rest) = number := by
  induction width generalizing number with
  | zero => exact (Nat.lt_one_iff.mp small).symm
  | succ width ih =>
      have upper : number / 256 < 256 ^ width :=
        Nat.div_lt_of_lt_mul (by rwa [pow_succ, Nat.mul_comm] at small)
      calc ofDigits (width + 1) (digits (width + 1) number ++ rest) = (UInt8.ofNat number).toNat +
              256 * ofDigits width (digits width (number / 256) ++ rest) := rfl
        _ = number % 256 + 256 * (number / 256) := by rw [ih upper]; rfl
        _ = number := Nat.mod_add_div number 256

/-- Bit vectors, as the digits of their numbers. -/
def word (width : Nat) : Format (BitVec (8 * width)) where
  width := width
  encode bits := digits width bits.toNat
  decode bytes := BitVec.ofNat _ (ofDigits width bytes)
  length_encode bits := length_digits width bits.toNat
  decode_encode bits rest := by
    have small : bits.toNat < 256 ^ width := by
      have bound := bits.isLt
      rwa [Nat.pow_mul] at bound
    rw [ofDigits_digits width small, BitVec.ofNat_toNat, BitVec.setWidth_eq]

/-- The same bytes read as values of another type. -/
def via (format : Format Value) (view : Other → Value) (make : Value → Other)
    (make_view : ∀ other, make (view other) = other) : Format Other where
  width := format.width
  encode other := format.encode (view other)
  decode bytes := make (format.decode bytes)
  length_encode other := format.length_encode (view other)
  decode_encode other rest := by rw [format.decode_encode, make_view]

/-- One value after another. -/
def pair (format : Format Value) (after : Format Other) : Format (Value × Other) where
  width := format.width + after.width
  encode values := format.encode values.1 ++ after.encode values.2
  decode bytes := (format.decode bytes, after.decode (bytes.drop format.width))
  length_encode values := by
    rw [List.length_append, format.length_encode, after.length_encode]
  decode_encode values rest := by
    have skipped : (format.encode values.1 ++ (after.encode values.2 ++ rest)).drop
        format.width = after.encode values.2 ++ rest :=
      List.drop_left' (format.length_encode values.1)
    rw [List.append_assoc, format.decode_encode, skipped, after.decode_encode]

def array (format : Format Value) : (count : Nat) → Format (Vector Value count)
  | 0 =>
      { width := 0
        encode := fun _ => []
        decode := fun _ => #v[]
        length_encode := fun _ => rfl
        decode_encode := fun _ _ => Vector.eq_empty.symm }
  | count + 1 =>
      ((format.array count).pair format).via (fun values => (values.pop, values.back))
        (fun values => values.1.push values.2) Vector.push_pop_back

/-- Unsigned numbers of 64 bits. -/
def uint64 : Format UInt64 := (word 8).via UInt64.toBitVec UInt64.ofBitVec fun _ => rfl

/-- Unsigned numbers of 32 bits. -/
def uint32 : Format UInt32 := (word 4).via UInt32.toBitVec UInt32.ofBitVec fun _ => rfl

/-- Unsigned numbers of 16 bits. -/
def uint16 : Format UInt16 := (word 2).via UInt16.toBitVec UInt16.ofBitVec fun _ => rfl

/-- Bytes. -/
def uint8 : Format UInt8 := (word 1).via UInt8.toBitVec UInt8.ofBitVec fun _ => rfl

/-- Signed numbers of 64 bits. -/
def int64 : Format Int64 := uint64.via Int64.toUInt64 UInt64.toInt64 fun _ => rfl

/-- Signed numbers of 32 bits. -/
def int32 : Format Int32 := uint32.via Int32.toUInt32 UInt32.toInt32 fun _ => rfl

/-- Signed numbers of 16 bits. -/
def int16 : Format Int16 := uint16.via Int16.toUInt16 UInt16.toInt16 fun _ => rfl

/-- Signed bytes. -/
def int8 : Format Int8 := uint8.via Int8.toUInt8 UInt8.toInt8 fun _ => rfl

/-- Truth values, where every byte but 0 is read as true. -/
def bool : Format Bool := uint8.via (fun value => if value then 1 else 0) (· != 0) fun value => by
    cases value <;> rfl

theorem decode_encode_self (format : Format Value) (value : Value) :
    format.decode (format.encode value) = value := by
  simpa using format.decode_encode value []

end Format

end Gxf.Lib
