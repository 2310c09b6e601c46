import Gxf.Lib.Layout

/-!
# Elements in the order of rows

The elements of an array are numbered in the order of rows, so that every number below the product
of the dimensions belongs to one index.  The offset of an element is then a function of its number,
which turns the concatenation of dimensions into a division with remainder.
-/

namespace Gxf.Lib.Layout

def rowNumber : List Nat → List Nat → Nat
  | position :: index, _ :: dims => position * dims.prod + rowNumber index dims
  | _, _ => 0

def indexOf : List Nat → Nat → List Nat
  | [], _ => []
  | _ :: dims, number => number / dims.prod :: indexOf dims (number % dims.prod)

variable {index dims : List Nat}

theorem rowNumber_lt (inside : Inside index dims) : rowNumber index dims < dims.prod := by
  induction inside with
  | nil => exact Nat.zero_lt_one
  | @cons position dim index dims less inside ih =>
      calc position * dims.prod + rowNumber index dims
          < position * dims.prod + dims.prod := Nat.add_lt_add_left ih _
        _ = (position + 1) * dims.prod := by ring
        _ ≤ dim * dims.prod := Nat.mul_le_mul_right _ less
        _ = (dim :: dims).prod := List.prod_cons.symm

theorem indexOf_rowNumber (inside : Inside index dims) :
    indexOf dims (rowNumber index dims) = index := by
  induction inside with
  | nil => rfl
  | @cons position dim index dims less inside ih =>
      have small := rowNumber_lt inside
      have positive : 0 < dims.prod := Nat.zero_lt_of_lt small
      rw [rowNumber, indexOf, Nat.mul_comm, Nat.mul_add_div positive, Nat.mul_add_mod,
        Nat.div_eq_of_lt small, Nat.mod_eq_of_lt small, Nat.add_zero, ih]

section Offset

variable {R : Type*} [Semiring R]

def offsetAt (dims : List Nat) (strides : List R) (number : Nat) : R :=
  offset (indexOf dims number) strides

theorem offsetAt_rowNumber {index : List Nat} (inside : Inside index dims)
    (strides : List R) : offsetAt dims strides (rowNumber index dims) = offset index strides := by
  rw [offsetAt, indexOf_rowNumber inside]

theorem offsetAt_cons (dim : Nat) (dims : List Nat) (stride : R) (strides : List R) (number : Nat) :
    offsetAt (dim :: dims) (stride :: strides) number =
      ((number / dims.prod : Nat) : R) * stride + offsetAt dims strides (number % dims.prod) :=
  rfl

theorem offsetAt_zero (dims : List Nat) (strides : List R) : offsetAt dims strides 0 = 0 := by
  induction dims generalizing strides with
  | nil => cases strides <;> rfl
  | cons dim dims ih =>
      cases strides with
      | nil => rfl
      | cons stride strides =>
          rw [offsetAt_cons, Nat.zero_div, Nat.zero_mod, ih, Nat.cast_zero, zero_mul, zero_add]

variable {number : Nat}

theorem prod_pos_of_lt {dim : Nat} (below : number < (dim :: dims).prod) : 0 < dims.prod := by
  rw [List.prod_cons] at below
  exact Nat.pos_of_lt_mul_left below

theorem offsetAt_append {strides : List R}
    (length : strides.length = dims.length) (innerDims : List Nat) (innerStrides : List R)
    (below : number < (dims ++ innerDims).prod) :
    offsetAt (dims ++ innerDims) (strides ++ innerStrides) number =
      offsetAt dims strides (number / innerDims.prod) +
        offsetAt innerDims innerStrides (number % innerDims.prod) := by
  induction dims generalizing strides number with
  | nil =>
      rw [List.nil_append] at below
      rw [List.length_eq_zero_iff.mp length, List.nil_append, List.nil_append,
        Nat.mod_eq_of_lt below]
      exact (zero_add _).symm
  | cons dim dims ih =>
      obtain ⟨stride, strides, rfl⟩ := List.exists_cons_of_length_eq_add_one length
      rw [List.cons_append] at below
      have smaller : number % (dims ++ innerDims).prod < (dims ++ innerDims).prod :=
        Nat.mod_lt number (prod_pos_of_lt below)
      rw [List.cons_append, List.cons_append, offsetAt_cons, offsetAt_cons,
        ih (Nat.succ.inj length) smaller, List.prod_append, Nat.mod_mul_left_mod,
        Nat.mod_mul_left_div_self, Nat.div_div_eq_div_mul, Nat.mul_comm innerDims.prod, add_assoc]

theorem offsetAt_packed (width : R) (below : number < dims.prod) :
    offsetAt dims (packed width dims) number = number * width := by
  induction dims generalizing number with
  | nil =>
      cases Nat.lt_one_iff.mp below
      exact (offsetAt_zero _ _).trans (by rw [Nat.cast_zero, zero_mul])
  | cons dim dims ih =>
      rw [packed, offsetAt_cons, ih (Nat.mod_lt number (prod_pos_of_lt below)),
        ← Nat.cast_comm dims.prod width, ← mul_assoc, ← Nat.cast_mul, ← add_mul, ← Nat.cast_add,
        Nat.mul_comm, Nat.div_add_mod]

/-- Dimensions with one position add nothing. -/
theorem offsetAt_cons_one (dims : List Nat) (stride : R) (strides : List R)
    (below : number < dims.prod) :
    offsetAt (1 :: dims) (stride :: strides) number = offsetAt dims strides number := by
  rw [offsetAt_cons, Nat.div_eq_of_lt below, Nat.mod_eq_of_lt below, Nat.cast_zero, zero_mul,
    zero_add]

end Offset

end Gxf.Lib.Layout
