import Gxf.Core.Result
import Gxf.Lib.Layout
import Mathlib.Algebra.BigOperators.Group.List.Lemmas
import Mathlib.Data.UInt

/-!
# Shapes and strides of tensors

A shape has up to eight dimensions.  Strides are computed from the innermost dimension to the
outermost one, where each stride is rounded up to a multiple of a step, in 64-bit arithmetic.
-/

namespace Gxf.Std

open Gxf.Core Gxf.Lib

/-- `PrimitiveType`. -/
inductive PrimitiveType where
  | kCustom
  | kInt8
  | kUnsigned8
  | kInt16
  | kUnsigned16
  | kInt32
  | kUnsigned32
  | kInt64
  | kUnsigned64
  | kFloat32
  | kFloat64
  | kComplex64
  | kComplex128
  | kFloat16
  deriving DecidableEq, Repr

/-- `PrimitiveTypeSize(primitive)`, in bytes. -/
def primitiveTypeSize : PrimitiveType → UInt64
  | .kInt8 | .kUnsigned8 => 1
  | .kInt16 | .kUnsigned16 | .kFloat16 => 2
  | .kInt32 | .kUnsigned32 | .kFloat32 => 4
  | .kInt64 | .kUnsigned64 | .kFloat64 | .kComplex64 => 8
  | .kComplex128 => 16
  | .kCustom => 0

/-- `Shape::kMaxRank`. -/
def kMaxRank : Nat := 8

/-- `Shape`, with the dimensions below its rank. -/
structure Shape where
  dimensions : List Int32
  rank_le : dimensions.length ≤ kMaxRank
  deriving DecidableEq

namespace Shape

/-- The constructor from a vector, which stops at the maximal rank. -/
def ofVector (dimensions : List Int32) : Shape :=
  ⟨dimensions.take kMaxRank, List.length_take_le _ _⟩

def rank (shape : Shape) : Nat := shape.dimensions.length

/-- The conversion of a dimension to an unsigned 64-bit number. -/
def widen (dimension : Int32) : UInt64 := dimension.toInt64.toUInt64

/-- `size()`, the number of elements. -/
def size (shape : Shape) : UInt64 :=
  if shape.rank = 0 then 0
  else shape.dimensions.foldl (fun elementCount dimension => elementCount * widen dimension) 1

/-- `dimension(index)`. -/
def dimension (shape : Shape) (index : Nat) : Int32 :=
  if shape.rank = 0 then 0 else shape.dimensions.getD index 1

/-- `valid()`. -/
def Valid (shape : Shape) : Prop := ∀ dimension ∈ shape.dimensions, 0 < dimension.toInt

instance (shape : Shape) : Decidable shape.Valid :=
  List.decidableBAll (fun dimension : Int32 => 0 < dimension.toInt) shape.dimensions

/-- The dimensions as numbers. -/
def dims (shape : Shape) : List Nat := shape.dimensions.map fun dimension => dimension.toInt.toNat

/-- An index of an element.  A shape of rank 0 has no elements. -/
def Contains (shape : Shape) (index : List Nat) : Prop :=
  shape.rank ≠ 0 ∧ Layout.Inside index shape.dims

end Shape

/-- `kTrivialStrideSteps`. -/
def kTrivialStrideSteps : List UInt64 := List.replicate kMaxRank 1

/-- The entries of a stride array below the rank of its shape. -/
abbrev Strides := List UInt64

/-- The loop of `ComputeStrides`, from the innermost dimension outwards. -/
def stridesOf : List Int32 → List UInt64 → Strides
  | _ :: lower :: dimensions, rankStep :: steps =>
      let inner := stridesOf (lower :: dimensions) steps
      (inner.headD 0 * Shape.widen lower + rankStep - 1) / rankStep * rankStep :: inner
  | [_], rankStep :: _ => [rankStep]
  | _, _ => []

/-- `ComputeStrides(shape, stride_steps)`. -/
def computeStrides (shape : Shape) (strideSteps : List UInt64) : Strides :=
  stridesOf shape.dimensions strideSteps

/-- `ComputeTrivialStrides(shape, bytes_per_element)`. -/
def computeTrivialStrides (shape : Shape) (bytesPerElement : UInt32) : Strides :=
  computeStrides shape (kTrivialStrideSteps.set (shape.rank - 1) bytesPerElement.toUInt64)

namespace Shape

variable {shape : Shape}

theorem toNat_widen {dimension : Int32} (nonneg : 0 ≤ dimension.toInt) :
    (widen dimension).toNat = dimension.toInt.toNat := by
  have wide : dimension.toInt64.toInt = dimension.toInt := Int32.toInt_toInt64 dimension
  have wideNonneg : 0 ≤ dimension.toInt64 := by
    rw [Int64.le_iff_toInt_le, wide]
    exact nonneg
  rw [widen, Int64.toNat_toUInt64_of_le wideNonneg, Int64.toNatClampNeg, wide]

theorem Valid.nonneg (valid : shape.Valid) : ∀ dimension ∈ shape.dimensions, 0 ≤ dimension.toInt :=
  fun dimension among => Int.le_of_lt (valid dimension among)

theorem toNat_foldl_widen {dimensions : List Int32}
    (nonneg : ∀ dimension ∈ dimensions, 0 ≤ dimension.toInt) (start : UInt64) :
    (dimensions.foldl (fun elementCount dimension => elementCount * widen dimension) start).toNat =
      start.toNat * (dimensions.map fun dimension => dimension.toInt.toNat).prod % 2 ^ 64 := by
  induction dimensions generalizing start with
  | nil =>
      rw [List.foldl_nil, List.map_nil, List.prod_nil, Nat.mul_one, Nat.mod_eq_of_lt start.toNat_lt]
  | cons dimension dimensions ih =>
      obtain ⟨here, later⟩ := List.forall_mem_cons.mp nonneg
      rw [List.foldl_cons, ih later, UInt64.toNat_mul, toNat_widen here, List.map_cons,
        List.prod_cons, Nat.mod_mul_mod, Nat.mul_assoc]

/-- `size()` is the product of the dimensions, in 64 bits. -/
theorem toNat_size (nonneg : ∀ dimension ∈ shape.dimensions, 0 ≤ dimension.toInt)
    (some : shape.rank ≠ 0) : shape.size.toNat = shape.dims.prod % 2 ^ 64 := by
  rw [size, if_neg some, toNat_foldl_widen nonneg, UInt64.toNat_one, Nat.one_mul, dims]

end Shape

theorem length_stridesOf {dimensions : List Int32} {steps : List UInt64}
    (enough : dimensions.length ≤ steps.length) :
    (stridesOf dimensions steps).length = dimensions.length := by
  induction dimensions generalizing steps with
  | nil => rfl
  | cons dimension dimensions ih =>
      cases steps with
      | nil => exact absurd enough (by simp)
      | cons rankStep steps =>
          cases dimensions with
          | nil => rfl
          | cons lower dimensions =>
              rw [stridesOf, List.length_cons, ih (Nat.le_of_succ_le_succ enough)]
              rfl

/-- No stride wraps around when it is rounded up. -/
def Exact : List Int32 → List UInt64 → Prop
  | _ :: lower :: dimensions, rankStep :: steps =>
      ((stridesOf (lower :: dimensions) steps).headD 0).toNat * lower.toInt.toNat +
          rankStep.toNat ≤ 2 ^ 64 ∧
        Exact (lower :: dimensions) steps
  | _, _ => True

theorem le_roundUp {value step : UInt64} (positive : 0 < step.toNat)
    (exact : value.toNat + step.toNat ≤ 2 ^ 64) :
    value.toNat ≤ ((value + step - 1) / step * step).toNat := by
  have sum : (value + step - 1).toNat = value.toNat + step.toNat - 1 := by
    rw [UInt64.toNat_sub, UInt64.toNat_add, UInt64.toNat_one]
    omega
  have divided := Nat.div_add_mod (value.toNat + step.toNat - 1) step.toNat
  have small := Nat.mod_lt (value.toNat + step.toNat - 1) positive
  have atMost := Nat.div_mul_le_self (value.toNat + step.toNat - 1) step.toNat
  rw [Nat.mul_comm] at divided
  rw [UInt64.toNat_mul, UInt64.toNat_div, sum, Nat.mod_eq_of_lt (by omega)]
  omega

section Ring

open scoped UInt64.CommRing

theorem widen_eq_cast {dimension : Int32} (positive : 0 < dimension.toInt) :
    Shape.widen dimension = (dimension.toInt.toNat : UInt64) := by
  rw [← Shape.toNat_widen (Int.le_of_lt positive)]
  exact UInt64.ofNat_toNat.symm

/-- With steps of 1 nothing is rounded. -/
theorem stridesOf_trivial {dimensions : List Int32} {rest : List UInt64}
    (valid : ∀ dimension ∈ dimensions, 0 < dimension.toInt) (some : dimensions ≠ [])
    (width : UInt64) :
    stridesOf dimensions (List.replicate (dimensions.length - 1) 1 ++ width :: rest) =
      Layout.packed width (dimensions.map fun dimension => dimension.toInt.toNat) := by
  induction dimensions with
  | nil => exact absurd rfl some
  | cons dimension dimensions ih =>
      cases dimensions with
      | nil => simp [stridesOf, Layout.packed]
      | cons lower dimensions =>
          have inner := ih (List.forall_mem_cons.mp valid).2 (List.cons_ne_nil _ _)
          have lowerPositive := (List.forall_mem_cons.mp (List.forall_mem_cons.mp valid).2).1
          have steps : List.replicate ((dimension :: lower :: dimensions).length - 1)
              (1 : UInt64) ++ width :: rest =
              1 :: (List.replicate ((lower :: dimensions).length - 1) 1 ++ width :: rest) := rfl
          rw [steps, stridesOf, inner, widen_eq_cast lowerPositive]
          simp only [List.map_cons, Layout.packed, List.headD_cons, UInt64.div_one, mul_one,
            add_sub_cancel_right, List.prod_cons, Nat.cast_mul]
          rw [mul_assoc, mul_comm (lower.toInt.toNat : UInt64)]

theorem set_replicate (front back : Nat) (one width : UInt64) :
    (List.replicate (front + (back + 1)) one).set front width =
      List.replicate front one ++ width :: List.replicate back one := by
  rw [List.replicate_add, List.set_append_right _ _ (by rw [List.length_replicate]),
    List.length_replicate, Nat.sub_self, List.replicate_succ, List.set_cons_zero]

theorem computeTrivialStrides_eq {shape : Shape} (valid : shape.Valid) (width : UInt32) :
    computeTrivialStrides shape width = Layout.packed width.toUInt64 shape.dims := by
  obtain ⟨dimensions, within⟩ := shape
  cases dimensions with
  | nil => rfl
  | cons dimension dimensions =>
      have split : kTrivialStrideSteps.set dimensions.length width.toUInt64 =
          List.replicate dimensions.length 1 ++
            width.toUInt64 :: List.replicate (kMaxRank - dimensions.length - 1) 1 := by
        rw [List.length_cons] at within
        rw [← set_replicate, kTrivialStrideSteps]
        congr
        omega
      exact (congrArg (stridesOf (dimension :: dimensions)) split).trans
        (stridesOf_trivial valid (List.cons_ne_nil _ _) width.toUInt64)

end Ring

end Gxf.Std
