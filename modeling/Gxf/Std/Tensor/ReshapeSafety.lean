import Gxf.Std.Tensor.Reshape

/-!
# Shapes that are not what they seem

The guard compares products in 32 bits, and the shape that is stored is cut off at the maximal rank.
The module says for which lists of new dimensions a call is safe all the same.
-/

namespace Gxf.Std.Tensor

open Gxf.Core Gxf.Lib

/-- What is asked of a call for any list: an error, or a shape of at most the maximal rank without
negative dimensions whose product is the number of elements, and no access out of range. -/
def ReshapesSafely (attributes : PointerAttributes) (tensor : Tensor) (newShape : List Int32) :
    Prop :=
  match tensor.noCopyReshape attributes newShape with
  | .returns _ (.error _) => True
  | .returns next (.ok _) =>
      next.shape.rank ≤ kMaxRank ∧ (∀ dim ∈ next.shape.dimensions, 0 ≤ dim.toInt) ∧
        (next.shape.dimensions.map Int32.toInt).prod = next.elementCount.toNat ∧
        next.elementCount = tensor.elementCount
  | .outOfRange | .aborts => False

/-- The entries that the walk reads: the squeezed dimensions and the padding. -/
def oldEntries (tensor : Tensor) : List (Int32 × UInt64) :=
  tensor.squeezed ++ List.replicate tensor.padding (0, 1)

/-- A list of new dimensions that is what it seems. -/
structure Fitting (tensor : Tensor) (newShape : List Int32) : Prop where
  rank : newShape.length ≤ kMaxRank
  nonneg : ∀ dim ∈ newShape, 0 ≤ dim.toInt
  product : (newShape.map Int32.toInt).prod = tensor.elementCount.toNat

theorem toInt_numelNewShape (newShape : List Int32) :
    (numelNewShape newShape).toInt = (newShape.map Int32.toInt).prod.bmod Int32.size := by
  have folded (start : Int32) : (newShape.foldl (· * ·) start).toInt =
      (start.toInt * (newShape.map Int32.toInt).prod).bmod Int32.size := by
    induction newShape generalizing start with
    | nil =>
        rw [List.foldl_nil, List.map_nil, List.prod_nil, mul_one]
        exact (Int32.toInt_bmod_size start).symm
    | cons dim newShape ih =>
        have product : (start * dim).toInt = (start.toInt * dim.toInt).bmod Int32.size :=
          Int32.toInt_mul start dim
        rw [List.foldl_cons, ih, product, List.map_cons, List.prod_cons, ← mul_assoc,
          Int.bmod_mul_bmod]
  rw [numelNewShape, folded, Int32.toInt_one, one_mul]

theorem guard_iff (elementCount : UInt64) (newShape : List Int32) :
    elementCount.toUInt32.toInt32 = numelNewShape newShape ↔
      (newShape.map Int32.toInt).prod % Int32.size = elementCount.toNat % Int32.size := by
  have truncated : elementCount.toUInt32.toInt32.toInt =
      (elementCount.toNat : Int).bmod Int32.size := by
    have bits : elementCount.toUInt32.toInt32.toInt =
        (elementCount.toUInt32.toNat : Int).bmod Int32.size :=
      BitVec.toInt_eq_toNat_bmod elementCount.toUInt32.toBitVec
    have low : elementCount.toUInt32.toNat = elementCount.toNat % Int32.size :=
      UInt64.toNat_toUInt32 elementCount
    rw [bits, low, Int.natCast_mod, Int.emod_bmod]
  rw [← Int32.toInt_inj, truncated, toInt_numelNewShape]
  constructor
  · intro same
    have remainders := congrArg (· % (Int32.size : Int)) same
    simp only [Int.bmod_emod] at remainders
    exact remainders.symm
  · intro same
    have reduced := congrArg (Int.bmod · Int32.size) same
    simp only [Int.emod_bmod] at reduced
    exact reduced.symm

section Call

variable {attributes : PointerAttributes} {tensor : Tensor} {newShape : List Int32}

theorem noCopyReshape_of_guard (passes : (newShape.map Int32.toInt).prod % Int32.size =
      tensor.elementCount.toNat % Int32.size) :
    tensor.noCopyReshape attributes newShape =
      match walk tensor.padding tensor.bytesPerElement newShape tensor.oldEntries with
      | .error .outOfRange => .outOfRange
      | .error .incompatible => .returns tensor (.error .GXF_ARGUMENT_NULL)
      | .ok newStrides => tensor.assign attributes newShape newStrides :=
  if_neg (not_not_intro ((guard_iff _ _).mpr passes))

theorem length_groupStrides (last : UInt64) (dims : List Int32) :
    (groupStrides last dims).length = dims.length := by
  induction dims with
  | nil => rfl
  | cons dim dims ih =>
      cases dims with
      | nil => rfl
      | cons inner dims => exact congrArg (· + 1) ih

theorem length_walk (padding : Nat) (last : UInt64) (newDims : List Int32)
    (old : List (Int32 × UInt64)) (newStrides : Strides) :
    walk padding last newDims old = .ok newStrides → newStrides.length = newDims.length := by
  fun_induction walk padding last newDims old generalizing newStrides with
  | case1 | case2 | case3 =>
      intro walked
      cases walked
      simp
  | case4 | case6 =>
      intro walked
      cases walked
  | case5 last newDim newDims oldDim oldStride old room nj oj found group chained innermost ih =>
      intro walked
      cases inner : walk padding innermost (newDims.drop nj) (old.drop oj) with
      | error fault =>
          rw [inner] at walked
          cases walked
      | ok strides =>
          rw [inner] at walked
          cases walked
          rw [List.length_append, length_groupStrides, ih strides inner, ← List.length_append,
            List.cons_append, List.take_append_drop]

end Call

/-- For every tensor and every list of new dimensions: a call is safe exactly if the products differ
in 32 bits, or the old dimensions of a group that ends within the lists do not lie without gaps,
or all groups end within the lists, the list is what it seems, and a context can be made anew. -/
theorem reshapesSafely_iff (attributes : PointerAttributes) (tensor : Tensor)
    (newShape : List Int32) :
    tensor.ReshapesSafely attributes newShape ↔
      (newShape.map Int32.toInt).prod % Int32.size ≠ tensor.elementCount.toNat % Int32.size ∨
        Blocked tensor.padding newShape tensor.oldEntries ∨
        Regroups tensor.padding newShape tensor.oldEntries ∧ tensor.Fitting newShape ∧
          tensor.Regenerable attributes := by
  by_cases passes : (newShape.map Int32.toInt).prod % Int32.size =
      tensor.elementCount.toNat % Int32.size
  swap
  · have refused : tensor.noCopyReshape attributes newShape =
        .returns tensor (.error .GXF_INVALID_DATA_FORMAT) :=
      if_pos (mt (guard_iff _ _).mp passes)
    rw [ReshapesSafely, refused]
    exact iff_of_true trivial (.inl passes)
  have blocked := @walk_incompatible_iff tensor.padding tensor.bytesPerElement newShape
    tensor.oldEntries
  have regroups := @walk_ok_iff tensor.padding tensor.bytesPerElement newShape tensor.oldEntries
  rw [ReshapesSafely, noCopyReshape_of_guard passes, or_iff_right (not_not_intro passes)]
  cases walked : walk tensor.padding tensor.bytesPerElement newShape tensor.oldEntries with
  | error fault =>
      rw [walked] at blocked regroups
      cases fault with
      | incompatible => exact iff_of_true trivial (.inl (blocked.mp rfl))
      | outOfRange =>
          have free : ¬Blocked tensor.padding newShape tensor.oldEntries := fun stopped => by
            cases blocked.mpr stopped
          have leaves : ¬Regroups tensor.padding newShape tensor.oldEntries := fun ends => by
            obtain ⟨strides, same⟩ := regroups.mpr ⟨ends, free⟩
            cases same
          exact iff_of_false not_false fun safe => safe.elim free fun both => leaves both.1
  | ok newStrides =>
      rw [walked] at regroups
      obtain ⟨ends, free⟩ := regroups.mp ⟨newStrides, rfl⟩
      rw [or_iff_right free, and_iff_right ends]
      have length := length_walk _ _ _ _ _ walked
      dsimp only
      by_cases rank : newShape.length ≤ kMaxRank
      swap
      · rw [assign, if_pos (length ▸ Nat.lt_of_not_le rank)]
        exact iff_of_false not_false fun both => rank both.1.rank
      have fits : newStrides.length ≤ kMaxRank := length ▸ rank
      by_cases regenerable : tensor.Regenerable attributes
      swap
      · rw [assign_of_not_regenerable regenerable fits]
        exact iff_of_false not_false fun both => regenerable both.2
      obtain ⟨next, returns, reshaped⟩ :=
        @assign_of_regenerable attributes tensor newShape newStrides regenerable fits
      rw [returns, and_iff_left regenerable]
      dsimp only
      rw [reshaped.dimensions rank, reshaped.elementCount]
      constructor
      · rintro ⟨-, nonneg, product, -⟩
        exact ⟨rank, nonneg, product⟩
      · rintro ⟨-, nonneg, product⟩
        exact ⟨next.shape.rank_le, nonneg, product, rfl⟩

/-- Nine dimensions are more than the arrays of shape and strides have. -/
theorem nine_dimensions_accepted :
    ¬∀ (attributes : PointerAttributes) (tensor : Tensor) (newShape : List Int32),
      tensor.ReshapesSafely attributes newShape := by
  intro claim
  have safely := claim (fun _ => none)
    { shape := ⟨[2], by decide⟩, elementCount := 2, strides := [1] } [2, 1, 1, 1, 1, 1, 1, 1, 1]
  have walked : walk 0 1 [2, 1, 1, 1, 1, 1, 1, 1, 1] [(2, 1)] =
      .ok [1, 1, 1, 1, 1, 1, 1, 1, 1] := by
    simp [walk, findMatch, dimensionsOf, Chained, groupStrides, Except.map]
  have overflows : ({ shape := ⟨[2], by decide⟩, elementCount := 2, strides := [1] } :
      Tensor).noCopyReshape (fun _ => none) [2, 1, 1, 1, 1, 1, 1, 1, 1] = .outOfRange := by
    have padding : ({ shape := ⟨[2], by decide⟩, elementCount := 2, strides := [1] } :
        Tensor).padding = 0 := by decide
    have oldEntries : ({ shape := ⟨[2], by decide⟩, elementCount := 2, strides := [1] } :
        Tensor).oldEntries = [(2, 1)] := by decide
    rw [noCopyReshape_of_guard (by decide), padding, oldEntries, walked]
    rfl
  rw [ReshapesSafely, overflows] at safely
  exact safely

end Gxf.Std.Tensor
