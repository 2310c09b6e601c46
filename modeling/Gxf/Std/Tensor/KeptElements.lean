import Gxf.Std.Tensor.Regrouping

/-!
# Reshaping keeps the elements

Dimensions with one position are left out before the walk; they change neither the numbers of the
elements nor their offsets, and a tensor without gaps has none between the dimensions that are left.
-/

namespace Gxf.Std.Tensor

open Gxf.Core Gxf.Lib Layout

/-- What is asked of a call: it returns, elements keep their offsets by their numbers, a contiguous
tensor gets the new shape, and an error changes neither the shape nor the strides. -/
structure Reshapes (attributes : PointerAttributes) (tensor : Tensor) (newShape : List Int32) :
    Prop where
  returns : ∃ next result, tensor.noCopyReshape attributes newShape = .returns next result
  kept : ∀ next, tensor.noCopyReshape attributes newShape = .returns next (.ok ()) →
    next.shape.dims = sizes newShape ∧
      ∀ index former : List Nat, Layout.Inside index next.shape.dims →
        Layout.Inside former tensor.shape.dims →
          rowNumber index next.shape.dims = rowNumber former tensor.shape.dims →
            next.offset index = tensor.offset former
  contiguous : tensor.isContiguous = true →
    ∃ next, tensor.noCopyReshape attributes newShape = .returns next (.ok ())
  refused : ∀ next code, tensor.noCopyReshape attributes newShape = .returns next (.error code) →
    next.shape = tensor.shape ∧ next.strides = tensor.strides

section Squeezed

variable {entries : List (Int32 × UInt64)}

/-- The entries with more or less than one position. -/
def squeeze (entries : List (Int32 × UInt64)) : List (Int32 × UInt64) :=
  entries.filter fun entry => decide (entry.1 ≠ 1)

theorem squeeze_one (stride : UInt64) (entries : List (Int32 × UInt64)) :
    squeeze ((1, stride) :: entries) = squeeze entries :=
  rfl

theorem squeeze_other {dim : Int32} (other : dim ≠ 1) (stride : UInt64)
    (entries : List (Int32 × UInt64)) :
    squeeze ((dim, stride) :: entries) = (dim, stride) :: squeeze entries :=
  List.filter_cons_of_pos (decide_eq_true other)

theorem prod_squeeze (entries : List (Int32 × UInt64)) :
    (sizes (dimensionsOf (squeeze entries))).prod = (sizes (dimensionsOf entries)).prod := by
  induction entries with
  | nil => rfl
  | cons entry entries ih =>
      obtain ⟨dim, stride⟩ := entry
      by_cases one : dim = 1
      · subst one
        rw [squeeze_one, ih]
        exact (Nat.one_mul _).symm
      · rw [squeeze_other one]
        exact congrArg (dim.toInt.toNat * ·) ih

section Ring

open scoped UInt64.CommRing

theorem offsetAt_squeeze (entries : List (Int32 × UInt64)) {number : Nat}
    (below : number < (sizes (dimensionsOf entries)).prod) :
    offsetAt (sizes (dimensionsOf (squeeze entries))) ((squeeze entries).map Prod.snd)
        number =
      offsetAt (sizes (dimensionsOf entries)) (entries.map Prod.snd) number := by
  induction entries generalizing number with
  | nil => rfl
  | cons entry entries ih =>
      obtain ⟨dim, stride⟩ := entry
      have smaller : number % (sizes (dimensionsOf entries)).prod <
          (sizes (dimensionsOf entries)).prod :=
        Nat.mod_lt number (prod_pos_of_lt below)
      by_cases one : dim = 1
      · subst one
        have inner : number < (sizes (dimensionsOf entries)).prod := by
          rwa [dimensionsOf, sizes, List.map_cons, List.map_cons, List.prod_cons,
            Int32.toInt_one, Int.toNat_one, Nat.one_mul] at below
        rw [squeeze_one, ih inner]
        exact (offsetAt_cons_one _ _ _ inner).symm
      · have rest := ih smaller
        have product := prod_squeeze entries
        rw [squeeze_other one]
        calc offsetAt (dim.toInt.toNat :: sizes (dimensionsOf (squeeze entries)))
              (stride :: (squeeze entries).map Prod.snd) number
            = ((number / (sizes (dimensionsOf entries)).prod : Nat) : UInt64) * stride +
                offsetAt (sizes (dimensionsOf (squeeze entries)))
                  ((squeeze entries).map Prod.snd)
                  (number % (sizes (dimensionsOf entries)).prod) := by
              rw [offsetAt_cons, product]
          _ = offsetAt (dim.toInt.toNat :: sizes (dimensionsOf entries))
                (stride :: entries.map Prod.snd) number := by
              rw [offsetAt_cons, rest]

/-- Leaving them out keeps strides without gaps. -/
theorem packed_squeeze {width : UInt64}
    (packed : entries.map Prod.snd = Layout.packed width (sizes (dimensionsOf entries))) :
    (squeeze entries).map Prod.snd =
      Layout.packed width (sizes (dimensionsOf (squeeze entries))) := by
  induction entries with
  | nil => rfl
  | cons entry entries ih =>
      obtain ⟨dim, stride⟩ := entry
      obtain ⟨here, later⟩ := List.cons.inj packed
      by_cases one : dim = 1
      · subst one
        exact ih later
      · have head : stride = width * ((sizes (dimensionsOf (squeeze entries))).prod : UInt64) := by
          rw [prod_squeeze]
          exact here
        rw [squeeze_other one, List.map_cons, ih later]
        exact congrArg (· :: _) head

end Ring

end Squeezed

/-! ## Calls -/

section Call

open scoped UInt64.CommRing

variable {attributes : PointerAttributes} {tensor : Tensor} {newShape : List Int32}

theorem entries_positive (valid : tensor.shape.Valid) :
    ∀ entry ∈ tensor.entries, 0 < entry.1.toInt := by
  intro entry member
  apply valid entry.1
  rw [← entries_dimensions]
  exact List.mem_map_of_mem member

theorem balanced_oldEntries (valid : tensor.shape.Valid)
    (count : tensor.elementCount.toNat = tensor.shape.dims.prod)
    (positive : ∀ dim ∈ newShape, 0 < dim.toInt)
    (product : (sizes newShape).prod = tensor.elementCount.toNat) :
    Balanced tensor.padding newShape tensor.oldEntries tensor.squeezed where
  split := rfl
  newPositive := positive
  oldPositive := fun entry member => entries_positive valid entry (List.mem_of_mem_filter member)
  same := by
    have left : (sizes (dimensionsOf tensor.squeezed)).prod =
        (sizes (dimensionsOf tensor.entries)).prod := prod_squeeze tensor.entries
    rw [product, count, left, dimensionsOf, entries_dimensions]
    rfl
  fits := product ▸ tensor.elementCount.toNat_lt

/-- Without gaps no group of the walk has one. -/
theorem chained_of_isContiguous (valid : tensor.shape.Valid)
    (contiguous : tensor.isContiguous = true) : Chained tensor.squeezed := by
  have rowMajor := (isContiguous_iff valid).mp contiguous
  have packed : tensor.entries.map Prod.snd =
      Layout.packed tensor.bytesPerElement (sizes (dimensionsOf tensor.entries)) := by
    rw [dimensionsOf, entries_dimensions, packed_eq_map_rowMajor]
    exact rowMajor
  apply chained_of_packed _ (packed_squeeze packed)
  exact fun entry member => entries_positive valid entry (List.mem_of_mem_filter member)

/-- What is stored has the elements in their places. -/
theorem offset_of_reshaped {next : Tensor} {newStrides : Strides}
    (fits : newShape.length ≤ kMaxRank) (reshaped : tensor.Reshaped next newShape newStrides)
    (product : (sizes newShape).prod = tensor.shape.dims.prod)
    (same : SameOffsets newShape newStrides tensor.squeezed) :
    next.shape.dims = sizes newShape ∧
      ∀ index former : List Nat, Layout.Inside index next.shape.dims →
        Layout.Inside former tensor.shape.dims →
          rowNumber index next.shape.dims = rowNumber former tensor.shape.dims →
            next.offset index = tensor.offset former := by
  have dims : next.shape.dims = sizes newShape := by
    rw [Shape.dims, reshaped.dimensions fits]
    rfl
  have oldDims : sizes (dimensionsOf tensor.entries) = tensor.shape.dims := by
    rw [dimensionsOf, entries_dimensions]
    rfl
  refine ⟨dims, fun index former inside formerInside number => ?_⟩
  have below : rowNumber former tensor.shape.dims < (sizes newShape).prod := by
    rw [product]
    exact rowNumber_lt formerInside
  have formerLength : former.length = tensor.shape.rank := by
    rw [formerInside.length_eq, Shape.dims, List.length_map, Shape.rank]
  have squeezed := offsetAt_squeeze tensor.entries (oldDims ▸ rowNumber_lt formerInside)
  calc next.offset index
      = offsetAt next.shape.dims newStrides (rowNumber index next.shape.dims) := by
        rw [offsetAt_rowNumber inside, ← stridedSum_eq, offset, reshaped.strides]
    _ = offsetAt (sizes newShape) newStrides
          (rowNumber former tensor.shape.dims) := by
        rw [number, dims]
    _ = offsetAt (sizes (dimensionsOf tensor.squeezed)) (tensor.squeezed.map Prod.snd)
          (rowNumber former tensor.shape.dims) := same _ below
    _ = offsetAt tensor.shape.dims (tensor.entries.map Prod.snd)
          (rowNumber former tensor.shape.dims) := by
        rw [← oldDims]
        exact squeezed
    _ = tensor.offset former := by
        rw [offsetAt_rowNumber formerInside, ← stridedSum_eq, offset_eq_entries formerLength]

end Call

/-- For every tensor with positive dimensions and every list of at most eight positive dimensions
with the same product: a call does what is asked of it exactly if a context can be made anew or the
old dimensions of a group do not lie without gaps. -/
theorem reshapes_iff (attributes : PointerAttributes) (tensor : Tensor) (newShape : List Int32)
    (valid : tensor.shape.Valid) (count : tensor.elementCount.toNat = tensor.shape.dims.prod)
    (fits : newShape.length ≤ kMaxRank) (positive : ∀ dim ∈ newShape, 0 < dim.toInt)
    (product : (sizes newShape).prod = tensor.elementCount.toNat) :
    tensor.Reshapes attributes newShape ↔
      tensor.Regenerable attributes ∨ Blocked tensor.padding newShape tensor.oldEntries := by
  have computes := @noCopyReshape_of_guard attributes tensor newShape
    (by rw [prod_toInt fun dim member => (positive dim member).le, product])
  rcases walk_keeps _ tensor.bytesPerElement _ _ _
    (balanced_oldEntries valid count positive product) with
    ⟨newStrides, walked, same⟩ | ⟨walked, gaps⟩
  · have free : ¬Blocked tensor.padding newShape tensor.oldEntries :=
      (walk_ok_iff.mp ⟨newStrides, walked⟩).2
    have strideFits : newStrides.length ≤ kMaxRank := length_walk _ _ _ _ _ walked ▸ fits
    rw [walked] at computes
    dsimp only at computes
    rw [or_iff_left free]
    constructor
    · rintro ⟨⟨next, result, returns⟩, -, -, -⟩
      by_contra stuck
      rw [computes, assign_of_not_regenerable stuck strideFits] at returns
      cases returns
    · intro regenerable
      obtain ⟨next, returns, reshaped⟩ :=
        @assign_of_regenerable attributes tensor newShape newStrides regenerable strideFits
      have succeeds := computes.trans returns
      refine ⟨⟨next, _, succeeds⟩, ?_, fun _ => ⟨next, succeeds⟩, ?_⟩
      · intro other returned
        cases succeeds.symm.trans returned
        exact offset_of_reshaped fits reshaped (product.trans count) same
      · intro other code fails
        cases succeeds.symm.trans fails
  · rw [walked] at computes
    refine iff_of_true ⟨⟨tensor, _, computes⟩, ?_, ?_, ?_⟩ (.inr (walk_incompatible_iff.mp walked))
    · intro next succeeds
      cases computes.symm.trans succeeds
    · intro contiguous
      exact absurd (chained_of_isContiguous valid contiguous) gaps
    · intro next code fails
      cases computes.symm.trans fails
      exact ⟨rfl, rfl⟩

/-- A contiguous matrix of bytes with its dimensions exchanged. -/
theorem reshapes_matrix : ({ shape := ⟨[2, 3], by decide⟩, elementCount := 6, strides := [3, 1] } :
      Tensor).Reshapes (fun _ => none) [3, 2] :=
  (reshapes_iff _ _ _ (by decide) (by decide) (by decide)
    (List.forall_iff_forall_mem.mp (by decide)) (by decide)).mpr (.inl (regenerable_of_none rfl))

def deviceVector : Tensor where
  shape := ⟨[2], show 1 ≤ kMaxRank by decide⟩
  elementCount := 2
  strides := [1]
  memoryBuffer := { size := 2, storageType := .kDevice, pointer := 4096 }
  dlCtx := some
    { data := 4096, device := ⟨.kDLCUDA, 0⟩, ndim := 1, dtype := ⟨.kDLUInt, 8, 1⟩,
      shape := fun _ => 2, strides := none, byteOffset := 0 }

/-- Without an answer of the CUDA runtime the context of a device is not made anew. -/
theorem lost_device_aborts :
    ¬∀ (attributes : PointerAttributes) (tensor : Tensor) (newShape : List Int32),
      tensor.shape.Valid → tensor.elementCount.toNat = tensor.shape.dims.prod →
        newShape.length ≤ kMaxRank → (∀ dim ∈ newShape, 0 < dim.toInt) →
          (sizes newShape).prod = tensor.elementCount.toNat →
            tensor.Reshapes attributes newShape := by
  intro claim
  have reshapes := claim (fun _ => none) deviceVector [2] (by decide) (by decide) (by decide)
    (List.forall_iff_forall_mem.mp (by decide)) (by decide)
  obtain ⟨next, result, returns⟩ := reshapes.returns
  have walked : walk 0 1 [2] [(2, 1)] = .ok [1] := by
    simp [walk, findMatch, dimensionsOf, Chained, groupStrides, Except.map]
  have padding : deviceVector.padding = 0 := by decide
  have oldEntries : deviceVector.oldEntries = [(2, 1)] := by decide
  have bytes : deviceVector.bytesPerElement = 1 := rfl
  rw [noCopyReshape_of_guard (by decide), padding, oldEntries, bytes, walked] at returns
  cases returns

end Gxf.Std.Tensor
