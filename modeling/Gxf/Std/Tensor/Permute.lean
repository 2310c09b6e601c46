import Gxf.Std.Tensor.InPlace

/-!
# Permuted axes

A permutation of the axes rearranges the dimensions and the strides together, so that every element
stays where it is.  Whether a list of axes is a permutation is only written to the log.
-/

namespace Gxf.Std.Tensor

open Gxf.Core Gxf.Lib

/-- The loop over the axes, each of which is first looked up among the dimensions that are done.
That an axis is too large or listed twice is logged. -/
def gatherAxes (tensor : Tensor) : List Int32 → Option (List Int32 × Strides)
  | [] => some ([], [])
  | a :: axes =>
      let index := (Shape.widen a).toNat
      if index < tensor.shape.rank then
        (tensor.gatherAxes axes).map fun rest =>
          (tensor.shape.dimension index :: rest.1, tensor.stride index :: rest.2)
      else none

/-- `permute(axes)`. -/
def permute (attributes : PointerAttributes) (tensor : Tensor) (axes : List Int32) : Outcome :=
  if tensor.shape.rank < 2 then .returns tensor (.error .GXF_INVALID_DATA_FORMAT)
  else if tensor.shape.rank ≠ axes.length then
    .returns tensor (.error .GXF_INVALID_DATA_FORMAT)
  else
    match tensor.gatherAxes axes with
    | none => .outOfRange
    | some (newDims, newStrides) => tensor.assign attributes newDims newStrides

def IsPermutation (axes : List Int32) (rank : Nat) : Prop :=
  (axes.map Int32.toInt).Perm ((List.range rank).map Int.ofNat)

instance (axes : List Int32) (rank : Nat) : Decidable (IsPermutation axes rank) :=
  inferInstanceAs (Decidable (List.Perm _ _))

/-- What is asked of a permutation: it succeeds for permutations only, where every element stays
where it is, and otherwise returns an error and changes nothing. -/
structure Permutes (attributes : PointerAttributes) (tensor : Tensor) (axes : List Int32) :
    Prop where
  permuted : IsPermutation axes tensor.shape.rank →
    ∃ next, tensor.permute attributes axes = .returns next (.ok ()) ∧
      next.shape.dims = axes.map (fun a => tensor.shape.dims.getD a.toInt.toNat 0) ∧
      ∀ former : List Nat, former.length = tensor.shape.rank →
        next.address (axes.map fun a => former.getD a.toInt.toNat 0) = tensor.address former
  refused : ¬IsPermutation axes tensor.shape.rank →
    ∃ next code, tensor.permute attributes axes = .returns next (.error code) ∧
      next.shape = tensor.shape ∧ next.strides = tensor.strides

section Ring

open scoped UInt64.CommRing

theorem stridedSum_map {α : Type} (axes : List α) (position : α → Nat) (stride : α → UInt64) :
    stridedSum (axes.map position) (axes.map stride) =
      (axes.map fun a => UInt64.ofNat (position a) * stride a).sum := by
  induction axes with
  | nil => rfl
  | cons a axes ih =>
      rw [List.map_cons, List.map_cons, stridedSum, ih, List.map_cons, List.sum_cons]

theorem stridedSum_eq_range (index : List Nat) (strides : List UInt64) : stridedSum index strides =
      ((List.range index.length).map fun axis =>
        UInt64.ofNat (index.getD axis 0) * strides.getD axis 0).sum := by
  induction index generalizing strides with
  | nil => cases strides <;> rfl
  | cons position index ih =>
      rw [List.length_cons, List.range_succ_eq_map, List.map_cons, List.sum_cons, List.map_map]
      cases strides with
      | nil =>
          have zero : (List.range index.length).map
              ((fun axis => UInt64.ofNat ((position :: index).getD axis 0) *
                ([] : List UInt64).getD axis 0) ∘ Nat.succ) =
              (List.range index.length).map fun _ => 0 := by
            apply List.map_congr_left
            intro axis _
            exact mul_zero _
          rw [zero, List.sum_map_zero, add_zero]
          exact (mul_zero (UInt64.ofNat position)).symm
      | cons stride strides =>
          rw [stridedSum, ih strides]
          rfl

theorem stridedSum_of_isPermutation {axes : List Int32} {former : List Nat}
    (isPermutation : IsPermutation axes former.length) (strides : List UInt64) :
    stridedSum (axes.map fun a => former.getD a.toInt.toNat 0)
        (axes.map fun a => strides.getD a.toInt.toNat 0) = stridedSum former strides := by
  have rearranged : (axes.map fun a => a.toInt.toNat).Perm (List.range former.length) := by
    have perm := isPermutation.map Int.toNat
    rw [List.map_map, List.map_map] at perm
    have same : Int.toNat ∘ Int.ofNat = id := rfl
    rwa [same, List.map_id] at perm
  rw [stridedSum_map, stridedSum_eq_range]
  have terms : (axes.map fun a =>
      UInt64.ofNat (former.getD a.toInt.toNat 0) * strides.getD a.toInt.toNat 0) =
      (axes.map fun a => a.toInt.toNat).map fun axis =>
        UInt64.ofNat (former.getD axis 0) * strides.getD axis 0 := by
    rw [List.map_map]
    rfl
  rw [terms]
  exact (rearranged.map _).sum_eq

end Ring

section Axes

variable {tensor : Tensor} {axes : List Int32}

theorem IsPermutation.widen {rank : Nat} (isPermutation : IsPermutation axes rank) {a : Int32}
    (member : a ∈ axes) : (Shape.widen a).toNat = a.toInt.toNat ∧ a.toInt.toNat < rank := by
  have among := isPermutation.mem_iff.mp (List.mem_map_of_mem member)
  obtain ⟨index, inRange, same⟩ := List.mem_map.mp among
  rw [Shape.toNat_widen (same ▸ Int.natCast_nonneg index), ← same]
  exact ⟨rfl, List.mem_range.mp inRange⟩

theorem gatherAxes_of_lt (inRange : ∀ a ∈ axes, (Shape.widen a).toNat < tensor.shape.rank) :
    tensor.gatherAxes axes = some (axes.map fun a => tensor.shape.dimension (Shape.widen a).toNat,
        axes.map fun a => tensor.stride (Shape.widen a).toNat) := by
  induction axes with
  | nil => rfl
  | cons a axes ih =>
      obtain ⟨here, later⟩ := List.forall_mem_cons.mp inRange
      rw [gatherAxes, if_pos here, ih later]
      rfl

theorem IsPermutation.gatherAxes (isPermutation : IsPermutation axes tensor.shape.rank) :
    tensor.gatherAxes axes = some (axes.map fun a => tensor.shape.dimensions.getD a.toInt.toNat 0,
        axes.map fun a => tensor.strides.getD a.toInt.toNat 0) := by
  rw [gatherAxes_of_lt fun a member => by
    obtain ⟨same, inRange⟩ := isPermutation.widen member
    rwa [same]]
  congr 2
  · apply List.map_congr_left
    intro a member
    obtain ⟨same, inRange⟩ := isPermutation.widen member
    have some : tensor.shape.rank ≠ 0 := Nat.ne_zero_of_lt inRange
    rw [same, Shape.dimension, if_neg some, List.getD_eq_getElem _ _ inRange,
      List.getD_eq_getElem _ _ inRange]
  · apply List.map_congr_left
    intro a member
    rw [(isPermutation.widen member).1]
    rfl

theorem permute_ne_error {attributes : PointerAttributes} (rank : 2 ≤ tensor.shape.rank)
    (length : axes.length = tensor.shape.rank) {next : Tensor} {code : GxfResult} :
    tensor.permute attributes axes ≠ .returns next (.error code) := by
  rw [permute, if_neg (Nat.not_lt.mpr rank), if_neg fun differs => differs length.symm]
  cases tensor.gatherAxes axes with
  | none => exact fun fails => by cases fails
  | some gathered => exact assign_ne_error

end Axes

/-- For every tensor and every list of as many axes as it has dimensions: a call does what is asked
of it exactly if the axes are a permutation, and a context can be made anew. -/
theorem permutes_iff (attributes : PointerAttributes) (tensor : Tensor) (axes : List Int32)
    (rank : 2 ≤ tensor.shape.rank) (length : axes.length = tensor.shape.rank) :
    tensor.Permutes attributes axes ↔
      IsPermutation axes tensor.shape.rank ∧ tensor.Regenerable attributes := by
  have fits : (axes.map fun a => tensor.strides.getD a.toInt.toNat 0).length ≤ kMaxRank := by
    rw [List.length_map, length]
    exact tensor.shape.rank_le
  have computes (isPermutation : IsPermutation axes tensor.shape.rank) :
      tensor.permute attributes axes = tensor.assign attributes
          (axes.map fun a => tensor.shape.dimensions.getD a.toInt.toNat 0)
          (axes.map fun a => tensor.strides.getD a.toInt.toNat 0) := by
    rw [permute, if_neg (Nat.not_lt.mpr rank), if_neg fun differs => differs length.symm,
      isPermutation.gatherAxes]
  constructor
  · rintro ⟨permuted, refused⟩
    have isPermutation : IsPermutation axes tensor.shape.rank := by
      by_contra other
      obtain ⟨next, code, fails, -⟩ := refused other
      exact permute_ne_error rank length fails
    refine ⟨isPermutation, ?_⟩
    by_contra stuck
    obtain ⟨next, succeeds, -⟩ := permuted isPermutation
    rw [computes isPermutation, assign_of_not_regenerable stuck fits] at succeeds
    cases succeeds
  · rintro ⟨isPermutation, regenerable⟩
    refine ⟨fun _ => ?_, fun other => absurd isPermutation other⟩
    obtain ⟨next, returns, reshaped⟩ := @assign_of_regenerable attributes tensor
      (axes.map fun a => tensor.shape.dimensions.getD a.toInt.toNat 0) _ regenerable fits
    refine ⟨next, (computes isPermutation).trans returns, ?_, fun former formerLength => ?_⟩
    · have newFits : (axes.map fun a => tensor.shape.dimensions.getD a.toInt.toNat 0).length ≤
          kMaxRank := by
        rw [List.length_map, length]
        exact tensor.shape.rank_le
      rw [Shape.dims, reshaped.dimensions newFits, List.map_map]
      apply List.map_congr_left
      intro a member
      have inRange := (isPermutation.widen member).2
      have inDims : a.toInt.toNat < tensor.shape.dims.length := by
        rwa [Shape.dims, List.length_map]
      rw [Function.comp_apply, List.getD_eq_getElem _ _ inRange, List.getD_eq_getElem _ _ inDims]
      exact (List.getElem_map fun dimension : Int32 => dimension.toInt.toNat).symm
    · rw [address, address, reshaped.pointer, reshaped.strides,
        stridedSum_of_isPermutation (formerLength ▸ isPermutation)]

/-- A matrix is transposed. -/
theorem permutes_transposed :
    ({ shape := ⟨[2, 3], by decide⟩, elementCount := 6, strides := [3, 1] } :
      Tensor).Permutes (fun _ => none) [1, 0] :=
  (permutes_iff _ _ [1, 0] (by decide) rfl).mpr ⟨by decide, regenerable_of_none rfl⟩

/-- An axis that is listed twice is accepted. -/
theorem repeated_axis_accepted :
    ¬∀ (attributes : PointerAttributes) (tensor : Tensor) (axes : List Int32),
      2 ≤ tensor.shape.rank → axes.length = tensor.shape.rank →
        tensor.Permutes attributes axes := by
  intro claim
  have permutes := claim (fun _ => none)
    { shape := ⟨[2, 3], by decide⟩, elementCount := 6, strides := [3, 1] } [0, 0] (by decide) rfl
  obtain ⟨next, code, fails, -⟩ := permutes.refused (by decide)
  cases fails

end Gxf.Std.Tensor
