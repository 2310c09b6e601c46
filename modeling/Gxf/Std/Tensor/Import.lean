import Gxf.Std.Tensor.Tensor
import Mathlib.Data.List.GetD

/-!
# Addresses of imported elements

A DLPack tensor gives every element an address, and so does the tensor that is imported from
it.  The module says when both give the same addresses.
-/

namespace Gxf.Std

open Gxf.Core Gxf.Lib

def stridedSum : List Nat → List UInt64 → UInt64
  | position :: index, stride :: strides =>
      UInt64.ofNat position * stride + stridedSum index strides
  | _, _ => 0

/-- The strides of rows, in elements. -/
def rowMajor : List Nat → List UInt64
  | [] => []
  | _ :: dims => UInt64.ofNat dims.prod :: rowMajor dims

namespace DLTensor

variable (dlTensor : DLTensor)

/-- The dimensions as numbers. -/
def dims : List Nat := (List.range dlTensor.rank).map fun index =>
    (dlTensor.shape index).toInt.toNat

def elementStrides : List UInt64 :=
  match dlTensor.strides with
  | none => rowMajor dlTensor.dims
  | some strides => (List.range dlTensor.rank).map fun index => (strides index).toUInt64

def elementBytes : UInt64 :=
  UInt64.ofNat (dlTensor.dtype.bits.toNat * dlTensor.dtype.lanes.toNat / 8)

def address (index : List Nat) : UInt64 := dlTensor.data + dlTensor.byteOffset +
    stridedSum index (dlTensor.elementStrides.map (· * dlTensor.elementBytes))

/-- The dimensions fit into 32 bits. -/
def Narrow : Prop := ∀ index < dlTensor.rank,
    -2 ^ 31 ≤ (dlTensor.shape index).toInt ∧ (dlTensor.shape index).toInt < 2 ^ 31

instance : Decidable dlTensor.Narrow := inferInstanceAs (Decidable (∀ index < dlTensor.rank, _ ∧ _))

end DLTensor

namespace Tensor

def address (tensor : Tensor) (index : List Nat) : UInt64 :=
  tensor.memoryBuffer.pointer + stridedSum index tensor.strides

/-- A tensor has the dimensions of a DLPack tensor, and its elements the same addresses. -/
structure Represents (tensor : Tensor) (dlTensor : DLTensor) : Prop where
  rank : tensor.shape.rank = dlTensor.rank
  dimensions : ∀ index < dlTensor.rank,
    (tensor.shape.dimensions.getD index 0).toInt = (dlTensor.shape index).toInt
  addresses : ∀ index, Layout.Inside index dlTensor.dims →
    tensor.address index = dlTensor.address index

/-- The first element lies at the pointer a tensor has after the import: the new memory has no
offset, or the old memory stays and is that of the first element. -/
def StartsThere (tensor : Tensor) (dlTensor : DLTensor) (answer : Except GxfResult Unit) : Prop :=
  Replaceable tensor.memoryBuffer dlTensor.data answer ∧ dlTensor.byteOffset = 0 ∨
    ¬ Replaceable tensor.memoryBuffer dlTensor.data answer ∧
      tensor.memoryBuffer.pointer = dlTensor.data + dlTensor.byteOffset

/-- The imports that keep the addresses: the dimensions fit into 32 bits, and, if there are
elements, the first one lies where the tensor starts, and the steps in all dimensions with a
second position have the same length for one lane as for all lanes. -/
def Importable (tensor : Tensor) (dlTensor : DLTensor) (answer : Except GxfResult Unit) :
    Prop :=
  dlTensor.Narrow ∧ ((∀ dim ∈ dlTensor.dims, 0 < dim) → StartsThere tensor dlTensor answer ∧
        Layout.AgreeOn dlTensor.dims
          (dlTensor.elementStrides.map (· * dlTensor.strideUnit.toUInt64))
          (dlTensor.elementStrides.map (· * dlTensor.elementBytes)))

end Tensor

section Ring

open scoped UInt64.CommRing

theorem stridedSum_eq (index : List Nat) (strides : List UInt64) :
    stridedSum index strides = Layout.offset index strides := by
  induction index generalizing strides with
  | nil => cases strides <;> rfl
  | cons position index ih =>
      cases strides with
      | nil => rfl
      | cons stride strides =>
          rw [stridedSum, ih, Layout.offset]
          rfl

theorem packed_eq_map_rowMajor (width : UInt64) (dims : List Nat) :
    Layout.packed width dims = (rowMajor dims).map (· * width) := by
  induction dims with
  | nil => rfl
  | cons dim dims ih =>
      rw [Layout.packed, rowMajor, List.map_cons, ih, mul_comm width]
      rfl

theorem length_rowMajor (dims : List Nat) : (rowMajor dims).length = dims.length := by
  induction dims with
  | nil => rfl
  | cons dim dims ih => rw [rowMajor, List.length_cons, List.length_cons, ih]

theorem strided_eq_iff {dims : List Nat} (positive : ∀ dim ∈ dims, 0 < dim)
    {first second : List UInt64} (firstLength : first.length = dims.length)
    (secondLength : second.length = dims.length) (base other : UInt64) :
    (∀ index, Layout.Inside index dims →
        base + stridedSum index first = other + stridedSum index second) ↔
      base = other ∧ Layout.AgreeOn dims first second := by
  rw [← Layout.address_eq_iff positive firstLength secondLength]
  simp only [stridedSum_eq]

/-! ## The conversions -/

namespace DLTensor

variable {dlTensor : DLTensor} {shape : Shape} {strides : Strides}

theorem length_dims (dlTensor : DLTensor) : dlTensor.dims.length = dlTensor.rank := by
  rw [dims, List.length_map, List.length_range]

theorem length_elementStrides (dlTensor : DLTensor) :
    dlTensor.elementStrides.length = dlTensor.rank := by
  rw [elementStrides]
  cases dlTensor.strides with
  | none => rw [length_rowMajor, length_dims]
  | some strides => rw [List.length_map, List.length_range]

theorem dimensions_of_toShape (converted : dlTensor.toShape = .ok shape) :
    dlTensor.rank ≤ kMaxRank ∧ shape.dimensions =
        (List.range dlTensor.rank).map fun index => (dlTensor.shape index).toInt32 := by
  rw [toShape] at converted
  split at converted
  next within =>
    cases converted
    exact ⟨within, rfl⟩
  next => cases converted

theorem rank_of_toShape (converted : dlTensor.toShape = .ok shape) :
    shape.rank = dlTensor.rank := by
  rw [Shape.rank, (dimensions_of_toShape converted).2, List.length_map, List.length_range]

theorem toInt_toInt32_eq_iff (dimension : Int64) : dimension.toInt32.toInt = dimension.toInt ↔
      -2 ^ 31 ≤ dimension.toInt ∧ dimension.toInt < 2 ^ 31 := by
  rw [Int64.toInt_toInt32]
  constructor
  · intro same
    have low := Int.le_bmod (x := dimension.toInt) (m := 2 ^ 32) (by decide)
    have high := Int.bmod_lt (x := dimension.toInt) (m := 2 ^ 32) (by decide)
    rw [same] at low high
    exact ⟨low, high⟩
  · rintro ⟨low, high⟩
    exact Int.bmod_eq_of_le low high

theorem dimension_of_toShape (converted : dlTensor.toShape = .ok shape) {index : Nat}
    (within : index < dlTensor.rank) :
    shape.dimensions.getD index 0 = (dlTensor.shape index).toInt32 := by
  have inShape : index < shape.dimensions.length := by
    rwa [← Shape.rank, rank_of_toShape converted]
  rw [List.getD_eq_getElem _ _ inShape]
  simp only [(dimensions_of_toShape converted).2, List.getElem_map, List.getElem_range]

theorem dims_of_toShape (converted : dlTensor.toShape = .ok shape) (narrow : dlTensor.Narrow) :
    shape.dims = dlTensor.dims := by
  rw [Shape.dims, (dimensions_of_toShape converted).2, List.map_map, dims]
  apply List.map_congr_left
  intro index inRange
  have kept := (toInt_toInt32_eq_iff _).mpr (narrow index (List.mem_range.mp inRange))
  rw [Function.comp_apply, kept]

theorem valid_of_dims_pos (positive : ∀ dim ∈ shape.dims, 0 < dim) : shape.Valid := by
  intro dimension member
  have above := positive _ (List.mem_map_of_mem member)
  omega

theorem strides_of_toStrides (shapeOk : dlTensor.toShape = .ok shape)
    (stridesOk : dlTensor.toStrides = .ok strides) (narrow : dlTensor.Narrow)
    (positive : ∀ dim ∈ dlTensor.dims, 0 < dim) :
    strides = dlTensor.elementStrides.map (· * dlTensor.strideUnit.toUInt64) := by
  rw [toStrides] at stridesOk
  rw [elementStrides]
  cases given : dlTensor.strides with
  | none =>
      rw [given, shapeOk] at stridesOk
      cases stridesOk
      have same := dims_of_toShape shapeOk narrow
      have valid : shape.Valid := valid_of_dims_pos (by rwa [same])
      rw [computeTrivialStrides_eq valid, same, packed_eq_map_rowMajor]
      rfl
  | some strides =>
      rw [given] at stridesOk
      simp only [if_pos (dimensions_of_toShape shapeOk).1] at stridesOk
      cases stridesOk
      rw [List.map_map]
      rfl

end DLTensor

end Ring

namespace Tensor

variable {attributes : PointerAttributes} {tensor next : Tensor} {dlTensor : DLTensor}
  {releaseFunc : Option ReleaseFunction} {answer : Except GxfResult Unit}

theorem pointer_wrapMemory_eq_iff (size : UInt64) (storageType : MemoryStorageType) :
    (tensor.memoryBuffer.wrapMemory dlTensor.data size storageType releaseFunc answer).1.pointer =
        dlTensor.data + dlTensor.byteOffset ↔
      StartsThere tensor dlTensor answer := by
  rw [StartsThere]
  by_cases replaceable : Replaceable tensor.memoryBuffer dlTensor.data answer
  · rw [wrapMemory_of_replaceable replaceable]
    simp [replaceable]
  · rw [wrapMemory_of_not_replaceable replaceable]
    simp [replaceable]

/-- After a successful import the tensor represents the DLPack tensor exactly under the
condition. -/
theorem wrapDLPack_represents_iff
    (succeeds : tensor.wrapDLPack attributes dlTensor releaseFunc answer = some (next, .ok ())) :
    next.Represents dlTensor ↔ tensor.Importable dlTensor answer := by
  obtain ⟨shape, strides, storageType, elementType, shapeOk, stridesOk, -, -, rfl⟩ :=
    wrapDLPack_cases attributes tensor succeeds
  have narrow_iff : (∀ index < dlTensor.rank,
      (shape.dimensions.getD index 0).toInt = (dlTensor.shape index).toInt) ↔
      dlTensor.Narrow := by
    refine forall₂_congr fun index within => ?_
    rw [DLTensor.dimension_of_toShape shapeOk within, DLTensor.toInt_toInt32_eq_iff]
  have length (width : UInt64) :
      (dlTensor.elementStrides.map (· * width)).length = dlTensor.dims.length := by
    rw [List.length_map, DLTensor.length_elementStrides, DLTensor.length_dims]
  have addresses_iff (narrow : dlTensor.Narrow) (positive : ∀ dim ∈ dlTensor.dims, 0 < dim) :
      (∀ index, Layout.Inside index dlTensor.dims →
        (tensor.imported dlTensor shape strides storageType elementType releaseFunc
          answer).address index = dlTensor.address index) ↔
      StartsThere tensor dlTensor answer ∧ Layout.AgreeOn dlTensor.dims
          (dlTensor.elementStrides.map (· * dlTensor.strideUnit.toUInt64))
          (dlTensor.elementStrides.map (· * dlTensor.elementBytes)) := by
    rw [← pointer_wrapMemory_eq_iff, ← strided_eq_iff positive (length _) (length _),
      ← DLTensor.strides_of_toStrides shapeOk stridesOk narrow positive]
    rfl
  constructor
  · rintro ⟨-, dimensions, addresses⟩
    have narrow := narrow_iff.mp dimensions
    exact ⟨narrow, fun positive => (addresses_iff narrow positive).mp addresses⟩
  · rintro ⟨narrow, placed⟩
    refine ⟨DLTensor.rank_of_toShape shapeOk, narrow_iff.mpr narrow, fun index inside => ?_⟩
    have positive := Layout.pos_of_inside inside
    exact (addresses_iff narrow positive).mpr (placed positive) index inside

/-- A matrix of 32-bit floats without an offset keeps its addresses. -/
theorem wrapDLPack_represents_matrix :
    let dlTensor : DLTensor :=
      { data := 4096, device := ⟨.kDLCPU, 0⟩, ndim := 2, dtype := ⟨.kDLFloat, 32, 1⟩,
        shape := fun index => if index = 0 then 2 else 3, strides := none, byteOffset := 0 }
    ∃ next : Tensor,
      ({} : Tensor).wrapDLPack (fun _ => none) dlTensor none (.ok ()) = some (next, .ok ()) ∧
        next.Represents dlTensor := by
  intro dlTensor
  obtain ⟨next, wrapped⟩ : ∃ next : Tensor,
      ({} : Tensor).wrapDLPack (fun _ => none) dlTensor none (.ok ()) = some (next, .ok ()) :=
    ⟨_, rfl⟩
  refine ⟨next, wrapped, (wrapDLPack_represents_iff wrapped).mpr ⟨by decide, fun _ => ⟨?_, ?_⟩⟩⟩
  · exact .inl ⟨.inr (.inl rfl), rfl⟩
  · decide

/-- The elements of a vector with an offset are looked for at the start of its memory. -/
theorem offset_ignored :
    ¬ ∀ (attributes : PointerAttributes) (tensor next : Tensor) (dlTensor : DLTensor)
        (releaseFunc : Option ReleaseFunction) (answer : Except GxfResult Unit),
      1 ≤ dlTensor.dtype.lanes →
      tensor.wrapDLPack attributes dlTensor releaseFunc answer = some (next, .ok ()) →
      next.Represents dlTensor := by
  intro claim
  have represents := claim (fun _ => none) {} _
    { data := 4096, device := ⟨.kDLCPU, 0⟩, ndim := 1, dtype := ⟨.kDLFloat, 32, 1⟩,
      shape := fun _ => 4, strides := none, byteOffset := 16 } none (.ok ()) (by decide) rfl
  exact absurd (represents.addresses [0] (by decide)) (by decide)

end Tensor

end Gxf.Std
