import Gxf.Std.Tensor.Import

/-!
# Shapes and strides changed in place

Some functions give a tensor another shape and other strides and leave its memory alone.  They end
in the same way: the shape and the strides are stored, and the DLPack context, if there is one, is
made anew.
-/

namespace Gxf.Std

open Gxf.Core Gxf.Lib

namespace Tensor

/-- How a call on a tensor ends. -/
inductive Outcome where
  /-- It returns a result. -/
  | returns (tensor : Tensor) (result : Except GxfResult Unit)
  /-- It accesses an array out of its range. -/
  | outOfRange
  /-- It takes a value out of an error, which aborts the process. -/
  | aborts

/-- `updateDLContext()`. -/
def updateDLContext (attributes : PointerAttributes) (tensor : Tensor) : Outcome :=
  match tensor.dlCtx with
  | none => .returns tensor (.ok ())
  | some _ =>
      match ({ tensor with dlCtx := none } : Tensor).initializeDLContext attributes with
      | none => .aborts
      | some (next, result) => .returns next result

/-- The new shape and strides are stored, the latter in an array for the maximal rank. -/
def assign (attributes : PointerAttributes) (tensor : Tensor) (newDims : List Int32)
    (newStrides : Strides) : Outcome :=
  if kMaxRank < newStrides.length then .outOfRange
  else
    ({ tensor with shape := Shape.ofVector newDims, strides := newStrides } :
      Tensor).updateDLContext attributes

/-- A context that the tensor has can be made anew: its type and its device have counterparts. -/
def Regenerable (attributes : PointerAttributes) (tensor : Tensor) : Prop :=
  tensor.dlCtx.isSome → ∃ dtype device,
    primitiveTypeToDLDataType tensor.elementType tensor.lanes = .ok dtype ∧
      tensor.device attributes = .ok device

/-- A tensor has another shape and other strides on the same memory. -/
structure Reshaped (tensor next : Tensor) (newDims : List Int32) (newStrides : Strides) : Prop where
  shape : next.shape = Shape.ofVector newDims
  strides : next.strides = newStrides
  pointer : next.memoryBuffer.pointer = tensor.memoryBuffer.pointer
  elementCount : next.elementCount = tensor.elementCount
  bytesPerElement : next.bytesPerElement = tensor.bytesPerElement

theorem Reshaped.dimensions {tensor next : Tensor} {newDims : List Int32} {newStrides : Strides}
    (reshaped : tensor.Reshaped next newDims newStrides) (fits : newDims.length ≤ kMaxRank) :
    next.shape.dimensions = newDims := by
  rw [reshaped.shape]
  exact List.take_of_length_le fits

section Assign

variable {attributes : PointerAttributes} {tensor : Tensor} {newDims : List Int32}
  {newStrides : Strides}

theorem regenerable_of_none (none : tensor.dlCtx = none) : tensor.Regenerable attributes := by
  intro present
  rw [none] at present
  cases present

theorem initializeDLContext_cases (attributes : PointerAttributes) (tensor : Tensor) :
    (∃ dtype device, primitiveTypeToDLDataType tensor.elementType tensor.lanes = .ok dtype ∧
      tensor.device attributes = .ok device ∧
      tensor.initializeDLContext attributes =
        some ({ tensor.share with dlCtx := some (tensor.exported dtype device) }, .ok ())) ∨
    (¬∃ dtype device, primitiveTypeToDLDataType tensor.elementType tensor.lanes = .ok dtype ∧
      tensor.device attributes = .ok device) ∧
      tensor.initializeDLContext attributes = none := by
  rw [initializeDLContext_eq]
  cases typed : primitiveTypeToDLDataType tensor.elementType tensor.lanes with
  | error code =>
      refine .inr ⟨?_, rfl⟩
      rintro ⟨dtype, device, typed, -⟩
      cases typed
  | ok dtype =>
      cases located : tensor.device attributes with
      | error code =>
          refine .inr ⟨?_, rfl⟩
          rintro ⟨dtype, device, -, located⟩
          cases located
      | ok device => exact .inl ⟨dtype, device, rfl, rfl, rfl⟩

theorem assign_of_regenerable (regenerable : tensor.Regenerable attributes)
    (fits : newStrides.length ≤ kMaxRank) :
    ∃ next, tensor.assign attributes newDims newStrides = .returns next (.ok ()) ∧
      tensor.Reshaped next newDims newStrides := by
  rw [assign, if_neg (Nat.not_lt.mpr fits), updateDLContext]
  cases present : tensor.dlCtx with
  | none => exact ⟨_, rfl, rfl, rfl, rfl, rfl, rfl⟩
  | some context =>
      rcases initializeDLContext_cases attributes
        { tensor with shape := Shape.ofVector newDims, strides := newStrides, dlCtx := none } with
        ⟨dtype, device, -, -, made⟩ | ⟨missing, -⟩
      · dsimp only
        rw [made]
        exact ⟨_, rfl, rfl, rfl, rfl, rfl, rfl⟩
      · exact absurd (regenerable (Option.isSome_of_eq_some present)) missing

theorem assign_of_not_regenerable (stuck : ¬tensor.Regenerable attributes)
    (fits : newStrides.length ≤ kMaxRank) :
    tensor.assign attributes newDims newStrides = .aborts := by
  rw [assign, if_neg (Nat.not_lt.mpr fits), updateDLContext]
  cases present : tensor.dlCtx with
  | none => exact absurd (regenerable_of_none present) stuck
  | some context =>
      rcases initializeDLContext_cases attributes
        { tensor with shape := Shape.ofVector newDims, strides := newStrides, dlCtx := none } with
        ⟨dtype, device, typed, located, -⟩ | ⟨-, made⟩
      · exact absurd (fun _ => ⟨dtype, device, typed, located⟩) stuck
      · dsimp only
        rw [made]

theorem assign_ne_error {next : Tensor} {code : GxfResult} :
    tensor.assign attributes newDims newStrides ≠ .returns next (.error code) := by
  intro fails
  by_cases fits : newStrides.length ≤ kMaxRank
  · by_cases regenerable : tensor.Regenerable attributes
    · obtain ⟨stored, returns, -⟩ :=
        @assign_of_regenerable attributes tensor newDims newStrides regenerable fits
      rw [returns] at fails
      cases fails
    · rw [assign_of_not_regenerable regenerable fits] at fails
      cases fails
  · rw [assign, if_pos (Nat.lt_of_not_le fits)] at fails
    cases fails

end Assign

end Tensor

end Gxf.Std
