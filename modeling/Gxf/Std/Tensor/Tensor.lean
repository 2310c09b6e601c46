import Gxf.Std.MemoryBuffer
import Gxf.Std.Tensor.Shape

/-!
# Tensors and their exchange format

A tensor describes the elements in a memory buffer.  It is exported as a DLPack tensor, which
counts strides in elements and splits an element into lanes, and made from one that another
library exports.
-/

namespace Gxf.Std

open Gxf.Core

/-- The device types of DLPack. -/
inductive DLDeviceType where
  | kDLCPU
  | kDLCUDA
  | kDLCUDAHost
  | kDLCUDAManaged
  | other (code : Int32)
  deriving DecidableEq, Repr

/-- `DLDevice`. -/
structure DLDevice where
  deviceType : DLDeviceType
  deviceId : Int32
  deriving DecidableEq

/-- The type codes of DLPack. -/
inductive DLDataTypeCode where
  | kDLInt
  | kDLUInt
  | kDLFloat
  | kDLComplex
  | kDLOpaqueHandle
  | other (code : UInt8)
  deriving DecidableEq, Repr

/-- `DLDataType`. -/
structure DLDataType where
  code : DLDataTypeCode
  bits : UInt8
  lanes : UInt16
  deriving DecidableEq

/-- `DLTensor`.  The arrays have as many entries as there are dimensions. -/
structure DLTensor where
  data : UInt64
  device : DLDevice
  ndim : Int32
  dtype : DLDataType
  shape : Nat → Int64
  strides : Option (Nat → Int64)
  byteOffset : UInt64

/-- `cudaMemoryType`. -/
inductive CudaMemoryType where
  | unregistered
  | host
  | device
  | managed
  deriving DecidableEq, Repr

/-- What the CUDA runtime knows about a pointer: its memory type and device, or nothing. -/
abbrev PointerAttributes := UInt64 → Option (CudaMemoryType × Int32)

/-- `DLDeviceFromPointer(ptr)`. -/
def dlDeviceFromPointer (attributes : PointerAttributes) (ptr : UInt64) :
    Except GxfResult DLDevice :=
  match attributes ptr with
  | none => .error .GXF_FAILURE
  | some (.unregistered, _) => .ok ⟨.kDLCPU, 0⟩
  | some (.host, device) => .ok ⟨.kDLCUDAHost, device⟩
  | some (.device, device) => .ok ⟨.kDLCUDA, device⟩
  | some (.managed, device) => .ok ⟨.kDLCUDAManaged, device⟩

namespace DLTensor

variable (dlTensor : DLTensor)

/-- `ndim` as an unsigned number. -/
def rank : Nat := dlTensor.ndim.toUInt32.toNat

/-- `ShapeFromDLTensor(dl_tensor)`, which narrows the dimensions. -/
def toShape : Except GxfResult Shape :=
  if within : dlTensor.rank ≤ kMaxRank then
    .ok ⟨(List.range dlTensor.rank).map fun index => (dlTensor.shape index).toInt32,
      by rwa [List.length_map, List.length_range]⟩
  else .error .GXF_INVALID_DATA_FORMAT

/-- The size by which strides are multiplied. -/
def strideUnit : UInt8 := dlTensor.dtype.bits / 8

/-- `StridesFromDLTensor(dl_tensor)`. -/
def toStrides : Except GxfResult Strides :=
  match dlTensor.strides with
  | none =>
      match dlTensor.toShape with
      | .error code => .error code
      | .ok shape => .ok (computeTrivialStrides shape dlTensor.strideUnit.toUInt32)
  | some strides =>
      if dlTensor.rank ≤ kMaxRank then
        .ok ((List.range dlTensor.rank).map fun index =>
          (strides index).toUInt64 * dlTensor.strideUnit.toUInt64)
      else .error .GXF_INVALID_DATA_FORMAT

/-- `MemoryStorageTypeFromDLTensor(dl_tensor)`. -/
def toStorageType : Except GxfResult MemoryStorageType :=
  match dlTensor.device.deviceType with
  | .kDLCUDAHost => .ok .kHost
  | .kDLCUDA => .ok .kDevice
  | .kDLCPU => .ok .kSystem
  | _ => .error .GXF_INVALID_DATA_FORMAT

end DLTensor

/-- What keeps a DLPack tensor that is imported. -/
inductive Lifetime where
  /-- Something that outlives the call. -/
  | outlives
  /-- Its arrays are those of the context of the tensor that imports it, which has exported it. -/
  | arrays
  /-- All of it is released with that context: the tensor has imported it before. -/
  | whole
  deriving DecidableEq

/-- What is read of the DLPack tensor is gone with the context.  The arrays are read when there
are dimensions, and not too many. -/
def Lifetime.dangles (lifetime : Lifetime) (dlTensor : DLTensor) : Bool :=
  match lifetime with
  | .outlives => false
  | .arrays => 0 < dlTensor.rank && dlTensor.rank ≤ kMaxRank
  | .whole => true

/-- `PrimitiveTypeFromDLDataType(dtype)`. -/
def primitiveTypeFromDLDataType (dtype : DLDataType) : Except GxfResult PrimitiveType :=
  match dtype.code, dtype.bits.toNat with
  | .kDLInt, 8 => .ok .kInt8
  | .kDLInt, 16 => .ok .kInt16
  | .kDLInt, 32 => .ok .kInt32
  | .kDLInt, 64 => .ok .kInt64
  | .kDLUInt, 8 => .ok .kUnsigned8
  | .kDLUInt, 16 => .ok .kUnsigned16
  | .kDLUInt, 32 => .ok .kUnsigned32
  | .kDLUInt, 64 => .ok .kUnsigned64
  | .kDLFloat, 16 => .ok .kFloat16
  | .kDLFloat, 32 => .ok .kFloat32
  | .kDLFloat, 64 => .ok .kFloat64
  | .kDLComplex, 64 => .ok .kComplex64
  | .kDLComplex, 128 => .ok .kComplex128
  | .kDLOpaqueHandle, _ => .ok .kCustom
  | _, _ => .error .GXF_INVALID_DATA_FORMAT

/-- All conversions of a DLPack tensor succeed. -/
def DLTensor.Convertible (dlTensor : DLTensor) : Prop :=
  ∃ shape strides storageType elementType, dlTensor.toShape = .ok shape ∧
    dlTensor.toStrides = .ok strides ∧ dlTensor.toStorageType = .ok storageType ∧
    primitiveTypeFromDLDataType dlTensor.dtype = .ok elementType

def typeCode : PrimitiveType → DLDataTypeCode
  | .kInt8 | .kInt16 | .kInt32 | .kInt64 => .kDLInt
  | .kUnsigned8 | .kUnsigned16 | .kUnsigned32 | .kUnsigned64 => .kDLUInt
  | .kFloat16 | .kFloat32 | .kFloat64 => .kDLFloat
  | .kComplex64 | .kComplex128 => .kDLComplex
  | .kCustom => .kDLOpaqueHandle

/-- `PrimitiveTypeToDLDataType(element_type, lanes)`. -/
def primitiveTypeToDLDataType (elementType : PrimitiveType) (lanes : UInt16) :
    Except GxfResult DLDataType :=
  if lanes < 1 then .error .GXF_INVALID_DATA_FORMAT
  else .ok ⟨typeCode elementType, (primitiveTypeSize elementType * 8).toUInt8, lanes⟩

/-- `Tensor`, with the DLPack tensor of its context. -/
structure Tensor where
  shape : Shape := ⟨[], Nat.zero_le _⟩
  elementCount : UInt64 := 0
  elementType : PrimitiveType := .kUnsigned8
  bytesPerElement : UInt64 := 1
  strides : Strides := []
  memoryBuffer : MemoryBuffer := {}
  dlCtx : Option DLTensor := none

namespace Tensor

/-- `stride(index)`. -/
def stride (tensor : Tensor) (index : Nat) : UInt64 := tensor.strides.getD index 0

/-- `device()`. -/
def device (attributes : PointerAttributes) (tensor : Tensor) : Except GxfResult DLDevice :=
  match tensor.memoryBuffer.storageType with
  | .kSystem => .ok ⟨.kDLCPU, 0⟩
  | .kHost | .kDevice => dlDeviceFromPointer attributes tensor.memoryBuffer.pointer

/-- The function that gives back a buffer shared with the context.  It always succeeds. -/
def sharedRelease : ReleaseFunction := .callback 0

/-- The number of lanes an element is split into. -/
def lanes (tensor : Tensor) : UInt16 :=
  let primitiveSize :=
    if tensor.elementType = .kCustom then tensor.bytesPerElement
    else primitiveTypeSize tensor.elementType
  (tensor.bytesPerElement / primitiveSize).toUInt16

/-- `initializeDLContext()`, which moves the memory into a shared buffer and wraps it again.
A type or a device without counterpart is taken out of its error, which aborts the process;
then there is no result. -/
def initializeDLContext (attributes : PointerAttributes) (tensor : Tensor) :
    Option (Tensor × Except GxfResult Unit) :=
  let buffer := tensor.memoryBuffer
  let wrapped := buffer.movedFrom.wrapMemory buffer.pointer buffer.size buffer.storageType
    (some sharedRelease) (.ok ())
  let next := { tensor with memoryBuffer := wrapped.1 }
  match wrapped.2.result with
  | .error code => some (next, .error code)
  | .ok _ =>
      match primitiveTypeToDLDataType tensor.elementType tensor.lanes,
        next.device attributes with
      | .ok dtype, .ok device =>
          some ({ next with
              dlCtx := some
                { data := buffer.pointer
                  device := device
                  ndim := Int32.ofNat tensor.shape.rank
                  dtype := dtype
                  shape := fun index => (tensor.shape.dimensions.getD index 0).toInt64
                  strides := some fun index =>
                    (tensor.stride index / tensor.bytesPerElement).toInt64
                  byteOffset := 0 } },
            .ok ())
      | _, _ => none

/-- The fields written before the memory is. -/
def describe (tensor : Tensor) (shape : Shape) (elementType : PrimitiveType)
    (bytesPerElement : UInt64) (strides : Option Strides) : Tensor :=
  { tensor with
    shape := shape
    elementCount := shape.size
    elementType := elementType
    bytesPerElement := bytesPerElement
    strides := strides.getD (computeTrivialStrides shape bytesPerElement.toUInt32) }

/-- `reshapeCustom(...)`, where `answer` and `allocation` are what the release function of the
old memory and the allocator answer. -/
def reshapeCustom (attributes : PointerAttributes) (tensor : Tensor) (shape : Shape)
    (elementType : PrimitiveType) (bytesPerElement : UInt64) (strides : Option Strides)
    (storageType : MemoryStorageType) (allocator : Option Nat) (answer : Except GxfResult Unit)
    (allocation : Except GxfResult UInt64) : Option (Tensor × Except GxfResult Unit) :=
  match allocator with
  | none => some (tensor, .error .GXF_ARGUMENT_NULL)
  | some allocator =>
      let freed := tensor.memoryBuffer.freeBuffer answer
      match freed.2.result with
      | .error code => some ({ tensor with memoryBuffer := freed.1 }, .error code)
      | .ok _ =>
          let described := tensor.describe shape elementType bytesPerElement strides
          let resized := freed.1.resize allocator (bytesPerElement * shape.size) storageType
            answer allocation
          let next := { described with memoryBuffer := resized.1 }
          match resized.2.result with
          | .error code => some (next, .error code)
          | .ok _ => next.initializeDLContext attributes

/-- `wrapMemory(...)`. -/
def wrapMemory (attributes : PointerAttributes) (tensor : Tensor) (shape : Shape)
    (elementType : PrimitiveType) (bytesPerElement : UInt64) (strides : Option Strides)
    (storageType : MemoryStorageType) (pointer : UInt64)
    (releaseFunc : Option ReleaseFunction) (resetDlpack : Bool)
    (answer : Except GxfResult Unit) : Option (Tensor × Except GxfResult Unit) :=
  let described := tensor.describe shape elementType bytesPerElement strides
  let wrapped := tensor.memoryBuffer.wrapMemory pointer (bytesPerElement * shape.size)
    storageType releaseFunc answer
  let next := { described with memoryBuffer := wrapped.1 }
  match wrapped.2.result with
  | .error code => some (next, .error code)
  | .ok _ => if resetDlpack then next.initializeDLContext attributes else some (next, .ok ())

/-- `toDLPack()`, which hands out the tensor of the context. -/
def toDLPack (attributes : PointerAttributes) (tensor : Tensor) : Option (Tensor × DLTensor) :=
  match tensor.dlCtx with
  | some dlTensor => some (tensor, dlTensor)
  | none =>
      match tensor.initializeDLContext attributes with
      | none => none
      | some (next, _) => next.dlCtx.map fun dlTensor => (next, dlTensor)

/-- `wrapDLPack(dl_managed_tensor_ptr)`.  The error of `wrapMemory` is made into a value that
is not returned. -/
def wrapDLPack (attributes : PointerAttributes) (tensor : Tensor) (dlTensor : DLTensor)
    (releaseFunc : Option ReleaseFunction) (answer : Except GxfResult Unit) :
    Option (Tensor × Except GxfResult Unit) :=
  match dlTensor.toShape, dlTensor.toStrides, dlTensor.toStorageType,
    primitiveTypeFromDLDataType dlTensor.dtype with
  | .ok shape, .ok strides, .ok storageType, .ok elementType =>
      let bytesPerElement := dlTensor.dtype.lanes.toUInt64 * primitiveTypeSize elementType
      (tensor.wrapMemory attributes shape elementType bytesPerElement (some strides) storageType
        dlTensor.data releaseFunc false answer).map fun status => (status.1, .ok ())
  | .error code, _, _, _ => some (tensor, .error code)
  | _, .error code, _, _ => some (tensor, .error code)
  | _, _, .error code, _ => some (tensor, .error code)
  | _, _, _, .error code => some (tensor, .error code)

/-- `fromDLPack(dl_managed_tensor_ptr)`, which does not return the error of `wrapDLPack`
either.  The old context is released before the DLPack tensor is read; there is no result when
freed memory is read. -/
def fromDLPack (attributes : PointerAttributes) (tensor : Tensor) (dlTensor : DLTensor)
    (lifetime : Lifetime) (answer : Except GxfResult Unit) :
    Option (Tensor × Except GxfResult Unit) :=
  if lifetime.dangles dlTensor then none
  else (({ tensor with dlCtx := some dlTensor } : Tensor).wrapDLPack attributes dlTensor none
    answer).map fun status => (status.1, .ok ())

/-- The tensor with its memory in a buffer shared with the context. -/
def share (tensor : Tensor) : Tensor :=
  { tensor with
    memoryBuffer := { tensor.memoryBuffer with releaseFunc := some sharedRelease } }

/-- The DLPack tensor of a tensor with a type and a device. -/
def exported (tensor : Tensor) (dtype : DLDataType) (device : DLDevice) : DLTensor where
  data := tensor.memoryBuffer.pointer
  device := device
  ndim := Int32.ofNat tensor.shape.rank
  dtype := dtype
  shape index := (tensor.shape.dimensions.getD index 0).toInt64
  strides := some fun index => (tensor.stride index / tensor.bytesPerElement).toInt64
  byteOffset := 0

theorem rewrap_eq (buffer : MemoryBuffer) :
    buffer.movedFrom.wrapMemory buffer.pointer buffer.size buffer.storageType
        (some sharedRelease) (.ok ()) =
      ({ buffer with releaseFunc := some sharedRelease }, {}) := by
  rw [MemoryBuffer.wrapMemory]
  split
  next null => exact congrArg (fun pointer : UInt64 =>
    ((⟨buffer.size, buffer.storageType, pointer, some sharedRelease⟩ : MemoryBuffer),
      ({} : BufferAnswer))) null.symm
  next => rfl

theorem initializeDLContext_eq (attributes : PointerAttributes) (tensor : Tensor) :
    tensor.initializeDLContext attributes =
      match primitiveTypeToDLDataType tensor.elementType tensor.lanes, tensor.device attributes with
      | .ok dtype, .ok device =>
          some ({ tensor.share with dlCtx := some (tensor.exported dtype device) }, .ok ())
      | _, _ => none := by
  simp only [initializeDLContext, rewrap_eq]
  rfl

/-- The old memory does not stand in the way of new memory: it is the same memory, none that
has to be released, or its release succeeds. -/
def Replaceable (buffer : MemoryBuffer) (pointer : UInt64) (answer : Except GxfResult Unit) :
    Prop :=
  pointer = buffer.pointer ∨ buffer.owed = [] ∨ answer = .ok ()

variable {buffer : MemoryBuffer} {pointer : UInt64} {answer : Except GxfResult Unit}

theorem wrapMemory_of_replaceable (replaceable : Replaceable buffer pointer answer)
    (size : UInt64) (storageType : MemoryStorageType) (releaseFunc : Option ReleaseFunction) :
    (buffer.wrapMemory pointer size storageType releaseFunc answer).1 =
      ⟨size, storageType, pointer, releaseFunc⟩ := by
  rw [MemoryBuffer.wrapMemory]
  split
  next same => rw [same]
  next differs =>
    obtain ⟨-, freed⟩ | ⟨function, owes, ⟨code, failed, -⟩ | ⟨-, freed⟩⟩ :=
      buffer.freeBuffer_spec answer
    · simp only [freed]
    · obtain same | none | done := replaceable
      · exact absurd same differs
      · rw [none] at owes
        cases owes
      · rw [failed] at done
        cases done
    · simp only [freed]

theorem wrapMemory_of_not_replaceable (kept : ¬ Replaceable buffer pointer answer)
    (size : UInt64) (storageType : MemoryStorageType) (releaseFunc : Option ReleaseFunction) :
    (buffer.wrapMemory pointer size storageType releaseFunc answer).1 = buffer := by
  rw [MemoryBuffer.wrapMemory, if_neg fun same => kept (.inl same)]
  obtain ⟨none, -⟩ | ⟨function, -, ⟨code, -, freed⟩ | ⟨done, -⟩⟩ := buffer.freeBuffer_spec answer
  · exact absurd (.inr (.inl none)) kept
  · simp only [freed]
  · exact absurd (.inr (.inr done)) kept

/-- What an import writes into a tensor. -/
def imported (tensor : Tensor) (dlTensor : DLTensor) (shape : Shape) (strides : Strides)
    (storageType : MemoryStorageType) (elementType : PrimitiveType)
    (releaseFunc : Option ReleaseFunction) (answer : Except GxfResult Unit) : Tensor :=
  let bytesPerElement := dlTensor.dtype.lanes.toUInt64 * primitiveTypeSize elementType
  { tensor.describe shape elementType bytesPerElement (some strides) with
    memoryBuffer := (tensor.memoryBuffer.wrapMemory dlTensor.data (bytesPerElement * shape.size)
      storageType releaseFunc answer).1 }

section Wrap

variable (attributes : PointerAttributes) (tensor : Tensor) {dlTensor : DLTensor} {shape : Shape}
  {strides : Strides} {storageType : MemoryStorageType} {elementType : PrimitiveType}

theorem wrapDLPack_of_ok (shapeOk : dlTensor.toShape = .ok shape)
    (stridesOk : dlTensor.toStrides = .ok strides)
    (storageOk : dlTensor.toStorageType = .ok storageType)
    (elementOk : primitiveTypeFromDLDataType dlTensor.dtype = .ok elementType)
    (releaseFunc : Option ReleaseFunction) (answer : Except GxfResult Unit) :
    tensor.wrapDLPack attributes dlTensor releaseFunc answer =
      some (tensor.imported dlTensor shape strides storageType elementType releaseFunc answer,
        .ok ()) := by
  simp only [wrapDLPack, shapeOk, stridesOk, storageOk, elementOk, wrapMemory]
  split <;> rfl

theorem wrapDLPack_cases {next : Tensor} {releaseFunc : Option ReleaseFunction}
    {answer : Except GxfResult Unit}
    (succeeds : tensor.wrapDLPack attributes dlTensor releaseFunc answer = some (next, .ok ())) :
    ∃ shape strides storageType elementType, dlTensor.toShape = .ok shape ∧
      dlTensor.toStrides = .ok strides ∧ dlTensor.toStorageType = .ok storageType ∧
      primitiveTypeFromDLDataType dlTensor.dtype = .ok elementType ∧
      next = tensor.imported dlTensor shape strides storageType elementType releaseFunc
        answer := by
  cases shapeOk : dlTensor.toShape with
  | error code => simp [wrapDLPack, shapeOk] at succeeds
  | ok shape =>
      cases stridesOk : dlTensor.toStrides with
      | error code => simp [wrapDLPack, shapeOk, stridesOk] at succeeds
      | ok strides =>
          cases storageOk : dlTensor.toStorageType with
          | error code => simp [wrapDLPack, shapeOk, stridesOk, storageOk] at succeeds
          | ok storageType =>
              cases elementOk : primitiveTypeFromDLDataType dlTensor.dtype with
              | error code =>
                  simp [wrapDLPack, shapeOk, stridesOk, storageOk, elementOk] at succeeds
              | ok elementType =>
                  rw [wrapDLPack_of_ok attributes tensor shapeOk stridesOk storageOk
                    elementOk] at succeeds
                  cases succeeds
                  exact ⟨shape, strides, storageType, elementType, rfl, rfl, rfl, rfl, rfl⟩

end Wrap

end Tensor

end Gxf.Std
