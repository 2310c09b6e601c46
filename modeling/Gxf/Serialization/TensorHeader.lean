import Gxf.Serialization.Endpoint

/-!
# Tensors on the wire

A tensor is written as a header and the bytes of its elements.  The header is read back without
a check of its fields: an array indexed with the rank, the products of the dimensions and the
divisors of the exchange format are those of the header.
-/

namespace Gxf.Serialization

open Gxf.Core Gxf.Lib Gxf.Std

def storageTypeCode : MemoryStorageType → Int32
  | .kHost => 0
  | .kDevice => 1
  | .kSystem => 2

def storageTypeOf (code : Int32) : Option MemoryStorageType :=
  match code.toInt with
  | 0 => some .kHost
  | 1 => some .kDevice
  | 2 => some .kSystem
  | _ => none

def elementTypeCode : PrimitiveType → Int32
  | .kCustom => 0
  | .kInt8 => 1
  | .kUnsigned8 => 2
  | .kInt16 => 3
  | .kUnsigned16 => 4
  | .kInt32 => 5
  | .kUnsigned32 => 6
  | .kInt64 => 7
  | .kUnsigned64 => 8
  | .kFloat32 => 9
  | .kFloat64 => 10
  | .kComplex64 => 11
  | .kComplex128 => 12
  | .kFloat16 => 13

def elementTypeOf (code : Int32) : Option PrimitiveType :=
  match code.toInt with
  | 0 => some .kCustom
  | 1 => some .kInt8
  | 2 => some .kUnsigned8
  | 3 => some .kInt16
  | 4 => some .kUnsigned16
  | 5 => some .kInt32
  | 6 => some .kUnsigned32
  | 7 => some .kInt64
  | 8 => some .kUnsigned64
  | 9 => some .kFloat32
  | 10 => some .kFloat64
  | 11 => some .kComplex64
  | 12 => some .kComplex128
  | 13 => some .kFloat16
  | _ => none

@[simp] theorem storageTypeOf_code (storageType : MemoryStorageType) :
    storageTypeOf (storageTypeCode storageType) = some storageType := by
  cases storageType <;> rfl

@[simp] theorem elementTypeOf_code (elementType : PrimitiveType) :
    elementTypeOf (elementTypeCode elementType) = some elementType := by
  cases elementType <;> rfl

/-- `TensorHeader`.  Its enumerations hold any number. -/
structure TensorHeader where
  storageType : Int32
  elementType : Int32
  bytesPerElement : UInt64
  rank : UInt32
  dims : Vector Int32 kMaxRank
  strides : Vector UInt64 kMaxRank

def tensorHeader : Format TensorHeader :=
  (Format.int32.pair (Format.int32.pair (Format.uint64.pair (Format.uint32.pair
    ((Format.int32.array kMaxRank).pair (Format.uint64.array kMaxRank)))))).via
    (fun header => (header.storageType, header.elementType, header.bytesPerElement,
      header.rank, header.dims, header.strides))
    (fun fields => ⟨fields.1, fields.2.1, fields.2.2.1, fields.2.2.2.1, fields.2.2.2.2.1,
      fields.2.2.2.2.2⟩)
    fun _ => rfl

/-- A tensor with the contents of its memory. -/
structure TensorValue where
  tensor : Tensor := {}
  data : List UInt8 := []

namespace TensorValue

variable (value : TensorValue)

/-- The number of bytes that are transferred. -/
def size : UInt64 := value.tensor.elementCount * value.tensor.bytesPerElement

/-- The bytes of the elements.  Past the memory of the tensor they have no value. -/
def elements : Transfer (List UInt8) :=
  if value.size.toNat ≤ value.data.length then pure (value.data.take value.size.toNat)
  else .lift .undefined

def header : TensorHeader where
  storageType := storageTypeCode value.tensor.memoryBuffer.storageType
  elementType := elementTypeCode value.tensor.elementType
  bytesPerElement := value.tensor.bytesPerElement
  rank := UInt32.ofNat value.tensor.shape.rank
  dims := Vector.ofFn fun index => value.tensor.shape.dimension index
  strides := Vector.ofFn fun index => value.tensor.stride index

end TensorValue

/-- The switch over the storage type in `serializeTensor`. -/
def writeElements (machine : Machine) (value : TensorValue) : Transfer Unit :=
  match value.tensor.memoryBuffer.storageType with
  | .kHost | .kSystem => do
      checkPointer value.tensor.memoryBuffer.pointer
      let bytes ← value.elements
      let _ ← machine.write bytes
      pure ()
  | .kDevice => do
      let buffer ← machine.allocate value.size (storageTypeCode .kHost)
      let bytes ← value.elements
      machine.cudaMemcpy
      checkPointer buffer
      let _ ← machine.write bytes
      machine.free

/-- `serializeTensor(tensor, endpoint)`. -/
def serializeTensor (machine : Machine) (value : TensorValue) : Transfer UInt64 := do
  let _ ← machine.writeTrivialType tensorHeader value.header
  writeElements machine value
  pure (UInt64.ofNat tensorHeader.width + value.size)

namespace TensorHeader

variable (header : TensorHeader)

/-- `Shape(dims, rank)`, with the entries that exist. -/
def shape : Shape := ⟨header.dims.toList.take header.rank.toNat, by
    rw [List.length_take, Vector.length_toList]
    exact Nat.min_le_right _ _⟩

/-- The primitive size in `initializeDLContext()`. -/
def primitiveSize : UInt64 :=
  match elementTypeOf header.elementType with
  | some .kCustom => header.bytesPerElement
  | some elementType => primitiveTypeSize elementType
  | none => 0

/-- The divisors in `initializeDLContext()`: the element size for each stride, and the
primitive size. -/
def divisors : List UInt64 :=
  List.replicate header.rank.toNat header.bytesPerElement ++ [header.primitiveSize]

def describe (attributes : PointerAttributes) (pointer : UInt64) : Outcome GxfResult Tensor :=
  match elementTypeOf header.elementType, storageTypeOf header.storageType with
  | some elementType, some storageType =>
      match ({} : Tensor).reshapeCustom attributes header.shape elementType
        header.bytesPerElement (some (header.strides.toList.take header.rank.toNat)) storageType
        (some 0) (.ok ()) (.ok pointer) with
      | none => .aborted
      | some (_, .error code) => .error code
      | some (tensor, .ok _) => .ok tensor
  -- `device()` has no answer for other storage types
  | _, _ => .aborted

/-- `reshapeCustom(...)` with the fields of the header.  The loop in `size()` runs up to the
rank, also past the array of dimensions. -/
def reshapeCustom (machine : Machine) : Transfer Tensor :=
  if kMaxRank < header.rank.toNat then .lift .undefined
  else do
    let pointer ← machine.allocate (header.bytesPerElement * header.shape.size) header.storageType
    if 0 ∈ header.divisors then .lift .undefined
    else .lift (header.describe machine.attributes pointer)

end TensorHeader

/-- The switch over the storage type in `deserializeTensor`.  The number of bytes read is not
used. -/
def readElements (machine : Machine) (storageType : MemoryStorageType) (pointer size : UInt64) :
    Transfer (List UInt8) :=
  match storageType with
  | .kHost | .kSystem => do
      checkPointer pointer
      let old ← machine.uninitialized
      let delivery ← machine.read old size.toNat
      pure delivery.1
  | .kDevice => do
      let buffer ← machine.allocate size (storageTypeCode .kHost)
      checkPointer buffer
      let old ← machine.uninitialized
      let delivery ← machine.read old size.toNat
      machine.cudaMemcpy
      machine.free
      pure delivery.1

/-- `deserializeTensor(endpoint)`. -/
def deserializeTensor (machine : Machine) : Transfer TensorValue := do
  let header ← machine.readTrivialType tensorHeader
  let tensor ← header.reshapeCustom machine
  let data ← readElements machine tensor.memoryBuffer.storageType tensor.memoryBuffer.pointer
    (tensor.elementCount * tensor.bytesPerElement)
  pure ⟨tensor, data⟩

end Gxf.Serialization
