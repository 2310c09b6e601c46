import Gxf.Serialization.EntitySerializer
import Gxf.Serialization.UntrustedHeader

/-!
# The wire format of entities

The bytes of an entity, as the concatenation of the bytes of its parts.  On a machine without
failures the serializer writes these bytes, and the deserializer gets the entity back when
they are what it reads next.
-/

namespace Gxf.Serialization

open Gxf.Core Gxf.Lib Gxf.Std Procedure

/-- The parts of a tensor that do not depend on where its memory is. -/
structure TensorContent where
  shape : Shape
  elementType : PrimitiveType
  bytesPerElement : UInt64
  strides : Strides
  storageType : MemoryStorageType
  data : List UInt8
  deriving DecidableEq

namespace TensorValue

variable (value : TensorValue)

/-- What a tensor says. -/
def content : TensorContent where
  shape := value.tensor.shape
  elementType := value.tensor.elementType
  bytesPerElement := value.tensor.bytesPerElement
  strides := value.tensor.strides
  storageType := value.tensor.memoryBuffer.storageType
  data := value.data

/-- A tensor with memory, whose elements cover the memory and which has a DLPack description. -/
structure Sendable : Prop where
  counted : value.tensor.elementCount = value.tensor.shape.size
  strided : value.tensor.strides.length = value.tensor.shape.rank
  covers : value.data.length = value.size.toNat
  described : value.tensor.lanes ≠ 0
  allocated : value.tensor.memoryBuffer.storageType = .kDevice ∨
    value.tensor.memoryBuffer.pointer ≠ 0

end TensorValue

namespace Value

/-- The values are the same, up to the addresses of tensors. -/
inductive Same : Value → Value → Prop
  | plain (type : PlainType) (value : type.Value) : Same (.plain type value) (.plain type value)
  | tensor {value other : TensorValue} (content : value.content = other.content) :
      Same (.tensor value) (.tensor other)

/-- A tensor among the values can be sent; all other values can. -/
def Sendable : Value → Prop
  | .plain _ _ => True
  | .tensor value => value.Sendable

/-- The bytes of a value. -/
def encode : Value → List UInt8
  | .plain type value => type.format.encode value
  | .tensor value => tensorHeader.encode value.header ++ value.data

end Value

namespace Component

/-- The same component type, name and value. -/
structure Same (component other : Component) : Prop where
  name : component.name = other.name
  value : component.value.Same other.value

/-- A component with a name that the runtime accepts and a value that can be sent. -/
structure Sendable (component : Component) : Prop where
  ends : 0 ∉ component.name
  short : component.name.length < kMaxComponentNameSize
  value : component.value.Sendable

/-- The bytes of a component. -/
def encode (component : Component) : List UInt8 :=
  componentHeader.encode component.header ++ (component.name ++ component.value.encode)

end Component

/-- An entity whose components can be sent. -/
structure SendableEntity (components : List Component) : Prop where
  few : components.length ≤ kMaxComponents
  each : ∀ component ∈ components, component.Sendable

def headerOf (sequenceNumber : UInt64) (components : List Component) : EntityHeader where
  serializedSize := 0
  checksum := 0
  sequenceNumber := sequenceNumber
  flags := 0
  componentCount := UInt64.ofNat components.length
  reserved := 0

def encodeEntity (sequenceNumber : UInt64) (components : List Component) : List UInt8 :=
  entityHeader.encode (headerOf sequenceNumber components) ++ components.flatMap Component.encode

/-! ## Serialization -/

section Serialization

variable {machine : Machine} (works : machine.Works)

include works

theorem write_eq (data : List UInt8) (channel : Channel) :
    ∃ count next, machine.write data channel = .ok (count, next) ∧
      (machine.Lossless → count = data.length ∧ next.content = channel.content ++ data) := by
  refine ⟨_, _, by rw [Machine.write, works.transfers], fun lossless => ?_⟩
  have all := Nat.min_eq_right (lossless channel.calls data.length)
  refine ⟨all, ?_⟩
  simp only [all, List.take_length]

theorem allocate_eq (size : UInt64) (storageType : Int32) (channel : Channel) :
    ∃ pointer, pointer ≠ 0 ∧
      machine.allocate size storageType channel = .ok (pointer, channel.tick) := by
  obtain ⟨pointer, some, allocated⟩ := works.allocates channel.calls size storageType
  exact ⟨pointer, some, by rw [Machine.allocate, allocated]⟩

theorem free_eq (channel : Channel) : machine.free channel = .ok ((), channel.tick) := by
  rw [Machine.free, works.releases]

theorem cudaMemcpy_eq (channel : Channel) : machine.cudaMemcpy channel = .ok ((), channel.tick) :=
  if_pos (works.copies channel.calls)

omit works in
theorem checkPointer_eq {pointer : UInt64} (some : pointer ≠ 0) (channel : Channel) :
    checkPointer pointer channel = .ok ((), channel) := by
  rw [checkPointer, if_neg some]
  rfl

variable {value : TensorValue} {components : List Component}

omit works in
theorem elements_eq (covers : value.data.length = value.size.toNat)
    (channel : Channel) : value.elements channel = .ok (value.data, channel) := by
  rw [TensorValue.elements, if_pos (Nat.le_of_eq covers.symm), ← covers, List.take_length]
  rfl

theorem writeElements_eq (sendable : value.Sendable) (channel : Channel) :
    ∃ next, writeElements machine value channel = .ok ((), next) ∧
      (machine.Lossless → next.content = channel.content ++ value.data) := by
  rw [writeElements]
  have direct (some : value.tensor.memoryBuffer.pointer ≠ 0) : ∃ next, (do
          checkPointer value.tensor.memoryBuffer.pointer
          let bytes ← value.elements
          let _ ← machine.write bytes
          pure () : Transfer Unit) channel = .ok ((), next) ∧
        (machine.Lossless → next.content = channel.content ++ value.data) := by
    obtain ⟨count, next, ends, written⟩ := write_eq works value.data channel
    refine ⟨next, ?_, fun lossless => (written lossless).2⟩
    rw [bind_ok (checkPointer_eq some channel),
      bind_ok (elements_eq sendable.covers channel), bind_ok ends]
    rfl
  cases storage : value.tensor.memoryBuffer.storageType with
  | kHost | kSystem => exact direct (sendable.allocated.resolve_left (by simp [storage]))
  | kDevice =>
      obtain ⟨buffer, some, allocated⟩ :=
        allocate_eq works value.size (storageTypeCode .kHost) channel
      obtain ⟨count, next, ends, written⟩ := write_eq works value.data channel.tick.tick
      refine ⟨next.tick, ?_, fun lossless => (written lossless).2⟩
      simp only []
      rw [bind_ok allocated, bind_ok (elements_eq sendable.covers _),
        bind_ok (cudaMemcpy_eq works _), bind_ok (checkPointer_eq some _),
        bind_ok ends, free_eq works]

theorem serializeTensor_eq (sendable : value.Sendable) (channel : Channel) :
    ∃ next, serializeTensor machine value channel =
        .ok (UInt64.ofNat tensorHeader.width + value.size, next) ∧
      (machine.Lossless → next.content =
        channel.content ++ (tensorHeader.encode value.header ++ value.data)) := by
  obtain ⟨count, headed, begins, headerWritten⟩ :=
    write_eq works (tensorHeader.encode value.header) channel
  obtain ⟨next, ends, written⟩ := writeElements_eq works sendable headed
  refine ⟨next, ?_, fun lossless => ?_⟩
  · rw [serializeTensor, Machine.writeTrivialType, bind_ok begins, bind_ok ends]
    rfl
  · rw [written lossless, (headerWritten lossless).2, List.append_assoc]

theorem serializeValue_eq {value : Value} (sendable : value.Sendable) (channel : Channel) :
    ∃ size next, serializeValue machine value channel = .ok (size, next) ∧
      (machine.Lossless → size = UInt64.ofNat value.encode.length ∧
        next.content = channel.content ++ value.encode) := by
  cases value with
  | plain type value =>
      obtain ⟨count, next, ends, written⟩ := write_eq works (type.format.encode value) channel
      refine ⟨UInt64.ofNat count, next, ?_, fun lossless => ?_⟩
      · rw [serializeValue, Machine.writeTrivialType, bind_ok ends]
        rfl
      · obtain ⟨all, content⟩ := written lossless
        exact ⟨congrArg UInt64.ofNat all, content⟩
  | tensor value =>
      obtain ⟨next, ends, written⟩ := serializeTensor_eq works sendable channel
      refine ⟨_, next, ends, fun lossless => ⟨?_, written lossless⟩⟩
      have payload : value.size = UInt64.ofNat value.data.length := by
        rw [TensorValue.Sendable.covers sendable, UInt64.ofNat_toNat]
      rw [payload, ← UInt64.ofNat_add, Value.encode, List.length_append, Format.length_encode]

theorem serializeComponents_eq
    (sendable : ∀ component ∈ components, component.Sendable) (size : UInt64)
    (channel : Channel) :
    ∃ total next, serializeComponents machine size components channel = .ok (total, next) ∧
      (machine.Lossless → total = size + UInt64.ofNat (components.flatMap Component.encode).length ∧
        next.content = channel.content ++ components.flatMap Component.encode) := by
  induction components generalizing size channel with
  | nil =>
      refine ⟨size, channel, rfl, fun _ => ⟨?_, ?_⟩⟩
      · exact (UInt64.add_zero size).symm
      · exact (List.append_nil _).symm
  | cons component components ih =>
      obtain ⟨here, later⟩ := List.forall_mem_cons.mp sendable
      obtain ⟨count, headed, begins, headerWritten⟩ :=
        write_eq works (componentHeader.encode component.header) channel
      obtain ⟨letters, named, names, nameWritten⟩ := write_eq works component.name headed
      obtain ⟨valueSize, valued, values, valueWritten⟩ := serializeValue_eq works here.value named
      obtain ⟨total, next, ends, written⟩ := ih later
        (size + UInt64.ofNat componentHeader.width + component.header.nameSize + valueSize) valued
      refine ⟨total, next, ?_, fun lossless => ?_⟩
      · rw [serializeComponents, Machine.writeTrivialType, bind_ok begins,
          bind_ok names, bind_ok values, ends]
      · obtain ⟨counted, content⟩ := written lossless
        obtain ⟨valueCounted, valueContent⟩ := valueWritten lossless
        have length : (component.encode).length =
            componentHeader.width + (component.name.length + component.value.encode.length) := by
          rw [Component.encode, List.length_append, List.length_append, Format.length_encode]
        refine ⟨?_, ?_⟩
        · rw [counted, valueCounted, List.flatMap_cons, List.length_append, length,
            UInt64.ofNat_add, UInt64.ofNat_add, UInt64.ofNat_add, Component.header]
          simp only [UInt64.add_assoc]
        · rw [content, valueContent, (nameWritten lossless).2, (headerWritten lossless).2,
            List.flatMap_cons, Component.encode]
          simp only [List.append_assoc]

theorem serializeEntity_eq
    (sendable : SendableEntity components) (sequenceNumber : UInt64) (channel : Channel) :
    ∃ size next, serializeEntity machine sequenceNumber components channel = .ok (size, next) ∧
      (machine.Lossless → size = UInt64.ofNat (encodeEntity sequenceNumber components).length ∧
        next.content = channel.content ++ encodeEntity sequenceNumber components) := by
  obtain ⟨count, headed, begins, headerWritten⟩ :=
    write_eq works (entityHeader.encode (headerOf sequenceNumber components)) channel
  obtain ⟨total, next, ends, written⟩ := serializeComponents_eq works sendable.each 0 headed
  refine ⟨UInt64.ofNat entityHeader.width + total, next, ?_, fun lossless => ?_⟩
  · rw [serializeEntity, Machine.writeTrivialType]
    exact (bind_ok begins).trans ((bind_ok ends).trans rfl)
  · obtain ⟨counted, content⟩ := written lossless
    refine ⟨?_, ?_⟩
    · rw [counted, encodeEntity, List.length_append, Format.length_encode, UInt64.ofNat_add,
        UInt64.zero_add]
    · rw [content, (headerWritten lossless).2, encodeEntity, List.append_assoc]

end Serialization

end Gxf.Serialization
