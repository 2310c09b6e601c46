import Gxf.Multimedia.PlaneLayout
import Gxf.Std.Tensor.Bounds
import Gxf.Ucx.UcxEntitySerializer

/-!
# Sender and receiver agree about the data

An entity is only sent if the name of each component ends in its header.  Whenever it was sent and
the receiver could make an entity of the header, both sides list buffers of the same lengths with
the right type of memory exactly if the memory of every component is as large as its description
says and all memory of the entity is of one type.
-/

namespace Gxf.Ucx

open Gxf.Core Gxf.Lib Gxf.Std Gxf.Multimedia
open Gxf.Serialization (TensorValue tensorHeader cString kMaxComponentNameSize storageTypeOf_code
  elementTypeOf_code)

/-- The size of the memory of a value, as the receiver computes it from the header. -/
def Value.describedSize : Value → UInt64
  | .plain _ _ | .endOfStream _ => 0
  | .tensor value => value.bytesPerElement * value.shape.size
  | .video value => planesSize value.info.colorPlanes
  | .audio value => value.info.size

def memories (values : List Value) : List MemoryBuffer := values.filterMap Value.memory

def SentEntity.values (entity : SentEntity) : List Value :=
  entity.components.map SentComponent.value

/-- The lengths on both sides are the same, and each side uses the right memory type for all of
its buffers. -/
structure Agrees (sent received : DataParams) (values made : List Value) : Prop where
  lengths : received.data.lengths = sent.data.lengths
  sentTypes : ∀ memory ∈ memories values, sent.memoryType = ucxMemType memory.storageType
  receivedTypes : ∀ memory ∈ memories made, received.memoryType = ucxMemType memory.storageType

/-- The entry for memory. -/
def iovOf (memory : MemoryBuffer) : Iov := ⟨memory.pointer, memory.size⟩

def lastMemType : UcsMemoryType → List MemoryBuffer → UcsMemoryType
  | start, [] => start
  | _, memory :: rest => lastMemType (ucxMemType memory.storageType) rest

theorem lastMemType_append (start : UcsMemoryType) (first second : List MemoryBuffer) :
    lastMemType start (first ++ second) = lastMemType (lastMemType start first) second := by
  induction first generalizing start with
  | nil => rfl
  | cons memory rest ih => exact ih _

/-- Some memory was attached to a buffer. -/
structure Attached (buffer next : UcxSerializationBuffer) (attached : List MemoryBuffer) :
    Prop where
  iovs : next.iovBuffers = buffer.iovBuffers ++ attached.map iovOf
  memType : next.memType = lastMemType buffer.memType attached

namespace Attached

variable {buffer middle next : UcxSerializationBuffer} {first second : List MemoryBuffer}

theorem of_same (iovs : next.iovBuffers = buffer.iovBuffers)
    (memType : next.memType = buffer.memType) : Attached buffer next [] where
  iovs := iovs.trans (List.append_nil _).symm
  memType := memType

theorem trans (before : Attached buffer middle first) (after : Attached middle next second) :
    Attached buffer next (first ++ second) where
  iovs := by rw [after.iovs, before.iovs, List.map_append, List.append_assoc]
  memType := by rw [after.memType, before.memType, lastMemType_append]

theorem attached (memory : MemoryBuffer) :
    Attached buffer (buffer.attached (iovOf memory) memory.storageType) [memory] where
  iovs := rfl
  memType := rfl

end Attached

/-! ## Writing -/

/-- The bytes of a value, with what its header held before. -/
inductive Value.Encoded : Value → List UInt8 → Prop
  | plain (type) (value) : Encoded (.plain type value) (type.format.encode value)
  | endOfStream (streamId) : Encoded (.endOfStream streamId) (Format.int64.encode streamId)
  | tensor (value) : Encoded (.tensor value) (tensorHeader.encode (headerOfTensor value))
  | video {value : VideoBuffer} (few : value.info.colorPlanes.length ≤ kColorPlanes) (old) :
      Encoded (.video value) (videoBufferHeader.encode (videoHeader old value))
  | audio (value) : Encoded (.audio value)
        (audioBufferHeader.encode ⟨value.memoryBuffer.storageType, value.info⟩)

/-- The bytes of components whose names end in their headers. -/
inductive EncodedAll : List SentComponent → List UInt8 → Prop
  | nil : EncodedAll [] []
  | cons {component : SentComponent} {components : List SentComponent} {bytes more : List UInt8}
      (terminated : component.name.Terminated) (value : component.value.Encoded bytes)
      (rest : EncodedAll components more) :
      EncodedAll (component :: components) (componentHeader.encode component.header ++
          (component.name.text.take component.name.length ++ (bytes ++ more)))

theorem EncodedAll.terminated {components : List SentComponent} {bytes : List UInt8}
    (encoded : EncodedAll components bytes) :
    ∀ component ∈ components, component.name.Terminated := by
  induction encoded with
  | nil => exact List.forall_mem_nil _
  | cons terminated _ _ ih => exact List.forall_mem_cons.mpr ⟨terminated, ih⟩

/-- Bytes were written and memory was attached. -/
structure Wrote (session next : Session) (bytes : List UInt8) (attached : List MemoryBuffer) :
    Prop where
  written : next.buffer.written = session.buffer.written ++ bytes
  attached : Attached session.buffer next.buffer attached

namespace Wrote

variable {session middle next : Session} {bytes more : List UInt8}
  {first second : List MemoryBuffer}

theorem trans (before : Wrote session middle bytes first) (after : Wrote middle next more second) :
    Wrote session next (bytes ++ more) (first ++ second) where
  written := by rw [after.written, before.written, List.append_assoc]
  attached := before.attached.trans after.attached

end Wrote

variable {surroundings : Surroundings} {session next : Session}

variable {count : Nat} {memory : MemoryBuffer} {Header : Type} {value : Value}
  {components : List SentComponent} {values : List Value} {entity : SentEntity}
  {buffer : UcxSerializationBuffer}

/-- Bytes were read up to a rest and memory was attached. -/
structure WasRead (session next : Session) (rest : List UInt8) (attached : List MemoryBuffer) :
    Prop where
  unread : next.buffer.unread = rest
  attached : Attached session.buffer next.buffer attached

variable {rest : List UInt8} {Result : Type}

theorem WasRead.trans {middle : Session} {more : List UInt8}
    {first second : List MemoryBuffer} (before : WasRead session middle rest first)
    (after : WasRead middle next more second) : WasRead session next more (first ++ second) where
  unread := after.unread
  attached := before.attached.trans after.attached

/-- The memory of a received value has the size and the type that the header says. -/
def Value.Received (value other : Value) : Prop :=
  other.memory.map (fun memory => (memory.size, memory.storageType)) =
    value.memory.map fun memory => (value.describedSize, memory.storageType)

variable {other : Value} {old : Nat → UInt8} {video : VideoBuffer} {bytes : List UInt8}
  {result : List Component}

/-- What a transfer leads to on both sides. -/
def transferred (sender receiver : Surroundings) (entity : SentEntity)
    (outgoing incoming : UcxSerializationBuffer) : Option (DataParams × DataParams) :=
  match sendAm sender entity outgoing with
  | .ok (header, sent) =>
      match amDescToIov receiver header incoming with
      | .ok (_, received) => some (sent.dataParams, received.dataParams)
      | _ => none
  | _ => none

def roomy : UcxSerializationBuffer := { spare := List.replicate 1000 0 }

end Gxf.Ucx
