import Mathlib.Data.List.TakeWhile
import Gxf.Ucx.UcxComponentSerializer

/-!
# The entity serializer of UCX

An entity is written as a header with the number of its components, followed by a header, the
name and the value of each of them.  The transmitter sends what is written as the header of a
message; the receiver makes an entity of it and then asks for the data.

The header of a component is not initialized.  `strncpy` is told to copy as many characters as the
name has, so it writes no end of the name, and the length of the name is then taken from the header.
-/

namespace Gxf.Ucx

open Gxf.Core Gxf.Lib Gxf.Std
open Gxf.Serialization (Tid cString kMaxComponentNameSize)
open Exchange

namespace ComponentType

/-- The type ids registered by the standard and the multimedia extension. -/
def tid : ComponentType → Tid
  | .plain type => (Serialization.ComponentType.plain type).tid
  | .tensor => Serialization.ComponentType.tensor.tid
  | .endOfStream => ⟨0x8c42f7bf70414626, 0x97929eb20ce33cce⟩
  | .video => ⟨0x16ad58c8b463422c, 0xb09761a9acc5050e⟩
  | .audio => ⟨0xa914cac65f19449d, 0x9ade8c5cdcebe7c3⟩

/-- The types with a serializer. -/
def supported : List ComponentType :=
  [.tensor, .video, .audio, .endOfStream] ++ [.timestamp, .int8, .uint8, .int16, .uint16, .int32,
    .uint32, .int64, .uint64, .float, .double, .bool].map .plain

/-- `findComponentSerializer(tid)`, as the type it serializes. -/
def ofTid (tid : Tid) : Option ComponentType := supported.find? fun type => type.tid = tid

theorem ofTid_tid (type : ComponentType) : ofTid type.tid = some type := by
  cases type with
  | plain type => cases type <;> decide
  | endOfStream | tensor | video | audio => decide

end ComponentType

/-- The name of a component, which the runtime accepted. -/
structure ComponentName where
  characters : List UInt8
  ends : 0 ∉ characters
  short : characters.length < kMaxComponentNameSize

/-- A component with a serializer. -/
structure Component where
  name : ComponentName
  value : Value

/-- The name of a component that is sent, and the memory around it. -/
structure SentName where
  /-- The bytes that can be read at `component->name()`. -/
  text : List UInt8
  ends : 0 ∈ text
  /-- What the name of the new header holds. -/
  stale : Vector UInt8 kMaxComponentNameSize

/-- A component as the sender finds it. -/
structure SentComponent where
  name : SentName
  value : Value

/-- The components of an entity that have a serializer. -/
structure SentEntity where
  components : List SentComponent
  few : components.length ≤ kMaxComponents

/-- `UcxEntitySerializer::EntityHeader`. -/
structure EntityHeader where
  serializedSize : UInt64
  sequenceNumber : UInt64
  componentCount : UInt64

def entityHeader : Format EntityHeader :=
  (Format.uint64.pair (Format.uint64.pair Format.uint64)).via
    (fun header => (header.serializedSize, header.sequenceNumber, header.componentCount))
    (fun fields => ⟨fields.1, fields.2.1, fields.2.2⟩)
    fun _ => rfl

/-- `UcxEntitySerializer::ComponentHeader`. -/
structure ComponentHeader where
  serializedSize : UInt64
  tid : Tid
  name : Vector UInt8 kMaxComponentNameSize

def componentHeader : Format ComponentHeader :=
  (Format.uint64.pair (Format.uint64.pair (Format.uint64.pair
    (charArray kMaxComponentNameSize)))).via
    (fun header => (header.serializedSize, header.tid.hash1, header.tid.hash2, header.name))
    (fun fields => ⟨fields.1, ⟨fields.2.1, fields.2.2.1⟩, fields.2.2.2⟩)
    fun _ => rfl

namespace SentName

variable (name : SentName)

def characters : List UInt8 := cString name.text

/-- The name in the header after `strncpy(header.name, name, strlen(name))`. -/
def copied : Vector UInt8 kMaxComponentNameSize :=
  Vector.ofFn fun index => name.characters.getD index name.stale[index]

/-- The copy stays within the header. -/
def Fits : Prop := name.characters.length ≤ kMaxComponentNameSize

/-- The old contents behind the copy. -/
def behind : List UInt8 := name.stale.toList.drop name.characters.length

/-- The length that the header gives to the name. -/
def length : Nat := name.characters.length + (cString name.behind).length

/-- There is a zero behind the copy, and the name's own memory can be read up to the first. -/
def Terminated : Prop := 0 ∈ name.behind ∧ name.length ≤ name.text.length

instance : Decidable name.Fits := inferInstanceAs (Decidable (_ ≤ _))

instance : Decidable name.Terminated := inferInstanceAs (Decidable (_ ∧ _))

end SentName

def SentComponent.header (component : SentComponent) : ComponentHeader where
  serializedSize := 0
  tid := component.value.type.tid
  name := component.name.copied

def headerOfEntity (sequenceNumber : UInt64) (entity : SentEntity) : EntityHeader where
  serializedSize := 0
  sequenceNumber := sequenceNumber
  componentCount := UInt64.ofNat entity.components.length

section Serialization

variable (surroundings : Surroundings)

/-- `strlen(memory)`, if the end is in the memory. -/
def strlen? (memory : List UInt8) : Option Nat :=
  if 0 ∈ memory then some (cString memory).length else none

def strlen (memory : List UInt8) : Exchange Nat :=
  match strlen? memory with
  | some length => pure length
  | none => .lift .undefined

/-- `write(data, size)`, where the bytes behind the data are not looked at. -/
def writeFrom (data : List UInt8) (size : Nat) : Exchange Nat :=
  if size ≤ data.length then write (data.take size) else .lift .undefined

/-- `serializeComponents(entries, endpoint)`, with the size so far. -/
def serializeComponents (size : Nat) : List SentComponent → Exchange Nat
  | [] => pure size
  | component :: components => do
      let _ ← writeTrivialType componentHeader component.header
      let length ← strlen component.header.name.toList
      let _ ← writeFrom component.name.text length
      let count ← serializeValue surroundings component.value
      serializeComponents (size + componentHeader.width + length + count) components

def nextSequenceNumber : Exchange UInt64 := fun session =>
  .ok (session.buffer.sequenceNumber,
    { session with buffer :=
      { session.buffer with sequenceNumber := session.buffer.sequenceNumber + 1 } })

/-- `createComponentEntries(components)`, where no name is copied past its header. -/
def createComponentEntries (components : List SentComponent) : Exchange (List SentComponent) :=
  if ∀ component ∈ components, component.name.Fits then pure components else .lift .undefined

/-- `serialize_entity_abi(eid, endpoint, size)`. -/
def serializeEntity (entity : SentEntity) : Exchange Nat := do
  let entries ← createComponentEntries entity.components
  let sequenceNumber ← nextSequenceNumber
  let _ ← writeTrivialType entityHeader (headerOfEntity sequenceNumber entity)
  let size ← serializeComponents surroundings 0 entries
  pure (entityHeader.width + size)

end Serialization

namespace SentName

variable {name : SentName} {session next : Session}

theorem fits_of_terminated (terminated : name.Terminated) : name.Fits := by
  have inside := List.length_pos_of_mem terminated.1
  rw [behind, List.length_drop, Vector.length_toList] at inside
  rw [Fits]
  omega

theorem toList_copied (fits : name.Fits) :
    name.copied.toList = name.characters ++ name.behind := by
  rw [Fits] at fits
  refine List.ext_getElem (by simp [behind]; omega) fun index inside _ => ?_
  rw [List.getElem_append]
  simp only [copied, behind, Vector.getElem_toList, Vector.getElem_ofFn, List.getElem_drop]
  split
  next within => simp [within]
  next outside => simp [Nat.not_lt.mp outside]

theorem not_mem_characters : 0 ∉ name.characters := fun zero => by
  simpa using List.mem_takeWhile_imp zero

theorem strlen?_copied (fits : name.Fits) :
    strlen? name.copied.toList = if 0 ∈ name.behind then some name.length else none := by
  have letters : ∀ letter ∈ name.characters, decide (letter ≠ 0) = true := fun letter among =>
    decide_eq_true fun zero => not_mem_characters (zero ▸ among)
  rw [toList_copied fits, strlen?, cString, List.takeWhile_append_of_pos letters,
    List.length_append]
  simp only [List.mem_append, not_mem_characters, false_or]
  rfl

/-- The bytes that are written for a name begin with the name and its end. -/
theorem cString_take : cString (name.text.take name.length) = name.characters := by
  rw [cString, ← List.take_takeWhile]
  exact List.take_of_length_le (Nat.le_add_right _ _)

end SentName

/-- A name of one letter, over memory with one value. -/
def letterOver (byte : UInt8) : SentName where
  text := [97, 0]
  ends := List.mem_cons_of_mem _ (List.mem_singleton_self 0)
  stale := .replicate _ byte

section Deserialization

variable (surroundings : Surroundings)

/-- `entity.add(tid, name)`, with the name that the component gets. -/
def addComponent (entity : List Component) (name : List UInt8) : Except GxfResult ComponentName :=
  if short : (cString name).length < kMaxComponentNameSize then
    if kMaxComponents ≤ entity.length then .error .GXF_ENTITY_MAX_COMPONENTS_LIMIT_EXCEEDED
    else
      .ok
        { characters := cString name
          ends := fun zero => by simpa using List.mem_takeWhile_imp zero
          short }
  else .error .GXF_ENTITY_COMPONENT_NAME_EXCEEDS_LIMIT

/-- One round of `deserializeComponents`, with the components added before and the header
of the next.  The name is read a second time, over the one of the header. -/
def deserializeComponent (entity : List Component) (header : ComponentHeader) :
    Exchange Component :=
  match ComponentType.ofTid header.tid with
  | none => .answer (.error .GXF_QUERY_NOT_FOUND)
  | some type => do
      let length ← strlen header.name.toList
      let bytes ← read length
      let name ← .answer (addComponent entity bytes)
      let value ← deserializeValue surroundings type
      pure ⟨name, value⟩

/-- `deserializeComponents(component_count, entity, endpoint)`, with the components that are left
and those added. -/
def deserializeComponents : Nat → List Component → Exchange (List Component)
  | 0, entity => pure entity
  | count + 1, entity => do
      let header ← readTrivialType componentHeader
      let component ← deserializeComponent surroundings entity header
      deserializeComponents count (entity ++ [component])

def expectSequenceNumber (sequenceNumber : UInt64) : Exchange Unit := fun session =>
  .ok ((), { session with buffer := { session.buffer with sequenceNumber := sequenceNumber + 1 } })

/-- `deserialize_entity_header_abi(endpoint)`, into a new entity. -/
def deserializeEntity : Exchange (List Component) := do
  let header ← readTrivialType entityHeader
  expectSequenceNumber header.sequenceNumber
  deserializeComponents surroundings header.componentCount.toNat []

end Deserialization

/-- What `msg`, `msg_length` and `datatype` describe. -/
inductive MessageData where
  | contig (iov : Iov)
  | iov (iovs : List Iov)
  deriving DecidableEq

def MessageData.lengths : MessageData → List UInt64
  | .contig single => [single.length]
  | .iov iovs => iovs.map Iov.length

/-- The data of a message with its `memory_type`, as one operation of UCX gets them. -/
structure DataParams where
  data : MessageData
  memoryType : UcsMemoryType
  deriving DecidableEq

def UcxSerializationBuffer.dataParams (buffer : UcxSerializationBuffer) : DataParams where
  data :=
    match buffer.iovBuffers with
    | [single] => .contig single
    | iovs => .iov iovs
  memoryType := buffer.memType

/-- `send_am(entity)` up to the call of UCX, with the header of the message and the buffer. -/
def sendAm (surroundings : Surroundings) (entity : SentEntity) (buffer : UcxSerializationBuffer) :
    Lib.Outcome GxfResult (List UInt8 × UcxSerializationBuffer) :=
  match serializeEntity surroundings entity ⟨buffer.reset, 0⟩ with
  | .undefined => .undefined
  | .aborted => .aborted
  | .error code => .error code
  | .ok (size, session) => .ok (session.buffer.memory.take size, session.buffer)

/-- `am_desc_to_iov(rx_context)` for a message with a header, with the entity and the buffer. -/
def amDescToIov (surroundings : Surroundings) (header : List UInt8)
    (buffer : UcxSerializationBuffer) :
    Lib.Outcome GxfResult (List Component × UcxSerializationBuffer) :=
  match (do
      let _ ← write header
      deserializeEntity surroundings : Exchange (List Component)) ⟨buffer.reset, 0⟩ with
  | .undefined => .undefined
  | .aborted => .aborted
  | .error code => .error code
  | .ok (entity, session) => .ok (entity, session.buffer)

end Gxf.Ucx
