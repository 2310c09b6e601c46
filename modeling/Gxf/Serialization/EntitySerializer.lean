import Gxf.Serialization.TensorHeader
import Gxf.Std.Entity

/-!
# Entities on the wire

An entity is written as a header with the number of its components, followed by a header, the
name and the value of each of them.  It is read back into a fresh entity.
-/

namespace Gxf.Serialization

open Gxf.Core Gxf.Lib Gxf.Std

/-- `Timestamp`. -/
structure Timestamp where
  pubtime : Int64
  acqtime : Int64
  deriving DecidableEq

/-- The component types whose values are written as they are. -/
inductive PlainType where
  | timestamp
  | int8
  | uint8
  | int16
  | uint16
  | int32
  | uint32
  | int64
  | uint64
  | float
  | double
  | bool
  deriving DecidableEq, Repr

/-- The values of a type, where floating point numbers are given by their bits. -/
def PlainType.Value : PlainType → Type
  | .timestamp => Timestamp
  | .int8 => Int8
  | .uint8 => UInt8
  | .int16 => Int16
  | .uint16 => UInt16
  | .int32 => Int32
  | .uint32 => UInt32
  | .int64 => Int64
  | .uint64 => UInt64
  | .float => UInt32
  | .double => UInt64
  | .bool => Bool

/-- The layout of a value. -/
def PlainType.format : (type : PlainType) → Format type.Value
  | .timestamp =>
      (Format.int64.pair Format.int64).via (fun time => (time.pubtime, time.acqtime))
        (fun fields => Timestamp.mk fields.1 fields.2) fun _ => rfl
  | .int8 => Format.int8
  | .uint8 => Format.uint8
  | .int16 => Format.int16
  | .uint16 => Format.uint16
  | .int32 => Format.int32
  | .uint32 => Format.uint32
  | .int64 => Format.int64
  | .uint64 => Format.uint64
  | .float => Format.uint32
  | .double => Format.uint64
  | .bool => Format.bool

/-- The component types that `StdComponentSerializer` supports. -/
inductive ComponentType where
  | plain (type : PlainType)
  | tensor
  deriving DecidableEq, Repr

/-- `gxf_tid_t`. -/
structure Tid where
  hash1 : UInt64
  hash2 : UInt64
  deriving DecidableEq

namespace ComponentType

/-- The type ids registered by the standard extension. -/
def tid : ComponentType → Tid
  | .tensor => ⟨0x377501d69abf447c, 0xa6170114d4f33ab8⟩
  | .plain .timestamp => ⟨0xd1095b105c904bbc, 0xbc89601134cb4e03⟩
  | .plain .int8 => ⟨0x83905c6aca344f40, 0xb474cf2cde8274de⟩
  | .plain .uint8 => ⟨0xd4299e150006d0bf, 0x8cbd9b743575e155⟩
  | .plain .int16 => ⟨0x9e1dde793550307d, 0xe81ab864890b3685⟩
  | .plain .uint16 => ⟨0x958cbdefb505bcc7, 0x8a43dc4b23f8cead⟩
  | .plain .int32 => ⟨0xb557ec7f49a508f7, 0xa35e086e9d1ea767⟩
  | .plain .uint32 => ⟨0xd5506b685c86fedb, 0xa2a2a7bae38ff3ef⟩
  | .plain .int64 => ⟨0xc611627b6393365f, 0xd2341f26bfa8d28f⟩
  | .plain .uint64 => ⟨0xc4385f5b6e2501d9, 0xd7b56e7cadc704e8⟩
  | .plain .float => ⟨0xa81bf295421f49ef, 0xf24af59e9ea0d5d6⟩
  | .plain .double => ⟨0xd57cee59686fe26d, 0x95be659c126b02ea⟩
  | .plain .bool => ⟨0xc02f9e93d01b1d29, 0xf52378d2a9195128⟩

/-- The types with a serializer. -/
def supported : List ComponentType :=
  .tensor :: [.timestamp, .int8, .uint8, .int16, .uint16, .int32, .uint32, .int64, .uint64,
    .float, .double, .bool].map .plain

/-- `findComponentSerializer(tid)`, as the type it serializes. -/
def ofTid (tid : Tid) : Option ComponentType := supported.find? fun type => type.tid = tid

theorem ofTid_tid (type : ComponentType) : ofTid type.tid = some type := by
  cases type with
  | tensor => decide
  | plain type => cases type <;> decide

end ComponentType

/-- The value of a component. -/
inductive Value where
  | plain (type : PlainType) (value : type.Value)
  | tensor (value : TensorValue)

def Value.type : Value → ComponentType
  | .plain type _ => .plain type
  | .tensor _ => .tensor

/-- A component, with the characters of its name. -/
structure Component where
  name : List UInt8
  value : Value

/-- `EntityHeader`. -/
structure EntityHeader where
  serializedSize : UInt64
  checksum : UInt32
  sequenceNumber : UInt64
  flags : UInt32
  componentCount : UInt64
  reserved : UInt64

def entityHeader : Format EntityHeader :=
  (Format.uint64.pair (Format.uint32.pair (Format.uint64.pair (Format.uint32.pair
    (Format.uint64.pair Format.uint64))))).via
    (fun header => (header.serializedSize, header.checksum, header.sequenceNumber,
      header.flags, header.componentCount, header.reserved))
    (fun fields => ⟨fields.1, fields.2.1, fields.2.2.1, fields.2.2.2.1, fields.2.2.2.2.1,
      fields.2.2.2.2.2⟩)
    fun _ => rfl

/-- `ComponentHeader`. -/
structure ComponentHeader where
  serializedSize : UInt64
  tid : Tid
  nameSize : UInt64

def componentHeader : Format ComponentHeader :=
  (Format.uint64.pair (Format.uint64.pair (Format.uint64.pair Format.uint64))).via
    (fun header => (header.serializedSize, header.tid.hash1, header.tid.hash2, header.nameSize))
    (fun fields => ⟨fields.1, ⟨fields.2.1, fields.2.2.1⟩, fields.2.2.2⟩)
    fun _ => rfl

/-- `kMaxComponentNameSize`. -/
def kMaxComponentNameSize : Nat := 256

namespace Component

variable (component : Component)

/-- The header of a component.  The size is not known before it is written. -/
def header : ComponentHeader where
  serializedSize := 0
  tid := component.value.type.tid
  nameSize := UInt64.ofNat component.name.length

end Component

section Serialization

variable (machine : Machine)

def serializeValue : Value → Transfer UInt64
  | .plain type value => do
      let count ← machine.writeTrivialType type.format value
      pure (UInt64.ofNat count)
  | .tensor value => serializeTensor machine value

/-- `serializeComponents(entries, endpoint)`, with the size so far. -/
def serializeComponents (size : UInt64) : List Component → Transfer UInt64
  | [] => pure size
  | component :: components => do
      let _ ← machine.writeTrivialType componentHeader component.header
      let _ ← machine.write component.name
      let componentSize ← serializeValue machine component.value
      serializeComponents
        (size + UInt64.ofNat componentHeader.width + component.header.nameSize + componentSize)
        components

/-- `serialize_entity_abi(eid, endpoint, size)`, with the number of the message. -/
def serializeEntity (sequenceNumber : UInt64) (components : List Component) : Transfer UInt64 := do
  let _ ← machine.writeTrivialType entityHeader
    { serializedSize := 0
      checksum := 0
      sequenceNumber := sequenceNumber
      flags := 0
      componentCount := UInt64.ofNat components.length
      reserved := 0 }
  let size ← serializeComponents machine 0 components
  pure (UInt64.ofNat entityHeader.width + size)

end Serialization

section Deserialization

variable (machine : Machine)

def deserializeValue : ComponentType → Transfer Value
  | .plain type => do
      let value ← machine.readTrivialType type.format
      pure (.plain type value)
  | .tensor => do
      let value ← deserializeTensor machine
      pure (.tensor value)

/-- The name in a string, which `c_str()` ends at the first null. -/
def cString (bytes : List UInt8) : List UInt8 := bytes.takeWhile (· ≠ 0)

/-- The name of a component, read into a string of zeros. -/
def readName (nameSize : UInt64) : Transfer (List UInt8) :=
  if machine.holdsString nameSize then do
    let delivery ← machine.read (fun _ => 0) nameSize.toNat
    pure (cString delivery.1)
  else .answer (.error .GXF_OUT_OF_MEMORY)

/-- The checks of `entity.add(tid, name)`. -/
def checkAdd (entity : List Component) (name : List UInt8) : Except GxfResult Unit :=
  if kMaxComponentNameSize ≤ name.length then .error .GXF_ENTITY_COMPONENT_NAME_EXCEEDS_LIMIT
  else if kMaxComponents ≤ entity.length then
    .error .GXF_ENTITY_MAX_COMPONENTS_LIMIT_EXCEEDED
  else .ok ()

/-- `deserializeComponents(component_count, entity, endpoint)`, with the components that are
left and those added. -/
def deserializeComponents : Nat → List Component → Transfer (List Component)
  | 0, entity => pure entity
  | count + 1, entity => do
      let header ← machine.readTrivialType componentHeader
      match ComponentType.ofTid header.tid with
      | none => .answer (.error .GXF_QUERY_NOT_FOUND)
      | some type =>
          let name ← readName machine header.nameSize
          .answer (checkAdd entity name)
          let value ← deserializeValue machine type
          deserializeComponents count (entity ++ [⟨name, value⟩])

/-- `deserialize_entity_header_abi(endpoint)`, into a new entity. -/
def deserializeEntity : Transfer (List Component) := do
  let header ← machine.readTrivialType entityHeader
  deserializeComponents machine header.componentCount.toNat []

end Deserialization

end Gxf.Serialization
