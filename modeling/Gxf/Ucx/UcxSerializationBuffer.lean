import Gxf.Lib.Procedure
import Gxf.Lib.Wire
import Gxf.Std.Tensor.Tensor

/-!
# The serialization buffer of UCX

The headers of an entity are bytes in the buffer.  The data of its components stays where it is:
the buffer lists where each of them is and how long, and has one type of memory for all.
-/

namespace Gxf.Ucx

open Gxf.Core Gxf.Lib Gxf.Std

/-- `ucs_memory_type_t`, as far as it is used. -/
inductive UcsMemoryType where
  | HOST
  | CUDA
  | CUDA_MANAGED
  deriving DecidableEq, Repr

/-- `ucx_mem_type(gxf_mem_type)`. -/
def ucxMemType : MemoryStorageType → UcsMemoryType
  | .kHost => .CUDA_MANAGED
  | .kDevice => .CUDA
  | .kSystem => .HOST

/-- `ucp_dt_iov_t`. -/
structure Iov where
  buffer : UInt64
  length : UInt64
  deriving DecidableEq

/-- `UcxSerializationBuffer`.  Its memory is split where the next write goes. -/
structure UcxSerializationBuffer where
  written : List UInt8 := []
  spare : List UInt8 := []
  readOffset : Nat := 0
  iovBuffers : List Iov := []
  memType : UcsMemoryType := .HOST
  sequenceNumber : UInt64 := 0
  deriving DecidableEq

namespace UcxSerializationBuffer

variable (buffer : UcxSerializationBuffer)

def memory : List UInt8 := buffer.written ++ buffer.spare

/-- `reset()`. -/
def reset : UcxSerializationBuffer :=
  { buffer with
    written := []
    spare := buffer.memory
    readOffset := 0
    iovBuffers := []
    memType := .HOST }

/-- Bytes are copied to the memory. -/
def wrote (data : List UInt8) : UcxSerializationBuffer :=
  { buffer with written := buffer.written ++ data, spare := buffer.spare.drop data.length }

/-- Bytes are copied from the memory. -/
def skipped (size : Nat) : UcxSerializationBuffer :=
  { buffer with readOffset := buffer.readOffset + size }

def attached (iov : Iov) (storageType : MemoryStorageType) : UcxSerializationBuffer :=
  { buffer with iovBuffers := buffer.iovBuffers ++ [iov], memType := ucxMemType storageType }

/-- What is read next. -/
def unread : List UInt8 := buffer.memory.drop buffer.readOffset

variable {buffer}

end UcxSerializationBuffer

/-- A buffer with the number of allocations before. -/
structure Session where
  buffer : UcxSerializationBuffer
  allocations : Nat := 0

/-- Procedures of the serializers. -/
abbrev Exchange := Procedure Session GxfResult

/-- What the serializers of one side get from their surroundings. -/
structure Surroundings where
  /-- What a header holds before it is written, by the place where it is written to. -/
  stack : Nat → Nat → UInt8
  /-- `allocate(size, type)`. -/
  allocation : Nat → UInt64 → MemoryStorageType → Except GxfResult UInt64
  attributes : PointerAttributes

namespace Exchange

/-- `write(data, size)`. -/
def write (data : List UInt8) : Exchange Nat := fun session =>
  if session.buffer.memory.length = 0 then .error .GXF_UNINITIALIZED_VALUE
  else if session.buffer.spare.length < data.length then .error .GXF_EXCEEDING_PREALLOCATED_SIZE
  else .ok (data.length, { session with buffer := session.buffer.wrote data })

/-- `read(data, size)`. -/
def read (size : Nat) : Exchange (List UInt8) := fun session =>
  if session.buffer.unread.length < size then .error .GXF_EXCEEDING_PREALLOCATED_SIZE
  else
    .ok (session.buffer.unread.take size, { session with buffer := session.buffer.skipped size })

/-- `write_ptr(pointer, size, type)`. -/
def writePtr (memory : MemoryBuffer) : Exchange Unit := fun session =>
  if memory.pointer = 0 then .error .GXF_ARGUMENT_NULL
  else
    .ok ((),
      { session with
        buffer := session.buffer.attached ⟨memory.pointer, memory.size⟩ memory.storageType })

/-- `writeTrivialType(object)`. -/
def writeTrivialType {Value : Type} (format : Format Value) (value : Value) : Exchange Nat :=
  write (format.encode value)

/-- `readTrivialType(object)`. -/
def readTrivialType {Value : Type} (format : Format Value) : Exchange Value := do
  let bytes ← read format.width
  pure (format.decode bytes)

variable {session next : Session}

theorem read_eq {bytes rest : List UInt8} (there : session.buffer.unread = bytes ++ rest) :
    read bytes.length session =
      .ok (bytes, { session with buffer := session.buffer.skipped bytes.length }) := by
  have enough : ¬ session.buffer.unread.length < bytes.length := by
    rw [there, List.length_append]
    exact Nat.not_lt.mpr (Nat.le_add_right _ _)
  rw [read, if_neg enough, there, List.take_left]

theorem readTrivialType_eq {Value : Type} {format : Format Value} {value : Value}
    {rest : List UInt8} (there : session.buffer.unread = format.encode value ++ rest) :
    readTrivialType format session =
      .ok (value, { session with buffer := session.buffer.skipped format.width }) := by
  have width := format.length_encode value
  rw [readTrivialType, ← width, Procedure.bind_ok (read_eq there), Procedure.pure_apply,
    format.decode_encode_self]

end Exchange

end Gxf.Ucx
