import Gxf.Lib.Procedure
import Gxf.Lib.Wire
import Gxf.Std.Tensor.Tensor

/-!
# Endpoints

Serializers write to an endpoint and deserializers read from one.  The bytes written and not
read yet are kept in order.  A transfer may fail, a write may store fewer bytes than asked, and
a read at the end delivers what is left: the rest of its destination keeps what was there.
-/

namespace Gxf.Serialization

open Gxf.Core Gxf.Lib Gxf.Std

/-- The answers of the machine around a serializer.  Those that may change from call to call
depend on the number of calls before.  Every byte that is asked for has its own destination. -/
structure Machine where
  /-- The error that a transfer reports. -/
  ioError : Nat → Option GxfResult
  /-- How many bytes a write of some size stores. -/
  stored : Nat → Nat → Nat
  /-- What the destination of a byte holds before it is written. -/
  memory : Nat → UInt8
  /-- `allocate(size, type)`. -/
  allocation : Nat → UInt64 → Int32 → Except GxfResult UInt64
  /-- `free(pointer)`. -/
  release : Nat → Except GxfResult Unit
  /-- Whether `cudaMemcpy` succeeds. -/
  copies : Nat → Bool
  /-- Whether a string of a size can be made. -/
  holdsString : UInt64 → Bool
  attributes : PointerAttributes

/-- An endpoint with the bytes written and not read yet, the number of calls before and the
number of bytes that reads asked for. -/
structure Channel where
  content : List UInt8
  calls : Nat := 0
  asked : Nat := 0
  deriving DecidableEq

/-- Procedures of a serializer. -/
abbrev Transfer := Procedure Channel GxfResult

namespace Channel

/-- Another call was made. -/
def tick (channel : Channel) : Channel := { channel with calls := channel.calls + 1 }

end Channel

/-- The contents of memory after some bytes are written to its start. -/
def overwrite : (old : Nat → UInt8) → List UInt8 → (size : Nat) → List UInt8
  | _, _, 0 => []
  | old, [], size + 1 => old 0 :: overwrite (fun offset => old (offset + 1)) [] size
  | old, byte :: bytes, size + 1 => byte :: overwrite (fun offset => old (offset + 1)) bytes size

theorem length_overwrite (old : Nat → UInt8) (bytes : List UInt8) (size : Nat) :
    (overwrite old bytes size).length = size := by
  induction size generalizing old bytes with
  | zero => cases bytes <;> rfl
  | succ size ih => cases bytes <;> exact congrArg Nat.succ (ih _ _)

theorem overwrite_append (old : Nat → UInt8) (data rest : List UInt8) :
    overwrite old (data ++ rest) data.length = data := by
  induction data generalizing old with
  | nil => cases rest <;> rfl
  | cons byte data ih => exact congrArg (byte :: ·) (ih _)

theorem take_overwrite (old : Nat → UInt8) (bytes : List UInt8) (size : Nat) :
    (overwrite old bytes size).take bytes.length = bytes.take size := by
  induction size generalizing old bytes with
  | zero => cases bytes <;> rfl
  | succ size ih =>
      cases bytes with
      | nil => rfl
      | cons byte bytes => exact congrArg (byte :: ·) (ih _ bytes)

theorem overwrite_zeros (bytes : List UInt8) (size : Nat) : overwrite (fun _ => 0) bytes size =
      bytes.take size ++ List.replicate (size - bytes.length) 0 := by
  induction size generalizing bytes with
  | zero => cases bytes <;> simp [overwrite]
  | succ size ih =>
      cases bytes with
      | nil =>
          have rest := ih []
          rw [List.take_nil] at rest ⊢
          exact congrArg (0 :: ·) rest
      | cons byte bytes =>
          rw [List.length_cons, Nat.add_sub_add_right]
          exact congrArg (byte :: ·) (ih bytes)

theorem overwrite_add (old : Nat → UInt8) (bytes : List UInt8) (first second : Nat) :
    overwrite old bytes (first + second) = overwrite old bytes first ++
        overwrite (fun offset => old (first + offset)) (bytes.drop first) second := by
  induction first generalizing old bytes with
  | zero => cases bytes <;> simp [overwrite]
  | succ first ih =>
      have moved : (fun offset => old (first + 1 + offset)) =
          fun offset => (fun offset => old (offset + 1)) (first + offset) := by
        funext offset
        rw [Nat.add_right_comm]
      rw [Nat.add_right_comm, moved]
      cases bytes with
      | nil =>
          have shifted := ih (fun offset => old (offset + 1)) []
          rw [List.drop_nil] at shifted ⊢
          exact congrArg (old 0 :: ·) shifted
      | cons byte bytes =>
          exact congrArg (byte :: ·) (ih (fun offset => old (offset + 1)) bytes)

/-- A null pointer is an error for all endpoints. -/
def checkPointer (pointer : UInt64) : Transfer Unit :=
  if pointer = 0 then .answer (.error .GXF_ARGUMENT_NULL) else pure ()

namespace Machine

variable (machine : Machine)

/-- `write(data, size)` for data in valid memory.  It returns the number of bytes stored. -/
def write (data : List UInt8) : Transfer Nat := fun channel =>
  match machine.ioError channel.calls with
  | some code => .error code
  | none =>
      let count := min (machine.stored channel.calls data.length) data.length
      .ok (count, { channel.tick with content := channel.content ++ data.take count })

/-- `read(data, size)` into memory with given contents.  It returns what the memory holds
afterwards and the number of bytes read. -/
def read (old : Nat → UInt8) (size : Nat) : Transfer (List UInt8 × Nat) := fun channel =>
  match machine.ioError channel.calls with
  | some code => .error code
  | none =>
      .ok ((overwrite old channel.content size, min size channel.content.length),
        ⟨channel.content.drop size, channel.calls + 1, channel.asked + size⟩)

/-- What memory holds that nothing wrote to yet. -/
def uninitialized : Transfer (Nat → UInt8) := fun channel =>
  .ok (fun offset => machine.memory (channel.asked + offset), channel)

@[simp] theorem uninitialized_apply (channel : Channel) : machine.uninitialized channel =
      .ok (fun offset => machine.memory (channel.asked + offset), channel) := rfl

/-- `writeTrivialType(object)`. -/
def writeTrivialType {Value : Type} (format : Format Value) (value : Value) : Transfer Nat :=
  machine.write (format.encode value)

/-- `readTrivialType(object)` into a variable without a value.  No caller uses the number of
bytes read. -/
def readTrivialType {Value : Type} (format : Format Value) : Transfer Value := do
  let old ← machine.uninitialized
  let delivery ← machine.read old format.width
  pure (format.decode delivery.1)

/-- `allocate(size, type)`. -/
def allocate (size : UInt64) (storageType : Int32) : Transfer UInt64 := fun channel =>
  match machine.allocation channel.calls size storageType with
  | .error code => .error code
  | .ok pointer => .ok (pointer, channel.tick)

/-- `free(pointer)`. -/
def free : Transfer Unit := fun channel =>
  match machine.release channel.calls with
  | .error code => .error code
  | .ok _ => .ok ((), channel.tick)

/-- `cudaMemcpy(destination, source, size, kind)`. -/
def cudaMemcpy : Transfer Unit := fun channel =>
  if machine.copies channel.calls then .ok ((), channel.tick) else .error .GXF_FAILURE

/-- The bytes that are read next into variables without a value. -/
def Shows (channel : Channel) (bytes : List UInt8) : Prop :=
  overwrite (fun offset => machine.memory (channel.asked + offset)) channel.content
    bytes.length = bytes

variable {machine} {channel : Channel}

variable {bytes rest : List UInt8}

theorem shows_of_content (there : channel.content = bytes ++ rest) :
    machine.Shows channel bytes := by
  rw [Shows, there, overwrite_append]

theorem Shows.take_content (shows : machine.Shows channel bytes) :
    channel.content.take bytes.length = bytes.take channel.content.length := by
  rw [← take_overwrite, shows]

theorem Shows.left (shows : machine.Shows channel (bytes ++ rest)) :
    machine.Shows channel bytes := by
  rw [Shows, List.length_append, overwrite_add] at shows
  exact (List.append_inj shows (length_overwrite _ _ _)).1

theorem Shows.right (shows : machine.Shows channel (bytes ++ rest))
    {next : Channel} (content : next.content = channel.content.drop bytes.length)
    (asked : next.asked = channel.asked + bytes.length) : machine.Shows next rest := by
  rw [Shows, List.length_append, overwrite_add] at shows
  rw [Shows, content, asked]
  simp only [Nat.add_assoc]
  exact (List.append_inj shows (length_overwrite _ _ _)).2

section Reading

variable (works : machine.ioError channel.calls = none)

include works

theorem read_eq (old : Nat → UInt8) (size : Nat) : machine.read old size channel =
      .ok ((overwrite old channel.content size, min size channel.content.length),
        ⟨channel.content.drop size, channel.calls + 1, channel.asked + size⟩) := by
  rw [read, works]

theorem readTrivialType_shows {Value : Type} (format : Format Value) (value : Value)
    (shows : machine.Shows channel (format.encode value)) :
    machine.readTrivialType format channel =
      .ok (value, ⟨channel.content.drop format.width, channel.calls + 1,
        channel.asked + format.width⟩) := by
  rw [Shows, format.length_encode] at shows
  rw [readTrivialType, Procedure.bind_ok (machine.uninitialized_apply _),
    Procedure.bind_ok (read_eq works _ _), Procedure.pure_apply, shows,
    format.decode_encode_self]

end Reading

/-- Nothing fails on the machine, though a write may store fewer bytes than asked. -/
structure Works : Prop where
  transfers : ∀ calls, machine.ioError calls = none
  allocates : ∀ calls size storageType,
    ∃ pointer, pointer ≠ 0 ∧ machine.allocation calls size storageType = .ok pointer
  releases : ∀ calls, machine.release calls = .ok ()
  copies : ∀ calls, machine.copies calls
  strings : ∀ size, size.toNat < 256 → machine.holdsString size
  knows : ∀ pointer, ∃ device, dlDeviceFromPointer machine.attributes pointer = .ok device

/-- Writes store all bytes. -/
def Lossless : Prop := ∀ calls size, size ≤ machine.stored calls size

end Machine

end Gxf.Serialization
