import Gxf.Serialization.RoundTrip

/-!
# Truncated messages

Numbers of bytes transferred are returned by endpoints and used by nobody.  What is missing
when a read ends early is whatever its destination held, and a write that stores too little
looks like any other.
-/

namespace Gxf.Serialization

open Gxf.Core Gxf.Lib Gxf.Std

def Machine.withMemory (machine : Machine) (memory : Nat → UInt8) : Machine :=
  { machine with memory := memory }

theorem Machine.Works.withMemory {machine : Machine} (works : machine.Works)
    (memory : Nat → UInt8) : (machine.withMemory memory).Works where
  transfers := works.transfers
  allocates := works.allocates
  releases := works.releases
  copies := works.copies
  strings := works.strings
  knows := works.knows

theorem overwrite_take {old : Nat → UInt8} {bytes : List UInt8}
    (held : ∀ index, bytes[index]? = none ∨ bytes[index]? = some (old index)) (cut : Nat) :
    overwrite old (bytes.take cut) bytes.length = bytes := by
  induction bytes generalizing old cut with
  | nil => cases cut <;> rfl
  | cons byte bytes ih =>
      have rest := @ih (fun offset => old (offset + 1)) fun index => held (index + 1)
      cases cut with
      | zero =>
          have first : byte = old 0 := by simpa using held 0
          have later := rest 0
          rw [List.take_zero] at later ⊢
          rw [List.length_cons, overwrite, later, first]
      | succ cut => exact congrArg (byte :: ·) (rest cut)

theorem shows_take (machine : Machine) (bytes : List UInt8) (cut calls : Nat) :
    (machine.withMemory fun index => bytes.getD index 0).Shows ⟨bytes.take cut, calls, 0⟩
      bytes := by
  refine overwrite_take (fun index => ?_) cut
  cases found : bytes[index]? with
  | none => exact .inl rfl
  | some byte => exact .inr (by simp [Machine.withMemory, found])

/-- No truncation is detected for sure.  Whatever is cut off from a message, the deserializer
may make an entity of the rest, depending on memory it never wrote.  And the serializer
succeeds however few bytes its writes store. -/
theorem truncation_undetected {source writer reader : Machine} (produces : source.Works)
    (lossless : source.Lossless) (writes : writer.Works) (reads : reader.Works)
    {components : List Component} (sendable : SendableEntity components)
    (sequenceNumber : UInt64) :
    (∀ size message, serializeEntity source sequenceNumber components ⟨[], 0, 0⟩ =
        .ok (size, message) →
      ∀ cut < message.content.length, ¬ ∀ memory, ∃ code,
        deserializeEntity (reader.withMemory memory) ⟨message.content.take cut, 0, 0⟩ =
          .error code) ∧
      ∀ channel, ¬ ∃ code,
        serializeEntity writer sequenceNumber components channel = .error code := by
  constructor
  · intro size message produced cut _ detected
    obtain ⟨_, _, written, all⟩ := serializeEntity_eq produces sendable sequenceNumber ⟨[], 0, 0⟩
    cases produced.symm.trans written
    have content : message.content = encodeEntity sequenceNumber components :=
      (all lossless).2.trans (List.nil_append _)
    rw [content] at detected
    obtain ⟨code, failed⟩ := detected fun index =>
      (encodeEntity sequenceNumber components).getD index 0
    obtain ⟨result, next, made, -⟩ := deserializeEntity_eq (reads.withMemory _) sendable
      sequenceNumber (shows_take reader _ cut 0)
    cases made.symm.trans failed
  · rintro channel ⟨code, failed⟩
    obtain ⟨size, next, written, -⟩ := serializeEntity_eq writes sendable sequenceNumber channel
    cases written.symm.trans failed

theorem truncation_undetected_small :
    (∀ size message, serializeEntity workingMachine 3 smallEntity ⟨[], 0, 0⟩ = .ok (size, message) →
      ∀ cut < message.content.length, ¬ ∀ memory, ∃ code,
        deserializeEntity (workingMachine.withMemory memory) ⟨message.content.take cut, 0, 0⟩ =
          .error code) ∧
      ∀ channel, ¬ ∃ code,
        serializeEntity { workingMachine with stored := fun _ _ => 0 } 3 smallEntity channel =
          .error code :=
  @truncation_undetected _ { workingMachine with stored := fun _ _ => 0 } _
    workingMachine_works (fun _ size => Nat.le_refl size)
    ⟨workingMachine_works.transfers, workingMachine_works.allocates,
      workingMachine_works.releases, workingMachine_works.copies, workingMachine_works.strings,
      workingMachine_works.knows⟩
    workingMachine_works _ smallEntity_sendable 3

def numberEntity (number : UInt16) : List Component := [⟨[110], .plain .uint16 number⟩]

/-- A message without its last byte is read as another number. -/
theorem last_byte_missing : ¬ ∀ cut < (encodeEntity 0 (numberEntity 0x0507)).length, ∃ code,
      deserializeEntity workingMachine
        ⟨(encodeEntity 0 (numberEntity 0x0507)).take cut, 0, 0⟩ = .error code := by
  intro detected
  obtain ⟨code, failed⟩ := detected 74 (by decide)
  have read : ∃ next, deserializeEntity workingMachine
      ⟨(encodeEntity 0 (numberEntity 0x0507)).take 74, 0, 0⟩ =
        .ok (numberEntity 0x0007, next) := ⟨_, rfl⟩
  obtain ⟨next, read⟩ := read
  cases read.symm.trans failed

end Gxf.Serialization
