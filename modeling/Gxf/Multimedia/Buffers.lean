import Gxf.Multimedia.Video
import Gxf.Std.MemoryBuffer

/-!
# Video and audio buffers

A buffer of either kind is memory with a description of its content.  The size of the memory is
computed from the description where the buffer allocates it, and is any size where memory of
the caller is wrapped.
-/

namespace Gxf.Multimedia

open Gxf.Core Gxf.Std

/-- `SurfaceLayout`. -/
inductive SurfaceLayout where
  | INVALID
  | PITCH_LINEAR
  | BLOCK_LINEAR
  deriving DecidableEq, Repr

/-- `VideoBufferInfo`. -/
structure VideoBufferInfo where
  width : UInt32 := 0
  height : UInt32 := 0
  colorFormat : VideoFormat := .CUSTOM
  colorPlanes : List ColorPlane := []
  surfaceLayout : SurfaceLayout := .INVALID
  deriving DecidableEq

/-- `VideoBuffer`. -/
structure VideoBuffer where
  info : VideoBufferInfo := {}
  memoryBuffer : MemoryBuffer := {}
  deriving DecidableEq

/-- `AudioFormat`. -/
inductive AudioFormat where
  | CUSTOM
  | S16LE
  | F32LE
  deriving DecidableEq, Repr

/-- `AudioLayout`. -/
inductive AudioLayout where
  | CUSTOM
  | INTERLEAVED
  | NON_INTERLEAVED
  deriving DecidableEq, Repr

/-- `AudioBufferInfo`. -/
structure AudioBufferInfo where
  channels : UInt32 := 0
  samples : UInt32 := 0
  samplingRate : UInt32 := 0
  bytesPerSample : UInt32 := 0
  audioFormat : AudioFormat := .CUSTOM
  audioLayout : AudioLayout := .CUSTOM
  deriving DecidableEq

/-- `AudioBuffer`. -/
structure AudioBuffer where
  info : AudioBufferInfo := {}
  memoryBuffer : MemoryBuffer := {}
  deriving DecidableEq

def AudioBufferInfo.size (info : AudioBufferInfo) : UInt64 :=
  (info.bytesPerSample * info.samples * info.channels).toUInt64

/-- `freeBuffer()` and `resize(allocator, size, storage_type)`, where `answer` and `allocation` are
what the release function of the old memory and the allocator answer. -/
def renewMemory (buffer : MemoryBuffer) (allocator : Nat) (size : UInt64)
    (storageType : MemoryStorageType) (answer : Except GxfResult Unit)
    (allocation : Except GxfResult UInt64) : MemoryBuffer × Except GxfResult Unit :=
  let freed := buffer.freeBuffer answer
  match freed.2.result with
  | .error code => (freed.1, .error code)
  | .ok _ =>
      let resized := freed.1.resize allocator size storageType answer allocation
      (resized.1, resized.2.result)

/-- `VideoBuffer::resizeCustom(buffer_info, size, storage_type, allocator)`. -/
def VideoBuffer.resizeCustom (video : VideoBuffer) (info : VideoBufferInfo) (size : UInt64)
    (storageType : MemoryStorageType) (allocator : Option Nat) (answer : Except GxfResult Unit)
    (allocation : Except GxfResult UInt64) : VideoBuffer × Except GxfResult Unit :=
  match allocator with
  | none => (video, .error .GXF_ARGUMENT_NULL)
  | some allocator =>
      if info.colorFormat = .CUSTOM ∨ info.width = 0 ∨ info.height = 0 then
        (video, .error .GXF_ARGUMENT_INVALID)
      else
        let renewed := renewMemory video.memoryBuffer allocator size storageType answer allocation
        (⟨info, renewed.1⟩, renewed.2)

/-- `AudioBuffer::resizeCustom(buffer_info, storage_type, allocator)`. -/
def AudioBuffer.resizeCustom (audio : AudioBuffer) (info : AudioBufferInfo)
    (storageType : MemoryStorageType) (allocator : Option Nat) (answer : Except GxfResult Unit)
    (allocation : Except GxfResult UInt64) : AudioBuffer × Except GxfResult Unit :=
  match allocator with
  | none => (audio, .error .GXF_ARGUMENT_NULL)
  | some allocator =>
      if info.audioLayout = .CUSTOM ∨ info.audioFormat = .CUSTOM then
        (audio, .error .GXF_ARGUMENT_INVALID)
      else
        let renewed :=
          renewMemory audio.memoryBuffer allocator info.size storageType answer allocation
        (⟨info, renewed.1⟩, renewed.2)

variable {buffer : MemoryBuffer} {allocator : Nat} {size : UInt64}
  {storageType : MemoryStorageType} {answer : Except GxfResult Unit}
  {allocation : Except GxfResult UInt64}

end Gxf.Multimedia
