import Gxf.Multimedia.Buffers
import Gxf.Serialization.RoundTrip
import Gxf.Ucx.UcxSerializationBuffer

/-!
# The component serializer of UCX

Tensors, video buffers and audio buffers are written as a header and attached as memory.  The
receiver makes a component of the header, with memory of its own, and attaches that memory.
Headers hold enumerations as numbers; a number of no enumerator, which no sender writes, is read
as the first one.
-/

namespace Gxf.Ucx

open Gxf.Core Gxf.Lib Gxf.Std Gxf.Multimedia
open Gxf.Serialization (PlainType TensorHeader TensorValue tensorHeader storageTypeCode
  storageTypeOf storageTypeOf_code)

def charArray (count : Nat) : Format (Vector UInt8 count) where
  width := count
  encode array := array.toList
  decode bytes := ⟨(bytes.takeD count 0).toArray, by rw [List.size_toArray, List.takeD_length]⟩
  length_encode array := array.length_toList
  decode_encode array rest := by
    apply Vector.toList_inj.mp
    have same : (array.toList ++ rest).takeD count 0 = array.toList :=
      List.takeD_left' array.length_toList
    exact same

def storageTypeFormat : Format MemoryStorageType :=
  Format.int32.via storageTypeCode (fun code => (storageTypeOf code).getD .kHost) fun storageType =>
    congrArg (Option.getD · .kHost) (storageTypeOf_code storageType)

def videoFormatFormat : Format VideoFormat :=
  Format.uint64.via (fun format => UInt64.ofNat format.ctorIdx)
    (fun code => VideoFormat.ofNat code.toNat) fun format => by cases format <;> rfl

def surfaceLayoutFormat : Format SurfaceLayout :=
  Format.uint32.via (fun layout => UInt32.ofNat layout.ctorIdx)
    (fun code => SurfaceLayout.ofNat code.toNat) fun layout => by cases layout <;> rfl

def audioFormatFormat : Format AudioFormat :=
  Format.uint32.via (fun format => UInt32.ofNat format.ctorIdx)
    (fun code => AudioFormat.ofNat code.toNat) fun format => by cases format <;> rfl

def audioLayoutFormat : Format AudioLayout :=
  Format.uint32.via (fun layout => UInt32.ofNat layout.ctorIdx)
    (fun code => AudioLayout.ofNat code.toNat) fun layout => by cases layout <;> rfl

/-- The characters of a name in a header. -/
def kColorSpaceSize : Nat := 256

/-- The planes that have room in a header. -/
def kColorPlanes : Nat := 4

/-- `ColorPlaneHeader`. -/
structure ColorPlaneHeader where
  colorSpace : Vector UInt8 kColorSpaceSize
  bytesPerPixel : UInt8
  stride : Int32
  offset : UInt32
  width : UInt32
  height : UInt32
  size : UInt64

def colorPlaneHeader : Format ColorPlaneHeader :=
  ((charArray kColorSpaceSize).pair (Format.uint8.pair (Format.int32.pair
    (Format.uint32.pair (Format.uint32.pair (Format.uint32.pair Format.uint64)))))).via
    (fun header => (header.colorSpace, header.bytesPerPixel, header.stride, header.offset,
      header.width, header.height, header.size))
    (fun fields => ⟨fields.1, fields.2.1, fields.2.2.1, fields.2.2.2.1, fields.2.2.2.2.1,
      fields.2.2.2.2.2.1, fields.2.2.2.2.2.2⟩)
    fun _ => rfl

/-- `VideoBufferHeader`. -/
structure VideoBufferHeader where
  width : UInt32
  height : UInt32
  storageType : MemoryStorageType
  colorFormat : VideoFormat
  colorPlanes : Vector ColorPlaneHeader kColorPlanes
  surfaceLayout : SurfaceLayout
  numberOfColorPlanes : UInt32

def videoBufferHeader : Format VideoBufferHeader :=
  (Format.uint32.pair (Format.uint32.pair (storageTypeFormat.pair (videoFormatFormat.pair
    ((colorPlaneHeader.array kColorPlanes).pair (surfaceLayoutFormat.pair Format.uint32)))))).via
    (fun header => (header.width, header.height, header.storageType, header.colorFormat,
      header.colorPlanes, header.surfaceLayout, header.numberOfColorPlanes))
    (fun fields => ⟨fields.1, fields.2.1, fields.2.2.1, fields.2.2.2.1, fields.2.2.2.2.1,
      fields.2.2.2.2.2.1, fields.2.2.2.2.2.2⟩)
    fun _ => rfl

/-- `AudioBufferHeader`. -/
structure AudioBufferHeader where
  storageType : MemoryStorageType
  info : AudioBufferInfo

def audioBufferHeader : Format AudioBufferHeader :=
  (storageTypeFormat.pair (Format.uint32.pair (Format.uint32.pair (Format.uint32.pair
    (Format.uint32.pair (audioFormatFormat.pair audioLayoutFormat)))))).via
    (fun header => (header.storageType, header.info.channels, header.info.samples,
      header.info.samplingRate, header.info.bytesPerSample, header.info.audioFormat,
      header.info.audioLayout))
    (fun fields => ⟨fields.1, ⟨fields.2.1, fields.2.2.1, fields.2.2.2.1, fields.2.2.2.2.1,
      fields.2.2.2.2.2.1, fields.2.2.2.2.2.2⟩⟩)
    fun _ => rfl

/-- `strncpy(array, name, name.size())` into an array with old contents.  The characters of a name
are single bytes. -/
def copyName (old : Nat → UInt8) (name : String) : Vector UInt8 kColorSpaceSize :=
  let bytes := name.toList.map fun character => UInt8.ofNat character.toNat
  let copied := bytes.takeWhile (· ≠ 0)
  let padded := copied ++ List.replicate (bytes.length - copied.length) 0
  Vector.ofFn fun index => padded.getD index (old index)

/-- The name in an array.  It ends at the first null, or with the array. -/
def nameIn (array : Vector UInt8 kColorSpaceSize) : String :=
  String.ofList ((array.toList.takeWhile (· ≠ 0)).map fun byte => Char.ofNat byte.toNat)

/-- The header of a plane that is not used: some of its fields have a default. -/
def ColorPlaneHeader.unused (old : Nat → UInt8) : ColorPlaneHeader :=
  { colorPlaneHeader.decode ((List.range colorPlaneHeader.width).map old) with
    offset := 0
    width := 0
    height := 0
    size := 0 }

def ColorPlaneHeader.ofPlane (old : Nat → UInt8) (plane : ColorPlane) : ColorPlaneHeader where
  colorSpace := copyName old plane.colorSpace
  bytesPerPixel := plane.bytesPerPixel
  stride := plane.stride.toInt32
  offset := plane.offset
  width := plane.width
  height := plane.height
  size := plane.size

def ColorPlaneHeader.plane (header : ColorPlaneHeader) : ColorPlane where
  colorSpace := nameIn header.colorSpace
  bytesPerPixel := header.bytesPerPixel
  stride := header.stride.toUInt32
  offset := header.offset
  width := header.width
  height := header.height
  size := header.size

def videoHeader (old : Nat → UInt8) (video : VideoBuffer) : VideoBufferHeader where
  width := video.info.width
  height := video.info.height
  storageType := video.memoryBuffer.storageType
  colorFormat := video.info.colorFormat
  colorPlanes := Vector.ofFn fun index =>
    match video.info.colorPlanes[index.val]? with
    | some plane =>
        .ofPlane (fun offset => old (index.val * colorPlaneHeader.width + offset)) plane
    | none => .unused fun offset => old (index.val * colorPlaneHeader.width + offset)
  surfaceLayout := video.info.surfaceLayout
  numberOfColorPlanes := UInt32.ofNat video.info.colorPlanes.length

def VideoBufferHeader.info (header : VideoBufferHeader) : VideoBufferInfo where
  width := header.width
  height := header.height
  colorFormat := header.colorFormat
  colorPlanes := (header.colorPlanes.toList.take header.numberOfColorPlanes.toNat).map
    ColorPlaneHeader.plane
  surfaceLayout := header.surfaceLayout

def planesSize (planes : List ColorPlane) : UInt64 :=
  planes.foldl (fun size plane => size + plane.size) 0

/-! ## Values -/

/-- The component types that `UcxComponentSerializer` supports. -/
inductive ComponentType where
  | plain (type : PlainType)
  | endOfStream
  | tensor
  | video
  | audio
  deriving DecidableEq, Repr

/-- The value of a component. -/
inductive Value where
  | plain (type : PlainType) (value : type.Value)
  | endOfStream (streamId : Int64)
  | tensor (tensor : Tensor)
  | video (video : VideoBuffer)
  | audio (audio : AudioBuffer)

namespace Value

def type : Value → ComponentType
  | .plain type _ => .plain type
  | .endOfStream _ => .endOfStream
  | .tensor _ => .tensor
  | .video _ => .video
  | .audio _ => .audio

def memory : Value → Option MemoryBuffer
  | .plain _ _ | .endOfStream _ => none
  | .tensor value => some value.memoryBuffer
  | .video value => some value.memoryBuffer
  | .audio value => some value.memoryBuffer

end Value

def headerOfTensor (tensor : Tensor) : TensorHeader := TensorValue.header ⟨tensor, []⟩

/-- `serializeTensor(tensor, endpoint)`. -/
def serializeTensor (tensor : Tensor) : Exchange Nat := do
  Exchange.writePtr tensor.memoryBuffer
  let _ ← Exchange.writeTrivialType tensorHeader (headerOfTensor tensor)
  pure tensorHeader.width

/-- `serializeVideoBuffer(videoBuffer, endpoint)`.  More planes and longer names than have room in
the header are written past its arrays. -/
def serializeVideoBuffer (surroundings : Surroundings) (video : VideoBuffer) : Exchange Nat :=
  fun session =>
    if kColorPlanes < video.info.colorPlanes.length ∨
        video.info.colorPlanes.any fun plane => kColorSpaceSize < plane.colorSpace.length then
      .undefined
    else
      (do
        Exchange.writePtr video.memoryBuffer
        let _ ← Exchange.writeTrivialType videoBufferHeader
          (videoHeader (surroundings.stack session.buffer.written.length) video)
        pure videoBufferHeader.width : Exchange Nat) session

/-- `serializeAudioBuffer(audioBuffer, endpoint)`. -/
def serializeAudioBuffer (audio : AudioBuffer) : Exchange Nat := do
  Exchange.writePtr audio.memoryBuffer
  let _ ← Exchange.writeTrivialType audioBufferHeader ⟨audio.memoryBuffer.storageType, audio.info⟩
  pure audioBufferHeader.width

def serializeValue (surroundings : Surroundings) : Value → Exchange Nat
  | .plain type value => Exchange.writeTrivialType type.format value
  | .endOfStream streamId => Exchange.writeTrivialType Format.int64 streamId
  | .tensor tensor => serializeTensor tensor
  | .video video => serializeVideoBuffer surroundings video
  | .audio audio => serializeAudioBuffer audio

section Deserialization

variable (surroundings : Surroundings)

/-- A component gets memory of its own. -/
def allocating {Result : Type} (size : UInt64) (storageType : MemoryStorageType)
    (resize : Except GxfResult UInt64 → Lib.Outcome GxfResult Result) : Exchange Result :=
  fun session =>
    match resize (surroundings.allocation session.allocations size storageType) with
    | .undefined => .undefined
    | .aborted => .aborted
    | .error code => .error code
    | .ok result => .ok (result, { session with allocations := session.allocations + 1 })

/-- What a member function of a new component returns. -/
def resized {Result : Type} (answer : Result × Except GxfResult Unit) :
    Lib.Outcome GxfResult Result :=
  match answer.2 with
  | .error code => .error code
  | .ok _ => .ok answer.1

/-- `tensor.reshapeCustom(...)` with the fields of a header. -/
def reshape (header : TensorHeader) (allocation : Except GxfResult UInt64) :
    Lib.Outcome GxfResult Tensor :=
  match allocation with
  | .error code => .error code
  | .ok pointer =>
      if 0 ∈ header.divisors then .undefined else header.describe surroundings.attributes pointer

/-- `deserializeTensor(endpoint)`. -/
def deserializeTensor : Exchange Tensor := do
  let header ← Exchange.readTrivialType tensorHeader
  if kMaxRank < header.rank.toNat then .lift .undefined
  else do
    let tensor ← allocating surroundings (header.bytesPerElement * header.shape.size)
      ((storageTypeOf header.storageType).getD .kHost) (reshape surroundings header)
    Exchange.writePtr tensor.memoryBuffer
    pure tensor

/-- `deserializeVideoBuffer(endpoint)`. -/
def deserializeVideoBuffer : Exchange VideoBuffer := do
  let header ← Exchange.readTrivialType videoBufferHeader
  if kColorPlanes < header.numberOfColorPlanes.toNat then .lift .undefined
  else do
    let size := planesSize header.info.colorPlanes
    let video ← allocating surroundings size header.storageType fun allocation =>
      resized (VideoBuffer.resizeCustom {} header.info size header.storageType (some 0) (.ok ())
        allocation)
    Exchange.writePtr video.memoryBuffer
    pure video

/-- `deserializeAudioBuffer(endpoint)`. -/
def deserializeAudioBuffer : Exchange AudioBuffer := do
  let header ← Exchange.readTrivialType audioBufferHeader
  let audio ← allocating surroundings header.info.size header.storageType fun allocation =>
    resized (AudioBuffer.resizeCustom {} header.info header.storageType (some 0) (.ok ())
      allocation)
  Exchange.writePtr audio.memoryBuffer
  pure audio

def deserializeValue : ComponentType → Exchange Value
  | .plain type => do
      let value ← Exchange.readTrivialType type.format
      pure (.plain type value)
  | .endOfStream => do
      let streamId ← Exchange.readTrivialType Format.int64
      pure (.endOfStream streamId)
  | .tensor => do
      let tensor ← deserializeTensor surroundings
      pure (.tensor tensor)
  | .video => do
      let video ← deserializeVideoBuffer surroundings
      pure (.video video)
  | .audio => do
      let audio ← deserializeAudioBuffer surroundings
      pure (.audio audio)

end Deserialization

end Gxf.Ucx
