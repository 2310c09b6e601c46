import Mathlib.Data.UInt

/-!
# Color planes of a video frame

A format has a list of planes.  `VideoFormatSize` computes where the planes of a frame lie and
how large the frame is.  The specialisations of the template differ in the planes, in their
resolution, in the rule for the stride and in whether they remember their planes.
-/

namespace Gxf.Multimedia

def kGxfAlignValue : UInt32 := 256

/-- `StrideAlign(stride)`. -/
def strideAlign (stride : UInt32) : UInt32 :=
  if stride % kGxfAlignValue = 0 then stride
  else (stride / kGxfAlignValue + 1) * kGxfAlignValue

/-- `ComputeStrides(stride_align, width, bytes_per_pixel, stride)`. -/
def computeStrides (align : Bool) (width bytesPerPixel stride : UInt32) : UInt32 :=
  if stride ≠ 0 then stride
  else if align then strideAlign (width * bytesPerPixel)
  else width * bytesPerPixel

/-- `AlignToEvenDimension(value)`. -/
def alignToEvenDimension (value : UInt32) : UInt32 := value + (value &&& 1)

/-- `VideoFormat`. -/
inductive VideoFormat where
  | CUSTOM
  | YUV420
  | YUV420_ER
  | YUV420_709
  | YUV420_709_ER
  | NV12
  | NV12_ER
  | NV12_709
  | NV12_709_ER
  | RGBA
  | BGRA
  | ARGB
  | ABGR
  | RGBX
  | BGRX
  | XRGB
  | XBGR
  | RGB
  | BGR
  | R8_G8_B8
  | B8_G8_R8
  | GRAY
  | GRAY16
  | GRAY32
  | GRAY32F
  | RGB16
  | BGR16
  | RGB32
  | BGR32
  | R16_G16_B16
  | B16_G16_R16
  | R32_G32_B32
  | B32_G32_R32
  | NV24
  | NV24_ER
  | R8_G8_B8_D8
  | R16_G16_B16_D16
  | R32_G32_B32_D32
  | RGBD8
  | RGBD16
  | RGBD32
  | D32F
  | D64F
  | RAW16_RGGB
  | RAW16_BGGR
  | RAW16_GRBG
  | RAW16_GBRG
  deriving DecidableEq, Repr

/-- `ColorPlane`. -/
structure ColorPlane where
  colorSpace : String
  bytesPerPixel : UInt8
  stride : UInt32
  offset : UInt32
  width : UInt32
  height : UInt32
  size : UInt64
  deriving DecidableEq, Repr

/-- `ColorPlane(c_space, c_depth)`. -/
def ColorPlane.create (colorSpace : String) (bytesPerPixel : UInt8) : ColorPlane :=
  ⟨colorSpace, bytesPerPixel, 0, 0, 0, 0, 0⟩

/-- How the stride of a plane is set. -/
inductive StrideRule where
  /-- By `ComputeStrides`. -/
  | computed
  /-- Half of the stride of the first plane, unless it is set. -/
  | halved
  deriving DecidableEq, Repr

/-- What a specialisation says about a plane: by how much its width and its height are divided,
and the rule for its stride. -/
structure PlaneRule where
  divisor : UInt32
  stride : StrideRule
  deriving DecidableEq, Repr

def fullPlane : PlaneRule := ⟨1, .computed⟩

namespace VideoFormat

/-- The planes of a format, before a frame is known. -/
def defaultPlanes : VideoFormat → List ColorPlane
  | CUSTOM => []
  | YUV420 | YUV420_ER | YUV420_709 | YUV420_709_ER => [.create "Y" 1, .create "U" 1, .create "V" 1]
  | NV12 | NV12_ER | NV12_709 | NV12_709_ER | NV24 | NV24_ER => [.create "Y" 1, .create "UV" 2]
  | RGBA => [.create "RGBA" 4]
  | BGRA => [.create "BGRA" 4]
  | ARGB => [.create "ARGB" 4]
  | ABGR => [.create "ABGR" 4]
  | RGBX => [.create "RGBX" 4]
  | BGRX => [.create "BGRX" 4]
  | XRGB => [.create "XRGB" 4]
  | XBGR => [.create "XBGR" 4]
  | RGB => [.create "RGB" 3]
  | BGR => [.create "BGR" 3]
  | RGB16 => [.create "RGB" (3 * 2)]
  | BGR16 => [.create "BGR" (3 * 2)]
  | RGB32 => [.create "RGB" (3 * 4)]
  | BGR32 => [.create "BGR" (3 * 4)]
  | R8_G8_B8 => [.create "R" 1, .create "G" 1, .create "B" 1]
  | B8_G8_R8 => [.create "B" 1, .create "G" 1, .create "R" 1]
  | R16_G16_B16 => [.create "R" 2, .create "G" 2, .create "B" 2]
  | B16_G16_R16 => [.create "B" 2, .create "G" 2, .create "R" 2]
  | R32_G32_B32 => [.create "R" 4, .create "G" 4, .create "B" 4]
  | B32_G32_R32 => [.create "B" 4, .create "G" 4, .create "R" 4]
  | R8_G8_B8_D8 => [.create "R" 1, .create "G" 1, .create "B" 1, .create "D" 1]
  | R16_G16_B16_D16 => [.create "R" 2, .create "G" 2, .create "B" 2, .create "D" 2]
  | R32_G32_B32_D32 => [.create "R" 4, .create "G" 4, .create "B" 4, .create "D" 4]
  | RGBD8 => [.create "RGBD" 4]
  | RGBD16 => [.create "RGBD" 8]
  | RGBD32 => [.create "RGBD" 16]
  | D32F => [.create "D" 4]
  | D64F => [.create "D" 8]
  | GRAY => [.create "gray" 1]
  | GRAY16 => [.create "gray" 2]
  | GRAY32 | GRAY32F => [.create "gray" 4]
  | RAW16_RGGB => [.create "Raw_RGGB" (4 * 2)]
  | RAW16_BGGR => [.create "Raw_BGGR" (4 * 2)]
  | RAW16_GRBG => [.create "Raw_GRBG" (4 * 2)]
  | RAW16_GBRG => [.create "Raw_GBRG" (4 * 2)]

/-- What `fillColorPlanes` does with each plane. -/
def planeRules (format : VideoFormat) : List PlaneRule :=
  match format with
  | YUV420 | YUV420_ER | YUV420_709 | YUV420_709_ER =>
      [⟨1, .computed⟩, ⟨2, .halved⟩, ⟨2, .halved⟩]
  | NV12 | NV12_ER | NV12_709 | NV12_709_ER => [⟨1, .computed⟩, ⟨2, .computed⟩]
  | _ => format.defaultPlanes.map fun _ => fullPlane

/-- Whether the specialisation has its planes as a member, which `size` fills. -/
def remembersPlanes : VideoFormat → Bool
  | YUV420 | YUV420_ER | YUV420_709 | YUV420_709_ER | NV12 | NV12_ER | NV12_709 | NV12_709_ER
  | NV24 | NV24_ER => true
  | _ => false

end VideoFormat

/-- The stride of a plane, where `first` is the stride of the first plane. -/
def planeStride (align : Bool) (rule : StrideRule) (width first : UInt32) (plane : ColorPlane) :
    UInt32 :=
  match rule with
  | .computed => computeStrides align width plane.bytesPerPixel.toUInt32 plane.stride
  | .halved => if plane.stride = 0 then first / 2 else plane.stride

/-- The loop of `fillColorPlanes`, with the stride of the first plane and the size of the planes so
far.  It gives the planes and the size of all of them. -/
def fillPlanes (align : Bool) (widthEven heightEven : UInt32) :
    Option UInt32 → UInt64 → List PlaneRule → List ColorPlane → List ColorPlane × UInt64
  | first, size, rule :: rules, plane :: planes =>
      let width := widthEven / rule.divisor
      let height := heightEven / rule.divisor
      let stride := planeStride align rule.stride width (first.getD plane.stride) plane
      let filled :=
        { plane with
          width, height, stride
          size := (stride * height).toUInt64
          offset := size.toUInt32 }
      let rest := fillPlanes align widthEven heightEven (some (first.getD stride))
        (size + filled.size) rules planes
      (filled :: rest.1, rest.2)
  | _, size, [], _ | _, size, _ :: _, [] => ([], size)

/-- `fillColorPlanes(width, height, color_planes, stride_align)`. -/
def fillColorPlanes (format : VideoFormat) (width height : UInt32) (planes : List ColorPlane)
    (align : Bool) : List ColorPlane × UInt64 :=
  fillPlanes align (alignToEvenDimension width) (alignToEvenDimension height) none 0
    format.planeRules planes

/-- What does not change in a plane. -/
def ColorPlane.kind (plane : ColorPlane) : String × UInt8 := (plane.colorSpace, plane.bytesPerPixel)

theorem map_kind_fillPlanes (align : Bool) (widthEven heightEven : UInt32) (rules : List PlaneRule)
    (planes : List ColorPlane) (sameLength : rules.length = planes.length) (first : Option UInt32)
    (size : UInt64) :
    (fillPlanes align widthEven heightEven first size rules planes).1.map ColorPlane.kind =
      planes.map ColorPlane.kind := by
  induction planes generalizing rules first size with
  | nil => cases rules <;> rfl
  | cons plane planes ih =>
      cases rules with
      | nil => cases sameLength
      | cons rule rules =>
          simp only [fillPlanes, List.map_cons]
          rw [ih rules (Nat.succ.inj sameLength)]
          rfl

/-- The fields of `VideoFormatSize<format>`.  Without a member for the planes, they are the ones
of the format. -/
structure VideoFormatSize (format : VideoFormat) where
  planes : List ColorPlane
  sameKinds : planes.map ColorPlane.kind = format.defaultPlanes.map ColorPlane.kind

namespace VideoFormatSize

variable {format : VideoFormat}

theorem length_planeRules (format : VideoFormat) :
    format.planeRules.length = format.defaultPlanes.length := by
  cases format <;> rfl

theorem length_planes (object : VideoFormatSize format) :
    format.planeRules.length = object.planes.length := by
  have same := congrArg List.length object.sameKinds
  rw [List.length_map, List.length_map] at same
  rw [length_planeRules, same]

/-- A new object. -/
def create (format : VideoFormat) : VideoFormatSize format := ⟨format.defaultPlanes, rfl⟩

/-- `getDefaultColorPlanes(width, height, stride_align)`, which fills a copy. -/
def getDefaultColorPlanes (object : VideoFormatSize format) (width height : UInt32)
    (align : Bool) : List ColorPlane :=
  (fillColorPlanes format width height object.planes align).1

/-- `size(width, height, stride_align)`. -/
def size (object : VideoFormatSize format) (width height : UInt32) (align : Bool) :
    VideoFormatSize format × UInt64 :=
  let filled := fillColorPlanes format width height object.planes align
  (if format.remembersPlanes then
    ⟨filled.1, (map_kind_fillPlanes _ _ _ _ _ object.length_planes _ _).trans object.sameKinds⟩
  else object, filled.2)

end VideoFormatSize

/-- The part of `VideoBuffer::resize` that computes the planes and the size of the buffer. -/
def resizeInfo (format : VideoFormat) (width height : UInt32) (align : Bool) :
    List ColorPlane × UInt64 :=
  let sized := (VideoFormatSize.create format).size width height align
  (sized.1.getDefaultColorPlanes width height align, sized.2)

end Gxf.Multimedia
