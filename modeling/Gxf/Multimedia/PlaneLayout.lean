import Gxf.Multimedia.Video

/-!
# Where the planes of a frame lie

The layout of a frame is computed with natural numbers.  The planes that the source computes are
laid out like that exactly if the strides that the object remembers are wide enough and all
numbers of the layout have 32 bits.
-/

namespace Gxf.Multimedia

/-- The next multiple of the alignment. -/
def roundUp (value : Nat) : Nat := if value % 256 = 0 then value else (value / 256 + 1) * 256

def evenDimension (dimension : UInt32) : Nat := dimension.toNat + dimension.toNat % 2

/-- The stride for rows of a size. -/
def idealStride (align : Bool) (rowBytes remembered : Nat) : Nat :=
  if remembered ≠ 0 then remembered else if align then roundUp rowBytes else rowBytes

/-- Where a plane should lie. -/
structure PlaneLayout where
  rowBytes : Nat
  height : Nat
  stride : Nat
  offset : Nat
  deriving DecidableEq, Repr

/-- The rows of a plane have room in its stride, and its numbers have 32 bits. -/
structure PlaneLayout.Fits (plane : PlaneLayout) : Prop where
  rows : plane.rowBytes ≤ plane.stride
  stride : plane.stride < 2 ^ 32
  size : plane.stride * plane.height < 2 ^ 32
  offset : plane.offset < 2 ^ 32

def idealPlaneStride (align : Bool) (rule : StrideRule) (rowBytes first remembered : Nat) : Nat :=
  match rule with
  | .computed => idealStride align rowBytes remembered
  | .halved => if remembered = 0 then first / 2 else remembered

def layoutPlanes (align : Bool) (widthEven heightEven : Nat) :
    Option Nat → Nat → List PlaneRule → List ColorPlane → List PlaneLayout
  | first, offset, rule :: rules, plane :: planes =>
      let rowBytes := widthEven / rule.divisor.toNat * plane.bytesPerPixel.toNat
      let height := heightEven / rule.divisor.toNat
      let stride := idealPlaneStride align rule.stride rowBytes (first.getD plane.stride.toNat)
        plane.stride.toNat
      ⟨rowBytes, height, stride, offset⟩ ::
        layoutPlanes align widthEven heightEven (some (first.getD stride))
          (offset + stride * height) rules planes
  | _, _, [], _ | _, _, _ :: _, [] => []

def VideoFormatSize.layout {format : VideoFormat} (object : VideoFormatSize format)
    (width height : UInt32) (align : Bool) : List PlaneLayout :=
  layoutPlanes align (evenDimension width) (evenDimension height) none 0 format.planeRules
    object.planes

/-- Planes have the resolution of a frame, their rows and their sizes have room, and they lie one
after another. -/
structure Laid (format : VideoFormat) (width height : UInt32) (planes : List ColorPlane)
    (total : UInt64) : Prop where
  resolution : planes.map (fun plane => (plane.width.toNat, plane.height.toNat)) =
    format.planeRules.map fun rule =>
      (evenDimension width / rule.divisor.toNat, evenDimension height / rule.divisor.toNat)
  rows : ∀ plane ∈ planes, plane.width.toNat * plane.bytesPerPixel.toNat ≤ plane.stride.toNat
  covers : ∀ plane ∈ planes, plane.stride.toNat * plane.height.toNat ≤ plane.size.toNat
  consecutive : ∀ before plane after, planes = before ++ plane :: after →
    plane.offset.toNat = (before.map fun plane => plane.size.toNat).sum
  disjoint : planes.Pairwise fun first second =>
    first.offset.toNat + first.size.toNat ≤ second.offset.toNat
  total : total.toNat = (planes.map fun plane => plane.size.toNat).sum

/-- Planes whose rows and sizes have room lie one after another from a place on. -/
def LaidFrom : Nat → List ColorPlane → Prop
  | _, [] => True
  | start, plane :: planes =>
      plane.width.toNat * plane.bytesPerPixel.toNat ≤ plane.stride.toNat ∧
        plane.stride.toNat * plane.height.toNat ≤ plane.size.toNat ∧
        plane.offset.toNat = start ∧ LaidFrom (start + plane.size.toNat) planes

theorem LaidFrom.le_offset {start : Nat} {planes : List ColorPlane} (laid : LaidFrom start planes) :
    ∀ plane ∈ planes, start ≤ plane.offset.toNat := by
  induction planes generalizing start with
  | nil => exact fun plane member => by cases member
  | cons first rest ih =>
      obtain ⟨-, -, offset, later⟩ := laid
      refine List.forall_mem_cons.mpr ⟨offset.ge, fun plane member => ?_⟩
      exact Nat.le_trans (Nat.le_add_right _ _) (ih later plane member)

theorem laidFrom_iff {start : Nat} {planes : List ColorPlane} : LaidFrom start planes ↔
      (∀ plane ∈ planes, plane.width.toNat * plane.bytesPerPixel.toNat ≤ plane.stride.toNat) ∧
        (∀ plane ∈ planes, plane.stride.toNat * plane.height.toNat ≤ plane.size.toNat) ∧
        ∀ before plane after, planes = before ++ plane :: after →
          plane.offset.toNat = start + (before.map fun plane => plane.size.toNat).sum := by
  induction planes generalizing start with
  | nil => simp [LaidFrom]
  | cons first rest ih =>
      rw [LaidFrom, ih]
      constructor
      · rintro ⟨row, cover, offset, rows, covers, offsets⟩
        refine ⟨List.forall_mem_cons.mpr ⟨row, rows⟩, List.forall_mem_cons.mpr ⟨cover, covers⟩, ?_⟩
        intro before plane after split
        cases before with
        | nil =>
            obtain ⟨rfl, -⟩ := List.cons.inj split
            exact offset
        | cons other before =>
            obtain ⟨rfl, same⟩ := List.cons.inj split
            rw [offsets before plane after same, List.map_cons, List.sum_cons]
            omega
      · rintro ⟨rows, covers, offsets⟩
        obtain ⟨row, rows⟩ := List.forall_mem_cons.mp rows
        obtain ⟨cover, covers⟩ := List.forall_mem_cons.mp covers
        refine ⟨row, cover, offsets [] first rest rfl, rows, covers, fun before plane after same =>
          ?_⟩
        rw [offsets (first :: before) plane after (same ▸ rfl), List.map_cons, List.sum_cons]
        omega

theorem LaidFrom.disjoint {start : Nat} {planes : List ColorPlane} (laid : LaidFrom start planes) :
    planes.Pairwise fun first second =>
      first.offset.toNat + first.size.toNat ≤ second.offset.toNat := by
  induction planes generalizing start with
  | nil => exact List.Pairwise.nil
  | cons first rest ih =>
      obtain ⟨-, -, offset, later⟩ := laid
      exact List.pairwise_cons.mpr ⟨offset ▸ later.le_offset, ih later⟩

theorem roundUp_eq (value : Nat) : roundUp value = (value + 255) / 256 * 256 := by
  rw [roundUp]
  split <;> omega

theorem toNat_alignToEvenDimension (value : UInt32) :
    (alignToEvenDimension value).toNat = evenDimension value % 2 ^ 32 := by
  rw [alignToEvenDimension, UInt32.toNat_add, UInt32.toNat_and]
  simp only [UInt32.reduceToNat, Nat.and_one_is_mod]
  rfl

theorem toNat_strideAlign (stride : UInt32) :
    (strideAlign stride).toNat = roundUp stride.toNat % 2 ^ 32 := by
  have isZero : stride % kGxfAlignValue = 0 ↔ stride.toNat % 256 = 0 := by
    rw [← UInt32.toNat_inj, UInt32.toNat_mod]
    rfl
  have bound := stride.toNat_lt
  rw [strideAlign, roundUp]
  by_cases aligned : stride.toNat % 256 = 0
  · rw [if_pos (isZero.mpr aligned), if_pos aligned, Nat.mod_eq_of_lt bound]
  · rw [if_neg (mt isZero.mp aligned), if_neg aligned, UInt32.toNat_mul, UInt32.toNat_add,
      UInt32.toNat_div]
    simp only [kGxfAlignValue, UInt32.reduceToNat]
    omega

theorem computeStrides_rows_iff (align : Bool) (width bytesPerPixel remembered : UInt32) :
    width.toNat * bytesPerPixel.toNat ≤
        (computeStrides align width bytesPerPixel remembered).toNat ↔
      width.toNat * bytesPerPixel.toNat ≤
          idealStride align (width.toNat * bytesPerPixel.toNat) remembered.toNat ∧
        idealStride align (width.toNat * bytesPerPixel.toNat) remembered.toNat < 2 ^ 32 := by
  have isZero : remembered = 0 ↔ remembered.toNat = 0 := UInt32.toNat_inj.symm
  rw [computeStrides, idealStride]
  by_cases known : remembered = 0
  · rw [if_neg (not_not.mpr known), if_neg (not_not.mpr (isZero.mp known))]
    cases align with
    | true =>
        simp only [if_true]
        rw [toNat_strideAlign, UInt32.toNat_mul]
        generalize width.toNat * bytesPerPixel.toNat = rowBytes
        simp only [roundUp_eq]
        omega
    | false =>
        simp only [Bool.false_eq_true, if_false]
        rw [UInt32.toNat_mul]
        omega
  · rw [if_pos known, if_pos (mt isZero.mpr known)]
    exact (and_iff_left remembered.toNat_lt).symm

theorem toNat_computeStrides {align : Bool} {width bytesPerPixel remembered : UInt32}
    (rows : width.toNat * bytesPerPixel.toNat ≤
      (computeStrides align width bytesPerPixel remembered).toNat) :
    (computeStrides align width bytesPerPixel remembered).toNat =
      idealStride align (width.toNat * bytesPerPixel.toNat) remembered.toNat := by
  have isZero : remembered = 0 ↔ remembered.toNat = 0 := UInt32.toNat_inj.symm
  obtain ⟨-, small⟩ := (computeStrides_rows_iff ..).mp rows
  rw [computeStrides] at rows ⊢
  rw [idealStride] at small ⊢
  by_cases known : remembered = 0
  · rw [if_neg (not_not.mpr known)] at rows ⊢
    rw [if_neg (not_not.mpr (isZero.mp known))] at small ⊢
    cases align with
    | true =>
        simp only [if_true] at rows small ⊢
        rw [toNat_strideAlign, UInt32.toNat_mul] at rows ⊢
        generalize width.toNat * bytesPerPixel.toNat = rowBytes at rows small ⊢
        simp only [roundUp_eq] at rows small ⊢
        omega
    | false =>
        simp only [Bool.false_eq_true, if_false] at rows small ⊢
        rw [UInt32.toNat_mul, Nat.mod_eq_of_lt small]
  · rw [if_pos known, if_pos (mt isZero.mpr known)]

/-! ## The planes -/

theorem covers_iff (stride height : UInt32) :
    stride.toNat * height.toNat ≤ (stride * height).toUInt64.toNat ↔
      stride.toNat * height.toNat < 2 ^ 32 := by
  rw [UInt32.toNat_toUInt64, UInt32.toNat_mul]
  omega

theorem toNat_planeSize {stride height : UInt32} (small : stride.toNat * height.toNat < 2 ^ 32) :
    (stride * height).toUInt64.toNat = stride.toNat * height.toNat := by
  rw [UInt32.toNat_toUInt64, UInt32.toNat_mul, Nat.mod_eq_of_lt small]

theorem offset_iff (size : UInt64) : size.toUInt32.toNat = size.toNat ↔ size.toNat < 2 ^ 32 := by
  rw [UInt64.toNat_toUInt32]
  omega

theorem toNat_nextSize {size : UInt64} {stride height : UInt32} (offset : size.toNat < 2 ^ 32)
    (small : stride.toNat * height.toNat < 2 ^ 32) :
    (size + (stride * height).toUInt64).toNat = size.toNat + stride.toNat * height.toNat := by
  rw [UInt64.toNat_add, toNat_planeSize small, Nat.mod_eq_of_lt]
  omega

theorem toNat_halved (align : Bool) (width first : UInt32) (plane : ColorPlane) :
    (planeStride align .halved width first plane).toNat =
      idealPlaneStride align .halved (width.toNat * plane.bytesPerPixel.toNat) first.toNat
        plane.stride.toNat := by
  have isZero : plane.stride = 0 ↔ plane.stride.toNat = 0 := UInt32.toNat_inj.symm
  rw [planeStride, idealPlaneStride]
  by_cases unset : plane.stride = 0
  · rw [if_pos unset, if_pos (isZero.mp unset), UInt32.toNat_div]
    rfl
  · rw [if_neg unset, if_neg (mt isZero.mpr unset)]

theorem planeStride_rows_iff (align : Bool) (rule : StrideRule) (width first : UInt32)
    (plane : ColorPlane) :
    width.toNat * plane.bytesPerPixel.toNat ≤ (planeStride align rule width first plane).toNat ↔
      width.toNat * plane.bytesPerPixel.toNat ≤
          idealPlaneStride align rule (width.toNat * plane.bytesPerPixel.toNat) first.toNat
            plane.stride.toNat ∧
        idealPlaneStride align rule (width.toNat * plane.bytesPerPixel.toNat) first.toNat
          plane.stride.toNat < 2 ^ 32 := by
  cases rule with
  | computed => exact computeStrides_rows_iff align width plane.bytesPerPixel.toUInt32 plane.stride
  | halved =>
      have bound := (planeStride align .halved width first plane).toNat_lt
      rw [toNat_halved] at bound ⊢
      exact (and_iff_left bound).symm

theorem toNat_planeStride {align : Bool} {rule : StrideRule} {width first : UInt32}
    {plane : ColorPlane} (rows : width.toNat * plane.bytesPerPixel.toNat ≤
      (planeStride align rule width first plane).toNat) :
    (planeStride align rule width first plane).toNat =
      idealPlaneStride align rule (width.toNat * plane.bytesPerPixel.toNat) first.toNat
        plane.stride.toNat := by
  cases rule with
  | computed =>
      exact @toNat_computeStrides align width plane.bytesPerPixel.toUInt32 plane.stride rows
  | halved => exact toNat_halved align width first plane

theorem laidFrom_fillPlanes_iff (align : Bool) (widthEven heightEven : UInt32)
    (rules : List PlaneRule) (planes : List ColorPlane) (first : Option UInt32) (size : UInt64) :
    LaidFrom size.toNat (fillPlanes align widthEven heightEven first size rules planes).1 ↔
      ∀ plane ∈ layoutPlanes align widthEven.toNat heightEven.toNat (first.map UInt32.toNat)
        size.toNat rules planes, plane.Fits := by
  induction rules generalizing planes first size with
  | nil => simp [fillPlanes, layoutPlanes, LaidFrom]
  | cons rule rules ih =>
      cases planes with
      | nil => simp [fillPlanes, layoutPlanes, LaidFrom]
      | cons plane planes =>
          have sameFirst : (first.map UInt32.toNat).getD plane.stride.toNat =
              (first.getD plane.stride).toNat := by cases first <;> rfl
          simp only [fillPlanes, layoutPlanes, LaidFrom, List.forall_mem_cons, sameFirst,
            ← UInt32.toNat_div]
          generalize widthEven / rule.divisor = width
          generalize heightEven / rule.divisor = height
          have rows_iff := planeStride_rows_iff align rule.stride width (first.getD plane.stride)
            plane
          have same := @toNat_planeStride align rule.stride width (first.getD plane.stride) plane
          generalize planeStride align rule.stride width (first.getD plane.stride) plane = stride
            at rows_iff same ⊢
          generalize idealPlaneStride align rule.stride
            (width.toNat * plane.bytesPerPixel.toNat) (first.getD plane.stride).toNat
              plane.stride.toNat = ideal at rows_iff same ⊢
          -- The plane at the head fits exactly if its part of the left side holds.
          have head_iff : width.toNat * plane.bytesPerPixel.toNat ≤ stride.toNat ∧
                stride.toNat * height.toNat ≤ (stride * height).toUInt64.toNat ∧
                size.toUInt32.toNat = size.toNat ↔
              PlaneLayout.Fits ⟨width.toNat * plane.bytesPerPixel.toNat, height.toNat, ideal,
                size.toNat⟩ := by
            rw [covers_iff, offset_iff, rows_iff]
            constructor
            · rintro ⟨rows, small, offset⟩
              rw [same (rows_iff.mpr rows)] at small
              exact ⟨rows.1, rows.2, small, offset⟩
            · rintro ⟨rows, stride, small, offset⟩
              refine ⟨⟨rows, stride⟩, ?_, offset⟩
              rw [same (rows_iff.mpr ⟨rows, stride⟩)]
              exact small
          rw [← and_assoc, ← and_assoc, and_assoc (a := _ ≤ _), head_iff]
          refine and_congr_right fun fits => ?_
          have rows := rows_iff.mpr ⟨fits.rows, fits.stride⟩
          have small := fits.size
          have sameStride := same rows
          simp only [← sameStride] at small ⊢
          have next : (size + (stride * height).toUInt64).toNat =
              size.toNat + stride.toNat * height.toNat := toNat_nextSize fits.offset small
          have nextFirst : some ((first.map UInt32.toNat).getD stride.toNat) =
              (some (first.getD stride)).map UInt32.toNat := by cases first <;> rfl
          rw [toNat_planeSize small, ← next, nextFirst]
          exact ih planes _ _

theorem toNat_total {align : Bool} {widthEven heightEven : UInt32} {rules : List PlaneRule}
    {planes : List ColorPlane} {first : Option UInt32} {size : UInt64}
    (laid : LaidFrom size.toNat (fillPlanes align widthEven heightEven first size rules planes).1) :
    (fillPlanes align widthEven heightEven first size rules planes).2.toNat =
      size.toNat + ((fillPlanes align widthEven heightEven first size rules planes).1.map
        fun plane => plane.size.toNat).sum := by
  induction rules generalizing planes first size with
  | nil => rfl
  | cons rule rules ih =>
      cases planes with
      | nil => rfl
      | cons plane planes =>
          simp only [fillPlanes, LaidFrom] at laid ⊢
          obtain ⟨-, covers, offset, later⟩ := laid
          have small := (covers_iff _ _).mp covers
          have next := toNat_nextSize ((offset_iff size).mp offset) small
          rw [← toNat_planeSize small] at next
          rw [← next] at later
          rw [ih later, List.map_cons, List.sum_cons, next, Nat.add_assoc]

theorem resolution_fillPlanes (align : Bool) (widthEven heightEven : UInt32)
    (rules : List PlaneRule) (planes : List ColorPlane) (sameLength : rules.length = planes.length)
    (first : Option UInt32) (size : UInt64) :
    (fillPlanes align widthEven heightEven first size rules planes).1.map
        (fun plane => (plane.width.toNat, plane.height.toNat)) =
      rules.map fun rule =>
        (widthEven.toNat / rule.divisor.toNat, heightEven.toNat / rule.divisor.toNat) := by
  induction rules generalizing planes first size with
  | nil => rfl
  | cons rule rules ih =>
      cases planes with
      | nil => cases sameLength
      | cons plane planes =>
          simp only [fillPlanes, List.map_cons, UInt32.toNat_div]
          rw [ih planes (Nat.succ.inj sameLength)]

namespace VideoFormatSize

variable {format : VideoFormat}

/-- The strides that the object remembers are wide enough, and all numbers of the layout have
32 bits. -/
def Fits (object : VideoFormatSize format) (width height : UInt32) (align : Bool) : Prop :=
  (format ≠ .CUSTOM → evenDimension width < 2 ^ 32 ∧ evenDimension height < 2 ^ 32) ∧
    ∀ plane ∈ object.layout width height align, plane.Fits

theorem planeRules_eq (notCustom : format ≠ .CUSTOM) :
    ∃ rules, format.planeRules = ⟨1, .computed⟩ :: rules := by
  cases format with
  | CUSTOM => exact absurd rfl notCustom
  | _ => exact ⟨_, rfl⟩

theorem evenDimension_lt {width height : UInt32} {planes : List ColorPlane} {total : UInt64}
    (laid : Laid format width height planes total)
    (resolution : planes.map (fun plane => (plane.width.toNat, plane.height.toNat)) =
      format.planeRules.map fun rule =>
        ((alignToEvenDimension width).toNat / rule.divisor.toNat,
          (alignToEvenDimension height).toNat / rule.divisor.toNat))
    (notCustom : format ≠ .CUSTOM) :
    evenDimension width < 2 ^ 32 ∧ evenDimension height < 2 ^ 32 := by
  obtain ⟨rules, isRules⟩ := planeRules_eq notCustom
  have same := laid.resolution.symm.trans resolution
  rw [isRules, List.map_cons, List.map_cons] at same
  obtain ⟨sameWidth, sameHeight⟩ := Prod.mk.inj (List.cons.inj same).1
  simp only [UInt32.toNat_one, Nat.div_one] at sameWidth sameHeight
  rw [sameWidth, sameHeight]
  exact ⟨UInt32.toNat_lt _, UInt32.toNat_lt _⟩

theorem layoutPlanes_alignToEvenDimension (object : VideoFormatSize format) (width height : UInt32)
    (align : Bool) (even : format ≠ .CUSTOM →
      evenDimension width < 2 ^ 32 ∧ evenDimension height < 2 ^ 32) :
    layoutPlanes align (alignToEvenDimension width).toNat (alignToEvenDimension height).toNat none 0
        format.planeRules object.planes = object.layout width height align ∧
      (format.planeRules.map fun rule =>
        ((alignToEvenDimension width).toNat / rule.divisor.toNat,
          (alignToEvenDimension height).toNat / rule.divisor.toNat)) =
        format.planeRules.map fun rule =>
          (evenDimension width / rule.divisor.toNat,
          evenDimension height / rule.divisor.toNat) := by
  by_cases custom : format = .CUSTOM
  · subst custom
    exact ⟨rfl, rfl⟩
  · obtain ⟨evenWidth, evenHeight⟩ := even custom
    rw [toNat_alignToEvenDimension, toNat_alignToEvenDimension, Nat.mod_eq_of_lt evenWidth,
      Nat.mod_eq_of_lt evenHeight]
    exact ⟨rfl, rfl⟩

/-- The planes of a frame are laid out right, whatever the object was used for before, exactly if
the layout fits. -/
theorem laid_iff (object : VideoFormatSize format) (width height : UInt32) (align : Bool) :
    Laid format width height (object.getDefaultColorPlanes width height align)
        (object.size width height align).2 ↔ object.Fits width height align := by
  have resolution := resolution_fillPlanes align (alignToEvenDimension width)
    (alignToEvenDimension height) format.planeRules object.planes object.length_planes none 0
  have laid_iff := laidFrom_fillPlanes_iff align (alignToEvenDimension width)
    (alignToEvenDimension height) format.planeRules object.planes none 0
  constructor
  · intro laid
    have even := evenDimension_lt laid resolution
    refine ⟨even, ?_⟩
    rw [← (object.layoutPlanes_alignToEvenDimension width height align even).1]
    refine laid_iff.mp (laidFrom_iff.mpr ⟨laid.rows, laid.covers, ?_⟩)
    intro before plane after split
    rw [laid.consecutive before plane after split]
    exact (Nat.zero_add _).symm
  · rintro ⟨even, fits⟩
    have same := object.layoutPlanes_alignToEvenDimension width height align even
    rw [← same.1] at fits
    have laid := laid_iff.mpr fits
    obtain ⟨rows, covers, offsets⟩ := laidFrom_iff.mp laid
    exact {
      resolution := resolution.trans same.2
      rows := rows
      covers := covers
      consecutive := fun before plane after split =>
        (offsets before plane after split).trans (Nat.zero_add _)
      disjoint := laid.disjoint
      total := (toNat_total laid).trans (Nat.zero_add _) }

/-- An object of three planes that was used for a small frame remembers the strides of that frame,
and the rows of a larger frame have no room in them. -/
theorem remembered_strides_not_laid : ¬ Laid .YUV420 1920 1080
      (((VideoFormatSize.create .YUV420).size 640 480 true).1.getDefaultColorPlanes 1920 1080 true)
      (((VideoFormatSize.create .YUV420).size 640 480 true).1.size 1920 1080 true).2 := by
  intro laid
  have row := laid.rows _ (List.mem_cons_self ..)
  revert row
  decide

end VideoFormatSize

end Gxf.Multimedia
