import Gxf.Std.Tensor.Tensor
import Mathlib.Data.List.GetD

/-!
# Export and import of tensors

A tensor is exported as a DLPack tensor and imported from it again.  The module says which
tensors come back as they were.
-/

namespace Gxf.Std.Tensor

open Gxf.Core

variable (attributes : PointerAttributes) (tensor target : Tensor) (lifetime : Lifetime)
  (answer : Except GxfResult Unit)

/-- `fromDLPack(...)` into a target, where `answer` is what the release of the memory of the target
answers.  There is a result if it succeeds. -/
def importInto (dlTensor : DLTensor) : Option Tensor :=
  match target.fromDLPack attributes dlTensor lifetime answer with
  | some (result, .ok _) => some result
  | _ => none

/-- `toDLPack()` of a tensor, which makes a context when there is none, and the import of what it
hands out. -/
def exportImport : Option Tensor :=
  (tensor.toDLPack attributes).bind fun exported =>
    target.importInto attributes lifetime answer exported.2

/-- A tensor describes the same elements as another one. -/
structure Describes (result tensor : Tensor) : Prop where
  shape : result.shape = tensor.shape
  elementType : result.elementType = tensor.elementType
  bytesPerElement : result.bytesPerElement = tensor.bytesPerElement
  strides : ∀ index < tensor.shape.rank, result.stride index = tensor.stride index
  storageType : result.memoryBuffer.storageType = tensor.memoryBuffer.storageType
  pointer : result.memoryBuffer.pointer = tensor.memoryBuffer.pointer

/-- The storage type that memory comes back with, by what the CUDA runtime knows about it. -/
def storedAs : CudaMemoryType → Option MemoryStorageType
  | .unregistered => some .kSystem
  | .host => some .kHost
  | .device => some .kDevice
  | .managed => none

/-- The memory is what its storage type says. -/
def DeviceAgrees : Prop := tensor.memoryBuffer.storageType = .kSystem ∨
    ∃ memoryType device, attributes tensor.memoryBuffer.pointer = some (memoryType, device) ∧
      storedAs memoryType = some tensor.memoryBuffer.storageType

/-- The memory is managed by the CUDA runtime, which no storage type stands for. -/
def Managed : Prop := tensor.memoryBuffer.storageType ≠ .kSystem ∧
    ∃ memoryType device, attributes tensor.memoryBuffer.pointer = some (memoryType, device) ∧
      storedAs memoryType = none

/-- The number of primitive values in an element. -/
def laneCount : Nat :=
  if tensor.elementType = .kCustom then 1
  else tensor.bytesPerElement.toNat / (primitiveTypeSize tensor.elementType).toNat

/-- The tensors without a context that come back as they were.  The import refuses managed memory
without saying so, so that the target stays what it was. -/
def ComesBackFresh : Prop := (¬ Managed attributes tensor ∧ DeviceAgrees attributes tensor ∧
      tensor.elementType ≠ .kCustom ∧ tensor.laneCount < 2 ^ 16 ∧
      (tensor.laneCount = 1 ∨ ∀ index < tensor.shape.rank, tensor.stride index = 0) ∧
      Replaceable target.memoryBuffer tensor.memoryBuffer.pointer answer) ∨
    (Managed attributes tensor ∧ tensor.laneCount % 2 ^ 16 ≠ 0 ∧ target.Describes tensor)

/-- The context of a tensor still says what the tensor is.  What cannot be converted is refused
without saying so. -/
def ComesBackStored (dlTensor : DLTensor) : Prop :=
  (∃ strides storageType, dlTensor.toShape = .ok tensor.shape ∧ dlTensor.toStrides = .ok strides ∧
      dlTensor.toStorageType = .ok storageType ∧
      primitiveTypeFromDLDataType dlTensor.dtype = .ok tensor.elementType ∧
      dlTensor.dtype.lanes.toUInt64 * primitiveTypeSize tensor.elementType =
        tensor.bytesPerElement ∧
      (∀ index < tensor.shape.rank, strides.getD index 0 = tensor.stride index) ∧
      (Replaceable target.memoryBuffer dlTensor.data answer ∧
          storageType = tensor.memoryBuffer.storageType ∧
          dlTensor.data = tensor.memoryBuffer.pointer ∨
        ¬Replaceable target.memoryBuffer dlTensor.data answer ∧
          target.memoryBuffer.storageType = tensor.memoryBuffer.storageType ∧
          target.memoryBuffer.pointer = tensor.memoryBuffer.pointer)) ∨
    ¬dlTensor.Convertible ∧ target.Describes tensor

/-- The tensors that come back as they were. -/
def ComesBack : Prop :=
  match tensor.dlCtx with
  | none => ¬(lifetime = .whole ∨ lifetime = .arrays ∧ 0 < tensor.shape.rank) ∧
      ComesBackFresh attributes tensor target answer
  | some dlTensor => lifetime.dangles dlTensor = false ∧
      ComesBackStored tensor target answer dlTensor

section Exported

variable {tensor} {dtype : DLDataType} {device : DLDevice}

theorem rank_exported : (tensor.exported dtype device).rank = tensor.shape.rank := by
  have within : tensor.shape.rank ≤ 8 := tensor.shape.rank_le
  have small : tensor.shape.rank < 2 ^ 32 := by omega
  exact Nat.mod_eq_of_lt small

theorem toShape_exported : (tensor.exported dtype device).toShape = .ok tensor.shape := by
  have within : (tensor.exported dtype device).rank ≤ kMaxRank := by
    rw [rank_exported]
    exact tensor.shape.rank_le
  rw [DLTensor.toShape, dif_pos within]
  congr 2
  rw [rank_exported]
  apply List.ext_getElem
  · rw [List.length_map, List.length_range]
    rfl
  · intro index inRange inShape
    rw [List.getElem_map, List.getElem_range]
    exact (congrArg (fun dimension : Int32 => dimension.toInt64.toInt32)
      (List.getD_eq_getElem _ _ inShape)).trans (Int32.toInt32_toInt64 _)

theorem strideUnit_exported (elementType : PrimitiveType) :
    ((primitiveTypeSize elementType * 8).toUInt8 / 8).toUInt64 =
      primitiveTypeSize elementType := by
  cases elementType <;> rfl

theorem primitiveType_exported (elementType : PrimitiveType) (lanes : UInt16) :
    primitiveTypeFromDLDataType
        ⟨typeCode elementType, (primitiveTypeSize elementType * 8).toUInt8, lanes⟩ =
      .ok elementType := by
  cases elementType <;> rfl

theorem toStrides_exported : (tensor.exported dtype device).toStrides =
      .ok ((List.range tensor.shape.rank).map fun index =>
        tensor.stride index / tensor.bytesPerElement * (dtype.bits / 8).toUInt64) := by
  have within : (tensor.exported dtype device).rank ≤ kMaxRank := by
    rw [rank_exported]
    exact tensor.shape.rank_le
  rw [DLTensor.toStrides, exported]
  rw [exported] at within
  simp only [if_pos within]
  rw [← exported, rank_exported]
  rfl

theorem storageType_exported {memoryType : CudaMemoryType} {id : Int32}
    (cuda : tensor.memoryBuffer.storageType ≠ .kSystem)
    (known : attributes tensor.memoryBuffer.pointer = some (memoryType, id)) :
    ∃ device, tensor.device attributes = .ok device ∧
      ∀ dtype, (tensor.exported dtype device).toStorageType =
        (storedAs memoryType).elim (.error .GXF_INVALID_DATA_FORMAT) .ok := by
  have looked : tensor.device attributes =
      dlDeviceFromPointer attributes tensor.memoryBuffer.pointer := by
    rw [Tensor.device]
    split
    next system => exact absurd system cuda
    next => rfl
    next => rfl
  rw [looked, dlDeviceFromPointer, known]
  cases memoryType <;> exact ⟨_, rfl, fun _ => rfl⟩

theorem device_cases (attributes : PointerAttributes) (tensor : Tensor) :
    ((∃ code, tensor.device attributes = .error code) ∧ ¬ DeviceAgrees attributes tensor ∧
      ¬ Managed attributes tensor) ∨
    (∃ device storageType, tensor.device attributes = .ok device ∧
      (∀ dtype, (tensor.exported dtype device).toStorageType = .ok storageType) ∧
      (storageType = tensor.memoryBuffer.storageType ↔ DeviceAgrees attributes tensor) ∧
      ¬ Managed attributes tensor) ∨
    (∃ device code, tensor.device attributes = .ok device ∧
      (∀ dtype, (tensor.exported dtype device).toStorageType = .error code) ∧
      Managed attributes tensor) := by
  by_cases system : tensor.memoryBuffer.storageType = .kSystem
  · exact .inr (.inl ⟨⟨.kDLCPU, 0⟩, .kSystem, by simp only [Tensor.device, system],
      fun _ => rfl, iff_of_true system.symm (.inl system), fun managed => managed.1 system⟩)
  · cases known : attributes tensor.memoryBuffer.pointer with
    | none =>
        refine .inl ⟨⟨.GXF_FAILURE, ?_⟩, ?_, ?_⟩
        · rw [Tensor.device]
          split
          next stored => exact absurd stored system
          all_goals rw [dlDeviceFromPointer, known]
        · rintro (stored | ⟨memoryType, id, found, -⟩)
          · exact system stored
          · cases known.symm.trans found
        · rintro ⟨-, memoryType, id, found, -⟩
          cases known.symm.trans found
    | some found =>
        obtain ⟨memoryType, id⟩ := found
        obtain ⟨device, looked, comesBack⟩ := storageType_exported attributes system known
        cases stored : storedAs memoryType with
        | none =>
            rw [stored] at comesBack
            exact .inr (.inr ⟨device, _, looked, comesBack, system, memoryType, id, known, stored⟩)
        | some storageType =>
            rw [stored] at comesBack
            refine .inr (.inl ⟨device, storageType, looked, comesBack, ?_, ?_⟩)
            · constructor
              · intro same
                exact .inr ⟨memoryType, id, known, by rw [stored, same]⟩
              · rintro (same | ⟨other, otherId, found, otherStored⟩)
                · exact absurd same system
                · cases known.symm.trans found
                  exact Option.some.inj (stored.symm.trans otherStored)
            · rintro ⟨-, other, otherId, found, otherStored⟩
              cases known.symm.trans found
              cases stored.symm.trans otherStored

theorem primitiveTypeSize_le (elementType : PrimitiveType) :
    (primitiveTypeSize elementType).toNat ≤ 16 := by
  cases elementType <;> decide

theorem primitiveTypeSize_pos {elementType : PrimitiveType} (primitive : elementType ≠ .kCustom) :
    0 < (primitiveTypeSize elementType).toNat := by
  cases elementType <;> first | exact absurd rfl primitive | decide

/-- The tensors the round trip is about: an element is made of some primitive values, and a
stride of some elements. -/
structure Regular (tensor : Tensor) : Prop where
  positive : 0 < tensor.bytesPerElement.toNat
  multiple : tensor.elementType ≠ .kCustom →
    (primitiveTypeSize tensor.elementType).toNat ∣ tensor.bytesPerElement.toNat
  strided : ∀ index < tensor.shape.rank, tensor.bytesPerElement.toNat ∣ (tensor.stride index).toNat

theorem toNat_lanes (positive : 0 < tensor.bytesPerElement.toNat) :
    tensor.lanes.toNat = tensor.laneCount % 2 ^ 16 := by
  rw [lanes, UInt64.toNat_toUInt16, UInt64.toNat_div, laneCount]
  split
  next => rw [Nat.div_self positive]
  next => rfl

theorem Regular.laneCount_mul (regular : tensor.Regular)
    (primitive : tensor.elementType ≠ .kCustom) :
    tensor.laneCount * (primitiveTypeSize tensor.elementType).toNat =
      tensor.bytesPerElement.toNat := by
  rw [laneCount, if_neg primitive]
  exact Nat.div_mul_cancel (regular.multiple primitive)

theorem Regular.bytesPerElement_back_iff (regular : tensor.Regular) :
    tensor.lanes.toUInt64 * primitiveTypeSize tensor.elementType = tensor.bytesPerElement ↔
      tensor.elementType ≠ .kCustom ∧ tensor.laneCount < 2 ^ 16 := by
  have small := primitiveTypeSize_le tensor.elementType
  have counted := toNat_lanes regular.positive
  have product : (tensor.lanes.toUInt64 * primitiveTypeSize tensor.elementType).toNat =
      tensor.laneCount % 2 ^ 16 * (primitiveTypeSize tensor.elementType).toNat := by
    have within : tensor.laneCount % 2 ^ 16 * (primitiveTypeSize tensor.elementType).toNat ≤
        2 ^ 16 * 16 :=
      Nat.mul_le_mul (Nat.le_of_lt (Nat.mod_lt _ (by decide))) small
    rw [UInt64.toNat_mul, UInt16.toNat_toUInt64, counted, Nat.mod_eq_of_lt (by omega)]
  rw [← UInt64.toNat_inj, product]
  by_cases primitive : tensor.elementType = .kCustom
  · refine iff_of_false (fun same => ?_) fun both => both.1 primitive
    rw [primitive] at same
    have positive := regular.positive
    rw [← same] at positive
    exact absurd positive (by simp [primitiveTypeSize])
  · rw [← regular.laneCount_mul primitive, and_iff_right primitive]
    have positive := primitiveTypeSize_pos primitive
    rw [Nat.mul_left_inj (Nat.ne_of_gt positive)]
    exact ⟨fun same => same ▸ Nat.mod_lt _ (by decide), Nat.mod_eq_of_lt⟩

theorem Regular.stride_back_iff (regular : tensor.Regular)
    (primitive : tensor.elementType ≠ .kCustom) {index : Nat} (within : index < tensor.shape.rank) :
    tensor.stride index / tensor.bytesPerElement * primitiveTypeSize tensor.elementType =
        tensor.stride index ↔
      tensor.laneCount = 1 ∨ tensor.stride index = 0 := by
  obtain ⟨elements, counted⟩ := regular.strided index within
  have size := regular.laneCount_mul primitive
  have sizePositive := primitiveTypeSize_pos primitive
  have some : 0 < tensor.laneCount := by
    refine Nat.pos_of_ne_zero fun none => ?_
    have positive := regular.positive
    rw [← size, none, Nat.zero_mul] at positive
    exact absurd positive (Nat.lt_irrefl 0)
  have small := (tensor.stride index).toNat_lt
  have back : (tensor.stride index / tensor.bytesPerElement *
      primitiveTypeSize tensor.elementType).toNat =
      elements * (primitiveTypeSize tensor.elementType).toNat := by
    have fewer : elements * (primitiveTypeSize tensor.elementType).toNat < 2 ^ 64 := by
      refine Nat.lt_of_le_of_lt ?_ small
      rw [counted, ← size, Nat.mul_comm]
      exact Nat.mul_le_mul_right _ (Nat.le_mul_of_pos_left _ some)
    rw [UInt64.toNat_mul, UInt64.toNat_div, counted, Nat.mul_div_cancel_left _ regular.positive,
      Nat.mod_eq_of_lt fewer]
  rw [← UInt64.toNat_inj, ← UInt64.toNat_inj, back, counted, ← size, UInt64.toNat_zero,
    Nat.mul_right_comm, Nat.mul_left_inj (Nat.ne_of_gt sizePositive)]
  constructor
  · intro same
    by_cases none : elements = 0
    · exact .inr (by rw [none, Nat.mul_zero, Nat.zero_mul])
    · exact .inl (Nat.eq_of_mul_eq_mul_right (Nat.pos_of_ne_zero none)
        (same.symm.trans (Nat.one_mul _).symm))
  · rintro (one | zero)
    · rw [one, Nat.one_mul]
    · obtain product | empty := Nat.mul_eq_zero.mp zero
      · obtain noLanes | none := Nat.mul_eq_zero.mp product
        · exact absurd noLanes (Nat.ne_of_gt some)
        · rw [none, Nat.mul_zero]
      · exact absurd empty (Nat.ne_of_gt sizePositive)

/-! ## The round trip -/

/-- The DLPack type of a tensor, whose lanes do not count to 0. -/
def dataType (tensor : Tensor) : DLDataType :=
  ⟨typeCode tensor.elementType, (primitiveTypeSize tensor.elementType * 8).toUInt8, tensor.lanes⟩

theorem Regular.laneCount_pos (regular : tensor.Regular)
    (primitive : tensor.elementType ≠ .kCustom) : 0 < tensor.laneCount := by
  have positive := regular.positive
  rw [← regular.laneCount_mul primitive] at positive
  exact Nat.pos_of_mul_pos_right positive

theorem wrapDLPack_of_not_convertible {dlTensor : DLTensor} (refused : ¬dlTensor.Convertible)
    (target : Tensor) :
    ∃ code, target.wrapDLPack attributes dlTensor none answer = some (target, .error code) := by
  rw [wrapDLPack]
  split
  next shape strides storageType elementType shapeOk stridesOk storageOk elementOk =>
    exact absurd ⟨shape, strides, storageType, elementType, shapeOk, stridesOk, storageOk,
      elementOk⟩ refused
  all_goals exact ⟨_, rfl⟩

/-- What an import needs for the target to describe a tensor. -/
theorem importInto_describes_iff (dlTensor : DLTensor) :
    (∃ result, target.importInto attributes lifetime answer dlTensor = some result ∧
        result.Describes tensor) ↔
      lifetime.dangles dlTensor = false ∧ ComesBackStored tensor target answer dlTensor := by
  cases held : lifetime.dangles dlTensor with
  | true =>
      rw [importInto, fromDLPack, held, if_pos rfl]
      exact iff_of_false (fun ⟨_, found, _⟩ => nomatch found) fun both => nomatch both.1
  | false =>
      rw [importInto, fromDLPack, held, if_neg Bool.false_ne_true, eq_self, true_and,
        ComesBackStored]
      by_cases convertible : dlTensor.Convertible
      · rw [or_iff_left fun both => both.1 convertible]
        obtain ⟨shape, strides, storageType, elementType, shapeOk, stridesOk, storageOk,
          elementOk⟩ := convertible
        rw [wrapDLPack_of_ok attributes _ shapeOk stridesOk storageOk elementOk]
        have memory : ∀ size, (Replaceable target.memoryBuffer dlTensor.data answer →
              (target.memoryBuffer.wrapMemory dlTensor.data size storageType none answer).1 =
                ⟨size, storageType, dlTensor.data, none⟩) ∧
            (¬Replaceable target.memoryBuffer dlTensor.data answer →
              (target.memoryBuffer.wrapMemory dlTensor.data size storageType none answer).1 =
                target.memoryBuffer) := fun size =>
          ⟨fun replaceable => wrapMemory_of_replaceable replaceable ..,
            fun kept => wrapMemory_of_not_replaceable kept ..⟩
        constructor
        · rintro ⟨result, found, describes⟩
          cases found
          obtain ⟨sameShape, sameType, sameSize, sameStrides, storage, pointer⟩ := describes
          obtain rfl : shape = tensor.shape := sameShape
          obtain rfl : elementType = tensor.elementType := sameType
          refine ⟨strides, storageType, shapeOk, stridesOk, storageOk, elementOk, sameSize,
            sameStrides, ?_⟩
          simp only [imported] at storage pointer
          by_cases replaceable : Replaceable target.memoryBuffer dlTensor.data answer
          · rw [(memory _).1 replaceable] at storage pointer
            exact .inl ⟨replaceable, storage, pointer⟩
          · rw [(memory _).2 replaceable] at storage pointer
            exact .inr ⟨replaceable, storage, pointer⟩
        · rintro ⟨others, otherType, sameShape, sameStrides, sameStorage, sameType, size, back,
            kept⟩
          cases shapeOk.symm.trans sameShape
          cases stridesOk.symm.trans sameStrides
          cases storageOk.symm.trans sameStorage
          cases elementOk.symm.trans sameType
          refine ⟨_, rfl, rfl, rfl, size, back, ?_, ?_⟩
          all_goals
            dsimp only [imported]
            rcases kept with ⟨replaceable, storage, pointer⟩ | ⟨replaceable, storage, pointer⟩
          · rw [(memory _).1 replaceable, storage]
          · rw [(memory _).2 replaceable, storage]
          · rw [(memory _).1 replaceable, pointer]
          · rw [(memory _).2 replaceable, pointer]
      · obtain ⟨code, refused⟩ := wrapDLPack_of_not_convertible attributes answer convertible
          { target with dlCtx := some dlTensor }
        rw [refused, and_iff_right convertible, or_iff_right]
        · simp only [Option.map_some, Option.some.injEq, exists_eq_left']
          exact ⟨fun ⟨shape, elementType, size, strides, storage, pointer⟩ =>
              ⟨shape, elementType, size, strides, storage, pointer⟩,
            fun ⟨shape, elementType, size, strides, storage, pointer⟩ =>
              ⟨shape, elementType, size, strides, storage, pointer⟩⟩
        · rintro ⟨strides, storageType, shapeOk, stridesOk, storageOk, elementOk, -⟩
          exact convertible ⟨_, _, _, _, shapeOk, stridesOk, storageOk, elementOk⟩

/-- The context that is made of a tensor says what the tensor is, if the types and the memory
allow it. -/
theorem Regular.stored_exported_iff (regular : tensor.Regular) {storageType : MemoryStorageType}
    (stored : ∀ dtype, (tensor.exported dtype device).toStorageType = .ok storageType) :
    ComesBackStored tensor target answer (tensor.exported tensor.dataType device) ↔
      storageType = tensor.memoryBuffer.storageType ∧ tensor.elementType ≠ .kCustom ∧
        tensor.laneCount < 2 ^ 16 ∧
        (tensor.laneCount = 1 ∨ ∀ index < tensor.shape.rank, tensor.stride index = 0) ∧
        Replaceable target.memoryBuffer tensor.memoryBuffer.pointer answer := by
  have typed := primitiveType_exported tensor.elementType tensor.lanes
  have strides := @toStrides_exported tensor tensor.dataType device
  have back : ∀ index < tensor.shape.rank, ((List.range tensor.shape.rank).map fun index =>
      tensor.stride index / tensor.bytesPerElement * (tensor.dataType.bits / 8).toUInt64).getD
        index 0 =
      tensor.stride index / tensor.bytesPerElement * primitiveTypeSize tensor.elementType := by
    intro index within
    rw [List.getD_eq_getElem _ _ (by rwa [List.length_map, List.length_range]), List.getElem_map,
      List.getElem_range, dataType, strideUnit_exported]
  constructor
  · rintro (⟨others, otherType, -, sameStrides, sameStorage, -, size, same, kept⟩ | ⟨refused, -⟩)
    · cases (stored _).symm.trans sameStorage
      cases strides.symm.trans sameStrides
      obtain ⟨primitive, few⟩ := regular.bytesPerElement_back_iff.mp size
      obtain ⟨replaceable, storage, -⟩ | ⟨kept, -, pointer⟩ := kept
      · refine ⟨storage, primitive, few, ?_, replaceable⟩
        by_cases one : tensor.laneCount = 1
        · exact .inl one
        · refine .inr fun index within => ?_
          have counted := (back index within).symm.trans (same index within)
          exact ((regular.stride_back_iff primitive within).mp counted).resolve_left one
      · exact absurd (.inl pointer.symm) kept
    · exact absurd ⟨_, _, _, _, toShape_exported, strides, stored _, typed⟩ refused
  · rintro ⟨storage, primitive, few, unit, replaceable⟩
    refine .inl ⟨_, storageType, toShape_exported, strides, stored _, typed,
      regular.bytesPerElement_back_iff.mpr ⟨primitive, few⟩, fun index within => ?_,
      .inl ⟨replaceable, storage, rfl⟩⟩
    rw [back index within]
    exact (regular.stride_back_iff primitive within).mpr (unit.imp_right fun zero =>
      zero index within)

theorem exportImport_of_fresh (fresh : tensor.dlCtx = none) (some : tensor.lanes ≠ 0)
    (looked : tensor.device attributes = .ok device) :
    tensor.exportImport attributes target lifetime answer =
      target.importInto attributes lifetime answer (tensor.exported tensor.dataType device) := by
  have typed : primitiveTypeToDLDataType tensor.elementType tensor.lanes = .ok tensor.dataType := by
    rw [primitiveTypeToDLDataType, if_neg]
    · rfl
    · exact fun less => some (UInt16.lt_one_iff.mp less)
  simp only [exportImport, toDLPack, fresh, initializeDLContext_eq, typed, looked]
  rfl

theorem dangles_exported_iff : lifetime.dangles (tensor.exported tensor.dataType device) = false ↔
    ¬(lifetime = .whole ∨ lifetime = .arrays ∧ 0 < tensor.shape.rank) := by
  have within := tensor.shape.rank_le
  cases lifetime with
  | outlives => simp [Lifetime.dangles]
  | whole => simp [Lifetime.dangles]
  | arrays =>
      have few : tensor.shape.rank ≤ kMaxRank := within
      simp [Lifetime.dangles, rank_exported, few]

/-- The tensors without a context. -/
theorem Regular.fresh_iff (regular : tensor.Regular) (fresh : tensor.dlCtx = none) :
    (∃ result, tensor.exportImport attributes target lifetime answer = some result ∧
        result.Describes tensor) ↔
      ¬(lifetime = .whole ∨ lifetime = .arrays ∧ 0 < tensor.shape.rank) ∧
        ComesBackFresh attributes tensor target answer := by
  have counted := toNat_lanes regular.positive
  by_cases none : tensor.lanes = 0
  · have zero : tensor.laneCount % 2 ^ 16 = 0 := by rw [← counted, none]; rfl
    refine iff_of_false (fun ⟨_, found, _⟩ => ?_) ?_
    · simp [exportImport, toDLPack, fresh, initializeDLContext_eq, primitiveTypeToDLDataType,
        none] at found
    · rintro ⟨-, ⟨-, -, primitive, few, -⟩ | ⟨-, some, -⟩⟩
      · rw [Nat.mod_eq_of_lt few] at zero
        exact absurd zero (Nat.ne_of_gt (regular.laneCount_pos primitive))
      · exact some zero
  · obtain ⟨⟨code, unknown⟩, differs, unmanaged⟩ | ⟨device, storageType, looked, stored, same,
      unmanaged⟩ | ⟨device, code, looked, refused, managed⟩ := device_cases attributes tensor
    · refine iff_of_false (fun ⟨_, found, _⟩ => ?_) ?_
      · simp only [exportImport, toDLPack, fresh, initializeDLContext_eq, unknown] at found
        cases typed : primitiveTypeToDLDataType tensor.elementType tensor.lanes <;>
          rw [typed] at found <;> cases found
      · rintro ⟨-, ⟨-, agrees, -⟩ | ⟨managed, -⟩⟩
        · exact differs agrees
        · exact unmanaged managed
    · rw [exportImport_of_fresh attributes target lifetime answer fresh none looked,
        importInto_describes_iff, dangles_exported_iff, regular.stored_exported_iff target answer
          stored, ComesBackFresh, ← same]
      simp only [unmanaged, not_false_eq_true, true_and, false_and, or_false]
    · have some : tensor.laneCount % 2 ^ 16 ≠ 0 := fun zero =>
        none (UInt16.toNat_inj.mp (counted.trans zero))
      have lost : ¬(tensor.exported tensor.dataType device).Convertible := by
        rintro ⟨_, _, _, _, -, -, storageOk, -⟩
        cases (refused _).symm.trans storageOk
      have stored : ComesBackStored tensor target answer (tensor.exported tensor.dataType device) ↔
          target.Describes tensor := by
        rw [ComesBackStored, and_iff_right lost]
        refine or_iff_right ?_
        rintro ⟨_, _, -, -, storageOk, -⟩
        cases (refused _).symm.trans storageOk
      rw [exportImport_of_fresh attributes target lifetime answer fresh none looked,
        importInto_describes_iff, dangles_exported_iff, stored, ComesBackFresh]
      simp only [managed, not_true_eq_false, true_and, false_and, false_or, ne_eq, some,
        not_false_eq_true]

end Exported

/-- A tensor comes back as it was exactly under the condition. -/
theorem exportImport_describes_iff (regular : tensor.Regular) :
    (∃ result, tensor.exportImport attributes target lifetime answer = some result ∧
        result.Describes tensor) ↔
      ComesBack attributes tensor target lifetime answer := by
  rw [ComesBack]
  cases context : tensor.dlCtx with
  | none => exact regular.fresh_iff attributes target lifetime answer context
  | some dlTensor =>
      rw [exportImport, toDLPack, context]
      exact importInto_describes_iff attributes target lifetime answer dlTensor

/-- A matrix of 32-bit floats in system memory comes back as it was, also when it comes from a
context. -/
theorem exportImport_describes_matrix :
    let tensor : Tensor :=
      { shape := ⟨[2, 3], by decide⟩, elementCount := 6, elementType := .kFloat32,
        bytesPerElement := 4, strides := [12, 4],
        memoryBuffer := ⟨24, .kSystem, 4096, some (.allocator 0)⟩ }
    let stored := { tensor with dlCtx := some (tensor.exported tensor.dataType ⟨.kDLCPU, 0⟩) }
    (∃ result, tensor.exportImport (fun _ => none) {} .outlives (.ok ()) = some result ∧
      result.Describes tensor) ∧
    ∃ result, stored.exportImport (fun _ => none) {} .outlives (.ok ()) = some result ∧
      result.Describes stored := by
  intro tensor stored
  have regular : tensor.Regular := ⟨by decide, by decide, by decide⟩
  constructor
  · exact (exportImport_describes_iff (fun _ => none) tensor {} .outlives (.ok ()) regular).mpr
      ⟨by decide, .inl ⟨fun managed => managed.1 rfl, .inl rfl, by decide, by decide,
        .inl (by decide), .inr (.inr rfl)⟩⟩
  · have again : stored.Regular := ⟨by decide, by decide, by decide⟩
    have system : ∀ dtype, (stored.exported dtype ⟨.kDLCPU, 0⟩).toStorageType = .ok .kSystem :=
      fun _ => rfl
    have kept := (again.stored_exported_iff {} (.ok ()) system).mpr
      ⟨rfl, by decide, by decide, .inl (by decide), .inr (.inr rfl)⟩
    exact (exportImport_describes_iff (fun _ => none) stored {} .outlives (.ok ()) again).mpr
      ⟨rfl, kept⟩

/-- A color image comes back with strides that count its channels as elements. -/
theorem color_image_strides : ¬ ∀ (attributes : PointerAttributes) (tensor target : Tensor)
        (lifetime : Lifetime) (answer : Except GxfResult Unit),
        tensor.shape.Valid → tensor.Regular →
      ∃ result, tensor.exportImport attributes target lifetime answer = some result ∧
        result.Describes tensor := by
  intro claim
  obtain ⟨result, found, describes⟩ := claim (fun _ => none)
    { shape := ⟨[2, 2], by decide⟩, elementCount := 4, elementType := .kUnsigned8,
      bytesPerElement := 3, strides := [6, 3],
      memoryBuffer := ⟨12, .kSystem, 4096, some (.allocator 0)⟩ } {} .outlives (.ok ())
    (by decide) ⟨by decide, by decide, by decide⟩
  cases found
  exact absurd (describes.strides 0 (by decide)) (by decide)

end Gxf.Std.Tensor
