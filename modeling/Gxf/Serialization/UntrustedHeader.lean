import Gxf.Serialization.TensorHeader

/-!
# Tensor headers from outside

The fields of a tensor header are used unchecked.  The module says for which headers the result
is an error or a tensor as the code assumes it everywhere.
-/

namespace Gxf.Serialization

open Gxf.Core Gxf.Lib Gxf.Std Machine Procedure TensorHeader

/-- The number of elements, where a shape of rank 0 has none. -/
def count (shape : Shape) : Int :=
  if shape.rank = 0 then 0 else (shape.dimensions.map Int32.toInt).prod

/-- A tensor as promised. -/
structure Exact (tensor : Tensor) : Prop where
  rank_le : tensor.shape.rank ≤ kMaxRank
  nonneg : ∀ dimension ∈ tensor.shape.dimensions, 0 ≤ dimension.toInt
  size_eq : (tensor.memoryBuffer.size.toNat : Int) =
    count tensor.shape * (tensor.bytesPerElement.toNat : Int)

/-- An error, or a tensor as promised. -/
def Handled : Outcome GxfResult (TensorValue × Channel) → Prop
  | .undefined | .aborted => False
  | .error _ => True
  | .ok (value, _) => Exact value.tensor

namespace TensorHeader
variable (header : TensorHeader)

/-- The number of lanes in `initializeDLContext()`. -/
def lanes : UInt16 := (header.bytesPerElement / header.primitiveSize).toUInt16

/-- The description of the memory exists: no divisor is 0, an element has lanes, and the
device of the memory is known. -/
structure Describable (attributes : PointerAttributes) (pointer : UInt64) : Prop where
  divisors : 0 ∉ header.divisors
  lanes : header.lanes ≠ 0
  device : ∃ storageType, storageTypeOf header.storageType = some storageType ∧
    (storageType = .kSystem ∨ ∃ device, dlDeviceFromPointer attributes pointer = .ok device)

/-- The dimensions are not negative, and the size of the elements fits into 64 bits. -/
structure Bounded : Prop where
  nonneg : ∀ dimension ∈ header.shape.dimensions, 0 ≤ dimension.toInt
  small : count header.shape * (header.bytesPerElement.toNat : Int) < 2 ^ 64

/-- The condition on a header.  Unless the allocator refuses, the tensor has to be describable
and bounded; sizes that are not bounded stay unnoticed unless the elements cannot be read. -/
def Sound (machine : Machine) (channel : Channel) : Prop := header.rank.toNat ≤ kMaxRank ∧
    ∀ pointer, machine.allocation channel.calls (header.bytesPerElement * header.shape.size)
        header.storageType = .ok pointer →
      header.Describable machine.attributes pointer ∧
        (header.Bounded ∨ ∀ storageType, storageTypeOf header.storageType = some storageType →
          ∃ code, readElements machine storageType pointer
            (header.shape.size * header.bytesPerElement) channel.tick = .error code)

/-- The tensor that a header describes in memory at a pointer, without its context. -/
def described (elementType : PrimitiveType) (storageType : MemoryStorageType)
    (pointer : UInt64) : Tensor where
  shape := header.shape
  elementCount := header.shape.size
  elementType := elementType
  bytesPerElement := header.bytesPerElement
  strides := header.strides.toList.take header.rank.toNat
  memoryBuffer := ⟨header.bytesPerElement * header.shape.size, storageType, pointer,
    some (.allocator 0)⟩

variable {header} {attributes : PointerAttributes} {pointer : UInt64}
  {elementType : PrimitiveType} {storageType : MemoryStorageType}

theorem describe_eq (element : elementTypeOf header.elementType = some elementType)
    (storage : storageTypeOf header.storageType = some storageType) :
    header.describe attributes pointer =
      match (header.described elementType storageType pointer).initializeDLContext attributes with
      | none => .aborted
      | some (_, .error code) => .error code
      | some (tensor, .ok _) => .ok tensor := by
  rw [describe, element, storage]
  rfl

theorem lanes_described (element : elementTypeOf header.elementType = some elementType)
    (storageType : MemoryStorageType) (pointer : UInt64) :
    (header.described elementType storageType pointer).lanes = header.lanes := by
  rw [lanes, primitiveSize, element, Tensor.lanes]
  cases elementType <;> rfl

theorem exists_elementType (nonzero : 0 ∉ header.divisors) :
    ∃ elementType, elementTypeOf header.elementType = some elementType := by
  cases element : elementTypeOf header.elementType with
  | some elementType => exact ⟨elementType, rfl⟩
  | none =>
      refine absurd ?_ nonzero
      simp [divisors, primitiveSize, element]

theorem device_described (header : TensorHeader) (elementType : PrimitiveType) :
    (∃ device, (header.described elementType storageType pointer).device attributes = .ok device) ↔
      storageType = .kSystem ∨ ∃ device, dlDeviceFromPointer attributes pointer = .ok device := by
  cases storageType <;> simp [Tensor.device, described]

theorem toDLDataType_eq (elementType : PrimitiveType) {lanes : UInt16} (some : lanes ≠ 0) :
    ∃ dtype, primitiveTypeToDLDataType elementType lanes = .ok dtype := by
  have enough : ¬ lanes < 1 := by
    intro fewer
    exact some (UInt16.toNat_inj.mp (Nat.lt_one_iff.mp fewer))
  exact ⟨_, if_neg enough⟩

theorem Describable.describe (describable : header.Describable attributes pointer) :
    ∃ elementType storageType dlTensor, elementTypeOf header.elementType = some elementType ∧
      storageTypeOf header.storageType = some storageType ∧
      header.describe attributes pointer =
        .ok { (header.described elementType storageType pointer).share with
          dlCtx := some dlTensor } := by
  obtain ⟨nonzero, someLanes, storageType, storage, known⟩ := describable
  obtain ⟨elementType, element⟩ := exists_elementType nonzero
  obtain ⟨dtype, typed⟩ := toDLDataType_eq elementType someLanes
  obtain ⟨device, placed⟩ := (device_described header elementType).mpr known
  rw [← lanes_described element storageType pointer] at typed
  have typeKept : (header.described elementType storageType pointer).elementType = elementType :=
    rfl
  refine ⟨elementType, storageType,
    (header.described elementType storageType pointer).exported dtype device, element,
    storage, ?_⟩
  rw [describe_eq element storage, Tensor.initializeDLContext_eq]
  simp only [typeKept, typed, placed]

theorem describe_of_not_describable (nonzero : 0 ∉ header.divisors)
    (not : ¬ header.Describable attributes pointer) :
    header.describe attributes pointer = .aborted := by
  obtain ⟨elementType, element⟩ := exists_elementType nonzero
  cases storage : storageTypeOf header.storageType with
  | none => rw [describe, element, storage]
  | some storageType =>
      rw [describe_eq element storage, Tensor.initializeDLContext_eq]
      cases typed : primitiveTypeToDLDataType
          (header.described elementType storageType pointer).elementType
          (header.described elementType storageType pointer).lanes with
      | error code => rfl
      | ok dtype =>
          cases placed : (header.described elementType storageType pointer).device attributes with
          | error code => rfl
          | ok device =>
              refine absurd ⟨nonzero, ?_, storageType, storage,
                (device_described header elementType).mp ⟨device, placed⟩⟩ not
              intro none
              rw [lanes_described element, none] at typed
              cases typed

theorem count_eq {shape : Shape} (nonneg : ∀ dimension ∈ shape.dimensions, 0 ≤ dimension.toInt) :
    count shape = ((if shape.rank = 0 then 0 else shape.dims.prod : Nat) : Int) := by
  rw [count]
  split
  next => rfl
  next =>
    have same : shape.dimensions.map Int32.toInt = shape.dims.map (Nat.cast : Nat → Int) := by
      rw [Shape.dims, List.map_map]
      exact List.map_congr_left fun dimension among =>
        (Int.toNat_of_nonneg (nonneg dimension among)).symm
    rw [same]
    exact (map_list_prod (Nat.castRingHom Int) shape.dims).symm

/-- Without negative dimensions, `size()` is the number of elements in 64 bits. -/
theorem toNat_size_eq {shape : Shape}
    (nonneg : ∀ dimension ∈ shape.dimensions, 0 ≤ dimension.toInt) :
    shape.size.toNat = (if shape.rank = 0 then 0 else shape.dims.prod) % 2 ^ 64 := by
  by_cases none : shape.rank = 0
  · rw [if_pos none, Shape.size, if_pos none]
    rfl
  · rw [if_neg none, Shape.toNat_size nonneg none]

theorem exact_described_iff (elementType : PrimitiveType) (storageType : MemoryStorageType)
    (pointer : UInt64) (dlCtx : Option DLTensor) :
    Exact { (header.described elementType storageType pointer).share with dlCtx := dlCtx } ↔
      header.Bounded := by
  have below := (header.bytesPerElement * header.shape.size).toNat_lt
  constructor
  · rintro ⟨-, nonneg, exactly⟩
    exact ⟨nonneg, exactly ▸ Int.ofNat_lt.mpr below⟩
  · rintro ⟨nonneg, small⟩
    refine ⟨header.shape.rank_le, nonneg, ?_⟩
    have product : (header.bytesPerElement * header.shape.size).toNat =
        (if header.shape.rank = 0 then 0 else header.shape.dims.prod) *
          header.bytesPerElement.toNat % 2 ^ 64 := by
      rw [UInt64.toNat_mul, toNat_size_eq nonneg, Nat.mul_mod_mod, Nat.mul_comm]
    rw [count_eq nonneg, ← Nat.cast_mul] at small
    have fits := Nat.mod_eq_of_lt (Int.ofNat_lt.mp small)
    calc ((header.bytesPerElement * header.shape.size).toNat : Int)
        = (((if header.shape.rank = 0 then 0 else header.shape.dims.prod) *
            header.bytesPerElement.toNat : Nat) : Int) := congrArg Nat.cast (product.trans fits)
      _ = count header.shape * (header.bytesPerElement.toNat : Int) := by
          rw [count_eq nonneg, Nat.cast_mul]

end TensorHeader

theorem read_returns (machine : Machine) (old : Nat → UInt8) (size : Nat) :
    (machine.read old size).Returns := by
  intro channel
  cases failed : machine.ioError channel.calls with
  | some code => exact .inl ⟨code, by rw [Machine.read, failed]⟩
  | none => exact .inr ⟨_, by rw [Machine.read, failed]⟩

theorem checkPointer_returns (pointer : UInt64) : (checkPointer pointer).Returns := by
  rw [checkPointer]
  split
  next => exact .answer _
  next => exact .pure ()

theorem allocate_returns (machine : Machine) (size : UInt64) (storageType : Int32) :
    (machine.allocate size storageType).Returns := by
  intro channel
  cases answer : machine.allocation channel.calls size storageType with
  | error code => exact .inl ⟨code, by rw [allocate, answer]⟩
  | ok pointer => exact .inr ⟨_, by rw [allocate, answer]⟩

theorem free_returns (machine : Machine) : machine.free.Returns := by
  intro channel
  cases answer : machine.release channel.calls with
  | error code => exact .inl ⟨code, by rw [free, answer]⟩
  | ok _ => exact .inr ⟨_, by rw [free, answer]⟩

theorem cudaMemcpy_returns (machine : Machine) : machine.cudaMemcpy.Returns := by
  intro channel
  by_cases copied : machine.copies channel.calls
  · exact .inr ⟨_, if_pos copied⟩
  · exact .inl ⟨_, if_neg copied⟩

theorem uninitialized_returns (machine : Machine) : machine.uninitialized.Returns :=
  fun _ => .inr ⟨_, rfl⟩

theorem readElements_returns (machine : Machine) (storageType : MemoryStorageType)
    (pointer size : UInt64) : (readElements machine storageType pointer size).Returns := by
  have delivered : ∀ old, (machine.read old size.toNat).Returns :=
    fun old => read_returns machine old size.toNat
  have direct : (readElements machine .kSystem pointer size).Returns :=
    (checkPointer_returns pointer).bind fun _ => (uninitialized_returns machine).bind fun old =>
      (delivered old).bind fun _ => .pure _
  cases storageType with
  | kHost | kSystem => exact direct
  | kDevice =>
      exact (allocate_returns machine _ _).bind fun buffer =>
        (checkPointer_returns buffer).bind fun _ => (uninitialized_returns machine).bind fun old =>
          (delivered old).bind fun _ => (cudaMemcpy_returns machine).bind fun _ =>
            (free_returns machine).bind fun _ => .pure _

section Outcomes

variable {machine : Machine} {header : TensorHeader} {channel : Channel} {pointer : UInt64}

theorem reshapeCustom_of_large (large : kMaxRank < header.rank.toNat) :
    header.reshapeCustom machine channel = .undefined := by
  rw [reshapeCustom, if_pos large]
  rfl

theorem reshapeCustom_of_refused {code : GxfResult} (within : ¬ kMaxRank < header.rank.toNat)
    (refused : machine.allocation channel.calls (header.bytesPerElement * header.shape.size)
      header.storageType = .error code) :
    header.reshapeCustom machine channel = .error code := by
  rw [reshapeCustom, if_neg within]
  simp only [bind, allocate, refused]

theorem reshapeCustom_of_allocated (within : ¬ kMaxRank < header.rank.toNat)
    (allocated : machine.allocation channel.calls (header.bytesPerElement * header.shape.size)
      header.storageType = .ok pointer) :
    header.reshapeCustom machine channel =
      if 0 ∈ header.divisors then .undefined
      else lift (header.describe machine.attributes pointer) channel.tick := by
  have begins : machine.allocate (header.bytesPerElement * header.shape.size)
      header.storageType channel = .ok (pointer, channel.tick) := by
    rw [allocate, allocated]
  rw [reshapeCustom, if_neg within, bind_ok begins]
  by_cases zero : 0 ∈ header.divisors
  · rw [if_pos zero, if_pos zero]
    rfl
  · rw [if_neg zero, if_neg zero]

end Outcomes

theorem readElements_handled_iff (machine : Machine) (tensor : Tensor) (channel : Channel) :
    Handled ((readElements machine tensor.memoryBuffer.storageType tensor.memoryBuffer.pointer
        (tensor.elementCount * tensor.bytesPerElement) >>= fun data =>
          pure ⟨tensor, data⟩) channel) ↔
      Exact tensor ∨ ∃ code, readElements machine tensor.memoryBuffer.storageType
        tensor.memoryBuffer.pointer (tensor.elementCount * tensor.bytesPerElement) channel =
          .error code := by
  obtain ⟨code, failed⟩ | ⟨⟨data, next⟩, done⟩ := readElements_returns machine
    tensor.memoryBuffer.storageType tensor.memoryBuffer.pointer
    (tensor.elementCount * tensor.bytesPerElement) channel
  · rw [bind_error failed]
    exact iff_of_true trivial (.inr ⟨code, failed⟩)
  · rw [bind_ok done]
    refine ⟨.inl, ?_⟩
    rintro (exactly | ⟨code, failed⟩)
    · exact exactly
    · cases done.symm.trans failed

/-- A header is handled as promised exactly under the condition. -/
theorem deserializeTensor_handled_iff (machine : Machine) {channel next : Channel}
    {header : TensorHeader}
    (headerRead : machine.readTrivialType tensorHeader channel = .ok (header, next)) :
    Handled (deserializeTensor machine channel) ↔ header.Sound machine next := by
  rw [deserializeTensor, bind_ok headerRead]
  by_cases large : kMaxRank < header.rank.toNat
  · rw [bind_undefined (reshapeCustom_of_large large)]
    exact iff_of_false id fun sound => absurd sound.1 (Nat.not_le.mpr large)
  cases allocated : machine.allocation next.calls (header.bytesPerElement * header.shape.size)
      header.storageType with
  | error code =>
      rw [bind_error (reshapeCustom_of_refused large allocated)]
      refine iff_of_true trivial ⟨Nat.le_of_not_lt large, fun pointer given => ?_⟩
      cases allocated.symm.trans given
  | ok pointer =>
      have reshaped := reshapeCustom_of_allocated large allocated
      have sound : header.Sound machine next ↔ header.Describable machine.attributes pointer ∧
            (header.Bounded ∨ ∀ storageType, storageTypeOf header.storageType = some storageType →
              ∃ code, readElements machine storageType pointer
                (header.shape.size * header.bytesPerElement) next.tick = .error code) := by
        constructor
        · exact fun sound => sound.2 pointer allocated
        · refine fun sound => ⟨Nat.le_of_not_lt large, fun other given => ?_⟩
          cases allocated.symm.trans given
          exact sound
      rw [sound]
      by_cases zero : 0 ∈ header.divisors
      · rw [if_pos zero] at reshaped
        rw [bind_undefined reshaped]
        exact iff_of_false id fun sound => sound.1.divisors zero
      rw [if_neg zero] at reshaped
      by_cases describable : header.Describable machine.attributes pointer
      · obtain ⟨elementType, storageType, dlTensor, -, storage, describes⟩ := describable.describe
        rw [describes] at reshaped
        rw [bind_ok reshaped]
        refine (readElements_handled_iff machine _ _).trans ?_
        rw [exact_described_iff]
        constructor
        · rintro (bounded | ⟨code, failed⟩)
          · exact ⟨describable, .inl bounded⟩
          · refine ⟨describable, .inr fun other given => ?_⟩
            cases storage.symm.trans given
            exact ⟨code, failed⟩
        · rintro ⟨-, bounded | fails⟩
          · exact .inl bounded
          · exact .inr (fails storageType storage)
      · rw [describe_of_not_describable zero describable] at reshaped
        rw [bind_aborted reshaped]
        exact iff_of_false id fun sound => describable sound.1

/-- A machine on which memory starts at the address 16 and no pointer is known to CUDA. -/
def plainMachine : Machine where
  ioError _ := none
  stored _ size := size
  memory _ := 0
  allocation _ _ _ := .ok 16
  release _ := .ok ()
  copies _ := true
  holdsString _ := true
  attributes _ := none

/-- The header of a matrix of two rows and three columns. -/
def matrixHeader : TensorHeader where
  storageType := 2
  elementType := 9
  bytesPerElement := 4
  rank := 2
  dims := #v[2, 3, 1, 1, 1, 1, 1, 1]
  strides := #v[12, 4, 0, 0, 0, 0, 0, 0]

theorem dimensions_matrixHeader : matrixHeader.shape.dimensions = [2, 3] := rfl

theorem deserializeTensor_handled_matrix :
    Handled (deserializeTensor plainMachine ⟨tensorHeader.encode matrixHeader ++ [1, 2], 0,
    0⟩) := by
  have headerRead :=
    @Machine.readTrivialType_shows plainMachine ⟨tensorHeader.encode matrixHeader ++ [1, 2], 0, 0⟩
      rfl _ tensorHeader matrixHeader (shows_of_content rfl)
  have bounded : matrixHeader.Bounded := by
    constructor
    · rw [dimensions_matrixHeader]
      simp
    · decide
  refine (deserializeTensor_handled_iff plainMachine headerRead).mpr
    ⟨by decide, fun pointer _ => ⟨⟨?_, ?_, .kSystem, rfl, .inl rfl⟩, .inl bounded⟩⟩
  · decide
  · decide

/-- The same header with a rank that no shape has. -/
def deepHeader : TensorHeader := { matrixHeader with rank := 9 }

/-- A rank above 8 is used as a bound for the array of dimensions. -/
theorem rank_unchecked : ¬ ∀ (header : TensorHeader) (rest : List UInt8),
      Handled (deserializeTensor plainMachine ⟨tensorHeader.encode header ++ rest, 0, 0⟩) := by
  intro handled
  have headerRead := @Machine.readTrivialType_shows plainMachine
    ⟨tensorHeader.encode deepHeader ++ [], 0, 0⟩ rfl _ tensorHeader deepHeader
    (shows_of_content rfl)
  have large : kMaxRank < deepHeader.rank.toNat := by decide
  have bad := handled deepHeader []
  rw [deserializeTensor, bind_ok headerRead,
    bind_undefined (reshapeCustom_of_large large)] at bad
  exact bad

end Gxf.Serialization
