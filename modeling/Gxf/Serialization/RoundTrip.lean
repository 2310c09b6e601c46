import Gxf.Serialization.WireFormat

/-!
# Entities come back from the wire

When the bytes of an entity are what the deserializer reads next, it makes the same entity of
them, reads exactly these bytes and leaves what follows.
-/

namespace Gxf.Serialization

open Gxf.Core Gxf.Lib Gxf.Std Procedure TensorValue Component

/-- The channel after some bytes were asked for. -/
structure After (channel : Channel) (count : Nat) (next : Channel) : Prop where
  content : next.content = channel.content.drop count
  asked : next.asked = channel.asked + count

namespace After

variable {channel next last : Channel} {count more : Nat}

theorem trans (first : After channel count next) (second : After next more last) :
    After channel (count + more) last where
  content := by rw [second.content, first.content, List.drop_drop]
  asked := by rw [second.asked, first.asked, Nat.add_assoc]

theorem shows {machine : Machine} {bytes rest : List UInt8}
    (after : After channel bytes.length next) (shows : machine.Shows channel (bytes ++ rest)) :
    machine.Shows next rest :=
  shows.right after.content after.asked

end After

namespace TensorValue

variable {value : TensorValue}

theorem rank_header (value : TensorValue) : value.header.rank.toNat = value.tensor.shape.rank := by
  have small : value.tensor.shape.rank < 2 ^ 32 :=
    Nat.lt_of_le_of_lt value.tensor.shape.rank_le (by decide)
  exact UInt32.toNat_ofNat_of_lt' small

theorem take_ofFn_getD {Entry : Type} {entries : List Entry} {size : Nat}
    (within : entries.length ≤ size) (default : Entry) :
    (Vector.ofFn fun index : Fin size => entries.getD index default).toList.take entries.length =
      entries := by
  apply List.ext_getElem
  · simp [within]
  · intro index inside others
    simp [List.getD_eq_getElem?_getD, others]

theorem shape_header (value : TensorValue) : value.header.shape = value.tensor.shape := by
  have dimensions : value.header.shape.dimensions =
      value.header.dims.toList.take value.tensor.shape.rank := by
    rw [← rank_header]
    rfl
  have same : value.header.shape.dimensions = value.tensor.shape.dimensions := by
    rw [dimensions]
    by_cases none : value.tensor.shape.rank = 0
    · rw [none]
      exact (List.length_eq_zero_iff.mp none).symm
    · have entries : value.header.dims =
          Vector.ofFn fun index : Fin kMaxRank => value.tensor.shape.dimensions.getD index 1 := by
        simp only [header, Shape.dimension, if_neg none]
      rw [entries]
      exact take_ofFn_getD value.tensor.shape.rank_le 1
  cases shape : value.header.shape
  cases tensorShape : value.tensor.shape
  simp_all

theorem strides_header (strided : value.tensor.strides.length = value.tensor.shape.rank) :
    value.header.strides.toList.take value.header.rank.toNat = value.tensor.strides := by
  rw [rank_header, ← strided]
  refine take_ofFn_getD ?_ 0
  rw [strided]
  exact value.tensor.shape.rank_le

theorem lanes_header (value : TensorValue) : value.header.lanes = value.tensor.lanes := by
  simp only [TensorHeader.lanes, TensorHeader.primitiveSize, header, elementTypeOf_code,
    Tensor.lanes]
  cases value.tensor.elementType <;> rfl

theorem divisors_header (described : value.tensor.lanes ≠ 0) : 0 ∉ value.header.divisors := by
  intro zero
  refine described ?_
  rw [← lanes_header, TensorHeader.lanes]
  rcases List.mem_append.mp zero with size | primitive
  · rw [← List.eq_of_mem_replicate size, UInt64.zero_div]
    rfl
  · rw [← List.mem_singleton.mp primitive, UInt64.div_zero]
    rfl

end TensorValue

/-! ## Deserialization -/

section Deserialization

variable {machine : Machine} (works : machine.Works) {channel : Channel}

include works

theorem readTrivialType_eq {Value : Type} (format : Format Value) (value : Value)
    (shows : machine.Shows channel (format.encode value)) :
    ∃ next, machine.readTrivialType format channel = .ok (value, next) ∧
      After channel (format.encode value).length next := by
  refine ⟨_, Machine.readTrivialType_shows (works.transfers _) format value shows, ?_⟩
  rw [format.length_encode]
  exact ⟨rfl, rfl⟩

theorem readElements_eq {storageType : MemoryStorageType} {pointer size : UInt64}
    {data : List UInt8} (allocated : storageType = .kDevice ∨ pointer ≠ 0)
    (sized : data.length = size.toNat) (shows : machine.Shows channel data) :
    ∃ next, readElements machine storageType pointer size channel = .ok (data, next) ∧
      After channel data.length next := by
  have delivered (before : Channel) (content : before.content = channel.content)
      (asked : before.asked = channel.asked) :
      machine.read (fun offset => machine.memory (before.asked + offset)) size.toNat before =
        .ok ((data, min size.toNat before.content.length),
          ⟨channel.content.drop data.length, before.calls + 1, channel.asked + data.length⟩) := by
    rw [Machine.Shows, ← content, ← asked] at shows
    rw [Machine.read_eq (works.transfers _), ← sized, shows, content, asked]
  have direct (some : pointer ≠ 0) :
      ∃ next, readElements machine .kSystem pointer size channel = .ok (data, next) ∧
        After channel data.length next := by
    refine ⟨⟨channel.content.drop data.length, channel.calls + 1,
      channel.asked + data.length⟩, ?_, rfl, rfl⟩
    rw [readElements, bind_ok (checkPointer_eq some channel),
      bind_ok (machine.uninitialized_apply channel),
      bind_ok (delivered channel rfl rfl)]
    rfl
  cases storageType with
  | kHost | kSystem => exact direct (allocated.resolve_left (by simp))
  | kDevice =>
      obtain ⟨buffer, some, placed⟩ := allocate_eq works size (storageTypeCode .kHost) channel
      refine ⟨⟨channel.content.drop data.length, channel.calls + 1 + 1 + 1 + 1,
        channel.asked + data.length⟩, ?_, rfl, rfl⟩
      rw [readElements, bind_ok placed, bind_ok (checkPointer_eq some _),
        bind_ok (machine.uninitialized_apply _),
        bind_ok (delivered channel.tick rfl rfl),
        bind_ok (cudaMemcpy_eq works _), bind_ok (free_eq works _)]
      rfl

theorem describe_header {value : TensorValue} (sendable : value.Sendable) {pointer : UInt64} :
    ∃ tensor, value.header.describe machine.attributes pointer = .ok tensor ∧
      tensor.memoryBuffer.pointer = pointer ∧
      tensor.elementCount * tensor.bytesPerElement = value.size ∧
      content ⟨tensor, value.data⟩ = value.content := by
  have describable : value.header.Describable machine.attributes pointer := by
    refine ⟨divisors_header sendable.described, ?_,
      value.tensor.memoryBuffer.storageType, storageTypeOf_code _, .inr (works.knows pointer)⟩
    rw [lanes_header]
    exact sendable.described
  obtain ⟨elementType, storageType, dlTensor, element, storage, describes⟩ := describable.describe
  cases (elementTypeOf_code value.tensor.elementType).symm.trans element
  cases (storageTypeOf_code value.tensor.memoryBuffer.storageType).symm.trans storage
  refine ⟨_, describes, rfl, ?_, ?_⟩
  · simp only [Tensor.share, TensorHeader.described, shape_header]
    rw [size, sendable.counted]
    rfl
  · simp only [content, Tensor.share, TensorHeader.described,
      shape_header, strides_header sendable.strided]
    rfl

theorem deserializeTensor_eq {value : TensorValue} (sendable : value.Sendable)
    (shows : machine.Shows channel (tensorHeader.encode value.header ++ value.data)) :
    ∃ result next, deserializeTensor machine channel = .ok (result, next) ∧
      result.content = value.content ∧
      After channel (tensorHeader.encode value.header ++ value.data).length next := by
  obtain ⟨headed, begins, afterHeader⟩ :=
    readTrivialType_eq works tensorHeader value.header shows.left
  have within : ¬ kMaxRank < value.header.rank.toNat := by
    rw [rank_header]
    exact Nat.not_lt.mpr value.tensor.shape.rank_le
  obtain ⟨pointer, some, allocated⟩ := works.allocates headed.calls
    (value.header.bytesPerElement * value.header.shape.size) value.header.storageType
  obtain ⟨tensor, describes, pointed, sized, same⟩ :=
    @describe_header machine works value sendable pointer
  have reshaped := reshapeCustom_of_allocated within allocated
  rw [if_neg (divisors_header sendable.described), describes] at reshaped
  obtain ⟨next, ends, afterData⟩ := @readElements_eq machine works headed.tick
    tensor.memoryBuffer.storageType tensor.memoryBuffer.pointer
    (tensor.elementCount * tensor.bytesPerElement) value.data
    (.inr (pointed ▸ some)) (by rw [sized, sendable.covers]) (afterHeader.shows shows)
  refine ⟨⟨tensor, value.data⟩, next, ?_, same, ?_⟩
  · rw [deserializeTensor, bind_ok begins, bind_ok reshaped,
      bind_ok ends]
    rfl
  · rw [List.length_append]
    exact afterHeader.trans ⟨afterData.content, afterData.asked⟩

theorem deserializeValue_eq {value : Value} (sendable : value.Sendable)
    (shows : machine.Shows channel value.encode) :
    ∃ result next, deserializeValue machine value.type channel = .ok (result, next) ∧
      result.Same value ∧ After channel value.encode.length next := by
  cases value with
  | plain type value =>
      obtain ⟨next, ends, after⟩ := readTrivialType_eq works type.format value shows
      refine ⟨.plain type value, next, ?_, .plain type value, after⟩
      rw [Value.type, deserializeValue, bind_ok ends]
      rfl
  | tensor value =>
      obtain ⟨result, next, ends, same, after⟩ := deserializeTensor_eq works sendable shows
      refine ⟨.tensor result, next, ?_, .tensor same, after⟩
      rw [Value.type, deserializeValue, bind_ok ends]
      rfl

omit works in
theorem cString_append_zeros {name : List UInt8} (ends : 0 ∉ name) (count : Nat) :
    cString (name ++ List.replicate count 0) = name := by
  have letters : ∀ letter ∈ name, decide (letter ≠ 0) = true := by
    intro letter among
    exact decide_eq_true fun zero => ends (zero ▸ among)
  rw [cString, List.takeWhile_append_of_pos letters]
  cases count <;> simp [List.replicate_succ]

theorem readName_eq {name : List UInt8} (ends : 0 ∉ name)
    (short : name.length < kMaxComponentNameSize) (shows : machine.Shows channel name) :
    ∃ next, readName machine (UInt64.ofNat name.length) channel =
        .ok (name.take channel.content.length, next) ∧
      After channel name.length next := by
  have small : name.length < 2 ^ 64 := Nat.lt_trans short (by decide)
  have size : (UInt64.ofNat name.length).toNat = name.length := UInt64.toNat_ofNat_of_lt' small
  refine ⟨⟨channel.content.drop name.length, channel.calls + 1,
    channel.asked + name.length⟩, ?_, rfl, rfl⟩
  have held : machine.holdsString (UInt64.ofNat name.length) :=
    works.strings _ (by rw [size]; exact short)
  rw [readName, if_pos held, size,
    bind_ok (Machine.read_eq (works.transfers _) _ _), pure_apply,
    overwrite_zeros, shows.take_content,
    cString_append_zeros fun zero => ends (List.mem_of_mem_take zero)]

theorem deserializeComponents_eq {components : List Component}
    (sendable : ∀ component ∈ components, component.Sendable) {entity : List Component}
    (few : entity.length + components.length ≤ kMaxComponents)
    (shows : machine.Shows channel (components.flatMap encode)) :
    ∃ result next, deserializeComponents machine components.length entity channel =
        .ok (entity ++ result, next) ∧
      ((components.flatMap encode).length ≤ channel.content.length →
        List.Forall₂ Component.Same result components) ∧
      After channel (components.flatMap encode).length next := by
  induction components generalizing entity channel with
  | nil =>
      refine ⟨[], channel, ?_, fun _ => .nil, rfl, rfl⟩
      rw [List.append_nil]
      rfl
  | cons component components ih =>
      obtain ⟨here, later⟩ := List.forall_mem_cons.mp sendable
      rw [List.flatMap_cons, encode, List.append_assoc, List.append_assoc] at shows ⊢
      obtain ⟨headed, headerRead, afterHeader⟩ :=
        readTrivialType_eq works componentHeader component.header shows.left
      have showsName := afterHeader.shows shows
      obtain ⟨named, nameRead, afterName⟩ := readName_eq works here.ends here.short showsName.left
      have showsValue := afterName.shows showsName
      obtain ⟨value, valued, valueRead, sameValue, afterValue⟩ :=
        deserializeValue_eq works here.value showsValue.left
      have added : checkAdd entity (component.name.take headed.content.length) = .ok () := by
        have shorter := List.length_take_le headed.content.length component.name
        have room : entity.length < kMaxComponents := by
          rw [List.length_cons] at few
          omega
        rw [checkAdd, if_neg (Nat.not_le.mpr ?_), if_neg (Nat.not_le.mpr room)]
        exact Nat.lt_of_le_of_lt (List.length_take_le' _ _) here.short
      let made : Component := ⟨component.name.take headed.content.length, value⟩
      have fewer : (entity ++ [made]).length + components.length ≤ kMaxComponents := by
        rw [List.length_append, List.length_singleton]
        rw [List.length_cons] at few
        omega
      obtain ⟨result, next, ends, same, after⟩ := ih later fewer (afterValue.shows showsValue)
      refine ⟨made :: result, next, ?_, fun whole => ?_, ?_⟩
      · rw [List.length_cons, deserializeComponents, bind_ok headerRead]
        simp only [Component.header, ComponentType.ofTid_tid]
        rw [bind_ok nameRead, added, bind_ok rfl,
          bind_ok valueRead, ends, List.append_assoc]
        rfl
      · simp only [List.length_append] at whole
        have left : (component.name.length + (component.value.encode.length +
            (components.flatMap encode).length)) ≤ headed.content.length := by
          rw [afterHeader.content, List.length_drop]
          omega
        refine .cons ⟨List.take_of_length_le (by omega), sameValue⟩ (same ?_)
        rw [afterValue.content, afterName.content, List.length_drop, List.length_drop]
        omega
      · simp only [List.length_append]
        exact afterHeader.trans (afterName.trans (afterValue.trans after))

theorem deserializeEntity_eq {components : List Component}
    (sendable : SendableEntity components) (sequenceNumber : UInt64)
    (shows : machine.Shows channel (encodeEntity sequenceNumber components)) :
    ∃ result next, deserializeEntity machine channel = .ok (result, next) ∧
      ((encodeEntity sequenceNumber components).length ≤ channel.content.length →
        List.Forall₂ Component.Same result components) ∧
      After channel (encodeEntity sequenceNumber components).length next := by
  obtain ⟨headed, headerRead, afterHeader⟩ :=
    readTrivialType_eq works entityHeader (headerOf sequenceNumber components) shows.left
  have count : (headerOf sequenceNumber components).componentCount.toNat = components.length :=
    UInt64.toNat_ofNat_of_lt' (Nat.lt_of_le_of_lt sendable.few (by decide))
  obtain ⟨result, next, ends, same, after⟩ := @deserializeComponents_eq machine works headed
    components sendable.each [] (by simpa using sendable.few) (afterHeader.shows shows)
  refine ⟨result, next, ?_, fun whole => same ?_, ?_⟩
  · rw [deserializeEntity, bind_ok headerRead, count, ends, List.nil_append]
  · rw [encodeEntity, List.length_append] at whole
    rw [afterHeader.content, List.length_drop]
    omega
  · rw [encodeEntity, List.length_append]
    exact afterHeader.trans after

end Deserialization

/-- An entity that is written to a lossless endpoint comes back, also with further bytes behind
it. -/
theorem entity_roundTrip {writer reader : Machine} (writes : writer.Works)
    (lossless : writer.Lossless) (reads : reader.Works) {components : List Component}
    (sendable : SendableEntity components) (sequenceNumber : UInt64) (channel : Channel) :
    ∃ bytes size next, serializeEntity writer sequenceNumber components channel = .ok (size, next) ∧
      next.content = channel.content ++ bytes ∧ size = UInt64.ofNat bytes.length ∧
      ∀ rest calls asked, ∃ result last,
        deserializeEntity reader ⟨bytes ++ rest, calls, asked⟩ = .ok (result, last) ∧
        last.content = rest ∧ List.Forall₂ Component.Same result components := by
  obtain ⟨size, next, written, all⟩ := serializeEntity_eq writes sendable sequenceNumber channel
  obtain ⟨counted, content⟩ := all lossless
  refine ⟨encodeEntity sequenceNumber components, size, next, written, content, counted, ?_⟩
  intro rest calls asked
  obtain ⟨result, last, read, same, after⟩ := @deserializeEntity_eq reader reads
    ⟨encodeEntity sequenceNumber components ++ rest, calls, asked⟩ components sendable
    sequenceNumber (Machine.shows_of_content rfl)
  refine ⟨result, last, read, ?_, same ?_⟩
  · rw [after.content]
    exact List.drop_left
  · rw [List.length_append]
    exact Nat.le_add_right _ _

/-- A machine on which nothing fails and all memory is host memory. -/
def workingMachine : Machine := { plainMachine with attributes := fun _ => some (.unregistered, 0) }

theorem workingMachine_works : workingMachine.Works where
  transfers _ := rfl
  allocates _ _ _ := ⟨16, by decide, rfl⟩
  releases _ := rfl
  copies _ := rfl
  strings _ _ := rfl
  knows _ := ⟨_, rfl⟩

/-- An entity with a number and a tensor of two bytes. -/
def smallEntity : List Component := [⟨[110], .plain .uint16 (7 : UInt16)⟩, ⟨[116], .tensor
      { tensor :=
          { shape := ⟨[2], by decide⟩
            elementCount := 2
            strides := [1]
            memoryBuffer := ⟨2, .kSystem, 64, none⟩ }
        data := [5, 6] }⟩]

theorem smallEntity_sendable : SendableEntity smallEntity where
  few := by decide
  each := by
    intro component among
    rcases List.mem_cons.mp among with rfl | among
    · exact ⟨by decide, by decide, trivial⟩
    · rcases List.mem_singleton.mp among with rfl
      exact ⟨by decide, by decide, rfl, rfl, by decide, by decide, .inr (by decide)⟩

theorem entity_roundTrip_small : ∃ bytes size next,
      serializeEntity workingMachine 3 smallEntity ⟨[], 0, 0⟩ = .ok (size, next) ∧
      next.content = [] ++ bytes ∧ size = UInt64.ofNat bytes.length ∧
      ∀ rest calls asked, ∃ result last,
        deserializeEntity workingMachine ⟨bytes ++ rest, calls, asked⟩ = .ok (result, last) ∧
        last.content = rest ∧ List.Forall₂ Component.Same result smallEntity :=
  entity_roundTrip workingMachine_works (fun _ size => Nat.le_refl size) workingMachine_works
    smallEntity_sendable 3 ⟨[], 0, 0⟩

/-- A tensor that never got memory is empty.  Its pointer is null, which endpoints refuse. -/
theorem tensor_without_memory :
    ¬ ∀ value : TensorValue, value.tensor.elementCount = value.tensor.shape.size →
      value.tensor.strides.length = value.tensor.shape.rank →
      value.data.length = value.size.toNat → value.tensor.lanes ≠ 0 →
      ∃ size next, serializeEntity workingMachine 0 [⟨[116], .tensor value⟩] ⟨[], 0, 0⟩ =
        .ok (size, next) := by
  intro succeeds
  obtain ⟨size, next, written⟩ := succeeds {} rfl rfl rfl (by decide)
  have refused : serializeEntity workingMachine 0 [⟨[116], .tensor {}⟩] ⟨[], 0, 0⟩ =
      .error .GXF_ARGUMENT_NULL := rfl
  cases refused.symm.trans written

end Gxf.Serialization
