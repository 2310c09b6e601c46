import Gxf.Common.FixedVector.Vector

/-!
# The fixed vector against list operations

A vector represents a list when its slots hold the list followed by raw storage.
Every operation keeps that in step with the list operation, apart from two: a range
insert copies over the elements behind its position, and copying a vector from
itself clears it first.
-/

namespace Gxf.Common.FixedVector

open Gxf.Lib

variable {T ι : Type*}

/-- The storage of a vector holds the elements of the list and then raw slots. -/
structure Represents (vector : FixedVector T) (sequence : Sequence T) : Prop where
  capacity_eq : vector.capacity = sequence.capacity
  size_eq : vector.size = sequence.contents.length
  fits : sequence.contents.length ≤ sequence.capacity
  data_eq : vector.data = sequence.contents.map some ++
    List.replicate (sequence.capacity - sequence.contents.length) none

/-- What a caller sees of a vector is the list. -/
structure Shows (vector : FixedVector T) (sequence : Sequence T) : Prop where
  capacity_eq : vector.capacity = sequence.capacity
  size_eq : vector.size = sequence.contents.length
  contents_eq : vector.contents = sequence.contents.map some

namespace Represents

variable {vector other : FixedVector T} {sequence otherSequence : Sequence T}

theorem shows (represents : Represents vector sequence) : Shows vector sequence := by
  refine ⟨represents.capacity_eq, represents.size_eq, ?_⟩
  rw [contents, represents.data_eq, represents.size_eq]
  simp

theorem data_length (represents : Represents vector sequence) :
    vector.data.length = sequence.capacity := by
  have := represents.fits
  rw [represents.data_eq]
  simp
  omega

theorem full_iff (represents : Represents vector sequence) :
    vector.full = true ↔ sequence.contents.length = sequence.capacity := by
  rw [full, beq_iff_eq, represents.size_eq, represents.capacity_eq]

theorem create (capacity : Nat) : Represents (T := T) (create capacity) ⟨[], capacity⟩ :=
  ⟨rfl, rfl, Nat.zero_le _, rfl⟩

/-- The slots around a position. -/
theorem data_split (represents : Represents vector sequence) (index : Nat) :
    vector.data = (sequence.contents.take index).map some ++
      ((sequence.contents.drop index).map some ++
        List.replicate (sequence.capacity - sequence.contents.length) none) := by
  rw [represents.data_eq, ← List.append_assoc, ← List.map_append, List.take_append_drop]

theorem raw_slot (represents : Represents vector sequence)
    (room : sequence.contents.length ≠ sequence.capacity) :
    List.replicate (sequence.capacity - sequence.contents.length) (none : Option T) =
      none :: List.replicate (sequence.capacity - (sequence.contents.length + 1)) none := by
  have fits := represents.fits
  rw [← List.replicate_succ]
  congr 1
  omega

variable {index count fuel start pos : Nat}

section

variable (represents : Represents vector sequence)
include represents

theorem emplace (inside : index ≤ sequence.contents.length)
    (room : sequence.contents.length ≠ sequence.capacity) (object : T) :
    (vector.emplace index object).2 = .ok () ∧
      Represents (vector.emplace index object).1 { sequence with
        contents := sequence.contents.take index ++ object :: sequence.contents.drop index } := by
  have fits := represents.fits
  have notBeyond : ¬index > vector.size := by
    rw [represents.size_eq]
    omega
  have notFull : ¬vector.full = true := by rwa [represents.full_iff]
  have before : ((sequence.contents.take index).map some : List (Option T)).length = index := by
    rw [List.length_map, List.length_take]
    omega
  -- the shift opens a raw slot at the position; at the end there is one already
  have opened : (if index < vector.size then
      arrayMoveConstruct vector.data (index + 1) index (vector.size - index)
      else vector.data) = (sequence.contents.take index).map some ++
        none :: ((sequence.contents.drop index).map some ++
          List.replicate (sequence.capacity - (sequence.contents.length + 1)) none) := by
    have split := represents.data_split index
    rw [represents.raw_slot room] at split
    by_cases middle : index < vector.size
    · have moved := arrayMoveConstruct_up ((sequence.contents.take index).map some)
        ((sequence.contents.drop index).map some)
        (List.replicate (sequence.capacity - (sequence.contents.length + 1)) none)
      rw [before, List.length_map, List.length_drop, ← split] at moved
      rw [if_pos middle, represents.size_eq, moved]
    · have atEnd : index = sequence.contents.length := by
        rw [represents.size_eq] at middle
        omega
      rw [if_neg middle, split, atEnd, List.drop_length]
      rfl
  have written : inplaceConstruct ((sequence.contents.take index).map some ++
      none :: ((sequence.contents.drop index).map some ++
        List.replicate (sequence.capacity - (sequence.contents.length + 1)) none)) index object =
      (sequence.contents.take index).map some ++
        some object :: ((sequence.contents.drop index).map some ++
          List.replicate (sequence.capacity - (sequence.contents.length + 1)) none) := by
    have placed := set_append_length ((sequence.contents.take index).map some)
      ((sequence.contents.drop index).map some ++
        List.replicate (sequence.capacity - (sequence.contents.length + 1)) none)
      none (some object)
    rwa [before] at placed
  have effect : vector.emplace index object = ({ vector with
      data := (sequence.contents.take index).map some ++
        some object :: ((sequence.contents.drop index).map some ++
          List.replicate (sequence.capacity - (sequence.contents.length + 1)) none)
      size := vector.size + 1 }, .ok ()) := by
    rw [FixedVector.emplace, if_neg notBeyond, if_neg notFull]
    simp only [opened, written]
  have longer : (sequence.contents.take index ++ object :: sequence.contents.drop index).length =
      sequence.contents.length + 1 := by
    simp
    omega
  rw [effect]
  refine ⟨rfl, represents.capacity_eq, ?_, ?_, ?_⟩
  · rw [longer, represents.size_eq]
  · rw [longer]
    exact Nat.lt_of_le_of_ne fits room
  · rw [longer]
    simp

theorem pushBack (room : sequence.contents.length ≠ sequence.capacity) (object : T) :
    (vector.pushBack object).2 = .ok () ∧ Represents (vector.pushBack object).1 { sequence with
        contents := sequence.contents ++ [object] } := by
  have atEnd := represents.emplace (Nat.le_refl _) room object
  rwa [List.take_length, List.drop_length, ← represents.size_eq] at atEnd

theorem erase (inside : index < sequence.contents.length) : (vector.erase index).2 = .ok () ∧
      Represents (vector.erase index).1 { sequence with
        contents := sequence.contents.eraseIdx index } := by
  have fits := represents.fits
  have notBeyond : ¬index ≥ vector.size := by
    rw [represents.size_eq]
    omega
  have notEmpty : ¬vector.empty = true := by
    rw [empty, beq_iff_eq, represents.size_eq]
    omega
  have before : ((sequence.contents.take index).map some : List (Option T)).length = index := by
    rw [List.length_map, List.length_take]
    omega
  have after : ((sequence.contents.drop (index + 1)).map some : List (Option T)).length =
      vector.size - 1 - index := by
    rw [List.length_map, List.length_drop, represents.size_eq]
    omega
  have rawSlots : (none : Option T) ::
      List.replicate (sequence.capacity - sequence.contents.length) none =
        List.replicate (sequence.capacity - (sequence.contents.length - 1)) none := by
    rw [← List.replicate_succ]
    congr 1
    omega
  have destroyed : destruct vector.data index = (sequence.contents.take index).map some ++
      none :: ((sequence.contents.drop (index + 1)).map some ++
        List.replicate (sequence.capacity - sequence.contents.length) none) := by
    have split := represents.data_split index
    rw [List.drop_eq_getElem_cons inside, List.map_cons, List.cons_append] at split
    have overwritten := set_append_length ((sequence.contents.take index).map some)
      ((sequence.contents.drop (index + 1)).map some ++
        List.replicate (sequence.capacity - sequence.contents.length) none)
      (some sequence.contents[index]) none
    rw [before, ← split] at overwritten
    exact overwritten
  have closed : (if index < vector.size - 1 then
      arrayMoveConstruct (destruct vector.data index) index (index + 1) (vector.size - 1 - index)
      else destruct vector.data index) = (sequence.contents.take index).map some ++
          ((sequence.contents.drop (index + 1)).map some ++
            List.replicate (sequence.capacity - (sequence.contents.length - 1)) none) := by
    by_cases middle : index < vector.size - 1
    · have moved := arrayMoveConstruct_down ((sequence.contents.take index).map some)
        ((sequence.contents.drop (index + 1)).map some)
        (List.replicate (sequence.capacity - sequence.contents.length) none)
      rw [before, after, ← destroyed, rawSlots] at moved
      rw [if_pos middle, moved]
    · have last : sequence.contents.drop (index + 1) = [] := by
        rw [List.drop_eq_nil_iff, ← represents.size_eq]
        omega
      rw [if_neg middle, destroyed, last, List.map_nil, List.nil_append, List.nil_append, rawSlots]
  have effect : vector.erase index = ({ vector with
      data := (sequence.contents.take index).map some ++
        ((sequence.contents.drop (index + 1)).map some ++
          List.replicate (sequence.capacity - (sequence.contents.length - 1)) none)
      size := vector.size - 1 }, .ok ()) := by
    rw [FixedVector.erase, if_neg notBeyond, if_neg notEmpty]
    simp only [closed]
  have shorter : (sequence.contents.eraseIdx index).length = sequence.contents.length - 1 :=
    List.length_eraseIdx_of_lt inside
  rw [effect]
  refine ⟨rfl, represents.capacity_eq, ?_, ?_, ?_⟩
  · rw [shorter, represents.size_eq]
  · rw [shorter]
    exact Nat.le_trans (Nat.sub_le _ _) fits
  · rw [shorter, List.eraseIdx_eq_take_drop_succ, List.map_append, List.append_assoc]

theorem popBack (nonempty : sequence.contents ≠ []) : (vector.popBack).2 = .ok () ∧
      Represents (vector.popBack).1 { sequence with contents := sequence.contents.dropLast } := by
  have positive := List.length_pos_iff.mpr nonempty
  have notZero : ¬vector.size = 0 := by
    rw [represents.size_eq]
    omega
  have lastInside : sequence.contents.length - 1 < sequence.contents.length := by omega
  have erased := represents.erase lastInside
  rw [List.eraseIdx_length_sub_one] at erased
  rwa [FixedVector.popBack, if_neg notZero, represents.size_eq]

end

theorem destructDown_append (slots raw : List (Option T)) :
    destructDown (slots ++ raw) slots.length = List.replicate slots.length none ++ raw := by
  induction slots using List.reverseRecOn generalizing raw with
  | nil => rfl
  | append_singleton slots last ih =>
      have destroyed : destruct (slots ++ [last] ++ raw) slots.length = slots ++ none :: raw := by
        rw [List.append_assoc]
        exact set_append_length slots raw last none
      rw [List.length_append, List.length_singleton, destructDown, destroyed, ih,
        List.replicate_succ', List.append_assoc]
      rfl

section

variable (represents : Represents vector sequence)
include represents

theorem clear : Represents vector.clear { sequence with contents := [] } := by
  have fits := represents.fits
  have emptied := destructDown_append (sequence.contents.map some)
    (List.replicate (sequence.capacity - sequence.contents.length) none)
  rw [List.length_map, ← represents.data_eq, ← List.replicate_add] at emptied
  refine ⟨represents.capacity_eq, rfl, Nat.zero_le _, ?_⟩
  rw [FixedVector.clear, represents.size_eq, emptied]
  simp only [List.map_nil, List.nil_append, List.length_nil]
  congr 1
  omega

/-- The first loop of `resize` appends copies, one by one. -/
theorem growTo
    (within : count ≤ sequence.capacity) (enough : count - sequence.contents.length ≤ fuel)
    (object : T) :
    Represents (growTo count object fuel vector) { sequence with
      contents := sequence.contents ++
        List.replicate (count - sequence.contents.length) object } := by
  induction fuel generalizing vector sequence with
  | zero =>
      have none : count - sequence.contents.length = 0 := by omega
      rw [none, List.replicate_zero, List.append_nil]
      exact represents
  | succ fuel ih =>
      rw [FixedVector.growTo, represents.size_eq]
      by_cases missing : count > sequence.contents.length
      · rw [if_pos missing]
        obtain ⟨-, longer⟩ := represents.pushBack (by omega) object
        have grown := ih longer within (by simp; omega)
        have rest : count - sequence.contents.length =
            count - (sequence.contents.length + 1) + 1 := by omega
        rw [rest, List.replicate_succ]
        simpa using grown
      · have none : count - sequence.contents.length = 0 := by omega
        rw [if_neg missing, none, List.replicate_zero, List.append_nil]
        exact represents

/-- The second loop of `resize` drops elements from the end, one by one. -/
theorem shrinkTo (count : Nat) (enough : sequence.contents.length - count ≤ fuel) :
    Represents (shrinkTo count fuel vector) { sequence with
      contents := sequence.contents.take count } := by
  induction fuel generalizing vector sequence with
  | zero =>
      rw [List.take_of_length_le (by omega)]
      exact represents
  | succ fuel ih =>
      rw [FixedVector.shrinkTo, represents.size_eq]
      by_cases surplus : count < sequence.contents.length
      · rw [if_pos surplus]
        obtain ⟨-, shorter⟩ := represents.popBack (List.ne_nil_of_length_pos (by omega))
        have shrunk := ih shorter (by simp; omega)
        rw [List.dropLast_eq_take, List.take_take, min_eq_left (by omega)] at shrunk
        exact shrunk
      · rw [if_neg surplus, List.take_of_length_le (by omega)]
        exact represents

theorem resize (within : count ≤ sequence.capacity) (object : T) :
    (vector.resize count object).2 = .ok () ∧
      Represents (vector.resize count object).1 { sequence with
        contents := sequence.contents.take count ++
          List.replicate (count - sequence.contents.length) object } := by
  have notBeyond : ¬count > vector.capacity := by
    rw [represents.capacity_eq]
    omega
  have grown := represents.growTo within (Nat.sub_le _ _) object
  have shrunk := grown.shrinkTo count (Nat.sub_le _ _)
  rw [← grown.size_eq, List.take_append, List.take_replicate,
    min_eq_right (Nat.le_refl _)] at shrunk
  rw [FixedVector.resize, if_neg notBeyond]
  exact ⟨rfl, shrunk⟩

theorem reallocate {capacity : Nat} (enough : sequence.contents.length ≤ capacity) :
    Represents (vector.reallocate capacity) { sequence with capacity } := by
  have fits := represents.fits
  have seen := represents.shows.contents_eq
  have relocated := arrayCopyConstruct_eq (List.replicate capacity none) vector.data 0 0 vector.size
    (by rw [represents.data_length, represents.size_eq]; omega)
    (by rw [List.length_replicate, represents.size_eq]; omega)
  refine ⟨rfl, represents.size_eq, enough, ?_⟩
  rw [FixedVector.reallocate, relocated]
  rw [contents, represents.size_eq] at seen
  simp [seen, represents.size_eq]

theorem range_data (given : start + count ≤ sequence.contents.length) :
    (vector.data.drop start).take count = ((sequence.contents.drop start).take count).map some := by
  rw [represents.data_eq, List.drop_append_of_le_length (by rw [List.length_map]; omega),
    List.take_append_of_le_length (by rw [List.length_drop, List.length_map]; omega),
    ← List.map_drop, ← List.map_take]

theorem data_drop {position : Nat} (beyond : sequence.contents.length ≤ position) :
    vector.data.drop position = List.replicate (sequence.capacity - position) none := by
  rw [represents.data_eq, List.drop_append, List.drop_of_length_le (by rwa [List.length_map]),
    List.nil_append, List.length_map, List.drop_replicate]
  congr 1
  omega

section

variable (otherRepresents : Represents other otherSequence)
include otherRepresents

theorem insertRange_effect (given : start + count ≤ otherSequence.contents.length)
    (points : start < otherSequence.contents.length)
    (inside : pos ≤ sequence.contents.length) (within : pos + count ≤ sequence.capacity) :
    vector.insertRange other pos start count = ({ vector with
      data := vector.data.take pos ++ (((otherSequence.contents.drop start).take count).map some ++
          vector.data.drop (pos + count))
      size := vector.size + count }, .ok ()) := by
  have otherFits := otherRepresents.fits
  have inBounds : ¬(pos > vector.size ∨ pos + count > vector.capacity) := by
    rw [represents.size_eq, represents.capacity_eq]
    omega
  rw [insertRange, if_neg inBounds, if_pos (by rwa [otherRepresents.size_eq]),
    arrayCopyConstruct_eq _ _ _ _ _ (by rw [otherRepresents.data_length]; omega)
      (by rwa [represents.data_length]), otherRepresents.range_data given]

theorem insertRange_end (given : start + count ≤ otherSequence.contents.length)
    (points : start < otherSequence.contents.length)
    (within : sequence.contents.length + count ≤ sequence.capacity) :
    Represents (vector.insertRange other sequence.contents.length start count).1 { sequence with
      contents := sequence.contents.take sequence.contents.length ++
        ((otherSequence.contents.drop start).take count ++
          sequence.contents.drop sequence.contents.length) } := by
  have rangeLength : ((otherSequence.contents.drop start).take count).length = count := by
    rw [List.length_take, List.length_drop]
    omega
  have seen := represents.shows.contents_eq
  rw [contents, represents.size_eq] at seen
  rw [represents.insertRange_effect otherRepresents given points (Nat.le_refl _) within,
    List.take_length, List.drop_length, List.append_nil]
  refine ⟨represents.capacity_eq, ?_, ?_, ?_⟩
  · rw [List.length_append, rangeLength, represents.size_eq]
  · rw [List.length_append, rangeLength]
    exact within
  · rw [seen, represents.data_drop (Nat.le_add_right _ _), List.length_append, rangeLength,
      List.map_append, List.append_assoc]

theorem insertRange_empty (points : start < otherSequence.contents.length)
    (inside : pos ≤ sequence.contents.length) (within : pos + 0 ≤ sequence.capacity) :
    Represents (vector.insertRange other pos start 0).1 { sequence with
      contents := sequence.contents.take pos ++
        ((otherSequence.contents.drop start).take 0 ++ sequence.contents.drop pos) } := by
  rw [represents.insertRange_effect otherRepresents (Nat.le_of_lt points) points inside within]
  simpa using represents

theorem insertRange_middle (given : start + count ≤ otherSequence.contents.length)
    (points : start < otherSequence.contents.length)
    (inside : pos < sequence.contents.length) (within : pos + count ≤ sequence.capacity)
    (positive : 0 < count) :
    ¬Shows (vector.insertRange other pos start count).1 { sequence with
      contents := sequence.contents.take pos ++
        ((otherSequence.contents.drop start).take count ++ sequence.contents.drop pos) } := by
  intro shows
  have seen := shows.contents_eq
  rw [represents.insertRange_effect otherRepresents given points (Nat.le_of_lt inside) within,
    contents] at seen
  simp only [represents.size_eq] at seen
  -- the last slot counted as new lies behind everything that was written
  have fits := represents.fits
  have beforeLength : (vector.data.take pos).length = pos := by
    rw [List.length_take, represents.data_length]
    omega
  have rangeLength : ((otherSequence.contents.drop start).take count).length = count := by
    rw [List.length_take, List.length_drop]
    omega
  have lastRaw : vector.data.drop (sequence.contents.length + count - 1) =
      List.replicate (sequence.capacity - (sequence.contents.length + count - 1)) none :=
    represents.data_drop (by omega)
  have written : (List.map some (sequence.contents.take pos ++
      ((otherSequence.contents.drop start).take count ++ sequence.contents.drop pos)))[
        sequence.contents.length + count - 1]? =
      vector.data[sequence.contents.length + count - 1]? := by
    rw [← seen, List.getElem?_take_of_lt (by omega),
      List.getElem?_append_right (by rw [beforeLength]; omega), beforeLength,
      List.getElem?_append_right (by rw [List.length_map, rangeLength]; omega),
      List.length_map, rangeLength, List.getElem?_drop]
    congr 1
    omega
  have lastSlot : vector.data[sequence.contents.length + count - 1]? =
      (vector.data.drop (sequence.contents.length + count - 1))[0]? := by
    rw [List.getElem?_drop, Nat.add_zero]
  rw [lastSlot, lastRaw, List.getElem?_map, List.getElem?_replicate,
    List.getElem?_eq_getElem (by simp [rangeLength]; omega), Option.map_some] at written
  split at written
  · cases written
  · cases written

end

end

theorem copyFrom [DecidableEq ι] {store : ι → FixedVector T} {sequences : ι → Sequence T}
    (represents : ∀ name, Represents (store name) (sequences name)) {target source : ι}
    (within : (sequences source).contents.length ≤ (sequences target).capacity)
    (other : source = target → (sequences target).contents = []) :
    (copyFrom store target source).2 = .ok () ∧
      Represents (copyFrom store target source).1 { sequences target with
        contents := (sequences source).contents } := by
  have cleared := (represents target).clear
  have enough : ¬(store source).size > (store target).capacity := by
    rw [(represents source).size_eq, (represents target).capacity_eq]
    omega
  have readRepresents : Represents (Function.update store target (store target).clear source)
      { sequences source with contents := (sequences source).contents } := by
    by_cases same : source = target
    · subst same
      rw [Function.update_self, other rfl]
      exact cleared
    · rw [Function.update_of_ne same]
      exact represents source
  rw [FixedVector.copyFrom, if_neg enough]
  refine ⟨rfl, cleared.capacity_eq, readRepresents.size_eq, within, ?_⟩
  have readFits := readRepresents.fits
  have seen := readRepresents.range_data (Nat.le_of_eq (Nat.zero_add _))
  dsimp only at readFits seen ⊢
  rw [arrayCopyConstruct_eq _ _ _ _ _
    (by rw [readRepresents.data_length, readRepresents.size_eq, Nat.zero_add]; exact readFits)
    (by rw [cleared.data_length, readRepresents.size_eq, Nat.zero_add]; exact within),
    readRepresents.size_eq, seen, cleared.data_drop (Nat.zero_le _)]
  simp

end Represents

end Gxf.Common.FixedVector
