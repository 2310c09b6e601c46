import Gxf.Common.FixedMap.Runs

/-!
# Iterators of the fixed map

An iterator is an index of a bucket, and the bucket behind the last one is the end.  Every step
reads whether buckets are occupied; the indices it reads are listed in order.  What the memory
behind the buckets holds is given.
-/

namespace Gxf.Common.FixedMap

open Gxf.Lib

variable {Key T ι : Type*}

/-- An index with the indices of the buckets that were read on the way, or no end. -/
abbrev Moved := Option (Nat × List Nat)

/-- `container_->data_[index_].occupied`, with `beyond` for what lies behind the buckets. -/
def occupied (map : FixedMap Key T) (beyond : Nat → Bool) (index : Nat) : Bool :=
  match map.data[index]? with
  | some bucket => bucket.isSome
  | none => beyond index

section Loops

variable (occupied : Nat → Bool) (capacity : Nat)

/-- The first loop of `operator+=`: on to an occupied bucket. -/
def skipEmpty : (fuel : Nat) → (index : Nat) → Moved
  | 0, _ => none
  | fuel + 1, index =>
      if occupied index then some (index, [index])
      else if index + 1 ≥ capacity then some (index + 1, [index])
      else (skipEmpty fuel (index + 1)).map fun moved => (moved.1, index :: moved.2)

/-- `while (offset > 0)`. -/
def forward : (fuel : Nat) → (offset index : Nat) → Moved
  | _, 0, index => some (index, [])
  | 0, _ + 1, _ => none
  | fuel + 1, offset + 1, index =>
      if index + 1 ≥ capacity then some (index + 1, [])
      else (forward fuel (if occupied (index + 1) then offset else offset + 1) (index + 1)).map
        fun moved => (moved.1, (index + 1) :: moved.2)

/-- `while (offset < 0)`, for the absolute value of the offset. -/
def backward : (fuel : Nat) → (offset index : Nat) → Moved
  | _, 0, index => some (index, [])
  | 0, _ + 1, _ => none
  | fuel + 1, offset + 1, index =>
      if index - 1 = 0 then some (index - 1, [])
      else (backward fuel (if occupied (index - 1) then offset else offset + 1) (index - 1)).map
        fun moved => (moved.1, (index - 1) :: moved.2)

end Loops

section Iterators

variable (map : FixedMap Key T) (beyond : Nat → Bool)

/-- `operator+=(offset)`. -/
def advance (index : Nat) (offset : Int) : Moved := do
  let fuel := map.capacity + 2
  let (index, first) ← skipEmpty (map.occupied beyond) map.capacity fuel index
  if (offset > 0 ∧ index ≥ map.capacity) ∨ (offset < 0 ∧ index = 0) then return (index, first)
  let (index, second) ←
    if offset > 0 then forward (map.occupied beyond) map.capacity fuel offset.toNat index
    else backward (map.occupied beyond) fuel offset.natAbs index
  return (index, first ++ second)

/-- `operator*`. -/
def dereference (index : Nat) : Option (Key × T) × List Nat :=
  if index ≥ map.capacity then (none, []) else (map.data.getD index none, [index])

/-- `begin()`. -/
def begin : Moved := map.advance beyond 0 0

/-- `end()`. -/
def last : Moved := map.advance beyond 0 map.size

/-- What a walk visits and the indices of the buckets that it reads, or no end. -/
abbrev Walk (Key T : Type*) := Option (List (Option (Key × T)) × List Nat)

/-- `for (; it != stop; ++it)`, where each round visits `*it`. -/
def walkTo (stop : Nat) : (fuel : Nat) → (index : Nat) → Walk Key T
  | 0, _ => none
  | fuel + 1, index =>
      if index = stop then some ([], [])
      else
        let visited := map.dereference index
        (map.advance beyond index 1).bind fun next =>
          (walkTo stop fuel next.1).map fun later =>
            (visited.1 :: later.1, visited.2 ++ (next.2 ++ later.2))

/-- The same for a reverse iterator, whose base is at `index`. -/
def walkBackTo (stop : Nat) : (fuel : Nat) → (index : Nat) → Walk Key T
  | 0, _ => none
  | fuel + 1, index =>
      if index = stop then some ([], [])
      else
        (map.advance beyond index (-1)).bind fun before =>
          let visited := map.dereference before.1
          (map.advance beyond index (-1)).bind fun next =>
            (walkBackTo stop fuel next.1).map fun later =>
              (visited.1 :: later.1, before.2 ++ (visited.2 ++ (next.2 ++ later.2)))

/-- The walk from `begin()` to `end()`. -/
def walk : Walk Key T := (map.begin beyond).bind fun first =>
    (map.last beyond).bind fun stop =>
      (map.walkTo beyond stop.1 (map.capacity + 1) first.1).map fun walked =>
        (walked.1, first.2 ++ (stop.2 ++ walked.2))

/-- The walk from `rbegin()` to `rend()`. -/
def reverseWalk : Walk Key T := (map.last beyond).bind fun first =>
    (map.begin beyond).bind fun stop =>
      (map.walkBackTo beyond stop.1 (map.capacity + 1) first.1).map fun walked =>
        (walked.1, first.2 ++ (stop.2 ++ walked.2))

/-- Both walks visit every stored pair once, in opposite orders, and only read buckets. -/
structure WalksWell : Prop where
  forwards : ∃ reads, map.walk beyond = some (map.entries.map some, reads) ∧
    ∀ index ∈ reads, index < map.capacity
  backwards : ∃ reads, map.reverseWalk beyond = some (map.entries.reverse.map some, reads) ∧
    ∀ index ∈ reads, index < map.capacity

end Iterators

section Ends

variable {occupied : Nat → Bool} {capacity : Nat}

/-- The first occupied bucket from an index on, or the end. -/
structure FirstFrom (occupied : Nat → Bool) (capacity start index : Nat) : Prop where
  le : start ≤ index
  inside : index ≤ capacity
  skipped : ∀ between, start ≤ between → between < index → occupied between = false
  isOccupied : index < capacity → occupied index = true

/-- The last occupied bucket before an index, or the first bucket. -/
structure LastBefore (occupied : Nat → Bool) (start index : Nat) : Prop where
  lt : index < start
  skipped : ∀ between, index < between → between < start → occupied between = false
  isOccupied : 0 < index → occupied index = true

theorem FirstFrom.of_empty {start index : Nat}
    (first : FirstFrom occupied capacity (start + 1) index)
    (isEmpty : occupied start = false) : FirstFrom occupied capacity start index where
  le := Nat.le_of_succ_le first.le
  inside := first.inside
  skipped between low high := by
    rcases Nat.eq_or_lt_of_le low with rfl | later
    · exact isEmpty
    · exact first.skipped between later high
  isOccupied := first.isOccupied

theorem skipEmpty_first {fuel start : Nat} (inside : start < capacity)
    (enough : capacity ≤ start + fuel) :
    ∃ index reads, skipEmpty occupied capacity fuel start = some (index, reads) ∧
      FirstFrom occupied capacity start index ∧ ∀ read ∈ reads, read < capacity := by
  induction fuel generalizing start with
  | zero => omega
  | succ fuel ih =>
      have here : ∀ read ∈ [start], read < capacity := by simpa using inside
      rw [skipEmpty]
      by_cases isOccupied : occupied start = true
      · rw [if_pos isOccupied]
        exact ⟨start, [start], rfl,
          ⟨Nat.le_refl _, Nat.le_of_lt inside, fun between low high => by omega, fun _ =>
          isOccupied⟩,
          here⟩
      have isEmpty : occupied start = false := Bool.eq_false_iff.mpr isOccupied
      rw [if_neg isOccupied]
      by_cases atEnd : start + 1 ≥ capacity
      · rw [if_pos atEnd]
        refine ⟨start + 1, [start], rfl, ⟨by omega, by omega, fun between low high => ?_, ?_⟩, here⟩
        · rw [Nat.le_antisymm (Nat.le_of_lt_succ high) low]
          exact isEmpty
        · omega
      · rw [if_neg atEnd]
        obtain ⟨index, reads, isMoved, first, within⟩ := @ih (start + 1) (by omega) (by omega)
        exact ⟨index, start :: reads, by rw [isMoved]; rfl, first.of_empty isEmpty,
          List.forall_mem_cons.mpr ⟨inside, within⟩⟩

theorem forward_first {fuel start : Nat} (inside : start < capacity)
    (enough : capacity ≤ start + fuel) :
    ∃ index reads, forward occupied capacity fuel 1 start = some (index, reads) ∧
      FirstFrom occupied capacity (start + 1) index ∧ ∀ read ∈ reads, read < capacity := by
  induction fuel generalizing start with
  | zero => omega
  | succ fuel ih =>
      rw [forward]
      by_cases atEnd : start + 1 ≥ capacity
      · rw [if_pos atEnd]
        exact ⟨start + 1, [], rfl, ⟨Nat.le_refl _, by omega, fun between low high => by omega,
          fun before => by omega⟩, List.forall_mem_nil _⟩
      rw [if_neg atEnd]
      by_cases isOccupied : occupied (start + 1) = true
      · rw [if_pos isOccupied]
        refine ⟨start + 1, [start + 1], ?_, ⟨Nat.le_refl _, by omega,
          fun between low high => by omega, fun _ => isOccupied⟩, ?_⟩
        · cases fuel <;> rfl
        · exact List.forall_mem_singleton.mpr (by omega)
      · rw [if_neg isOccupied]
        obtain ⟨index, reads, isMoved, first, within⟩ := @ih (start + 1) (by omega) (by omega)
        exact ⟨index, (start + 1) :: reads, by rw [isMoved]; rfl,
          first.of_empty (Bool.eq_false_iff.mpr isOccupied),
          List.forall_mem_cons.mpr ⟨by omega, within⟩⟩

theorem backward_last {fuel start : Nat} (positive : 0 < start) (enough : start ≤ fuel) :
    ∃ index reads, backward occupied fuel 1 start = some (index, reads) ∧
      LastBefore occupied start index ∧ ∀ read ∈ reads, read < start := by
  induction fuel generalizing start with
  | zero => omega
  | succ fuel ih =>
      rw [backward]
      by_cases atStart : start - 1 = 0
      · rw [if_pos atStart]
        exact ⟨start - 1, [], rfl, ⟨by omega, fun between low high => by omega,
          fun later => by omega⟩, List.forall_mem_nil _⟩
      rw [if_neg atStart]
      by_cases isOccupied : occupied (start - 1) = true
      · rw [if_pos isOccupied]
        refine ⟨start - 1, [start - 1], ?_, ⟨by omega, fun between low high => by omega,
          fun _ => isOccupied⟩, ?_⟩
        · cases fuel <;> rfl
        · exact List.forall_mem_singleton.mpr (by omega)
      · rw [if_neg isOccupied]
        obtain ⟨index, reads, isMoved, last, within⟩ := @ih (start - 1) (by omega) (by omega)
        have before := last.lt
        refine ⟨index, (start - 1) :: reads, by rw [isMoved]; rfl,
          ⟨by omega, fun between low high => ?_, last.isOccupied⟩,
          List.forall_mem_cons.mpr ⟨by omega, fun read member => ?_⟩⟩
        · rcases Nat.eq_or_lt_of_le (Nat.le_sub_one_of_lt high) with same | earlier
          · rw [same]
            exact Bool.eq_false_iff.mpr isOccupied
          · exact last.skipped between low earlier
        · have low := within read member
          omega

end Ends

/-! ## Steps -/

/-- There is one bucket for each index below the capacity, and the size counts the occupied ones. -/
structure Counted (map : FixedMap Key T) : Prop where
  data_length : map.data.length = map.capacity
  size_eq : map.size = map.entries.length

section Steps

variable {map : FixedMap Key T} {beyond : Nat → Bool} {start index : Nat}

section

variable (counted : Counted map)
include counted

section

variable (inside : index < map.capacity)
include inside

theorem occupied_eq : map.occupied beyond index = (map.data.getD index none).isSome := by
  rw [← counted.data_length] at inside
  rw [occupied, List.getD_eq_getElem?_getD, List.getElem?_eq_getElem inside, Option.getD_some]

theorem pairs_of_empty (isEmpty : map.occupied beyond index = false) :
    (map.data.drop index).reduceOption = (map.data.drop (index + 1)).reduceOption ∧
      (map.data.take (index + 1)).reduceOption = (map.data.take index).reduceOption := by
  rw [occupied_eq counted inside] at isEmpty
  rw [← counted.data_length] at inside
  rw [List.getD_eq_getElem?_getD, List.getElem?_eq_getElem inside, Option.getD_some,
    Option.isSome_eq_false_iff, Option.isNone_iff_eq_none] at isEmpty
  constructor
  · rw [List.drop_eq_getElem_cons inside, isEmpty, List.reduceOption_cons_of_none]
  · rw [List.take_succ_eq_append_getElem inside, List.reduceOption_append, isEmpty,
      List.reduceOption_singleton, Option.toList_none, List.append_nil]

theorem pairs_of_occupied (isOccupied : map.occupied beyond index = true) :
    ∃ entry, map.data.getD index none = some entry ∧
      (map.data.drop index).reduceOption = entry :: (map.data.drop (index + 1)).reduceOption ∧
      (map.data.take (index + 1)).reduceOption = (map.data.take index).reduceOption ++ [entry] := by
  rw [occupied_eq counted inside] at isOccupied
  rw [← counted.data_length] at inside
  obtain ⟨entry, isEntry⟩ := Option.isSome_iff_exists.mp isOccupied
  refine ⟨entry, isEntry, ?_⟩
  rw [List.getD_eq_getElem?_getD, List.getElem?_eq_getElem inside, Option.getD_some] at isEntry
  constructor
  · rw [List.drop_eq_getElem_cons inside, isEntry, List.reduceOption_cons_of_some]
  · rw [List.take_succ_eq_append_getElem inside, List.reduceOption_append, isEntry,
      List.reduceOption_singleton, Option.toList_some]

end

theorem pairs_of_skipped (le : start ≤ index) (inside : index ≤ map.capacity)
    (skipped : ∀ between, start ≤ between → between < index → map.occupied beyond between = false) :
    (map.data.drop start).reduceOption = (map.data.drop index).reduceOption ∧
      (map.data.take index).reduceOption = (map.data.take start).reduceOption := by
  obtain ⟨distance, rfl⟩ := Nat.exists_eq_add_of_le le
  clear le
  induction distance with
  | zero => exact ⟨rfl, rfl⟩
  | succ distance ih =>
      rw [← Nat.add_assoc] at inside skipped ⊢
      have earlier := ih (by omega) fun between low high => skipped between low (by omega)
      have last := pairs_of_empty counted (by omega)
        (skipped (start + distance) (by omega) (by omega))
      exact ⟨earlier.1.trans last.1, last.2.trans earlier.2⟩

theorem forward_end {fuel offset : Nat} (inside : start < map.capacity)
    (enough : map.capacity ≤ start + fuel)
    (few : (map.data.drop (start + 1)).reduceOption.length < offset) :
    ∃ reads, forward (map.occupied beyond) map.capacity fuel offset start =
        some (map.capacity, reads) ∧ ∀ read ∈ reads, read < map.capacity := by
  induction fuel generalizing start offset with
  | zero => omega
  | succ fuel ih =>
      obtain ⟨offset, rfl⟩ := Nat.exists_eq_succ_of_ne_zero (Nat.ne_zero_of_lt few)
      rw [forward]
      by_cases atEnd : start + 1 ≥ map.capacity
      · rw [if_pos atEnd]
        have isEnd : start + 1 = map.capacity := by omega
        exact ⟨[], by rw [isEnd], List.forall_mem_nil _⟩
      rw [if_neg atEnd]
      have nextInside : start + 1 < map.capacity := by omega
      obtain ⟨reads, isMoved, within⟩ : ∃ reads, forward (map.occupied beyond) map.capacity fuel
          (if map.occupied beyond (start + 1) = true then offset else offset + 1) (start + 1) =
            some (map.capacity, reads) ∧ ∀ read ∈ reads, read < map.capacity := by
        apply ih nextInside (by omega)
        by_cases isOccupied : map.occupied beyond (start + 1) = true
        · obtain ⟨entry, _, behind, _⟩ := pairs_of_occupied counted nextInside isOccupied
          rw [behind, List.length_cons] at few
          rw [if_pos isOccupied]
          omega
        · rw [(pairs_of_empty counted nextInside (Bool.eq_false_iff.mpr isOccupied)).1] at few
          rw [if_neg isOccupied]
          exact few
      refine ⟨(start + 1) :: reads, ?_, List.forall_mem_cons.mpr ⟨nextInside, within⟩⟩
      rw [isMoved]
      rfl

end

theorem skipEmpty_from_start (map : FixedMap Key T) (beyond : Nat → Bool)
    (positive : 0 < map.capacity) :
    ∃ index reads,
      skipEmpty (map.occupied beyond) map.capacity (map.capacity + 2) 0 = some (index, reads) ∧
        FirstFrom (map.occupied beyond) map.capacity 0 index ∧
        ∀ read ∈ reads, read < map.capacity :=
  skipEmpty_first positive (by omega)

/-- `begin()` is the first occupied bucket. -/
theorem begin_first (beyond : Nat → Bool) (positive : 0 < map.capacity) :
    ∃ index reads, map.begin beyond = some (index, reads) ∧
      FirstFrom (map.occupied beyond) map.capacity 0 index ∧
      ∀ read ∈ reads, read < map.capacity := by
  obtain ⟨index, reads, isMoved, first, within⟩ := skipEmpty_from_start map beyond positive
  refine ⟨index, reads, ?_, first, within⟩
  rw [begin, advance]
  simp [isMoved, backward]

/-- `end()` is behind the last bucket. -/
theorem last_eq (beyond : Nat → Bool) (counted : Counted map) (positive : 0 < map.capacity) :
    ∃ reads, map.last beyond = some (map.capacity, reads) ∧
      ∀ read ∈ reads, read < map.capacity := by
  obtain ⟨index, reads, isMoved, first, within⟩ := skipEmpty_from_start map beyond positive
  have pairs := (pairs_of_skipped counted first.le first.inside first.skipped).1
  rw [List.drop_zero] at pairs
  have size := counted.size_eq
  rw [entries, pairs] at size
  rw [last, advance]
  by_cases atEnd : index = map.capacity
  · rw [atEnd, List.drop_eq_nil_of_le (Nat.le_of_eq counted.data_length)] at size
    have noPair : map.size = 0 := size
    refine ⟨reads, ?_, within⟩
    simp [isMoved, noPair, backward, atEnd]
  · have inside : index < map.capacity := Nat.lt_of_le_of_ne first.inside atEnd
    obtain ⟨entry, _, behind, _⟩ := pairs_of_occupied counted inside (first.isOccupied inside)
    rw [behind, List.length_cons] at size
    obtain ⟨later, isEnd, laterWithin⟩ : ∃ reads,
        forward (map.occupied beyond) map.capacity (map.capacity + 2) map.size index =
          some (map.capacity, reads) ∧ ∀ read ∈ reads, read < map.capacity :=
      forward_end counted inside (by omega) (by omega)
    refine ⟨reads ++ later, ?_, List.forall_mem_append.mpr ⟨within, laterWithin⟩⟩
    have some : 0 < map.size := by omega
    simp [isMoved, some, isEnd, Nat.not_le.mpr inside]

theorem advance_forth (inside : start < map.capacity)
    (isOccupied : map.occupied beyond start = true) :
    ∃ index reads, map.advance beyond start 1 = some (index, reads) ∧
      FirstFrom (map.occupied beyond) map.capacity (start + 1) index ∧
      ∀ read ∈ reads, read < map.capacity := by
  obtain ⟨index, reads, isMoved, first, within⟩ : ∃ index reads,
      forward (map.occupied beyond) map.capacity (map.capacity + 2) 1 start =
        some (index, reads) ∧ FirstFrom (map.occupied beyond) map.capacity (start + 1) index ∧
        ∀ read ∈ reads, read < map.capacity :=
    forward_first inside (by omega)
  refine ⟨index, start :: reads, ?_, first, List.forall_mem_cons.mpr ⟨inside, within⟩⟩
  have stays : skipEmpty (map.occupied beyond) map.capacity (map.capacity + 2) start =
      some (start, [start]) := by
    rw [skipEmpty, if_pos isOccupied]
  have within : ¬map.capacity ≤ start := Nat.not_le.mpr inside
  simp [advance, stays, isMoved, within]

/-- A bucket that a walk can be at: an occupied one, or the end. -/
def Place (map : FixedMap Key T) (beyond : Nat → Bool) (index : Nat) : Prop :=
  index = map.capacity ∨ index < map.capacity ∧ map.occupied beyond index = true

theorem Place.le (place : Place map beyond index) : index ≤ map.capacity := by
  cases place with
  | inl atEnd => exact Nat.le_of_eq atEnd
  | inr before => exact Nat.le_of_lt before.1

theorem FirstFrom.place (first : FirstFrom (map.occupied beyond) map.capacity start index) :
    Place map beyond index := by
  rcases Nat.eq_or_lt_of_le first.inside with atEnd | before
  · exact .inl atEnd
  · exact .inr ⟨before, first.isOccupied before⟩

theorem advance_back (positive : 0 < start) (place : Place map beyond start) :
    ∃ index reads, map.advance beyond start (-1) = some (index, reads) ∧
      LastBefore (map.occupied beyond) start index ∧ start ∈ reads := by
  have le := place.le
  by_cases isOccupied : map.occupied beyond start = true
  · obtain ⟨index, reads, isMoved, before, -⟩ : ∃ index reads,
        backward (map.occupied beyond) (map.capacity + 2) 1 start = some (index, reads) ∧
          LastBefore (map.occupied beyond) start index ∧ ∀ read ∈ reads, read < start :=
      backward_last positive (by omega)
    have stays : skipEmpty (map.occupied beyond) map.capacity (map.capacity + 2) start =
        some (start, [start]) := by
      rw [skipEmpty, if_pos isOccupied]
    refine ⟨index, start :: reads, ?_, before, List.mem_cons_self⟩
    simp [advance, stays, isMoved, Nat.ne_of_gt positive]
  -- what lies behind the last bucket does not look occupied, and the index runs one further
  · have atEnd : start = map.capacity := place.resolve_right fun inside => isOccupied inside.2
    obtain ⟨index, reads, isMoved, before, -⟩ : ∃ index reads,
        backward (map.occupied beyond) (map.capacity + 2) 1 (start + 1) = some (index, reads) ∧
          LastBefore (map.occupied beyond) (start + 1) index ∧ ∀ read ∈ reads, read < start + 1 :=
      backward_last (Nat.succ_pos start) (by omega)
    have further : skipEmpty (map.occupied beyond) map.capacity (map.capacity + 2) start =
        some (start + 1, [start]) := by
      rw [skipEmpty, if_neg isOccupied, if_pos (by omega)]
    have elsewhere : index ≠ start := by
      rintro rfl
      exact isOccupied (before.isOccupied positive)
    have lt := before.lt
    refine ⟨index, start :: reads, ?_, ⟨by omega, fun between low high => ?_, before.isOccupied⟩,
      List.mem_cons_self⟩
    · simp [advance, further, isMoved]
    · exact before.skipped between low (Nat.lt_succ_of_lt high)

end Steps

/-! ## Walks -/

section Walks

variable {map : FixedMap Key T} {beyond : Nat → Bool} {index : Nat}

theorem walkTo_pairs (counted : Counted map) {fuel : Nat} (place : Place map beyond index)
    (enough : map.capacity < index + fuel) :
    ∃ reads, map.walkTo beyond map.capacity fuel index =
        some ((map.data.drop index).reduceOption.map some, reads) ∧
      ∀ read ∈ reads, read < map.capacity := by
  induction fuel generalizing index with
  | zero => exact absurd enough (Nat.not_lt.mpr place.le)
  | succ fuel ih =>
      rw [walkTo]
      by_cases atEnd : index = map.capacity
      · rw [if_pos atEnd, atEnd, List.drop_eq_nil_of_le (Nat.le_of_eq counted.data_length)]
        exact ⟨[], rfl, List.forall_mem_nil _⟩
      rw [if_neg atEnd]
      obtain ⟨inside, isOccupied⟩ := place.resolve_left atEnd
      obtain ⟨entry, isEntry, behind, -⟩ := pairs_of_occupied counted inside isOccupied
      obtain ⟨next, reads, isMoved, first, within⟩ := advance_forth inside isOccupied
      have le := first.le
      obtain ⟨later, isWalk, laterWithin⟩ := ih first.place (by omega)
      have visited : map.dereference index = (some entry, [index]) := by
        rw [dereference, if_neg (Nat.not_le.mpr inside), isEntry]
      rw [isMoved, visited, behind,
        (pairs_of_skipped counted first.le first.inside first.skipped).1]
      refine ⟨[index] ++ (reads ++ later), by rw [Option.bind_some, isWalk]; rfl, ?_⟩
      exact List.forall_mem_append.mpr ⟨List.forall_mem_singleton.mpr inside,
        List.forall_mem_append.mpr ⟨within, laterWithin⟩⟩

theorem walkBackTo_pairs (counted : Counted map) {fuel first : Nat}
    (isFirst : FirstFrom (map.occupied beyond) map.capacity 0 first)
    (place : Place map beyond index) (enough : index < fuel) :
    ∃ reads, map.walkBackTo beyond first fuel index =
        some ((map.data.take index).reduceOption.reverse.map some, reads) ∧
      (index = first → reads = []) ∧ (index ≠ first → index ∈ reads) := by
  induction fuel generalizing index with
  | zero => exact absurd enough (Nat.not_lt_zero index)
  | succ fuel ih =>
      rw [walkBackTo]
      by_cases atStart : index = first
      · rw [if_pos atStart, atStart,
          (pairs_of_skipped counted isFirst.le isFirst.inside isFirst.skipped).2]
        exact ⟨[], rfl, fun _ => rfl, fun elsewhere => absurd rfl elsewhere⟩
      rw [if_neg atStart]
      -- the place is behind the first occupied bucket, and so is the one before it
      have behind : first < index := by
        have le := isFirst.inside
        by_contra notBehind
        rcases place with atEnd | ⟨-, isOccupied⟩
        · omega
        · rw [isFirst.skipped index (Nat.zero_le _) (by omega)] at isOccupied
          cases isOccupied
      have placeLe := place.le
      have firstOccupied := isFirst.isOccupied (by omega)
      obtain ⟨before, reads, isMoved, last, isRead⟩ := advance_back (Nat.zero_lt_of_lt behind) place
      have lt := last.lt
      have notPassed : first ≤ before := by
        by_contra passed
        rw [last.skipped first (by omega) behind] at firstOccupied
        cases firstOccupied
      have isOccupied : map.occupied beyond before = true := by
        rcases Nat.eq_zero_or_pos before with zero | positive
        · rwa [show before = first by omega]
        · exact last.isOccupied positive
      have inside : before < map.capacity := by omega
      obtain ⟨entry, isEntry, -, upTo⟩ := pairs_of_occupied counted inside isOccupied
      obtain ⟨later, isWalk, -⟩ := ih (.inr ⟨inside, isOccupied⟩) (by omega)
      have visited : map.dereference before = (some entry, [before]) := by
        rw [dereference, if_neg (Nat.not_le.mpr inside), isEntry]
      rw [isMoved, Option.bind_some, visited, Option.bind_some, isWalk,
        (pairs_of_skipped counted lt placeLe last.skipped).2, upTo, List.reverse_append]
      exact ⟨reads ++ ([before] ++ (reads ++ later)), rfl, fun same => absurd same atStart,
        fun _ => List.mem_append_left _ isRead⟩

/-- The walk from `begin()` to `end()` visits the stored pairs and only reads buckets. -/
theorem walk_entries (beyond : Nat → Bool) (counted : Counted map) (positive : 0 < map.capacity) :
    ∃ reads, map.walk beyond = some (map.entries.map some, reads) ∧
      ∀ index ∈ reads, index < map.capacity := by
  obtain ⟨first, firstReads, isBegin, isFirst, firstWithin⟩ := begin_first beyond positive
  obtain ⟨lastReads, isEnd, lastWithin⟩ := last_eq beyond counted positive
  obtain ⟨reads, isWalk, within⟩ : ∃ reads,
      map.walkTo beyond map.capacity (map.capacity + 1) first =
          some ((map.data.drop first).reduceOption.map some, reads) ∧
        ∀ read ∈ reads, read < map.capacity :=
    walkTo_pairs counted isFirst.place (by omega)
  rw [← (pairs_of_skipped counted isFirst.le isFirst.inside isFirst.skipped).1,
    List.drop_zero] at isWalk
  refine ⟨firstReads ++ (lastReads ++ reads), by simp [walk, isBegin, isEnd, isWalk, entries], ?_⟩
  exact List.forall_mem_append.mpr ⟨firstWithin, List.forall_mem_append.mpr ⟨lastWithin, within⟩⟩

/-- The walk from `rbegin()` to `rend()` visits the stored pairs in the opposite order.  If there is
one, it reads the bucket behind the last one. -/
theorem reverseWalk_entries (beyond : Nat → Bool) (counted : Counted map)
    (positive : 0 < map.capacity) :
    ∃ reads, map.reverseWalk beyond = some (map.entries.reverse.map some, reads) ∧
      (map.size = 0 → ∀ index ∈ reads, index < map.capacity) ∧
      (map.size ≠ 0 → map.capacity ∈ reads) := by
  obtain ⟨first, firstReads, isBegin, isFirst, firstWithin⟩ := begin_first beyond positive
  obtain ⟨lastReads, isEnd, lastWithin⟩ := last_eq beyond counted positive
  obtain ⟨reads, isWalk, nothing, behind⟩ : ∃ reads,
      map.walkBackTo beyond first (map.capacity + 1) map.capacity =
          some ((map.data.take map.capacity).reduceOption.reverse.map some, reads) ∧
        (map.capacity = first → reads = []) ∧ (map.capacity ≠ first → map.capacity ∈ reads) :=
    walkBackTo_pairs counted isFirst (.inl rfl) (Nat.lt_succ_self _)
  rw [List.take_of_length_le (Nat.le_of_eq counted.data_length)] at isWalk
  have pairs := (pairs_of_skipped counted isFirst.le isFirst.inside isFirst.skipped).1
  rw [List.drop_zero] at pairs
  have size := counted.size_eq
  rw [entries, pairs] at size
  refine ⟨lastReads ++ (firstReads ++ reads),
    by simp [reverseWalk, isBegin, isEnd, isWalk, entries], fun isEmpty => ?_, fun nonempty => ?_⟩
  · have atEnd : map.capacity = first := by
      by_contra elsewhere
      have inside : first < map.capacity := Nat.lt_of_le_of_ne isFirst.inside (Ne.symm elsewhere)
      obtain ⟨entry, -, stored, -⟩ := pairs_of_occupied counted inside (isFirst.isOccupied inside)
      rw [stored, List.length_cons, isEmpty] at size
      omega
    rw [nothing atEnd, List.append_nil]
    exact List.forall_mem_append.mpr ⟨lastWithin, firstWithin⟩
  · have elsewhere : map.capacity ≠ first := by
      rintro atEnd
      rw [← atEnd, List.drop_eq_nil_of_le (Nat.le_of_eq counted.data_length)] at size
      exact nonempty size
    exact List.mem_append_right _ (List.mem_append_right _ (behind elsewhere))

theorem walksWell_iff (beyond : Nat → Bool) (counted : Counted map) (positive : 0 < map.capacity) :
    WalksWell map beyond ↔ map.size = 0 := by
  obtain ⟨reads, isWalk, onlyBuckets, behind⟩ := reverseWalk_entries beyond counted positive
  constructor
  · intro walksWell
    obtain ⟨others, isOther, within⟩ := walksWell.backwards
    rw [isWalk, Option.some.injEq, Prod.mk.injEq] at isOther
    rw [← isOther.2] at within
    by_contra nonempty
    exact Nat.lt_irrefl _ (within map.capacity (behind nonempty))
  · intro isEmpty
    exact ⟨walk_entries beyond counted positive, reads, isWalk, onlyBuckets isEmpty⟩

end Walks

/-! ## Reachable maps -/

section Reachable

variable {map : FixedMap Key T} {index size : Nat} {slot : Option (Key × T)}

theorem Counted.set (counted : Counted map) (inside : index < map.data.length)
    (balanced : size + (map.data[index]).toList.length = map.size + slot.toList.length) :
    Counted { map with data := map.data.set index slot, size } := by
  have before := counted.size_eq
  rw [entries_eq inside, List.length_append, List.length_append] at before
  refine ⟨by rw [List.length_set, counted.data_length], ?_⟩
  rw [entries, entries_split inside, List.length_append, List.length_append]
  dsimp only
  omega

theorem Counted.clear (counted : Counted map) : Counted map.clear := by
  refine ⟨by rw [FixedMap.clear, List.length_map, counted.data_length], ?_⟩
  rw [FixedMap.clear, entries, List.map_const', List.reduceOption_replicate_none]
  rfl

theorem counted_replicate (capacity : Nat) :
    Counted (⟨List.replicate capacity none, capacity, 0⟩ : FixedMap Key T) := by
  refine ⟨List.length_replicate, ?_⟩
  rw [entries, List.reduceOption_replicate_none]
  rfl

theorem Counted.assignAt (counted : Counted map) (index : Nat) (value : T) :
    Counted (map.assignAt index value) := by
  rw [FixedMap.assignAt]
  by_cases inside : index < map.data.length
  · apply counted.set inside
    rw [List.getD_eq_getElem?_getD, List.getElem?_eq_getElem inside, Option.getD_some]
    cases map.data[index] <;> rfl
  · rw [List.set_eq_of_length_le (Nat.le_of_not_lt inside)]
    exact counted

variable [DecidableEq Key] (hashKey : Key → Nat)

theorem Counted.emplace (counted : Counted map) (key : Key) (value : T) :
    Counted (map.emplace hashKey key value).1 := by
  rw [FixedMap.emplace]
  cases map.findMatchingBucket hashKey key with
  | some index => exact counted
  | none =>
      obtain ⟨distance, -, -, free, found⟩ | ⟨-, full⟩ :=
        findEmptyBucket_cases hashKey counted.data_length key
      · rw [found]
        obtain ⟨inside, slotEq⟩ := List.getElem?_eq_some_iff.mp free
        exact counted.set inside (by rw [slotEq]; rfl)
      · rw [full]
        exact counted

theorem Counted.emplaceAll (counted : Counted map) (buckets : List (Option (Key × T))) :
    Counted (map.emplaceAll hashKey buckets).1 := by
  induction buckets generalizing map with
  | nil => exact counted
  | cons bucket buckets ih =>
      cases bucket with
      | none => exact ih counted
      | some entry =>
          have emplaced := counted.emplace hashKey entry.1 entry.2
          rw [FixedMap.emplaceAll]
          cases result : map.emplace hashKey entry.1 entry.2 with
          | mk after outcome =>
              rw [result] at emplaced
              cases outcome with
              | error code => exact emplaced
              | ok done => exact ih emplaced

theorem Counted.subscript [Inhabited T] (counted : Counted map) (key : Key) :
    Counted (map.subscript hashKey key).1 := by
  rw [FixedMap.subscript]
  cases map.findMatchingBucket hashKey key with
  | some index => exact counted
  | none =>
      have emplaced := counted.emplace hashKey key default
      cases result : map.emplace hashKey key default with
      | mk after outcome =>
          rw [result] at emplaced
          cases outcome with
          | error code => exact emplaced
          | ok done =>
              dsimp only
              cases after.findMatchingBucket hashKey key <;> exact emplaced

theorem Counted.erase (counted : Counted map) (key : Key) : Counted (map.erase hashKey key).1 := by
  rw [FixedMap.erase]
  cases found : map.findMatchingBucket hashKey key with
  | none => exact counted
  | some index =>
      obtain ⟨value, stored⟩ := stored_of_find found
      obtain ⟨inside, slotEq⟩ := List.getElem?_eq_some_iff.mp stored
      have size := counted.size_eq
      rw [stored.entries_eq, List.length_append, List.length_cons] at size
      apply counted.set inside
      rw [slotEq, Option.toList_some, Option.toList_none, List.length_singleton, List.length_nil]
      omega

theorem Counted.answer [DecidableEq ι] [Inhabited T] {store : ι → FixedMap Key T}
    (counted : ∀ name, Counted (store name)) (target : ι) (call : Call ι Key T) :
    Counted (answer hashKey store target call).1 := by
  have here := counted target
  cases call with
  | emplace key value => exact here.emplace hashKey key value
  | insertOrAssign key value =>
      rw [FixedMap.answer, insertOrAssign]
      cases (store target).findMatchingBucket hashKey key with
      | some index => exact here.assignAt index value
      | none => exact here.emplace hashKey key value
  | subscript key => exact here.subscript hashKey key
  | subscriptAssign key value =>
      have subscripted := here.subscript hashKey key
      rw [FixedMap.answer]
      cases result : (store target).subscript hashKey key with
      | mk after outcome =>
          rw [result] at subscripted
          cases outcome with
          | error code => exact subscripted
          | ok index => exact subscripted.assignAt index value
  | update key value =>
      rw [FixedMap.answer, FixedMap.update]
      cases (store target).findMatchingBucket hashKey key with
      | some index => exact here.assignAt index value
      | none => exact here
  | erase key => exact here.erase hashKey key
  | clear => exact here.clear
  | reserve capacity allocated =>
      rw [FixedMap.answer, FixedMap.reserve]
      split
      · cases allocated with
        | false => exact here
        | true => exact (counted_replicate capacity).emplaceAll hashKey (store target).data
      · exact here
  | copyFrom source =>
      rw [FixedMap.answer, FixedMap.copyFrom]
      split
      · exact here
      · exact here.clear.emplaceAll hashKey _

theorem counted_run [DecidableEq ι] [Inhabited T] (ops : List (Op ι Key T))
    (name : ι) : Counted ((system hashKey).run (fun _ => create) ops name) := by
  have step : ∀ (store : ι → FixedMap Key T) (op : Op ι Key T), (∀ name, Counted (store name)) →
      ∀ name, Counted (((system hashKey).step store op).1 name) := by
    intro store op counted name
    simp only [system]
    by_cases called : name = op.target
    · rw [called, Function.update_self]
      exact Counted.answer hashKey counted op.target op.call
    · rw [Function.update_of_ne called]
      exact counted name
  exact (system hashKey).invariant_run_of_forall step (fun _ => ⟨rfl, rfl⟩) ops name

/-- For every map with a bucket that calls lead to, and every memory behind its buckets: the walks
in both directions end and visit each stored pair once, in opposite orders, and the walk forwards
only reads buckets.  The walk backwards does so exactly if the map is empty. -/
theorem walksWell_iff_empty [DecidableEq ι] [Inhabited T]
    (ops : List (Op ι Key T)) (name : ι) (beyond : Nat → Bool) :
    let map := (system hashKey).run (fun _ => create) ops name
    1 ≤ map.capacity → (∃ reads, map.walk beyond = some (map.entries.map some, reads) ∧
        ∀ index ∈ reads, index < map.capacity) ∧
      (∃ reads, map.reverseWalk beyond = some (map.entries.reverse.map some, reads)) ∧
      (WalksWell map beyond ↔ map.size = 0) := by
  intro map positive
  have counted := counted_run hashKey ops name
  obtain ⟨reads, isWalk, -⟩ := reverseWalk_entries beyond counted positive
  exact ⟨walk_entries beyond counted positive, ⟨reads, isWalk⟩,
    walksWell_iff beyond counted positive⟩

/-- A map of four buckets with two pairs, of which the first one was erased and stored again. -/
def twoPairs : List (Op Unit Nat Char) :=
  [⟨(), .reserve 4 true⟩, ⟨(), .emplace 1 'a'⟩, ⟨(), .emplace 3 'b'⟩, ⟨(), .erase 1⟩,
    ⟨(), .emplace 1 'c'⟩]

/-- A map of two buckets without a pair, and one with two pairs, which are walked through both
ways. -/
theorem walksWell_iff_empty_reserved :
    let map := (system id).run (fun _ => create) twoPairs ()
    WalksWell ((system id).run (fun _ => create) [(⟨(), .reserve 2 true⟩ : Op Unit Nat Char)] ())
        (fun _ => false) ∧
      (∃ reads, map.walk (fun _ => false) = some ([some (1, 'c'), some (3, 'b')], reads) ∧
        ∀ index ∈ reads, index < map.capacity) ∧
      (∃ reads, map.reverseWalk (fun _ => false) = some ([some (3, 'b'), some (1, 'c')], reads)) ∧
      ¬WalksWell map (fun _ => false) := by
  obtain ⟨forwards, backwards, isWell⟩ :=
    walksWell_iff_empty id twoPairs () (fun _ => false) (by decide)
  exact ⟨(walksWell_iff_empty id [⟨(), .reserve 2 true⟩] () (fun _ => false) (by decide)).2.2.mpr
    rfl,
    forwards, backwards, fun walksWell => absurd (isWell.mp walksWell) (by decide)⟩

/-- The walk backwards over the only pair of a map reads the bucket behind it. -/
theorem reverse_walk_reads_behind :
    let map := (system id).run (fun _ => create)
      [(⟨(), .reserve 1 true⟩ : Op Unit Nat Char), ⟨(), .emplace 0 'a'⟩] ()
    1 ≤ map.capacity ∧
      map.reverseWalk (fun _ => false) = some ([some (0, 'a')], [0, 0, 1, 1, 0, 1, 1]) ∧
      ¬WalksWell map (fun _ => false) := by
  have reads : ((system id).run (fun _ => create)
      [(⟨(), .reserve 1 true⟩ : Op Unit Nat Char), ⟨(), .emplace 0 'a'⟩] ()).reverseWalk
        (fun _ => false) = some ([some (0, 'a')], [0, 0, 1, 1, 0, 1, 1]) := by
    decide
  refine ⟨by decide, reads, fun walksWell => ?_⟩
  obtain ⟨others, isWalk, within⟩ := walksWell.backwards
  rw [reads, Option.some.injEq, Prod.mk.injEq] at isWalk
  exact absurd (within 1 (isWalk.2 ▸ by decide)) (by decide)

end Reachable

end Gxf.Common.FixedMap
