import Mathlib.Data.Set.Function
import Mathlib.Data.List.GetD

/-!
# Mutually inverse tables

Two tables that invert each other on given index sets stay inverse when two
entries are exchanged in one table and the corresponding entries in the other.
Tables stored as lists exchange entries with `swapAt`.
-/

namespace Gxf.Lib

section Functions

variable {α β : Type*} [DecidableEq α] [DecidableEq β]
variable {forth : α → β} {back : β → α} {source : Set α} {target : Set β}

theorem map_swap (injective : Set.InjOn forth source) {left right : α}
    (leftMem : left ∈ source) (rightMem : right ∈ source) {entry : α}
    (entryMem : entry ∈ source) :
    forth (Equiv.swap left right entry) = Equiv.swap (forth left) (forth right) (forth entry) := by
  by_cases isLeft : entry = left
  · subst isLeft
    rw [Equiv.swap_apply_left, Equiv.swap_apply_left]
  by_cases isRight : entry = right
  · subst isRight
    rw [Equiv.swap_apply_right, Equiv.swap_apply_right]
  have imageLeft : forth entry ≠ forth left := fun equal =>
    isLeft (injective entryMem leftMem equal)
  have imageRight : forth entry ≠ forth right := fun equal =>
    isRight (injective entryMem rightMem equal)
  rw [Equiv.swap_apply_of_ne_of_ne isLeft isRight,
    Equiv.swap_apply_of_ne_of_ne imageLeft imageRight]

theorem swap_mem {left right entry : α} (leftMem : left ∈ source) (rightMem : right ∈ source)
    (entryMem : entry ∈ source) : Equiv.swap left right entry ∈ source := by
  rw [Equiv.swap_apply_def]
  split
  · exact rightMem
  split
  · exact leftMem
  · exact entryMem

/-- Two maps that send two sets into each other and invert each other there. -/
structure InversePair (forth : α → β) (back : β → α) (source : Set α) (target : Set β) : Prop where
  maps_forth : Set.MapsTo forth source target
  maps_back : Set.MapsTo back target source
  inverse : Set.InvOn back forth source target

theorem InversePair.swap (pair : InversePair forth back source target) {left right : α}
    (leftMem : left ∈ source) (rightMem : right ∈ source) :
    InversePair (forth ∘ Equiv.swap left right)
      (back ∘ Equiv.swap (forth left) (forth right)) source target := by
  have leftImage := pair.maps_forth leftMem
  have rightImage := pair.maps_forth rightMem
  have injective := pair.inverse.1.injOn
  constructor
  · intro entry entryMem
    exact pair.maps_forth (swap_mem leftMem rightMem entryMem)
  · intro image imageMem
    exact pair.maps_back (swap_mem leftImage rightImage imageMem)
  · constructor
    · intro entry entryMem
      simp only [Function.comp_apply]
      rw [map_swap injective leftMem rightMem entryMem, Equiv.swap_apply_self]
      exact pair.inverse.1 entryMem
    · intro image imageMem
      have exchanged := swap_mem leftImage rightImage imageMem
      simp only [Function.comp_apply]
      rw [map_swap injective leftMem rightMem (pair.maps_back exchanged),
        pair.inverse.2 exchanged, Equiv.swap_apply_self]

end Functions

section Tables

variable {α : Type*}

/-- `std::swap` of two entries of an array. -/
def swapAt (entries : List α) (left right : Nat) (default : α) : List α :=
  (entries.set left (entries.getD right default)).set right (entries.getD left default)

@[simp] theorem length_swapAt (entries : List α) (left right : Nat) (default : α) :
    (swapAt entries left right default).length = entries.length := by
  simp [swapAt]

theorem getD_set {entries : List α} {index : Nat} (inside : index < entries.length)
    (value default : α) (position : Nat) :
    (entries.set index value).getD position default =
      if position = index then value else entries.getD position default := by
  rw [List.getD_eq_getElem?_getD, List.getD_eq_getElem?_getD, List.getElem?_set]
  by_cases equal : index = position
  · subst equal
    simp [inside]
  · simp [equal, Ne.symm equal]

theorem getD_swapAt {entries : List α} {left right : Nat}
    (leftInside : left < entries.length) (rightInside : right < entries.length)
    (default : α) (position : Nat) :
    (swapAt entries left right default).getD position default =
      entries.getD (Equiv.swap left right position) default := by
  rw [swapAt, getD_set (by simpa using rightInside), getD_set leftInside, Equiv.swap_apply_def]
  by_cases isRight : position = right
  · subst isRight
    by_cases isLeft : position = left
    · simp [isLeft]
    · simp [isLeft]
  · by_cases isLeft : position = left
    · subst isLeft
      simp [isRight]
    · simp [isLeft, isRight]

end Tables

end Gxf.Lib
