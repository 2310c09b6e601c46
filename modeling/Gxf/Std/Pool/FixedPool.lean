import Mathlib.Data.Finset.Basic
import Gxf.Lib.Run
import Gxf.Lib.InversePair

/-!
# The fixed pool of indices

`FixedPoolUint64` hands out the indices `0 .. n-1`.  `available` lists all indices,
the handed out ones before position `next`, and `indices` stores the position of
each index in it.  Indices may come back in any order, several times, or without
ever having been handed out.
-/

namespace Gxf.Std

open Gxf.Lib

/-- The fields of the pool.  The two arrays have `size` entries. -/
structure FixedPoolUint64 where
  size : Nat
  next : Nat
  available : List Nat
  indices : List Nat
  deriving DecidableEq, Repr

namespace FixedPoolUint64

/-- The error codes of the pool. -/
inductive Error where
  | kUnderflow
  | kOverflow
  | kInvalidUid
  | kOutOfMemory
  deriving DecidableEq, Repr

/-- `allocate(size)`; the flags say whether the two arrays could be allocated. -/
def allocate (size : Nat) (availableOk indicesOk : Bool := true) :
    FixedPoolUint64 × Except Error Unit :=
  if size > 0 ∧ (!availableOk || !indicesOk) then
    (⟨0, 0, [], []⟩, .error .kOutOfMemory)
  else (⟨size, 0, List.range size, List.range size⟩, .ok ())

/-- `is_available()`. -/
def isAvailable (pool : FixedPoolUint64) : Bool := pool.next < pool.size

/-- `capacity()`. -/
def capacity (pool : FixedPoolUint64) : Nat := pool.size

/-- `size()`: how many indices are left. -/
def left (pool : FixedPoolUint64) : Nat := pool.size - pool.next

/-- `pop()`. -/
def pop (pool : FixedPoolUint64) : FixedPoolUint64 × Except Error Nat :=
  if pool.next = pool.size then (pool, .error .kUnderflow)
  else ({ pool with next := pool.next + 1 }, .ok (pool.available.getD pool.next 0))

/-- `push(item)`. -/
def push (pool : FixedPoolUint64) (item : Nat) : FixedPoolUint64 × Except Error Unit :=
  if item ≥ pool.size then (pool, .error .kOverflow)
  else
    let itemIndex := pool.indices.getD item 0
    if itemIndex ≥ pool.next then (pool, .error .kInvalidUid)
    else
      let next := pool.next - 1
      let other := pool.available.getD next 0
      ({ pool with
          next
          available := swapAt pool.available itemIndex next 0
          indices := swapAt pool.indices item other 0 }, .ok ())

/-- The two operations of a pool in use. -/
inductive Op where
  | pop
  | push (item : Nat)
  deriving DecidableEq, Repr

/-- Their results. -/
inductive Out where
  | popped (result : Except Error Nat)
  | pushed (result : Except Error Unit)

def system : System FixedPoolUint64 Op Out where
  step pool
    | .pop => (pool.pop.1, .popped pool.pop.2)
    | .push item => ((pool.push item).1, .pushed (pool.push item).2)

/-- The indices in the hands of callers, as the answers tell it. -/
def ledger (handedOut : Finset Nat) : Op → Out → Finset Nat
  | _, .popped (.ok index) => insert index handedOut
  | .push item, .pushed (.ok ()) => handedOut.erase item
  | _, _ => handedOut

/-- The indices stored behind `next`. -/
def free (pool : FixedPoolUint64) : Finset Nat := (pool.available.drop pool.next).toFinset

/-! ## The invariant -/

/-- `available` and `indices` are mutually inverse permutations of `0 .. n-1`, and
the handed out indices are exactly those in front of `next`. -/
structure Inv (n : Nat) (pool : FixedPoolUint64) (handedOut : Finset Nat) : Prop where
  size_eq : pool.size = n
  next_le : pool.next ≤ n
  available_length : pool.available.length = n
  indices_length : pool.indices.length = n
  inverse : InversePair (fun index => pool.available.getD index 0)
    (fun item => pool.indices.getD item 0) (Set.Iio n) (Set.Iio n)
  handedOut_iff : ∀ item, item ∈ handedOut ↔ item < n ∧ pool.indices.getD item 0 < pool.next

theorem getD_range {n index : Nat} (inside : index < n) : (List.range n).getD index 0 = index := by
  simp [inside]

theorem inv_allocate (n : Nat) : Inv n (allocate n).1 ∅ where
  size_eq := by simp [allocate]
  next_le := by simp [allocate]
  available_length := by simp [allocate]
  indices_length := by simp [allocate]
  inverse := by
    simp only [allocate, Bool.not_true, Bool.or_self, Bool.false_eq_true, and_false, if_false]
    constructor
    · intro index inside
      simpa only [getD_range inside] using inside
    · intro index inside
      simpa only [getD_range inside] using inside
    · constructor <;>
        · intro index inside
          simp only [getD_range inside]
  handedOut_iff := by simp [allocate]

variable {n : Nat} {pool : FixedPoolUint64} {handedOut : Finset Nat}

namespace Inv

section

variable (inv : Inv n pool handedOut)
include inv

/-- A position in front of `next` holds a handed out index, any other one a free
index. -/
theorem available_mem_iff {index : Nat} (inside : index < n) :
    pool.available.getD index 0 ∈ handedOut ↔ index < pool.next := by
  have image := inv.inverse.maps_forth (Set.mem_Iio.mpr inside)
  have back := inv.inverse.inverse.1 (Set.mem_Iio.mpr inside)
  simp only [Set.mem_Iio] at image
  rw [inv.handedOut_iff]
  simp only at back
  rw [back]
  exact and_iff_right image

/-- The indices behind `next` are those nobody holds. -/
theorem free_eq : pool.free = Finset.range n \ handedOut := by
  ext item
  simp only [free, List.mem_toFinset, Finset.mem_sdiff, Finset.mem_range]
  constructor
  · intro stored
    obtain ⟨offset, bound, itemEq⟩ := List.getElem_of_mem stored
    rw [List.length_drop, inv.available_length] at bound
    have inside : pool.next + offset < n := by omega
    have itemGet : pool.available.getD (pool.next + offset) 0 = item := by
      rw [← itemEq, List.getElem_drop]
      exact List.getD_eq_getElem _ _ (by rw [inv.available_length]; exact inside)
    have held := inv.available_mem_iff inside
    rw [itemGet] at held
    have image := inv.inverse.maps_forth (Set.mem_Iio.mpr inside)
    simp only [itemGet, Set.mem_Iio] at image
    exact ⟨image, fun isHeld => by have := held.mp isHeld; omega⟩
  · rintro ⟨itemInside, notHeld⟩
    have position := inv.inverse.maps_back (Set.mem_Iio.mpr itemInside)
    have itemGet := inv.inverse.inverse.2 (Set.mem_Iio.mpr itemInside)
    simp only [Set.mem_Iio] at position itemGet
    have behind : pool.next ≤ pool.indices.getD item 0 := by
      by_contra before
      exact notHeld ((inv.handedOut_iff item).mpr ⟨itemInside, by omega⟩)
    rw [List.mem_iff_getElem?]
    refine ⟨pool.indices.getD item 0 - pool.next, ?_⟩
    rw [List.getElem?_drop, Nat.add_sub_cancel' behind]
    rw [List.getD_eq_getElem _ _ (by rw [inv.available_length]; exact position)] at itemGet
    rw [List.getElem?_eq_getElem (by rw [inv.available_length]; exact position), itemGet]

/-- Everything is handed out exactly when `next` has reached the end. -/
theorem all_handedOut_iff : handedOut = Finset.range n ↔ pool.next = pool.size := by
  rw [inv.size_eq]
  constructor
  · intro all
    by_contra notEnd
    have inside : pool.next < n := Nat.lt_of_le_of_ne inv.next_le notEnd
    have image := inv.inverse.maps_forth (Set.mem_Iio.mpr inside)
    have held := (inv.available_mem_iff inside).mp (by rw [all, Finset.mem_range]; exact image)
    omega
  · intro atEnd
    ext item
    rw [inv.handedOut_iff, Finset.mem_range, atEnd]
    refine ⟨And.left, fun inside => ⟨inside, ?_⟩⟩
    exact inv.inverse.maps_back (Set.mem_Iio.mpr inside)

/-- `pop` on a pool with a free index hands out one that nobody holds. -/
theorem pop (room : pool.next ≠ pool.size) :
    ∃ index, pool.pop = ({ pool with next := pool.next + 1 }, .ok index) ∧ index < n ∧
      index ∉ handedOut ∧ Inv n { pool with next := pool.next + 1 } (insert index handedOut) := by
  have inside : pool.next < n := by
    have := inv.next_le
    have := inv.size_eq
    omega
  have image := inv.inverse.maps_forth (Set.mem_Iio.mpr inside)
  have back := inv.inverse.inverse.1 (Set.mem_Iio.mpr inside)
  simp only [Set.mem_Iio] at image back
  refine ⟨pool.available.getD pool.next 0, by simp [FixedPoolUint64.pop, room], image, ?_,
    inv.size_eq, inside, inv.available_length, inv.indices_length, inv.inverse, ?_⟩
  · rw [inv.available_mem_iff inside]
    exact Nat.lt_irrefl _
  · intro item
    simp only [Finset.mem_insert, inv.handedOut_iff]
    constructor
    · rintro (rfl | ⟨itemInside, before⟩)
      · exact ⟨image, by omega⟩
      · exact ⟨itemInside, by omega⟩
    · rintro ⟨itemInside, before⟩
      have itemGet := inv.inverse.inverse.2 (Set.mem_Iio.mpr itemInside)
      simp only at itemGet
      by_cases atNext : pool.indices.getD item 0 = pool.next
      · left
        rw [← itemGet, atNext]
      · right
        exact ⟨itemInside, by omega⟩

/-- `push` of a held index makes exactly it available again. -/
theorem push {item : Nat} (held : item ∈ handedOut) :
    ∃ after, pool.push item = (after, .ok ()) ∧ Inv n after (handedOut.erase item) := by
  obtain ⟨itemInside, before⟩ := (inv.handedOut_iff item).mp held
  let position := pool.indices.getD item 0
  let next := pool.next - 1
  have nextInside : next < n := by
    have := inv.next_le
    omega
  have positionInside : position < n := by
    have := inv.next_le
    omega
  have itemGet := inv.inverse.inverse.2 (Set.mem_Iio.mpr itemInside)
  have otherInside := inv.inverse.maps_forth (Set.mem_Iio.mpr nextInside)
  simp only [Set.mem_Iio] at itemGet otherInside
  have swapped := inv.inverse.swap (Set.mem_Iio.mpr positionInside) (Set.mem_Iio.mpr nextInside)
  simp only [position, itemGet] at swapped
  let after : FixedPoolUint64 := { pool with
    next
    available := swapAt pool.available position next 0
    indices := swapAt pool.indices item (pool.available.getD next 0) 0 }
  have readAvailable : (fun index => after.available.getD index 0) =
      (fun index => pool.available.getD index 0) ∘ Equiv.swap position next := by
    funext index
    exact getD_swapAt (by rw [inv.available_length]; exact positionInside)
      (by rw [inv.available_length]; exact nextInside) 0 index
  have readIndices : (fun index => after.indices.getD index 0) =
      (fun index => pool.indices.getD index 0) ∘ Equiv.swap item (pool.available.getD next 0) := by
    funext index
    exact getD_swapAt (by rw [inv.indices_length]; exact itemInside)
      (by rw [inv.indices_length]; exact otherInside) 0 index
  refine ⟨after, ?_, inv.size_eq, Nat.le_of_lt nextInside, ?_, ?_, ?_, ?_⟩
  · have notOverflow : ¬item ≥ pool.size := by
      rw [inv.size_eq]
      omega
    simp only [FixedPoolUint64.push, notOverflow, if_false, Nat.not_le.mpr before]
    rfl
  · simp [after, inv.available_length]
  · simp [after, inv.indices_length]
  · rw [readAvailable, readIndices]
    exact swapped
  · intro candidate
    have read := congrFun readIndices candidate
    simp only [Function.comp_apply] at read
    rw [Finset.mem_erase, inv.handedOut_iff, read]
    have otherBack := inv.inverse.inverse.1 (Set.mem_Iio.mpr nextInside)
    simp only at otherBack
    by_cases isItem : candidate = item
    · subst isItem
      rw [Equiv.swap_apply_left, otherBack]
      simp [after]
    by_cases isOther : candidate = pool.available.getD next 0
    · subst isOther
      have notNext : position ≠ next := by
        intro equal
        apply isItem
        rw [← itemGet]
        exact congrArg (fun index => pool.available.getD index 0) equal.symm
      simp only [Equiv.swap_apply_right, otherBack, after]
      constructor
      · rintro ⟨-, inside, -⟩
        exact ⟨inside, by omega⟩
      · rintro ⟨inside, -⟩
        exact ⟨isItem, inside, by omega⟩
    · rw [Equiv.swap_apply_of_ne_of_ne isItem isOther]
      have notNext : candidate < n → pool.indices.getD candidate 0 ≠ next := by
        intro inside equal
        apply isOther
        have back := inv.inverse.inverse.2 (Set.mem_Iio.mpr inside)
        simp only at back
        rw [← back, equal]
      simp only [after]
      constructor
      · rintro ⟨-, inside, beforeNext⟩
        have := notNext inside
        exact ⟨inside, by omega⟩
      · rintro ⟨inside, beforeNext⟩
        exact ⟨isItem, inside, by omega⟩

end

end Inv

/-- What one operation owes to the indices held by callers.  The failing branches
change nothing. -/
def StepCorrect (n : Nat) (state : FixedPoolUint64 × Finset Nat) : Op → Prop
  | .pop =>
      match state.1.pop.2 with
      | .ok index => index < n ∧ index ∉ state.2
      | .error _ => state.2 = Finset.range n ∧ state.1.pop.1 = state.1
  | .push item =>
      match (state.1.push item).2 with
      | .ok _ => item ∈ state.2 ∧ item ∉ state.1.free ∧
          (state.1.push item).1.free = insert item state.1.free
      | .error _ => item ∉ state.2 ∧ (state.1.push item).1 = state.1

theorem push_refused (inv : Inv n pool handedOut) {item : Nat} (notHeld : item ∉ handedOut) :
    ∃ error, pool.push item = (pool, .error error) := by
  by_cases overflow : item ≥ pool.size
  · exact ⟨.kOverflow, by simp only [push, overflow, if_true]⟩
  · have unheld : pool.indices.getD item 0 ≥ pool.next := by
      by_contra before
      rw [inv.handedOut_iff, ← inv.size_eq] at notHeld
      exact notHeld ⟨Nat.lt_of_not_le overflow, Nat.lt_of_not_le before⟩
    exact ⟨.kInvalidUid, by simp only [push, overflow, if_false, unheld, if_true]⟩

theorem inv_step {state : FixedPoolUint64 × Finset Nat} (op : Op) (inv : Inv n state.1 state.2) :
    Inv n ((system.recorded ledger).step state op).1.1
        ((system.recorded ledger).step state op).1.2 ∧ StepCorrect n state op := by
  obtain ⟨pool, handedOut⟩ := state
  cases op with
  | pop =>
      by_cases atEnd : pool.next = pool.size
      · have refused : pool.pop = (pool, .error .kUnderflow) := by simp [pop, atEnd]
        simp only [System.recorded, system, refused, ledger, StepCorrect]
        exact ⟨inv, inv.all_handedOut_iff.mpr atEnd, trivial⟩
      · obtain ⟨index, popped, inside, notHeld, next⟩ := inv.pop atEnd
        simp only [System.recorded, system, popped, ledger, StepCorrect]
        exact ⟨next, inside, notHeld⟩
  | push item =>
      by_cases held : item ∈ handedOut
      · obtain ⟨after, pushed, next⟩ := inv.push held
        have itemInside := ((inv.handedOut_iff item).mp held).1
        simp only [System.recorded, system, pushed, ledger, StepCorrect]
        refine ⟨next, held, ?_, ?_⟩
        · rw [inv.free_eq]
          exact fun isFree => (Finset.mem_sdiff.mp isFree).2 held
        · rw [next.free_eq, inv.free_eq, Finset.sdiff_erase (Finset.mem_range.mpr itemInside)]
      · obtain ⟨error, refused⟩ := push_refused inv held
        simp only [System.recorded, system, refused, ledger, StepCorrect]
        exact ⟨inv, held, trivial⟩

/-- Along every run of pops and pushes the two arrays stay mutually inverse
permutations, the free indices are those nobody holds, and every operation does
what it owes. -/
theorem run_correct (n : Nat) (ops : List Op) :
    let tracked := system.recorded ledger
    let state := tracked.run ((allocate n).1, ∅) ops
    InversePair (fun index => state.1.available.getD index 0)
        (fun item => state.1.indices.getD item 0) (Set.Iio n) (Set.Iio n) ∧
      state.1.free = Finset.range n \ state.2 ∧
      tracked.Along (StepCorrect n) ((allocate n).1, ∅) ops := by
  intro tracked state
  have preserved : ∀ (state : FixedPoolUint64 × Finset Nat) (op : Op), Inv n state.1 state.2 →
      Inv n (tracked.step state op).1.1 (tracked.step state op).1.2 :=
    fun state op inv => (inv_step op inv).1
  let initial : FixedPoolUint64 × Finset Nat := ((allocate n).1, ∅)
  have start : Inv n initial.1 initial.2 := inv_allocate n
  have reached := System.invariant_run_of_forall preserved start ops
  have correct := System.along_of_invariant_of_forall preserved
    (fun state op inv => (inv_step op inv).2) start ops
  exact ⟨reached.inverse, reached.free_eq, correct⟩

end FixedPoolUint64

end Gxf.Std
