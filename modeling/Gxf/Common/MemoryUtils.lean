import Mathlib.Data.List.GetD
import Mathlib.Data.List.Range

/-!
# Construction and relocation of objects in raw storage

Storage is a list of slots.  A slot holds an object once one has been constructed
there, until it is destroyed or moved away.
-/

namespace Gxf.Common

variable {T : Type*}

/-- `Destruct(src)`. -/
def destruct (slots : List (Option T)) (index : Nat) : List (Option T) := slots.set index none

/-- `InplaceConstruct(dst, args)`. -/
def inplaceConstruct (slots : List (Option T)) (index : Nat) (object : T) : List (Option T) :=
  slots.set index (some object)

/-- Move construction of one object into another slot of the same storage. -/
def moveSlot (slots : List (Option T)) (dst src : Nat) : List (Option T) :=
  (slots.set dst (slots.getD src none)).set src none

/-- `ArrayMoveConstruct(dst, src, count)` within one storage. -/
def arrayMoveConstruct (slots : List (Option T)) (dst src count : Nat) : List (Option T) :=
  let reverse := dst > src ∧ dst < src + count
  (List.range count).foldl (fun slots i =>
    let index := if reverse then count - 1 - i else i
    moveSlot slots (dst + index) (src + index)) slots

/-- `ArrayCopyConstruct(dst, src, count)` from another storage.  Moving between two
storages fills the target in the same way. -/
def arrayCopyConstruct (slots : List (Option T)) (dst : Nat) (source : List (Option T))
    (src count : Nat) : List (Option T) :=
  (List.range count).foldl (fun slots i => slots.set (dst + i) (source.getD (src + i) none)) slots

theorem getD_append_length (pre post : List (Option T)) (slot : Option T) :
    (pre ++ slot :: post).getD pre.length none = slot := by
  rw [List.getD_append_right _ _ _ _ (Nat.le_refl _), Nat.sub_self]
  rfl

theorem set_append_length (pre post : List (Option T)) (old new : Option T) :
    (pre ++ old :: post).set pre.length new = pre ++ new :: post := by
  rw [List.set_append_right _ _ (Nat.le_refl _), Nat.sub_self]
  rfl

theorem moveSlot_up (pre post : List (Option T)) (slot : Option T) :
    moveSlot (pre ++ slot :: none :: post) (pre.length + 1) pre.length =
      pre ++ none :: slot :: post := by
  have upper : (pre ++ slot :: none :: post).set (pre.length + 1) slot =
      pre ++ slot :: slot :: post := by
    simp
  rw [moveSlot, getD_append_length, upper, set_append_length]

theorem moveSlot_down (pre post : List (Option T)) (slot : Option T) :
    moveSlot (pre ++ none :: slot :: post) pre.length (pre.length + 1) =
      pre ++ slot :: none :: post := by
  have upper : (pre ++ none :: slot :: post).getD (pre.length + 1) none = slot := by
    simp
  rw [moveSlot, upper, set_append_length]
  simp

theorem arrayMoveConstruct_up (pre block post : List (Option T)) :
    arrayMoveConstruct (pre ++ (block ++ none :: post)) (pre.length + 1) pre.length block.length =
      pre ++ none :: (block ++ post) := by
  have backwards : arrayMoveConstruct (pre ++ (block ++ none :: post)) (pre.length + 1)
      pre.length block.length = (List.range block.length).reverse.foldl
        (fun slots index => moveSlot slots (pre.length + 1 + index) (pre.length + index))
        (pre ++ (block ++ none :: post)) := by
    simp only [arrayMoveConstruct]
    by_cases single : block.length ≤ 1
    · have lengths : block.length = 0 ∨ block.length = 1 := by omega
      cases lengths with
      | inl zero => simp [zero]
      | inr one => simp [one]
    · have reversed : pre.length + 1 > pre.length ∧ pre.length + 1 < pre.length + block.length := by
        omega
      simp only [reversed, and_self, if_true]
      rw [List.range_eq_range', List.reverse_range', List.foldl_map]
      simp only [Nat.zero_add, List.range_eq_range']
  rw [backwards]
  clear backwards
  induction block using List.reverseRecOn generalizing post with
  | nil => rfl
  | append_singleton block slot ih =>
      have moved := moveSlot_up (pre ++ block) post slot
      rw [List.length_append] at moved
      rw [List.length_append, List.length_singleton, List.range_succ, List.reverse_append,
        List.reverse_singleton, List.singleton_append, List.foldl_cons]
      have step : moveSlot (pre ++ (block ++ [slot] ++ none :: post))
          (pre.length + 1 + block.length) (pre.length + block.length) =
            pre ++ (block ++ none :: (slot :: post)) := by
        rw [Nat.add_right_comm]
        simpa using moved
      rw [step, ih]
      simp

theorem arrayMoveConstruct_down (pre block post : List (Option T)) :
    arrayMoveConstruct (pre ++ none :: (block ++ post)) pre.length (pre.length + 1) block.length =
      pre ++ (block ++ none :: post) := by
  have forwards : ¬(pre.length > pre.length + 1 ∧
      pre.length < pre.length + 1 + block.length) := by omega
  simp only [arrayMoveConstruct, if_neg forwards]
  clear forwards
  induction block generalizing pre with
  | nil => rfl
  | cons slot block ih =>
      rw [List.length_cons, List.range_succ_eq_map, List.foldl_cons, List.foldl_map]
      have step : moveSlot (pre ++ none :: (slot :: block ++ post)) (pre.length + 0)
          (pre.length + 1 + 0) = (pre ++ [slot]) ++ none :: (block ++ post) := by
        simpa using moveSlot_down pre (block ++ post) slot
      have shifted := ih (pre ++ [slot])
      rw [List.length_append, List.length_singleton] at shifted
      rw [step]
      simp only [Nat.succ_eq_add_one, Nat.add_comm, Nat.add_left_comm] at shifted ⊢
      rw [shifted]
      simp

theorem arrayCopyConstruct_eq (slots source : List (Option T)) (dst src count : Nat)
    (given : src + count ≤ source.length) (fits : dst + count ≤ slots.length) :
    arrayCopyConstruct slots dst source src count =
      slots.take dst ++ ((source.drop src).take count ++ slots.drop (dst + count)) := by
  induction count with
  | zero => simp [arrayCopyConstruct]
  | succ count ih =>
      have before := ih (by omega) (by omega)
      simp only [arrayCopyConstruct] at before
      rw [arrayCopyConstruct, List.range_succ, List.foldl_append, before]
      simp only [List.foldl_cons, List.foldl_nil]
      have slotInside : dst + count < slots.length := by omega
      have sourceInside : src + count < source.length := by omega
      rw [List.drop_eq_getElem_cons slotInside, ← List.append_assoc]
      have lengths : (slots.take dst ++ (source.drop src).take count).length = dst + count := by
        rw [List.length_append, List.length_take, List.length_take, List.length_drop]
        omega
      have written := set_append_length (slots.take dst ++ (source.drop src).take count)
        (slots.drop (dst + count + 1)) slots[dst + count] (source.getD (src + count) none)
      rw [lengths] at written
      rw [written, List.getD_eq_getElem _ _ sourceInside, List.take_succ_eq_append_getElem
        (by rw [List.length_drop]; omega), List.getElem_drop]
      simp [Nat.add_assoc]

end Gxf.Common
