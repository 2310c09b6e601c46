import Mathlib.Data.List.Induction
import Mathlib.Data.List.Perm.Basic

/-!
# Removal by swapping with the last element

An unordered list gives up an element in constant time: the last one takes its place.
Several elements can be removed one after the other when their positions are visited from
the last to the first.
-/

namespace Gxf.Lib

variable {Elem : Type*}

/-- The last element takes the place of the one at a position. -/
def swapRemove (list : List Elem) (position : Nat) : List Elem :=
  match list.getLast? with
  | some last => (list.set position last).dropLast
  | none => list

/-- Removals at some positions, from the last position to the first. -/
def sweep (positions : List Nat) (list : List Elem) : List Elem :=
  positions.foldr (fun position swept => swapRemove swept position) list

theorem length_swapRemove_le (list : List Elem) (position : Nat) :
    (swapRemove list position).length ≤ list.length := by
  rw [swapRemove]
  split
  next =>
    rw [List.length_dropLast, List.length_set]
    exact Nat.sub_le _ _
  next => exact Nat.le_refl _

theorem length_sweep_le (positions : List Nat) (list : List Elem) :
    (sweep positions list).length ≤ list.length := by
  induction positions with
  | nil => exact Nat.le_refl _
  | cons position rest ih => exact Nat.le_trans (length_swapRemove_le _ position) ih

theorem swapRemove_append_cons (front : List Elem) (removed : Elem) (back : List Elem) :
    ∃ rest, rest.Perm back ∧ swapRemove (front ++ removed :: back) front.length = front ++
    rest := by
  rcases List.eq_nil_or_concat' back with rfl | ⟨middle, last, rfl⟩
  · exact ⟨[], List.Perm.refl _, by simp [swapRemove]⟩
  · refine ⟨last :: middle, (List.perm_append_singleton last middle).symm, ?_⟩
    have isLast : (front ++ removed :: (middle ++ [last])).getLast? = some last := by
      rw [← List.cons_append, ← List.append_assoc, List.getLast?_concat]
    have isSet : (front ++ removed :: (middle ++ [last])).set front.length last =
        front ++ last :: middle ++ [last] := by
      simp [List.set_append_right]
    simp only [swapRemove, isLast, isSet, List.dropLast_concat]

theorem findIdxs_congr {gone other : Elem → Bool} {list : List Elem} (start : Nat)
    (same : ∀ element ∈ list, gone element = other element) :
    list.findIdxs gone start = list.findIdxs other start := by
  induction list generalizing start with
  | nil => rfl
  | cons element rest ih =>
      obtain ⟨here, later⟩ := List.forall_mem_cons.mp same
      rw [List.findIdxs_cons, List.findIdxs_cons, here, ih (start + 1) later]

theorem sweep_findIdxs (gone : Elem → Bool) (front back : List Elem) :
    (sweep (front.findIdxs gone) (front ++ back)).Perm
      (front.filter (fun element => !gone element) ++ back) := by
  induction front using List.reverseRecOn generalizing back with
  | nil => exact List.Perm.refl _
  | append_singleton front element ih =>
      rw [List.append_assoc, List.findIdxs_append, List.findIdxs_singleton, Nat.zero_add,
        List.filter_append]
      cases isGone : gone element with
      | false =>
          rw [if_neg Bool.false_ne_true, List.append_nil]
          have kept : [element].filter (fun element => !gone element) = [element] := by
            simp [isGone]
          rw [kept, List.append_assoc]
          exact ih ([element] ++ back)
      | true =>
          obtain ⟨rest, sameRest, removed⟩ := swapRemove_append_cons front element back
          have dropped : [element].filter (fun element => !gone element) = [] := by
            simp [isGone]
          rw [if_pos rfl, sweep, List.foldr_append, dropped, List.append_nil]
          change (sweep (front.findIdxs gone) (swapRemove (front ++ element :: back)
            front.length)).Perm _
          rw [removed]
          exact (ih rest).trans (sameRest.append_left _)

end Gxf.Lib
