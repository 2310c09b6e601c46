import Mathlib.Data.List.Sort

/-!
# Order statistics

The value of a rank is one with at most as many smaller values as the rank says, and more values
that are not larger.  Sorting puts it at its rank.
-/

namespace Gxf.Lib

variable {α : Type*} [LinearOrder α]

/-- A value has a rank, counted from the smallest one. -/
structure IsOrderStatistic (values : List α) (rank : Nat) (value : α) : Prop where
  mem : value ∈ values
  smaller : values.countP (· < value) ≤ rank
  notLarger : rank < values.countP (· ≤ value)

theorem IsOrderStatistic.of_perm {values others : List α} {rank : Nat} {value : α}
    (perm : values.Perm others) (statistic : IsOrderStatistic values rank value) :
    IsOrderStatistic others rank value where
  mem := perm.mem_iff.mp statistic.mem
  smaller := perm.countP_eq _ ▸ statistic.smaller
  notLarger := perm.countP_eq _ ▸ statistic.notLarger

theorem isOrderStatistic_of_sorted {before after : List α} {value : α}
    (sorted : (before ++ value :: after).Pairwise (· ≤ ·)) :
    IsOrderStatistic (before ++ value :: after) before.length value := by
  obtain ⟨-, behind, across⟩ := List.pairwise_append.mp sorted
  have later := (List.pairwise_cons.mp behind).1
  refine ⟨List.mem_append_right _ List.mem_cons_self, ?_, ?_⟩
  · have none : (value :: after).countP (· < value) = 0 := by
      apply List.countP_eq_zero.mpr
      intro other member
      rcases List.mem_cons.mp member with rfl | member
      · simp
      · simpa using later other member
    rw [List.countP_append, none]
    exact List.countP_le_length
  · have all : before.countP (· ≤ value) = before.length := by
      apply List.countP_eq_length.mpr
      intro other member
      exact decide_eq_true (across other member value List.mem_cons_self)
    have here : (value :: after).countP (· ≤ value) = after.countP (· ≤ value) + 1 :=
      List.countP_cons_of_pos (decide_eq_true le_rfl)
    rw [List.countP_append, all, here]
    exact Nat.lt_add_of_pos_right (Nat.succ_pos _)

theorem exists_isOrderStatistic_mergeSort {values : List α} {rank : Nat}
    (inRange : rank < values.length) :
    ∃ value, (values.mergeSort (· ≤ ·))[rank]? = some value ∧
      IsOrderStatistic values rank value := by
  have perm := List.mergeSort_perm values (· ≤ ·)
  have within : rank < (values.mergeSort (· ≤ ·)).length := by rwa [perm.length_eq]
  have sorted : (values.mergeSort (· ≤ ·)).Pairwise (· ≤ ·) := List.pairwise_mergeSort' _ _
  refine ⟨_, List.getElem?_eq_getElem within, ?_⟩
  have split := List.take_append_drop rank (values.mergeSort (· ≤ ·))
  rw [List.drop_eq_getElem_cons within] at split
  rw [← split] at sorted
  have length : ((values.mergeSort (· ≤ ·)).take rank).length = rank :=
    List.length_take_of_le within.le
  have statistic := isOrderStatistic_of_sorted sorted
  rw [split, length] at statistic
  exact statistic.of_perm perm

/-- Among values in strict order, the one of a rank is not behind it. -/
theorem IsOrderStatistic.position_le {values : List α} {rank position : Nat} {value : α}
    (sorted : values.Pairwise (· < ·)) (statistic : IsOrderStatistic values rank value)
    (found : values[position]? = some value) : position ≤ rank := by
  obtain ⟨within, rfl⟩ := List.getElem?_eq_some_iff.mp found
  have split := List.take_append_drop position values
  rw [List.drop_eq_getElem_cons within] at split
  rw [← split] at sorted
  obtain ⟨-, -, across⟩ := List.pairwise_append.mp sorted
  have all : (values.take position).countP (· < values[position]) = position := by
    have before := List.countP_eq_length.mpr fun other member =>
      decide_eq_true (across other member _ List.mem_cons_self)
    rw [before, List.length_take_of_le within.le]
  calc position = (values.take position).countP (· < values[position]) := all.symm
    _ ≤ values.countP (· < values[position]) := (List.take_sublist _ _).countP_le
    _ ≤ rank := statistic.smaller

end Gxf.Lib
