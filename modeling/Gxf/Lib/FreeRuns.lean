import Mathlib.Data.List.Basic
import Mathlib.Order.MinMax

/-!
# Runs of free cells

A list of booleans says which cells of an area are free.  Its summary has four parts:
the free run it starts with, the one it ends with, the longest one, and its length.
The summary of a concatenation follows from the summaries of its halves, and suffices
to find the first run of a given size.
-/

namespace Gxf.Lib

def RunAt (cells : List Bool) (size start : Nat) : Prop :=
  ∀ offset < size, cells[start + offset]? = some true

def FirstRun (cells : List Bool) (size start : Nat) : Prop :=
  RunAt cells size start ∧ ∀ earlier < start, ¬RunAt cells size earlier

/-- The length of the free run at the start. -/
def leadingRun : List Bool → Nat
  | true :: cells => leadingRun cells + 1
  | _ => 0

/-- The length of the free run at the end. -/
def trailingRun (cells : List Bool) : Nat := leadingRun cells.reverse

def longestRun : List Bool → Nat
  | [] => 0
  | cell :: cells => max (leadingRun (cell :: cells)) (longestRun cells)

variable {cells left right : List Bool} {size start : Nat}

namespace RunAt

theorem inside (run : RunAt cells size start) (positive : 0 < size) :
    start + size ≤ cells.length := by
  have last := run (size - 1) (by omega)
  obtain ⟨inBounds, -⟩ := List.getElem?_eq_some_iff.mp last
  omega

theorem shorter {fewer : Nat} (run : RunAt cells size start) (le : fewer ≤ size) :
    RunAt cells fewer start :=
  fun offset below => run offset (by omega)

theorem tail (run : RunAt cells size start) (dropped : Nat) :
    RunAt cells (size - dropped) (start + dropped) := by
  intro offset below
  have shifted : start + dropped + offset = start + (dropped + offset) := by omega
  rw [shifted]
  exact run _ (by omega)

theorem cons_succ {cell : Bool} :
    RunAt (cell :: cells) size (start + 1) ↔ RunAt cells size start := by
  have same : ∀ offset, (cell :: cells)[start + 1 + offset]? = cells[start + offset]? := by
    intro offset
    have shifted : start + 1 + offset = start + offset + 1 := by omega
    rw [shifted, List.getElem?_cons_succ]
  simp only [RunAt, same]

theorem append_left (fits : start + size ≤ left.length) :
    RunAt (left ++ right) size start ↔ RunAt left size start := by
  have same : ∀ offset < size, (left ++ right)[start + offset]? = left[start + offset]? :=
    fun offset below => List.getElem?_append_left (by omega)
  constructor
  · exact fun run offset below => (same offset below).symm.trans (run offset below)
  · exact fun run offset below => (same offset below).trans (run offset below)

theorem append_right :
    RunAt (left ++ right) size (left.length + start) ↔ RunAt right size start := by
  have same : ∀ offset,
      (left ++ right)[left.length + start + offset]? = right[start + offset]? := by
    intro offset
    rw [List.getElem?_append_right (by omega)]
    congr 1
    omega
  simp only [RunAt, same]

end RunAt

theorem leadingRun_le (cells : List Bool) : leadingRun cells ≤ cells.length := by
  fun_induction leadingRun cells with
  | case1 cells ih => exact Nat.succ_le_succ ih
  | case2 cells => exact Nat.zero_le _

theorem le_leadingRun_iff : size ≤ leadingRun cells ↔ RunAt cells size 0 := by
  induction cells generalizing size with
  | nil =>
      constructor
      · intro le offset below
        exact absurd (Nat.lt_of_lt_of_le below le) (Nat.not_lt_zero _)
      · intro run
        cases size with
        | zero => exact Nat.le_refl _
        | succ size => exact absurd (run.inside (Nat.succ_pos _)) (by simp)
  | cons cell cells ih =>
      cases size with
      | zero =>
          exact iff_of_true (Nat.zero_le _) fun offset below => absurd below (Nat.not_lt_zero _)
      | succ size =>
          cases cell with
          | false =>
              refine iff_of_false (Nat.not_succ_le_zero _) fun run => ?_
              cases run 0 (Nat.succ_pos _)
          | true =>
              rw [leadingRun, Nat.succ_le_succ_iff, ih, ← RunAt.cons_succ]
              constructor
              · intro run offset below
                cases offset with
                | zero => rfl
                | succ offset =>
                    have shifted : 0 + (offset + 1) = 0 + 1 + offset := by omega
                    rw [shifted]
                    exact run offset (Nat.lt_of_succ_lt_succ below)
              · exact fun run => run.tail 1

theorem le_trailingRun_iff (fits : size ≤ cells.length) :
    size ≤ trailingRun cells ↔ RunAt cells size (cells.length - size) := by
  rw [trailingRun, le_leadingRun_iff]
  have mirrored : ∀ offset < size, cells.reverse[0 + offset]? =
      cells[cells.length - size + (size - 1 - offset)]? := by
    intro offset below
    rw [List.getElem?_reverse (by omega)]
    congr 1
    omega
  constructor
  · intro run offset below
    have here := mirrored (size - 1 - offset) (by omega)
    have back : size - 1 - (size - 1 - offset) = offset := by omega
    rw [back] at here
    rw [← here]
    exact run _ (by omega)
  · intro run offset below
    rw [mirrored offset below]
    exact run _ (by omega)

theorem trailingRun_le (cells : List Bool) : trailingRun cells ≤ cells.length := by
  rw [trailingRun, ← List.length_reverse]
  exact leadingRun_le _

theorem leadingRun_eq_length_iff :
    leadingRun cells = cells.length ↔ ∀ cell ∈ cells, cell = true := by
  rw [Nat.le_antisymm_iff, and_iff_right (leadingRun_le cells), le_leadingRun_iff]
  constructor
  · intro run cell member
    obtain ⟨index, found⟩ := List.mem_iff_getElem?.mp member
    have inBounds := (List.getElem?_eq_some_iff.mp found).choose
    have isFree := run index inBounds
    rw [Nat.zero_add, found] at isFree
    exact Option.some.inj isFree
  · intro allFree offset below
    rw [Nat.zero_add, List.getElem?_eq_getElem below, allFree _ (List.getElem_mem below)]

theorem le_longestRun_iff (positive : 0 < size) :
    size ≤ longestRun cells ↔ ∃ start, RunAt cells size start := by
  induction cells with
  | nil =>
      refine iff_of_false (Nat.not_le_of_lt positive) fun ⟨start, run⟩ => ?_
      have inBounds := run.inside positive
      rw [List.length_nil] at inBounds
      omega
  | cons cell cells ih =>
      rw [longestRun, le_max_iff, le_leadingRun_iff, ih]
      constructor
      · rintro (run | ⟨start, run⟩)
        · exact ⟨0, run⟩
        · exact ⟨start + 1, RunAt.cons_succ.mpr run⟩
      · rintro ⟨start, run⟩
        cases start with
        | zero => exact .inl run
        | succ start => exact .inr ⟨start, RunAt.cons_succ.mp run⟩

theorem longestRun_le (cells : List Bool) : longestRun cells ≤ cells.length := by
  induction cells with
  | nil => exact Nat.le_refl 0
  | cons cell cells ih =>
      rw [longestRun]
      exact max_le (leadingRun_le _) (Nat.le_succ_of_le ih)

theorem leadingRun_append : leadingRun (left ++ right) =
      if left.length = leadingRun left then left.length + leadingRun right
      else leadingRun left := by
  induction left with
  | nil => simp [leadingRun]
  | cons cell left ih =>
      cases cell with
      | false => simp [leadingRun]
      | true =>
          rw [List.cons_append, leadingRun, leadingRun, ih, List.length_cons]
          split
          next whole => rw [if_pos (by omega)]; omega
          next notWhole => rw [if_neg (by omega)]

theorem trailingRun_append : trailingRun (left ++ right) =
      if right.length = trailingRun right then right.length + trailingRun left
      else trailingRun right := by
  rw [trailingRun, List.reverse_append, leadingRun_append, List.length_reverse]
  rfl

theorem runAt_across (before : start ≤ left.length) (across : left.length ≤ start + size) :
    RunAt (left ++ right) size start ↔
      left.length - start ≤ trailingRun left ∧ start + size - left.length ≤ leadingRun right := by
  have toStart : left.length - (left.length - start) = start := by omega
  rw [le_trailingRun_iff (by omega), toStart, le_leadingRun_iff]
  constructor
  · intro run
    refine ⟨(RunAt.append_left (by omega)).mp (run.shorter (by omega)), ?_⟩
    have rest := run.tail (left.length - start)
    have border : start + (left.length - start) = left.length + 0 := by omega
    rw [border, RunAt.append_right] at rest
    exact rest.shorter (by omega)
  · rintro ⟨before, after⟩ offset below
    by_cases inLeft : start + offset < left.length
    · rw [List.getElem?_append_left inLeft]
      exact before offset (by omega)
    · rw [List.getElem?_append_right (by omega)]
      have shifted : start + offset - left.length = 0 + (start + offset - left.length) := by omega
      rw [shifted]
      exact after _ (by omega)

theorem longestRun_append : longestRun (left ++ right) =
      max (leadingRun right + trailingRun left) (max (longestRun right) (longestRun left)) := by
  apply eq_of_forall_le_iff
  intro size
  cases size with
  | zero => exact iff_of_true (Nat.zero_le _) (Nat.zero_le _)
  | succ size =>
      have positive := Nat.succ_pos size
      rw [le_max_iff, le_max_iff, le_longestRun_iff positive, le_longestRun_iff positive,
        le_longestRun_iff positive]
      constructor
      · rintro ⟨start, run⟩
        by_cases inRight : left.length ≤ start
        · obtain ⟨offset, rfl⟩ := Nat.exists_eq_add_of_le inRight
          exact .inr (.inl ⟨offset, RunAt.append_right.mp run⟩)
        by_cases inLeft : start + (size + 1) ≤ left.length
        · exact .inr (.inr ⟨start, (RunAt.append_left inLeft).mp run⟩)
        · obtain ⟨before, after⟩ := (runAt_across (by omega) (by omega)).mp run
          exact .inl (by omega)
      · rintro (fits | ⟨start, run⟩ | ⟨start, run⟩)
        · have notLonger := trailingRun_le left
          refine ⟨left.length - min (size + 1) (trailingRun left), ?_⟩
          exact (runAt_across (by omega) (by omega)).mpr ⟨by omega, by omega⟩
        · exact ⟨left.length + start, RunAt.append_right.mpr run⟩
        · exact ⟨start, (RunAt.append_left (run.inside positive)).mpr run⟩

theorem leadingRun_false (cells : List Bool) : leadingRun (cells.map fun _ => false) = 0 := by
  cases cells <;> rfl

theorem longestRun_false (cells : List Bool) : longestRun (cells.map fun _ => false) = 0 := by
  induction cells with
  | nil => rfl
  | cons cell cells ih =>
      rw [List.map_cons, longestRun, ih]
      rfl

theorem longestRun_single (cell : Bool) : longestRun [cell] = leadingRun [cell] := by
  cases cell <;> rfl

/-! ## The first run

A part of a list is searched, and no run starts in front of it. -/

section Search

variable {before after : List Bool}

theorem leadingRun_le_append (left right : List Bool) :
    leadingRun left ≤ leadingRun (left ++ right) := by
  have notLonger := leadingRun_le left
  rw [leadingRun_append]
  split
  next => omega
  next => exact Nat.le_refl _

theorem trailingRun_le_longestRun (cells : List Bool) : trailingRun cells ≤ longestRun cells := by
  cases length : trailingRun cells with
  | zero => exact Nat.zero_le _
  | succ size =>
      have notLonger := trailingRun_le cells
      have run := (le_trailingRun_iff (length ▸ notLonger)).mp (Nat.le_of_eq length.symm)
      exact (le_longestRun_iff (Nat.succ_pos size)).mpr ⟨_, run⟩

theorem not_runAt_of_longestRun_lt (tooShort : longestRun cells < size) : ¬RunAt cells size start :=
  fun run => Nat.not_le_of_lt tooShort ((le_longestRun_iff (by omega)).mpr ⟨start, run⟩)

theorem runAt_behind : RunAt (before ++ cells ++ after) size (before.length + start) ↔
      RunAt (cells ++ after) size start := by
  rw [List.append_assoc, RunAt.append_right]

theorem firstRun_leading (fits : size ≤ leadingRun cells)
    (noEarlier : ∀ earlier < before.length, ¬RunAt (before ++ cells ++ after) size earlier) :
    FirstRun (before ++ cells ++ after) size before.length := by
  have run : RunAt (before ++ cells ++ after) size (before.length + 0) :=
    runAt_behind.mpr (le_leadingRun_iff.mp (Nat.le_trans fits (leadingRun_le_append cells after)))
  exact ⟨run, noEarlier⟩

theorem firstRun_across (notLeft : longestRun left < size)
    (fits : size ≤ trailingRun left + leadingRun right)
    (noEarlier : ∀ earlier < before.length,
      ¬RunAt (before ++ (left ++ right) ++ after) size earlier) :
    FirstRun (before ++ (left ++ right) ++ after) size
      (before.length + (left.length - trailingRun left)) := by
  have trailingShort := trailingRun_le_longestRun left
  have notLonger := trailingRun_le left
  have grows := leadingRun_le_append right after
  constructor
  · rw [runAt_behind, List.append_assoc]
    exact (runAt_across (by omega) (by omega)).mpr ⟨by omega, by omega⟩
  · intro earlier inFront run
    by_cases inBefore : earlier < before.length
    · exact noEarlier earlier inBefore run
    · obtain ⟨start, rfl⟩ := Nat.exists_eq_add_of_le (Nat.le_of_not_lt inBefore)
      rw [runAt_behind, List.append_assoc] at run
      by_cases inLeft : start + size ≤ left.length
      · exact not_runAt_of_longestRun_lt notLeft ((RunAt.append_left inLeft).mp run)
      · obtain ⟨tooLong, -⟩ := (runAt_across (by omega) (by omega)).mp run
        omega

theorem firstRun_right (notLeft : longestRun left < size)
    (notAcross : trailingRun left + leadingRun right < size)
    (fits : size ≤ longestRun (left ++ right))
    (noEarlier : ∀ earlier < before.length,
      ¬RunAt (before ++ (left ++ right) ++ after) size earlier) :
    size ≤ longestRun right ∧ ∀ earlier < (before ++ left).length,
        ¬RunAt (before ++ left ++ right ++ after) size earlier := by
  have positive : 0 < size := by omega
  have inRight : size ≤ longestRun right := by
    rw [longestRun_append, le_max_iff, le_max_iff] at fits
    omega
  refine ⟨inRight, fun earlier inFront run => ?_⟩
  rw [List.append_assoc before] at run
  by_cases inBefore : earlier < before.length
  · exact noEarlier earlier inBefore run
  · obtain ⟨start, rfl⟩ := Nat.exists_eq_add_of_le (Nat.le_of_not_lt inBefore)
    rw [List.length_append] at inFront
    rw [runAt_behind, List.append_assoc] at run
    by_cases inLeft : start + size ≤ left.length
    · exact not_runAt_of_longestRun_lt notLeft ((RunAt.append_left inLeft).mp run)
    · obtain ⟨trailing, leading⟩ := (runAt_across (by omega) (by omega)).mp run
      -- the right half is not free throughout, so the run ends in it
      obtain ⟨rightStart, rightRun⟩ := (le_longestRun_iff positive).mp inRight
      have rightLong := rightRun.inside positive
      rw [leadingRun_append, if_neg (by omega)] at leading
      omega

end Search

end Gxf.Lib
