import Mathlib.Data.List.Nodup
import Mathlib.Algebra.GroupWithZero.Nat

/-!
# Covers of ranges in a binary tree

The nodes of a complete binary tree are numbered as in a heap: the root is 1, and the
children of a node are its double and the number behind it.  Layer `depth` consists of
the nodes from `2 ^ depth` to `2 ^ (depth + 1) - 1`.  A range of a layer is covered by
few nodes: both of its ends climb towards the root, and a node is taken where the
parent would reach over the end.
-/

namespace Gxf.Lib

def Layer (depth node : Nat) : Prop := 2 ^ depth ≤ node ∧ node < 2 ^ (depth + 1)

/-- A node on the way from another one to the root, or that node. -/
def Above (node other : Nat) : Prop := ∃ climb, other / 2 ^ climb = node

/-- The cover of the range from `left` to `right` in the layer below `depth` others, from
the ends to the middle. -/
def cover : (depth : Nat) → (left right : Nat) → List Nat
  | 0, left, right => if left ≤ right then [left] else []
  | depth + 1, left, right =>
      if left ≤ right then
        (if left % 2 = 1 then [left] else []) ++ (if right % 2 = 1 then [] else [right]) ++
          cover depth ((left + 1) / 2) ((right - 1) / 2)
      else []

variable {depth node other left right : Nat}

namespace Above

theorem refl (node : Nat) : Above node node := ⟨0, Nat.div_one node⟩

theorem trans {third : Nat} (upper : Above node other) (lower : Above other third) :
    Above node third := by
  obtain ⟨climb, rfl⟩ := upper
  obtain ⟨further, rfl⟩ := lower
  exact ⟨further + climb, by rw [Nat.pow_add, Nat.div_div_eq_div_mul]⟩

theorem half (node : Nat) : Above (node / 2) node := ⟨1, rfl⟩

theorem iff_half : Above node other ↔ other = node ∨ Above node (other / 2) := by
  constructor
  · rintro ⟨climb, rfl⟩
    cases climb with
    | zero => exact .inl (Nat.div_one other).symm
    | succ climb => exact .inr ⟨climb, by rw [Nat.div_div_eq_div_mul, Nat.pow_succ']⟩
  · rintro (rfl | isAbove)
    · exact refl _
    · exact isAbove.trans (half other)

theorem le (isAbove : Above node other) : node ≤ other := by
  obtain ⟨climb, rfl⟩ := isAbove
  exact Nat.div_le_self _ _

end Above

namespace Layer

theorem half (inLayer : Layer (depth + 1) node) : Layer depth (node / 2) := by
  obtain ⟨low, high⟩ := inLayer
  rw [Nat.pow_succ] at low high
  exact ⟨by omega, by omega⟩

theorem double (inLayer : Layer depth node) : Layer (depth + 1) (2 * node) := by
  obtain ⟨low, high⟩ := inLayer
  exact ⟨by rw [Nat.pow_succ]; omega, by rw [Nat.pow_succ (n := 2) (m := depth + 1)]; omega⟩

theorem double_succ (inLayer : Layer depth node) : Layer (depth + 1) (2 * node + 1) := by
  obtain ⟨low, high⟩ := inLayer
  exact ⟨by rw [Nat.pow_succ]; omega, by rw [Nat.pow_succ (n := 2) (m := depth + 1)]; omega⟩

theorem exists_of_pos (positive : 0 < node) : ∃ depth, Layer depth node :=
  ⟨node.log2, Nat.log2_self_le (by omega), Nat.lt_log2_self⟩

theorem positive (inLayer : Layer depth node) : 0 < node :=
  Nat.lt_of_lt_of_le (Nat.two_pow_pos depth) inLayer.1

theorem above_iff (upper : 2 ^ depth ≤ node) (inLayer : Layer depth other) :
    Above node other ↔ other = node := by
  rw [Above.iff_half]
  refine or_iff_left fun isAbove => ?_
  have le := isAbove.le
  obtain ⟨low, high⟩ := inLayer
  rw [Nat.pow_succ] at high
  omega

end Layer

theorem exists_above {depth node : Nat} (positive : 0 < node) (inside : node < 2 ^ (depth + 1)) :
    ∃ leaf, Layer depth leaf ∧ Above node leaf := by
  by_cases isLeaf : 2 ^ depth ≤ node
  · exact ⟨node, ⟨isLeaf, inside⟩, Above.refl node⟩
  · have doubled : 2 * node < 2 ^ (depth + 1) := by
      rw [Nat.pow_succ]
      omega
    obtain ⟨leaf, inLayer, isAbove⟩ := exists_above (by omega) doubled
    refine ⟨leaf, inLayer, Above.trans ⟨1, ?_⟩ isAbove⟩
    omega
  termination_by 2 ^ (depth + 1) - node

/-! ## The cover of a range -/

theorem mem_cover_succ : node ∈ cover (depth + 1) left right ↔
      left ≤ right ∧ (node = left ∧ left % 2 = 1 ∨ node = right ∧ right % 2 ≠ 1 ∨
        node ∈ cover depth ((left + 1) / 2) ((right - 1) / 2)) := by
  have ends : ∀ (end_ : Nat) (taken : Prop) [Decidable taken],
      node ∈ (if taken then [end_] else []) ↔ node = end_ ∧ taken := by
    intro end_ taken _
    split
    next holds => simp [holds]
    next fails => simp [fails]
  rw [cover]
  split
  next nonempty =>
    rw [← ite_not (right % 2 = 1), List.mem_append, List.mem_append, ends, ends, or_assoc,
      and_iff_right nonempty]
  next empty => exact iff_of_false List.not_mem_nil fun member => empty member.1

section

variable (low : 2 ^ depth ≤ left)
include low

theorem cover_bounds (high : right < 2 ^ (depth + 1))
    (member : node ∈ cover depth left right) : 0 < node ∧ node < 2 ^ (depth + 1) := by
  induction depth generalizing left right with
  | zero =>
      rw [cover] at member
      split at member
      next nonempty =>
        rw [List.mem_singleton] at member
        omega
      next => cases member
  | succ depth ih =>
      have positive := Nat.two_pow_pos depth
      rw [Nat.pow_succ] at low high ⊢
      obtain ⟨nonempty, ⟨rfl, -⟩ | ⟨rfl, -⟩ | inner⟩ := mem_cover_succ.mp member
      · omega
      · omega
      · have bounds := ih (by omega) (by omega) inner
        omega

theorem cover_iff {leaf : Nat} (high : right < 2 ^ (depth + 1)) (inLayer : Layer depth leaf) :
    (∃ node ∈ cover depth left right, Above node leaf) ↔ left ≤ leaf ∧ leaf ≤ right := by
  induction depth generalizing left right leaf with
  | zero =>
      obtain ⟨leafLow, leafHigh⟩ := inLayer
      have isOne : leaf = 1 := by omega
      subst isOne
      rw [cover]
      split
      next nonempty =>
        have leftOne : left = 1 := by omega
        subst leftOne
        exact iff_of_true ⟨1, List.mem_singleton_self 1, Above.refl 1⟩ ⟨by omega, by omega⟩
      next empty =>
        refine iff_of_false (fun ⟨node, member, _⟩ => ?_) (by omega)
        cases member
  | succ depth ih =>
      have halves := pow_succ 2 depth
      have doubled := pow_succ 2 (depth + 1)
      have ⟨leafLow, leafHigh⟩ := inLayer
      have lowInner : 2 ^ depth ≤ (left + 1) / 2 := by omega
      have highInner : (right - 1) / 2 < 2 ^ (depth + 1) := by omega
      have inner := ih lowInner highInner inLayer.half
      constructor
      · rintro ⟨node, member, isAbove⟩
        obtain ⟨nonempty, ⟨rfl, -⟩ | ⟨rfl, -⟩ | deeper⟩ := mem_cover_succ.mp member
        · have same := (inLayer.above_iff low).mp isAbove
          omega
        · have same := (inLayer.above_iff (by omega)).mp isAbove
          omega
        · have bounds := cover_bounds lowInner highInner deeper
          obtain same | aboveHalf := Above.iff_half.mp isAbove
          · omega
          · have inside := inner.mp ⟨node, deeper, aboveHalf⟩
            omega
      · rintro ⟨fromLeft, toRight⟩
        by_cases atLeft : leaf = left ∧ left % 2 = 1
        · refine ⟨leaf, mem_cover_succ.mpr ⟨by omega, .inl atLeft⟩, Above.refl leaf⟩
        by_cases atRight : leaf = right ∧ right % 2 ≠ 1
        · exact ⟨leaf, mem_cover_succ.mpr ⟨by omega, .inr (.inl atRight)⟩, Above.refl leaf⟩
        · obtain ⟨node, deeper, aboveHalf⟩ := inner.mpr ⟨by omega, by omega⟩
          exact ⟨node, mem_cover_succ.mpr ⟨by omega, .inr (.inr deeper)⟩,
            aboveHalf.trans (Above.half leaf)⟩

theorem cover_apart (high : right < 2 ^ (depth + 1))
    (member : node ∈ cover depth left right) (otherMember : other ∈ cover depth left right)
    (isAbove : Above node other) : node = other := by
  induction depth generalizing left right with
  | zero =>
      rw [cover] at member otherMember
      split at member
      next nonempty =>
        rw [if_pos nonempty] at otherMember
        rw [List.mem_singleton.mp member, List.mem_singleton.mp otherMember]
      next => cases member
  | succ depth ih =>
      have halves := pow_succ 2 depth
      have doubled := pow_succ 2 (depth + 1)
      have lowInner : 2 ^ depth ≤ (left + 1) / 2 := by omega
      have highInner : (right - 1) / 2 < 2 ^ (depth + 1) := by omega
      obtain ⟨-, otherHigh⟩ := cover_bounds low high otherMember
      have le := isAbove.le
      obtain ⟨nonempty, ends | ends | deeper⟩ := mem_cover_succ.mp member
      · exact ((Layer.above_iff (by omega) ⟨by omega, otherHigh⟩).mp isAbove).symm
      · exact ((Layer.above_iff (by omega) ⟨by omega, otherHigh⟩).mp isAbove).symm
      · by_cases otherDeeper : other ∈ cover depth ((left + 1) / 2) ((right - 1) / 2)
        · exact ih lowInner highInner deeper otherDeeper
        · -- the other node is an end, whose parent is outside the range of the parents
          have inLayer : Layer (depth + 1) other := by
            obtain ⟨-, ends | ends | inner⟩ := mem_cover_succ.mp otherMember
            · exact ⟨by omega, otherHigh⟩
            · exact ⟨by omega, otherHigh⟩
            · exact absurd inner otherDeeper
          obtain same | aboveHalf := Above.iff_half.mp isAbove
          · exact same.symm
          · have inside := (cover_iff lowInner highInner inLayer.half).mp ⟨node, deeper, aboveHalf⟩
            obtain ⟨-, ends | ends | inner⟩ := mem_cover_succ.mp otherMember
            · omega
            · omega
            · exact absurd inner otherDeeper

theorem cover_nodup (high : right < 2 ^ (depth + 1)) : (cover depth left right).Nodup := by
  induction depth generalizing left right with
  | zero =>
      rw [cover]
      split
      next => exact List.nodup_singleton left
      next => exact List.nodup_nil
  | succ depth ih =>
      have halves := pow_succ 2 depth
      have doubled := pow_succ 2 (depth + 1)
      have lowInner : 2 ^ depth ≤ (left + 1) / 2 := by omega
      have highInner : (right - 1) / 2 < 2 ^ (depth + 1) := by omega
      have below : ∀ end_, 2 ^ (depth + 1) ≤ end_ →
          end_ ∉ cover depth ((left + 1) / 2) ((right - 1) / 2) := by
        intro end_ outside member
        have bounds := cover_bounds lowInner highInner member
        omega
      have inner := ih lowInner highInner
      rw [cover]
      split
      next nonempty =>
        have leftOutside := below left (by omega)
        have rightOutside := below right (by omega)
        by_cases leftOdd : left % 2 = 1
        · by_cases rightOdd : right % 2 = 1
          · simp [leftOdd, rightOdd, inner, leftOutside]
          · have different : left ≠ right := by
              rintro rfl
              exact rightOdd leftOdd
            simp [leftOdd, rightOdd, inner, leftOutside, rightOutside, different]
        · by_cases rightOdd : right % 2 = 1
          · simp [leftOdd, rightOdd, inner]
          · simp [leftOdd, rightOdd, inner, rightOutside]
      next => exact List.nodup_nil

theorem cover_left (high : right < 2 ^ (depth + 1)) (member : left ∈ cover depth left right) :
    (left % 2 = 1 ∨ left = right) ∧ ∃ rest, cover depth left right = left :: rest := by
  cases depth with
  | zero =>
      rw [cover] at member ⊢
      split at member
      next nonempty =>
        rw [if_pos nonempty]
        exact ⟨.inr (by omega), [], rfl⟩
      next => cases member
  | succ depth =>
      have halves := pow_succ 2 depth
      have doubled := pow_succ 2 (depth + 1)
      obtain ⟨nonempty, ⟨-, isOdd⟩ | ⟨same, isEven⟩ | deeper⟩ := mem_cover_succ.mp member
      · exact ⟨.inl isOdd, _, by rw [cover, if_pos nonempty, if_pos isOdd]; rfl⟩
      · subst same
        refine ⟨.inr rfl, cover depth ((left + 1) / 2) ((left - 1) / 2), ?_⟩
        rw [cover, if_pos nonempty, if_neg isEven, if_neg isEven]
        rfl
      · have lowInner : 2 ^ depth ≤ (left + 1) / 2 := by omega
        have highInner : (right - 1) / 2 < 2 ^ (depth + 1) := by omega
        have bounds := cover_bounds lowInner highInner deeper
        omega

end

end Gxf.Lib
