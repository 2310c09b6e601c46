import Mathlib.Algebra.BigOperators.Group.List.Basic
import Mathlib.Tactic.Ring

/-!
# Strided layouts

The elements of an array of several dimensions lie at offsets given by one stride for each
dimension.  The module compares the offsets of two layouts, bounds the offsets of one, and
compares it with the layout that leaves no gaps.
-/

namespace Gxf.Lib.Layout

/-- An index lies inside the dimensions. -/
abbrev Inside (index dims : List Nat) : Prop := List.Forall₂ (· < ·) index dims

theorem pos_of_inside {index dims : List Nat} (inside : Inside index dims) :
    ∀ dim ∈ dims, 0 < dim := by
  induction inside with
  | nil => exact fun dim member => absurd member (List.not_mem_nil)
  | cons less inside ih => exact List.forall_mem_cons.mpr ⟨Nat.zero_lt_of_lt less, ih⟩

section Offset

variable {R : Type*} [Semiring R]

def offset : List Nat → List R → R
  | position :: index, stride :: strides => (position : R) * stride + offset index strides
  | _, _ => 0

/-- Two lists of strides agree on all dimensions with more than one position. -/
def AgreeOn : List Nat → List R → List R → Prop
  | dim :: dims, stride :: strides, other :: others =>
      (1 < dim → stride = other) ∧ AgreeOn dims strides others
  | _, _, _ => True

instance decidableAgreeOn [DecidableEq R] : (dims : List Nat) → (strides others : List R) →
    Decidable (AgreeOn dims strides others)
  | _ :: dims, _ :: strides, _ :: others =>
      have : Decidable (AgreeOn dims strides others) := decidableAgreeOn dims strides others
      inferInstanceAs (Decidable (_ ∧ _))
  | [], _, _ => isTrue trivial
  | _ :: _, [], _ => isTrue trivial
  | _ :: _, _ :: _, [] => isTrue trivial

/-- The first position in every dimension. -/
def origin (dims : List Nat) : List Nat := dims.map fun _ => 0

variable {dims : List Nat} {first second : List R}

theorem inside_origin (positive : ∀ dim ∈ dims, 0 < dim) : Inside (origin dims) dims := by
  induction dims with
  | nil => exact .nil
  | cons dim dims ih =>
      obtain ⟨here, later⟩ := List.forall_mem_cons.mp positive
      exact .cons here (ih later)

theorem offset_origin (dims : List Nat) (strides : List R) : offset (origin dims) strides = 0 := by
  induction dims generalizing strides with
  | nil => cases strides <;> rfl
  | cons dim dims ih =>
      cases strides with
      | nil => rfl
      | cons stride strides =>
          have later := ih strides
          rw [origin] at later
          rw [origin, List.map_cons, offset, later, Nat.cast_zero, zero_mul, add_zero]

theorem AgreeOn.offset_eq {index : List Nat}
    (agree : AgreeOn dims first second) (firstLength : first.length = dims.length)
    (secondLength : second.length = dims.length) (inside : Inside index dims) :
    offset index first = offset index second := by
  induction inside generalizing first second with
  | nil => cases first <;> cases second <;> rfl
  | @cons position dim index dims less inside ih =>
      obtain ⟨stride, strides, rfl⟩ := List.exists_cons_of_length_eq_add_one firstLength
      obtain ⟨other, others, rfl⟩ := List.exists_cons_of_length_eq_add_one secondLength
      rw [offset, offset, ih agree.2 (Nat.succ.inj firstLength) (Nat.succ.inj secondLength)]
      by_cases many : 1 < dim
      · rw [agree.1 many]
      · have first : position = 0 := by omega
        rw [first, Nat.cast_zero, zero_mul, zero_mul]

theorem address_eq_iff [IsLeftCancelAdd R] (positive : ∀ dim ∈ dims, 0 < dim)
    (firstLength : first.length = dims.length)
    (secondLength : second.length = dims.length) (base other : R) :
    (∀ index, Inside index dims → base + offset index first = other + offset index second) ↔
      base = other ∧ AgreeOn dims first second := by
  constructor
  · intro same
    have start := same (origin dims) (inside_origin positive)
    rw [offset_origin, offset_origin, add_zero, add_zero] at start
    subst start
    refine ⟨rfl, ?_⟩
    have offsets : ∀ index, Inside index dims → offset index first = offset index second :=
      fun index inside => add_left_cancel (same index inside)
    clear same
    induction dims generalizing first second with
    | nil => cases first <;> cases second <;> trivial
    | cons dim dims ih =>
        obtain ⟨stride, strides, rfl⟩ := List.exists_cons_of_length_eq_add_one firstLength
        obtain ⟨otherStride, others, rfl⟩ := List.exists_cons_of_length_eq_add_one secondLength
        obtain ⟨here, later⟩ := List.forall_mem_cons.mp positive
        refine ⟨fun many => ?_, ih later (Nat.succ.inj firstLength)
          (Nat.succ.inj secondLength) fun index inside => ?_⟩
        · have next := offsets (1 :: origin dims) (.cons many (inside_origin later))
          rwa [offset, offset, offset_origin, offset_origin, Nat.cast_one, one_mul, one_mul,
            add_zero, add_zero] at next
        · have zero := offsets (0 :: index) (.cons here inside)
          rwa [offset, offset, Nat.cast_zero, zero_mul, zero_mul, zero_add, zero_add] at zero
  · rintro ⟨rfl, agree⟩ index inside
    rw [agree.offset_eq firstLength secondLength inside]

/-- Strides without gaps, in the order of rows. -/
def packed (width : R) : List Nat → List R
  | [] => []
  | _ :: dims => width * (dims.prod : Nat) :: packed width dims

end Offset

section Extent

variable {dims strides : List Nat} {width bytes : Nat}

/-- The offset of the last element. -/
def extent (dims strides : List Nat) : Nat := offset (dims.map (· - 1)) strides

variable {others : List Nat}

end Extent

section Nested

variable {width : Nat} {dims strides : List Nat}

/-- The bytes from the first element to the last one: all of the outermost dimension, or one
element. -/
def span (width : Nat) : List Nat → List Nat → Nat
  | dim :: _, stride :: _ => stride * dim
  | _, _ => width

/-- Every stride spans what lies inside of its dimension. -/
def Nested (width : Nat) : List Nat → List Nat → Prop
  | _ :: dims, stride :: strides => span width dims strides ≤ stride ∧ Nested width dims strides
  | [], [] => True
  | _, _ => False

variable {index other : List Nat}

theorem Nested.offset_le (inside : Inside index dims) (nested : Nested width dims strides) :
    offset index strides + width ≤ span width dims strides := by
  induction inside generalizing strides with
  | nil =>
      cases strides with
      | nil => exact Nat.le_of_eq (Nat.zero_add width)
      | cons stride strides => exact absurd nested not_false
  | @cons position dim index dims less inside ih =>
      cases strides with
      | nil => exact absurd nested not_false
      | cons stride strides =>
          calc offset (position :: index) (stride :: strides) + width
              = position * stride + (offset index strides + width) := Nat.add_assoc _ _ _
            _ ≤ position * stride + stride :=
              Nat.add_le_add_left (Nat.le_trans (ih nested.2) nested.1) _
            _ = stride * (position + 1) := by ring
            _ ≤ stride * dim := Nat.mul_le_mul_left _ less

theorem Nested.before {position later dim : Nat} {stride : Nat}
    (inside : Inside index dims) (nested : Nested width (dim :: dims) (stride :: strides))
    (less : position < later) :
    offset (position :: index) (stride :: strides) + width ≤
      offset (later :: other) (stride :: strides) := by
  calc offset (position :: index) (stride :: strides) + width
      = position * stride + (offset index strides + width) := Nat.add_assoc _ _ _
    _ ≤ position * stride + stride :=
      Nat.add_le_add_left (Nat.le_trans (offset_le inside nested.2) nested.1) _
    _ = (position + 1) * stride := by ring
    _ ≤ later * stride := Nat.mul_le_mul_right _ less
    _ ≤ offset (later :: other) (stride :: strides) := Nat.le_add_right _ _

theorem Nested.disjoint (nested : Nested width dims strides)
    (inside : Inside index dims) (otherInside : Inside other dims) (differ : index ≠ other) :
    offset index strides + width ≤ offset other strides ∨
      offset other strides + width ≤ offset index strides := by
  induction inside generalizing other strides with
  | nil =>
      cases otherInside
      exact absurd rfl differ
  | @cons position dim index dims less inside ih =>
      obtain _ | @⟨later, _, other, _, _, otherInside⟩ := otherInside
      cases strides with
      | nil => exact absurd nested not_false
      | cons stride strides =>
          rcases Nat.lt_trichotomy position later with before | same | after
          · exact .inl (nested.before inside before)
          · subst same
            have tails : index ≠ other := fun same => differ (congrArg (position :: ·) same)
            have shift (bytes : Nat) :
                position * stride + bytes + width = position * stride + (bytes + width) :=
              Nat.add_assoc _ _ _
            refine (ih nested.2 otherInside tails).imp (fun apart => ?_) (fun apart => ?_)
            · exact (shift _).trans_le (Nat.add_le_add_left apart _)
            · exact (shift _).trans_le (Nat.add_le_add_left apart _)
          · exact .inr (nested.before otherInside after)

end Nested

end Gxf.Lib.Layout
