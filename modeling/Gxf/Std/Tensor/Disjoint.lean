import Gxf.Std.Tensor.Shape
import Mathlib.Data.List.GetD

/-!
# Strides from steps

Each stride is the least multiple of its step that spans the dimension inside.  Hence the elements
of a shape do not overlap.
-/

namespace Gxf.Std

open Gxf.Core Gxf.Lib

/-- The multiples of a step from some number on. -/
def multiplesFrom (step bound : Nat) : Set Nat := { multiple | step ∣ multiple ∧ bound ≤ multiple }

theorem roundUp_isLeast {value step : UInt64} (positive : 0 < step.toNat)
    (exact : value.toNat + step.toNat ≤ 2 ^ 64) :
    IsLeast (multiplesFrom step.toNat value.toNat) ((value + step - 1) / step * step).toNat := by
  have sum : (value + step - 1).toNat = value.toNat + step.toNat - 1 := by
    rw [UInt64.toNat_sub, UInt64.toNat_add, UInt64.toNat_one]
    omega
  have atMost := Nat.div_mul_le_self (value.toNat + step.toNat - 1) step.toNat
  have rounded : ((value + step - 1) / step * step).toNat =
      (value.toNat + step.toNat - 1) / step.toNat * step.toNat := by
    rw [UInt64.toNat_mul, UInt64.toNat_div, sum]
    exact Nat.mod_eq_of_lt (by omega)
  refine ⟨⟨rounded ▸ Nat.dvd_mul_left _ _, le_roundUp positive exact⟩, fun multiple above => ?_⟩
  obtain ⟨⟨factor, rfl⟩, bounded⟩ := above
  have fewer : (value.toNat + step.toNat - 1) / step.toNat ≤ factor := by
    rw [Nat.div_le_iff_le_mul_add_pred positive]
    omega
  rw [rounded, Nat.mul_comm]
  exact Nat.mul_le_mul_left _ fewer

section Strides

variable {dimensions : List Int32} {steps : List UInt64}

theorem stride_isLeast {lower : Int32} {rankStep inner : UInt64}
    (lowerPositive : 0 < lower.toInt) (positive : 0 < rankStep.toNat)
    (exact : inner.toNat * lower.toInt.toNat + rankStep.toNat ≤ 2 ^ 64) :
    IsLeast (multiplesFrom rankStep.toNat (inner.toNat * lower.toInt.toNat))
      ((inner * Shape.widen lower + rankStep - 1) / rankStep * rankStep).toNat := by
  have product : (inner * Shape.widen lower).toNat = inner.toNat * lower.toInt.toNat := by
    rw [UInt64.toNat_mul, Shape.toNat_widen (Int.le_of_lt lowerPositive)]
    exact Nat.mod_eq_of_lt (by omega)
  rw [← product] at exact ⊢
  exact roundUp_isLeast positive exact

theorem stridesOf_isLeast (valid : ∀ dimension ∈ dimensions, 0 < dimension.toInt)
    (enough : dimensions.length ≤ steps.length) (positive : ∀ step ∈ steps, 0 < step.toNat)
    (exact : Exact dimensions steps) {axis : Nat} (outer : axis + 1 < dimensions.length) :
    IsLeast (multiplesFrom (steps.getD axis 0).toNat
        (((stridesOf dimensions steps).getD (axis + 1) 0).toNat *
          (dimensions.getD (axis + 1) 0).toInt.toNat))
      ((stridesOf dimensions steps).getD axis 0).toNat := by
  induction dimensions generalizing steps axis with
  | nil => exact absurd outer (Nat.not_lt_zero _)
  | cons dimension dimensions ih =>
      obtain ⟨rankStep, steps, rfl⟩ := List.exists_cons_of_ne_nil
        (List.ne_nil_of_length_pos (Nat.lt_of_lt_of_le (Nat.succ_pos _) enough))
      obtain ⟨here, inner⟩ := List.forall_mem_cons.mp positive
      have validInner := (List.forall_mem_cons.mp valid).2
      cases dimensions with
      | nil => exact absurd (Nat.lt_of_succ_lt_succ outer) (Nat.not_lt_zero _)
      | cons lower dimensions =>
          cases axis with
          | zero =>
              have least := stride_isLeast (List.forall_mem_cons.mp validInner).1 here exact.1
              obtain ⟨stride, strides, computed⟩ : ∃ stride strides,
                  stridesOf (lower :: dimensions) steps = stride :: strides :=
                List.exists_cons_of_length_eq_add_one
                  (length_stridesOf (Nat.le_of_succ_le_succ enough))
              rw [stridesOf]
              rw [computed] at least ⊢
              exact least
          | succ axis =>
              exact ih validInner (Nat.le_of_succ_le_succ enough) inner exact.2
                (Nat.lt_of_succ_lt_succ outer)

theorem stridesOf_last (some : dimensions ≠ []) (enough : dimensions.length ≤ steps.length) :
    (stridesOf dimensions steps).getD (dimensions.length - 1) 0 =
      steps.getD (dimensions.length - 1) 0 := by
  induction dimensions generalizing steps with
  | nil => exact absurd rfl some
  | cons dimension dimensions ih =>
      obtain ⟨rankStep, steps, rfl⟩ := List.exists_cons_of_ne_nil
        (List.ne_nil_of_length_pos (Nat.lt_of_lt_of_le (Nat.succ_pos _) enough))
      cases dimensions with
      | nil => rfl
      | cons lower dimensions =>
          exact ih (List.cons_ne_nil _ _) (Nat.le_of_succ_le_succ enough)

theorem nested_stridesOf (some : dimensions ≠ [])
    (valid : ∀ dimension ∈ dimensions, 0 < dimension.toInt)
    (enough : dimensions.length ≤ steps.length) (positive : ∀ step ∈ steps, 0 < step.toNat)
    (exact : Exact dimensions steps) :
    Layout.Nested (steps.getD (dimensions.length - 1) 0).toNat
      (dimensions.map fun dimension => dimension.toInt.toNat)
      ((stridesOf dimensions steps).map UInt64.toNat) := by
  induction dimensions generalizing steps with
  | nil => exact absurd rfl some
  | cons dimension dimensions ih =>
      obtain ⟨rankStep, steps, rfl⟩ := List.exists_cons_of_ne_nil
        (List.ne_nil_of_length_pos (Nat.lt_of_lt_of_le (Nat.succ_pos _) enough))
      obtain ⟨here, inner⟩ := List.forall_mem_cons.mp positive
      have validInner := (List.forall_mem_cons.mp valid).2
      cases dimensions with
      | nil => exact ⟨Nat.le_refl _, trivial⟩
      | cons lower dimensions =>
          have nested := ih (List.cons_ne_nil _ _) validInner (Nat.le_of_succ_le_succ enough) inner
            exact.2
          refine ⟨?_, nested⟩
          have least := stride_isLeast (List.forall_mem_cons.mp validInner).1 here exact.1
          obtain ⟨stride, strides, computed⟩ : ∃ stride strides,
              stridesOf (lower :: dimensions) steps = stride :: strides :=
            List.exists_cons_of_length_eq_add_one (length_stridesOf (Nat.le_of_succ_le_succ enough))
          rw [computed] at least ⊢
          exact least.1.2

end Strides

/-- For every shape with positive dimensions and all positive steps, where nothing wraps around:
every stride is a multiple of its step, the innermost one is its step, each other one is the least
multiple that spans the dimension inside, and different elements do not overlap. -/
theorem computeStrides_disjoint (shape : Shape) (strideSteps : List UInt64)
    (some : shape.rank ≠ 0) (valid : shape.Valid) (size : strideSteps.length = kMaxRank)
    (positive : ∀ step ∈ strideSteps, 0 < step.toNat) (exact : Exact shape.dimensions strideSteps) :
    let strides := computeStrides shape strideSteps
    let width := (strideSteps.getD (shape.rank - 1) 0).toNat
    strides.length = shape.rank ∧
      (∀ axis < shape.rank, (strideSteps.getD axis 0).toNat ∣ (strides.getD axis 0).toNat) ∧
      strides.getD (shape.rank - 1) 0 = strideSteps.getD (shape.rank - 1) 0 ∧
      (∀ axis, axis + 1 < shape.rank → IsLeast (multiplesFrom (strideSteps.getD axis 0).toNat
            ((strides.getD (axis + 1) 0).toNat * shape.dims.getD (axis + 1) 0))
          (strides.getD axis 0).toNat) ∧
      ∀ index other, Layout.Inside index shape.dims → Layout.Inside other shape.dims →
        index ≠ other → Layout.offset index (strides.map UInt64.toNat) + width ≤
              Layout.offset other (strides.map UInt64.toNat) ∨
            Layout.offset other (strides.map UInt64.toNat) + width ≤
              Layout.offset index (strides.map UInt64.toNat) := by
  intro strides width
  have dimensionsSome : shape.dimensions ≠ [] := fun none =>
    some (List.length_eq_zero_iff.mpr none)
  have enough : shape.dimensions.length ≤ strideSteps.length := size ▸ shape.rank_le
  have last : strides.getD (shape.rank - 1) 0 = strideSteps.getD (shape.rank - 1) 0 :=
    stridesOf_last dimensionsSome enough
  have least {axis : Nat} (outer : axis + 1 < shape.rank) :
      IsLeast (multiplesFrom (strideSteps.getD axis 0).toNat
          ((strides.getD (axis + 1) 0).toNat * shape.dims.getD (axis + 1) 0))
        (strides.getD axis 0).toNat := by
    have dim : shape.dims.getD (axis + 1) 0 = (shape.dimensions.getD (axis + 1) 0).toInt.toNat :=
      List.getD_map shape.dimensions (0 : Int32) fun dimension => dimension.toInt.toNat
    rw [dim]
    exact stridesOf_isLeast valid enough positive exact outer
  refine ⟨length_stridesOf enough, fun axis inRange => ?_, last, fun axis outer => least outer,
    fun index other inside otherInside differ => ?_⟩
  · rcases Nat.lt_or_eq_of_le (Nat.succ_le_of_lt inRange) with outer | innermost
    · exact (least outer).1.1
    · have same : axis = shape.rank - 1 := by rw [← innermost]; rfl
      rw [same, last]
  · exact (nested_stridesOf dimensionsSome valid enough positive exact).disjoint inside otherInside
      differ

/-- A matrix with rows that are padded to 8 bytes. -/
theorem computeStrides_disjoint_padded :
    let steps : List UInt64 := [8, 1, 1, 1, 1, 1, 1, 1]
    computeStrides ⟨[2, 3], by decide⟩ steps = [8, 1] ∧
      ∀ index other, Layout.Inside index [2, 3] → Layout.Inside other [2, 3] → index ≠ other →
        Layout.offset index [8, 1] + 1 ≤ Layout.offset other [8, 1] ∨
          Layout.offset other [8, 1] + 1 ≤ Layout.offset index [8, 1] := by
  intro steps
  refine ⟨by decide, ?_⟩
  exact (computeStrides_disjoint ⟨[2, 3], by decide⟩ steps (by decide) (by decide) rfl
    (List.forall_iff_forall_mem.mp (by decide)) ⟨by decide, trivial⟩).2.2.2.2

end Gxf.Std
