import Mathlib.Data.List.Perm.Basic

/-!
# Combining the elements of a list

Folds by a commutative and associative operation do not depend on the order of the elements, also
when the first element starts the fold.
-/

namespace Gxf.Lib

variable {α : Type*}

/-- The elements of a list combined from the first one on.  Without elements, a value is given. -/
def foldFirst (combine : α → α → α) (without : α) : List α → α
  | [] => without
  | first :: rest => rest.foldl combine first

section Order

variable {combine : α → α → α} [commutes : Std.Commutative combine] [Std.Associative combine]

/-- The order of the elements does not matter. -/
theorem foldFirst_perm (without : α) {first second : List α} (same : first.Perm second) :
    foldFirst combine without first = foldFirst combine without second := by
  induction same with
  | nil => rfl
  | cons head same => exact same.foldl_op_eq
  | swap left right rest =>
      rw [foldFirst, foldFirst, List.foldl_cons, List.foldl_cons, commutes.comm]
  | trans _ _ ihFirst ihSecond => exact ihFirst.trans ihSecond

end Order

end Gxf.Lib
