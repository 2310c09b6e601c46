import Mathlib.Data.List.Rotate
import Mathlib.Data.Nat.ModEq

/-!
# Ring buffers as rotated lists

A ring of slots that starts at `start` is read as the list `slots.rotate start`.
Indexing relative to the start, modulo the number of slots, is then ordinary list
indexing, and moving the start by one sends the first entry to the end.
-/

namespace Gxf.Lib.Ring

variable {α : Type*}

theorem add_mod_inj {length start left right : Nat}
    (leftInside : left < length) (rightInside : right < length) :
    (start + left) % length = (start + right) % length ↔ left = right := by
  constructor
  · intro equal
    have congruent : left ≡ right [MOD length] := Nat.ModEq.add_left_cancel' start equal
    exact Nat.ModEq.eq_of_lt_of_lt congruent leftInside rightInside
  · rintro rfl
    rfl

theorem getD_mod (slots : List α) (start offset : Nat) (default : α)
    (inside : offset < slots.length) :
    slots.getD ((start + offset) % slots.length) default =
      (slots.rotate start).getD offset default := by
  rw [List.getD_eq_getElem?_getD, List.getD_eq_getElem?_getD,
    List.getElem?_rotate inside, Nat.add_comm start offset]

theorem rotate_set (slots : List α) (start offset : Nat) (value : α)
    (inside : offset < slots.length) :
    (slots.set ((start + offset) % slots.length) value).rotate start =
      (slots.rotate start).set offset value := by
  apply List.ext_getElem
  · simp
  intro position leftBound rightBound
  have positionInside : position < slots.length := by simpa using rightBound
  simp only [List.getElem_rotate, List.getElem_set, List.length_set,
    Nat.add_comm position start, add_mod_inj inside positionInside]

theorem rotate_succ {slots : List α} {start : Nat} {first : α} {rest : List α}
    (view : slots.rotate start = first :: rest) :
    slots.rotate (start + 1) = rest ++ [first] := by
  rw [← List.rotate_rotate, view]
  simp

end Gxf.Lib.Ring
