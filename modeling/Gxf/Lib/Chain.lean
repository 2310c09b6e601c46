import Gxf.Lib.InversePair

/-!
# Chains threaded through an array

An array of links holds a singly linked list in place: each entry of the list names
the slot that stores the entry after it.  The list ends where an entry names the
slot just past the array.
-/

namespace Gxf.Lib

variable {α : Type*} (slotOf : α → Nat) (fallback : α)

/-- Following the links stored in the slots, starting at `link`, one passes `entries`
and leaves the array at its end. -/
def Chain (links : List α) : α → List α → Prop
  | link, [] => slotOf link = links.length
  | link, entry :: rest =>
      link = entry ∧ slotOf entry < links.length ∧
        Chain links (links.getD (slotOf entry) fallback) rest

variable {slotOf fallback} {links : List α} {link : α} {entries : List α}

section

variable (chain : Chain slotOf fallback links link entries)
include chain

theorem Chain.inside {entry : α} (member : entry ∈ entries) : slotOf entry < links.length := by
  induction entries generalizing link with
  | nil => cases member
  | cons first rest ih =>
      obtain ⟨-, firstInside, tail⟩ := chain
      cases List.mem_cons.mp member with
      | inl isFirst => exact isFirst ▸ firstInside
      | inr inRest => exact ih tail inRest

theorem Chain.start : slotOf link = links.length ∨ slotOf link ∈ entries.map slotOf := by
  cases entries with
  | nil => exact .inl chain
  | cons first rest =>
      obtain ⟨rfl, -, -⟩ := chain
      exact .inr (List.mem_cons_self ..)

theorem Chain.after {entry : α} (member : entry ∈ entries) :
    slotOf (links.getD (slotOf entry) fallback) = links.length ∨
      slotOf (links.getD (slotOf entry) fallback) ∈ entries.map slotOf := by
  induction entries generalizing link with
  | nil => cases member
  | cons first rest ih =>
      obtain ⟨rfl, -, tail⟩ := chain
      rw [List.map_cons]
      cases List.mem_cons.mp member with
      | inl isFirst =>
          subst isFirst
          exact tail.start.imp_right (List.mem_cons_of_mem _)
      | inr inRest => exact (ih tail inRest).imp_right (List.mem_cons_of_mem _)

theorem Chain.set {slot : Nat}
    (notPassed : slot ∉ entries.map slotOf) (slotInside : slot < links.length) (value : α) :
    Chain slotOf fallback (links.set slot value) link entries := by
  induction entries generalizing link with
  | nil => exact chain.trans (List.length_set ..).symm
  | cons first rest ih =>
      obtain ⟨rfl, inside, tail⟩ := chain
      rw [List.map_cons, List.mem_cons, not_or] at notPassed
      refine ⟨rfl, by rwa [List.length_set], ?_⟩
      rw [getD_set slotInside, if_neg (Ne.symm notPassed.1)]
      exact ih tail notPassed.2

theorem Chain.cons {entry : α}
    (notPassed : slotOf entry ∉ entries.map slotOf) (entryInside : slotOf entry < links.length) :
    Chain slotOf fallback (links.set (slotOf entry) link) entry (entry :: entries) := by
  refine ⟨rfl, by rwa [List.length_set], ?_⟩
  rw [getD_set entryInside, if_pos rfl]
  exact chain.set notPassed entryInside link

end

end Gxf.Lib
