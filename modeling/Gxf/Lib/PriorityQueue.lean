import Mathlib.Data.Multiset.AddSub

/-!
# Priority queues

A queue that gives out a greatest element.  Which one of several greatest elements it
gives out, and how it stores them, is left to the implementation.
-/

namespace Gxf.Lib

/-- A test that orders some elements, as a strict weak order. -/
structure Orders {α : Type*} (less : α → α → Bool) (elements : Multiset α) : Prop where
  irrefl : ∀ item ∈ elements, less item item = false
  trans : ∀ first ∈ elements, ∀ second ∈ elements, ∀ third ∈ elements,
    less first second = true → less second third = true → less first third = true
  apart : ∀ first ∈ elements, ∀ second ∈ elements, ∀ third ∈ elements,
    less first third = true → less first second = true ∨ less second third = true

/-- An implementation of a priority queue for a test.  It gives out a greatest element if the test
orders its elements, and some element otherwise. -/
structure PriorityQueue (α : Type*) (less : α → α → Bool) where
  Queue : Type
  contents : Queue → Multiset α
  empty : Queue
  push : Queue → α → Queue
  top : Queue → Option α
  pop : Queue → Queue
  contents_empty : contents empty = 0
  contents_push : ∀ queue item, contents (push queue item) = item ::ₘ contents queue
  top_eq_none_iff : ∀ queue, top queue = none ↔ contents queue = 0
  top_greatest : ∀ queue item, Orders less (contents queue) → top queue = some item →
    ∀ other ∈ contents queue, less item other = false
  contents_pop : ∀ queue item, top queue = some item →
    item ::ₘ contents (pop queue) = contents queue

namespace PriorityQueue

variable {α : Type*} {less : α → α → Bool} (heap : PriorityQueue α less)

/-- `empty()`. -/
def isEmpty (queue : heap.Queue) : Bool := (heap.top queue).isNone

theorem isEmpty_iff (queue : heap.Queue) : heap.isEmpty queue = true ↔ heap.contents queue = 0 := by
  rw [isEmpty, Option.isNone_iff_eq_none, heap.top_eq_none_iff]

theorem exists_greatest {list : List α} (orders : Orders less list) (nonempty : list ≠ []) :
    ∃ item ∈ list, ∀ other ∈ list, less item other = false := by
  induction list with
  | nil => exact absurd rfl nonempty
  | cons first rest ih =>
      by_cases alone : rest = []
      · subst alone
        exact ⟨first, List.mem_cons_self, by simpa using orders.irrefl⟩
      obtain ⟨item, member, greatest⟩ := ih ⟨fun one inside => orders.irrefl one (.tail _ inside),
        fun one inOne two inTwo three inThree =>
          orders.trans one (.tail _ inOne) two (.tail _ inTwo) three (.tail _ inThree),
        fun one inOne two inTwo three inThree =>
          orders.apart one (.tail _ inOne) two (.tail _ inTwo) three (.tail _ inThree)⟩ alone
      by_cases above : less item first = true
      · refine ⟨first, List.mem_cons_self, List.forall_mem_cons.mpr
          ⟨orders.irrefl first List.mem_cons_self, fun other inside => ?_⟩⟩
        by_contra below
        have past := orders.trans item (.tail _ member) first List.mem_cons_self other
          (.tail _ inside) above (Bool.not_eq_false _ ▸ below)
        rw [greatest other inside] at past
        cases past
      · exact ⟨item, List.mem_cons_of_mem _ member,
          List.forall_mem_cons.mpr ⟨Bool.not_eq_true _ ▸ above, greatest⟩⟩

/-- A greatest element of a list, or its first one. -/
def greatest? (less : α → α → Bool) (list : List α) : Option α :=
  (list.find? fun item => list.all fun other => !less item other).or list.head?

theorem mem_of_greatest? {list : List α} {item : α} (isTop : greatest? less list = some item) :
    item ∈ list := by
  rcases Option.or_eq_some_iff.mp isTop with found | ⟨-, isHead⟩
  · exact List.mem_of_find?_eq_some found
  · exact List.mem_of_head? isHead

/-- The elements in a list. -/
def ofList {α : Type} [DecidableEq α] (less : α → α → Bool) : PriorityQueue α less where
  Queue := List α
  contents := (↑)
  empty := []
  push queue item := item :: queue
  top := greatest? less
  pop queue := (greatest? less queue).elim [] queue.erase
  contents_empty := rfl
  contents_push _ _ := rfl
  top_eq_none_iff queue := by
    rw [greatest?, Option.or_eq_none_iff, List.head?_eq_none_iff, Multiset.coe_eq_zero]
    exact ⟨And.right, fun isEmpty => ⟨isEmpty ▸ rfl, isEmpty⟩⟩
  top_greatest queue item orders isTop other member := by
    obtain ⟨best, among, greatest⟩ := exists_greatest orders (List.ne_nil_of_mem member)
    rcases Option.or_eq_some_iff.mp isTop with found | ⟨none, -⟩
    · have all := List.find?_some found
      simpa using List.all_eq_true.mp all other member
    · exact absurd (List.all_eq_true.mpr fun one inside => by simp [greatest one inside])
        (List.find?_eq_none.mp none best among)
  contents_pop queue item isTop := by
    rw [isTop, Option.elim_some, Multiset.cons_coe, Multiset.coe_eq_coe]
    exact (List.perm_cons_erase (mem_of_greatest? isTop)).symm

end PriorityQueue

end Gxf.Lib
