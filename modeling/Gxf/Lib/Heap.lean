import Mathlib.Data.List.Perm.Basic
import Mathlib.Data.List.Nodup

/-!
# Buffers of a heap

A heap hands out buffers and takes them back.  It remembers which buffers were taken back, in
order, and which were read afterwards.  A list of owned buffers accounts for a heap when every
other buffer was taken back exactly once and none was read too late.
-/

namespace Gxf.Lib

/-- A heap of buffers.  A buffer is addressed by its number; what it holds stays known after
it was taken back. -/
structure Heap (Content : Type*) where
  contents : List Content
  freed : List Nat
  stale : List Nat
  deriving DecidableEq, Repr

namespace Heap

variable {Content : Type*}

/-- The heap without a buffer. -/
def empty : Heap Content := ⟨[], [], []⟩

/-- A new buffer with a content, and its address. -/
def malloc (heap : Heap Content) (content : Content) : Heap Content × Nat :=
  ({ heap with contents := heap.contents ++ [content] }, heap.contents.length)

/-- A buffer is taken back. -/
def free (heap : Heap Content) (address : Nat) : Heap Content :=
  { heap with freed := heap.freed ++ [address] }

def read (heap : Heap Content) (address : Nat) : Heap Content :=
  if address ∈ heap.freed then { heap with stale := heap.stale ++ [address] } else heap

/-- What was written to a buffer. -/
def content (heap : Heap Content) (address : Nat) : Option Content := heap.contents[address]?

/-- Every buffer was taken back at most once and never read afterwards, and the buffers that
were not taken back are among some addresses. -/
structure Clean (heap : Heap Content) (referenced : List Nat) : Prop where
  once : heap.freed.Nodup
  fresh : heap.stale = []
  kept : ∀ address < heap.contents.length, address ∉ heap.freed → address ∈ referenced

/-- Some buffers are owned: each of them once, and exactly those that were not taken back. -/
structure Owns (heap : Heap Content) (owned : List Nat) : Prop where
  once : heap.freed.Nodup
  fresh : heap.stale = []
  nodup : owned.Nodup
  bounded : ∀ address ∈ heap.freed, address < heap.contents.length
  mem_iff : ∀ address, address ∈ owned ↔ address < heap.contents.length ∧ address ∉ heap.freed

namespace Owns

variable {heap : Heap Content} {owned other : List Nat} {address : Nat}

theorem empty : Owns (empty : Heap Content) [] where
  once := List.nodup_nil
  fresh := rfl
  nodup := List.nodup_nil
  bounded _ member := by cases member
  mem_iff address := by simp [Heap.empty]

section

variable (owns : heap.Owns owned)
include owns

theorem clean (references : ∀ address ∈ owned, address ∈ other) : heap.Clean other :=
  ⟨owns.once, owns.fresh, fun address inside notFreed =>
    references address ((owns.mem_iff address).mpr ⟨inside, notFreed⟩)⟩

theorem perm (same : owned.Perm other) : heap.Owns other where
  __ := owns
  nodup := same.nodup owns.nodup
  mem_iff address := same.mem_iff.symm.trans (owns.mem_iff address)

theorem notFreed (member : address ∈ owned) : address ∉ heap.freed :=
  ((owns.mem_iff address).mp member).2

theorem inside (member : address ∈ owned) : address < heap.contents.length :=
  ((owns.mem_iff address).mp member).1

theorem read (member : address ∈ owned) : heap.read address = heap := if_neg (owns.notFreed member)

theorem malloc (content : Content) :
    (heap.malloc content).1.Owns ((heap.malloc content).2 :: owned) where
  once := owns.once
  fresh := owns.fresh
  nodup := List.nodup_cons.mpr ⟨fun member => Nat.lt_irrefl _ (owns.inside member), owns.nodup⟩
  bounded address member := by
    rw [Heap.malloc, List.length_append]
    exact Nat.lt_add_right 1 (owns.bounded address member)
  mem_iff address := by
    have outside : heap.contents.length ∉ heap.freed := fun member =>
      Nat.lt_irrefl _ (owns.bounded _ member)
    simp only [Heap.malloc, List.mem_cons, owns.mem_iff, List.length_append, List.length_singleton]
    constructor
    · rintro (rfl | ⟨inside, notFreed⟩)
      · exact ⟨Nat.lt_succ_self _, outside⟩
      · exact ⟨Nat.lt_succ_of_lt inside, notFreed⟩
    · rintro ⟨inside, notFreed⟩
      obtain inside | same := Nat.lt_succ_iff_lt_or_eq.mp inside
      · exact .inr ⟨inside, notFreed⟩
      · exact .inl same

end

theorem free (owns : heap.Owns (address :: owned)) : (heap.free address).Owns owned where
  once := by
    have notFreed := owns.notFreed (List.mem_cons_self ..)
    exact (List.nodup_append_comm.mp (List.nodup_cons.mpr ⟨notFreed, owns.once⟩))
  fresh := owns.fresh
  nodup := owns.nodup.of_cons
  bounded other member := by
    obtain member | member := List.mem_append.mp member
    · exact owns.bounded other member
    · obtain rfl := List.mem_singleton.mp member
      exact owns.inside (List.mem_cons_self ..)
  mem_iff other := by
    have notOwned := (List.nodup_cons.mp owns.nodup).1
    have known := owns.mem_iff other
    simp only [Heap.free, List.mem_append, List.mem_singleton, not_or]
    rw [← and_assoc, ← known, List.mem_cons]
    constructor
    · exact fun member => ⟨.inr member, fun same => notOwned (same ▸ member)⟩
    · exact fun ⟨member, different⟩ => member.resolve_left different

end Owns

/-- A later buffer does not change the earlier ones. -/
theorem content_malloc {heap : Heap Content} {address : Nat}
    (inside : address < heap.contents.length) (content : Content) :
    (heap.malloc content).1.content address = heap.content address :=
  List.getElem?_append_left inside

@[simp] theorem content_malloc_self (heap : Heap Content) (content : Content) :
    (heap.malloc content).1.content (heap.malloc content).2 = some content := by
  simp [malloc, Heap.content]

end Heap

end Gxf.Lib
