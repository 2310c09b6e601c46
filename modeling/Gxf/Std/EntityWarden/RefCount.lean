import Gxf.Core.Result
import Gxf.Lib.Run
import Gxf.Lib.Tally
import Gxf.Std.Entity

/-!
# Reference counts of entities

The warden counts the references to an entity in a map of its own.  An increment takes the
lock of the map twice: shared, to look for the entry, and then alone, to create it.  Between
the two other threads may step in.
-/

namespace Gxf.Std

open Gxf.Core Gxf.Lib Function

/-- `ref_count_store_`. -/
abbrev RefCountStore := Table Uid Int

namespace RefCountStore

/-- The first section of `incEntityRefCount(eid)`, which is all if there is an entry. -/
def incFound (store : RefCountStore) (eid : Uid) : Option RefCountStore :=
  (store.lookup eid).map fun count => store.insert eid (count + 1)

/-- The second section of `incEntityRefCount(eid)`: `emplace(eid, 1)`. -/
def incEmplace (store : RefCountStore) (eid : Uid) : RefCountStore :=
  if eid ∈ store then store else store.insert eid 1

/-- `incEntityRefCount(eid)`, which always succeeds, without a step of another thread
between the sections. -/
def incEntityRefCount (store : RefCountStore) (eid : Uid) : RefCountStore :=
  (store.incFound eid).getD (store.incEmplace eid)

/-- `decEntityRefCount(eid, value)`. -/
def decEntityRefCount (store : RefCountStore) (eid : Uid) : RefCountStore × Except GxfResult Int :=
  match store.lookup eid with
  | none => (store, .error .GXF_REF_COUNT_NEGATIVE)
  | some count =>
      (store.insert eid (count - 1),
        if count - 1 < 0 then .error .GXF_REF_COUNT_NEGATIVE else .ok (count - 1))

/-- `getEntityRefCount(eid, count)`. -/
def getEntityRefCount (store : RefCountStore) (eid : Uid) : Except GxfResult Int :=
  match store.lookup eid with
  | none => .error .GXF_PARAMETER_NOT_FOUND
  | some count => .ok count

/-- `removeEntityRefCount(eid)`. -/
def removeEntityRefCount (store : RefCountStore) (eid : Uid) : RefCountStore := store.erase eid

def count (store : RefCountStore) (eid : Uid) : Int := (store.lookup eid).getD 0

variable {store next : RefCountStore} {eid : Uid}

theorem count_insert (store : RefCountStore) (eid other : Uid) (value : Int) :
    count (store.insert eid value) other = if other = eid then value else store.count other := by
  rw [count, count]
  split
  next same => rw [same, AList.lookup_insert, Option.getD_some]
  next different => rw [AList.lookup_insert_ne different]

theorem count_incFound (found : store.incFound eid = some next) (other : Uid) :
    next.count other = store.count other + if other = eid then 1 else 0 := by
  obtain ⟨value, stored, rfl⟩ := Option.map_eq_some_iff.mp found
  rw [count_insert]
  split
  next same => rw [same, count, stored, Option.getD_some]
  next => rw [Int.add_zero]

theorem notMem_of_incFound (missing : store.incFound eid = none) : eid ∉ store :=
  AList.lookup_eq_none.mp (Option.map_eq_none_iff.mp missing)

theorem count_of_notMem (missing : eid ∉ store) : store.count eid = 0 := by
  rw [count, AList.lookup_eq_none.mpr missing, Option.getD_none]

theorem count_incEmplace (missing : eid ∉ store) (other : Uid) :
    (store.incEmplace eid).count other = store.count other + if other = eid then 1 else 0 := by
  rw [incEmplace, if_neg missing, count_insert]
  split
  next same => rw [same, count_of_notMem missing, Int.zero_add]
  next => rw [Int.add_zero]

theorem count_incEntityRefCount (store : RefCountStore) (eid other : Uid) :
    (store.incEntityRefCount eid).count other =
      store.count other + if other = eid then 1 else 0 := by
  rw [incEntityRefCount]
  cases found : store.incFound eid with
  | some next => exact count_incFound found other
  | none => exact count_incEmplace (notMem_of_incFound found) other

theorem count_decEntityRefCount (positive : 0 < store.count eid) (other : Uid) :
    (store.decEntityRefCount eid).1.count other =
      store.count other - if other = eid then 1 else 0 := by
  cases stored : store.lookup eid with
  | none =>
      rw [count, stored] at positive
      exact absurd positive (by decide)
  | some value =>
      rw [decEntityRefCount, stored, count_insert]
      split
      next same => rw [same, count, stored, Option.getD_some]
      next => rw [Int.sub_zero]

end RefCountStore

/-! ## Threads -/

/-- The counts under threads that are in the middle of an increment or outside of any.  The
last three fields record the references that are held, and the increments and decrements
completed. -/
structure Counting (Thread : Type) where
  store : RefCountStore
  creating : Thread → Option Uid
  references : List (Thread × Uid)
  incs : Uid → Nat
  decs : Uid → Nat

/-- The sections of the calls. -/
inductive CountingOp (Thread : Type) where
  | incFind (thread : Thread) (eid : Uid)
  | incCreate (thread : Thread)
  | dec (thread : Thread) (eid : Uid)

namespace Counting

variable {Thread : Type} [DecidableEq Thread]

def completeInc (counting : Counting Thread) (thread : Thread) (eid : Uid)
    (store : RefCountStore) : Counting Thread :=
  { counting with
    store
    references := (thread, eid) :: counting.references
    incs := update counting.incs eid (counting.incs eid + 1) }

/-- A thread starts or ends the wait for the second section. -/
def setCreating (counting : Counting Thread) (thread : Thread) (eid : Option Uid) :
    Counting Thread :=
  { counting with creating := update counting.creating thread eid }

def completeDec (counting : Counting Thread) (thread : Thread) (eid : Uid)
    (store : RefCountStore) : Counting Thread :=
  { counting with
    store
    references := counting.references.erase (thread, eid)
    decs := update counting.decs eid (counting.decs eid + 1) }

/-- A section of a thread.  A thread that is waiting does nothing else, and a thread gives
up only references it holds. -/
def step (counting : Counting Thread) : CountingOp Thread → Counting Thread
  | .incFind thread eid =>
      if (counting.creating thread).isSome then counting
      else
        match counting.store.incFound eid with
        | some store => counting.completeInc thread eid store
        | none => counting.setCreating thread (some eid)
  | .incCreate thread =>
      match counting.creating thread with
      | none => counting
      | some eid =>
          (counting.setCreating thread none).completeInc thread eid (counting.store.incEmplace eid)
  | .dec thread eid =>
      if (counting.creating thread).isNone ∧ (thread, eid) ∈ counting.references then
        counting.completeDec thread eid (counting.store.decEntityRefCount eid).1
      else counting

def sections (Thread : Type) [DecidableEq Thread] :
    System (Counting Thread) (CountingOp Thread) Unit where
  step counting op := (counting.step op, ())

/-- Nothing is counted, and no thread is in a call. -/
def initial (Thread : Type) : Counting Thread := ⟨∅, fun _ => none, [], fun _ => 0, fun _ => 0⟩

/-- The stored count is the number of completed increments without the completed
decrements, and where it is zero nobody holds a reference. -/
structure Accurate (counting : Counting Thread) : Prop where
  count : ∀ eid, counting.store.count eid = (counting.incs eid : Int) - counting.decs eid
  zero : ∀ eid, counting.store.lookup eid = some 0 → ∀ thread, (thread, eid) ∉ counting.references

def CreatesOnce (counting : Counting Thread) : CountingOp Thread → Prop
  | .incCreate thread => ∀ eid ∈ counting.creating thread, eid ∉ counting.store
  | _ => True

/-- The number of references that are held. -/
def held (counting : Counting Thread) (eid : Uid) : Nat :=
  counting.references.countP fun reference => reference.2 = eid

/-- The invariant of a run. -/
structure Balanced (counting : Counting Thread) : Prop where
  count : ∀ eid, counting.store.count eid = (counting.incs eid : Int) - counting.decs eid
  held : ∀ eid, counting.store.count eid = counting.held eid

variable {counting : Counting Thread} {thread : Thread} {eid : Uid} {store : RefCountStore}

omit [DecidableEq Thread] in
theorem Balanced.accurate (balanced : Balanced counting) : Accurate counting := by
  refine ⟨balanced.count, fun eid isZero thread member => ?_⟩
  have none := balanced.held eid
  rw [RefCountStore.count, isZero, Option.getD_some] at none
  have positive : 0 < counting.held eid :=
    List.countP_pos_iff.mpr ⟨(thread, eid), member, decide_eq_true rfl⟩
  omega

omit [DecidableEq Thread] in
theorem held_completeInc (counting : Counting Thread) (thread : Thread) (eid other : Uid)
    (store : RefCountStore) : (counting.completeInc thread eid store).held other =
      counting.held other + if other = eid then 1 else 0 := by
  rw [held, completeInc, List.countP_cons, held]
  by_cases same : other = eid
  · rw [if_pos same, if_pos (decide_eq_true same.symm)]
  · rw [if_neg same, if_neg (by simpa using Ne.symm same)]

theorem held_completeDec (member : (thread, eid) ∈ counting.references) (other : Uid)
    (store : RefCountStore) : ((counting.completeDec thread eid store).held other : Int) =
      counting.held other - if other = eid then 1 else 0 := by
  have split := (List.perm_cons_erase member).countP_eq fun reference => reference.2 = other
  rw [List.countP_cons] at split
  rw [held, completeDec, held, split]
  by_cases same : other = eid
  · simp [same]
  · simp [same, Ne.symm same]

section

variable (balanced : Balanced counting)
include balanced

omit [DecidableEq Thread] in
theorem Balanced.completeInc (counted : ∀ other, store.count other =
      counting.store.count other + if other = eid then 1 else 0) :
    Balanced (counting.completeInc thread eid store) := by
  constructor
  · intro other
    have before := balanced.count other
    change store.count other = (update counting.incs eid _ other : Int) - _
    rw [counted other, before, update_apply]
    split
    next same =>
      rw [same]
      change _ = _ - (counting.decs eid : Int)
      omega
    next => exact Int.add_zero _
  · intro other
    change store.count other = _
    rw [counted other, balanced.held other, held_completeInc]
    split <;> rfl

theorem Balanced.completeDec (member : (thread, eid) ∈ counting.references)
    (counted : ∀ other, store.count other =
      counting.store.count other - if other = eid then 1 else 0) :
    Balanced (counting.completeDec thread eid store) := by
  constructor
  · intro other
    have before := balanced.count other
    change store.count other = _ - (update counting.decs eid _ other : Int)
    rw [counted other, before, update_apply]
    split
    next same =>
      rw [same]
      change _ = (counting.incs eid : Int) - _
      omega
    next => exact Int.sub_zero _
  · intro other
    change store.count other = _
    rw [counted other, balanced.held other, held_completeDec member]

theorem Balanced.setCreating (thread : Thread)
    (waiting : Option Uid) : Balanced (counting.setCreating thread waiting) :=
  ⟨balanced.count, balanced.held⟩

theorem Balanced.step {op : CountingOp Thread}
    (guarded : CreatesOnce counting op) : Balanced (counting.step op) := by
  cases op with
  | incFind thread eid =>
      rw [Counting.step]
      split
      next => exact balanced
      next =>
        split
        next store found => exact balanced.completeInc (RefCountStore.count_incFound found)
        next => exact balanced.setCreating thread _
  | incCreate thread =>
      rw [Counting.step]
      split
      next => exact balanced
      next eid waiting =>
        apply (balanced.setCreating thread none).completeInc
        exact RefCountStore.count_incEmplace (guarded eid waiting)
  | dec thread eid =>
      rw [Counting.step]
      split
      next enabled =>
        apply balanced.completeDec enabled.2
        apply RefCountStore.count_decEntityRefCount
        rw [balanced.held eid]
        exact Int.natCast_pos.mpr
          (List.countP_pos_iff.mpr ⟨(thread, eid), enabled.2, decide_eq_true rfl⟩)
      next => exact balanced

theorem Balanced.accurate_step_iff (op : CountingOp Thread) :
    Accurate (counting.step op) ↔ CreatesOnce counting op := by
  constructor
  · intro accurate
    cases op with
    | incFind | dec => trivial
    | incCreate thread =>
        intro eid waiting known
        have after := accurate.count eid
        rw [Counting.step, waiting] at after
        -- the map is as before, and yet one more increment is complete
        have kept : counting.store.incEmplace eid = counting.store := if_pos known
        change (counting.store.incEmplace eid).count eid =
          (update counting.incs eid (counting.incs eid + 1) eid : Int) - _ at after
        rw [kept, balanced.count eid, update_self] at after
        change _ = _ - (counting.decs eid : Int) at after
        omega
  · exact fun guarded => (balanced.step guarded).accurate

end

theorem balanced_initial (Thread : Type) [DecidableEq Thread] : Balanced (initial Thread) :=
  ⟨fun _ => rfl, fun _ => rfl⟩

/-- For any threads and every interleaving of their sections: the stored counts are
accurate after each section if and only if no entry is created that is there already. -/
theorem run_accurate_iff (Thread : Type) [DecidableEq Thread] (ops : List (CountingOp Thread)) :
    (sections Thread).Along (fun counting op => Accurate ((sections Thread).step counting op).1)
        (initial Thread) ops ↔
      (sections Thread).Along CreatesOnce (initial Thread) ops :=
  System.along_iff_guarded (fun _ _ balanced guarded => balanced.step guarded)
    (fun _ op balanced => balanced.accurate_step_iff op) (balanced_initial Thread) ops

/-- Two threads increment for the first time.  After one decrement the count is zero, while
the other thread holds its reference. -/
theorem first_increment_lost :
    let ops : List (CountingOp Bool) := [.incFind false 7, .incFind true 7, .incCreate false,
      .incCreate true, .dec false 7]
    let counting := (sections Bool).run (initial Bool) ops
    counting.store.lookup 7 = some 0 ∧ counting.references = [(true, 7)] ∧
      counting.incs 7 = 2 ∧ counting.decs 7 = 1 ∧ ¬Accurate counting := by
  refine ⟨by decide, by decide, by decide, by decide, fun accurate => ?_⟩
  exact accurate.zero 7 (by decide) true (by decide)

end Counting

end Gxf.Std
