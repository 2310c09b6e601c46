import Gxf.Core.Runtime.EntityLife

/-!
# Handles of entities

`Entity` is a handle that holds a reference to an entity.  Its special members adjust the
count of the entity, and the destructor of the last handle destroys it.  A rule for each
member says how many handles the count stands for afterwards.
-/

namespace Gxf.Core

open Gxf.Std RefCountStore

/-- `Entity`.  A handle that names an entity has a context. -/
structure EntityHandle (Context : Type) where
  context : Option Context
  eid : Uid
  grounded : context = none → eid = kNullUid
  deriving DecidableEq

namespace EntityHandle

variable {Context Parameters : Type}

/-- `Entity()`. -/
def null : EntityHandle Context := ⟨none, kNullUid, fun _ => rfl⟩

/-- `Entity::Own(context, eid)`. -/
def own (context : Context) (eid : Uid) : EntityHandle Context := ⟨some context, eid, nofun⟩

/-- `Entity::Shared(context, eid)`.  Only without a context the increment fails, and then the
destructor of the result does nothing either. -/
def shared (runtime : Runtime Parameters) (context : Option Context) (eid : Uid) :
    Runtime Parameters × Except GxfResult (EntityHandle Context) :=
  match context with
  | none => (runtime, .error .GXF_CONTEXT_INVALID)
  | some context => ((runtime.entityRefCountInc eid).1, .ok (own context eid))

/-- `GxfEntityRefCountInc(context_, eid_)`. -/
def refCountInc (runtime : Runtime Parameters) (entity : EntityHandle Context) :
    Runtime Parameters :=
  match entity.context with
  | none => runtime
  | some _ => (runtime.entityRefCountInc entity.eid).1

def copy (runtime : Runtime Parameters) (other : EntityHandle Context) :
    Runtime Parameters × EntityHandle Context :=
  (if other.eid ≠ kNullUid then refCountInc runtime other else runtime, other)

/-- The move constructor: the new handle, and what is left of the other one. -/
def move (other : EntityHandle Context) : EntityHandle Context × EntityHandle Context :=
  (other, null)

/-- `release()`. -/
def release (teardown : Uid → Teardown) (runtime : Runtime Parameters)
    (entity : EntityHandle Context) : Runtime Parameters × EntityHandle Context :=
  (match entity.context with
    | none => runtime
    | some _ => (runtime.entityRefCountDec entity.eid (teardown entity.eid)).1,
    ⟨entity.context, kNullUid, fun _ => rfl⟩)

def destroy (teardown : Uid → Teardown) (runtime : Runtime Parameters)
    (entity : EntityHandle Context) : Runtime Parameters :=
  if entity.eid ≠ kNullUid then (entity.release teardown runtime).1 else runtime

def copyAssign [DecidableEq Context] (teardown : Uid → Teardown) (runtime : Runtime Parameters)
    (self other : EntityHandle Context) : Runtime Parameters × EntityHandle Context :=
  if self.eid = other.eid ∧ self.context = other.context then (runtime, self)
  else copy (self.destroy teardown runtime) other

def moveAssign (teardown : Uid → Teardown) (runtime : Runtime Parameters)
    (self other : EntityHandle Context) :
    Runtime Parameters × EntityHandle Context × EntityHandle Context :=
  (self.destroy teardown runtime, other, null)

/-- `clone()`. -/
def clone (runtime : Runtime Parameters) (entity : EntityHandle Context) :
    Runtime Parameters × Except GxfResult (EntityHandle Context) :=
  shared runtime entity.context entity.eid

/-- `Entity::New(context)`. -/
def new (runtime : Runtime Parameters) (context : Context) :
    Runtime Parameters × Except GxfResult (EntityHandle Context) :=
  let (created, code) := runtime.createEntity none
  if code ≠ .GXF_SUCCESS then (created, .error code)
  else shared created (some context) runtime.nextId

/-- Whether a handle names an entity, as a number. -/
def names (entity : EntityHandle Context) (eid : Uid) : Nat := if entity.eid = eid then 1 else 0

/-- The number of handles that name an entity. -/
def naming (entities : List (EntityHandle Context)) (eid : Uid) : Nat :=
  (entities.map fun entity => entity.names eid).sum

def Counts (runtime : Runtime Parameters) (eid : Uid) (handles : Nat) : Prop :=
  runtime.refCounts.count eid = handles

variable {runtime : Runtime Parameters} {eid other : Uid} {handles : Nat}
  {entity self : EntityHandle Context} {teardown : Uid → Teardown}

theorem names_of_null (real : eid ≠ kNullUid) (isNull : entity.eid = kNullUid) :
    entity.names eid = 0 :=
  if_neg fun same => real (same.symm.trans isNull)

theorem names_null (real : eid ≠ kNullUid) : (null : EntityHandle Context).names eid = 0 :=
  names_of_null real rfl

theorem count_entityDestroyImpl {teardown : Teardown} (zero : runtime.refCounts.count other = 0) :
    (runtime.entityDestroyImpl other teardown).1.refCounts.count eid =
      runtime.refCounts.count eid := by
  rw [Runtime.entityDestroyImpl]
  split
  next => rfl
  next =>
    dsimp only
    split
    next => rfl
    next =>
      split
      next => rfl
      next =>
        change RefCountStore.count (runtime.refCounts.erase other) eid = _
        by_cases same : eid = other
        · rw [same, zero, RefCountStore.count, AList.lookup_erase, Option.getD_none]
        · rw [RefCountStore.count, AList.lookup_erase_ne same, RefCountStore.count]

theorem Counts.inc (counts : Counts runtime eid handles) (other : Uid) :
    Counts (runtime.entityRefCountInc other).1 eid (handles + if other = eid then 1 else 0) := by
  have counted := count_incEntityRefCount runtime.refCounts other eid
  rw [counts] at counted
  refine counted.trans ?_
  by_cases same : other = eid
  · rw [if_pos same, if_pos same.symm]
    rfl
  · rw [if_neg same, if_neg (Ne.symm same)]
    rfl

theorem count_decEntityRefCount_of_ne (store : RefCountStore) (different : eid ≠ other) :
    (store.decEntityRefCount other).1.count eid = store.count eid := by
  rw [decEntityRefCount]
  split
  next => rfl
  next => rw [count_insert, if_neg different]

theorem count_of_decEntityRefCount {store : RefCountStore} {value : Int}
    (counted : (store.decEntityRefCount other).2 = .ok value) :
    (store.decEntityRefCount other).1.count other = value := by
  rw [decEntityRefCount] at counted ⊢
  split at counted
  next => cases counted
  next count stored =>
    dsimp only
    rw [count_insert, if_pos rfl]
    split at counted
    next => cases counted
    next => exact Except.ok.inj counted

/-- A decrement takes away the reference that it gives up. -/
theorem Counts.dec {teardown : Teardown}
    (counts : Counts runtime eid (handles + if other = eid then 1 else 0)) :
    Counts (runtime.entityRefCountDec other teardown).1 eid handles := by
  have counted : (runtime.refCounts.decEntityRefCount other).1.count eid = handles := by
    rw [Counts] at counts
    by_cases same : other = eid
    · rw [if_pos same] at counts
      rw [same, count_decEntityRefCount (by omega), if_pos rfl, counts]
      omega
    · rw [if_neg same] at counts
      rw [count_decEntityRefCount_of_ne runtime.refCounts (Ne.symm same), counts]
      rfl
  rw [Runtime.entityRefCountDec]
  dsimp only
  split
  next => exact counted
  next value isValue =>
    split
    next isZero =>
      rw [isZero] at isValue
      exact (count_entityDestroyImpl (count_of_decEntityRefCount isValue)).trans counted
    next => exact counted

theorem Counts.shared (counts : Counts runtime eid handles) {context : Option Context}
    {made : EntityHandle Context} (isMade : (shared runtime context other).2 = .ok made) :
    Counts (EntityHandle.shared runtime context other).1 eid (handles + made.names eid) := by
  cases context with
  | none => cases isMade
  | some context =>
      cases isMade
      exact counts.inc other

theorem Counts.copy (real : eid ≠ kNullUid) (counts : Counts runtime eid handles)
    (entity : EntityHandle Context) :
    Counts (EntityHandle.copy runtime entity).1 eid (handles + entity.names eid) := by
  rw [EntityHandle.copy]
  dsimp only
  split
  next isReal =>
    rw [refCountInc]
    split
    next noContext => exact absurd (entity.grounded noContext) isReal
    next => exact counts.inc entity.eid
  next isNull =>
    rw [names_of_null real (not_not.mp isNull)]
    exact counts

theorem Counts.destroy (real : eid ≠ kNullUid)
    (counts : Counts runtime eid (handles + entity.names eid)) :
    Counts (EntityHandle.destroy teardown runtime entity) eid handles := by
  rw [EntityHandle.destroy]
  split
  next isReal =>
    rw [release]
    dsimp only
    split
    next noContext => exact absurd (entity.grounded noContext) isReal
    next => exact counts.dec
  next isNull =>
    rw [names_of_null real (not_not.mp isNull)] at counts
    exact counts

theorem copyAssign_snd [DecidableEq Context] (teardown : Uid → Teardown)
    (runtime : Runtime Parameters) (self other : EntityHandle Context) :
    (copyAssign teardown runtime self other).2 = other := by
  rw [copyAssign]
  split
  next same =>
    cases self
    cases other
    obtain ⟨rfl, rfl⟩ := same
    rfl
  next => rfl

theorem Counts.copyAssign [DecidableEq Context] (real : eid ≠ kNullUid)
    (counts : Counts runtime eid (handles + self.names eid)) (other : EntityHandle Context) :
    Counts (EntityHandle.copyAssign teardown runtime self other).1 eid
      (handles + other.names eid) := by
  rw [EntityHandle.copyAssign]
  split
  next same =>
    rw [names, same.1, ← names] at counts
    exact counts
  next => exact (counts.destroy real).copy real other

theorem refCounts_createEntity (runtime : Runtime Parameters) (entityName : Option String) :
    (runtime.createEntity entityName).1.refCounts = runtime.refCounts := by
  rw [Runtime.createEntity]
  split
  next => rfl
  next =>
    dsimp only
    split <;> rfl

theorem Counts.new (counts : Counts runtime eid handles) (context : Context) :
    (∀ made, (EntityHandle.new runtime context).2 = .ok made →
      Counts (EntityHandle.new runtime context).1 eid (handles + made.names eid)) ∧
    ∀ code, (EntityHandle.new runtime context).2 = .error code →
      Counts (EntityHandle.new runtime context).1 eid handles := by
  have created : Counts (runtime.createEntity none).1 eid handles := by
    rw [Counts, refCounts_createEntity]
    exact counts
  rw [EntityHandle.new]
  dsimp only
  split
  next => exact ⟨nofun, fun _ _ => created⟩
  next => exact ⟨fun _ isMade => created.shared isMade, nofun⟩

end EntityHandle

end Gxf.Core
