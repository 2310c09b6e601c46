import Gxf.Core.Result
import Gxf.Lib.Run
import Gxf.Lib.Tally

/-!
# Memory buffers

A memory buffer holds a pointer, the size of the memory there and a function that releases
it.  Buffers are moved into each other, resized, wrapped around given memory, freed and
destroyed.  The module accounts for every pointer a buffer has to release.
-/

namespace Gxf.Std

open Gxf.Core Gxf.Lib Function

/-- `MemoryStorageType`. -/
inductive MemoryStorageType where
  | kHost
  | kDevice
  | kSystem
  deriving DecidableEq, Repr

/-- A non-empty `release_func_`: `free` of an allocator, or a function of the caller. -/
inductive ReleaseFunction where
  | allocator (handle : Nat)
  | callback (id : Nat)
  deriving DecidableEq, Repr

/-- `MemoryBuffer`.  The null pointer is 0. -/
structure MemoryBuffer where
  size : UInt64 := 0
  storageType : MemoryStorageType := .kHost
  pointer : UInt64 := 0
  releaseFunc : Option ReleaseFunction := none
  deriving DecidableEq

/-- A call of a release function with the pointer it gets and what it answers. -/
structure ReleaseCall where
  function : ReleaseFunction
  pointer : UInt64
  answer : Except GxfResult Unit

/-- What a member function returns, with the release functions it called. -/
structure BufferAnswer where
  result : Except GxfResult Unit := .ok ()
  calls : List ReleaseCall := []

namespace MemoryBuffer

/-- `freeBuffer()`, where `answer` is what the release function answers. -/
def freeBuffer (buffer : MemoryBuffer) (answer : Except GxfResult Unit) :
    MemoryBuffer × BufferAnswer :=
  match buffer.releaseFunc with
  | none => (buffer, {})
  | some function =>
      if buffer.pointer = 0 then (buffer, {})
      else
        match answer with
        | .error code => (buffer, ⟨.error code, [⟨function, buffer.pointer, .error code⟩]⟩)
        | .ok _ =>
            ({ buffer with releaseFunc := none, pointer := 0, size := 0 },
              ⟨.ok (), [⟨function, buffer.pointer, .ok ()⟩]⟩)

/-- `resize(allocator, size, storage_type)`, where `allocation` is what the allocator
answers. -/
def resize (buffer : MemoryBuffer) (allocator : Nat) (size : UInt64)
    (storageType : MemoryStorageType) (answer : Except GxfResult Unit)
    (allocation : Except GxfResult UInt64) : MemoryBuffer × BufferAnswer :=
  let freed := buffer.freeBuffer answer
  match freed.2.result with
  | .error _ => freed
  | .ok _ =>
      match allocation with
      | .error code => (freed.1, { freed.2 with result := .error code })
      | .ok pointer => (⟨size, storageType, pointer, some (.allocator allocator)⟩, freed.2)

/-- `wrapMemory(pointer, size, storage_type, release_func)`. -/
def wrapMemory (buffer : MemoryBuffer) (pointer size : UInt64)
    (storageType : MemoryStorageType) (releaseFunc : Option ReleaseFunction)
    (answer : Except GxfResult Unit) : MemoryBuffer × BufferAnswer :=
  if pointer = buffer.pointer then (⟨size, storageType, buffer.pointer, releaseFunc⟩, {})
  else
    let freed := buffer.freeBuffer answer
    match freed.2.result with
    | .error _ => freed
    | .ok _ => (⟨size, storageType, pointer, releaseFunc⟩, freed.2)

/-- What a move leaves of the buffer it takes from. -/
def movedFrom (other : MemoryBuffer) : MemoryBuffer :=
  { other with pointer := 0, releaseFunc := none }

end MemoryBuffer

/-- The buffers that exist, by name. -/
abbrev Buffers := Table Nat MemoryBuffer

/-- The operations on buffers, with what release functions and allocators answer. -/
inductive BufferOp where
  | construct (name : Nat)
  | moveConstruct (name source : Nat)
  | moveAssign (target source : Nat)
  | resize (name allocator : Nat) (size : UInt64) (storageType : MemoryStorageType)
      (answer : Except GxfResult Unit) (allocation : Except GxfResult UInt64)
  | wrapMemory (name : Nat) (pointer size : UInt64) (storageType : MemoryStorageType)
      (releaseFunc : Option ReleaseFunction) (answer : Except GxfResult Unit)
  | freeBuffer (name : Nat) (answer : Except GxfResult Unit)
  | destroy (name : Nat) (answer : Except GxfResult Unit)

namespace Buffers

/-- A member function called on the buffer of a name, if there is one. -/
def onBuffer (buffers : Buffers) (name : Nat)
    (act : MemoryBuffer → MemoryBuffer × BufferAnswer) : Buffers × Option BufferAnswer :=
  match buffers.lookup name with
  | none => (buffers, none)
  | some buffer => (buffers.insert name (act buffer).1, some (act buffer).2)

/-- The move constructor assigns to a fresh buffer.  Both write the fields of the source
first and then clear two of them in the source, which may be the target itself. -/
def moveInto (buffers : Buffers) (target source : Nat) : Buffers × Option BufferAnswer :=
  match buffers.lookup source with
  | none => (buffers, none)
  | some other => ((buffers.insert target other).insert source other.movedFrom, some {})

/-- One operation.  It answers nothing when its buffer does not exist, or, for a
construction, exists already. -/
def step (buffers : Buffers) : BufferOp → Buffers × Option BufferAnswer
  | .construct name =>
      if name ∈ buffers then (buffers, none) else (buffers.insert name {}, some {})
  | .moveConstruct name source =>
      if name ∈ buffers then (buffers, none) else buffers.moveInto name source
  | .moveAssign target source =>
      if target ∈ buffers then buffers.moveInto target source else (buffers, none)
  | .resize name allocator size storageType answer allocation =>
      buffers.onBuffer name (·.resize allocator size storageType answer allocation)
  | .wrapMemory name pointer size storageType releaseFunc answer =>
      buffers.onBuffer name (·.wrapMemory pointer size storageType releaseFunc answer)
  | .freeBuffer name answer => buffers.onBuffer name (·.freeBuffer answer)
  | .destroy name answer =>
      match buffers.lookup name with
      | none => (buffers, none)
      | some buffer => (buffers.erase name, some (buffer.freeBuffer answer).2)

/-- The buffers and the operations on them. -/
def system : System Buffers BufferOp (Option BufferAnswer) where
  step := step

end Buffers

/-! ## Pointers obtained and released -/

namespace MemoryBuffer

/-- The pointer a buffer has to release. -/
def owed (buffer : MemoryBuffer) : List UInt64 :=
  if buffer.releaseFunc.isSome ∧ buffer.pointer ≠ 0 then [buffer.pointer] else []

end MemoryBuffer

namespace BufferAnswer

/-- The pointers released by the successful calls. -/
def released (answer : BufferAnswer) : List UInt64 := answer.calls.filterMap fun call =>
    match call.answer with
    | .ok _ => some call.pointer
    | .error _ => none

/-- The pointers of the failed calls. -/
def failed (answer : BufferAnswer) : List UInt64 := answer.calls.filterMap fun call =>
    match call.answer with
    | .ok _ => none
    | .error _ => some call.pointer

/-- The pointer a successful call put under the care of a buffer. -/
def granted (answer : BufferAnswer) (pointer : UInt64) : List UInt64 :=
  match answer.result with
  | .ok _ => if pointer = 0 then [] else [pointer]
  | .error _ => []

end BufferAnswer

namespace Buffers

/-- The pointer the buffer of a name has to release. -/
def owed (buffers : Buffers) (name : Nat) : List UInt64 :=
  ((buffers.lookup name).map MemoryBuffer.owed).getD []

/-- The pointers a step obtains from an allocator or with a release function.  A pointer
that its buffer has to release already only gets another release function. -/
def obtained (buffers : Buffers) (op : BufferOp) : List UInt64 :=
  match op with
  | .resize _ _ _ _ _ (.ok pointer) => ((buffers.step op).2.map (·.granted pointer)).getD []
  | .wrapMemory name pointer _ _ (some _) _ =>
      if pointer ∈ buffers.owed name then []
      else ((buffers.step op).2.map (·.granted pointer)).getD []
  | _ => []

/-- The pointers a step releases. -/
def released (buffers : Buffers) (op : BufferOp) : List UInt64 :=
  ((buffers.step op).2.map BufferAnswer.released).getD []

/-- The pointers whose release fails at the destruction of their buffer. -/
def abandoned (buffers : Buffers) (op : BufferOp) : List UInt64 :=
  match op with
  | .destroy _ _ => ((buffers.step op).2.map BufferAnswer.failed).getD []
  | _ => []

/-- The pointers a step forgets: those of a buffer that is assigned to, and one that is
wrapped again without a release function. -/
def lost (buffers : Buffers) : BufferOp → List UInt64
  | .moveAssign target source => if source ∈ buffers then buffers.owed target else []
  | .wrapMemory name pointer _ _ none _ => (buffers.owed name).filter (· = pointer)
  | _ => []

/-- The number of buffers that have to release a pointer. -/
def pending (buffers : Buffers) (pointer : UInt64) : Nat :=
  tally (fun buffer => pointer ∈ buffer.owed) buffers

end Buffers

namespace MemoryBuffer

variable {buffer : MemoryBuffer} {pointer : UInt64}

theorem count_owed (buffer : MemoryBuffer) (pointer : UInt64) :
    buffer.owed.count pointer = if pointer ∈ buffer.owed then 1 else 0 := by
  by_cases owes : buffer.releaseFunc.isSome ∧ buffer.pointer ≠ 0
  · rw [owed, if_pos owes, List.count_singleton]
    exact if_congr ((beq_iff_eq).trans (eq_comm.trans List.mem_singleton.symm)) rfl rfl
  · rw [owed, if_neg owes]
    rfl

theorem owed_none (size : UInt64) (storageType : MemoryStorageType) (pointer : UInt64) :
    owed ⟨size, storageType, pointer, none⟩ = [] := rfl

theorem owed_some (size : UInt64) (storageType : MemoryStorageType) (pointer : UInt64)
    (function : ReleaseFunction) :
    owed ⟨size, storageType, pointer, some function⟩ =
      if pointer = 0 then [] else [pointer] := by
  by_cases null : pointer = 0
  · rw [owed, if_neg (fun owes => owes.2 null), if_pos null]
  · rw [owed, if_pos ⟨rfl, null⟩, if_neg null]

theorem owed_movedFrom (buffer : MemoryBuffer) : buffer.movedFrom.owed = [] := rfl

theorem owed_of_null (null : buffer.pointer = 0) : buffer.owed = [] :=
  if_neg fun owes => owes.2 null

theorem eq_of_mem_owed (owes : pointer ∈ buffer.owed) : pointer = buffer.pointer := by
  rw [owed] at owes
  split at owes
  · exact List.mem_singleton.mp owes
  · cases owes

theorem freeBuffer_spec (buffer : MemoryBuffer) (answer : Except GxfResult Unit) :
    (buffer.owed = [] ∧ buffer.freeBuffer answer = (buffer, {})) ∨
    (∃ function, buffer.owed = [buffer.pointer] ∧
      ((∃ code, answer = .error code ∧ buffer.freeBuffer answer =
          (buffer, ⟨.error code, [⟨function, buffer.pointer, .error code⟩]⟩)) ∨
        (answer = .ok () ∧ buffer.freeBuffer answer = (⟨0, buffer.storageType, 0, none⟩,
            ⟨.ok (), [⟨function, buffer.pointer, .ok ()⟩]⟩)))) := by
  obtain ⟨size, storageType, held, releaseFunc⟩ := buffer
  cases releaseFunc with
  | none => exact .inl ⟨rfl, rfl⟩
  | some function =>
      rw [owed_some]
      by_cases null : held = 0
      · exact .inl ⟨if_pos null, if_pos null⟩
      · refine .inr ⟨function, if_neg null, ?_⟩
        cases answer with
        | error code => exact .inl ⟨code, rfl, if_neg null⟩
        | ok done => exact .inr ⟨rfl, if_neg null⟩

theorem freeBuffer_cases (buffer : MemoryBuffer) (answer : Except GxfResult Unit) :
    ((buffer.freeBuffer answer).2.result = .ok () ∧ (buffer.freeBuffer answer).1.owed = [] ∧
      (buffer.freeBuffer answer).2.released = buffer.owed ∧
      (buffer.freeBuffer answer).2.failed = []) ∨
    (∃ code, (buffer.freeBuffer answer).2.result = .error code ∧
      (buffer.freeBuffer answer).1 = buffer ∧ (buffer.freeBuffer answer).2.released = [] ∧
      (buffer.freeBuffer answer).2.failed = buffer.owed) := by
  obtain ⟨empty, freed⟩ | ⟨function, owes, ⟨code, -, freed⟩ | ⟨-, freed⟩⟩ :=
    buffer.freeBuffer_spec answer
  · rw [freed, empty]
    exact .inl ⟨rfl, rfl, rfl, rfl⟩
  · rw [freed, owes]
    exact .inr ⟨code, rfl, rfl, rfl, rfl⟩
  · rw [freed, owes]
    exact .inl ⟨rfl, rfl, rfl, rfl⟩

theorem resize_refused (buffer : MemoryBuffer) (allocator : Nat) (size : UInt64)
    (storageType : MemoryStorageType) (answer : Except GxfResult Unit) (code : GxfResult) :
    buffer.owed.count pointer =
      (buffer.resize allocator size storageType answer (.error code)).2.released.count pointer +
        (buffer.resize allocator size storageType answer (.error code)).1.owed.count pointer := by
  obtain ⟨done, empty, released, -⟩ | ⟨code, stopped, same, released, -⟩ :=
    buffer.freeBuffer_cases answer
  · simp only [resize, done]
    rw [empty]
    exact congrArg (List.count pointer) released.symm
  · simp only [resize, stopped, same, released, List.count_nil, Nat.zero_add]

theorem resize_accounts (buffer : MemoryBuffer) (allocator : Nat) (size : UInt64)
    (storageType : MemoryStorageType) (answer : Except GxfResult Unit) (given : UInt64) :
    let next := buffer.resize allocator size storageType answer (.ok given)
    (next.2.granted given).count pointer + buffer.owed.count pointer =
      next.2.released.count pointer + next.1.owed.count pointer := by
  intro next
  obtain ⟨done, empty, released, -⟩ | ⟨code, stopped, same, released, -⟩ :=
    buffer.freeBuffer_cases answer
  · have eq : next = (⟨size, storageType, given, some (.allocator allocator)⟩,
        (buffer.freeBuffer answer).2) := by
      simp only [next, resize, done]
    rw [eq, owed_some, released, BufferAnswer.granted, done, Nat.add_comm]
  · have eq : next = buffer.freeBuffer answer := by
      simp only [next, resize, stopped]
    rw [eq, same, released, BufferAnswer.granted, stopped]

theorem freeBuffer_accounts (buffer : MemoryBuffer) (answer : Except GxfResult Unit) :
    buffer.owed.count pointer = (buffer.freeBuffer answer).2.released.count pointer +
        (buffer.freeBuffer answer).1.owed.count pointer := by
  obtain ⟨-, empty, released, -⟩ | ⟨code, -, same, released, -⟩ := buffer.freeBuffer_cases answer
  · rw [empty, released, List.count_nil, Nat.add_zero]
  · rw [same, released, List.count_nil, Nat.zero_add]

theorem destroy_accounts (buffer : MemoryBuffer) (answer : Except GxfResult Unit)
    (pointer : UInt64) :
    buffer.owed.count pointer = (buffer.freeBuffer answer).2.released.count pointer +
        (buffer.freeBuffer answer).2.failed.count pointer := by
  obtain ⟨-, -, released, failed⟩ | ⟨code, -, -, released, failed⟩ := buffer.freeBuffer_cases answer
  · rw [failed, released, List.count_nil, Nat.add_zero]
  · rw [failed, released, List.count_nil, Nat.zero_add]

theorem wrapMemory_none_accounts (buffer : MemoryBuffer) (given size : UInt64)
    (storageType : MemoryStorageType) (answer : Except GxfResult Unit) :
    let next := buffer.wrapMemory given size storageType none answer
    buffer.owed.count pointer =
      next.2.released.count pointer + (buffer.owed.filter (· = given)).count pointer +
        next.1.owed.count pointer := by
  intro next
  by_cases held : given = buffer.pointer
  · have eq : next = (⟨size, storageType, buffer.pointer, none⟩, {}) := if_pos held
    have all : buffer.owed.filter (· = given) = buffer.owed :=
      List.filter_eq_self.mpr fun pointer owes =>
        decide_eq_true ((eq_of_mem_owed owes).trans held.symm)
    rw [eq, all, owed_none]
    exact (Nat.zero_add _).symm
  · have other : buffer.owed.filter (· = given) = [] :=
      List.filter_eq_nil_iff.mpr fun pointer owes same =>
        held ((of_decide_eq_true same).symm.trans (eq_of_mem_owed owes))
    obtain ⟨done, empty, released, -⟩ | ⟨code, stopped, same, released, -⟩ :=
      buffer.freeBuffer_cases answer
    · have eq : next = (⟨size, storageType, given, none⟩, (buffer.freeBuffer answer).2) := by
        simp only [next, wrapMemory, if_neg held, done]
      rw [eq, other, owed_none, released]
      rfl
    · have eq : next = buffer.freeBuffer answer := by
        simp only [next, wrapMemory, if_neg held, stopped]
      rw [eq, other, same, released, List.count_nil, Nat.zero_add]

theorem wrapMemory_some_accounts (buffer : MemoryBuffer) (given size : UInt64)
    (storageType : MemoryStorageType) (function : ReleaseFunction)
    (answer : Except GxfResult Unit) :
    let next := buffer.wrapMemory given size storageType (some function) answer
    (if given ∈ buffer.owed then [] else next.2.granted given).count pointer +
        buffer.owed.count pointer =
      next.2.released.count pointer + next.1.owed.count pointer := by
  intro next
  by_cases held : given = buffer.pointer
  · have eq : next = (⟨size, storageType, buffer.pointer, some function⟩, {}) := if_pos held
    rw [eq, owed_some, ← held]
    by_cases owes : given ∈ buffer.owed
    · have notNull : given ≠ 0 := by
        rintro rfl
        rw [owed, if_neg (fun both => both.2 held.symm)] at owes
        cases owes
      have same : buffer.owed = [given] := by
        rw [owed] at owes ⊢
        split at owes
        next both => rw [if_pos both, held]
        next => cases owes
      rw [if_pos owes, if_neg notNull, same]
      rfl
    · have none : buffer.owed = [] := by
        rw [owed] at owes ⊢
        split at owes
        next both => exact absurd (List.mem_singleton.mpr held) owes
        next both => rw [if_neg both]
      rw [if_neg owes, none]
      exact Nat.add_comm _ _
  · have fresh : given ∉ buffer.owed := fun owes => held (eq_of_mem_owed owes)
    rw [if_neg fresh]
    obtain ⟨done, empty, released, -⟩ | ⟨code, stopped, same, released, -⟩ :=
      buffer.freeBuffer_cases answer
    · have eq : next = (⟨size, storageType, given, some function⟩,
          (buffer.freeBuffer answer).2) := by
        simp only [next, wrapMemory, if_neg held, done]
      rw [eq, owed_some, released, BufferAnswer.granted, done, Nat.add_comm]
    · have eq : next = buffer.freeBuffer answer := by
        simp only [next, wrapMemory, if_neg held, stopped]
      rw [eq, same, released, BufferAnswer.granted, stopped]

end MemoryBuffer

namespace Buffers

variable {buffers : Buffers} {name target source : Nat} {buffer next other : MemoryBuffer}
  {pointer : UInt64}

theorem owed_of_lookup (stored : buffers.lookup name = some buffer) :
    buffers.owed name = buffer.owed := by
  rw [owed, stored]
  rfl

theorem owed_of_none (absent : buffers.lookup name = none) : buffers.owed name = [] := by
  rw [owed, absent]
  rfl

theorem pending_erase (stored : buffers.lookup name = some buffer) :
    pending buffers pointer = pending (buffers.erase name) pointer + buffer.owed.count pointer := by
  rw [pending, tally_of_lookup _ stored, buffer.count_owed]
  simp only [decide_eq_true_eq]
  rfl

theorem pending_insert (stored : buffers.lookup name = some buffer) (next : MemoryBuffer)
    (pointer : UInt64) :
    pending (buffers.insert name next) pointer + buffer.owed.count pointer =
      pending buffers pointer + next.owed.count pointer := by
  have after : pending (buffers.insert name next) pointer =
      pending (buffers.erase name) pointer + next.owed.count pointer := by
    rw [pending, tally_insert, next.count_owed]
    simp only [decide_eq_true_eq]
    rfl
  rw [after, pending_erase stored, Nat.add_right_comm]

theorem pending_new (fresh : name ∉ buffers) (next : MemoryBuffer) (pointer : UInt64) :
    pending (buffers.insert name next) pointer =
      pending buffers pointer + next.owed.count pointer := by
  rw [pending, tally_insert_of_notMem _ fresh, next.count_owed]
  simp only [decide_eq_true_eq]
  rfl

theorem pending_moveInto (stored : buffers.lookup source = some other)
    (target : Nat) (pointer : UInt64) :
    pending (buffers.moveInto target source).1 pointer + (buffers.owed target).count pointer =
      pending buffers pointer := by
  have moved : (buffers.moveInto target source).1 =
      (buffers.insert target other).insert source other.movedFrom := by
    rw [moveInto, stored]
  have again : (buffers.insert target other).lookup source = some other := by
    by_cases same : source = target
    · rw [same, AList.lookup_insert]
    · rw [AList.lookup_insert_ne same, stored]
  have second := pending_insert again other.movedFrom pointer
  rw [MemoryBuffer.owed_movedFrom, List.count_nil, Nat.add_zero, ← moved] at second
  cases found : buffers.lookup target with
  | none =>
      have first := pending_new (AList.lookup_eq_none.mp found) other pointer
      rw [owed_of_none found, List.count_nil]
      omega
  | some old =>
      have first := pending_insert found other pointer
      rw [owed_of_lookup found]
      omega

theorem pending_onBuffer (stored : buffers.lookup name = some buffer) {got released lost : Nat}
    (accounts : got + buffer.owed.count pointer = released + lost + next.owed.count pointer) :
    got + buffers.pending pointer =
      released + lost + pending (buffers.insert name next) pointer := by
  have inserted := pending_insert stored next pointer
  omega

theorem step_onBuffer (stored : buffers.lookup name = some buffer)
    (act : MemoryBuffer → MemoryBuffer × BufferAnswer) :
    buffers.onBuffer name act = (buffers.insert name (act buffer).1, some (act buffer).2) := by
  rw [onBuffer, stored]

theorem step_onBuffer_none (absent : buffers.lookup name = none)
    (act : MemoryBuffer → MemoryBuffer × BufferAnswer) :
    buffers.onBuffer name act = (buffers, none) := by
  rw [onBuffer, absent]

theorem step_accounted (buffers : Buffers) (op : BufferOp) (pointer : UInt64) :
    (buffers.obtained op).count pointer + buffers.pending pointer =
      (buffers.released op).count pointer + (buffers.abandoned op).count pointer +
        (buffers.lost op).count pointer + (buffers.step op).1.pending pointer := by
  cases op with
  | construct name =>
      by_cases there : name ∈ buffers
      · simp only [obtained, released, abandoned, lost, step, if_pos there]
        rfl
      · simp only [obtained, released, abandoned, lost, step, if_neg there]
        rw [pending_new there]
        rfl
  | moveConstruct name source =>
      by_cases there : name ∈ buffers
      · simp only [obtained, released, abandoned, lost, step, if_pos there]
        rfl
      · simp only [obtained, released, abandoned, lost, step, if_neg there]
        cases found : buffers.lookup source with
        | none =>
            simp only [moveInto, found]
            rfl
        | some other =>
            have moved := pending_moveInto found name pointer
            rw [owed_of_none (AList.lookup_eq_none.mpr there), List.count_nil] at moved
            rw [← moved]
            simp only [moveInto, found]
            rfl
  | moveAssign target source =>
      by_cases there : target ∈ buffers
      · simp only [obtained, released, abandoned, lost, step, if_pos there]
        cases found : buffers.lookup source with
        | none =>
            simp only [moveInto, found, if_neg (AList.lookup_eq_none.mp found)]
            rfl
        | some other =>
            have present : source ∈ buffers :=
              AList.lookup_isSome.mp (by rw [found, Option.isSome_some])
            rw [if_pos present, ← pending_moveInto found target]
            have silent : BufferAnswer.released {} = [] := rfl
            simp only [moveInto, found, Option.map_some, Option.getD_some, silent,
              List.count_nil, Nat.zero_add, Nat.add_comm]
      · have nothing := owed_of_none (AList.lookup_eq_none.mpr there)
        simp only [obtained, released, abandoned, lost, step, if_neg there, nothing, ite_self]
        rfl
  | resize name allocator size storageType answer allocation =>
      simp only [released, abandoned, lost, step]
      cases found : buffers.lookup name with
      | none =>
          simp only [step_onBuffer_none found]
          cases allocation <;> simp [obtained, step, step_onBuffer_none found]
      | some buffer =>
          simp only [step_onBuffer found, Option.map_some, Option.getD_some]
          cases allocation with
          | error code =>
              exact pending_onBuffer found ((Nat.zero_add _).trans (buffer.resize_refused ..))
          | ok given =>
              simp only [obtained, step, step_onBuffer found, Option.map_some, Option.getD_some]
              exact pending_onBuffer found (buffer.resize_accounts ..)
  | wrapMemory name given size storageType releaseFunc answer =>
      simp only [released, abandoned, step]
      cases found : buffers.lookup name with
      | none =>
          have nothing := owed_of_none found
          simp only [step_onBuffer_none found]
          cases releaseFunc <;>
            simp [obtained, lost, step, step_onBuffer_none found, nothing]
      | some buffer =>
          simp only [step_onBuffer found, Option.map_some, Option.getD_some]
          cases releaseFunc with
          | none =>
              rw [lost, owed_of_lookup found]
              refine pending_onBuffer found ?_
              exact (Nat.zero_add _).trans (buffer.wrapMemory_none_accounts ..)
          | some function =>
              simp only [obtained, step, step_onBuffer found, Option.map_some,
                Option.getD_some, owed_of_lookup found]
              exact pending_onBuffer found (buffer.wrapMemory_some_accounts ..)
  | freeBuffer name answer =>
      simp only [obtained, released, abandoned, lost, step]
      cases found : buffers.lookup name with
      | none => simp [step_onBuffer_none found]
      | some buffer =>
          simp only [step_onBuffer found, Option.map_some, Option.getD_some]
          exact pending_onBuffer found ((Nat.zero_add _).trans (buffer.freeBuffer_accounts answer))
  | destroy name answer =>
      simp only [obtained, released, abandoned, lost, step]
      cases found : buffers.lookup name with
      | none => simp
      | some buffer =>
          simp only [Option.map_some, Option.getD_some]
          have balance := buffer.destroy_accounts answer pointer
          rw [pending_erase found, balance, List.count_nil]
          omega

theorem run_conserves_pointer (buffers : Buffers) (ops : List BufferOp) (pointer : UInt64) :
    (system.gather obtained buffers ops).count pointer + buffers.pending pointer =
      (system.gather released buffers ops).count pointer +
        (system.gather abandoned buffers ops).count pointer +
        (system.gather lost buffers ops).count pointer +
        (system.run buffers ops).pending pointer := by
  have conserved : ∀ (buffers : Buffers) (op : BufferOp) (pointer : UInt64),
      (buffers.obtained op).count pointer + buffers.pending pointer =
        (buffers.released op ++ buffers.abandoned op ++ buffers.lost op).count pointer +
          (system.step buffers op).1.pending pointer := by
    intro buffers op pointer
    rw [List.count_append, List.count_append]
    exact step_accounted buffers op pointer
  rw [System.count_gather_conserved conserved buffers ops pointer,
    System.count_gather_append, System.count_gather_append]

/-- A step that drops no pointer it has to release: nothing is assigned to a buffer that
has one, and it is not wrapped again without a release function. -/
def KeepsPending (buffers : Buffers) : BufferOp → Prop
  | .moveAssign target source => source ∈ buffers → buffers.owed target = []
  | .wrapMemory name pointer _ _ none _ => pointer ∉ buffers.owed name
  | _ => True

theorem lost_eq_nil_iff (buffers : Buffers) (op : BufferOp) :
    buffers.lost op = [] ↔ buffers.KeepsPending op := by
  cases op with
  | moveAssign target source =>
      rw [lost, KeepsPending]
      split
      next present => exact ⟨fun empty _ => empty, fun empty => empty present⟩
      next absent => exact iff_of_true rfl fun present => absurd present absent
  | wrapMemory name pointer size storageType releaseFunc answer =>
      cases releaseFunc with
      | none =>
          rw [lost, KeepsPending, List.filter_eq_nil_iff]
          simp only [decide_eq_true_eq]
          exact ⟨fun differs owes => differs pointer owes rfl,
            fun fresh other owes same => fresh (same ▸ owes)⟩
      | some function => exact iff_of_true rfl trivial
  | _ => exact iff_of_true rfl trivial

/-- Along a run that begins and ends without buffers, every pointer is released as often as
it is obtained, where failed releases at the destruction of a buffer are excepted. -/
def ReleasedOnce (ops : List BufferOp) : Prop :=
  ∀ pointer, (system.gather obtained ∅ ops).count pointer =
    (system.gather released ∅ ops).count pointer + (system.gather abandoned ∅ ops).count pointer

theorem releasedOnce_iff {ops : List BufferOp} (ended : system.run ∅ ops = ∅) :
    ReleasedOnce ops ↔ system.Along KeepsPending ∅ ops := by
  have noneLost : ReleasedOnce ops ↔ system.gather lost ∅ ops = [] := by
    have empty : ∀ pointer, pending ∅ pointer = 0 := fun pointer => rfl
    constructor
    · intro once
      refine List.eq_nil_iff_forall_not_mem.mpr fun pointer forgotten => ?_
      have accounted := run_conserves_pointer ∅ ops pointer
      have counted := List.count_pos_iff.mpr forgotten
      rw [once pointer, ended, empty] at accounted
      omega
    · intro nothing pointer
      have accounted := run_conserves_pointer ∅ ops pointer
      rwa [nothing, ended, empty] at accounted
  rw [noneLost, System.gather_eq_nil_iff]
  simp only [lost_eq_nil_iff]

end Buffers

/-! ## Sizes -/

/-- The size of the memory each buffer holds, as far as it holds any. -/
abbrev HeldSizes := Nat → Option UInt64

namespace HeldSizes

/-- There is no memory at the null pointer. -/
def memory (pointer size : UInt64) : Option UInt64 := if pointer = 0 then none else some size

/-- What an operation that was answered changes in the memory held. -/
def after (held : HeldSizes) (answer : BufferAnswer) : BufferOp → HeldSizes
  | .construct name => update held name none
  | .moveConstruct target source | .moveAssign target source =>
      update (update held target (held source)) source none
  | .resize name _ size _ _ allocation =>
      match answer.result, allocation with
      | .ok _, .ok pointer => update held name (memory pointer size)
      | _, _ => if answer.released = [] then held else update held name none
  | .wrapMemory name pointer size _ _ _ =>
      match answer.result with
      | .ok _ => update held name (memory pointer size)
      | .error _ => held
  | .freeBuffer name _ =>
      if answer.released = [] then held else update held name none
  | .destroy name _ => update held name none

/-- An operation that was not answered changes nothing. -/
def record (held : HeldSizes) (op : BufferOp) : Option BufferAnswer → HeldSizes
  | none => held
  | some answer => held.after answer op

end HeldSizes

namespace Buffers

open HeldSizes

/-- The operations on buffers, with the sizes of the memory held kept next to them. -/
def measured : System (Buffers × HeldSizes) BufferOp (Option BufferAnswer) :=
  system.recorded HeldSizes.record

/-- `size()` is 0 for the null pointer and otherwise the size of the memory held. -/
def SizesRight (state : Buffers × HeldSizes) : Prop :=
  ∀ name buffer, state.1.lookup name = some buffer →
    if buffer.pointer = 0 then buffer.size = 0 else state.2 name = some buffer.size

/-- The record describes the memory behind the pointers. -/
def Described (state : Buffers × HeldSizes) : Prop :=
  ∀ name buffer, state.1.lookup name = some buffer →
    state.2 name = memory buffer.pointer buffer.size

/-- The null pointer has size 0. -/
def NullEmpty (buffers : Buffers) : Prop :=
  ∀ name buffer, buffers.lookup name = some buffer → buffer.pointer = 0 → buffer.size = 0

theorem sizesRight_iff {state : Buffers × HeldSizes} (described : Described state) :
    SizesRight state ↔ NullEmpty state.1 := by
  constructor
  · intro right name buffer stored null
    simpa [null] using right name buffer stored
  · intro empty name buffer stored
    split
    next null => exact empty name buffer stored null
    next notNull => rw [described name buffer stored, memory, if_neg notNull]

variable {buffers : Buffers} {held : HeldSizes} {source : Nat}

theorem Described.insert
    (described : Described (buffers, held)) (name : Nat) (next : MemoryBuffer) :
    Described (buffers.insert name next,
      update held name (memory next.pointer next.size)) := by
  intro other buffer stored
  by_cases same : other = name
  · subst same
    rw [AList.lookup_insert] at stored
    cases stored
    exact update_self ..
  · rw [AList.lookup_insert_ne same] at stored
    exact (update_of_ne same ..).trans (described other buffer stored)

theorem Described.insert_same {name : Nat}
    {next : MemoryBuffer} (described : Described (buffers, held))
    (same : held name = memory next.pointer next.size) :
    Described (buffers.insert name next, held) := by
  have inserted := described.insert name next
  rwa [← same, update_eq_self] at inserted

theorem moveInto_of_lookup {other : MemoryBuffer}
    (stored : buffers.lookup source = some other) (target : Nat) :
    buffers.moveInto target source =
      ((buffers.insert target other).insert source other.movedFrom, some {}) := by
  rw [moveInto, stored]

theorem moveInto_of_none (absent : buffers.lookup source = none) (target : Nat) :
    buffers.moveInto target source = (buffers, none) := by
  rw [moveInto, absent]

theorem Described.moved {op : BufferOp} (described : Described (buffers, held)) (target : Nat)
    (moves : held.after {} op =
      update (update held target (held source)) source none) :
    Described ((buffers.moveInto target source).1,
      held.record op (buffers.moveInto target source).2) := by
  cases found : buffers.lookup source with
  | none =>
      rw [moveInto_of_none found]
      exact described
  | some other =>
      rw [moveInto_of_lookup found, record, moves]
      have first := described.insert target other
      rw [← described source other found] at first
      exact first.insert source other.movedFrom

end Buffers

namespace MemoryBuffer

variable {buffer : MemoryBuffer} {released : List UInt64}

/-- What freeing leaves of a buffer: all of it if it released nothing, else no memory. -/
def FreedTo (buffer : MemoryBuffer) (released : List UInt64) (next : MemoryBuffer) : Prop :=
  if released = [] then next = buffer else next.pointer = 0 ∧ next.size = 0

theorem freedTo_freeBuffer (buffer : MemoryBuffer) (answer : Except GxfResult Unit) :
    buffer.FreedTo (buffer.freeBuffer answer).2.released (buffer.freeBuffer answer).1 := by
  obtain ⟨-, freed⟩ | ⟨function, -, ⟨code, -, freed⟩ | ⟨-, freed⟩⟩ := buffer.freeBuffer_spec answer
  · rw [freed]
    rfl
  · rw [freed]
    rfl
  · rw [freed]
    exact ⟨rfl, rfl⟩

/-- The release function, if it has to be called, succeeds. -/
def CanFree (buffer : MemoryBuffer) (answer : Except GxfResult Unit) : Prop :=
  buffer.owed = [] ∨ answer = .ok ()

variable {answer : Except GxfResult Unit}

theorem freeBuffer_of_canFree (free : buffer.CanFree answer) :
    (buffer.freeBuffer answer).2.result = .ok () := by
  obtain ⟨-, freed⟩ | ⟨function, owes, ⟨code, failed, -⟩ | ⟨-, freed⟩⟩ :=
    buffer.freeBuffer_spec answer
  · rw [freed]
  · obtain empty | succeeded := free
    · exact absurd (owes.symm.trans empty) (List.cons_ne_nil _ _)
    · exact absurd (failed.symm.trans succeeded) (by simp)
  · rw [freed]

theorem freeBuffer_of_not_canFree (stuck : ¬buffer.CanFree answer) :
    ∃ code, (buffer.freeBuffer answer).2.result = .error code ∧
      (buffer.freeBuffer answer).1 = buffer := by
  obtain ⟨empty, -⟩ | ⟨function, -, ⟨code, -, freed⟩ | ⟨succeeded, -⟩⟩ :=
    buffer.freeBuffer_spec answer
  · exact absurd (.inl empty) stuck
  · rw [freed]
    exact ⟨code, rfl, rfl⟩
  · exact absurd (.inr succeeded) stuck

theorem wrapMemory_cases (buffer : MemoryBuffer) (given size : UInt64)
    (storageType : MemoryStorageType) (releaseFunc : Option ReleaseFunction)
    (answer : Except GxfResult Unit) :
    let next := buffer.wrapMemory given size storageType releaseFunc answer
    (next.1 = ⟨size, storageType, given, releaseFunc⟩ ∧ next.2.result = .ok () ∧
      (given = 0 → buffer.CanFree answer)) ∨
    (∃ code, ¬buffer.CanFree answer ∧ next.2.result = .error code ∧ next.1 = buffer) := by
  intro next
  by_cases same : given = buffer.pointer
  · have eq : next = (⟨size, storageType, buffer.pointer, releaseFunc⟩, {}) := if_pos same
    rw [eq, same]
    exact .inl ⟨rfl, rfl, fun null => .inl (owed_of_null null)⟩
  · by_cases free : buffer.CanFree answer
    · have done := freeBuffer_of_canFree free
      have eq : next = (⟨size, storageType, given, releaseFunc⟩, (buffer.freeBuffer answer).2) := by
        simp only [next, wrapMemory, if_neg same, done]
      rw [eq]
      exact .inl ⟨rfl, done, fun _ => free⟩
    · obtain ⟨code, stopped, kept⟩ := freeBuffer_of_not_canFree free
      have eq : next = buffer.freeBuffer answer := by
        simp only [next, wrapMemory, if_neg same, stopped]
      rw [eq]
      exact .inr ⟨code, free, stopped, kept⟩

end MemoryBuffer

namespace Buffers

open HeldSizes

variable {buffers : Buffers} {held : HeldSizes} {name : Nat} {buffer next : MemoryBuffer}

theorem Described.freed {released : List UInt64} (described : Described (buffers, held))
    (stored : buffers.lookup name = some buffer) (freed : buffer.FreedTo released next) :
    Described (buffers.insert name next,
      if released = [] then held else update held name none) := by
  rw [MemoryBuffer.FreedTo] at freed
  split at freed
  next nothing =>
      rw [if_pos nothing, freed]
      exact described.insert_same (described name buffer stored)
  next something =>
      have inserted := described.insert name next
      rw [freed.1] at inserted
      rw [if_neg something]
      exact inserted

theorem Described.erase (described : Described (buffers, held)) (name : Nat) :
    Described (buffers.erase name, update held name none) := by
  intro other buffer stored
  by_cases same : other = name
  · rw [same, AList.lookup_erase] at stored
    cases stored
  · rw [AList.lookup_erase_ne same] at stored
    exact (update_of_ne same ..).trans (described other buffer stored)

theorem Described.step (described : Described (buffers, held)) (op : BufferOp) :
    Described ((buffers.step op).1, held.record op (buffers.step op).2) := by
  cases op with
  | construct name =>
      by_cases there : name ∈ buffers
      · have eq : buffers.step (.construct name) = (buffers, none) := if_pos there
        rw [eq]
        exact described
      · have eq : buffers.step (.construct name) = (buffers.insert name {}, some {}) := if_neg there
        rw [eq]
        exact described.insert name {}
  | moveConstruct target source =>
      by_cases there : target ∈ buffers
      · have eq : buffers.step (.moveConstruct target source) = (buffers, none) := if_pos there
        rw [eq]
        exact described
      · have eq : buffers.step (.moveConstruct target source) = buffers.moveInto target source :=
          if_neg there
        rw [eq]
        exact described.moved target rfl
  | moveAssign target source =>
      by_cases there : target ∈ buffers
      · have eq : buffers.step (.moveAssign target source) = buffers.moveInto target source :=
          if_pos there
        rw [eq]
        exact described.moved target rfl
      · have eq : buffers.step (.moveAssign target source) = (buffers, none) := if_neg there
        rw [eq]
        exact described
  | resize name allocator size storageType answer allocation =>
      rw [Buffers.step]
      cases found : buffers.lookup name with
      | none =>
          rw [step_onBuffer_none found]
          exact described
      | some buffer =>
          rw [step_onBuffer found]
          have freed := buffer.freedTo_freeBuffer answer
          obtain ⟨done, -⟩ | ⟨code, stopped, -⟩ := buffer.freeBuffer_cases answer
          · cases allocation with
            | error code =>
                have eq : buffer.resize allocator size storageType answer (.error code) =
                    ((buffer.freeBuffer answer).1,
                      { (buffer.freeBuffer answer).2 with result := .error code }) := by
                  simp only [MemoryBuffer.resize, done]
                rw [eq]
                exact described.freed found freed
            | ok given =>
                have eq : buffer.resize allocator size storageType answer (.ok given) =
                    (⟨size, storageType, given, some (.allocator allocator)⟩,
                      (buffer.freeBuffer answer).2) := by
                  simp only [MemoryBuffer.resize, done]
                rw [eq]
                simp only [record, after, done]
                exact described.insert name ⟨size, storageType, given, _⟩
          · have eq : buffer.resize allocator size storageType answer allocation =
                buffer.freeBuffer answer := by
              simp only [MemoryBuffer.resize, stopped]
            rw [eq]
            simp only [record, after, stopped]
            exact described.freed found freed
  | wrapMemory name given size storageType releaseFunc answer =>
      rw [Buffers.step]
      cases found : buffers.lookup name with
      | none =>
          rw [step_onBuffer_none found]
          exact described
      | some buffer =>
          rw [step_onBuffer found]
          obtain ⟨eq, done, -⟩ | ⟨code, -, stopped, same⟩ :=
            buffer.wrapMemory_cases given size storageType releaseFunc answer
          · simp only [record, after, done, eq]
            exact described.insert name ⟨size, storageType, given, releaseFunc⟩
          · simp only [record, after, stopped, same]
            exact described.insert_same (described name buffer found)
  | freeBuffer name answer =>
      rw [Buffers.step]
      cases found : buffers.lookup name with
      | none =>
          rw [step_onBuffer_none found]
          exact described
      | some buffer =>
          rw [step_onBuffer found]
          exact described.freed found (buffer.freedTo_freeBuffer answer)
  | destroy name answer =>
      rw [Buffers.step]
      cases found : buffers.lookup name with
      | none => exact described
      | some buffer => exact described.erase name

/-- A step that leaves no size at a null pointer: a buffer that is moved from has size 0,
and a null pointer, allocated or wrapped, comes with size 0. -/
def KnowsSize (buffers : Buffers) : BufferOp → Prop
  | .moveConstruct name source =>
      name ∉ buffers → ∀ other, buffers.lookup source = some other → other.size = 0
  | .moveAssign target source =>
      target ∈ buffers → ∀ other, buffers.lookup source = some other → other.size = 0
  | .resize name _ size _ answer (.ok pointer) | .wrapMemory name pointer size _ _ answer =>
      ∀ buffer, buffers.lookup name = some buffer → buffer.CanFree answer → pointer = 0 → size = 0
  | _ => True

theorem nullEmpty_insert (empty : NullEmpty buffers) (name : Nat) (next : MemoryBuffer) :
    NullEmpty (buffers.insert name next) ↔ (next.pointer = 0 → next.size = 0) := by
  constructor
  · intro after
    exact after name next (AList.lookup_insert _)
  · intro here other buffer stored
    by_cases same : other = name
    · subst same
      rw [AList.lookup_insert] at stored
      cases stored
      exact here
    · rw [AList.lookup_insert_ne same] at stored
      exact empty other buffer stored

theorem nullEmpty_moveInto (empty : NullEmpty buffers) (target source : Nat) :
    NullEmpty (buffers.moveInto target source).1 ↔
      ∀ other, buffers.lookup source = some other → other.size = 0 := by
  cases found : buffers.lookup source with
  | none =>
      rw [moveInto_of_none found]
      exact iff_of_true empty fun other stored => by cases stored
  | some other =>
      have first := (nullEmpty_insert empty target other).mpr (empty source other found)
      rw [moveInto_of_lookup found, nullEmpty_insert first]
      constructor
      · intro sized same stored
        cases stored
        exact sized rfl
      · intro sized _
        exact sized other rfl

theorem sized_freeBuffer (sized : buffer.pointer = 0 → buffer.size = 0)
    (answer : Except GxfResult Unit) :
    (buffer.freeBuffer answer).1.pointer = 0 → (buffer.freeBuffer answer).1.size = 0 := by
  obtain ⟨-, freed⟩ | ⟨function, -, ⟨code, -, freed⟩ | ⟨-, freed⟩⟩ := buffer.freeBuffer_spec answer
  · rwa [freed]
  · rwa [freed]
  · rw [freed]
    exact fun _ => rfl

theorem nullEmpty_step_iff (empty : NullEmpty buffers) (op : BufferOp) :
    NullEmpty (buffers.step op).1 ↔ buffers.KnowsSize op := by
  cases op with
  | construct name =>
      by_cases there : name ∈ buffers
      · have eq : buffers.step (.construct name) = (buffers, none) := if_pos there
        rw [eq]
        exact iff_of_true empty trivial
      · have eq : buffers.step (.construct name) = (buffers.insert name {}, some {}) := if_neg there
        rw [eq, nullEmpty_insert empty]
        exact iff_of_true (fun _ => rfl) trivial
  | moveConstruct target source =>
      by_cases there : target ∈ buffers
      · have eq : buffers.step (.moveConstruct target source) = (buffers, none) := if_pos there
        rw [eq]
        exact iff_of_true empty fun fresh => absurd there fresh
      · have eq : buffers.step (.moveConstruct target source) = buffers.moveInto target source :=
          if_neg there
        rw [eq, nullEmpty_moveInto empty, KnowsSize]
        exact (imp_iff_right there).symm
  | moveAssign target source =>
      by_cases there : target ∈ buffers
      · have eq : buffers.step (.moveAssign target source) = buffers.moveInto target source :=
          if_pos there
        rw [eq, nullEmpty_moveInto empty, KnowsSize]
        exact (imp_iff_right there).symm
      · have eq : buffers.step (.moveAssign target source) = (buffers, none) := if_neg there
        rw [eq]
        exact iff_of_true empty fun present => absurd present there
  | resize name allocator size storageType answer allocation =>
      rw [step]
      cases found : buffers.lookup name with
      | none =>
          rw [step_onBuffer_none found]
          cases allocation with
          | error code => exact iff_of_true empty trivial
          | ok given => exact iff_of_true empty fun buffer stored => by simp [found] at stored
      | some buffer =>
          have sized := empty name buffer found
          rw [step_onBuffer found, nullEmpty_insert empty]
          by_cases free : buffer.CanFree answer
          · have done := MemoryBuffer.freeBuffer_of_canFree free
            cases allocation with
            | error code =>
                have eq : (buffer.resize allocator size storageType answer (.error code)).1 =
                    (buffer.freeBuffer answer).1 := by
                  simp only [MemoryBuffer.resize, done]
                rw [eq]
                exact iff_of_true (sized_freeBuffer sized answer) trivial
            | ok given =>
                have eq : (buffer.resize allocator size storageType answer (.ok given)).1 =
                    ⟨size, storageType, given, some (.allocator allocator)⟩ := by
                  simp only [MemoryBuffer.resize, done]
                rw [eq, KnowsSize, found]
                exact ⟨fun here _ _ _ => here, fun all => all buffer rfl free⟩
          · obtain ⟨code, stopped, kept⟩ := MemoryBuffer.freeBuffer_of_not_canFree free
            have eq : (buffer.resize allocator size storageType answer allocation).1 = buffer := by
              simp only [MemoryBuffer.resize, stopped, kept]
            rw [eq]
            cases allocation with
            | error code => exact iff_of_true sized trivial
            | ok given =>
                refine iff_of_true sized fun other stored canFree => ?_
                rw [found] at stored
                cases stored
                exact absurd canFree free
  | wrapMemory name given size storageType releaseFunc answer =>
      rw [step]
      cases found : buffers.lookup name with
      | none =>
          rw [step_onBuffer_none found]
          exact iff_of_true empty fun buffer stored => by simp [found] at stored
      | some buffer =>
          have sized := empty name buffer found
          rw [step_onBuffer found, nullEmpty_insert empty, KnowsSize, found]
          obtain ⟨eq, -, free⟩ | ⟨code, stuck, -, same⟩ :=
            buffer.wrapMemory_cases given size storageType releaseFunc answer
          · rw [eq]
            exact ⟨fun here _ _ _ => here, fun all null => all buffer rfl (free null) null⟩
          · rw [same]
            refine iff_of_true sized fun other stored canFree => ?_
            cases stored
            exact absurd canFree stuck
  | freeBuffer name answer =>
      rw [step]
      cases found : buffers.lookup name with
      | none =>
          rw [step_onBuffer_none found]
          exact iff_of_true empty trivial
      | some buffer =>
          rw [step_onBuffer found, nullEmpty_insert empty]
          exact iff_of_true (sized_freeBuffer (empty name buffer found) answer) trivial
  | destroy name answer =>
      rw [step]
      refine iff_of_true ?_ trivial
      cases found : buffers.lookup name with
      | none => exact empty
      | some buffer =>
          intro other kept stored
          by_cases same : other = name
          · rw [same, AList.lookup_erase] at stored
            cases stored
          · rw [AList.lookup_erase_ne same] at stored
            exact empty other kept stored

/-- Along a run that begins without buffers, every step leaves the sizes right. -/
def SizesKept (ops : List BufferOp) : Prop :=
  measured.Along (fun state op => SizesRight (measured.step state op).1) (∅, fun _ => none) ops

theorem sizesKept_iff (ops : List BufferOp) : SizesKept ops ↔ system.Along KnowsSize ∅ ops := by
  have initial : Described (∅, fun _ => none) ∧ NullEmpty ∅ :=
    ⟨fun name buffer stored => (by cases stored), fun name buffer stored => (by cases stored)⟩
  rw [SizesKept, ← System.along_recorded HeldSizes.record KnowsSize]
  refine @System.along_iff_guarded _ _ _ _ (fun state => Described state ∧ NullEmpty state.1) _ _
    ?preserved ?exact _ initial ops
  case preserved =>
    intro state op inv knows
    exact ⟨inv.1.step op, (nullEmpty_step_iff inv.2 op).mpr knows⟩
  case exact =>
    intro state op inv
    exact (sizesRight_iff (inv.1.step op)).trans (nullEmpty_step_iff inv.2 op)

/-- Every pointer is released once in exactly the runs that never drop a pending one, and
every size is right in exactly those that leave no size at a null pointer. -/
theorem run_released_once (ops : List BufferOp) :
    (system.run ∅ ops = ∅ → (ReleasedOnce ops ↔ system.Along KeepsPending ∅ ops)) ∧
      (SizesKept ops ↔ system.Along KnowsSize ∅ ops) :=
  ⟨releasedOnce_iff, sizesKept_iff ops⟩

/-- Two buffers get memory.  Freeing the first fails, and then it is wrapped around memory of
the caller. -/
def plainRun : List BufferOp :=
  [.construct 0, .construct 1, .resize 0 7 64 .kHost (.ok ()) (.ok 4096),
    .resize 1 7 32 .kDevice (.ok ()) (.ok 8192), .freeBuffer 0 (.error .GXF_FAILURE),
    .wrapMemory 0 512 16 .kSystem (some (.callback 3)) (.ok ()), .destroy 0 (.ok ()),
    .destroy 1 (.ok ())]

theorem run_released_once_plain :
    ReleasedOnce plainRun ∧ system.gather obtained ∅ plainRun = [4096, 8192, 512] := by
  refine ⟨((run_released_once plainRun).1 rfl).mpr ?_, rfl⟩
  refine ⟨trivial, trivial, trivial, trivial, trivial, trivial, trivial, trivial, trivial⟩

/-- Two buffers get memory and the second is moved to the first. -/
def assignedRun : List BufferOp :=
  [.construct 0, .construct 1, .resize 0 7 64 .kHost (.ok ()) (.ok 4096),
    .resize 1 7 32 .kHost (.ok ()) (.ok 8192), .moveAssign 0 1, .destroy 0 (.ok ()),
    .destroy 1 (.ok ())]

/-- The memory of the first buffer is never released. -/
theorem move_assignment_leaks :
    ¬∀ ops, system.run ∅ ops = ∅ → ReleasedOnce ops ∧ SizesKept ops := by
  intro all
  have once := (all assignedRun rfl).1 4096
  exact absurd once (by decide)

end Buffers

end Gxf.Std
