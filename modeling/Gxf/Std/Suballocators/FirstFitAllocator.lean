import Gxf.Std.Suballocators.Runs

/-!
# The first fit allocator of a buffer

`FirstFitAllocator<T>` owns a buffer and leaves its division into chunks to
`FirstFitAllocatorBase`.  The sums and products here are those of 32-bit integers, which wrap
around.  A pointer is given by its distance from the start of the buffer.
-/

namespace Gxf.Std

open Gxf.Lib FirstFitAllocatorBase

/-- The value of a 32-bit integer. -/
def wrapInt32 (value : Int) : Int := value.bmod (2 ^ 32)

/-- A quotient of 32-bit integers, unless the division traps. -/
def divideInt32 (dividend divisor : Int) : Option Int :=
  if divisor = 0 ∨ dividend = -2 ^ 31 ∧ divisor = -1 then none else some (dividend.tdiv divisor)

/-- The fields of the allocator.  A buffer is given by its number of elements. -/
structure FirstFitAllocator where
  memoryManagement : FirstFitAllocatorBase
  chunkSize : Int
  buffer : Option Int
  deriving DecidableEq, Repr

namespace FirstFitAllocator

/-- What the system has for one call of `allocate`: storage for the buffer, unless it is refused,
and storage for the tree. -/
structure Storage where
  buffer : Bool
  tree : Option (Nat → Memory)

/-- The allocator after its construction, which leaves the chunk size open. -/
def create (chunkSize : Int) : FirstFitAllocator := ⟨FirstFitAllocatorBase.create, chunkSize, none⟩

/-- `getNumberOfChunks(size)`. -/
def getNumberOfChunks (chunkSize size : Int) : Option Int :=
  divideInt32 (wrapInt32 (size + chunkSize - 1)) chunkSize

/-- `new(std::nothrow) T[length]`, which refuses a negative length. -/
def newBuffer (storage : Storage) (length : Int) : Option Int :=
  if length < 0 ∨ storage.buffer = false then none else some length

/-- `allocate(size, chunk_size)`. -/
def allocate (allocator : FirstFitAllocator) (size chunkSize : Int) (storage : Storage) :
    Option (FirstFitAllocator × Except Error Int) :=
  if allocator.buffer.isSome then some (allocator, .error .kAlreadyInUse)
  else if size < 0 ∨ chunkSize ≤ 0 then some (allocator, .error .kInvalidSize)
  else
    (getNumberOfChunks chunkSize size).bind fun numberOfChunks =>
      match newBuffer storage (wrapInt32 (numberOfChunks * chunkSize)) with
      | none => some ({ allocator with chunkSize, buffer := none }, .error .kOutOfMemory)
      | some length =>
          (allocator.memoryManagement.allocate numberOfChunks storage.tree).map fun result =>
            (⟨result.1, chunkSize, some length⟩, result.2.map fun _ => size)

/-- `acquire(size)`: the distance of the block and its size. -/
def acquire (allocator : FirstFitAllocator) (size : Int) :
    Option (FirstFitAllocator × Except Error (Int × Int)) :=
  (getNumberOfChunks allocator.chunkSize size).bind fun numberOfChunks =>
    (allocator.memoryManagement.acquire numberOfChunks).map fun result =>
      ({ allocator with memoryManagement := result.1 }, result.2.map fun index =>
        (wrapInt32 (index * allocator.chunkSize), wrapInt32 (numberOfChunks * allocator.chunkSize)))

/-- `release(ptr)`. -/
def release (allocator : FirstFitAllocator) (distance : Int) :
    Option (FirstFitAllocator × Except Error Unit) :=
  (divideInt32 (wrapInt32 distance) allocator.chunkSize).bind fun index =>
    if (wrapInt32 distance).tmod allocator.chunkSize ≠ 0 then
      some (allocator, .error .kInvalidSize)
    else
      (allocator.memoryManagement.release index).map fun result =>
        ({ allocator with memoryManagement := result.1 }, result.2)

/-- Operations on an allocator. -/
inductive Op where
  | allocate (size chunkSize : Int) (storage : Storage)
  | acquire (size : Int)
  | release (distance : Int)

/-- What an operation answers. -/
inductive Answer where
  /-- The process is lost. -/
  | fault
  | allocated (result : Except Error Int)
  | acquired (result : Except Error (Int × Int))
  | released (result : Except Error Unit)
  deriving DecidableEq, Repr

def system : System FirstFitAllocator Op Answer where
  step allocator
    | .allocate size chunkSize storage =>
        (allocator.allocate size chunkSize storage).elim (allocator, .fault) fun result =>
          (result.1, .allocated result.2)
    | .acquire size =>
        (allocator.acquire size).elim (allocator, .fault) fun result =>
          (result.1, .acquired result.2)
    | .release distance =>
        (allocator.release distance).elim (allocator, .fault) fun result =>
          (result.1, .released result.2)

/-! ## Calls of `allocate` that fail -/

/-- If the call fails, each following call with valid sizes answers as it would have before, and
leads to the same allocator. -/
def FailsHarmlessly (allocator : FirstFitAllocator) (size chunkSize : Int) (storage : Storage) :
    Prop :=
  ∀ after code, allocator.allocate size chunkSize storage = some (after, .error code) →
    ∀ next nextChunkSize nextStorage, 0 ≤ next → 0 < nextChunkSize →
      after.allocate next nextChunkSize nextStorage =
        allocator.allocate next nextChunkSize nextStorage

/-- The call gets a buffer, and then no tree. -/
def KeepsBuffer (allocator : FirstFitAllocator) (size chunkSize : Int) (storage : Storage) : Prop :=
  allocator.buffer = none ∧ 0 ≤ size ∧ 0 < chunkSize ∧ storage.buffer = true ∧
    ∃ numberOfChunks, getNumberOfChunks chunkSize size = some numberOfChunks ∧
      0 ≤ wrapInt32 (numberOfChunks * chunkSize) ∧
      (numberOfChunks ≤ 0 ∨ 2 ^ 30 ≤ numberOfChunks ∨ storage.tree = none)

/-- Without a buffer there is no tree. -/
def Bare (allocator : FirstFitAllocator) : Prop :=
  allocator.buffer = none → allocator.memoryManagement.tree = none

section Base

variable {base : FirstFitAllocatorBase} {count : Int} {tree : Option (Nat → Memory)}

theorem base_allocate_error (bare : base.tree = none)
    (fails : count ≤ 0 ∨ 2 ^ 30 ≤ count ∨ tree = none) :
    ∃ after code, base.allocate count tree = some (after, .error code) := by
  by_cases invalid : count ≤ 0 ∨ count ≥ 2 ^ 30
  · refine ⟨base, .kInvalidSize, ?_⟩
    rw [FirstFitAllocatorBase.allocate, bare]
    simp only [Option.bind_eq_bind, Option.bind_some, Bool.false_eq_true, if_false, invalid,
      if_true]
    rfl
  have noStorage : tree = none := by
    rcases fails with low | high | noStorage
    · exact absurd (.inl low) invalid
    · exact absurd (.inr high) invalid
    · exact noStorage
  obtain ⟨less, rfl⟩ : ∃ less : Nat, count = (less + 1 : Nat) := ⟨count.toNat - 1, by omega⟩
  have power : less < 2 ^ less := Nat.lt_two_pow_self
  obtain ⟨depth, grown, -, -⟩ := growLayer_eq (less + 1) less 0 (by omega)
    (by rw [Nat.zero_add]; omega)
  rw [Nat.pow_zero] at grown
  refine ⟨⟨none, (less + 1 : Nat), 2 ^ depth⟩, .kOutOfMemory, ?_⟩
  rw [FirstFitAllocatorBase.allocate, bare, noStorage]
  simp only [Option.bind_eq_bind, Option.bind_some, Bool.false_eq_true, if_false, invalid,
    Int.toNat_natCast, grown]
  rfl

theorem base_allocate_ok (bare : base.tree = none)
    (succeeds : ¬(count ≤ 0 ∨ 2 ^ 30 ≤ count ∨ tree = none)) {after : FirstFitAllocatorBase}
    {result : Except Error Unit} (returned : base.allocate count tree = some (after, result)) :
    result = .ok () := by
  obtain ⟨positive, small, storage⟩ : 0 < count ∧ count < 2 ^ 30 ∧ tree ≠ none := by
    simpa only [not_or, not_le] using succeeds
  obtain ⟨memory, rfl⟩ := Option.ne_none_iff_exists'.mp storage
  have valid : ¬(count ≤ 0 ∨ count ≥ 2 ^ 30) := by omega
  rw [FirstFitAllocatorBase.allocate, bare] at returned
  simp only [Option.bind_eq_bind, Option.bind_some, Bool.false_eq_true, if_false, valid,
    Option.bind_eq_some_iff] at returned
  obtain ⟨layer, -, leaves, -, nodes, -, isReturned⟩ := returned
  cases isReturned
  rfl

/-- One chunk can always be had. -/
theorem base_allocate_one (bare : base.tree = none) (memory : Nat → Memory) :
    ∃ after, base.allocate 1 (some memory) = some (after, .ok ()) := by
  obtain ⟨depth, tree, allocated, -⟩ := allocate_create (Nat.le_refl 1) (by decide) memory
  refine ⟨_, Eq.trans ?_ allocated⟩
  rw [FirstFitAllocatorBase.allocate, bare]
  rfl

end Base

section Calls

variable {allocator : FirstFitAllocator} {size chunkSize : Int} {storage : Storage}

theorem allocate_refused (refused : allocator.buffer.isSome = true ∨ size < 0 ∨ chunkSize ≤ 0) :
    ∃ code, allocator.allocate size chunkSize storage = some (allocator, .error code) := by
  rw [allocate]
  by_cases inUse : allocator.buffer.isSome = true
  · exact ⟨.kAlreadyInUse, if_pos inUse⟩
  · rw [if_neg inUse, if_pos (refused.resolve_left inUse)]
    exact ⟨.kInvalidSize, rfl⟩

theorem allocate_valid (noBuffer : allocator.buffer = none) (valid : 0 ≤ size)
    (validChunk : 0 < chunkSize) :
    allocator.allocate size chunkSize storage =
      (getNumberOfChunks chunkSize size).bind fun numberOfChunks =>
        match newBuffer storage (wrapInt32 (numberOfChunks * chunkSize)) with
        | none => some ({ allocator with chunkSize, buffer := none }, .error .kOutOfMemory)
        | some length =>
            (allocator.memoryManagement.allocate numberOfChunks storage.tree).map fun result =>
              (⟨result.1, chunkSize, some length⟩, result.2.map fun _ => size) := by
  rw [allocate, noBuffer, Option.isSome_none, if_neg Bool.false_ne_true, if_neg (by omega)]

theorem allocate_chunkSize (noBuffer : allocator.buffer = none) (other : Int) (valid : 0 ≤ size)
    (validChunk : 0 < chunkSize) :
    ({ allocator with chunkSize := other, buffer := none } : FirstFitAllocator).allocate size
        chunkSize storage = allocator.allocate size chunkSize storage := by
  rw [allocate_valid rfl valid validChunk, allocate_valid noBuffer valid validChunk]

theorem failsHarmlessly_iff (bare : Bare allocator) :
    FailsHarmlessly allocator size chunkSize storage ↔
      ¬KeepsBuffer allocator size chunkSize storage := by
  constructor
  · rintro harmless ⟨noBuffer, valid, validChunk, granted, count, isCount, fits, fails⟩
    obtain ⟨after, code, failed⟩ := base_allocate_error (bare noBuffer) fails
    have hasMemory : ¬(wrapInt32 (count * chunkSize) < 0 ∨ storage.buffer = false) := by
      rintro (negative | refused)
      · exact Int.not_lt.mpr fits negative
      · rw [granted] at refused
        cases refused
    have kept : allocator.allocate size chunkSize storage =
        some (⟨after, chunkSize, some (wrapInt32 (count * chunkSize))⟩, .error code) := by
      rw [allocate_valid noBuffer valid validChunk, isCount, Option.bind_some, newBuffer,
        if_neg hasMemory]
      dsimp only
      rw [failed]
      rfl
    -- a call for one element would have succeeded, and is refused now
    obtain ⟨base, allocated⟩ := base_allocate_one (bare noBuffer) fun _ => ⟨0, 0, 0, 0⟩
    have wouldSucceed : allocator.allocate 1 1 ⟨true, some fun _ => ⟨0, 0, 0, 0⟩⟩ =
        some (⟨base, 1, some 1⟩, .ok 1) := by
      rw [allocate_valid noBuffer (by decide) (by decide),
        show getNumberOfChunks 1 1 = some 1 by decide, Option.bind_some,
        show newBuffer ⟨true, some fun _ => ⟨0, 0, 0, 0⟩⟩ (wrapInt32 (1 * 1)) = some 1 by rfl]
      dsimp only
      rw [allocated]
      rfl
    have same := harmless _ code kept 1 1 ⟨true, some fun _ => ⟨0, 0, 0, 0⟩⟩ (by decide) (by decide)
    rw [wouldSucceed, allocate, Option.isSome_some, if_pos rfl] at same
    have answers := congrArg (Option.map Prod.snd) same
    cases answers
  · intro notKept after code failed next nextChunkSize nextStorage valid validChunk
    by_cases refused : allocator.buffer.isSome = true ∨ size < 0 ∨ chunkSize ≤ 0
    · obtain ⟨code, unchanged⟩ : ∃ code, allocator.allocate size chunkSize storage =
          some (allocator, .error code) := allocate_refused refused
      rw [unchanged] at failed
      cases failed
      rfl
    obtain ⟨noBuffer, notNegative, positive⟩ :
        allocator.buffer = none ∧ 0 ≤ size ∧ 0 < chunkSize := by
      simpa only [not_or, Option.not_isSome_iff_eq_none, not_lt, not_le] using refused
    rw [allocate_valid noBuffer notNegative positive] at failed
    obtain ⟨count, isCount, failed⟩ := Option.bind_eq_some_iff.mp failed
    by_cases noMemory : wrapInt32 (count * chunkSize) < 0 ∨ storage.buffer = false
    · rw [newBuffer, if_pos noMemory] at failed
      cases failed
      exact allocate_chunkSize noBuffer chunkSize valid validChunk
    · rw [newBuffer, if_neg noMemory] at failed
      obtain ⟨⟨base, result⟩, returned, isResult⟩ := Option.map_eq_some_iff.mp failed
      have succeeded : result = .ok () := by
        refine base_allocate_ok (bare noBuffer) (fun fails => notKept ?_) returned
        rw [not_or, Bool.not_eq_false, not_lt] at noMemory
        exact ⟨noBuffer, notNegative, positive, noMemory.2, count, isCount, noMemory.1, fails⟩
      rw [succeeded] at isResult
      cases isResult

theorem bare_step (allocator : FirstFitAllocator) (op : Op) (bare : Bare allocator) :
    Bare (system.step allocator op).1 := by
  cases op with
  | allocate size chunkSize storage =>
      by_cases refused : allocator.buffer.isSome = true ∨ size < 0 ∨ chunkSize ≤ 0
      · obtain ⟨code, unchanged⟩ : ∃ code, allocator.allocate size chunkSize storage =
            some (allocator, .error code) := allocate_refused refused
        rw [system]
        dsimp only
        rw [unchanged]
        exact bare
      obtain ⟨noBuffer, notNegative, positive⟩ :
          allocator.buffer = none ∧ 0 ≤ size ∧ 0 < chunkSize := by
        simpa only [not_or, Option.not_isSome_iff_eq_none, not_lt, not_le] using refused
      rw [system]
      dsimp only
      rw [allocate_valid noBuffer notNegative positive]
      cases getNumberOfChunks chunkSize size with
      | none => exact bare
      | some count =>
          rw [Option.bind_some]
          cases newBuffer storage (wrapInt32 (count * chunkSize)) with
          | none => exact fun _ => bare noBuffer
          | some length =>
              dsimp only
              cases allocator.memoryManagement.allocate count storage.tree with
              | none => exact bare
              | some result => exact fun isNone => by cases isNone
  | acquire size =>
      rw [system]
      dsimp only
      rw [acquire]
      cases getNumberOfChunks allocator.chunkSize size with
      | none => exact bare
      | some count =>
          rw [Option.bind_some]
          cases returned : allocator.memoryManagement.acquire count with
          | none => exact bare
          | some result =>
              intro noBuffer
              have noTree := bare noBuffer
              rw [FirstFitAllocatorBase.acquire, noTree] at returned
              cases returned
              exact noTree
  | release distance =>
      rw [system]
      dsimp only
      rw [release]
      cases divideInt32 (wrapInt32 distance) allocator.chunkSize with
      | none => exact bare
      | some index =>
          rw [Option.bind_some]
          split
          · exact bare
          cases returned : allocator.memoryManagement.release index with
          | none => exact bare
          | some result =>
              intro noBuffer
              have noTree := bare noBuffer
              rw [FirstFitAllocatorBase.release, noTree] at returned
              split at returned
              · cases returned
                exact noTree
              · cases returned

/-- For every allocator that calls lead to and all arguments: a call of `allocate` that fails leaves
the allocator able to answer the next valid call as before, if and only if it did not keep the
buffer. -/
theorem failsHarmlessly_run_iff (uninitialized : Int) (ops : List Op) (size chunkSize : Int)
    (storage : Storage) :
    let allocator := system.run (create uninitialized) ops
    FailsHarmlessly allocator size chunkSize storage ↔
      ¬KeepsBuffer allocator size chunkSize storage :=
  failsHarmlessly_iff (System.invariant_run_of_forall bare_step (fun _ => rfl) ops)

/-- An allocation of nothing fails.  The next one is then refused, although nothing was ever
allocated. -/
theorem empty_allocation_keeps_buffer :
    let storage : Storage := ⟨true, some fun _ => ⟨0, 0, 0, 0⟩⟩
    system.outputs (create 0) [.allocate 0 1 storage, .allocate 10 1 storage] =
        [.allocated (.error .kInvalidSize), .allocated (.error .kAlreadyInUse)] ∧
      system.outputs (create 0) [.allocate 10 1 storage] = [.allocated (.ok 10)] ∧
      ¬FailsHarmlessly (create 0) 0 1 storage := by
  intro storage
  have alone : ((create 0).allocate 10 1 storage).map Prod.snd = some (.ok 10) := by decide
  have empty : (create 0).allocate 0 1 storage =
      some (⟨FirstFitAllocatorBase.create, 1, some 0⟩, .error .kInvalidSize) := by decide
  refine ⟨by decide, by decide, fun harmless => ?_⟩
  rw [← harmless _ .kInvalidSize empty 10 1 storage (by decide) (by decide)] at alone
  exact absurd alone (by decide)

end Calls

end FirstFitAllocator

end Gxf.Std
