import Mathlib.Tactic.Linarith
import Gxf.Std.Allocator
import Gxf.Std.Pool.FixedPool

/-!
# The block memory pool

`BlockMemoryPool` issues blocks of one size from a preallocated area.  Requests are
answered in bytes: `is_available` compares them with the product of block size and
free blocks, which is a 64-bit product.
-/

namespace Gxf.Std

open Gxf.Core Gxf.Lib FixedPoolUint64

/-- The parameters and fields of the pool.  `pointer` is the address of the area. -/
structure BlockMemoryPool where
  storageType : Int
  blockSize : UInt64
  numBlocks : UInt64
  pointer : UInt64
  stack : Option FixedPoolUint64
  stage : AllocatorStage
  deriving DecidableEq, Repr

namespace BlockMemoryPool

/-- `initialize()`, where `memory` is the address the system allocator returned and
`arrays` says whether the arrays of the index pool could be allocated. -/
def init (storageType : Int) (blockSize numBlocks : UInt64) (memory : Option UInt64)
    (arrays : Bool) : Except GxfResult BlockMemoryPool :=
  if storageType ≠ 0 ∧ storageType ≠ 1 ∧ storageType ≠ 2 then
    .error .GXF_PARAMETER_OUT_OF_RANGE
  else
    match memory with
    | none => .error .GXF_OUT_OF_MEMORY
    | some pointer =>
        match allocate numBlocks.toNat arrays arrays with
        | (_, .error _) => .error .GXF_FAILURE
        | (stack, .ok ()) =>
            .ok ⟨storageType, blockSize, numBlocks, pointer, some stack, .kInitialized⟩

/-- `stack_->size()`. -/
def freeBlocks (pool : BlockMemoryPool) : Nat := pool.stack.elim 0 left

/-- `is_available_abi(size)`. -/
def isAvailableAbi (pool : BlockMemoryPool) (size : UInt64) : GxfResult :=
  if pool.stage ≠ .kInitialized then .GXF_INVALID_LIFECYCLE_STAGE
  else if size ≤ pool.blockSize * UInt64.ofNat pool.freeBlocks then .GXF_SUCCESS
  else .GXF_FAILURE

/-- `allocate_abi(size, type, pointer)` with a valid output pointer. -/
def allocateAbi (pool : BlockMemoryPool) (size : UInt64) (type : Int) :
    BlockMemoryPool × Except GxfResult UInt64 :=
  if pool.stage ≠ .kInitialized then (pool, .error .GXF_INVALID_LIFECYCLE_STAGE)
  else if type ≠ pool.storageType then (pool, .error .GXF_ARGUMENT_INVALID)
  else if size > pool.blockSize then (pool, .error .GXF_ARGUMENT_INVALID)
  else
    match pool.stack with
    | none => (pool, .error .GXF_CONTRACT_INVALID_SEQUENCE)
    | some stack =>
        if pool.isAvailableAbi size ≠ .GXF_SUCCESS then
          (pool, .error .GXF_EXCEEDING_PREALLOCATED_SIZE)
        else
          match stack.pop with
          | (_, .error _) => (pool, .error .GXF_FAILURE)
          | (after, .ok index) =>
              ({ pool with stack := some after },
                .ok (pool.pointer + UInt64.ofNat index * pool.blockSize))

/-- `free_abi(pointer)`. -/
def freeAbi (pool : BlockMemoryPool) (pointer : UInt64) : BlockMemoryPool × GxfResult :=
  if pointer < pool.pointer then (pool, .GXF_ARGUMENT_OUT_OF_RANGE)
  else
    match pool.stack with
    | none => (pool, .GXF_CONTRACT_INVALID_SEQUENCE)
    | some stack =>
        let delta := pointer - pool.pointer
        let index := delta / pool.blockSize
        if index * pool.blockSize ≠ delta then (pool, .GXF_ARGUMENT_INVALID)
        else if index.toNat ≥ stack.capacity then (pool, .GXF_ARGUMENT_OUT_OF_RANGE)
        else
          match stack.push index.toNat with
          | (_, .error _) => (pool, .GXF_FAILURE)
          | (after, .ok ()) => ({ pool with stack := some after }, .GXF_SUCCESS)

/-- The allocator interface of the pool, for requests of its own storage type. -/
def allocator : Allocator BlockMemoryPool where
  isAvailableAbi := isAvailableAbi
  allocateAbi pool size := ((pool.allocateAbi size pool.storageType).1,
      match (pool.allocateAbi size pool.storageType).2 with
      | .ok _ => .GXF_SUCCESS
      | .error code => code)
  blockSize := blockSize

/-- The calls in a history of the pool. -/
inductive Op where
  | allocate (size : UInt64) (type : Int)
  | free (pointer : UInt64)
  deriving DecidableEq, Repr

/-- The pool as a system that answers with addresses and result codes. -/
def system : System BlockMemoryPool Op (Except GxfResult UInt64) where
  step pool
    | .allocate size type => pool.allocateAbi size type
    | .free pointer =>
        ((pool.freeAbi pointer).1,
          match (pool.freeAbi pointer).2 with
          | .GXF_SUCCESS => .ok pointer
          | code => .error code)

/-- A pool in use: it is initialized, and its index stack has one entry a block. -/
structure InUse (blockSize numBlocks : UInt64) (pool : BlockMemoryPool) : Prop where
  stage_eq : pool.stage = .kInitialized
  blockSize_eq : pool.blockSize = blockSize
  stack_size : ∃ stack, pool.stack = some stack ∧ stack.size = numBlocks.toNat ∧
    stack.next ≤ stack.size

variable {blockSize numBlocks : UInt64} {stack after : FixedPoolUint64}

theorem init_ok {storageType : Int} {memory : Option UInt64} {arrays : Bool}
    {pool : BlockMemoryPool}
    (initialized : init storageType blockSize numBlocks memory arrays = .ok pool) :
    pool.stage = .kInitialized ∧ pool.blockSize = blockSize ∧ pool.numBlocks = numBlocks ∧
      pool.stack = some ⟨numBlocks.toNat, 0, List.range numBlocks.toNat,
        List.range numBlocks.toNat⟩ := by
  unfold init at initialized
  split at initialized
  next => cases initialized
  next =>
    cases memory with
    | none => cases initialized
    | some address =>
        by_cases failed : numBlocks.toNat > 0 ∧ (!arrays || !arrays)
        · simp only [allocate, failed, and_self, if_true] at initialized
          cases initialized
        · simp only [allocate, failed, if_false] at initialized
          cases initialized
          exact ⟨rfl, rfl, rfl, rfl⟩

theorem pop_size {index : Nat}
    (popped : stack.pop = (after, .ok index)) (bounded : stack.next ≤ stack.size) :
    after.size = stack.size ∧ after.next ≤ after.size := by
  unfold FixedPoolUint64.pop at popped
  split at popped
  next => cases popped
  next room =>
    cases popped
    exact ⟨rfl, Nat.lt_of_le_of_ne bounded room⟩

theorem push_size {item : Nat}
    (pushed : stack.push item = (after, .ok ())) (bounded : stack.next ≤ stack.size) :
    after.size = stack.size ∧ after.next ≤ after.size := by
  unfold push at pushed
  split at pushed
  next => cases pushed
  next =>
    dsimp only at pushed
    split at pushed
    next => cases pushed
    next =>
      cases pushed
      exact ⟨rfl, Nat.le_trans (Nat.sub_le _ _) bounded⟩

theorem inUse_step (pool : BlockMemoryPool) (op : Op) (inUse : InUse blockSize numBlocks pool) :
    InUse blockSize numBlocks (system.step pool op).1 := by
  obtain ⟨stageEq, blockSizeEq, stack, stackEq, sizeEq, bounded⟩ := inUse
  have unchanged : InUse blockSize numBlocks pool :=
    ⟨stageEq, blockSizeEq, stack, stackEq, sizeEq, bounded⟩
  cases op with
  | allocate size type =>
      simp only [system, allocateAbi, stackEq]
      split
      · exact unchanged
      split
      · exact unchanged
      split
      · exact unchanged
      split
      · exact unchanged
      split
      next => exact unchanged
      next after index popped =>
        obtain ⟨sameSize, stillBounded⟩ := pop_size popped bounded
        exact ⟨stageEq, blockSizeEq, after, rfl, sameSize.trans sizeEq, stillBounded⟩
  | free pointer =>
      simp only [system, freeAbi, stackEq]
      split
      · exact unchanged
      split
      · exact unchanged
      split
      · exact unchanged
      split
      next => exact unchanged
      next after pushed =>
        obtain ⟨sameSize, stillBounded⟩ := push_size pushed bounded
        exact ⟨stageEq, blockSizeEq, after, rfl, sameSize.trans sizeEq, stillBounded⟩

/-! ## What can be obtained -/

/-- The 64-bit product of block size and free blocks. -/
def product (blockSize : UInt64) (blocks : Nat) : Nat := blockSize.toNat * blocks % 2 ^ 64

/-- The most bytes that successive calls obtain from a number of free blocks: each
call is limited by the block size and by the product at that moment. -/
def budget (blockSize : UInt64) : (blocks : Nat) → Nat
  | 0 => 0
  | blocks + 1 => min blockSize.toNat (product blockSize (blocks + 1)) + budget blockSize blocks

section Obtainable

variable {blockSize numBlocks : UInt64} {pool : BlockMemoryPool}

namespace InUse

section

variable (inUse : InUse blockSize numBlocks pool)
include inUse

theorem freeBlocks_lt : pool.freeBlocks < 2 ^ 64 := by
  obtain ⟨-, -, stack, stackEq, sizeEq, -⟩ := inUse
  have := numBlocks.toNat_lt
  simp only [freeBlocks, stackEq, Option.elim_some, left]
  omega

theorem isAvailable_iff (size : UInt64) : allocator.isAvailable pool size = true ↔
      size.toNat ≤ product blockSize pool.freeBlocks := by
  have bound := inUse.freeBlocks_lt
  have productEq : (pool.blockSize * UInt64.ofNat pool.freeBlocks).toNat =
      product blockSize pool.freeBlocks := by
    rw [UInt64.toNat_mul, inUse.blockSize_eq, UInt64.toNat_ofNat', Nat.mod_eq_of_lt bound]
    rfl
  simp only [Allocator.isAvailable, allocator, isAvailableAbi, inUse.stage_eq, ne_eq,
    not_true_eq_false, if_false, UInt64.le_iff_toNat_le, productEq]
  by_cases fits : size.toNat ≤ product blockSize pool.freeBlocks <;> simp [fits]

theorem allocate (size : UInt64) : ((allocator.allocateAbi pool size).2 = .GXF_SUCCESS ↔
      0 < pool.freeBlocks ∧ size.toNat ≤ min blockSize.toNat (product blockSize pool.freeBlocks)) ∧
    ((allocator.allocateAbi pool size).2 = .GXF_SUCCESS →
      (allocator.allocateAbi pool size).1.freeBlocks = pool.freeBlocks - 1) := by
  have available := inUse.isAvailable_iff size
  obtain ⟨stageEq, blockSizeEq, stack, stackEq, sizeEq, bounded⟩ := inUse
  have blocksEq : pool.freeBlocks = stack.size - stack.next := by
    simp [freeBlocks, stackEq, left]
  simp only [Allocator.isAvailable, beq_iff_eq] at available
  have storage : ¬pool.storageType ≠ pool.storageType := fun differ => differ rfl
  have stage : ¬pool.stage ≠ .kInitialized := fun differ => differ stageEq
  by_cases tooLarge : blockSize.toNat < size.toNat
  · have refused : size > pool.blockSize := by
      rw [blockSizeEq]
      exact UInt64.lt_iff_toNat_lt.mpr tooLarge
    have result : (allocator.allocateAbi pool size).2 = .GXF_ARGUMENT_INVALID := by
      simp only [allocator, allocateAbi, stage, storage, if_false, refused, if_true]
    rw [result]
    exact ⟨iff_of_false (by decide) (by omega), fun impossible => by cases impossible⟩
  have fitsBlock : ¬size > pool.blockSize := by
    rw [blockSizeEq]
    exact fun larger => tooLarge (UInt64.lt_iff_toNat_lt.mp larger)
  by_cases fits : size.toNat ≤ product blockSize pool.freeBlocks
  · have isAvailable : ¬pool.isAvailableAbi size ≠ .GXF_SUCCESS := fun differ =>
      differ (available.mpr fits)
    by_cases atEnd : stack.next = stack.size
    · have result : (allocator.allocateAbi pool size).2 = .GXF_FAILURE := by
        simp only [allocator, allocateAbi, stage, storage, if_false, fitsBlock, stackEq,
          isAvailable, FixedPoolUint64.pop, atEnd, if_true]
      rw [result]
      exact ⟨iff_of_false (by decide) (by omega), fun impossible => by cases impossible⟩
    · have result : allocator.allocateAbi pool size =
          ({ pool with stack := some { stack with next := stack.next + 1 } }, .GXF_SUCCESS) := by
        simp only [allocator, allocateAbi, stage, storage, if_false, fitsBlock, stackEq,
          isAvailable, FixedPoolUint64.pop, atEnd]
      rw [result]
      refine ⟨iff_of_true rfl (by omega), fun _ => ?_⟩
      simp only [freeBlocks, Option.elim_some, stackEq, left]
      omega
  · have notAvailable : pool.isAvailableAbi size ≠ .GXF_SUCCESS := fun is =>
      fits (available.mp is)
    have result : (allocator.allocateAbi pool size).2 = .GXF_EXCEEDING_PREALLOCATED_SIZE := by
      simp only [allocator, allocateAbi, stage, storage, if_false, fitsBlock, stackEq,
        if_pos notAvailable]
    rw [result]
    exact ⟨iff_of_false (by decide) (by omega), fun impossible => by cases impossible⟩

theorem allocated (size : UInt64) : InUse blockSize numBlocks (allocator.allocateAbi pool size).1 :=
  inUse_step pool (.allocate size pool.storageType) inUse

theorem obtainable_iff (amount : Nat) :
    allocator.Obtainable pool amount ↔ amount ≤ budget blockSize pool.freeBlocks := by
  induction blocksEq : pool.freeBlocks generalizing pool amount with
  | zero =>
      simp only [budget, Nat.le_zero]
      constructor
      · intro obtainable
        by_contra nonzero
        obtain ⟨size, -, succeeded, -⟩ :=
          (Allocator.obtainable_iff (Nat.pos_of_ne_zero nonzero)).mp obtainable
        have := ((inUse.allocate size).1.mp succeeded).1
        omega
      · rintro rfl
        exact Allocator.obtainable_zero pool
  | succ blocks ih =>
      rcases Nat.eq_zero_or_pos amount with rfl | positive
      · exact ⟨fun _ => Nat.zero_le _, fun _ => Allocator.obtainable_zero pool⟩
      rw [Allocator.obtainable_iff positive]
      constructor
      · rintro ⟨size, atMost, succeeded, rest⟩
        have limited := ((inUse.allocate size).1.mp succeeded).2
        have left := (inUse.allocate size).2 succeeded
        rw [blocksEq] at limited left
        have := (ih (inUse.allocated size) _ left).mp rest
        simp only [budget]
        omega
      · intro within
        simp only [budget] at within
        let share := min amount (min blockSize.toNat (product blockSize (blocks + 1)))
        have shareEq : (UInt64.ofNat share).toNat = share := by
          have := blockSize.toNat_lt
          rw [UInt64.toNat_ofNat', Nat.mod_eq_of_lt]
          omega
        have succeeded : (allocator.allocateAbi pool (UInt64.ofNat share)).2 = .GXF_SUCCESS := by
          rw [(inUse.allocate _).1, blocksEq, shareEq]
          exact ⟨Nat.succ_pos _, Nat.min_le_right _ _⟩
        have left := (inUse.allocate _).2 succeeded
        rw [blocksEq] at left
        refine ⟨UInt64.ofNat share, by rw [shareEq]; exact Nat.min_le_left _ _, succeeded, ?_⟩
        rw [ih (inUse.allocated _) _ left, shareEq]
        omega

end

end InUse

variable {blocks : Nat}

theorem budget_of_lt (fits : blockSize.toNat * blocks < 2 ^ 64) :
    budget blockSize blocks = blockSize.toNat * blocks := by
  induction blocks with
  | zero => rfl
  | succ blocks ih =>
      have smaller : blockSize.toNat * blocks < 2 ^ 64 := by
        rw [Nat.mul_succ] at fits
        omega
      rw [budget, ih smaller, product, Nat.mod_eq_of_lt fits, Nat.mul_succ]
      omega

theorem product_succ_le (blockSize : UInt64) (blocks : Nat) :
    product blockSize (blocks + 1) ≤ product blockSize blocks + blockSize.toNat := by
  simp only [product, Nat.mul_succ]
  have := blockSize.toNat_lt
  omega

theorem product_le_budget (blockSize : UInt64) (blocks : Nat) :
    product blockSize blocks ≤ budget blockSize blocks := by
  induction blocks with
  | zero => simp [product]
  | succ blocks ih =>
      have := product_succ_le blockSize blocks
      rw [budget]
      omega

theorem product_lt_budget (overflow : 2 ^ 64 ≤ blockSize.toNat * blocks) :
    product blockSize blocks < budget blockSize blocks := by
  induction blocks with
  | zero => simp at overflow
  | succ blocks ih =>
      rw [budget]
      have step := product_succ_le blockSize blocks
      by_cases before : 2 ^ 64 ≤ blockSize.toNat * blocks
      · have := ih before
        omega
      · -- the first overflow: one block more than the plain product allows
        have fits := Nat.lt_of_not_le before
        have plain := budget_of_lt fits
        have wrapped : product blockSize (blocks + 1) =
            blockSize.toNat * blocks + blockSize.toNat - 2 ^ 64 := by
          have := blockSize.toNat_lt
          simp only [product, Nat.mul_succ] at overflow ⊢
          omega
        have bound := blockSize.toNat_lt
        rw [Nat.mul_succ] at overflow
        omega

/-- The condition under which byte availability agrees with allocation for every
request: the 64-bit product of block size and free blocks is exact, or it is the
largest number of all. -/
def ProductExact (pool : BlockMemoryPool) : Prop :=
  pool.blockSize.toNat * pool.freeBlocks < 2 ^ 64 ∨
    pool.blockSize.toNat * pool.freeBlocks % 2 ^ 64 = 2 ^ 64 - 1

theorem InUse.agrees_iff (inUse : InUse blockSize numBlocks pool) :
    (∀ size : UInt64, 1 ≤ size.toNat → allocator.Agrees pool size) ↔ ProductExact pool := by
  have reported := inUse.isAvailable_iff
  have atMost := product_le_budget blockSize pool.freeBlocks
  simp only [Allocator.agrees_iff, reported, inUse.obtainable_iff, ProductExact, inUse.blockSize_eq]
  constructor
  · intro agrees
    by_contra inexact
    rw [not_or] at inexact
    obtain ⟨overflow, notLargest⟩ := inexact
    have exceeds := product_lt_budget (Nat.le_of_not_lt overflow)
    have small : product blockSize pool.freeBlocks + 1 < 2 ^ 64 := by
      have := Nat.mod_lt (blockSize.toNat * pool.freeBlocks) (Nat.two_pow_pos 64)
      simp only [product]
      omega
    have next := agrees (UInt64.ofNat (product blockSize pool.freeBlocks + 1))
    rw [UInt64.toNat_ofNat', Nat.mod_eq_of_lt small] at next
    have := (next (Nat.le_add_left 1 _)).mpr exceeds
    omega
  · rintro (fits | largest) size -
    · have plain := budget_of_lt fits
      rw [product, Nat.mod_eq_of_lt fits, plain]
    · have := size.toNat_lt
      have isLargest : product blockSize pool.freeBlocks = 2 ^ 64 - 1 := largest
      omega

end Obtainable

end BlockMemoryPool

end Gxf.Std
