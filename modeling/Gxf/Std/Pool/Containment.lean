import Gxf.Std.Pool.Availability

/-!
# Where the blocks of the pool lie

The block memory pool obtains an area as large as the 64-bit product of its block size and its
number of blocks, and addresses a block by another such product.  A range of bytes is given by its
first address, so that it can wrap around.
-/

namespace Gxf.Std.BlockMemoryPool

open Gxf.Core Gxf.Lib System

/-- As many bytes as the size says, the first one at the pointer. -/
structure Range where
  pointer : UInt64
  size : UInt64
  deriving DecidableEq, Repr

def Range.Contains (range : Range) (address : UInt64) : Prop := address - range.pointer < range.size

instance (range : Range) (address : UInt64) : Decidable (range.Contains address) :=
  inferInstanceAs (Decidable (_ < _))

/-- `total_size` in `initialize()`. -/
def totalSize (pool : BlockMemoryPool) : UInt64 := pool.numBlocks * pool.blockSize

/-- What `initialize()` obtains from the system allocator. -/
def area (pool : BlockMemoryPool) : Range := ⟨pool.pointer, pool.totalSize⟩

/-- The divisors of the divisions that `free_abi(pointer)` evaluates. -/
def freeDivisors (pool : BlockMemoryPool) (pointer : UInt64) : List UInt64 :=
  if pointer < pool.pointer then [] else pool.stack.elim [] fun _ => [pool.blockSize]

/-- The ranges that callers hold, as the answers tell it. -/
def heldRanges (held : List Range) : Op → Except GxfResult UInt64 → List Range
  | .allocate size _, .ok pointer => ⟨pointer, size⟩ :: held
  | .free pointer, .ok _ => held.filter fun range => range.pointer ≠ pointer
  | _, .error _ => held

/-- What one call owes: a range that is handed out is part of the area and of no other range, and
no division is by zero. -/
def StepSound (state : BlockMemoryPool × List Range) : Op → Prop
  | .allocate size type =>
      ∀ pointer, (state.1.allocateAbi size type).2 = .ok pointer → ∀ address,
        (⟨pointer, size⟩ : Range).Contains address →
          state.1.area.Contains address ∧ ∀ range ∈ state.2, ¬range.Contains address
  | .free pointer => ∀ divisor ∈ state.1.freeDivisors pointer, divisor ≠ 0

/-- Every call of every history does what it owes. -/
def Contained (pool : BlockMemoryPool) : Prop :=
  ∀ ops, (system.recorded heldRanges).Along StepSound (pool, []) ops

section Ranges

variable {base offset size address : UInt64}

theorem contains_mk_iff :
    (⟨base, size⟩ : Range).Contains address ↔ (address - base).toNat < size.toNat :=
  UInt64.lt_iff_toNat_lt

theorem contains_iff (fits : offset.toNat + size.toNat ≤ 2 ^ 64) :
    (⟨base + offset, size⟩ : Range).Contains address ↔
      offset.toNat ≤ (address - base).toNat ∧
        (address - base).toNat < offset.toNat + size.toNat := by
  have baseBound := base.toNat_lt
  have offsetBound := offset.toNat_lt
  have addressBound := address.toNat_lt
  rw [contains_mk_iff, UInt64.toNat_sub, UInt64.toNat_sub, UInt64.toNat_add]
  omega

variable {blockSize : UInt64} {index : Nat}

theorem offset_eq (fits : index * blockSize.toNat < 2 ^ 64) :
    (UInt64.ofNat index * blockSize).toNat = index * blockSize.toNat := by
  rw [UInt64.toNat_mul, UInt64.toNat_ofNat', Nat.mod_mul_mod, Nat.mod_eq_of_lt fits]

theorem contains_block_iff (fits : index * blockSize.toNat + size.toNat ≤ 2 ^ 64)
    (inside : index * blockSize.toNat < 2 ^ 64) :
    (⟨base + UInt64.ofNat index * blockSize, size⟩ : Range).Contains address ↔
      index * blockSize.toNat ≤ (address - base).toNat ∧
        (address - base).toNat < index * blockSize.toNat + size.toNat := by
  have same := offset_eq inside
  rw [contains_iff (by rw [same]; exact fits), same]

end Ranges

/-! ## Without overflow -/

/-- The held ranges start at the blocks that are handed out. -/
structure Placed (blockSize numBlocks base : UInt64) (state : BlockMemoryPool × List Range) :
    Prop where
  blockSize_eq : state.1.blockSize = blockSize
  numBlocks_eq : state.1.numBlocks = numBlocks
  pointer_eq : state.1.pointer = base
  held : ∃ stack handedOut, state.1.stack = some stack ∧
    FixedPoolUint64.Inv numBlocks.toNat stack handedOut ∧
    ∀ range ∈ state.2, ∃ index ∈ handedOut,
      range.pointer = base + UInt64.ofNat index * blockSize ∧ range.size ≤ blockSize

section Placed

variable {blockSize numBlocks base : UInt64} {state : BlockMemoryPool × List Range}

variable {pool : BlockMemoryPool} {stack : FixedPoolUint64} {handedOut : Finset Nat} {count : Nat}
  {size pointer : UInt64} {type : Int}

theorem allocate_ok (isStack : pool.stack = some stack)
    (inv : FixedPoolUint64.Inv count stack handedOut)
    (answer : (pool.allocateAbi size type).2 = .ok pointer) :
    ∃ index after, size ≤ pool.blockSize ∧ index < count ∧ index ∉ handedOut ∧
      FixedPoolUint64.Inv count after (insert index handedOut) ∧
      pointer = pool.pointer + UInt64.ofNat index * pool.blockSize ∧
      (pool.allocateAbi size type).1 = { pool with stack := some after } := by
  rw [allocateAbi, isStack] at answer ⊢
  split at answer
  next => cases answer
  next initialized =>
    split at answer
    next => cases answer
    next sameType =>
      split at answer
      next => cases answer
      next fits =>
        dsimp only at answer
        split at answer
        next => cases answer
        next available =>
          by_cases atEnd : stack.next = stack.size
          · have refused : stack.pop = (stack, .error .kUnderflow) := by
              rw [FixedPoolUint64.pop, if_pos atEnd]
            rw [refused] at answer
            cases answer
          · obtain ⟨index, popped, inside, notHeld, kept⟩ := inv.pop atEnd
            rw [popped] at answer
            cases answer
            refine ⟨index, _, UInt64.not_lt.mp fits, inside, notHeld, kept, rfl, ?_⟩
            rw [if_neg initialized, if_neg sameType, if_neg fits]
            dsimp only
            rw [if_neg available, popped]

/-- A refused request changes nothing. -/
theorem allocate_error {code : GxfResult} (answer : (pool.allocateAbi size type).2 = .error code) :
    (pool.allocateAbi size type).1 = pool := by
  unfold allocateAbi at answer ⊢
  split at answer
  next uninitialized => rw [if_pos uninitialized]
  next initialized =>
    rw [if_neg initialized]
    split at answer
    next differs => rw [if_pos differs]
    next sameType =>
      rw [if_neg sameType]
      split at answer
      next larger => rw [if_pos larger]
      next fits =>
        rw [if_neg fits]
        cases isStack : pool.stack with
        | none => rfl
        | some stack =>
            rw [isStack] at answer
            dsimp only at answer ⊢
            split at answer
            next unavailable => rw [if_pos unavailable]
            next available =>
              rw [if_neg available]
              cases popped : stack.pop with
              | mk after result =>
                  cases result with
                  | error code => rfl
                  | ok index =>
                      rw [popped] at answer
                      cases answer

theorem free_error
    (answer : (pool.freeAbi pointer).2 ≠ .GXF_SUCCESS) : (pool.freeAbi pointer).1 = pool := by
  unfold freeAbi at answer ⊢
  split at answer
  next before => rw [if_pos before]
  next behind =>
    rw [if_neg behind]
    cases isStack : pool.stack with
    | none => rfl
    | some stack =>
        rw [isStack] at answer
        dsimp only at answer ⊢
        split at answer
        next unaligned => rw [if_pos unaligned]
        next aligned =>
          rw [if_neg aligned]
          split at answer
          next outside => rw [if_pos outside]
          next inside =>
            rw [if_neg inside]
            cases pushed : stack.push ((pointer - pool.pointer) / pool.blockSize).toNat with
            | mk after result =>
                cases result with
                | error code => rfl
                | ok done =>
                    rw [pushed] at answer
                    exact absurd rfl answer

theorem free_ok (isStack : pool.stack = some stack)
    (inv : FixedPoolUint64.Inv count stack handedOut)
    (answer : (pool.freeAbi pointer).2 = .GXF_SUCCESS) :
    ∃ index after, FixedPoolUint64.Inv count after (handedOut.erase index) ∧
      pointer = pool.pointer + UInt64.ofNat index * pool.blockSize ∧
      (pool.freeAbi pointer).1 = { pool with stack := some after } := by
  rw [freeAbi, isStack] at answer ⊢
  split at answer
  next => cases answer
  next behind =>
    dsimp only at answer
    split at answer
    next => cases answer
    next aligned =>
      split at answer
      next => cases answer
      next inside =>
        let index := (pointer - pool.pointer) / pool.blockSize
        by_cases held : index.toNat ∈ handedOut
        · obtain ⟨after, pushed, kept⟩ := inv.push held
          have isOffset : index * pool.blockSize = pointer - pool.pointer := not_not.mp aligned
          refine ⟨index.toNat, after, kept, ?_, ?_⟩
          · rw [UInt64.ofNat_toNat, isOffset, UInt64.add_comm, UInt64.sub_add_cancel]
          · rw [if_neg behind]
            dsimp only
            rw [if_neg aligned, if_neg inside, pushed]
        · obtain ⟨code, refused⟩ := FixedPoolUint64.push_refused inv held
          rw [refused] at answer
          cases answer

theorem placed_step (positive : blockSize ≠ 0)
    (fits : numBlocks.toNat * blockSize.toNat < 2 ^ 64) (op : Op)
    (placed : Placed blockSize numBlocks base state) :
    Placed blockSize numBlocks base ((system.recorded heldRanges).step state op).1 ∧
      StepSound state op := by
  obtain ⟨pool, ranges⟩ := state
  obtain ⟨rfl, rfl, rfl, stack, handedOut, isStack, inv, inBlocks⟩ := placed
  dsimp only at isStack inBlocks fits positive ⊢
  have unchanged : Placed pool.blockSize pool.numBlocks pool.pointer (pool, ranges) :=
    ⟨rfl, rfl, rfl, stack, handedOut, isStack, inv, inBlocks⟩
  -- every block that is handed out ends before the area does
  have ends : ∀ index < pool.numBlocks.toNat, index * pool.blockSize.toNat + pool.blockSize.toNat ≤
        pool.numBlocks.toNat * pool.blockSize.toNat := by
    intro index inside
    rw [← Nat.succ_mul]
    exact Nat.mul_le_mul_right _ inside
  have blockPositive : 0 < pool.blockSize.toNat :=
    Nat.pos_of_ne_zero fun zero => positive (UInt64.toNat_inj.mp zero)
  cases op with
  | allocate size type =>
      simp only [recorded, system, StepSound]
      cases answer : (pool.allocateAbi size type).2 with
      | error code =>
          rw [allocate_error answer]
          exact ⟨unchanged, fun pointer isPointer => by cases isPointer⟩
      | ok pointer =>
          obtain ⟨index, after, sizeLe, inside, notHeld, kept, isPointer, isAfter⟩ :=
            allocate_ok isStack inv answer
          rw [UInt64.le_iff_toNat_le] at sizeLe
          rw [isAfter]
          refine ⟨⟨rfl, rfl, rfl, after, insert index handedOut, rfl, kept, ?_⟩, ?_⟩
          · refine List.forall_mem_cons.mpr ⟨⟨index, Finset.mem_insert_self _ _, isPointer,
              UInt64.le_iff_toNat_le.mpr sizeLe⟩, fun range member => ?_⟩
            obtain ⟨other, isHeld, place⟩ := inBlocks range member
            exact ⟨other, Finset.mem_insert_of_mem isHeld, place⟩
          · rintro _ ⟨⟩ address contained
            have end_le := ends index inside
            rw [isPointer, contains_block_iff (by omega) (by omega)] at contained
            constructor
            · rw [area, contains_mk_iff, totalSize, UInt64.toNat_mul, Nat.mod_eq_of_lt fits]
              omega
            · intro range member others
              obtain ⟨other, isHeld, place, rangeLe⟩ := inBlocks range member
              rw [UInt64.le_iff_toNat_le] at rangeLe
              have otherInside := ((inv.handedOut_iff other).mp isHeld).1
              have other_le := ends other otherInside
              have isRange : range = ⟨pool.pointer + UInt64.ofNat other * pool.blockSize,
                  range.size⟩ := by
                rw [← place]
              rw [isRange, contains_block_iff (by omega) (by omega)] at others
              rcases Nat.lt_trichotomy index other with before | same | behind
              · have := Nat.mul_le_mul_right pool.blockSize.toNat (Nat.succ_le_of_lt before)
                rw [Nat.succ_mul] at this
                omega
              · exact notHeld (same ▸ isHeld)
              · have := Nat.mul_le_mul_right pool.blockSize.toNat (Nat.succ_le_of_lt behind)
                rw [Nat.succ_mul] at this
                omega
  | free pointer =>
      have sound : StepSound (pool, ranges) (.free pointer) := by
        intro divisor member
        dsimp only [freeDivisors] at member
        split at member
        next => cases member
        next =>
          rw [isStack, Option.elim_some, List.mem_singleton] at member
          rw [member]
          exact positive
      refine ⟨?_, sound⟩
      by_cases answer : (pool.freeAbi pointer).2 = .GXF_SUCCESS
      · obtain ⟨index, after, kept, isPointer, isAfter⟩ := free_ok isStack inv answer
        simp only [recorded, system, answer, isAfter, heldRanges]
        refine ⟨rfl, rfl, rfl, after, handedOut.erase index, rfl, kept, fun range member => ?_⟩
        obtain ⟨member, elsewhere⟩ := List.mem_filter.mp member
        obtain ⟨other, isHeld, place, rangeLe⟩ := inBlocks range member
        have different : other ≠ index := by
          rintro rfl
          rw [place, ← isPointer] at elsewhere
          simp at elsewhere
        exact ⟨other, Finset.mem_erase.mpr ⟨different, isHeld⟩, place, rangeLe⟩
      · have same := free_error answer
        simp only [recorded, system, same, heldRanges]
        exact unchanged

end Placed

/-! ## With overflow -/

/-- An initialized pool after as many requests, none of whose blocks came back. -/
def issued (pool : BlockMemoryPool) (count : Nat) : BlockMemoryPool :=
  { pool with
    stack := some ⟨pool.numBlocks.toNat, count, List.range pool.numBlocks.toNat,
      List.range pool.numBlocks.toNat⟩ }

section Overflow

variable {pool : BlockMemoryPool} {count : Nat} {size : UInt64} {held : List Range}

theorem allocate_issued (initialized : pool.stage = .kInitialized)
    (room : count < pool.numBlocks.toNat) (fits : size ≤ pool.blockSize)
    (available : size.toNat ≤ product pool.blockSize (pool.numBlocks.toNat - count)) :
    (pool.issued count).allocateAbi size pool.storageType =
      (pool.issued (count + 1), .ok (pool.pointer + UInt64.ofNat count * pool.blockSize)) := by
  have inUse : InUse pool.blockSize pool.numBlocks (pool.issued count) :=
    ⟨initialized, rfl, _, rfl, rfl, Nat.le_of_lt room⟩
  have isAvailable : (pool.issued count).isAvailableAbi size = .GXF_SUCCESS := by
    have reported := (inUse.isAvailable_iff size).mpr available
    rwa [Allocator.isAvailable, beq_iff_eq] at reported
  have popped : FixedPoolUint64.pop ⟨pool.numBlocks.toNat, count, List.range pool.numBlocks.toNat,
      List.range pool.numBlocks.toNat⟩ =
        (⟨pool.numBlocks.toNat, count + 1, List.range pool.numBlocks.toNat,
          List.range pool.numBlocks.toNat⟩, .ok count) := by
    rw [FixedPoolUint64.pop, if_neg (Nat.ne_of_lt room), FixedPoolUint64.getD_range room]
  have stage : ¬(pool.issued count).stage ≠ .kInitialized := not_not.mpr initialized
  have sameType : ¬pool.storageType ≠ (pool.issued count).storageType := not_not.mpr rfl
  have notLarger : ¬size > (pool.issued count).blockSize := UInt64.not_lt.mpr fits
  rw [allocateAbi, if_neg stage, if_neg sameType, if_neg notLarger, isAvailable]
  simp only [issued, ne_eq, not_true_eq_false, if_false, popped]

theorem run_empty_requests (initialized : pool.stage = .kInitialized) (requests : Nat)
    (room : count + requests ≤ pool.numBlocks.toNat) :
    ∃ later, (system.recorded heldRanges).run (pool.issued count, held)
        (List.replicate requests (.allocate 0 pool.storageType)) =
          (pool.issued (count + requests), later) ∧ ∀ range ∈ held, range ∈ later := by
  induction requests generalizing count held with
  | zero => exact ⟨held, rfl, fun _ member => member⟩
  | succ requests ih =>
      have answer : (pool.issued count).allocateAbi 0 pool.storageType = _ :=
        allocate_issued initialized (by omega) (UInt64.zero_le) (Nat.zero_le _)
      have stepped : (system.recorded heldRanges).step (pool.issued count, held)
          (.allocate 0 pool.storageType) = ((pool.issued (count + 1),
              ⟨pool.pointer + UInt64.ofNat count * pool.blockSize, 0⟩ :: held),
              .ok (pool.pointer + UInt64.ofNat count * pool.blockSize)) := by
        simp only [recorded, system, answer, heldRanges]
      obtain ⟨later, isRun, kept⟩ := @ih (count + 1)
        (⟨pool.pointer + UInt64.ofNat count * pool.blockSize, 0⟩ :: held) (by omega)
      refine ⟨later, ?_, fun range member => kept range (List.mem_cons_of_mem _ member)⟩
      rw [List.replicate_succ, run_cons, stepped, isRun]
      congr 2
      omega

variable {ops : List Op}

theorem Contained.next (contained : Contained (pool.issued 0))
    (initialized : pool.stage = .kInitialized)
    (isRun : (system.recorded heldRanges).run (pool.issued 0, []) ops = (pool.issued count, held))
    (room : count < pool.numBlocks.toNat) (fits : size ≤ pool.blockSize)
    (available : size.toNat ≤ product pool.blockSize (pool.numBlocks.toNat - count))
    {address : UInt64}
    (isByte : (⟨pool.pointer + UInt64.ofNat count * pool.blockSize, size⟩ : Range).Contains
      address) :
    pool.area.Contains address ∧ ∀ range ∈ held, ¬range.Contains address := by
  have sound := (along_append _ _ ops _).mp
    (contained (ops ++ [.allocate size pool.storageType]))
  rw [isRun] at sound
  exact sound.2.1 _ (congrArg Prod.snd (allocate_issued initialized room fits available)) address
    isByte

theorem Contained.next_byte (contained : Contained (pool.issued 0))
    (initialized : pool.stage = .kInitialized) (positive : 0 < pool.blockSize.toNat)
    (isRun : (system.recorded heldRanges).run (pool.issued 0, []) ops = (pool.issued count, held))
    (room : count < pool.numBlocks.toNat)
    (available : 0 < product pool.blockSize (pool.numBlocks.toNat - count)) :
    pool.area.Contains (pool.pointer + UInt64.ofNat count * pool.blockSize) ∧
      ∀ range ∈ held, ¬range.Contains (pool.pointer + UInt64.ofNat count * pool.blockSize) := by
  have fits : (1 : UInt64) ≤ pool.blockSize := UInt64.le_iff_toNat_le.mpr positive
  have isByte : (⟨pool.pointer + UInt64.ofNat count * pool.blockSize, 1⟩ : Range).Contains
      (pool.pointer + UInt64.ofNat count * pool.blockSize) := by
    rw [contains_mk_iff, UInt64.sub_self]
    exact Nat.one_pos
  exact contained.next initialized isRun room fits available isByte

theorem offset_mod (base blockSize : UInt64) (index : Nat) :
    (base + UInt64.ofNat index * blockSize - base).toNat = index * blockSize.toNat % 2 ^ 64 := by
  rw [UInt64.add_comm, UInt64.add_sub_cancel, UInt64.toNat_mul, UInt64.toNat_ofNat',
    Nat.mod_mul_mod]

theorem exists_wrapped {number block : Nat} (positive : 0 < block) (bound : block < 2 ^ 64)
    (overflow : 2 ^ 64 ≤ number * block) :
    ∃ index < number, 0 < (number * block - index * block) % 2 ^ 64 ∧
      (number * block % 2 ^ 64 ≤ index * block % 2 ^ 64 ∨
        0 < index ∧ block ≤ number * block % 2 ^ 64 ∧ index * block % 2 ^ 64 < block) := by
  generalize isRest : number * block % 2 ^ 64 = rest
  by_cases small : rest < block
  · -- the last multiple
    have numberPositive : 0 < number := by
      by_contra none
      rw [Nat.eq_zero_of_not_pos none, Nat.zero_mul] at overflow
      omega
    have last : (number - 1) * block = number * block - block := Nat.sub_one_mul ..
    refine ⟨number - 1, Nat.sub_one_lt_of_lt numberPositive, ?_, .inl ?_⟩ <;> rw [last] <;> omega
  -- the first multiple behind the remainder
  have divided := Nat.div_add_mod rest block
  have remainder := Nat.mod_lt rest positive
  have next : (rest / block + 1) * block = block * (rest / block) + block := by
    rw [Nat.succ_mul, Nat.mul_comm]
  generalize rest / block = quotient at divided next
  by_cases fits : (quotient + 1) * block < 2 ^ 64
  · refine ⟨quotient + 1, Nat.lt_of_mul_lt_mul_right (Nat.lt_of_lt_of_le fits overflow), ?_,
      .inl ?_⟩ <;> omega
  · have quotientLt : quotient < number := by
      apply Nat.lt_of_mul_lt_mul_right (a := block)
      rw [Nat.mul_comm]
      omega
    have notLast : quotient + 1 ≠ number := by
      rintro rfl
      omega
    refine ⟨quotient + 1, by omega, ?_, .inr ⟨Nat.succ_pos _, ?_, ?_⟩⟩ <;> omega

theorem not_contained_of_overflow (initialized : pool.stage = .kInitialized)
    (positive : 0 < pool.blockSize.toNat)
    (overflow : 2 ^ 64 ≤ pool.numBlocks.toNat * pool.blockSize.toNat) :
    ¬Contained (pool.issued 0) := by
  intro contained
  have bound := pool.blockSize.toNat_lt
  generalize isBlock : pool.blockSize.toNat = block at *
  generalize isTotal : pool.numBlocks.toNat * block = total at *
  -- a block is inside the area only if its offset is smaller than the product
  have inside : ∀ index < pool.numBlocks.toNat,
      0 < block * (pool.numBlocks.toNat - index) % 2 ^ 64 →
        index * block % 2 ^ 64 < total % 2 ^ 64 := by
    intro index room available
    obtain ⟨later, isRun, -⟩ : ∃ later, (system.recorded heldRanges).run (pool.issued 0, [])
        (List.replicate index (.allocate 0 pool.storageType)) = (pool.issued (0 + index), later) ∧
          ∀ range ∈ [], range ∈ later :=
      run_empty_requests initialized index (by omega)
    rw [Nat.zero_add] at isRun
    have isByte := (contained.next_byte initialized (by omega) isRun room
      (by rw [product, isBlock]; exact available)).1
    rw [area, contains_mk_iff, offset_mod, isBlock, totalSize, UInt64.toNat_mul, isBlock,
      isTotal] at isByte
    exact isByte
  -- a block behind the first one does not start in it
  have apart : ∀ index < pool.numBlocks.toNat, 0 < index →
      block ≤ total % 2 ^ 64 → 0 < block * (pool.numBlocks.toNat - index) % 2 ^ 64 →
        block ≤ index * block % 2 ^ 64 := by
    intro index room behind fits available
    have stepped : (system.recorded heldRanges).step (pool.issued 0, [])
        (.allocate pool.blockSize pool.storageType) =
          ((pool.issued 1, [⟨pool.pointer + UInt64.ofNat 0 * pool.blockSize, pool.blockSize⟩]),
            .ok (pool.pointer + UInt64.ofNat 0 * pool.blockSize)) := by
      have answer : (pool.issued 0).allocateAbi pool.blockSize pool.storageType = _ :=
        allocate_issued initialized (by omega) (UInt64.le_refl _)
          (by rw [product, isBlock, Nat.sub_zero, Nat.mul_comm, isTotal]; exact fits)
      simp only [recorded, system, answer, heldRanges]
    obtain ⟨later, isRun, kept⟩ : ∃ later, (system.recorded heldRanges).run
        (pool.issued 1, [⟨pool.pointer + UInt64.ofNat 0 * pool.blockSize, pool.blockSize⟩])
        (List.replicate (index - 1) (.allocate 0 pool.storageType)) =
          (pool.issued (1 + (index - 1)), later) ∧ ∀ range ∈ _, range ∈ later :=
      run_empty_requests initialized (index - 1) (by omega)
    rw [Nat.add_sub_cancel' behind] at isRun
    have wholeRun : (system.recorded heldRanges).run (pool.issued 0, [])
        (.allocate pool.blockSize pool.storageType ::
          List.replicate (index - 1) (.allocate 0 pool.storageType)) =
            (pool.issued index, later) := by
      rw [run_cons, stepped, isRun]
    have notByte := (contained.next_byte initialized (by omega) wholeRun room
      (by rw [product, isBlock]; exact available)).2 _ (kept _ List.mem_cons_self)
    have first : pool.pointer + UInt64.ofNat 0 * pool.blockSize = pool.pointer := by
      rw [show UInt64.ofNat 0 = 0 by rfl, UInt64.zero_mul, UInt64.add_zero]
    rw [first, contains_mk_iff, isBlock, offset_mod, isBlock] at notByte
    exact Nat.le_of_not_lt notByte
  obtain ⟨index, room, available, outside | ⟨behind, fits, beyond⟩⟩ :=
    exists_wrapped positive bound (isTotal.symm ▸ overflow)
  all_goals
    have left : block * (pool.numBlocks.toNat - index) = total - index * block := by
      rw [Nat.mul_sub, Nat.mul_comm block, isTotal, Nat.mul_comm block]
    rw [isTotal, ← left] at available
  · rw [isTotal] at outside
    exact absurd (inside index room available) (Nat.not_lt.mpr outside)
  · rw [isTotal] at fits
    exact absurd (apart index room behind fits available) (Nat.not_le.mpr beyond)

end Overflow

/-- For every block size and number of blocks: the ranges of all histories lie inside the area and
apart, and no division is by zero, if and only if the block size is not zero and the product does
not overflow. -/
theorem contained_iff {storageType : Int} {blockSize numBlocks : UInt64} {memory : Option UInt64}
    {arrays : Bool} {pool : BlockMemoryPool}
    (initialized : init storageType blockSize numBlocks memory arrays = .ok pool) :
    Contained pool ↔ blockSize ≠ 0 ∧ numBlocks.toNat * blockSize.toNat < 2 ^ 64 := by
  obtain ⟨stage, rfl, rfl, stack⟩ := init_ok initialized
  have fresh : pool = pool.issued 0 := by rw [issued, ← stack]
  constructor
  · intro contained
    have divides : pool.blockSize ≠ 0 := by
      have sound := (contained [.free pool.pointer]).1 pool.blockSize
      rw [fresh] at sound
      apply sound
      rw [freeDivisors, if_neg (UInt64.lt_irrefl _)]
      exact List.mem_singleton_self _
    refine ⟨divides, ?_⟩
    by_contra overflow
    have positive : 0 < pool.blockSize.toNat :=
      Nat.pos_of_ne_zero fun zero => divides (UInt64.toNat_inj.mp zero)
    rw [fresh] at contained
    exact not_contained_of_overflow stage positive (Nat.le_of_not_lt overflow) contained
  · rintro ⟨divides, fits⟩ ops
    have start : Placed pool.blockSize pool.numBlocks pool.pointer (pool, []) := by
      have inv := FixedPoolUint64.inv_allocate pool.numBlocks.toNat
      simp only [FixedPoolUint64.allocate, Bool.not_true, Bool.or_self, Bool.false_eq_true,
        and_false, if_false] at inv
      exact ⟨rfl, rfl, rfl, _, ∅, congrArg BlockMemoryPool.stack fresh, inv, List.forall_mem_nil _⟩
    have preserved : ∀ (state : BlockMemoryPool × List Range) (op : Op),
        Placed pool.blockSize pool.numBlocks pool.pointer state →
          Placed pool.blockSize pool.numBlocks pool.pointer
            ((system.recorded heldRanges).step state op).1 :=
      fun state op placed => (placed_step divides fits op placed).1
    exact along_of_invariant_of_forall preserved
      (fun state op placed => (placed_step divides fits op placed).2) start ops

/-- Three blocks of eight bytes at the address 64. -/
theorem contained_iff_three : ∃ pool, init 0 8 3 (some 64) true = .ok pool ∧
      (Contained pool ↔ (8 : UInt64) ≠ 0 ∧ (3 : UInt64).toNat * (8 : UInt64).toNat < 2 ^ 64) :=
  ⟨⟨0, 8, 3, 64, some ⟨3, 0, [0, 1, 2], [0, 1, 2]⟩, .kInitialized⟩, by decide,
    contained_iff (show init 0 8 3 (some 64) true = _ by decide)⟩

/-- Two blocks of 2⁶³ + 8 bytes: the area has 16 bytes.  After a request for 16 bytes, a whole block
is handed out, which starts far behind the area. -/
theorem block_outside : ∃ pool, init 0 0x8000000000000008 2 (some 64) true = .ok pool ∧
      pool.totalSize = 16 ∧
      (system.outputs pool [.allocate 16 0, .allocate 0x8000000000000008 0] =
        [.ok 64, .ok 0x8000000000000048]) ∧
      ¬pool.area.Contains 0x8000000000000048 ∧ ¬Contained pool := by
  refine ⟨⟨0, 0x8000000000000008, 2, 64, some ⟨2, 0, [0, 1], [0, 1]⟩, .kInitialized⟩, by decide,
    by decide, by decide, by decide, fun contained => ?_⟩
  have inArea := (contained [.allocate 16 0, .allocate 0x8000000000000008 0]).2.1
    0x8000000000000048 (by decide) 0x8000000000000048 (by decide)
  exact absurd inArea.1 (by decide)

end Gxf.Std.BlockMemoryPool
