import Mathlib.Tactic.Linarith
import Gxf.Lib.Run
import Gxf.Std.Allocator

/-!
# The CUDA stream pool

`CudaStreamPool` issues stream entities one by one, up to an optional maximum.
Freed streams are kept in reserve.  Entities are named by their uid, and a new
stream takes the next uid of the context; whether the driver can create it is an
input of the step.
-/

namespace Gxf.Cuda

open Gxf.Core Gxf.Lib Gxf.Std

/-- The parameters and containers of the pool.  `streams` holds the keys of the
map of issued streams, `nextUid` the uid counter of the context. -/
structure CudaStreamPool where
  reservedSize : UInt32
  maxSize : UInt32
  streams : List Nat
  reservedStreams : List Nat
  stage : AllocatorStage
  nextUid : Nat
  deriving DecidableEq, Repr

namespace CudaStreamPool

/-- `createNewStreamEntity()`. -/
def createNewStreamEntity (pool : CudaStreamPool) (driver : Bool) :
    CudaStreamPool × Except GxfResult Nat :=
  if driver then ({ pool with nextUid := pool.nextUid + 1 }, .ok pool.nextUid)
  else (pool, .error .GXF_FAILURE)

/-- `count` turns of the loop of `reserveStreams()`, which stops at the first
failure. -/
def reserveStreams : (count : Nat) → (driver : Nat → Bool) → CudaStreamPool →
    CudaStreamPool × GxfResult
  | 0, _, pool => (pool, .GXF_SUCCESS)
  | count + 1, driver, pool =>
      match pool.createNewStreamEntity (driver count) with
      | (pool, .error code) => (pool, code)
      | (pool, .ok uid) =>
          reserveStreams count driver { pool with reservedStreams := pool.reservedStreams ++ [uid] }

/-- `initialize()`: a maximum below the reserved size is raised to it, and the
stage is reached even when reserving fails. -/
def init (reservedSize maxSize : UInt32) (nextUid : Nat) (driver : Nat → Bool) :
    CudaStreamPool × GxfResult :=
  let maxSize := if maxSize ≠ 0 ∧ maxSize < reservedSize then reservedSize else maxSize
  let result := reserveStreams reservedSize.toNat driver
    ⟨reservedSize, maxSize, [], [], .kUninitialized, nextUid⟩
  ({ result.1 with stage := .kInitialized }, result.2)

/-- `is_available_abi(size)`. -/
def isAvailableAbi (pool : CudaStreamPool) (size : UInt64) : GxfResult :=
  if pool.stage ≠ .kInitialized then .GXF_INVALID_LIFECYCLE_STAGE
  else if pool.maxSize = 0 then .GXF_SUCCESS
  else if UInt64.ofNat pool.streams.length + size < pool.maxSize.toUInt64 then .GXF_FAILURE
  else .GXF_SUCCESS

/-- The stream a successful allocation issues: the first reserved one, or a new
one. -/
def takeStream (pool : CudaStreamPool) (driver : Bool) : CudaStreamPool × Except GxfResult Nat :=
  match pool.reservedStreams with
  | [] => pool.createNewStreamEntity driver
  | uid :: rest => ({ pool with reservedStreams := rest }, .ok uid)

/-- `allocate_abi(size, type, pointer)`; the storage type is not looked at. -/
def allocateAbi (pool : CudaStreamPool) (size : UInt64) (driver : Bool) :
    CudaStreamPool × Except GxfResult Nat :=
  if pool.stage ≠ .kInitialized then (pool, .error .GXF_INVALID_LIFECYCLE_STAGE)
  else if size ≠ 1 then (pool, .error .GXF_ARGUMENT_INVALID)
  else if pool.maxSize ≠ 0 ∧ pool.streams.length ≥ pool.maxSize.toNat then
    (pool, .error .GXF_OUT_OF_MEMORY)
  else
    match pool.takeStream driver with
    | (pool, .error code) => (pool, .error code)
    | (pool, .ok uid) => ({ pool with streams := pool.streams.insert uid }, .ok uid)

/-- `free_abi(pointer)` for the entity `uid`; the flags say whether it has a stream
component and whether its events could be reset. -/
def freeAbi (pool : CudaStreamPool) (uid : Nat) (hasStream eventsReset : Bool) :
    CudaStreamPool × GxfResult :=
  if uid ∈ pool.streams then
    let pool := { pool with streams := pool.streams.erase uid }
    if !hasStream then (pool, .GXF_ARGUMENT_OUT_OF_RANGE)
    else if !eventsReset then (pool, .GXF_FAILURE)
    else ({ pool with reservedStreams := pool.reservedStreams ++ [uid] }, .GXF_SUCCESS)
  else (pool, .GXF_ARGUMENT_OUT_OF_RANGE)

/-- The allocator interface of the pool while the driver creates streams on
demand. -/
def allocator : Allocator CudaStreamPool where
  isAvailableAbi := isAvailableAbi
  allocateAbi pool size := ((pool.allocateAbi size true).1,
      match (pool.allocateAbi size true).2 with
      | .ok _ => .GXF_SUCCESS
      | .error code => code)
  blockSize _ := 1

/-- The calls in a history of the pool. -/
inductive Op where
  | allocate (size : UInt64) (driver : Bool)
  | free (uid : Nat) (hasStream eventsReset : Bool)
  deriving DecidableEq, Repr

/-- The pool as a system that answers with uids and result codes. -/
def system : System CudaStreamPool Op (Except GxfResult Nat) where
  step pool
    | .allocate size driver => pool.allocateAbi size driver
    | .free uid hasStream eventsReset =>
        ((pool.freeAbi uid hasStream eventsReset).1,
          match (pool.freeAbi uid hasStream eventsReset).2 with
          | .GXF_SUCCESS => .ok uid
          | code => .error code)

/-! ## The invariant of a pool in use -/

/-- A pool in use: every stream is either issued or reserved, once, and an actual
maximum is respected. -/
structure InUse (pool : CudaStreamPool) : Prop where
  stage_eq : pool.stage = .kInitialized
  nodup : (pool.streams ++ pool.reservedStreams).Nodup
  known : ∀ uid ∈ pool.streams ++ pool.reservedStreams, uid < pool.nextUid
  limited : pool.maxSize = 0 ∨ pool.streams.length ≤ pool.maxSize.toNat

variable {pool after : CudaStreamPool} {driver : Bool}

theorem takeStream_fresh {uid : Nat}
    (inUse : InUse pool) (taken : pool.takeStream driver = (after, .ok uid)) :
    uid ∉ pool.streams ∧ after.stage = .kInitialized ∧ after.maxSize = pool.maxSize ∧
      after.streams = pool.streams ∧ (uid :: (pool.streams ++ after.reservedStreams)).Nodup ∧
      ∀ other ∈ uid :: (pool.streams ++ after.reservedStreams), other < after.nextUid := by
  obtain ⟨stageEq, nodup, known, -⟩ := inUse
  cases reserved : pool.reservedStreams with
  | nil =>
      rw [reserved, List.append_nil] at nodup known
      simp only [takeStream, reserved, createNewStreamEntity] at taken
      split at taken
      next =>
        cases taken
        have new : pool.nextUid ∉ pool.streams := fun member =>
          Nat.lt_irrefl _ (known _ member)
        refine ⟨new, stageEq, rfl, rfl, ?_, ?_⟩
        · simpa [reserved] using ⟨new, nodup⟩
        · intro other member
          simp only [List.append_nil, List.mem_cons] at member
          rcases member with rfl | old
          · exact Nat.lt_succ_self _
          · exact Nat.lt_succ_of_lt (known _ old)
      next => cases taken
  | cons first rest =>
      rw [reserved] at nodup known
      simp only [takeStream, reserved] at taken
      cases taken
      have moved : (uid :: (pool.streams ++ rest)).Perm (pool.streams ++ uid :: rest) :=
        List.perm_middle.symm
      refine ⟨?_, stageEq, rfl, rfl, moved.nodup_iff.mpr nodup, ?_⟩
      · intro member
        exact (List.nodup_append.mp nodup).2.2 uid member uid List.mem_cons_self rfl
      · intro other member
        exact known _ (moved.mem_iff.mp member)

theorem takeStream_failed {code : GxfResult}
    (taken : pool.takeStream driver = (after, .error code)) : after = pool ∧ driver = false := by
  cases reserved : pool.reservedStreams with
  | nil =>
      simp only [takeStream, reserved, createNewStreamEntity] at taken
      split at taken
      next => cases taken
      next failed =>
        cases taken
        exact ⟨rfl, by simpa using failed⟩
  | cons first rest => simp [takeStream, reserved] at taken

theorem inUse_allocate (inUse : InUse pool) (size : UInt64)
    (driver : Bool) : InUse (pool.allocateAbi size driver).1 := by
  unfold allocateAbi
  split
  · exact inUse
  split
  · exact inUse
  split
  · exact inUse
  next room =>
    split
    next after code taken => exact (takeStream_failed taken).1 ▸ inUse
    next after uid taken =>
      obtain ⟨new, stageEq, maxEq, issued, nodup, known⟩ := takeStream_fresh inUse taken
      have inserted : after.streams.insert uid = uid :: pool.streams := by
        rw [issued, List.insert_of_not_mem new]
      constructor
      · exact stageEq
      · simpa only [inserted, List.cons_append] using nodup
      · simpa only [inserted, List.cons_append] using known
      · simp only [inserted, List.length_cons, maxEq]
        rcases inUse.limited with unlimited | limited
        · exact .inl unlimited
        · by_cases unlimited : pool.maxSize = 0
          · exact .inl unlimited
          · right
            by_contra full
            exact room ⟨unlimited, by omega⟩

theorem inUse_free (inUse : InUse pool) (uid : Nat)
    (hasStream eventsReset : Bool) : InUse (pool.freeAbi uid hasStream eventsReset).1 := by
  obtain ⟨stageEq, nodup, known, limited⟩ := inUse
  unfold freeAbi
  split
  next member =>
    have erased : (uid :: (pool.streams.erase uid ++ pool.reservedStreams)).Perm
        (pool.streams ++ pool.reservedStreams) := by
      rw [← List.cons_append]
      exact (List.perm_cons_erase member).symm.append_right _
    have erasedNodup := erased.nodup_iff.mpr nodup
    have shorter : pool.maxSize = 0 ∨ (pool.streams.erase uid).length ≤ pool.maxSize.toNat := by
      rcases limited with unlimited | limited
      · exact .inl unlimited
      · exact .inr (Nat.le_trans (List.length_erase_le ..) limited)
    have dropped : InUse { pool with streams := pool.streams.erase uid } :=
      ⟨stageEq, (List.nodup_cons.mp erasedNodup).2,
        fun other otherMem => known _ (erased.mem_iff.mp (List.mem_cons_of_mem _ otherMem)),
        shorter⟩
    split
    · exact dropped
    split
    · exact dropped
    · have moved : (pool.streams.erase uid ++ (pool.reservedStreams ++ [uid])).Perm
          (pool.streams ++ pool.reservedStreams) := by
        rw [← List.append_assoc]
        exact (List.perm_append_singleton _ _).trans erased
      exact ⟨stageEq, moved.nodup_iff.mpr nodup,
        fun other otherMem => known _ (moved.mem_iff.mp otherMem), shorter⟩
  next => exact ⟨stageEq, nodup, known, limited⟩

theorem inUse_step (pool : CudaStreamPool) (op : Op) (inUse : InUse pool) :
    InUse (system.step pool op).1 := by
  cases op with
  | allocate size driver => exact inUse_allocate inUse size driver
  | free uid hasStream eventsReset => exact inUse_free inUse uid hasStream eventsReset

theorem allocate_succeeds (inUse : InUse pool) (size : UInt64) :
    ((allocator.allocateAbi pool size).2 = .GXF_SUCCESS ↔
      size = 1 ∧ (pool.maxSize = 0 ∨ pool.streams.length < pool.maxSize.toNat)) ∧
    ((allocator.allocateAbi pool size).2 = .GXF_SUCCESS →
      (allocator.allocateAbi pool size).1.streams.length = pool.streams.length + 1 ∧
        (allocator.allocateAbi pool size).1.maxSize = pool.maxSize) := by
  have stage : ¬pool.stage ≠ .kInitialized := fun differ => differ inUse.stage_eq
  by_cases single : size = 1
  · by_cases full : pool.maxSize ≠ 0 ∧ pool.streams.length ≥ pool.maxSize.toNat
    · have result : (allocator.allocateAbi pool size).2 = .GXF_OUT_OF_MEMORY := by
        simp only [allocator, allocateAbi, stage, single, ne_eq, not_true_eq_false, if_false,
          if_pos full]
      rw [result]
      refine ⟨iff_of_false (by decide) ?_, fun impossible => by cases impossible⟩
      rintro ⟨-, unlimited | room⟩
      · exact full.1 unlimited
      · omega
    · cases taken : pool.takeStream true with
      | mk after outcome =>
          cases outcome with
          | error code => exact absurd (takeStream_failed taken).2 (by decide)
          | ok uid =>
              obtain ⟨new, -, maxEq, issued, -, -⟩ := takeStream_fresh inUse taken
              have result : allocator.allocateAbi pool size =
                  ({ after with streams := after.streams.insert uid }, .GXF_SUCCESS) := by
                simp only [allocator, allocateAbi, stage, single, ne_eq, not_true_eq_false,
                  if_false, if_neg full, taken]
              rw [result]
              refine ⟨iff_of_true rfl ⟨single, ?_⟩, fun _ => ⟨?_, maxEq⟩⟩
              · by_cases unlimited : pool.maxSize = 0
                · exact .inl unlimited
                · right
                  by_contra notRoom
                  exact full ⟨unlimited, by omega⟩
              · rw [issued, List.insert_of_not_mem new, List.length_cons]
  · have result : (allocator.allocateAbi pool size).2 = .GXF_ARGUMENT_INVALID := by
      simp only [allocator, allocateAbi, stage, if_false, ne_eq, single, not_false_eq_true, if_true]
    rw [result]
    exact ⟨iff_of_false (by decide) fun both => single both.1,
      fun impossible => by cases impossible⟩

theorem obtainable_iff (inUse : InUse pool) (amount : Nat) : allocator.Obtainable pool amount ↔
      pool.maxSize = 0 ∨ pool.streams.length + amount ≤ pool.maxSize.toNat := by
  induction amount generalizing pool with
  | zero => exact ⟨fun _ => inUse.limited, fun _ => Allocator.obtainable_zero pool⟩
  | succ amount ih =>
      rw [Allocator.obtainable_iff (Nat.succ_pos amount)]
      have next := inUse_allocate inUse 1 true
      obtain ⟨succeeds, grows⟩ := allocate_succeeds inUse 1
      constructor
      · rintro ⟨size, -, succeeded, rest⟩
        obtain rfl := ((allocate_succeeds inUse size).1.mp succeeded).1
        obtain ⟨longer, sameMax⟩ := grows succeeded
        have bound := (ih next).mp rest
        simp only [allocator] at longer sameMax
        rw [longer, sameMax] at bound
        exact bound.imp_right fun within => by omega
      · intro bound
        have succeeded : (allocator.allocateAbi pool 1).2 = .GXF_SUCCESS := by
          exact succeeds.mpr ⟨rfl, bound.imp_right fun within => by omega⟩
        obtain ⟨longer, sameMax⟩ := grows succeeded
        refine ⟨1, Nat.le_add_left 1 amount, succeeded, (ih next).mpr ?_⟩
        simp only [allocator] at longer sameMax
        rw [longer, sameMax]
        exact bound.imp_right fun within => by omega

/-- The condition under which stream availability agrees with allocation: there is
no maximum, or the request reaches it exactly, or it wraps around. -/
def AtMaximum (pool : CudaStreamPool) (size : UInt64) : Prop :=
  pool.maxSize = 0 ∨ pool.streams.length + size.toNat = pool.maxSize.toNat ∨
    2 ^ 64 ≤ pool.streams.length + size.toNat

theorem agrees_iff (inUse : InUse pool) (size : UInt64) :
    allocator.Agrees pool size ↔ AtMaximum pool size := by
  rw [Allocator.agrees_iff, obtainable_iff inUse, AtMaximum]
  by_cases unlimited : pool.maxSize = 0
  · simp [Allocator.isAvailable, allocator, isAvailableAbi, inUse.stage_eq, unlimited]
  have limited := inUse.limited.resolve_left unlimited
  have small := pool.maxSize.toNat_lt
  have sizeSmall := size.toNat_lt
  have lengthEq : (UInt64.ofNat pool.streams.length).toNat = pool.streams.length := by
    rw [UInt64.toNat_ofNat', Nat.mod_eq_of_lt]
    omega
  have reported : allocator.isAvailable pool size = true ↔
      ¬(pool.streams.length + size.toNat) % 2 ^ 64 < pool.maxSize.toNat := by
    simp only [Allocator.isAvailable, allocator, isAvailableAbi, inUse.stage_eq, ne_eq,
      not_true_eq_false, if_false, unlimited, UInt64.lt_iff_toNat_lt, UInt64.toNat_add, lengthEq,
      UInt32.toNat_toUInt64]
    split <;> simp_all
  simp only [reported, unlimited, false_or]
  omega

end CudaStreamPool

end Gxf.Cuda
