import Mathlib.Algebra.BigOperators.Group.List.Basic
import Mathlib.Algebra.GroupWithZero.Nat
import Gxf.Core.Result
import Gxf.Std.SchedulingCondition

/-!
# Allocators and the term that waits for them

The interface of an allocator, what a caller can obtain from it without freeing,
and the scheduling term that lets an entity wait until enough is available.
-/

namespace Gxf.Std

open Gxf.Core

/-- Lifecycle stages of an allocator. -/
inductive AllocatorStage where
  | kUninitialized
  | kInitializationInProgress
  | kInitialized
  | kDeinitializationInProgress
  deriving DecidableEq, Repr

/-- The part of the allocator interface that availability is about.  A call of
`allocateAbi` gives the next state and the result code. -/
structure Allocator (State : Type) where
  isAvailableAbi : State → UInt64 → GxfResult
  allocateAbi : State → UInt64 → State × GxfResult
  blockSize : State → UInt64

namespace Allocator

variable {State : Type} (allocator : Allocator State)

/-- `Allocator::is_available`. -/
def isAvailable (state : State) (size : UInt64) : Bool :=
  allocator.isAvailableAbi state size == .GXF_SUCCESS

/-- A list of allocate calls, none of which fails. -/
def Obtains : State → List UInt64 → Prop
  | _, [] => True
  | state, size :: rest =>
      (allocator.allocateAbi state size).2 = .GXF_SUCCESS ∧
        Obtains (allocator.allocateAbi state size).1 rest

/-- `amount` units in all can be obtained by successive calls, with no free in
between. -/
def Obtainable (state : State) (amount : Nat) : Prop :=
  ∃ sizes : List UInt64, (sizes.map UInt64.toNat).sum = amount ∧ allocator.Obtains state sizes

variable {allocator}

theorem obtainable_zero (state : State) : allocator.Obtainable state 0 := ⟨[], rfl, trivial⟩

theorem obtainable_iff {state : State} {amount : Nat} (positive : 0 < amount) :
    allocator.Obtainable state amount ↔ ∃ size : UInt64, size.toNat ≤ amount ∧
        (allocator.allocateAbi state size).2 = .GXF_SUCCESS ∧
        allocator.Obtainable (allocator.allocateAbi state size).1 (amount - size.toNat) := by
  constructor
  · rintro ⟨sizes, total, obtained⟩
    cases sizes with
    | nil =>
        simp only [List.map_nil, List.sum_nil] at total
        omega
    | cons size rest =>
        simp only [List.map_cons, List.sum_cons] at total
        exact ⟨size, by omega, obtained.1, rest, by omega, obtained.2⟩
  · rintro ⟨size, atMost, succeeded, rest, total, obtained⟩
    refine ⟨size :: rest, ?_, succeeded, obtained⟩
    simp only [List.map_cons, List.sum_cons, total]
    omega

end Allocator

/-- `MemoryAvailableSchedulingTerm`. -/
structure MemoryAvailableSchedulingTerm where
  minBytes : UInt64
  currentState : SchedulingConditionType
  lastStateChange : Int
  deriving DecidableEq, Repr

namespace MemoryAvailableSchedulingTerm

/-- `initialize()`: exactly one of the two parameters must be set. -/
def init (blockSize : UInt64) (minBytes minBlocks : Option UInt64) :
    Except GxfResult MemoryAvailableSchedulingTerm :=
  match minBytes, minBlocks with
  | some _, some _ => .error .GXF_PARAMETER_ALREADY_REGISTERED
  | none, none => .error .GXF_PARAMETER_MANDATORY_NOT_SET
  | none, some blocks => .ok ⟨blockSize * blocks, .WAIT, 0⟩
  | some bytes, none => .ok ⟨bytes, .WAIT, 0⟩

/-- `update_state_abi(timestamp)`. -/
def updateState {State : Type} (allocator : Allocator State) (state : State)
    (term : MemoryAvailableSchedulingTerm) (timestamp : Int) : MemoryAvailableSchedulingTerm :=
  let isReady := allocator.isAvailable state term.minBytes
  let term :=
    if isReady ∧ term.currentState ≠ .READY then
      { term with currentState := .READY, lastStateChange := timestamp }
    else term
  if ¬isReady ∧ term.currentState ≠ .WAIT then
    { term with currentState := .WAIT, lastStateChange := timestamp }
  else term

theorem updateState_ready_iff {State : Type} (allocator : Allocator State) (state : State)
    (term : MemoryAvailableSchedulingTerm) (timestamp : Int) :
    (term.updateState allocator state timestamp).currentState = .READY ↔
      allocator.isAvailable state term.minBytes = true := by
  simp only [updateState]
  cases available : allocator.isAvailable state term.minBytes with
  | true => by_cases ready : term.currentState = .READY <;> simp [ready]
  | false => by_cases waiting : term.currentState = .WAIT <;> simp [waiting]

/-- What the parameters ask for, in integers. -/
def requested (blockSize : UInt64) (minBytes minBlocks : Option UInt64) : Nat :=
  match minBytes with
  | some bytes => bytes.toNat
  | none => blockSize.toNat * minBlocks.elim 0 UInt64.toNat

end MemoryAvailableSchedulingTerm

namespace Allocator

variable {State : Type} {allocator : Allocator State} {state : State}

/-- An entity whose term has these parameters can obtain what they ask for whenever the term has
just turned ready. -/
def Guards (allocator : Allocator State) (state : State) (minBytes minBlocks : Option UInt64) :
    Prop :=
  ∀ initial, MemoryAvailableSchedulingTerm.init (allocator.blockSize state) minBytes minBlocks =
      .ok initial →
    ∀ (term : MemoryAvailableSchedulingTerm) (timestamp : Int), term.minBytes = initial.minBytes →
      (term.updateState allocator state timestamp).currentState = .READY →
        allocator.Obtainable state (MemoryAvailableSchedulingTerm.requested
          (allocator.blockSize state) minBytes minBlocks)

/-- Availability of `size` agrees with allocation: it is reported exactly when it can be obtained,
and a term with `min_bytes` waits for it. -/
def Agrees (allocator : Allocator State) (state : State) (size : UInt64) : Prop :=
  (allocator.isAvailable state size = true ↔ allocator.Obtainable state size.toNat) ∧
    allocator.Guards state (some size) none

theorem guards_iff {minBytes minBlocks : Option UInt64} {initial : MemoryAvailableSchedulingTerm}
    (accepted : MemoryAvailableSchedulingTerm.init (allocator.blockSize state) minBytes minBlocks =
      .ok initial) :
    allocator.Guards state minBytes minBlocks ↔
      (allocator.isAvailable state initial.minBytes = true →
        allocator.Obtainable state (MemoryAvailableSchedulingTerm.requested
          (allocator.blockSize state) minBytes minBlocks)) := by
  constructor
  · intro guards available
    exact guards initial accepted initial 0 rfl
      ((initial.updateState_ready_iff allocator state 0).mpr available)
  · intro obtains other same term timestamp waits ready
    cases accepted.symm.trans same
    exact obtains (waits ▸ (term.updateState_ready_iff allocator state timestamp).mp ready)

theorem agrees_iff {size : UInt64} : allocator.Agrees state size ↔
    (allocator.isAvailable state size = true ↔ allocator.Obtainable state size.toNat) :=
  and_iff_left_of_imp fun equivalent => (guards_iff rfl).mpr equivalent.mp

end Allocator

end Gxf.Std
