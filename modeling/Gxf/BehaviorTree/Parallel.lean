import Gxf.Std.EntityExecutor.EntityItem
import Mathlib.Algebra.Group.Int.Defs
import Mathlib.Algebra.Group.Nat.Defs
import Mathlib.Logic.Function.Iterate

/-!
# Parallel behaviours

A parallel behaviour compares the numbers of its children that succeeded and failed with two
thresholds.  When neither threshold is reached and every child has finished, it waits for ever.
-/

namespace Gxf.BehaviorTree

open Gxf.Core Gxf.Std

/-- What the parent sees of a child. -/
structure ParallelChild where
  status : EntityState
  condition : SchedulingConditionType
  deriving DecidableEq

/-- `ParallelBehavior`. -/
structure ParallelBehavior where
  children : List ParallelChild
  sTerm : SchedulingConditionType
  successThreshold : Int64
  failureThreshold : Int64
  deriving DecidableEq

namespace ParallelBehavior

def setConditions (parallel : ParallelBehavior) (condition : SchedulingConditionType) :
    ParallelBehavior :=
  { parallel with children := parallel.children.map ({ · with condition }) }

/-- `stopAllChild()`, with the term of the behaviour itself. -/
def stop (parallel : ParallelBehavior) : ParallelBehavior :=
  { parallel.setConditions .NEVER with sTerm := .NEVER }

def count (parallel : ParallelBehavior) (status : EntityState) : Nat :=
  parallel.children.countP (·.status = status)

/-- `static_cast<int>(threshold)`. -/
def narrow (threshold : Int64) : Int := threshold.toInt.bmod (2 ^ 32)

/-- The comparison of a count with a threshold, which is widened to `size_t`. -/
def reaches (threshold : Int) (count numChildren : Nat) : Prop :=
  threshold = -1 ∧ count = numChildren ∨ (threshold % 2 ^ 64).toNat ≤ count

instance (threshold : Int) (count numChildren : Nat) :
    Decidable (reaches threshold count numChildren) :=
  inferInstanceAs (Decidable (_ ∨ _))

/-- `tick()`. -/
def tick (parallel : ParallelBehavior) (isFirstTick : Bool) : ParallelBehavior × GxfResult :=
  let numChildren := parallel.children.length
  if isFirstTick then
    if numChildren = 0 then ({ parallel with sTerm := .NEVER }, .GXF_SUCCESS)
    else (parallel.setConditions .READY, .GXF_NOT_FINISHED)
  else if 0 < parallel.count .GXF_BEHAVIOR_UNKNOWN then (parallel.stop, .GXF_QUERY_NOT_FOUND)
  else if narrow parallel.successThreshold < -1 then (parallel.stop, .GXF_ARGUMENT_OUT_OF_RANGE)
  else if reaches (narrow parallel.successThreshold) (parallel.count .GXF_BEHAVIOR_SUCCESS)
      numChildren then (parallel.stop, .GXF_SUCCESS)
  else if narrow parallel.failureThreshold < -1 then (parallel.stop, .GXF_ARGUMENT_OUT_OF_RANGE)
  else if reaches (narrow parallel.failureThreshold) (parallel.count .GXF_BEHAVIOR_FAILURE)
      numChildren then (parallel.stop, .GXF_FAILURE)
  else (parallel, .GXF_NOT_FINISHED)

/-- How many children a threshold asks for. -/
def needed (threshold : Int64) (numChildren : Nat) : Nat :=
  if threshold.toInt = -1 then numChildren else threshold.toInt.toNat

/-- A threshold of -1, or of some of the children that an `int` can count. -/
def Sensible (threshold : Int64) (numChildren : Nat) : Prop := threshold.toInt = -1 ∨
    1 ≤ threshold.toInt ∧ threshold.toInt ≤ numChildren ∧ threshold.toInt < 2 ^ 31

def Stopped (parallel : ParallelBehavior) : Prop :=
  parallel.sTerm = .NEVER ∧ ∀ child ∈ parallel.children, child.condition = .NEVER

def AllFinished (parallel : ParallelBehavior) : Prop := ∀ child ∈ parallel.children,
    child.status = .GXF_BEHAVIOR_SUCCESS ∨ child.status = .GXF_BEHAVIOR_FAILURE

def Succeeds (parallel : ParallelBehavior) : Prop :=
  needed parallel.successThreshold parallel.children.length ≤ parallel.count .GXF_BEHAVIOR_SUCCESS

def Fails (parallel : ParallelBehavior) : Prop :=
  needed parallel.failureThreshold parallel.children.length ≤ parallel.count .GXF_BEHAVIOR_FAILURE

variable {parallel : ParallelBehavior}

theorem stopped_stop (parallel : ParallelBehavior) : parallel.stop.Stopped := by
  refine ⟨rfl, fun child member => ?_⟩
  obtain ⟨before, -, rfl⟩ := List.mem_map.mp member
  rfl

theorem count_le (parallel : ParallelBehavior) (status : EntityState) :
    parallel.count status ≤ parallel.children.length :=
  List.countP_le_length

theorem count_unknown (finished : parallel.AllFinished) :
    parallel.count .GXF_BEHAVIOR_UNKNOWN = 0 := by
  apply List.countP_eq_zero.mpr
  intro child member isUnknown
  rw [decide_eq_true_eq] at isUnknown
  rcases finished child member with status | status <;> cases isUnknown.symm.trans status

theorem narrow_of_sensible {threshold : Int64} {numChildren : Nat}
    (sensible : Sensible threshold numChildren) : narrow threshold = threshold.toInt := by
  rw [Sensible] at sensible
  exact Int.bmod_eq_of_le (by omega) (by omega)

theorem reaches_iff {threshold : Int64} {count numChildren : Nat}
    (sensible : Sensible threshold numChildren) (few : numChildren < 2 ^ 63)
    (le : count ≤ numChildren) :
    reaches (narrow threshold) count numChildren ↔ needed threshold numChildren ≤ count := by
  rw [narrow_of_sensible sensible, reaches, needed]
  rw [Sensible] at sensible
  split <;> omega

theorem not_narrow_lt {threshold : Int64} {numChildren : Nat}
    (sensible : Sensible threshold numChildren) : ¬narrow threshold < -1 := by
  rw [narrow_of_sensible sensible]
  rw [Sensible] at sensible
  omega

theorem tick_cases (isFirstTick : Bool) (some : parallel.children.length ≠ 0)
    (few : parallel.children.length < 2 ^ 63)
    (success : Sensible parallel.successThreshold parallel.children.length)
    (failure : Sensible parallel.failureThreshold parallel.children.length) :
    (parallel.Succeeds ∧ parallel.tick isFirstTick = (parallel.stop, .GXF_SUCCESS)) ∨
    (¬parallel.Succeeds ∧ parallel.Fails ∧
      parallel.tick isFirstTick = (parallel.stop, .GXF_FAILURE)) ∨
    (¬parallel.Succeeds ∧ ¬parallel.Fails ∧
      parallel.tick isFirstTick = (parallel, .GXF_NOT_FINISHED)) ∨
    (isFirstTick = true ∨ ¬parallel.AllFinished) ∧ (parallel.tick isFirstTick).2 ≠ .GXF_SUCCESS ∧
      (parallel.tick isFirstTick).2 ≠ .GXF_FAILURE := by
  have succeeds : _ ↔ parallel.Succeeds :=
    reaches_iff success few (parallel.count_le .GXF_BEHAVIOR_SUCCESS)
  have fails : _ ↔ parallel.Fails :=
    reaches_iff failure few (parallel.count_le .GXF_BEHAVIOR_FAILURE)
  simp only [tick, if_neg some, if_neg (not_narrow_lt success), if_neg (not_narrow_lt failure)]
  split
  next isFirst => exact .inr (.inr (.inr ⟨.inl isFirst, by simp, by simp⟩))
  next =>
    split
    next unknown =>
      have unfinished : ¬parallel.AllFinished := fun finished =>
        unknown.ne' (count_unknown finished)
      exact .inr (.inr (.inr ⟨.inr unfinished, by simp, by simp⟩))
    next =>
      split
      next reached => exact .inl ⟨succeeds.mp reached, rfl⟩
      next reached =>
        rw [succeeds] at reached
        split
        next failed => exact .inr (.inl ⟨reached, fails.mp failed, rfl⟩)
        next failed => exact .inr (.inr (.inl ⟨reached, mt fails.mpr failed, rfl⟩))

/-- A tick succeeds and fails only when its threshold is reached, and stops the children.  Once all
children have finished, it decides exactly if a threshold is reached, and changes nothing
otherwise. -/
theorem tick_decides_iff (parallel : ParallelBehavior) (isFirstTick : Bool)
    (some : parallel.children.length ≠ 0) (few : parallel.children.length < 2 ^ 63)
    (success : Sensible parallel.successThreshold parallel.children.length)
    (failure : Sensible parallel.failureThreshold parallel.children.length) :
    let answer := parallel.tick isFirstTick
    (answer.2 = .GXF_SUCCESS → parallel.Succeeds ∧ answer.1.Stopped) ∧
    (answer.2 = .GXF_FAILURE → parallel.Fails ∧ ¬parallel.Succeeds ∧ answer.1.Stopped) ∧
    (parallel.AllFinished → isFirstTick = false →
      (answer.2 = .GXF_SUCCESS ∨ answer.2 = .GXF_FAILURE ↔ parallel.Succeeds ∨ parallel.Fails) ∧
      (¬parallel.Succeeds → ¬parallel.Fails → answer = (parallel, .GXF_NOT_FINISHED))) := by
  intro answer
  have stops := parallel.stopped_stop
  rcases tick_cases isFirstTick some few success failure with
    ⟨succeeds, isAnswer⟩ | ⟨not, fails, isAnswer⟩ | ⟨not, noFailure, isAnswer⟩ | ⟨early, no, none⟩
  · simp [answer, isAnswer, succeeds, stops]
  · simp [answer, isAnswer, not, fails, stops]
  · simp [answer, isAnswer, not, noFailure]
  · refine ⟨(absurd · no), (absurd · none), fun finished isLater => ?_⟩
    rcases early with isFirst | unfinished
    · exact absurd (isLater.symm.trans isFirst) Bool.false_ne_true
    · exact absurd finished unfinished

/-- Two of four children have to succeed, and did when one had failed and one still ran. -/
theorem tick_decides_iff_all :
    let parallel : ParallelBehavior :=
      ⟨[⟨.GXF_BEHAVIOR_SUCCESS, .NEVER⟩, ⟨.GXF_BEHAVIOR_FAILURE, .NEVER⟩,
        ⟨.GXF_BEHAVIOR_RUNNING, .READY⟩, ⟨.GXF_BEHAVIOR_SUCCESS, .NEVER⟩], .READY, 2, -1⟩
    parallel.Succeeds ∧ (parallel.tick false).1.Stopped := by
  intro parallel
  exact (tick_decides_iff parallel false (by decide) (by decide) (.inr (by decide))
    (.inl (by decide))).1 (by decide)

/-- One of two children succeeded and the other one failed, and both have to do the same: the
behaviour stays unfinished and leaves them as they are. -/
theorem mixed_children_undecided :
    let parallel : ParallelBehavior :=
      ⟨[⟨.GXF_BEHAVIOR_SUCCESS, .NEVER⟩, ⟨.GXF_BEHAVIOR_FAILURE, .NEVER⟩], .READY, -1, -1⟩
    parallel.AllFinished ∧ ∀ ticks : Nat,
      ((fun later => (later.tick false).1)^[ticks] parallel) = parallel ∧
        (parallel.tick false).2 = .GXF_NOT_FINISHED := by
  intro parallel
  have unchanged : parallel.tick false = (parallel, .GXF_NOT_FINISHED) := by decide
  refine ⟨by simp [AllFinished, parallel], fun ticks => ⟨?_, congrArg Prod.snd unchanged⟩⟩
  exact Function.iterate_fixed (congrArg Prod.fst unchanged) ticks

end ParallelBehavior

end Gxf.BehaviorTree
