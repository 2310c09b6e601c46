import Gxf.Std.SchedulingTerms.Library

/-!
# Terms that become ready with time

A scheduler that sleeps until a target needs a target that is not too late.  Looking at a term
again does not change its answers, so it is enough to compare two of them.
-/

namespace Gxf.Std

open Gxf.Core Gxf.Lib

def typeOf (answer : Except GxfResult SchedulingCondition) : Option SchedulingConditionType :=
  match answer with
  | .ok condition => some condition.type
  | .error _ => none

@[simp] theorem TermState.change_currentState (state : TermState) (isReady : Bool)
    (timestamp : Int) :
    (state.change isReady timestamp).currentState = if isReady then .READY else .WAIT := by
  by_cases same : state.currentState = if isReady then .READY else .WAIT
  · rw [change, if_pos same, same]
  · rw [change, if_neg same]

@[simp] theorem MemoryAvailableSchedulingTerm.updateState_currentState
    (term : MemoryAvailableSchedulingTerm) (allocator : Allocator Unit) (timestamp : Int) :
    (term.updateState allocator () timestamp).currentState =
      if allocator.isAvailable () term.minBytes then .READY else .WAIT := by
  simp only [updateState]
  cases allocator.isAvailable () term.minBytes with
  | true => by_cases ready : term.currentState = .READY <;> simp [ready]
  | false => by_cases waiting : term.currentState = .WAIT <;> simp [waiting]

@[simp] theorem MemoryAvailableSchedulingTerm.updateState_minBytes
    (term : MemoryAvailableSchedulingTerm) (allocator : Allocator Unit) (timestamp : Int) :
    (term.updateState allocator () timestamp).minBytes = term.minBytes := by
  simp only [updateState]
  split <;> split <;> rfl

@[simp] theorem TargetTimeSchedulingTerm.lock_lock (term : TargetTimeSchedulingTerm) :
    term.lock.lock = term.lock := by
  obtain ⟨lastTimestamp, targetTimestamp, lockedTargetTimestamp⟩ := term
  cases targetTimestamp <;> cases lockedTargetTimestamp <;> rfl

namespace MessageAvailableFrequencyThrottler

variable (term : MessageAvailableFrequencyThrottler) (surroundings : Surroundings) (timestamp : Int)

@[simp] theorem updateState_currentState :
    (term.updateState surroundings timestamp).state.currentState =
      if term.targetTimestamp ≤ timestamp ∨ term.sampling.isReady surroundings = true then .READY
      else .WAIT := by
  simp only [updateState]
  by_cases due : term.targetTimestamp ≤ timestamp
  · simp [due]
  · simp [due]

@[simp] theorem updateState_targetTimestamp :
    (term.updateState surroundings timestamp).targetTimestamp = term.targetTimestamp := by
  simp only [updateState]
  split <;> rfl

@[simp] theorem updateState_sampling :
    (term.updateState surroundings timestamp).sampling = term.sampling := by
  simp only [updateState]
  split <;> rfl

end MessageAvailableFrequencyThrottler

namespace LibraryTerm

variable (term : LibraryTerm) (surroundings : Surroundings) (timestamp : Int)

/-- The term after some calls of `check`. -/
def poll (term : LibraryTerm) : List Int → LibraryTerm
  | [] => term
  | timestamp :: rest => (term.check surroundings timestamp).1.poll rest

/-- An answer that is neither ready nor final and that will be ready by the clock alone, no matter
how often the term is looked at meanwhile, is a target that is not too late. -/
def Announced : Prop := ∀ condition, (term.check surroundings timestamp).2 = .ok condition →
    condition.type ≠ .READY → condition.type ≠ .NEVER → ∀ polls later next, timestamp ≤ later →
        (((term.check surroundings timestamp).1.poll surroundings polls).check
          surroundings later).2 = .ok next →
        next.type = .READY → condition.type = .WAIT_TIME ∧ condition.targetTimestamp ≤ later

/-- The throttler has a rhythm to keep up; no other term fails to say when it will be ready. -/
def SaysWhen : Prop :=
  match term with
  | .frequencyThrottler term =>
      term.targetTimestamp ≤ timestamp ∨ term.sampling.isReady surroundings = true
  | .periodic _ | .targetTime _ | .count _ | .downstreamReceptive .. | .messageAvailable _
  | .multiMessageAvailable _ | .expiringMessageAvailable _ | .boolean _ | .bt _ | .asynchronous _
  | .memoryAvailable _ => True

theorem typeOf_check_check (earlier : Int) :
    typeOf ((term.check surroundings earlier).1.check surroundings timestamp).2 =
      typeOf (term.check surroundings timestamp).2 := by
  cases term with
  | periodic | expiringMessageAvailable | boolean | bt | asynchronous => rfl
  | targetTime term =>
      simp only [check, updateState, checkAbi, TargetTimeSchedulingTerm.lock_lock]
  | count term =>
      simp only [check, updateState, checkAbi, CountSchedulingTerm.updateState]
      by_cases spent : term.remaining = 0
      · simp [spent]
      · simp [spent]
  | downstreamReceptive term receivers =>
      by_cases none : receivers = []
      · simp [check, updateState, checkAbi, DownstreamReceptiveSchedulingTerm.checkAbi, none]
      · simp [check, updateState, checkAbi, DownstreamReceptiveSchedulingTerm.updateState,
          DownstreamReceptiveSchedulingTerm.checkAbi, none, typeOf]
  | messageAvailable term =>
      simp [check, updateState, checkAbi, MessageAvailableSchedulingTerm.updateState,
        MessageAvailableSchedulingTerm.checkMinSize,
        MessageAvailableSchedulingTerm.checkFrontStageMaxSize, typeOf, TermState.checkAbi]
  | multiMessageAvailable term =>
      simp [check, updateState, checkAbi, MultiMessageAvailableSchedulingTerm.updateState, typeOf,
        TermState.checkAbi]
  | memoryAvailable term =>
      simp [check, updateState, checkAbi, typeOf]
  | frequencyThrottler term =>
      simp [check, updateState, checkAbi, typeOf, TermState.checkAbi]

theorem typeOf_poll_check (polls : List Int) :
    typeOf ((term.poll surroundings polls).check surroundings timestamp).2 =
      typeOf (term.check surroundings timestamp).2 := by
  induction polls generalizing term with
  | nil => rfl
  | cons earlier rest ih => rw [poll, ih, typeOf_check_check]

/-! ## Two answers -/

theorem announced_of_types {first : SchedulingCondition}
    (answered : (term.check surroundings timestamp).2 = .ok first)
    (holds : ∀ later, timestamp ≤ later → typeOf (term.check surroundings later).2 = some .READY →
        first.type = .READY ∨ first.type = .NEVER ∨
          first.type = .WAIT_TIME ∧ first.targetTimestamp ≤ later) :
    term.Announced surroundings timestamp := by
  intro condition same notReady notNever polls later next after ready isReady
  obtain rfl : first = condition := by
    rw [answered] at same
    exact Except.ok.inj same
  have types := (term.check surroundings timestamp).1.typeOf_poll_check surroundings later polls
  rw [typeOf_check_check, ready] at types
  obtain first | first | first := holds later after (types.symm.trans (congrArg some isReady))
  · exact absurd first notReady
  · exact absurd first notNever
  · exact first

theorem announced_of_error {code : GxfResult}
    (answered : (term.check surroundings timestamp).2 = .error code) :
    term.Announced surroundings timestamp := by
  intro condition same
  rw [answered] at same
  cases same

theorem announced_of_constant (constant : ∀ later, typeOf (term.check surroundings later).2 =
      typeOf (term.check surroundings timestamp).2) :
    term.Announced surroundings timestamp := by
  cases answered : (term.check surroundings timestamp).2 with
  | error code => exact term.announced_of_error surroundings timestamp answered
  | ok first =>
      refine term.announced_of_types surroundings timestamp answered fun later _ ready => .inl ?_
      rw [constant later, answered] at ready
      exact Option.some.inj ready

theorem periodic_announced (term : PeriodicSchedulingTerm) :
    Announced (.periodic term) surroundings timestamp := by
  refine announced_of_types _ _ _ rfl fun later _ ready => ?_
  simp only [check, updateState, checkAbi, PeriodicSchedulingTerm.checkAbi] at ready
  simp only [PeriodicSchedulingTerm.checkAbi]
  cases isSet : term.nextTarget with
  | none => exact .inl rfl
  | some target =>
      have passed : later > target := by
        by_contra early
        simp [isSet, typeOf, early] at ready
      by_cases due : timestamp > target
      · exact .inl (if_pos due)
      · exact .inr (.inr ⟨if_neg due, Int.le_of_lt passed⟩)

theorem targetTime_announced (term : TargetTimeSchedulingTerm) :
    Announced (.targetTime term) surroundings timestamp := by
  refine announced_of_types _ _ _ rfl fun later _ ready => ?_
  simp only [check, updateState, checkAbi, TargetTimeSchedulingTerm.checkAbi] at ready
  simp only [TargetTimeSchedulingTerm.checkAbi]
  cases isLocked : term.lock.lockedTargetTimestamp with
  | none => simp [isLocked, typeOf] at ready
  | some locked =>
      have passed : ¬locked > later := by
        intro early
        simp [isLocked, typeOf, early] at ready
      by_cases early : locked > timestamp
      · exact .inr (.inr ⟨if_pos early, Int.not_lt.mp passed⟩)
      · exact .inl (if_neg early)

theorem expiringMessageAvailable_announced (term : ExpiringMessageAvailableSchedulingTerm) :
    Announced (.expiringMessageAvailable term) surroundings timestamp := by
  -- Up to the age of the oldest message, the time does not matter.
  have answer (time : Int) : (check (.expiringMessageAvailable term) surroundings time).2 =
        term.checkAbi surroundings time := rfl
  by_cases empty : ((surroundings.receivers term.receiver).size +
      (surroundings.receivers term.receiver).backSize).toInt64.toInt ≤ 0
  · refine announced_of_constant _ _ _ fun later => ?_
    rw [answer, answer]
    simp only [ExpiringMessageAvailableSchedulingTerm.checkAbi, if_pos empty]
  by_cases full : ((surroundings.receivers term.receiver).size +
      (surroundings.receivers term.receiver).backSize).toInt64.toInt ≥ term.maxBatchSize
  · refine announced_of_constant _ _ _ fun later => ?_
    rw [answer, answer]
    simp only [ExpiringMessageAvailableSchedulingTerm.checkAbi, if_neg empty, if_pos full, typeOf]
  have peeked (time : Int) := answer time
  simp only [ExpiringMessageAvailableSchedulingTerm.checkAbi, if_neg empty, if_neg full] at peeked
  generalize (if (surroundings.receivers term.receiver).size = 0 then
    (surroundings.receivers term.receiver).peekBack
    else (surroundings.receivers term.receiver).peek) = message at peeked
  match message with
  | .error _ =>
      refine announced_of_constant _ _ _ fun later => ?_
      rw [peeked, peeked]
  | .ok (.error code) => exact announced_of_error _ _ _ (peeked timestamp)
  | .ok (.ok []) => exact announced_of_error _ _ _ (peeked timestamp)
  | .ok (.ok (acqtime :: _)) =>
      refine announced_of_types _ _ _ (peeked timestamp) fun later _ ready => ?_
      have expired : int64 (acqtime + term.maxDelayNs) ≤ later := by
        by_contra fresh
        rw [peeked] at ready
        simp [typeOf, fresh] at ready
      by_cases due : int64 (acqtime + term.maxDelayNs) ≤ timestamp
      · exact .inl (if_pos due)
      · exact .inr (.inr ⟨if_neg due, expired⟩)

theorem frequencyThrottler_announced_iff (term : MessageAvailableFrequencyThrottler) :
    Announced (.frequencyThrottler term) surroundings timestamp ↔
      term.targetTimestamp ≤ timestamp ∨ term.sampling.isReady surroundings = true := by
  constructor
  · intro announced
    by_contra waits
    have early : ¬term.targetTimestamp ≤ timestamp := fun due => waits (.inl due)
    have isWait : (term.updateState surroundings timestamp).state.checkAbi.type = .WAIT := by
      rw [TermState.checkAbi, MessageAvailableFrequencyThrottler.updateState_currentState,
        if_neg waits]
    obtain ⟨isTime, -⟩ := announced _ rfl (by rw [isWait]; decide) (by rw [isWait]; decide) []
      term.targetTimestamp _ (Int.le_of_lt (Int.not_le.mp early)) rfl
      (by simp [TermState.checkAbi])
    rw [isWait] at isTime
    cases isTime
  · intro soon
    refine announced_of_types _ _ _ rfl fun _ _ _ => .inl ?_
    have isReady := term.updateState_currentState surroundings timestamp
    rw [if_pos soon] at isReady
    exact isReady

/-- A term that becomes ready by the clock alone says when, unless it is a throttler that waits
for its time without enough messages. -/
theorem announced_iff :
    term.Announced surroundings timestamp ↔ term.SaysWhen surroundings timestamp := by
  cases term with
  | periodic term => exact iff_of_true (periodic_announced surroundings timestamp term) trivial
  | targetTime term => exact iff_of_true (targetTime_announced surroundings timestamp term) trivial
  | expiringMessageAvailable term =>
      exact iff_of_true (expiringMessageAvailable_announced surroundings timestamp term) trivial
  | frequencyThrottler term => exact frequencyThrottler_announced_iff surroundings timestamp term
  | count term => exact iff_of_true (announced_of_constant _ _ _ fun _ => rfl) trivial
  | boolean term => exact iff_of_true (announced_of_constant _ _ _ fun _ => rfl) trivial
  | downstreamReceptive term receivers =>
      refine iff_of_true (announced_of_constant _ _ _ fun later => ?_) trivial
      by_cases none : receivers = []
      · simp [check, updateState, checkAbi, DownstreamReceptiveSchedulingTerm.checkAbi, none]
      · simp [check, updateState, checkAbi, DownstreamReceptiveSchedulingTerm.updateState,
          DownstreamReceptiveSchedulingTerm.checkAbi, none, typeOf]
  | messageAvailable term =>
      refine iff_of_true (announced_of_constant _ _ _ fun later => ?_) trivial
      simp [check, updateState, checkAbi, MessageAvailableSchedulingTerm.updateState, typeOf,
        TermState.checkAbi]
  | multiMessageAvailable term =>
      refine iff_of_true (announced_of_constant _ _ _ fun later => ?_) trivial
      simp [check, updateState, checkAbi, MultiMessageAvailableSchedulingTerm.updateState, typeOf,
        TermState.checkAbi]
  | memoryAvailable term =>
      refine iff_of_true (announced_of_constant _ _ _ fun later => ?_) trivial
      simp [check, updateState, checkAbi, typeOf]
  | bt term =>
      refine iff_of_true (announced_of_constant _ _ _ fun later => ?_) trivial
      simp only [check, updateState, checkAbi, BTSchedulingTerm.checkAbi]
      split <;> rfl
  | asynchronous term =>
      refine iff_of_true (announced_of_constant _ _ _ fun later => ?_) trivial
      simp only [check, updateState, checkAbi, AsynchronousSchedulingTerm.checkAbi]
      split <;> rfl

/-- A throttler with a period of 100 that waits for one message. -/
def throttler : LibraryTerm := .frequencyThrottler ⟨none, 100, .kSumOfAll [7] 1, ⟨.WAIT, 0⟩⟩

def noMessages : Surroundings where
  receivers _ := ⟨0, 0, 1, .error .GXF_FAILURE, .error .GXF_FAILURE⟩
  allocator := ⟨fun _ _ => .GXF_FAILURE, fun _ _ => ((), .GXF_FAILURE), fun _ => 0⟩
  clock := 0

/-- After an execution at 1000 the throttler waits without a target, and it is ready at 1100. -/
theorem throttler_not_announced :
    ¬Announced (system.run throttler [.check noMessages 1000, .onExecute noMessages 1000])
      noMessages 1050 := by
  intro announced
  have waits := announced ⟨.WAIT, 1000⟩ (by decide) (by decide) (by decide) [] 1100 ⟨.READY, 1100⟩
    (by decide) (by decide) rfl
  exact absurd waits.1 (by decide)

end LibraryTerm

end Gxf.Std
