import Gxf.Std.Allocator
import Gxf.Std.MessageRouter.Connection
import Gxf.Std.SchedulingTerms

/-!
# The scheduling terms of the library

The other terms of `scheduling_terms.cpp`, and all of them as one type.  What a term reads from
receivers and allocators is given with every call.
-/

namespace Gxf.Std

open Gxf.Core Gxf.Lib

/-- What a term reads from a receiver.  A message that is peeked at is given by the `acqtime`
of its `Timestamp` components. -/
structure ReceiverView where
  size : UInt64
  backSize : UInt64
  capacity : UInt64
  peek : Except GxfResult (Except GxfResult (List Int))
  peekBack : Except GxfResult (Except GxfResult (List Int))

/-- What terms read from outside. -/
structure Surroundings where
  receivers : Uid → ReceiverView
  allocator : Allocator Unit
  /-- The timestamp of the clock. -/
  clock : Int

/-- The state of a term that remembers when it became ready. -/
structure TermState where
  currentState : SchedulingConditionType
  lastStateChange : Int
  deriving DecidableEq, Repr

namespace TermState

/-- The state changes, unless it is the same. -/
def change (state : TermState) (isReady : Bool) (timestamp : Int) : TermState :=
  let next : SchedulingConditionType := if isReady then .READY else .WAIT
  if state.currentState = next then state else ⟨next, timestamp⟩

/-- `check_abi` of these terms. -/
def checkAbi (state : TermState) : SchedulingCondition :=
  ⟨state.currentState, state.lastStateChange⟩

end TermState

/-- The fields of a `TargetTimeSchedulingTerm`. -/
structure TargetTimeSchedulingTerm where
  lastTimestamp : Int
  targetTimestamp : Option Int
  lockedTargetTimestamp : Option Int
  deriving DecidableEq, Repr

namespace TargetTimeSchedulingTerm

/-- `initialize()`. -/
def init (clock : Int) : TargetTimeSchedulingTerm := ⟨clock, some clock, none⟩

/-- `setNextTargetTime(target_timestamp)`. -/
def setNextTargetTime (term : TargetTimeSchedulingTerm) (targetTimestamp : Int) :
    TargetTimeSchedulingTerm :=
  match term.lockedTargetTimestamp with
  | some locked =>
      if locked > targetTimestamp then term
      else { term with targetTimestamp := some targetTimestamp }
  | none => { term with targetTimestamp := some targetTimestamp }

def lock (term : TargetTimeSchedulingTerm) : TargetTimeSchedulingTerm :=
  if term.targetTimestamp.isSome ∧ term.lockedTargetTimestamp.isNone then
    { term with lockedTargetTimestamp := term.targetTimestamp, targetTimestamp := none }
  else term

/-- `check_abi(timestamp, type, target_timestamp)`, for a term that is locked if it can be. -/
def checkAbi (term : TargetTimeSchedulingTerm) (timestamp : Int) : SchedulingCondition :=
  match term.lockedTargetTimestamp with
  | none => ⟨.WAIT, 0⟩
  | some locked => ⟨if locked > timestamp then .WAIT_TIME else .READY, locked⟩

/-- `onExecute_abi`. -/
def onExecute (term : TargetTimeSchedulingTerm) (clock : Int) : TargetTimeSchedulingTerm :=
  { term with lastTimestamp := clock, lockedTargetTimestamp := none }

end TargetTimeSchedulingTerm

/-- The number of messages in a receiver. -/
def ReceiverView.count (receiver : ReceiverView) : UInt64 := receiver.backSize + receiver.size

/-- `update_state_abi(timestamp)`, with the receivers that are connected. -/
def DownstreamReceptiveSchedulingTerm.updateState (term : DownstreamReceptiveSchedulingTerm)
    (receivers : List Uid) (surroundings : Surroundings) (timestamp : Int) :
    DownstreamReceptiveSchedulingTerm :=
  if receivers = [] then term
  else
    let isReady := receivers.all fun receiver =>
      let view := surroundings.receivers receiver
      decide (view.backSize + term.minSize ≤ view.capacity - view.size)
    term.concludeUpdate isReady timestamp

/-- The fields of a `MessageAvailableSchedulingTerm`. -/
structure MessageAvailableSchedulingTerm where
  receiver : Uid
  minSize : UInt64
  frontStageMaxSize : Option UInt64
  state : TermState
  deriving DecidableEq, Repr

namespace MessageAvailableSchedulingTerm

/-- `checkMinSize()`. -/
def checkMinSize (term : MessageAvailableSchedulingTerm) (surroundings : Surroundings) : Bool :=
  decide (term.minSize ≤ (surroundings.receivers term.receiver).count)

/-- `checkFrontStageMaxSize()`. -/
def checkFrontStageMaxSize (term : MessageAvailableSchedulingTerm)
    (surroundings : Surroundings) : Bool :=
  term.frontStageMaxSize.all fun most =>
    decide ((surroundings.receivers term.receiver).size ≤ most)

/-- `update_state_abi(timestamp)`. -/
def updateState (term : MessageAvailableSchedulingTerm) (surroundings : Surroundings)
    (timestamp : Int) : MessageAvailableSchedulingTerm :=
  let isReady := term.checkMinSize surroundings && term.checkFrontStageMaxSize surroundings
  { term with state := term.state.change isReady timestamp }

end MessageAvailableSchedulingTerm

/-- `SamplingMode`, with the receivers and the thresholds that `initialize()` requires. -/
inductive Sampling where
  | kSumOfAll (receivers : List Uid) (minSum : UInt64)
  | kPerReceiver (minSizes : List (Uid × UInt64))
  deriving DecidableEq, Repr

/-- Whether there are enough messages. -/
def Sampling.isReady (sampling : Sampling) (surroundings : Surroundings) : Bool :=
  match sampling with
  | .kSumOfAll receivers minSum =>
      let count := receivers.foldl
        (fun count receiver => count + (surroundings.receivers receiver).count) 0
      !decide (minSum > count)
  | .kPerReceiver minSizes =>
      minSizes.all fun (receiver, minSize) =>
        !decide (minSize > (surroundings.receivers receiver).count)

/-- The fields of a `MultiMessageAvailableSchedulingTerm`. -/
structure MultiMessageAvailableSchedulingTerm where
  sampling : Sampling
  state : TermState
  deriving DecidableEq, Repr

/-- `update_state_abi(timestamp)`. -/
def MultiMessageAvailableSchedulingTerm.updateState (term : MultiMessageAvailableSchedulingTerm)
    (surroundings : Surroundings) (timestamp : Int) : MultiMessageAvailableSchedulingTerm :=
  { term with state := term.state.change (term.sampling.isReady surroundings) timestamp }

/-- The fields of an `ExpiringMessageAvailableSchedulingTerm`. -/
structure ExpiringMessageAvailableSchedulingTerm where
  maxBatchSize : Int
  maxDelayNs : Int
  receiver : Uid
  deriving DecidableEq, Repr

/-- `check_abi(timestamp, type, target_timestamp)`. -/
def ExpiringMessageAvailableSchedulingTerm.checkAbi (term : ExpiringMessageAvailableSchedulingTerm)
    (surroundings : Surroundings) (timestamp : Int) : Except GxfResult SchedulingCondition :=
  let view := surroundings.receivers term.receiver
  let receiverSize := (view.size + view.backSize).toInt64.toInt
  if receiverSize ≤ 0 then .ok ⟨.WAIT, 0⟩
  else if receiverSize ≥ term.maxBatchSize then .ok ⟨.READY, timestamp⟩
  else
    match if view.size = 0 then view.peekBack else view.peek with
    | .error _ => .ok ⟨.WAIT, 0⟩
    | .ok (.error code) => .error code
    | .ok (.ok []) => .error .GXF_FAILURE
    | .ok (.ok (acqtime :: _)) =>
        let expiringTimestamp := int64 (acqtime + term.maxDelayNs)
        .ok ⟨if expiringTimestamp ≤ timestamp then .READY else .WAIT_TIME, expiringTimestamp⟩

/-- The fields of a `MessageAvailableFrequencyThrottler`. -/
structure MessageAvailableFrequencyThrottler where
  lastRunTimestamp : Option Int
  executionFrequency : Int
  sampling : Sampling
  state : TermState
  deriving DecidableEq, Repr

namespace MessageAvailableFrequencyThrottler

/-- When the entity has to execute even without messages. -/
def targetTimestamp (term : MessageAvailableFrequencyThrottler) : Int :=
  match term.lastRunTimestamp with
  | some lastRun => int64 (lastRun + term.executionFrequency)
  | none => term.executionFrequency

/-- `update_state_abi(timestamp)`. -/
def updateState (term : MessageAvailableFrequencyThrottler) (surroundings : Surroundings)
    (timestamp : Int) : MessageAvailableFrequencyThrottler :=
  if term.targetTimestamp ≤ timestamp then { term with state := term.state.change true timestamp }
  else { term with state := term.state.change (term.sampling.isReady surroundings) timestamp }

end MessageAvailableFrequencyThrottler

/-- The fields of a `BooleanSchedulingTerm`. -/
structure BooleanSchedulingTerm where
  enableTick : Bool
  deriving DecidableEq, Repr

/-- `check_abi(timestamp, type, target_timestamp)`. -/
def BooleanSchedulingTerm.checkAbi (term : BooleanSchedulingTerm) (timestamp : Int) :
    SchedulingCondition :=
  ⟨if term.enableTick then .READY else .NEVER, timestamp⟩

/-- The fields of a `BTSchedulingTerm`. -/
structure BTSchedulingTerm where
  schedulingConditionType : SchedulingConditionType
  deriving DecidableEq, Repr

namespace BTSchedulingTerm

/-- `initialize()`, for a value of the parameter `is_root`. -/
def init (isRoot : Bool) : BTSchedulingTerm := ⟨if isRoot then .READY else .WAIT⟩

/-- `check_abi(timestamp, type, target_timestamp)`. -/
def checkAbi (term : BTSchedulingTerm) (timestamp : Int) : SchedulingCondition :=
  if term.schedulingConditionType = .NEVER ∨ term.schedulingConditionType = .READY then
    ⟨term.schedulingConditionType, timestamp⟩
  else ⟨.WAIT, 0⟩

end BTSchedulingTerm

/-- `AsynchronousEventState`. -/
inductive AsynchronousEventState where
  | READY
  | WAIT
  | EVENT_WAITING
  | EVENT_DONE
  | EVENT_NEVER
  deriving DecidableEq, Repr

/-- The fields of an `AsynchronousSchedulingTerm`. -/
structure AsynchronousSchedulingTerm where
  eventState : AsynchronousEventState
  deriving DecidableEq, Repr

/-- `check_abi(timestamp, type, target_timestamp)`. -/
def AsynchronousSchedulingTerm.checkAbi (term : AsynchronousSchedulingTerm) (timestamp : Int) :
    SchedulingCondition :=
  match term.eventState with
  | .EVENT_NEVER => ⟨.NEVER, 0⟩
  | .EVENT_WAITING => ⟨.WAIT_EVENT, 0⟩
  | .WAIT => ⟨.WAIT, 0⟩
  | .READY | .EVENT_DONE => ⟨.READY, timestamp⟩

/-- A term of the library. -/
inductive LibraryTerm where
  | periodic (term : PeriodicSchedulingTerm)
  | targetTime (term : TargetTimeSchedulingTerm)
  | count (term : CountSchedulingTerm)
  | downstreamReceptive (term : DownstreamReceptiveSchedulingTerm) (receivers : List Uid)
  | messageAvailable (term : MessageAvailableSchedulingTerm)
  | multiMessageAvailable (term : MultiMessageAvailableSchedulingTerm)
  | expiringMessageAvailable (term : ExpiringMessageAvailableSchedulingTerm)
  | boolean (term : BooleanSchedulingTerm)
  | bt (term : BTSchedulingTerm)
  | asynchronous (term : AsynchronousSchedulingTerm)
  | frequencyThrottler (term : MessageAvailableFrequencyThrottler)
  | memoryAvailable (term : MemoryAvailableSchedulingTerm)
  deriving DecidableEq, Repr

namespace LibraryTerm

/-- `update_state_abi(timestamp)`, and what `check_abi` changes. -/
def updateState (term : LibraryTerm) (surroundings : Surroundings) (timestamp : Int) :
    LibraryTerm :=
  match term with
  | .targetTime term => .targetTime term.lock
  | .count term => .count term.updateState
  | .downstreamReceptive term receivers =>
      .downstreamReceptive (term.updateState receivers surroundings timestamp) receivers
  | .messageAvailable term => .messageAvailable (term.updateState surroundings timestamp)
  | .multiMessageAvailable term =>
      .multiMessageAvailable (term.updateState surroundings timestamp)
  | .frequencyThrottler term => .frequencyThrottler (term.updateState surroundings timestamp)
  | .memoryAvailable term =>
      .memoryAvailable (term.updateState surroundings.allocator () timestamp)
  | .periodic _ | .expiringMessageAvailable _ | .boolean _ | .bt _ | .asynchronous _ => term

/-- `check_abi(timestamp, type, target_timestamp)`, for a term whose state is updated. -/
def checkAbi (term : LibraryTerm) (surroundings : Surroundings) (timestamp : Int) :
    Except GxfResult SchedulingCondition :=
  match term with
  | .periodic term => .ok (term.checkAbi timestamp)
  | .targetTime term => .ok (term.checkAbi timestamp)
  | .count term => .ok term.checkAbi
  | .downstreamReceptive term receivers => .ok (term.checkAbi (receivers ≠ []))
  | .messageAvailable term => .ok term.state.checkAbi
  | .multiMessageAvailable term => .ok term.state.checkAbi
  | .expiringMessageAvailable term => term.checkAbi surroundings timestamp
  | .boolean term => .ok (term.checkAbi timestamp)
  | .bt term => .ok (term.checkAbi timestamp)
  | .asynchronous term => .ok (term.checkAbi timestamp)
  | .frequencyThrottler term => .ok term.state.checkAbi
  | .memoryAvailable term => .ok ⟨term.currentState, term.lastStateChange⟩

/-- `check(timestamp)`. -/
def check (term : LibraryTerm) (surroundings : Surroundings) (timestamp : Int) :
    LibraryTerm × Except GxfResult SchedulingCondition :=
  let updated := term.updateState surroundings timestamp
  (updated, updated.checkAbi surroundings timestamp)

/-- `onExecute(timestamp)`. -/
def onExecute (term : LibraryTerm) (surroundings : Surroundings) (timestamp : Int) : LibraryTerm :=
  match term with
  | .periodic term => .periodic (term.onExecute timestamp)
  | .targetTime term => .targetTime (term.onExecute surroundings.clock)
  | .count term => .count (term.onExecute timestamp)
  | .frequencyThrottler term =>
      .frequencyThrottler
        ({ term with lastRunTimestamp := some timestamp }.updateState surroundings timestamp)
  | .downstreamReceptive .. | .messageAvailable _ | .multiMessageAvailable _
  | .memoryAvailable _ => term.updateState surroundings timestamp
  | .expiringMessageAvailable _ | .boolean _ | .bt _ | .asynchronous _ => term

/-- The calls that change a term. -/
inductive Op where
  | check (surroundings : Surroundings) (timestamp : Int)
  | onExecute (surroundings : Surroundings) (timestamp : Int)
  | setNextTargetTime (targetTimestamp : Int)
  | setEnableTick (enableTick : Bool)
  | setCondition (type : SchedulingConditionType)
  | setEventState (state : AsynchronousEventState)

/-- A term as a system.  A setter of another kind of term changes nothing. -/
def system : System LibraryTerm Op (Option (Except GxfResult SchedulingCondition)) where
  step term op :=
    match op, term with
    | .check surroundings timestamp, term =>
        ((term.check surroundings timestamp).1, some (term.check surroundings timestamp).2)
    | .onExecute surroundings timestamp, term => (term.onExecute surroundings timestamp, none)
    | .setNextTargetTime target, .targetTime term =>
        (.targetTime (term.setNextTargetTime target), none)
    | .setEnableTick enableTick, .boolean _ => (.boolean ⟨enableTick⟩, none)
    | .setCondition type, .bt _ => (.bt ⟨type⟩, none)
    | .setEventState state, .asynchronous _ => (.asynchronous ⟨state⟩, none)
    | _, term => (term, none)

end LibraryTerm

end Gxf.Std
