import Gxf.Core.Result
import Gxf.Lib.Run
import Gxf.Lib.SwapRemove
import Gxf.Std.Entity
import Gxf.Std.SchedulingCondition

/-!
# The epoch scheduler

One thread runs an epoch; other threads schedule and unschedule entities and notify
events.  A step is what happens while one lock is held.  `schedule_abi` and
`unschedule_abi` may take two steps each, and other steps may come in between.  The mutex
of an entity is held over several steps by the epoch only, around `executeEntity`.
-/

namespace Gxf.Std

open Gxf.Core Gxf.Lib

namespace EpochScheduler

/-- Where the thread that runs an epoch is. -/
inductive Phase where
  /-- No epoch is run. -/
  | idle
  /-- At the head of the loop. -/
  | head
  /-- Processing event requests, with `event_mutex_` held. -/
  | events (requests : List Uid)
  /-- Processing the request of an entity that has a condition. -/
  | notify (eid : Uid) (requests : List Uid)
  /-- Before the condition of the active entity at a position is copied. -/
  | copy (index : Nat)
  /-- Before the mutex of the entity is locked, with its condition copied. -/
  | enter (index : Nat) (eid : Uid) (condition : SchedulingCondition)
  /-- In `executeEntity`, with the mutex of the entity held. -/
  | executing (index : Nat) (eid : Uid)
  /-- Before the active entities are swept. -/
  | sweep
  /-- Before the event requests are looked at to end the epoch. -/
  | finish
  /-- An entity without a condition was looked up. -/
  | crashed
  deriving DecidableEq, Repr

/-- What a step reports. -/
inductive Report where
  /-- The step has to wait for another one. -/
  | blocked
  /-- `schedule_abi(eid)` returned. -/
  | scheduled (eid : Uid) (result : GxfResult)
  /-- `unschedule_abi(eid)` returned. -/
  | unscheduled (eid : Uid) (result : GxfResult)
  /-- The epoch goes over the active entities. -/
  | passing
  /-- The epoch calls `executeEntity(eid)`. -/
  | executed (eid : Uid)
  /-- Another call returned. -/
  | returned (result : GxfResult)
  /-- Any other step. -/
  | progressed
  deriving DecidableEq, Repr

end EpochScheduler

open EpochScheduler

/-- The fields of the scheduler, the variables of `run_epoch_abi`, and the entities with
calls of `schedule_abi` and `unschedule_abi` between their two steps. -/
structure EpochScheduler where
  phase : Phase
  budgeted : Bool
  allCovered : Bool
  toRemoveIdx : List Nat
  countReady : Nat
  stopping : Bool
  activeEntities : List Uid
  entityConditions : Uid → Option SchedulingCondition
  eventEntities : List Uid
  scheduling : List Uid
  unscheduling : List Uid

namespace EpochScheduler

/-- `push_back(obj)` of a vector with room for `kMaxEntities`. -/
def pushBack {Elem : Type} (list : List Elem) (element : Elem) : Option (List Elem) :=
  if list.length < kMaxEntities then some (list ++ [element]) else none

/-- The scheduler after `initialize()`. -/
def init : EpochScheduler where
  phase := .idle
  budgeted := false
  allCovered := false
  toRemoveIdx := []
  countReady := 0
  stopping := true
  activeEntities := []
  entityConditions := fun _ => none
  eventEntities := []
  scheduling := []
  unscheduling := []

/-- The condition of an entity is replaced. -/
def setCondition (scheduler : EpochScheduler) (eid : Uid) (condition : SchedulingCondition) :
    EpochScheduler :=
  { scheduler with
    entityConditions := Function.update scheduler.entityConditions eid (some condition) }

/-- `entity_conditions_[eid].condition`, which is created when it is missing. -/
def condition (scheduler : EpochScheduler) (eid : Uid) : SchedulingCondition :=
  (scheduler.entityConditions eid).getD ⟨.NEVER, 0⟩

def holdsEntity (scheduler : EpochScheduler) (eid : Uid) : Bool :=
  match scheduler.phase with
  | .executing _ held => held = eid
  | .idle | .head | .events _ | .notify .. | .copy _ | .enter .. | .sweep | .finish | .crashed =>
      false

/-- Whether the epoch holds `event_mutex_`. -/
def holdsEvents (scheduler : EpochScheduler) : Bool :=
  match scheduler.phase with
  | .events _ | .notify .. => true
  | .idle | .head | .copy _ | .enter .. | .executing .. | .sweep | .finish | .crashed => false

/-- An entity is added to the active ones. -/
def activate (scheduler : EpochScheduler) (eid : Uid) : EpochScheduler × GxfResult :=
  match pushBack scheduler.activeEntities eid with
  | some activeEntities => ({ scheduler with activeEntities }, .GXF_SUCCESS)
  | none => (scheduler, .GXF_FAILURE)

/-- `schedule_abi(eid)`, up to the end of the first section. -/
def schedule (scheduler : EpochScheduler) (hasCodelets : Uid → Except GxfResult Bool)
    (eid : Uid) : EpochScheduler × Report :=
  match hasCodelets eid with
  | .error code => (scheduler, .scheduled eid code)
  | .ok false => (scheduler, .scheduled eid .GXF_SUCCESS)
  | .ok true =>
      match scheduler.entityConditions eid with
      | none =>
          let activated := (scheduler.setCondition eid ⟨.READY, 0⟩).activate eid
          (activated.1, .scheduled eid activated.2)
      | some _ => ({ scheduler with scheduling := eid :: scheduler.scheduling }, .progressed)

/-- The second section of `schedule_abi(eid)`, with both locks. -/
def reschedule (scheduler : EpochScheduler) (eid : Uid) : EpochScheduler × Report :=
  if (scheduler.condition eid).type ≠ .NEVER then (scheduler, .scheduled eid .GXF_FAILURE)
  else
    let activated := (scheduler.setCondition eid
      { scheduler.condition eid with type := .READY }).activate eid
    (activated.1, .scheduled eid activated.2)

/-- A call of `schedule_abi(eid)` comes to its second section. -/
def resumeScheduling (scheduler : EpochScheduler) (eid : Uid) : EpochScheduler :=
  { scheduler with scheduling := scheduler.scheduling.erase eid }

/-- A call of `unschedule_abi(eid)` comes to its second section. -/
def resumeUnscheduling (scheduler : EpochScheduler) (eid : Uid) : EpochScheduler :=
  { scheduler with unscheduling := scheduler.unscheduling.erase eid }

/-- The second section of `schedule_abi(eid)`. -/
def scheduleAgain (scheduler : EpochScheduler) (eid : Uid) : EpochScheduler × Report :=
  if eid ∉ scheduler.scheduling ∨ scheduler.holdsEntity eid = true then (scheduler, .blocked)
  else (scheduler.resumeScheduling eid).reschedule eid

/-- `unschedule_abi(eid)`, up to the end of the first section. -/
def unschedule (scheduler : EpochScheduler) (hasCodelets : Uid → Except GxfResult Bool)
    (eid : Uid) : EpochScheduler × Report :=
  match hasCodelets eid with
  | .error code => (scheduler, .unscheduled eid code)
  | .ok false => (scheduler, .unscheduled eid .GXF_SUCCESS)
  | .ok true =>
      match scheduler.entityConditions eid with
      | none => (scheduler, .unscheduled eid .GXF_FAILURE)
      | some _ => ({ scheduler with unscheduling := eid :: scheduler.unscheduling }, .progressed)

/-- The second section of `unschedule_abi(eid)`. -/
def unscheduleAgain (scheduler : EpochScheduler) (eid : Uid) : EpochScheduler × Report :=
  if eid ∉ scheduler.unscheduling ∨ scheduler.holdsEntity eid = true then (scheduler, .blocked)
  else
    ((scheduler.resumeUnscheduling eid).setCondition eid
      { scheduler.condition eid with type := .NEVER }, .unscheduled eid .GXF_SUCCESS)

/-- `event_notify_abi(eid, event)`. -/
def eventNotify (scheduler : EpochScheduler) (eid : Uid) (event : GxfEvent) :
    EpochScheduler × Report :=
  if event ≠ .GXF_EVENT_EXTERNAL then (scheduler, .returned .GXF_SUCCESS)
  else if scheduler.holdsEvents then (scheduler, .blocked)
  else
    ({ scheduler with
        eventEntities := (pushBack scheduler.eventEntities eid).getD scheduler.eventEntities },
      .returned .GXF_SUCCESS)

/-- `runAsync_abi()`, after `prepare_abi` has set the executor. -/
def runAsync (scheduler : EpochScheduler) : EpochScheduler × Report :=
  if scheduler.phase ≠ .idle then (scheduler, .blocked)
  else ({ scheduler with stopping := false }, .returned .GXF_SUCCESS)

/-- `stop_abi()`. -/
def stop (scheduler : EpochScheduler) : EpochScheduler × Report :=
  ({ scheduler with stopping := true }, .returned .GXF_SUCCESS)

/-- The beginning of `run_epoch_abi(budget_ms)`, where the budget may be positive. -/
def runEpoch (scheduler : EpochScheduler) (budgeted : Bool) : EpochScheduler × Report :=
  if scheduler.phase ≠ .idle then (scheduler, .blocked)
  else ({ scheduler with phase := .head, budgeted, allCovered := false }, .progressed)

/-- What the epoch reads from outside in a step: whether the budget is used up, and the
outcome of `executeEntity`. -/
structure Outside where
  overBudget : Bool
  executed : Except GxfResult SchedulingCondition

/-- `run_epoch_abi` returns. -/
def leave (scheduler : EpochScheduler) (result : GxfResult) : EpochScheduler × Report :=
  ({ scheduler with phase := .idle }, .returned result)

/-- The thread comes to another phase. -/
def goto (scheduler : EpochScheduler) (phase : Phase) : EpochScheduler × Report :=
  ({ scheduler with phase }, .progressed)

/-- The head of the loop, up to the lock of `event_mutex_`. -/
def loopHead (scheduler : EpochScheduler) (outside : Outside) : EpochScheduler × Report :=
  if scheduler.stopping then scheduler.leave .GXF_SUCCESS
  else if scheduler.budgeted then
    if outside.overBudget then scheduler.leave .GXF_SUCCESS
    else scheduler.goto (.events scheduler.eventEntities)
  else if scheduler.allCovered then scheduler.leave .GXF_SUCCESS
  else { scheduler with allCovered := true }.goto (.events scheduler.eventEntities)

/-- Between two requests of `processEventRequests()`, and at its end. -/
def processEventRequests (scheduler : EpochScheduler) : List Uid → EpochScheduler × Report
  | [] =>
      let scheduler := { scheduler with eventEntities := [] }
      if scheduler.activeEntities.isEmpty then scheduler.leave .GXF_SUCCESS
      else
        ({ scheduler with phase := .copy 0, toRemoveIdx := [], countReady := 0 }, .passing)
  | eid :: requests =>
      match scheduler.entityConditions eid with
      | none => scheduler.goto (.events requests)
      | some _ => scheduler.goto (.notify eid requests)

/-- The section of `processEventRequests()` that changes a condition. -/
def processEventRequest (scheduler : EpochScheduler) (eid : Uid) (requests : List Uid) :
    EpochScheduler × Report :=
  match scheduler.entityConditions eid with
  | none => scheduler.goto .crashed
  | some condition =>
      if condition.type = .WAIT_EVENT then
        let activated := (scheduler.setCondition eid { condition with type := .READY }).activate eid
        if activated.2 = .GXF_SUCCESS then activated.1.goto (.events requests)
        else activated.1.leave .GXF_FAILURE
      else scheduler.goto (.events requests)

/-- The section that copies the condition of an entity, or the end of the inner loop. -/
def copyCondition (scheduler : EpochScheduler) (index : Nat) : EpochScheduler × Report :=
  match scheduler.activeEntities[index]? with
  | none => scheduler.goto .sweep
  | some eid =>
      match scheduler.entityConditions eid with
      | none => scheduler.goto .crashed
      | some condition => scheduler.goto (.enter index eid condition)

/-- `to_remove_idx.push_back(i)`. -/
def pushToRemove (scheduler : EpochScheduler) (index : Nat) : EpochScheduler :=
  { scheduler with
    toRemoveIdx := (pushBack scheduler.toRemoveIdx index).getD scheduler.toRemoveIdx }

/-- The section under the mutex of the entity, up to `executeEntity`.  It looks at the
copied condition. -/
def enterEntity (scheduler : EpochScheduler) (index : Nat) (eid : Uid)
    (condition : SchedulingCondition) : EpochScheduler × Report :=
  if condition.type = .NEVER then (scheduler.pushToRemove index).goto (.copy (index + 1))
  else ({ scheduler with phase := .executing index eid }, .executed eid)

/-- The end of `executeEntity`, up to the end of the body of the inner loop. -/
def concludeEntity (scheduler : EpochScheduler) (index : Nat) (eid : Uid)
    (executed : Except GxfResult SchedulingCondition) : EpochScheduler × Report :=
  match executed with
  | .error code => scheduler.leave code
  | .ok condition =>
      let scheduler := scheduler.setCondition eid condition
      match condition.type with
      | .READY =>
          { scheduler with countReady := scheduler.countReady + 1 }.goto (.copy (index + 1))
      | .WAIT_TIME | .WAIT => scheduler.goto (.copy (index + 1))
      | .WAIT_EVENT | .NEVER => (scheduler.pushToRemove index).goto (.copy (index + 1))

/-- The section that removes entities. -/
def sweepEntities (scheduler : EpochScheduler) : EpochScheduler × Report :=
  { scheduler with
    activeEntities := Lib.sweep scheduler.toRemoveIdx scheduler.activeEntities }.goto .finish

/-- The section at the end of the loop. -/
def finishPass (scheduler : EpochScheduler) : EpochScheduler × Report :=
  if scheduler.countReady = 0 ∧ scheduler.eventEntities.isEmpty then
    scheduler.leave .GXF_SUCCESS
  else scheduler.goto .head

/-- The next step of `run_epoch_abi`. -/
def epoch (scheduler : EpochScheduler) (outside : Outside) : EpochScheduler × Report :=
  match scheduler.phase with
  | .idle | .crashed => (scheduler, .blocked)
  | .head => scheduler.loopHead outside
  | .events requests => scheduler.processEventRequests requests
  | .notify eid requests => scheduler.processEventRequest eid requests
  | .copy index => scheduler.copyCondition index
  | .enter index eid condition => scheduler.enterEntity index eid condition
  | .executing index eid => scheduler.concludeEntity index eid outside.executed
  | .sweep => scheduler.sweepEntities
  | .finish => scheduler.finishPass

/-- The steps of all threads. -/
inductive Op where
  | schedule (eid : Uid)
  | scheduleAgain (eid : Uid)
  | unschedule (eid : Uid)
  | unscheduleAgain (eid : Uid)
  | eventNotify (eid : Uid) (event : GxfEvent)
  | runAsync
  | stop
  | runEpoch (budgeted : Bool)
  | epoch (outside : Outside)

def system (hasCodelets : Uid → Except GxfResult Bool) : System EpochScheduler Op Report where
  step scheduler
    | .schedule eid => scheduler.schedule hasCodelets eid
    | .scheduleAgain eid => scheduler.scheduleAgain eid
    | .unschedule eid => scheduler.unschedule hasCodelets eid
    | .unscheduleAgain eid => scheduler.unscheduleAgain eid
    | .eventNotify eid event => scheduler.eventNotify eid event
    | .runAsync => scheduler.runAsync
    | .stop => scheduler.stop
    | .runEpoch budgeted => scheduler.runEpoch budgeted
    | .epoch outside => scheduler.epoch outside

end EpochScheduler

end Gxf.Std
