import Mathlib.Data.Finset.Basic
import Gxf.Core.Result
import Gxf.Lib.Run
import Gxf.Lib.SignedWord
import Gxf.Std.Entity
import Gxf.Std.EventList
import Gxf.Std.SchedulingCondition

/-!
# The greedy scheduler

One thread runs the loop; other threads schedule and unschedule entities and notify
events.  A step is what happens under one lock: a call from outside, or the next part
of the loop.  Calls and parts of the loop interleave in any order.
-/

namespace Gxf.Std

open Gxf.Core Gxf.Lib

namespace GreedyScheduler

/-- Where the thread of the scheduler is. -/
inductive Phase where
  /-- The thread has not been started. -/
  | idle
  /-- Before the entities of the graph are loaded. -/
  | load
  /-- At the head of the loop. -/
  | check
  /-- Before new entities are taken over. -/
  | absorb
  /-- Before the execution of the active entity at a position. -/
  | execute (position : Nat)
  /-- Processing unschedule requests. -/
  | unschedule
  /-- Processing the exported notifications that are left. -/
  | notify (notifications : List Uid)
  /-- Before the active entities are updated. -/
  | remove
  /-- Before the termination conditions at the end of an iteration. -/
  | finish
  /-- Sleeping until an event is notified. -/
  | sleep
  /-- The thread has returned. -/
  | stopped
  /-- The thread has died: a missing mutex was looked up or erased. -/
  | crashed
  deriving DecidableEq, Repr

/-- The phases in which the loop holds `entity_mutex_`. -/
def Phase.holdsEntityMutex : Phase → Bool
  | .unschedule | .notify _ | .remove | .finish | .sleep => true
  | .idle | .load | .check | .absorb | .execute _ | .stopped | .crashed => false

/-- The parameters of the scheduler, and which entities have codelets. -/
structure Setting where
  hasCodelets : Uid → Bool
  maxDurationMs : Option Int
  stopOnDeadlock : Bool
  stopOnDeadlockTimeout : Int

end GreedyScheduler

open GreedyScheduler

/-- The fields of the scheduler, and the variables of its loop. -/
structure GreedyScheduler where
  phase : Phase
  stopping : Bool
  threadErrorCode : GxfResult
  countWaitEvent : Int
  eventNotified : EventList Uid
  eventWaiting : EventList Uid
  activeEntities : List Uid
  newEntities : List Uid
  unscheduleEntities : EventList Uid
  entityMutexMap : Finset Uid
  lastNoStopTs : Int
  start : Int
  now : Int
  countReady : Int
  earliestTarget : Option Int
  toRemove : List Uid

namespace GreedyScheduler

/-- The scheduler after `initialize()`. -/
def init : GreedyScheduler where
  phase := .idle
  stopping := true
  threadErrorCode := .GXF_SUCCESS
  countWaitEvent := 0
  eventNotified := ⟨[]⟩
  eventWaiting := ⟨[]⟩
  activeEntities := []
  newEntities := []
  unscheduleEntities := ⟨[]⟩
  entityMutexMap := ∅
  lastNoStopTs := 0
  start := 0
  now := 0
  countReady := 0
  earliestTarget := none
  toRemove := []

/-- What a step reports. -/
inductive Report where
  /-- The step has to wait for another one. -/
  | blocked
  /-- A call returned. -/
  | returned (result : Except GxfResult Unit)
  /-- The loop called `executeEntity`. -/
  | executed (eid : Uid)
  /-- The loop completed an iteration. -/
  | iterated
  /-- Any other part of the loop. -/
  | progressed
  deriving DecidableEq, Repr

/-- What the loop reads from outside in a step: the clock, the outcome of
`executeEntity`, and the result of `deactivateAll`. -/
structure Input where
  now : Int
  condition : Except GxfResult SchedulingCondition
  deactivated : GxfResult
  deriving DecidableEq, Repr

/-- `emplace_back` on a vector of entities, if there is room. -/
def emplaceBack (entities : List Uid) (eid : Uid) : Option (List Uid) :=
  if entities.length < kMaxEntities then some (entities ++ [eid]) else none

/-- `schedule_abi(eid)`, where `lookup` says whether the entity and its codelets were
found. -/
def scheduleAbi (setting : Setting) (scheduler : GreedyScheduler) (eid : Uid)
    (lookup : Except GxfResult Unit) : GreedyScheduler × Report :=
  match lookup with
  | .error code => (scheduler, .returned (.error code))
  | .ok () =>
      if !setting.hasCodelets eid then (scheduler, .returned (.ok ()))
      else if scheduler.phase.holdsEntityMutex then (scheduler, .blocked)
      else
        match emplaceBack scheduler.newEntities eid with
        | none => (scheduler, .returned (.error .GXF_EXCEEDING_PREALLOCATED_SIZE))
        | some newEntities =>
            ({ scheduler with
                newEntities
                entityMutexMap := insert eid scheduler.entityMutexMap }, .returned (.ok ()))

/-- `unschedule_abi(eid)`. -/
def unscheduleAbi (setting : Setting) (scheduler : GreedyScheduler) (eid : Uid)
    (lookup : Except GxfResult Unit) : GreedyScheduler × Report :=
  match lookup with
  | .error code => (scheduler, .returned (.error code))
  | .ok () =>
      if !setting.hasCodelets eid then (scheduler, .returned (.ok ()))
      else if eid ∉ scheduler.entityMutexMap then (scheduler, .returned (.ok ()))
      else
        ({ scheduler with
            unscheduleEntities := scheduler.unscheduleEntities.pushEvent eid },
          .returned (.ok ()))

/-- `event_notify_abi(eid, event)`. -/
def eventNotifyAbi (scheduler : GreedyScheduler) (eid : Uid) (event : GxfEvent) :
    GreedyScheduler × Report :=
  if event ≠ .GXF_EVENT_EXTERNAL then (scheduler, .returned (.ok ()))
  else
    ({ scheduler with eventNotified := scheduler.eventNotified.pushEvent eid }, .returned (.ok ()))

/-- `stop_abi()`. -/
def stopAbi (scheduler : GreedyScheduler) : GreedyScheduler × Report :=
  ({ scheduler with stopping := true }, .returned (.ok ()))

/-- `runAsync_abi()`, before the first start or after the thread has returned. -/
def runAsyncAbi (scheduler : GreedyScheduler) : GreedyScheduler × Report :=
  match scheduler.phase with
  | .idle | .stopped => ({ scheduler with phase := .load }, .returned (.ok ()))
  | _ => (scheduler, .blocked)

/-! ## Parts of the loop -/

/-- The new entities are appended to the active ones; those that do not fit are lost. -/
def absorbNew (active newEntities : List Uid) : List Uid :=
  newEntities.foldl (fun active eid => (emplaceBack active eid).getD active) active

def loadEntities (scheduler : GreedyScheduler) (input : Input) : GreedyScheduler × Report :=
  let activeEntities := absorbNew scheduler.activeEntities scheduler.newEntities
  if activeEntities = [] then
    ({ scheduler with
        threadErrorCode := .GXF_SUCCESS
        activeEntities
        newEntities := []
        phase := .stopped }, .progressed)
  else
    ({ scheduler with
        threadErrorCode := .GXF_SUCCESS
        activeEntities
        newEntities := []
        start := input.now
        stopping := false
        phase := .check }, .progressed)

/-- The loop condition and the maximum duration. -/
def checkTermination (setting : Setting) (scheduler : GreedyScheduler) (input : Input) :
    GreedyScheduler × Report :=
  if scheduler.stopping then ({ scheduler with phase := .stopped }, .progressed)
  else
    let expired := match setting.maxDurationMs with
      | some maxDuration => decide (input.now > int64 (scheduler.start + maxDuration * 1000000))
      | none => false
    if expired then
      ({ scheduler with threadErrorCode := input.deactivated, phase := .stopped }, .progressed)
    else
      ({ scheduler with
          now := input.now
          countReady := 0
          earliestTarget := none
          phase := .absorb }, .progressed)

/-- New scheduling requests. -/
def absorbEntities (scheduler : GreedyScheduler) : GreedyScheduler × Report := ({ scheduler with
      activeEntities := absorbNew scheduler.activeEntities scheduler.newEntities
      newEntities := []
      toRemove := []
      phase := .execute 0 }, .progressed)

/-- What follows from the condition of the entity at a position. -/
def applyCondition (scheduler : GreedyScheduler) (position : Nat) (eid : Uid)
    (condition : Except GxfResult SchedulingCondition) : GreedyScheduler :=
  let next := { scheduler with phase := .execute (position + 1) }
  match condition with
  | .error code => { scheduler with threadErrorCode := code, phase := .stopped }
  | .ok condition =>
      match condition.type with
      | .READY => { next with countReady := scheduler.countReady + 1 }
      | .WAIT_TIME =>
          let earliest := scheduler.earliestTarget.getD condition.targetTimestamp
          { next with earliestTarget := some (min earliest condition.targetTimestamp) }
      | .WAIT => next
      | .NEVER =>
          match emplaceBack scheduler.toRemove eid with
          | some toRemove => { next with toRemove }
          | none =>
              { scheduler with
                threadErrorCode := .GXF_EXCEEDING_PREALLOCATED_SIZE
                phase := .stopped }
      | .WAIT_EVENT =>
          let waiting := { scheduler with
            eventWaiting := scheduler.eventWaiting.pushEvent eid
            countWaitEvent := scheduler.countWaitEvent + 1 }
          match emplaceBack scheduler.toRemove eid with
          | some toRemove => { waiting with toRemove, phase := .execute (position + 1) }
          | none =>
              { waiting with
                threadErrorCode := .GXF_EXCEEDING_PREALLOCATED_SIZE
                phase := .stopped }

/-- The execution of the active entity at a position, or the end of that loop. -/
def executeNext (scheduler : GreedyScheduler) (position : Nat) (input : Input) :
    GreedyScheduler × Report :=
  match scheduler.activeEntities[position]? with
  | none => ({ scheduler with phase := .unschedule }, .progressed)
  | some eid =>
      if eid ∉ scheduler.entityMutexMap then ({ scheduler with phase := .crashed }, .progressed)
      else if scheduler.unscheduleEntities.hasEvent eid then
        (scheduler.applyCondition position eid (.ok ⟨.NEVER, 0⟩), .progressed)
      else (scheduler.applyCondition position eid input.condition, .executed eid)

/-- The search of one request among the active entities.  It goes on behind an erased
entity, one position too far.  Erasing a mutex that is not there fails. -/
def eraseActive (eid : Uid) : (fuel position : Nat) → List Uid → Finset Uid →
    List Uid × Finset Uid × Bool
  | 0, _, active, mutexes => (active, mutexes, true)
  | fuel + 1, position, active, mutexes =>
      if active[position]? = some eid then
        if eid ∈ mutexes then
          eraseActive eid fuel (position + 1) (active.eraseIdx position) (mutexes.erase eid)
        else (active.eraseIdx position, mutexes, false)
      else eraseActive eid fuel (position + 1) active mutexes

/-- One unschedule request, or the end of that loop. -/
def processRequest (scheduler : GreedyScheduler) : GreedyScheduler × Report :=
  match scheduler.unscheduleEntities.popEvent with
  | none =>
      ({ scheduler with phase := .notify scheduler.eventNotified.exportList }, .progressed)
  | some (eid, unscheduleEntities) =>
      let (activeEntities, entityMutexMap, erased) := eraseActive eid
        scheduler.activeEntities.length 0 scheduler.activeEntities scheduler.entityMutexMap
      ({ scheduler with
          unscheduleEntities
          activeEntities
          entityMutexMap
          phase := if erased then .unschedule else .crashed }, .progressed)

/-- One event notification, or the end of that loop. -/
def processNotification (scheduler : GreedyScheduler) (notifications : List Uid) :
    GreedyScheduler × Report :=
  match notifications with
  | [] => ({ scheduler with phase := .remove }, .progressed)
  | eid :: rest =>
      if scheduler.eventWaiting.hasEvent eid then
        let notified := { scheduler with
          eventNotified := scheduler.eventNotified.removeEvent eid
          eventWaiting := scheduler.eventWaiting.removeEvent eid }
        match emplaceBack scheduler.activeEntities eid with
        | none =>
            ({ notified with
                threadErrorCode := .GXF_EXCEEDING_PREALLOCATED_SIZE
                phase := .stopped }, .progressed)
        | some activeEntities =>
            ({ notified with
                activeEntities
                countWaitEvent := scheduler.countWaitEvent - 1
                countReady := scheduler.countReady + 1
                phase := .notify rest }, .progressed)
      else ({ scheduler with phase := .notify rest }, .progressed)

/-- The update of the active entities: the first instance of each removed one goes. -/
def removeEntities (scheduler : GreedyScheduler) : GreedyScheduler × Report := ({ scheduler with
      activeEntities := scheduler.toRemove.foldl List.erase scheduler.activeEntities
      phase := .finish }, .progressed)

/-- `stop_on_deadlock_timeout(timeout, now, should_stop)`: whether to stop, and the
latest timestamp without a trend to stop. -/
def stopOnDeadlockTimeout (lastNoStopTs timeout now : Int) (shouldStop : Bool) : Bool × Int :=
  if timeout < 0 then (false, lastNoStopTs)
  else if !shouldStop then (false, now)
  else if int64 (now - lastNoStopTs) < int64 (timeout * 1000000) then (false, lastNoStopTs)
  else (true, lastNoStopTs)

/-- The termination conditions at the end of an iteration.  Sleeping only lets time
pass. -/
def finishIteration (setting : Setting) (scheduler : GreedyScheduler) : GreedyScheduler × Report :=
  if scheduler.activeEntities = [] ∧ scheduler.eventWaiting.empty then
    ({ scheduler with phase := .stopped }, .progressed)
  else if scheduler.countReady = 0 then
    if scheduler.earliestTarget.any (· > scheduler.now) then
      ({ scheduler with phase := .check }, .iterated)
    else if scheduler.countWaitEvent > 0 then ({ scheduler with phase := .sleep }, .progressed)
    else if setting.stopOnDeadlock then
      let (shouldStop, lastNoStopTs) := stopOnDeadlockTimeout scheduler.lastNoStopTs
        setting.stopOnDeadlockTimeout scheduler.now true
      if shouldStop then ({ scheduler with lastNoStopTs, phase := .stopped }, .progressed)
      else ({ scheduler with lastNoStopTs, phase := .check }, .iterated)
    else ({ scheduler with phase := .check }, .iterated)
  else ({ scheduler with lastNoStopTs := scheduler.now, phase := .check }, .iterated)

/-- Waking up from the wait for a notification. -/
def wakeUp (scheduler : GreedyScheduler) : GreedyScheduler × Report :=
  if !scheduler.eventNotified.empty || scheduler.stopping then
    ({ scheduler with phase := .check }, .iterated)
  else (scheduler, .blocked)

/-- The next part of the loop. -/
def advance (setting : Setting) (scheduler : GreedyScheduler) (input : Input) :
    GreedyScheduler × Report :=
  match scheduler.phase with
  | .idle | .stopped | .crashed => (scheduler, .blocked)
  | .load => scheduler.loadEntities input
  | .check => scheduler.checkTermination setting input
  | .absorb => scheduler.absorbEntities
  | .execute position => scheduler.executeNext position input
  | .unschedule => scheduler.processRequest
  | .notify notifications => scheduler.processNotification notifications
  | .remove => scheduler.removeEntities
  | .finish => scheduler.finishIteration setting
  | .sleep => scheduler.wakeUp

/-- One step of the loop or of another thread. -/
inductive Event where
  | schedule (eid : Uid) (lookup : Except GxfResult Unit)
  | unschedule (eid : Uid) (lookup : Except GxfResult Unit)
  | eventNotify (eid : Uid) (event : GxfEvent)
  | runAsync
  | stop
  | loop (input : Input)
  deriving DecidableEq, Repr

/-- The scheduler together with the threads that call it. -/
def system (setting : Setting) : System GreedyScheduler Event Report where
  step scheduler
    | .schedule eid lookup => scheduler.scheduleAbi setting eid lookup
    | .unschedule eid lookup => scheduler.unscheduleAbi setting eid lookup
    | .eventNotify eid event => scheduler.eventNotifyAbi eid event
    | .runAsync => scheduler.runAsyncAbi
    | .stop => scheduler.stopAbi
    | .loop input => scheduler.advance setting input

end GreedyScheduler

end Gxf.Std
