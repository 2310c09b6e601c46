import Gxf.Lib.Tally
import Gxf.Std.Entity
import Gxf.Std.SchedulingCondition
import Gxf.Std.TimedJobList
import Gxf.Std.UniqueEventList

/-!
# The event based scheduler

A dispatcher thread checks entities and puts them into ready queues, worker threads take
them from there, and another thread follows external events.  A step is one atomic
operation or what happens while one lock is held; plain variables are read and written
together with the operation next to them.  A lock that is held over several steps is in
the state.
-/

namespace Gxf.Std

open Gxf.Core Gxf.Lib TimedJobList

namespace EventBasedScheduler

/-- The slip tolerance of a job. -/
def kMaxSlipNs : Int := 1000000

/-- The capacity of the table from threads to queues. -/
def kMaxThreads : Nat := 128

def kDefaultThreadPoolThreadId : Uid := -1

def kDefaultThreadPoolQueueIndex : Nat := 0

/-- State changes of the scheduler. -/
inductive State where
  | kNotStarted
  | kRunning
  | kStopping
  | kStopped
  deriving DecidableEq, Repr

/-- What the scheduler keeps for an entity.  `locked` says whether
`ready_queue_sync_mutex_` is held between two steps. -/
structure ScheduleEntity where
  queueIndex : Nat
  eid : Uid
  condition : SchedulingCondition
  acquired : Bool
  unschedule : Bool
  isPresentInReadyQueue : Bool
  locked : Bool
  deriving DecidableEq, Repr

/-! ## Where the threads are -/

/-- Where a call of `updateCondition(e, next_condition)` is. -/
inductive Update where
  /-- Before the entity leaves the list of its previous condition. -/
  | remove (nextCondition : SchedulingCondition)
  /-- Before the entity comes to the place of its next condition. -/
  | place (nextCondition : SchedulingCondition)
  /-- The entity is in its ready queue, and its mutex is held. -/
  | present
  deriving DecidableEq, Repr

/-- Where a call of `stopAllJobs()` is. -/
inductive Stop where
  | mark
  | queue (index : Nat)
  | externalEvents
  | waitingEvents
  deriving DecidableEq, Repr

/-- Where the handling of an event is. -/
inductive Dispatch where
  /-- Before the executor and the flag of the entity are asked. -/
  | look
  /-- At the beginning of `dispatchEntity(e)`. -/
  | check
  | update (stage : Update)
  | stop (stage : Stop)
  deriving DecidableEq, Repr

/-- Where a call of `checkEndingCriteria(timestamp)` is, with what it has read. -/
inductive Evaluation where
  | load
  | state (runningThreads : UInt8)
  /-- In `getReadyCount()`, before a queue. -/
  | count (runningThreads : UInt8) (index : Nat) (readyCount : BitVec 32)
  | events (runningThreads : UInt8)
  deriving DecidableEq, Repr

/-- Where the dispatcher thread is. -/
inductive DispatcherPhase where
  /-- The thread is not created. -/
  | idle
  | head
  | events
  | pop
  | dispatch (entity : Nat) (stage : Dispatch)
  | evaluate (stage : Evaluation)
  /-- Waiting for the next event. -/
  | wait
  /-- Waiting for an event before stopping. -/
  | timedWait
  /-- In the second evaluation, with `internal_event_notification_mutex_` held. -/
  | confirm (stage : Evaluation)
  | mark
  /-- Waiting for the ready queues to become empty, before a queue. -/
  | drain (index : Nat)
  | stop (stage : Stop)
  | join
  | finished
  deriving DecidableEq, Repr

/-- Where a worker thread is. -/
inductive WorkerPhase where
  /-- Before the running count is decreased. -/
  | sleep
  | wait
  /-- With a job from the ready queue. -/
  | popped (eid : Uid)
  /-- Before the running count is increased. -/
  | raise (entity : Nat)
  | acquire (entity : Nat)
  | update (entity : Nat) (stage : Update)
  /-- In `executeEntity`. -/
  | execute (entity : Nat)
  | release (entity : Nat)
  /-- Before `state_` is read. -/
  | report (entity : Nat)
  | notify (eid : Uid) (failed : Bool)
  | stop (stage : Stop)
  /-- After a failure, before the running count is decreased. -/
  | lower
  | exited
  deriving DecidableEq, Repr

/-- Where the thread for external events is. -/
inductive AsyncPhase where
  /-- The thread is not created. -/
  | idle
  | head
  | events
  | pop
  | dispatch (entity : Nat) (stage : Dispatch)
  | evaluate (stage : Evaluation)
  | notify
  | wait
  | exited
  deriving DecidableEq, Repr

/-- Where the thread is that stops after the maximum duration. -/
inductive MaxDurationPhase where
  /-- The thread is not created. -/
  | idle
  | wait
  | stop (stage : Stop)
  | exited
  deriving DecidableEq, Repr

/-- Where `runAsync_abi()` is. -/
inductive MainPhase where
  | idle
  | start (index : Nat)
  /-- Before a worker thread is created, with those still to create. -/
  | create (threads : List Uid)
  /-- Between the creation of a worker thread and its count. -/
  | count (threads : List Uid)
  | done
  deriving DecidableEq, Repr

/-- Where a call from outside is. -/
inductive Caller where
  | update (entity : Nat) (stage : Update)
  /-- At the end of `schedule_abi`. -/
  | register (entity : Nat)
  | stop (stage : Stop)
  | notify
  /-- At the end of `stop_abi`. -/
  | join
  | returned
  deriving DecidableEq, Repr

/-- A worker thread. -/
structure Worker where
  thread : Uid
  phase : WorkerPhase
  deriving DecidableEq, Repr

/-- What a step reports. -/
inductive Report where
  /-- The step has to wait for another one. -/
  | blocked
  /-- A job came into a ready queue. -/
  | inserted (index : Nat)
  /-- A worker got a job from its ready queue. -/
  | handedOut (eid : Uid)
  /-- `checkEndingCriteria` returned. -/
  | verdict (shouldStop : Bool)
  /-- A call from outside returned. -/
  | returned (result : GxfResult)
  /-- The process was aborted. -/
  | aborted
  /-- Any other step. -/
  | progressed
  deriving DecidableEq, Repr

/-- The parameters, and what the application says about its entities and thread pools. -/
structure Setting where
  stopOnDeadlock : Bool
  workerThreadNumber : Nat
  hasCodelets : Uid → Except GxfResult Bool
  /-- The thread pool with a thread for the entity. -/
  pinnedPool : Uid → Option Nat
  poolThreads : Nat → List Uid

/-- What a step reads from outside: the clock, the answers of the executor, and whether
a wait is over by time. -/
structure Outside where
  now : Int
  busy : Bool
  checked : Except GxfResult SchedulingCondition
  executed : Except GxfResult SchedulingCondition
  timeout : Bool

end EventBasedScheduler

open EventBasedScheduler

/-- The fields of the scheduler, and where its threads are.  An entity is addressed by the
number of its `ScheduleEntity`. -/
structure EventBasedScheduler (heap : PriorityQueue (Item Uid) itemPriorityCmp) where
  aborted : Bool
  readyWaitTimeJobs : List (TimedJobList Uid heap)
  threadQueueMapping : Table Uid Nat
  threadPoolSet : List Nat
  objects : Nat → ScheduleEntity
  allocated : Nat
  entities : Uid → Option Nat
  eventWaiting : UniqueEventList Uid
  waiting : UniqueEventList Uid
  externalEventNotified : UniqueEventList Uid
  internalEventNotified : UniqueEventList Uid
  runningThreads : UInt8
  state : State
  threadErrorCode : GxfResult
  main : MainPhase
  dispatcher : DispatcherPhase
  async : AsyncPhase
  maxDuration : MaxDurationPhase
  workers : List Worker
  callers : List Caller

namespace EventBasedScheduler

variable {heap : PriorityQueue (Item Uid) itemPriorityCmp}

/-- A step of a part of a thread, and what comes next there. -/
structure Turn (heap : PriorityQueue (Item Uid) itemPriorityCmp) (Next : Type) where
  scheduler : EventBasedScheduler heap
  next : Next
  report : Report

/-- `ScheduleEntity(eid, name)`, in a queue. -/
def ScheduleEntity.create (eid : Uid) (queueIndex : Nat) : ScheduleEntity where
  queueIndex
  eid
  condition := ⟨.READY, 0⟩
  acquired := false
  unschedule := false
  isPresentInReadyQueue := false
  locked := false

/-- `thread_queue_mapping_.insert(thread, index)`, which fails for a known thread and for
want of room. -/
def insertThread (mapping : Table Uid Nat) (thread : Uid) (index : Nat) : Table Uid Nat :=
  if thread ∈ mapping ∨ kMaxThreads ≤ mapping.keys.length then mapping
  else mapping.insert thread index

/-- `thread_queue_mapping_[thread]`, which creates an entry when it is missing and there
is room for it. -/
def threadQueue (mapping : Table Uid Nat) (thread : Uid) : Option (Nat × Table Uid Nat) :=
  match mapping.lookup thread with
  | some index => some (index, mapping)
  | none =>
      if kMaxThreads ≤ mapping.keys.length then none else some (0, mapping.insert thread 0)

def defaultThreads (setting : Setting) : List Uid :=
  (List.range setting.workerThreadNumber).map fun thread => (thread : Int)

/-- The scheduler after `initialize()`. -/
def init (heap : PriorityQueue (Item Uid) itemPriorityCmp) (setting : Setting) :
    EventBasedScheduler heap where
  aborted := false
  readyWaitTimeJobs := [TimedJobList.create heap]
  threadQueueMapping := (defaultThreads setting).foldl
    (fun mapping thread => insertThread mapping thread kDefaultThreadPoolQueueIndex) ∅
  threadPoolSet := []
  objects := fun _ => ScheduleEntity.create kNullUid 0
  allocated := 0
  entities := fun _ => none
  eventWaiting := .create
  waiting := .create
  externalEventNotified := .create
  internalEventNotified := .create
  runningThreads := 0
  state := .kNotStarted
  threadErrorCode := .GXF_SUCCESS
  main := .idle
  dispatcher := .idle
  async := .idle
  maxDuration := .idle
  workers := []
  callers := []

def abort (scheduler : EventBasedScheduler heap) : EventBasedScheduler heap :=
  { scheduler with aborted := true }

/-- Some fields of an entity change. -/
def modifyEntity (scheduler : EventBasedScheduler heap) (entity : Nat)
    (change : ScheduleEntity → ScheduleEntity) : EventBasedScheduler heap :=
  { scheduler with
    objects := Function.update scheduler.objects entity (change (scheduler.objects entity)) }

/-- A ready queue is replaced. -/
def setJobs (scheduler : EventBasedScheduler heap) (index : Nat) (jobs : TimedJobList Uid heap) :
    EventBasedScheduler heap :=
  { scheduler with readyWaitTimeJobs := scheduler.readyWaitTimeJobs.set index jobs }

/-- An error code is stored. -/
def fail (scheduler : EventBasedScheduler heap) (code : GxfResult) : EventBasedScheduler heap :=
  { scheduler with threadErrorCode := code }

/-- Whether the dispatcher holds `internal_event_notification_mutex_`. -/
def holdsInternal : DispatcherPhase → Bool
  | .confirm _ | .mark | .drain _ | .stop _ => true
  | .idle | .head | .events | .pop | .dispatch .. | .evaluate _ | .wait | .timedWait | .join
  | .finished => false

/-- `notifyDispatcher(eid)`, with whether the event could be pushed. -/
def notifyDispatcher (scheduler : EventBasedScheduler heap) (eid : Uid) :
    EventBasedScheduler heap × Bool :=
  if holdsInternal scheduler.dispatcher then (scheduler, false)
  else
    ({ scheduler with
        internalEventNotified := (scheduler.internalEventNotified.pushEvent eid).1 }, true)

/-- An entity leaves the list of a condition. -/
def removeWaiting (scheduler : EventBasedScheduler heap) (type : SchedulingConditionType)
    (eid : Uid) : EventBasedScheduler heap :=
  match type with
  | .WAIT_EVENT => { scheduler with eventWaiting := scheduler.eventWaiting.removeEvent eid }
  | .WAIT => { scheduler with waiting := scheduler.waiting.removeEvent eid }
  | .NEVER | .READY | .WAIT_TIME => scheduler

/-- The section of `updateCondition` that puts an entity into its ready queue, with the
mutex of the entity held from here on. -/
def insertJob (scheduler : EventBasedScheduler heap) (entity : Nat)
    (nextCondition : SchedulingCondition) : Turn heap (Option Update) :=
  let e := scheduler.objects entity
  if e.locked then ⟨scheduler, some (.place nextCondition), .blocked⟩
  else
    match scheduler.readyWaitTimeJobs[e.queueIndex]? with
    | none => ⟨scheduler.abort, none, .aborted⟩
    | some jobs =>
        let inserted := jobs.insert ⟨e.eid, nextCondition.targetTimestamp, kMaxSlipNs, 1⟩
        ⟨(scheduler.setJobs e.queueIndex inserted.1).modifyEntity entity fun e =>
            { e with locked := true },
          some .present, if inserted.2 then .inserted e.queueIndex else .progressed⟩

/-- The next step of `updateCondition(e, next_condition)`. -/
def updateCondition (scheduler : EventBasedScheduler heap) (entity : Nat) :
    Update → Turn heap (Option Update)
  | .remove nextCondition =>
      let e := scheduler.objects entity
      let removed :=
        if nextCondition.type ≠ e.condition.type then
          scheduler.removeWaiting e.condition.type e.eid
        else scheduler
      ⟨removed.modifyEntity entity fun e => { e with condition := nextCondition },
        some (.place nextCondition), .progressed⟩
  | .place nextCondition =>
      let eid := (scheduler.objects entity).eid
      match nextCondition.type with
      | .READY | .WAIT_TIME => scheduler.insertJob entity nextCondition
      | .WAIT_EVENT =>
          ⟨{ scheduler with eventWaiting := (scheduler.eventWaiting.pushEvent eid).1 }, none,
            .progressed⟩
      | .WAIT =>
          ⟨{ scheduler with waiting := (scheduler.waiting.pushEvent eid).1 }, none, .progressed⟩
      | .NEVER =>
          ⟨{ scheduler with
              internalEventNotified := scheduler.internalEventNotified.removeEvent eid }, none,
            .progressed⟩
  | .present =>
      ⟨scheduler.modifyEntity entity fun e =>
          { e with isPresentInReadyQueue := true, locked := false }, none, .progressed⟩

/-- The next step of `stopAllJobs()`. -/
def stopAllJobs (scheduler : EventBasedScheduler heap) : Stop → Turn heap (Option Stop)
  | .mark => ⟨{ scheduler with state := .kStopping }, some (.queue 0), .progressed⟩
  | .queue index =>
      match scheduler.readyWaitTimeJobs[index]? with
      | some jobs =>
          ⟨scheduler.setJobs index { jobs with isRunning := false }, some (.queue (index + 1)),
            .progressed⟩
      | none => ⟨scheduler, some .externalEvents, .progressed⟩
  | .externalEvents =>
      ⟨{ scheduler with externalEventNotified := .create }, some .waitingEvents, .progressed⟩
  | .waitingEvents => ⟨{ scheduler with eventWaiting := .create }, none, .progressed⟩

/-- The next step after an event is popped, up to the end of `dispatchEntity(e)`. -/
def dispatchEntity (scheduler : EventBasedScheduler heap) (entity : Nat) (outside : Outside) :
    Dispatch → Turn heap (Option Dispatch)
  | .look =>
      let e := scheduler.objects entity
      if outside.busy then ⟨scheduler, none, .progressed⟩
      else if e.locked then ⟨scheduler, some .look, .blocked⟩
      else if e.isPresentInReadyQueue then ⟨scheduler, none, .progressed⟩
      else ⟨scheduler, some .check, .progressed⟩
  | .check =>
      if (scheduler.objects entity).unschedule then
        ⟨scheduler, some (.update (.remove ⟨.NEVER, 0⟩)), .progressed⟩
      else
        match outside.checked with
        | .error code => ⟨scheduler.fail code, some (.stop .mark), .progressed⟩
        | .ok condition => ⟨scheduler, some (.update (.remove condition)), .progressed⟩
  | .update stage =>
      let turn := scheduler.updateCondition entity stage
      ⟨turn.scheduler, turn.next.map .update, turn.report⟩
  | .stop stage =>
      let turn := scheduler.stopAllJobs stage
      ⟨turn.scheduler, turn.next.map .stop, turn.report⟩

/-- The next step of `checkEndingCriteria(timestamp)`, or what it returns. -/
def checkEndingCriteria (scheduler : EventBasedScheduler heap) (setting : Setting) :
    Evaluation → Evaluation ⊕ Bool
  | .load => .inl (.state scheduler.runningThreads)
  | .state runningThreads =>
      if scheduler.state = .kRunning ∧ setting.stopOnDeadlock = true then
        .inl (.count runningThreads 0 0)
      else .inr false
  | .count runningThreads index readyCount =>
      match scheduler.readyWaitTimeJobs[index]? with
      | some jobs =>
          .inl (.count runningThreads (index + 1) (readyCount + BitVec.ofNat 32 jobs.size))
      | none => if readyCount = 0 then .inl (.events runningThreads) else .inr false
  | .events runningThreads =>
      .inr (decide (scheduler.eventWaiting.size = 0 ∧ runningThreads = 0))

/-- The next step of `workerThreadEntrance(pool, thread_number)`. -/
def workerThreadEntrance (scheduler : EventBasedScheduler heap) (thread : Uid)
    (outside : Outside) : WorkerPhase → Turn heap WorkerPhase
  | .sleep =>
      ⟨{ scheduler with runningThreads := scheduler.runningThreads - 1 }, .wait, .progressed⟩
  | .wait =>
      match threadQueue scheduler.threadQueueMapping thread with
      | none => ⟨scheduler.abort, .wait, .aborted⟩
      | some (index, threadQueueMapping) =>
          match scheduler.readyWaitTimeJobs[index]? with
          | none => ⟨scheduler.abort, .wait, .aborted⟩
          | some jobs =>
              let (jobs, answer) := jobs.waitForJob outside.now
              let waited := { scheduler with threadQueueMapping }.setJobs index jobs
              match answer with
              | .handedOut eid =>
                  if eid = kNullUid then ⟨waited, .exited, .progressed⟩
                  else ⟨waited, .popped eid, .handedOut eid⟩
              | .stopped => ⟨waited, .exited, .progressed⟩
              | .done | .inserted _ | .waits _ | .failed _ => ⟨waited, .wait, .progressed⟩
  | .popped eid =>
      match scheduler.entities eid with
      | none => ⟨scheduler.abort, .popped eid, .aborted⟩
      | some entity =>
          if (scheduler.objects entity).locked then ⟨scheduler, .popped eid, .blocked⟩
          else
            ⟨scheduler.modifyEntity entity fun e => { e with isPresentInReadyQueue := false },
              .raise entity, .progressed⟩
  | .raise entity =>
      ⟨{ scheduler with runningThreads := scheduler.runningThreads + 1 }, .acquire entity,
        .progressed⟩
  | .acquire entity =>
      let e := scheduler.objects entity
      if e.acquired then ⟨scheduler, .sleep, .progressed⟩
      else
        ⟨scheduler.modifyEntity entity fun e => { e with acquired := true },
          if e.unschedule then .update entity (.remove ⟨.NEVER, 0⟩) else .execute entity,
          .progressed⟩
  | .update entity stage =>
      let turn := scheduler.updateCondition entity stage
      ⟨turn.scheduler, turn.next.elim .sleep (.update entity), turn.report⟩
  | .execute entity =>
      match outside.executed with
      | .error code => ⟨scheduler.fail code, .stop .mark, .progressed⟩
      | .ok _ => ⟨scheduler, .release entity, .progressed⟩
  | .release entity =>
      ⟨scheduler.modifyEntity entity fun e => { e with acquired := false }, .report entity,
        .progressed⟩
  | .report entity =>
      ⟨scheduler,
        if scheduler.state = .kRunning then .notify (scheduler.objects entity).eid false
        else .sleep, .progressed⟩
  | .notify eid failed =>
      let (notified, pushed) := scheduler.notifyDispatcher eid
      if pushed then ⟨notified, if failed then .lower else .sleep, .progressed⟩
      else ⟨notified, .notify eid failed, .blocked⟩
  | .stop stage =>
      let turn := scheduler.stopAllJobs stage
      ⟨turn.scheduler, turn.next.elim (.notify kNullUid true) .stop, turn.report⟩
  | .lower =>
      ⟨{ scheduler with runningThreads := scheduler.runningThreads - 1 }, .exited, .progressed⟩
  | .exited => ⟨scheduler, .exited, .blocked⟩

/-- The next step of a worker thread. -/
def worker (scheduler : EventBasedScheduler heap) (index : Nat) (outside : Outside) :
    EventBasedScheduler heap × Report :=
  match scheduler.workers[index]? with
  | none => (scheduler, .blocked)
  | some worker =>
      let turn := scheduler.workerThreadEntrance worker.thread outside worker.phase
      ({ turn.scheduler with
          workers := scheduler.workers.set index ⟨worker.thread, turn.next⟩ }, turn.report)

/-- `!internal_event_notified_->empty() || state_ != State::kRunning`. -/
def internalPending (scheduler : EventBasedScheduler heap) : Bool :=
  !scheduler.internalEventNotified.empty || decide (scheduler.state ≠ .kRunning)

/-- `popEvent()`, with the entity of the event, if the event has one.  There is no answer
without an event or for an unknown entity. -/
def popEntity (scheduler : EventBasedScheduler heap) (events : UniqueEventList Uid) :
    Option (Option Nat × UniqueEventList Uid) :=
  match events.popEvent with
  | none => none
  | some (eid, rest) =>
      if eid = kNullUid then some (none, rest)
      else (scheduler.entities eid).map fun entity => (some entity, rest)

/-- Whether `stopAllThreads()` has nothing to wait for. -/
def joined (scheduler : EventBasedScheduler heap) : Bool :=
  scheduler.workers.all (fun worker => worker.phase = .exited) &&
    decide (scheduler.async = .exited) &&
    decide (scheduler.maxDuration = .idle ∨ scheduler.maxDuration = .exited)

/-- The next step of `dispatcherThreadEntrance()`. -/
def dispatcherThreadEntrance (scheduler : EventBasedScheduler heap) (setting : Setting)
    (outside : Outside) : DispatcherPhase → Turn heap DispatcherPhase
  | .idle => ⟨scheduler, .idle, .blocked⟩
  | .head => ⟨scheduler, if scheduler.state = .kRunning then .events else .join, .progressed⟩
  | .events =>
      ⟨scheduler, if scheduler.internalEventNotified.empty then .evaluate .load else .pop,
        .progressed⟩
  | .pop =>
      match scheduler.popEntity scheduler.internalEventNotified with
      | none => ⟨scheduler.abort, .pop, .aborted⟩
      | some (entity, internalEventNotified) =>
          ⟨{ scheduler with internalEventNotified },
            entity.elim .events fun entity => .dispatch entity .look, .progressed⟩
  | .dispatch entity stage =>
      let turn := scheduler.dispatchEntity entity outside stage
      ⟨turn.scheduler, turn.next.elim .events (.dispatch entity), turn.report⟩
  | .evaluate stage =>
      match scheduler.checkEndingCriteria setting stage with
      | .inl next => ⟨scheduler, .evaluate next, .progressed⟩
      | .inr shouldStop =>
          ⟨scheduler, if shouldStop then .timedWait else .wait, .verdict shouldStop⟩
  | .wait =>
      if scheduler.internalPending then ⟨scheduler, .head, .progressed⟩
      else ⟨scheduler, .wait, .blocked⟩
  | .timedWait =>
      if scheduler.internalPending then ⟨scheduler, .head, .progressed⟩
      else if outside.timeout then ⟨scheduler, .confirm .load, .progressed⟩
      else ⟨scheduler, .timedWait, .blocked⟩
  | .confirm stage =>
      match scheduler.checkEndingCriteria setting stage with
      | .inl next => ⟨scheduler, .confirm next, .progressed⟩
      | .inr shouldStop => ⟨scheduler, if shouldStop then .mark else .head, .verdict shouldStop⟩
  | .mark => ⟨{ scheduler with state := .kStopping }, .drain 0, .progressed⟩
  | .drain index =>
      match scheduler.readyWaitTimeJobs[index]? with
      | none => ⟨scheduler, .stop .mark, .progressed⟩
      | some jobs => ⟨scheduler, .drain (if jobs.empty then index + 1 else 0), .progressed⟩
  | .stop stage =>
      let turn := scheduler.stopAllJobs stage
      ⟨turn.scheduler, turn.next.elim .head .stop, turn.report⟩
  | .join =>
      if scheduler.joined then ⟨{ scheduler with state := .kStopped }, .finished, .progressed⟩
      else ⟨scheduler, .join, .blocked⟩
  | .finished => ⟨scheduler, .finished, .blocked⟩

/-- The next step of the dispatcher thread. -/
def dispatch (scheduler : EventBasedScheduler heap) (setting : Setting) (outside : Outside) :
    EventBasedScheduler heap × Report :=
  let turn := scheduler.dispatcherThreadEntrance setting outside scheduler.dispatcher
  ({ turn.scheduler with dispatcher := turn.next }, turn.report)

/-- `!external_event_notified_->empty() || state_ != State::kRunning`. -/
def externalPending (scheduler : EventBasedScheduler heap) : Bool :=
  !scheduler.externalEventNotified.empty || decide (scheduler.state ≠ .kRunning)

/-- The next step of `asyncEventThreadEntrance()`.  An evaluation follows when the entity
was dispatched. -/
def asyncEventThreadEntrance (scheduler : EventBasedScheduler heap) (setting : Setting)
    (outside : Outside) : AsyncPhase → Turn heap AsyncPhase
  | .idle => ⟨scheduler, .idle, .blocked⟩
  | .head => ⟨scheduler, if scheduler.state = .kRunning then .events else .exited, .progressed⟩
  | .events =>
      ⟨scheduler, if scheduler.externalEventNotified.empty then .wait else .pop, .progressed⟩
  | .pop =>
      match scheduler.popEntity scheduler.externalEventNotified with
      | none => ⟨scheduler.abort, .pop, .aborted⟩
      | some (entity, externalEventNotified) =>
          ⟨{ scheduler with externalEventNotified },
            entity.elim .events fun entity => .dispatch entity .look, .progressed⟩
  | .dispatch entity stage =>
      let turn := scheduler.dispatchEntity entity outside stage
      let after := if stage = .look then .events else .evaluate .load
      ⟨turn.scheduler, turn.next.elim after (.dispatch entity), turn.report⟩
  | .evaluate stage =>
      match scheduler.checkEndingCriteria setting stage with
      | .inl next => ⟨scheduler, .evaluate next, .progressed⟩
      | .inr shouldStop =>
          ⟨scheduler, if shouldStop then .notify else .events, .verdict shouldStop⟩
  | .notify =>
      let (notified, pushed) := scheduler.notifyDispatcher kNullUid
      if pushed then ⟨notified, .events, .progressed⟩ else ⟨notified, .notify, .blocked⟩
  | .wait =>
      if scheduler.externalPending then ⟨scheduler, .head, .progressed⟩
      else ⟨scheduler, .wait, .blocked⟩
  | .exited => ⟨scheduler, .exited, .blocked⟩

/-- The next step of the thread for external events. -/
def asyncEvent (scheduler : EventBasedScheduler heap) (setting : Setting) (outside : Outside) :
    EventBasedScheduler heap × Report :=
  let turn := scheduler.asyncEventThreadEntrance setting outside scheduler.async
  ({ turn.scheduler with async := turn.next }, turn.report)

/-- The next step of the thread that stops after the maximum duration. -/
def maxDurationStep (scheduler : EventBasedScheduler heap) (outside : Outside) :
    EventBasedScheduler heap × Report :=
  match scheduler.maxDuration with
  | .idle | .exited => (scheduler, .blocked)
  | .wait =>
      ({ scheduler with maxDuration := if outside.timeout then .stop .mark else .exited },
        .progressed)
  | .stop stage =>
      let turn := scheduler.stopAllJobs stage
      ({ turn.scheduler with maxDuration := turn.next.elim .exited .stop }, turn.report)

/-! ## Calls from outside -/

/-- `prepareResourceMapStrict(e)` and the choice of the ready queue: a pinned entity has a
thread of its own name. -/
def assignQueue (scheduler : EventBasedScheduler heap) (setting : Setting) (eid : Uid) :
    EventBasedScheduler heap × Uid :=
  match setting.pinnedPool eid with
  | none => (scheduler, kDefaultThreadPoolThreadId)
  | some pool =>
      let pooled := { scheduler with threadPoolSet := scheduler.threadPoolSet.insert pool }
      if eid = kDefaultThreadPoolThreadId ∨ eid ∈ scheduler.threadQueueMapping then (pooled, eid)
      else
        ({ pooled with
            readyWaitTimeJobs := scheduler.readyWaitTimeJobs ++ [TimedJobList.create heap]
            threadQueueMapping := insertThread scheduler.threadQueueMapping eid
              scheduler.readyWaitTimeJobs.length }, eid)

/-- `schedule_abi(eid)`, up to the call of `updateCondition`. -/
def schedule (scheduler : EventBasedScheduler heap) (setting : Setting) (eid : Uid) (now : Int) :
    EventBasedScheduler heap × Report :=
  match setting.hasCodelets eid with
  | .error code => (scheduler, .returned code)
  | .ok false => (scheduler, .returned .GXF_SUCCESS)
  | .ok true =>
      let (assigned, thread) := scheduler.assignQueue setting eid
      match threadQueue assigned.threadQueueMapping thread with
      | none => (assigned.abort, .aborted)
      | some (queueIndex, threadQueueMapping) =>
          ({ assigned with
              threadQueueMapping
              objects := Function.update assigned.objects assigned.allocated
                (ScheduleEntity.create eid queueIndex)
              allocated := assigned.allocated + 1
              callers := assigned.callers ++ [.update assigned.allocated (.remove ⟨.READY, now⟩)] },
            .progressed)

/-- `unschedule_abi(eid)`. -/
def unschedule (scheduler : EventBasedScheduler heap) (setting : Setting) (eid : Uid) :
    EventBasedScheduler heap × Report :=
  match setting.hasCodelets eid with
  | .error code => (scheduler, .returned code)
  | .ok false => (scheduler, .returned .GXF_SUCCESS)
  | .ok true =>
      match scheduler.entities eid with
      | none => (scheduler.abort, .aborted)
      | some entity =>
          (scheduler.modifyEntity entity fun e => { e with unschedule := true },
            .returned .GXF_SUCCESS)

/-- `event_notify_abi(eid, event)`. -/
def eventNotify (scheduler : EventBasedScheduler heap) (eid : Uid) (event : GxfEvent) :
    EventBasedScheduler heap × Report :=
  if (scheduler.entities eid).isNone then (scheduler, .returned .GXF_SUCCESS)
  else if event = .GXF_EVENT_EXTERNAL then
    ({ scheduler with
        externalEventNotified := (scheduler.externalEventNotified.pushEvent eid).1 },
      .returned .GXF_SUCCESS)
  else
    let (notified, pushed) := scheduler.notifyDispatcher eid
    (notified, if pushed then .returned .GXF_SUCCESS else .blocked)

/-- The beginning of `stop_abi()`. -/
def stop (scheduler : EventBasedScheduler heap) : EventBasedScheduler heap × Report :=
  ({ scheduler with callers := scheduler.callers ++ [.stop .mark] }, .progressed)

/-- The next step of a call from outside. -/
def callerTurn (scheduler : EventBasedScheduler heap) : Caller → Turn heap Caller
  | .update entity stage =>
      let turn := scheduler.updateCondition entity stage
      ⟨turn.scheduler, turn.next.elim (.register entity) (.update entity), turn.report⟩
  | .register entity =>
      ⟨{ scheduler with
          entities := Function.update scheduler.entities (scheduler.objects entity).eid
            (some entity) }, .returned, .returned .GXF_SUCCESS⟩
  | .stop stage =>
      let turn := scheduler.stopAllJobs stage
      ⟨turn.scheduler, turn.next.elim .notify .stop, turn.report⟩
  | .notify =>
      let (notified, pushed) := scheduler.notifyDispatcher kNullUid
      if pushed then ⟨notified, .join, .progressed⟩ else ⟨notified, .notify, .blocked⟩
  | .join =>
      if (scheduler.dispatcher = .idle ∨ scheduler.dispatcher = .finished) ∧
          (scheduler.maxDuration = .idle ∨ scheduler.maxDuration = .exited) then
        ⟨scheduler, .returned, .returned scheduler.threadErrorCode⟩
      else ⟨scheduler, .join, .blocked⟩
  | .returned => ⟨scheduler, .returned, .blocked⟩

/-- A call from outside takes its next step. -/
def caller (scheduler : EventBasedScheduler heap) (index : Nat) :
    EventBasedScheduler heap × Report :=
  match scheduler.callers[index]? with
  | none => (scheduler, .blocked)
  | some caller =>
      let turn := scheduler.callerTurn caller
      ({ turn.scheduler with callers := turn.scheduler.callers.set index turn.next }, turn.report)

/-- The beginning of `runAsync_abi()`, after `prepare_abi` and with a clock. -/
def runAsync (scheduler : EventBasedScheduler heap) (setting : Setting) :
    EventBasedScheduler heap × Report :=
  if scheduler.main ≠ .idle then (scheduler, .returned .GXF_INVALID_LIFECYCLE_STAGE)
  else if setting.workerThreadNumber < 1 then (scheduler, .returned .GXF_PARAMETER_OUT_OF_RANGE)
  else ({ scheduler with state := .kRunning, main := .start 0 }, .progressed)

/-- The next step of `runAsync_abi()`.  The set of thread pools goes by address; here it
has some order. -/
def runAsyncStep (scheduler : EventBasedScheduler heap) (setting : Setting) :
    EventBasedScheduler heap × Report :=
  match scheduler.main with
  | .idle | .done => (scheduler, .blocked)
  | .start index =>
      match scheduler.readyWaitTimeJobs[index]? with
      | some jobs =>
          ({ scheduler.setJobs index { jobs with isRunning := true } with
              main := .start (index + 1) }, .progressed)
      | none =>
          ({ scheduler with
              dispatcher := .head
              async := .head
              main := .create (defaultThreads setting ++
                scheduler.threadPoolSet.flatMap setting.poolThreads) }, .progressed)
  | .create (thread :: threads) =>
      ({ scheduler with
          workers := scheduler.workers ++ [⟨thread, .sleep⟩]
          main := .count threads }, .progressed)
  | .create [] =>
      ({ scheduler with maxDuration := .wait, main := .done }, .returned .GXF_SUCCESS)
  | .count threads =>
      ({ scheduler with
          runningThreads := scheduler.runningThreads + 1
          main := .create threads }, .progressed)

/-- The steps of all threads. -/
inductive Op where
  | schedule (eid : Uid) (now : Int)
  | unschedule (eid : Uid)
  | eventNotify (eid : Uid) (event : GxfEvent)
  | runAsync
  | stop
  | main
  | caller (index : Nat)
  | worker (index : Nat) (outside : Outside)
  | dispatcher (outside : Outside)
  | async (outside : Outside)
  | maxDuration (outside : Outside)

/-- A step, unless the process was aborted. -/
def execute (scheduler : EventBasedScheduler heap) (setting : Setting) :
    Op → EventBasedScheduler heap × Report
  | .schedule eid now => scheduler.schedule setting eid now
  | .unschedule eid => scheduler.unschedule setting eid
  | .eventNotify eid event => scheduler.eventNotify eid event
  | .runAsync => scheduler.runAsync setting
  | .stop => scheduler.stop
  | .main => scheduler.runAsyncStep setting
  | .caller index => scheduler.caller index
  | .worker index outside => scheduler.worker index outside
  | .dispatcher outside => scheduler.dispatch setting outside
  | .async outside => scheduler.asyncEvent setting outside
  | .maxDuration outside => scheduler.maxDurationStep outside

/-- The scheduler as a system.  After an abort nothing happens any more. -/
def system (heap : PriorityQueue (Item Uid) itemPriorityCmp) (setting : Setting) :
    System (EventBasedScheduler heap) Op Report where
  step scheduler op :=
    if scheduler.aborted then (scheduler, .blocked) else scheduler.execute setting op

end EventBasedScheduler

end Gxf.Std
