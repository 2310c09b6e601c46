import Gxf.Std.MultiThreadScheduler.Conditions

/-!
# The threads of the multi-thread scheduler

A dispatcher decides what becomes of an entity, workers execute it, and a third thread hands
entities back that waited for an event.  A step is what a thread does under one lock, or one
call of the executor.  The steps of all threads interleave in any order.
-/

namespace Gxf.Std

open Gxf.Core Gxf.Lib TimedJobList

/-- What the dispatcher decided about an entity. -/
structure Verdict where
  eid : Uid
  now : Int
  condition : SchedulingCondition
  deriving DecidableEq, Repr

/-- Where the dispatcher thread is. -/
inductive DispatcherThread where
  /-- At the head of the loop. -/
  | looping
  /-- In `waitForJob`. -/
  | waiting
  /-- Before the unschedule requests are searched. -/
  | holding (eid : Uid)
  /-- Before a request that was found is removed. -/
  | requested (eid : Uid) (now : Int)
  /-- In `checkEntity`. -/
  | evaluating (eid : Uid) (now : Int)
  /-- Before `updateCondition`. -/
  | judged (verdict : Verdict)
  /-- Before the counters are read in `checkEndingCriteria`. -/
  | recorded (verdict : Verdict)
  /-- Before the scheduler stops for want of jobs. -/
  | stopping (verdict : Verdict)
  /-- Before the next of the jobs that are left is taken. -/
  | draining (verdict : Verdict)
  /-- In `checkEntity` for one of them. -/
  | rechecking (verdict : Verdict) (other : Uid)
  /-- Before that one goes to the workers. -/
  | rehanding (verdict : Verdict) (other : Uid)
  /-- Waiting until the workers have no jobs. -/
  | finishing (verdict : Verdict)
  /-- Before the maximum duration is compared. -/
  | timing (verdict : Verdict)
  /-- Before the entity is put somewhere. -/
  | placing (verdict : Verdict)
  | exited
  deriving DecidableEq, Repr

/-- Where a worker thread is. -/
inductive WorkerThread where
  /-- In `waitForJob`. -/
  | waiting
  /-- Before the unschedule requests are searched. -/
  | holding (eid : Uid)
  /-- Before a request that was found is removed. -/
  | requested (eid : Uid)
  /-- Before `updateCondition`. -/
  | removing (eid : Uid)
  /-- Before the pinning of the entity is compared. -/
  | matching (eid : Uid)
  /-- In `executeEntity`. -/
  | executing (eid : Uid)
  /-- Before `state_` is read. -/
  | returning (eid : Uid)
  /-- Before the entity goes back to the dispatcher. -/
  | inserting (eid : Uid)
  | exited
  deriving DecidableEq, Repr

/-- Where the thread is that matches notifications. -/
inductive AsyncThread where
  /-- Before `state_` is read. -/
  | checking
  /-- Before the notifications are exported. -/
  | exporting
  /-- Going through exported notifications. -/
  | comparing (notifications : List Uid)
  /-- Before an entity is removed from the waiting ones. -/
  | found (eid : Uid) (notifications : List Uid)
  /-- Before the notifications of the entity are removed. -/
  | removed (eid : Uid) (notifications : List Uid)
  /-- Before the entity goes back to the dispatcher. -/
  | handing (eid : Uid) (notifications : List Uid)
  /-- Waiting for the next notification. -/
  | sleeping
  | exited
  deriving DecidableEq, Repr

/-- The scheduler between `runAsync_abi()` and the end of its threads, with any number of
workers. -/
structure MultiThreadRun (heap : PriorityQueue (Item Uid) itemPriorityCmp) where
  scheduler : MultiThreadScheduler heap
  running : Bool
  dispatcher : DispatcherThread
  workers : Nat → WorkerThread
  async : AsyncThread

namespace MultiThreadRun

open MultiThreadScheduler

variable {heap : PriorityQueue (Item Uid) itemPriorityCmp}

/-- The parameters of the scheduler, and which entities have codelets. -/
structure Setting where
  hasCodelets : Uid → Bool
  stopOnDeadlock : Bool
  deadlockTimeout : Int
  recessionPeriodNs : Int

/-- What a thread reads from outside in a step: the clock, whether an entity was started, what
the executor answers, whether the entity is pinned to the worker, and whether the maximum
duration expired. -/
structure Input where
  now : Int := 0
  started : Bool := true
  condition : Except GxfResult SchedulingCondition := .ok ⟨.READY, 0⟩
  matched : Bool := true
  expired : Bool := false

/-- What a step reports. -/
inductive Report where
  /-- The step has to wait for another one. -/
  | blocked
  /-- A call returned. -/
  | returned (result : Except GxfResult Unit)
  /-- A job was put on a list, or refused. -/
  | inserted (accepted : Bool)
  /-- The dispatcher asks the executor about an entity. -/
  | asked (eid : Uid)
  /-- The executor answered the dispatcher. -/
  | answered (eid : Uid) (condition : Except GxfResult SchedulingCondition)
  /-- A request to unschedule an entity was accepted. -/
  | withdrawn (eid : Uid)
  /-- The executor answered a worker. -/
  | executed (eid : Uid) (condition : Except GxfResult SchedulingCondition)
  /-- Any other step. -/
  | progressed

/-- After `initialize()` and `runAsync_abi()`, when the lists of jobs are started.  What was
scheduled before is scheduled first. -/
def start (heap : PriorityQueue (Item Uid) itemPriorityCmp) : MultiThreadRun heap where
  scheduler :=
    { (MultiThreadScheduler.create heap).init with
      workerJobs := some { TimedJobList.create heap with isRunning := true }
      checkJobs := some { TimedJobList.create heap with isRunning := true } }
  running := true
  dispatcher := .looping
  workers := fun _ => .waiting
  async := .checking

/-- `insert(job, target_time, slack, priority)` on a list of the scheduler. -/
def insertJob (jobs : Option (TimedJobList Uid heap)) (item : Item Uid) :
    Option (TimedJobList Uid heap) × Bool :=
  (jobs.map fun list => (list.insert item).1, jobs.any fun list => (list.insert item).2)

/-- A turn of `waitForJob(job)` on a list of the scheduler.  A thread reads `kNullUid`, the id of
no entity, when the list was stopped. -/
def takeJob (jobs : Option (TimedJobList Uid heap)) (now : Int) :
    Option (TimedJobList Uid heap) × Answer Uid :=
  match jobs with
  | none => (none, .waits none)
  | some list => (some (list.waitForJob now).1, (list.waitForJob now).2)

/-- `popFront()` on a list of the scheduler. -/
def popJob (jobs : Option (TimedJobList Uid heap)) :
    Option (TimedJobList Uid heap) × Except GxfResult Uid :=
  match jobs with
  | none => (none, .error .GXF_FAILURE)
  | some list => (some list.popFront.1, list.popFront.2)

/-- `check_jobs_->insert(eid, target_time, kMaxSlipNs, 0)`. -/
def insertCheck (run : MultiThreadRun heap) (eid : Uid) (targetTime : Int) :
    MultiThreadRun heap × Report :=
  let inserted := insertJob run.scheduler.checkJobs ⟨eid, targetTime, kMaxSlipNs, 0⟩
  ({ run with scheduler := { run.scheduler with checkJobs := inserted.1 } }, .inserted inserted.2)

/-- `worker_jobs_->insert(eid, target_time, kMaxSlipNs, 1)`. -/
def insertWorker (run : MultiThreadRun heap) (eid : Uid) (targetTime : Int) :
    MultiThreadRun heap × Report :=
  let inserted := insertJob run.scheduler.workerJobs ⟨eid, targetTime, kMaxSlipNs, 1⟩
  ({ run with scheduler := { run.scheduler with workerJobs := inserted.1 } }, .inserted inserted.2)

/-- `hasEvent(item)` on a list of the scheduler. -/
def listed (events : Option (EventList Uid)) (eid : Uid) : Bool := events.any (·.hasEvent eid)

/-- `unschedule_entities_->removeEvent(eid)`. -/
def removeRequest (run : MultiThreadRun heap) (eid : Uid) : MultiThreadRun heap :=
  { run with
    scheduler :=
      { run.scheduler with
        unscheduleEntities := run.scheduler.unscheduleEntities.map (·.removeEvent eid) } }

/-- `updateCondition(eid, next_condition)`. -/
def update (run : MultiThreadRun heap) (eid : Uid) (condition : SchedulingCondition)
    (now : Int) : MultiThreadRun heap :=
  { run with scheduler := run.scheduler.updateCondition eid condition now }

/-- The beginning of `stopAllJobs()`. -/
def stopAllJobs (run : MultiThreadRun heap) : MultiThreadRun heap := { run with running := false }

/-- A thread stops all jobs for an error. -/
def fail (run : MultiThreadRun heap) (code : GxfResult) : MultiThreadRun heap :=
  { run with scheduler := { run.scheduler with threadErrorCode := code } }.stopAllJobs

/-- The calls in `stopAllJobs()` after `state_` is set. -/
inductive Halt where
  | checkJobs
  | workerJobs
  | eventNotified
  | eventWaiting
  | unscheduleEntities
  deriving DecidableEq, Repr

/-- One of the calls in `stopAllJobs()`.  They are steps of their own, in any order and at any
time after the scheduler has stopped. -/
def halt (run : MultiThreadRun heap) (call : Halt) : MultiThreadRun heap × Report :=
  if run.running then (run, .blocked)
  else
    let stopped (list : TimedJobList Uid heap) := { list with isRunning := false }
    let scheduler := match call with
      | .checkJobs => { run.scheduler with checkJobs := run.scheduler.checkJobs.map stopped }
      | .workerJobs => { run.scheduler with workerJobs := run.scheduler.workerJobs.map stopped }
      | .eventNotified =>
          { run.scheduler with eventNotified := run.scheduler.eventNotified.map fun _ => ⟨[]⟩ }
      | .eventWaiting =>
          { run.scheduler with eventWaiting := run.scheduler.eventWaiting.map fun _ => ⟨[]⟩ }
      | .unscheduleEntities =>
          { run.scheduler with
            unscheduleEntities := run.scheduler.unscheduleEntities.map fun _ => ⟨[]⟩ }
    ({ run with scheduler }, .progressed)

/-- `schedule_abi(eid)`, where `lookup` says whether the entity and its codelets were found. -/
def scheduleAbi (setting : Setting) (run : MultiThreadRun heap) (eid : Uid)
    (lookup : Except GxfResult Unit) (now : Int) : MultiThreadRun heap × Report :=
  match lookup with
  | .error code => (run, .returned (.error code))
  | .ok () =>
      if !setting.hasCodelets eid then (run, .returned (.ok ()))
      else if eid ∈ run.scheduler.conditions then
        (run.update eid ⟨.READY, now⟩ now, .returned (.ok ()))
      else
        -- A new entity: the job is put on the list inside of `updateCondition`.
        (run.update eid ⟨.READY, now⟩ now,
          .inserted (insertJob run.scheduler.checkJobs ⟨eid, now, kMaxSlipNs, 0⟩).2)

/-- `unschedule_abi(eid)`. -/
def unscheduleAbi (setting : Setting) (run : MultiThreadRun heap) (eid : Uid)
    (lookup : Except GxfResult Unit) : MultiThreadRun heap × Report :=
  match lookup with
  | .error code => (run, .returned (.error code))
  | .ok () =>
      if !setting.hasCodelets eid then (run, .returned (.ok ()))
      else
        ({ run with
            scheduler :=
              { run.scheduler with
                unscheduleEntities := run.scheduler.unscheduleEntities.map (·.pushEvent eid) } },
          .returned (.ok ()))

/-- `event_notify_abi(eid, event)`. -/
def eventNotifyAbi (run : MultiThreadRun heap) (eid : Uid) (event : GxfEvent) :
    MultiThreadRun heap × Report :=
  if event ≠ .GXF_EVENT_EXTERNAL then (run, .returned (.ok ()))
  else
    ({ run with
        scheduler :=
          { run.scheduler with
            eventNotified := run.scheduler.eventNotified.map (·.pushEvent eid) } },
      .returned (.ok ()))

/-- The `switch` at the end of the dispatcher's loop. -/
def place (setting : Setting) (run : MultiThreadRun heap) (verdict : Verdict) :
    MultiThreadRun heap × Report :=
  match verdict.condition.type with
  | .READY => run.insertWorker verdict.eid verdict.now
  | .WAIT_EVENT =>
      ({ run with
          scheduler :=
            { run.scheduler with
              eventWaiting := run.scheduler.eventWaiting.map (·.pushEvent verdict.eid) } },
        .progressed)
  | .WAIT_TIME => run.insertWorker verdict.eid verdict.condition.targetTimestamp
  | .WAIT => run.insertCheck verdict.eid (verdict.now + setting.recessionPeriodNs)
  | .NEVER => (run, .progressed)

/-- The next step of `dispatcherThreadEntrance()`. -/
def dispatch (setting : Setting) (run : MultiThreadRun heap) (input : Input) :
    MultiThreadRun heap × Report :=
  match run.dispatcher with
  | .exited => (run, .blocked)
  | .looping =>
      ({ run with dispatcher := if run.running then .waiting else .exited }, .progressed)
  | .waiting =>
      let taken := takeJob run.scheduler.checkJobs input.now
      let next := { run with scheduler := { run.scheduler with checkJobs := taken.1 } }
      match taken.2 with
      | .handedOut eid => ({ next with dispatcher := .holding eid }, .progressed)
      | .stopped => ({ next with dispatcher := .exited }, .progressed)
      | _ => (next, .blocked)
  | .holding eid =>
      if listed run.scheduler.unscheduleEntities eid then
        ({ run with dispatcher := .requested eid input.now }, .progressed)
      else if input.started then
        ({ run with dispatcher := .evaluating eid input.now }, .asked eid)
      else
        let verdict := ⟨eid, input.now, ⟨.READY, input.now⟩⟩
        ({ run with dispatcher := .judged verdict }, .progressed)
  | .requested eid now =>
      ({ run.removeRequest eid with dispatcher := .judged ⟨eid, now, ⟨.NEVER, 0⟩⟩ }, .withdrawn eid)
  | .evaluating eid now =>
      match input.condition with
      | .error code =>
          ({ run.fail code with dispatcher := .exited }, .answered eid (.error code))
      | .ok condition =>
          ({ run with dispatcher := .judged ⟨eid, now, condition⟩ }, .answered eid (.ok condition))
  | .judged verdict =>
      ({ run.update verdict.eid verdict.condition input.now with dispatcher := .recorded verdict },
        .progressed)
  | .recorded verdict =>
      let ending := run.scheduler.endingCriteria setting.stopOnDeadlock setting.deadlockTimeout
        input.now
      ({ run with
          scheduler := ending.2
          dispatcher := if ending.1 then .stopping verdict else .timing verdict }, .progressed)
  | .stopping verdict =>
      ({ run with running := false, dispatcher := .draining verdict }, .progressed)
  | .draining verdict =>
      let popped := popJob run.scheduler.checkJobs
      match popped.2 with
      | .ok other =>
          ({ run with
              scheduler := { run.scheduler with checkJobs := popped.1 }
              dispatcher := .rechecking verdict other }, .progressed)
      | .error _ => ({ run with dispatcher := .finishing verdict }, .progressed)
  | .rechecking verdict other =>
      match input.condition with
      | .error code =>
          ({ run with
              scheduler := { run.scheduler with threadErrorCode := code }
              dispatcher := .placing verdict }, .answered other (.error code))
      | .ok condition =>
          -- A job that is not ready is dropped.
          let dispatcher : DispatcherThread :=
            if condition.type = .READY then .rehanding verdict other else .draining verdict
          ({ run with dispatcher }, .answered other (.ok condition))
  | .rehanding verdict other =>
      { run with dispatcher := .draining verdict }.insertWorker other input.now
  | .finishing verdict =>
      if run.scheduler.workerJobs.all (·.empty) then
        ({ run.stopAllJobs with dispatcher := .placing verdict }, .progressed)
      else (run, .blocked)
  | .timing verdict =>
      let stopped := if input.expired then run.stopAllJobs else run
      ({ stopped with dispatcher := .placing verdict }, .progressed)
  | .placing verdict => { run with dispatcher := .looping }.place setting verdict

/-- A worker is at another point of its loop. -/
def goTo (run : MultiThreadRun heap) (worker : Nat) (point : WorkerThread) : MultiThreadRun heap :=
  { run with workers := Function.update run.workers worker point }

/-- The next step of `workerThreadEntrance(pool, thread_number)`. -/
def work (run : MultiThreadRun heap) (worker : Nat) (input : Input) :
    MultiThreadRun heap × Report :=
  match run.workers worker with
  | .exited => (run, .blocked)
  | .waiting =>
      let taken := takeJob run.scheduler.workerJobs input.now
      let next := { run with scheduler := { run.scheduler with workerJobs := taken.1 } }
      match taken.2 with
      | .handedOut eid => (next.goTo worker (.holding eid), .progressed)
      | .stopped => (next.goTo worker .exited, .progressed)
      | _ => (next, .blocked)
  | .holding eid =>
      if listed run.scheduler.unscheduleEntities eid then
        (run.goTo worker (.requested eid), .progressed)
      else (run.goTo worker (.matching eid), .progressed)
  | .requested eid => ((run.removeRequest eid).goTo worker (.removing eid), .withdrawn eid)
  | .removing eid =>
      ((run.update eid ⟨.NEVER, 0⟩ input.now).goTo worker .waiting, .progressed)
  | .matching eid =>
      let point : WorkerThread := if input.matched then .executing eid else .returning eid
      (run.goTo worker point, .progressed)
  | .executing eid =>
      match input.condition with
      | .error code => ((run.fail code).goTo worker .exited, .executed eid (.error code))
      | .ok condition => (run.goTo worker (.returning eid), .executed eid (.ok condition))
  | .returning eid =>
      let point : WorkerThread := if run.running then .inserting eid else .waiting
      (run.goTo worker point, .progressed)
  | .inserting eid => (run.goTo worker .waiting).insertCheck eid input.now

/-- The next step of `asyncEventThreadEntrance()`. -/
def matchEvents (run : MultiThreadRun heap) (input : Input) : MultiThreadRun heap × Report :=
  match run.async with
  | .exited => (run, .blocked)
  | .checking =>
      ({ run with async := if run.running then .exporting else .exited }, .progressed)
  | .exporting =>
      let notifications := (run.scheduler.eventNotified.map EventList.exportList).getD []
      ({ run with async := .comparing notifications }, .progressed)
  | .comparing [] => ({ run with async := .sleeping }, .progressed)
  | .comparing (eid :: rest) =>
      let async : AsyncThread :=
        if listed run.scheduler.eventWaiting eid then .found eid rest else .comparing rest
      ({ run with async }, .progressed)
  | .found eid rest =>
      ({ run with
          scheduler :=
            { run.scheduler with
              eventWaiting := run.scheduler.eventWaiting.map (·.removeEvent eid) }
          async := .removed eid rest }, .progressed)
  | .removed eid rest =>
      ({ run with
          scheduler :=
            { run.scheduler with
              eventNotified := run.scheduler.eventNotified.map (·.removeEvent eid) }
          async := .handing eid rest }, .progressed)
  | .handing eid rest => { run with async := .comparing rest }.insertCheck eid input.now
  | .sleeping =>
      if run.scheduler.eventNotified.any (!·.empty) || !run.running then
        ({ run with async := .checking }, .progressed)
      else (run, .blocked)

/-- A call from outside, or a step of a thread. -/
inductive Op where
  | schedule (eid : Uid) (lookup : Except GxfResult Unit) (now : Int)
  | unschedule (eid : Uid) (lookup : Except GxfResult Unit)
  | eventNotify (eid : Uid) (event : GxfEvent)
  | stop
  | halt (call : Halt)
  | dispatch (input : Input)
  | work (worker : Nat) (input : Input)
  | matchEvents (input : Input)

/-- All threads, and the calls from outside. -/
def system (setting : Setting) : System (MultiThreadRun heap) Op Report where
  step run
    | .schedule eid lookup now => run.scheduleAbi setting eid lookup now
    | .unschedule eid lookup => run.unscheduleAbi setting eid lookup
    | .eventNotify eid event => run.eventNotifyAbi eid event
    | .stop => (run.stopAllJobs, .returned (.ok ()))
    | .halt call => run.halt call
    | .dispatch input => run.dispatch setting input
    | .work worker input => run.work worker input
    | .matchEvents input => run.matchEvents input

end MultiThreadRun

end Gxf.Std
