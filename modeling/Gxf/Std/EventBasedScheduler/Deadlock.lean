import Gxf.Std.EventBasedScheduler.Scheduler

/-!
# Deadlock detection of the event based scheduler

`checkEndingCriteria` reads the running count, the ready queues and the waiting events
one after the other, while the other threads go on.  Its verdict is right in the runs in
which the running count is exact when it is read as zero, and nothing that an evaluation
has read as empty is filled before the evaluation ends.
-/

namespace Gxf.Std.EventBasedScheduler

open Gxf.Core Gxf.Lib TimedJobList

variable {heap : PriorityQueue (Item Uid) itemPriorityCmp}

/-- Whether a worker has taken an entity from a ready queue and not reported it back. -/
def WorkerPhase.holds : WorkerPhase → Bool
  | .popped _ | .raise _ | .acquire _ | .update .. | .execute _ | .release _ | .report _
  | .notify .. | .stop _ => true
  | .sleep | .wait | .lower | .exited => false

def WorkerPhase.counts : WorkerPhase → Bool
  | .sleep | .acquire _ | .update .. | .execute _ | .release _ | .report _ | .notify .. | .stop _
  | .lower => true
  | .wait | .popped _ | .raise _ | .exited => false

/-- No worker has an entity. -/
def NoneHeld (workers : List Worker) : Prop := ∀ worker ∈ workers, worker.phase.holds = false

/-- No worker has an entity, and no job is queued. -/
def Deadlocked (scheduler : EventBasedScheduler heap) : Prop :=
  NoneHeld scheduler.workers ∧ ∀ jobs ∈ scheduler.readyWaitTimeJobs, jobs.empty = true

/-- The scheduler is deadlocked whenever `checkEndingCriteria` returns true. -/
def VerdictSound (setting : Setting) (scheduler : EventBasedScheduler heap) (op : Op) : Prop :=
  ((system heap setting).step scheduler op).2 = .verdict true →
    Deadlocked ((system heap setting).step scheduler op).1

/-- Whether an evaluation can still return true. -/
def Evaluation.promising : Evaluation → Bool
  | .load => false
  | .state runningThreads | .events runningThreads => runningThreads = 0
  | .count runningThreads _ readyCount => runningThreads = 0 && readyCount = 0

/-- Whether an evaluation has read the size of a queue. -/
def Evaluation.hasCounted (index : Nat) : Evaluation → Bool
  | .load | .state _ => false
  | .count _ next _ => index < next
  | .events _ => true

/-- Whether a step fills what an evaluation has read as empty. -/
def Evaluation.outdatedBy (evaluation : Evaluation) : Report → Bool
  | .handedOut _ => evaluation.promising
  | .inserted index => evaluation.promising && evaluation.hasCounted index
  | .blocked | .verdict _ | .returned _ | .aborted | .progressed => false

def DispatcherPhase.evaluation : DispatcherPhase → Option Evaluation
  | .evaluate stage | .confirm stage => some stage
  | .idle | .head | .events | .pop | .dispatch .. | .wait | .timedWait | .mark | .drain _
  | .stop _ | .join | .finished => none

/-- The evaluation of the thread for external events. -/
def AsyncPhase.evaluation : AsyncPhase → Option Evaluation
  | .evaluate stage => some stage
  | .idle | .head | .events | .pop | .dispatch .. | .notify | .wait | .exited => none

def evaluations (scheduler : EventBasedScheduler heap) : List Evaluation :=
  scheduler.dispatcher.evaluation.toList ++ scheduler.async.evaluation.toList

/-- The evaluation that a step goes on with. -/
def evaluationOf (scheduler : EventBasedScheduler heap) : Op → Option Evaluation
  | .dispatcher _ => scheduler.dispatcher.evaluation
  | .async _ => scheduler.async.evaluation
  | .schedule .. | .unschedule _ | .eventNotify .. | .runAsync | .stop | .main | .caller _
  | .worker .. | .maxDuration _ => none

/-- The number of worker threads that are created and not counted. -/
def MainPhase.uncounted : MainPhase → Nat
  | .count _ => 1
  | .idle | .start _ | .create _ | .done => 0

/-- The number of workers with a part of the running count. -/
def raised (workers : List Worker) : Nat := workers.countP fun worker => worker.phase.counts

/-- The running count has a part for every worker with an entity: none is between taking
it and raising the count, no new worker is uncounted, and the count has no overflow. -/
def Exact (scheduler : EventBasedScheduler heap) : Prop :=
  (∀ worker ∈ scheduler.workers, worker.phase.holds = true → worker.phase.counts = true) ∧
    scheduler.main.uncounted = 0 ∧ raised scheduler.workers < 256

/-- What an evaluation relies on in its next step: an exact running count when it is read
as zero, and a sum of the queue sizes within the range of an `int`. -/
def Reliable (scheduler : EventBasedScheduler heap) : Option Evaluation → Prop
  | some .load => scheduler.runningThreads = 0 → Exact scheduler
  | some (.count _ index readyCount) =>
      ∀ jobs ∈ scheduler.readyWaitTimeJobs[index]?, readyCount.toNat + jobs.size < 4294967296
  | some (.state _) | some (.events _) | none => True

/-- A step is reliable for the evaluation it goes on with and fills nothing that another
evaluation has read as empty. -/
def Undisturbed (setting : Setting) (scheduler : EventBasedScheduler heap) (op : Op) : Prop :=
  Reliable scheduler (evaluationOf scheduler op) ∧ ∀ evaluation ∈ evaluations scheduler,
      evaluation.outdatedBy ((system heap setting).step scheduler op).2 = false

instance (workers : List Worker) : Decidable (NoneHeld workers) :=
  inferInstanceAs (Decidable (∀ _ ∈ _, _))

instance (scheduler : EventBasedScheduler heap) : Decidable (Deadlocked scheduler) :=
  inferInstanceAs (Decidable (_ ∧ _))

instance (scheduler : EventBasedScheduler heap) : Decidable (Exact scheduler) :=
  inferInstanceAs (Decidable (_ ∧ _))

instance (scheduler : EventBasedScheduler heap) :
    (evaluation : Option Evaluation) → Decidable (Reliable scheduler evaluation)
  | some .load => inferInstanceAs (Decidable (_ → _))
  | some (.count _ index readyCount) =>
      inferInstanceAs (Decidable (∀ jobs ∈ scheduler.readyWaitTimeJobs[index]?,
        readyCount.toNat + jobs.size < 4294967296))
  | some (.state _) | some (.events _) | none => isTrue trivial

instance (setting : Setting) (scheduler : EventBasedScheduler heap) (op : Op) :
    Decidable (Undisturbed setting scheduler op) :=
  inferInstanceAs (Decidable (_ ∧ _))

instance (setting : Setting) (scheduler : EventBasedScheduler heap) (op : Op) :
    Decidable (VerdictSound setting scheduler op) :=
  inferInstanceAs (Decidable (_ → _))

/-! ## Ready queues -/

/-- How the ready queues change in a step: they stay consistent, and only an insertion
fills an empty one. -/
structure QueueStep (before after : List (TimedJobList Uid heap)) (report : Report) : Prop where
  consistent : (∀ (index : Nat) jobs, before[index]? = some jobs → Consistent jobs) →
    ∀ (index : Nat) jobs, after[index]? = some jobs → Consistent jobs
  empty : ∀ index : Nat, report ≠ .inserted index →
    (∀ jobs, before[index]? = some jobs → jobs.empty = true) →
      ∀ jobs, after[index]? = some jobs → jobs.empty = true

namespace QueueStep

variable {queues : List (TimedJobList Uid heap)} {jobs next : TimedJobList Uid heap}
variable {report : Report} {index : Nat}

theorem refl : QueueStep queues queues report := ⟨id, fun _ _ => id⟩

theorem set (stored : queues[index]? = some jobs) (consistent : Consistent jobs → Consistent next)
    (empty : report ≠ .inserted index → jobs.empty = true → next.empty = true) :
    QueueStep queues (queues.set index next) report := by
  constructor
  · intro before position others listed
    rw [List.getElem?_set] at listed
    split at listed
    next same =>
      split at listed
      next => exact Option.some.inj listed ▸ consistent (before index jobs stored)
      next => cases listed
    next => exact before position others listed
  · intro position notInserted before others listed
    rw [List.getElem?_set] at listed
    split at listed
    next same =>
      subst same
      split at listed
      next => exact Option.some.inj listed ▸ empty notInserted (before jobs stored)
      next => cases listed
    next => exact before others listed

theorem append : QueueStep queues (queues ++ [TimedJobList.create heap]) report := by
  have isNew {position : Nat} {others : TimedJobList Uid heap}
      (listed : (queues ++ [TimedJobList.create heap])[position]? = some others) :
      queues[position]? = some others ∨ others = TimedJobList.create heap := by
    rw [List.getElem?_append] at listed
    split at listed
    next => exact .inl listed
    next => exact .inr (List.mem_singleton.mp (List.mem_of_getElem? listed))
  constructor
  · intro before position others listed
    cases isNew listed with
    | inl old => exact before position others old
    | inr new => exact new ▸ Consistent.create
  · intro position _ before others listed
    cases isNew listed with
    | inl old => exact before others old
    | inr new =>
        rw [new, empty_iff_waiting]
        exact waiting_create

end QueueStep

/-- A step of a part of a thread leaves the workers and the evaluations alone and returns
no verdict. -/
structure Carries (before after : EventBasedScheduler heap) (report : Report) : Prop where
  workers : after.workers = before.workers
  uncounted : after.main.uncounted = before.main.uncounted
  dispatcher : after.dispatcher = before.dispatcher
  async : after.async = before.async
  queues : QueueStep before.readyWaitTimeJobs after.readyWaitTimeJobs report
  noVerdict : ∀ shouldStop, report ≠ .verdict shouldStop

/-- The step hands out no job either, and the running count stays. -/
structure Local (before after : EventBasedScheduler heap) (report : Report) : Prop
    extends Carries before after report where
  runningThreads : after.runningThreads = before.runningThreads
  noJob : ∀ eid, report ≠ .handedOut eid

variable {before after : EventBasedScheduler heap} {report : Report}

theorem Local.of_eq (workers : after.workers = before.workers)
    (uncounted : after.main.uncounted = before.main.uncounted)
    (dispatcher : after.dispatcher = before.dispatcher) (async : after.async = before.async)
    (runningThreads : after.runningThreads = before.runningThreads)
    (queues : after.readyWaitTimeJobs = before.readyWaitTimeJobs)
    (noVerdict : ∀ shouldStop, report ≠ .verdict shouldStop)
    (noJob : ∀ eid, report ≠ .handedOut eid) : Local before after report :=
  ⟨⟨workers, uncounted, dispatcher, async, queues ▸ .refl, noVerdict⟩, runningThreads, noJob⟩

theorem Local.andThen {middle : EventBasedScheduler heap}
    (step : Local before middle report) (workers : after.workers = middle.workers)
    (uncounted : after.main.uncounted = middle.main.uncounted)
    (dispatcher : after.dispatcher = middle.dispatcher) (async : after.async = middle.async)
    (runningThreads : after.runningThreads = middle.runningThreads)
    (queues : after.readyWaitTimeJobs = middle.readyWaitTimeJobs) : Local before after report where
  workers := workers.trans step.workers
  uncounted := uncounted.trans step.uncounted
  dispatcher := dispatcher.trans step.dispatcher
  async := async.trans step.async
  queues := queues ▸ step.queues
  noVerdict := step.noVerdict
  runningThreads := runningThreads.trans step.runningThreads
  noJob := step.noJob

section Parts

variable (scheduler : EventBasedScheduler heap)

theorem local_progressed : Local scheduler scheduler .progressed :=
  .of_eq rfl rfl rfl rfl rfl rfl nofun nofun

theorem local_blocked : Local scheduler scheduler .blocked :=
  .of_eq rfl rfl rfl rfl rfl rfl nofun nofun

theorem local_abort : Local scheduler scheduler.abort .aborted :=
  .of_eq rfl rfl rfl rfl rfl rfl nofun nofun

/-- A queue is started or stopped. -/
theorem local_setRunning {index : Nat} {jobs : TimedJobList Uid heap}
    (stored : scheduler.readyWaitTimeJobs[index]? = some jobs) (isRunning : Bool) :
    Local scheduler (scheduler.setJobs index { jobs with isRunning }) .progressed where
  workers := rfl
  uncounted := rfl
  dispatcher := rfl
  async := rfl
  queues := .set stored (fun consistent => consistent.congr rfl rfl) fun _ isEmpty => isEmpty
  noVerdict := nofun
  runningThreads := rfl
  noJob := nofun

theorem insertJob_local (entity : Nat) (nextCondition : SchedulingCondition) :
    Local scheduler (scheduler.insertJob entity nextCondition).scheduler
      (scheduler.insertJob entity nextCondition).report := by
  rw [insertJob]
  dsimp only
  split
  next => exact local_blocked scheduler
  next =>
    split
    next => exact local_abort scheduler
    next jobs stored =>
      refine ⟨⟨rfl, rfl, rfl, rfl, .set stored (fun consistent => consistent.insert _) ?_, ?_⟩,
        rfl, ?_⟩
      · intro notInserted isEmpty
        split at notInserted
        next => exact absurd rfl notInserted
        next refused => rwa [insert_of_refused (Bool.eq_false_iff.mpr refused)]
      · intro shouldStop
        split <;> nofun
      · intro eid
        split <;> nofun

theorem updateCondition_local (entity : Nat) (stage : Update) :
    Local scheduler (scheduler.updateCondition entity stage).scheduler
      (scheduler.updateCondition entity stage).report := by
  cases stage with
  | remove nextCondition =>
      rw [updateCondition]
      dsimp only
      split
      next => cases (scheduler.objects entity).condition.type <;>
          exact .of_eq rfl rfl rfl rfl rfl rfl nofun nofun
      next => exact .of_eq rfl rfl rfl rfl rfl rfl nofun nofun
  | place nextCondition =>
      rw [updateCondition]
      cases nextCondition.type with
      | READY | WAIT_TIME => exact insertJob_local scheduler entity nextCondition
      | WAIT_EVENT | WAIT | NEVER => exact .of_eq rfl rfl rfl rfl rfl rfl nofun nofun
  | present => exact .of_eq rfl rfl rfl rfl rfl rfl nofun nofun

theorem stopAllJobs_local (stage : Stop) : Local scheduler (scheduler.stopAllJobs stage).scheduler
      (scheduler.stopAllJobs stage).report := by
  cases stage with
  | queue index =>
      rw [stopAllJobs]
      split
      next jobs stored => exact local_setRunning scheduler stored false
      next => exact local_progressed scheduler
  | mark | externalEvents | waitingEvents => exact .of_eq rfl rfl rfl rfl rfl rfl nofun nofun

theorem dispatchEntity_local (entity : Nat) (outside : Outside) (stage : Dispatch) :
    Local scheduler (scheduler.dispatchEntity entity outside stage).scheduler
      (scheduler.dispatchEntity entity outside stage).report := by
  cases stage with
  | look =>
      rw [dispatchEntity]
      split
      next => exact local_progressed scheduler
      next =>
        split
        next => exact local_blocked scheduler
        next => split <;> exact local_progressed scheduler
  | check =>
      rw [dispatchEntity]
      split
      next => exact local_progressed scheduler
      next =>
        split
        next => exact .of_eq rfl rfl rfl rfl rfl rfl nofun nofun
        next => exact local_progressed scheduler
  | update stage => exact updateCondition_local scheduler entity stage
  | stop stage => exact stopAllJobs_local scheduler stage

theorem notifyDispatcher_local (eid : Uid) {report : Report}
    (noVerdict : ∀ shouldStop, report ≠ .verdict shouldStop)
    (noJob : ∀ eid, report ≠ .handedOut eid) :
    Local scheduler (scheduler.notifyDispatcher eid).1 report := by
  rw [notifyDispatcher]
  split <;> exact .of_eq rfl rfl rfl rfl rfl rfl noVerdict noJob

end Parts

/-! ## The running count -/

/-- The running count and the new worker that is not counted are the workers with a part
of the count, up to overflow. -/
def Counted (scheduler : EventBasedScheduler heap) : Prop :=
  (scheduler.runningThreads.toNat + scheduler.main.uncounted) % 256 = raised scheduler.workers % 256

theorem raised_set {workers : List Worker} {index : Nat} {worker : Worker}
    (stored : workers[index]? = some worker) (next : Worker) :
    raised (workers.set index next) + worker.phase.counts.toNat =
      raised workers + next.phase.counts.toNat := by
  induction workers generalizing index with
  | nil => cases stored
  | cons first rest ih =>
      cases index with
      | zero =>
          cases stored
          rw [List.set_cons_zero, raised, raised, List.countP_cons, List.countP_cons]
          cases next.phase.counts <;> cases worker.phase.counts <;> rfl
      | succ index =>
          have later := ih stored
          rw [raised, raised] at later
          rw [List.set_cons_succ, raised, raised, List.countP_cons, List.countP_cons]
          omega

/-- How a turn of a worker changes its part of the running count, and what it holds. -/
structure WorkerStep (scheduler : EventBasedScheduler heap) (phase : WorkerPhase)
    (turn : Turn heap WorkerPhase) : Prop where
  carries : Carries scheduler turn.scheduler turn.report
  count : (turn.scheduler.runningThreads.toNat + phase.counts.toNat) % 256 =
    (scheduler.runningThreads.toNat + turn.next.counts.toNat) % 256
  holds : turn.next.holds = true → (∀ eid, turn.report ≠ .handedOut eid) → phase.holds = true

variable {scheduler : EventBasedScheduler heap}

theorem WorkerStep.of_local {phase : WorkerPhase} {turn : Turn heap WorkerPhase}
    (local_ : Local scheduler turn.scheduler turn.report)
    (counts : turn.next.counts = phase.counts)
    (holds : turn.next.holds = true → phase.holds = true) : WorkerStep scheduler phase turn where
  carries := local_.toCarries
  count := by rw [local_.runningThreads, counts]
  holds := fun held _ => holds held

theorem toNat_lower (runningThreads : UInt8) :
    ((runningThreads - 1).toNat + 1) % 256 = runningThreads.toNat % 256 := by
  rw [UInt8.toNat_sub]
  have bound := runningThreads.toNat_lt
  change ((256 - 1 + runningThreads.toNat) % 256 + 1) % 256 = _
  omega

theorem toNat_raise (runningThreads : UInt8) :
    (runningThreads + 1).toNat % 256 = (runningThreads.toNat + 1) % 256 := by
  rw [UInt8.toNat_add]
  exact Nat.mod_mod _ _

section Turns

variable (scheduler : EventBasedScheduler heap) (outside : Outside)

theorem worker_wait (thread : Uid) :
    WorkerStep scheduler .wait (scheduler.workerThreadEntrance thread outside .wait) := by
  rw [workerThreadEntrance]
  split
  next => exact .of_local (local_abort scheduler) rfl id
  next index threadQueueMapping _ =>
    split
    next => exact .of_local (local_abort scheduler) rfl id
    next jobs stored =>
      have queues (report : Report) : QueueStep scheduler.readyWaitTimeJobs
            (scheduler.readyWaitTimeJobs.set index (jobs.waitForJob outside.now).1) report :=
        .set stored
          (fun consistent => (consistent_step jobs (.waitForJob outside.now) consistent trivial).1)
          fun _ isEmpty => empty_waitForJob isEmpty outside.now
      dsimp only
      split
      next eid _ =>
        split
        next => exact .of_local ⟨⟨rfl, rfl, rfl, rfl, queues _, nofun⟩, rfl, nofun⟩ rfl nofun
        next =>
          exact ⟨⟨rfl, rfl, rfl, rfl, queues _, nofun⟩, rfl, fun _ noJob => absurd rfl (noJob eid)⟩
      next => exact .of_local ⟨⟨rfl, rfl, rfl, rfl, queues _, nofun⟩, rfl, nofun⟩ rfl nofun
      all_goals
        exact .of_local ⟨⟨rfl, rfl, rfl, rfl, queues _, nofun⟩, rfl, nofun⟩ rfl id

theorem worker_notify (thread : Uid) (eid : Uid) (failed : Bool) :
    WorkerStep scheduler (.notify eid failed)
      (scheduler.workerThreadEntrance thread outside (.notify eid failed)) := by
  rw [workerThreadEntrance]
  dsimp only
  split
  next =>
    refine .of_local (notifyDispatcher_local scheduler eid nofun nofun) ?_ fun _ => rfl
    cases failed <;> rfl
  next => exact .of_local (notifyDispatcher_local scheduler eid nofun nofun) rfl id

theorem worker_acquire (thread : Uid) (entity : Nat) : WorkerStep scheduler (.acquire entity)
      (scheduler.workerThreadEntrance thread outside (.acquire entity)) := by
  rw [workerThreadEntrance]
  split
  next => exact .of_local (local_progressed scheduler) rfl nofun
  next =>
    refine .of_local (.of_eq rfl rfl rfl rfl rfl rfl nofun nofun) ?_ fun _ => rfl
    cases (scheduler.objects entity).unschedule <;> rfl

theorem worker_step (thread : Uid) (phase : WorkerPhase) :
    WorkerStep scheduler phase (scheduler.workerThreadEntrance thread outside phase) := by
  cases phase with
  | sleep | lower =>
      refine ⟨⟨rfl, rfl, rfl, rfl, .refl, nofun⟩, ?_, nofun⟩
      exact toNat_lower scheduler.runningThreads
  | wait => exact worker_wait scheduler outside thread
  | popped eid =>
      rw [workerThreadEntrance]
      split
      next => exact .of_local (local_abort scheduler) rfl id
      next =>
        split
        next => exact .of_local (local_blocked scheduler) rfl id
        next => exact .of_local (.of_eq rfl rfl rfl rfl rfl rfl nofun nofun) rfl fun _ => rfl
  | raise entity =>
      refine ⟨⟨rfl, rfl, rfl, rfl, .refl, nofun⟩, ?_, fun _ _ => rfl⟩
      exact toNat_raise scheduler.runningThreads
  | acquire entity => exact worker_acquire scheduler outside thread entity
  | update entity stage =>
      refine .of_local (updateCondition_local scheduler entity stage) ?_ fun _ => rfl
      rw [workerThreadEntrance]
      cases (scheduler.updateCondition entity stage).next <;> rfl
  | execute entity =>
      rw [workerThreadEntrance]
      cases outside.executed with
      | error code => exact .of_local (.of_eq rfl rfl rfl rfl rfl rfl nofun nofun) rfl fun _ => rfl
      | ok condition => exact .of_local (local_progressed scheduler) rfl fun _ => rfl
  | release entity => exact .of_local (.of_eq rfl rfl rfl rfl rfl rfl nofun nofun) rfl fun _ => rfl
  | report entity =>
      refine .of_local (local_progressed scheduler) ?_ fun _ => rfl
      rw [workerThreadEntrance]
      dsimp only
      split <;> rfl
  | notify eid failed => exact worker_notify scheduler outside thread eid failed
  | stop stage =>
      refine .of_local (stopAllJobs_local scheduler stage) ?_ fun _ => rfl
      rw [workerThreadEntrance]
      cases (scheduler.stopAllJobs stage).next <;> rfl
  | exited => exact .of_local (local_blocked scheduler) rfl id

end Turns

/-- What an evaluation that can still return true has found is still so. -/
def UpToDate (scheduler : EventBasedScheduler heap) (evaluation : Evaluation) : Prop :=
  evaluation.promising = true → NoneHeld scheduler.workers ∧
    ∀ (index : Nat) jobs, evaluation.hasCounted index = true →
      scheduler.readyWaitTimeJobs[index]? = some jobs → jobs.empty = true

/-- The ready queues are consistent, the running count is right up to overflow, and the
evaluations are up to date. -/
structure Watched (scheduler : EventBasedScheduler heap) : Prop where
  consistent : ∀ (index : Nat) jobs,
    scheduler.readyWaitTimeJobs[index]? = some jobs → Consistent jobs
  counted : Counted scheduler
  upToDate : ∀ evaluation ∈ evaluations scheduler, UpToDate scheduler evaluation

theorem mem_evaluations {evaluation : Evaluation} : evaluation ∈ evaluations scheduler ↔
      scheduler.dispatcher.evaluation = some evaluation ∨
        scheduler.async.evaluation = some evaluation := by
  rw [evaluations, List.mem_append, Option.mem_toList, Option.mem_toList]

section Invariant

variable {before after : EventBasedScheduler heap} {report : Report}

theorem UpToDate.step {evaluation : Evaluation} (upToDate : UpToDate before evaluation)
    (holders : (∀ eid, report ≠ .handedOut eid) → NoneHeld before.workers → NoneHeld after.workers)
    (queues : QueueStep before.readyWaitTimeJobs after.readyWaitTimeJobs report)
    (undisturbed : evaluation.outdatedBy report = false) : UpToDate after evaluation := by
  intro promising
  obtain ⟨noneHeld, empty⟩ := upToDate promising
  constructor
  · apply holders _ noneHeld
    rintro eid rfl
    rw [Evaluation.outdatedBy, promising] at undisturbed
    cases undisturbed
  · intro index jobs hasCounted
    refine queues.empty index ?_ (fun others => empty index others hasCounted) jobs
    rintro rfl
    rw [Evaluation.outdatedBy, promising, hasCounted] at undisturbed
    cases undisturbed

theorem Watched.step (watched : Watched before)
    (queues : QueueStep before.readyWaitTimeJobs after.readyWaitTimeJobs report)
    (counted : Counted after)
    (holders : (∀ eid, report ≠ .handedOut eid) → NoneHeld before.workers → NoneHeld after.workers)
    (undisturbed : ∀ evaluation ∈ evaluations before, evaluation.outdatedBy report = false)
    (isKnown : ∀ evaluation ∈ evaluations after,
      evaluation ∈ evaluations before ∨ UpToDate after evaluation) : Watched after where
  consistent := queues.consistent watched.consistent
  counted := counted
  upToDate evaluation listed := by
    cases isKnown evaluation listed with
    | inl known =>
        exact (watched.upToDate evaluation known).step holders queues (undisturbed evaluation known)
    | inr upToDate => exact upToDate

theorem Watched.local (watched : Watched before) (step : Local before after report)
    (undisturbed : ∀ evaluation ∈ evaluations before, evaluation.outdatedBy report = false) :
    Watched after := by
  refine watched.step step.queues ?_ (fun _ noneHeld => step.workers ▸ noneHeld) undisturbed ?_
  · rw [Counted, step.runningThreads, step.uncounted, step.workers]
    exact watched.counted
  · intro evaluation listed
    rw [mem_evaluations, step.dispatcher, step.async, ← mem_evaluations] at listed
    exact .inl listed

end Invariant

section Verdict

variable {scheduler : EventBasedScheduler heap} {setting : Setting}

theorem Watched.noneHeld (watched : Watched scheduler) (exact_ : Exact scheduler)
    (isZero : scheduler.runningThreads = 0) : NoneHeld scheduler.workers := by
  obtain ⟨holdersCount, allCounted, bound⟩ := exact_
  have counted := watched.counted
  rw [Counted, isZero, allCounted, Nat.mod_eq_of_lt bound] at counted
  have noneCounts := List.countP_eq_zero.mp counted.symm
  intro worker member
  by_contra held
  exact noneCounts worker member (holdersCount worker member (Bool.not_eq_false _ ▸ held))

theorem eq_zero_of_add {readyCount : BitVec 32} {size : Nat}
    (bound : readyCount.toNat + size < 4294967296)
    (isZero : readyCount + BitVec.ofNat 32 size = 0) : readyCount = 0 ∧ size = 0 := by
  have sum := congrArg BitVec.toNat isZero
  rw [BitVec.toNat_add, BitVec.toNat_ofNat, Nat.add_mod_mod] at sum
  change (readyCount.toNat + size) % 4294967296 = 0 at sum
  rw [Nat.mod_eq_of_lt bound] at sum
  refine ⟨BitVec.eq_of_toNat_eq ?_, by omega⟩
  change readyCount.toNat = 0
  omega

variable {stage : Evaluation}

theorem Watched.goesOn (watched : Watched scheduler) {next : Evaluation}
    (upToDate : UpToDate scheduler stage) (reliable : Reliable scheduler (some stage))
    (advanced : scheduler.checkEndingCriteria setting stage = .inl next) :
    UpToDate scheduler next := by
  cases stage with
  | load =>
      cases advanced
      intro promising
      exact ⟨watched.noneHeld (reliable (of_decide_eq_true promising))
        (of_decide_eq_true promising), nofun⟩
  | state runningThreads =>
      rw [checkEndingCriteria] at advanced
      split at advanced
      next =>
        cases advanced
        intro promising
        rw [Evaluation.promising, Bool.and_eq_true] at promising
        refine ⟨(upToDate promising.1).1, fun index _ hasCounted => ?_⟩
        have reached : index < 0 := of_decide_eq_true hasCounted
        exact absurd reached (Nat.not_lt_zero index)
      next => cases advanced
  | count runningThreads index readyCount =>
      rw [checkEndingCriteria] at advanced
      split at advanced
      next jobs stored =>
        cases advanced
        intro promising
        rw [Evaluation.promising, Bool.and_eq_true, decide_eq_true_eq, decide_eq_true_eq]
          at promising
        obtain ⟨wasZero, noSize⟩ := eq_zero_of_add (reliable jobs stored) promising.2
        obtain ⟨noneHeld, empty⟩ := upToDate
          (by rw [Evaluation.promising, promising.1, wasZero]; rfl)
        refine ⟨noneHeld, fun position others hasCounted listed => ?_⟩
        have reached : position < index + 1 := of_decide_eq_true hasCounted
        by_cases here : position = index
        · rw [here, stored] at listed
          cases listed
          exact (watched.consistent index jobs stored).size_eq_zero_iff.mp noSize
        · exact empty position others (decide_eq_true (by omega)) listed
      next beyond =>
        split at advanced
        next isZero =>
          cases advanced
          intro promising
          obtain ⟨noneHeld, empty⟩ := upToDate
            (by rw [Evaluation.promising, isZero]; exact Bool.and_eq_true_iff.mpr ⟨promising, rfl⟩)
          refine ⟨noneHeld, fun position others _ listed => ?_⟩
          apply empty position others _ listed
          have inside := (List.getElem?_eq_some_iff.mp listed).1
          have outside := List.getElem?_eq_none_iff.mp beyond
          exact decide_eq_true (by omega)
        next => cases advanced
  | events runningThreads => cases advanced

theorem UpToDate.deadlocked (upToDate : UpToDate scheduler stage)
    (returned : scheduler.checkEndingCriteria setting stage = .inr true) :
    Deadlocked scheduler := by
  cases stage with
  | load => cases returned
  | state runningThreads =>
      rw [checkEndingCriteria] at returned
      split at returned <;> cases returned
  | count runningThreads index readyCount =>
      rw [checkEndingCriteria] at returned
      split at returned
      next => cases returned
      next => split at returned <;> cases returned
  | events runningThreads =>
      rw [checkEndingCriteria, Sum.inr.injEq, decide_eq_true_eq] at returned
      obtain ⟨noneHeld, empty⟩ := upToDate (decide_eq_true returned.2)
      refine ⟨noneHeld, fun jobs member => ?_⟩
      obtain ⟨index, listed⟩ := List.getElem?_of_mem member
      exact empty index jobs rfl listed

end Verdict

/-! ## Steps of the threads -/

/-- A step of the dispatcher or of the thread for external events, with its evaluation
before and after. -/
inductive EventStep (setting : Setting) (before : EventBasedScheduler heap)
    (stage : Option Evaluation) :
    EventBasedScheduler heap → Report → Option Evaluation → Prop where
  /-- No evaluation goes on; one may begin. -/
  | other {after report next} (step : Local before after report)
      (begins : ∀ evaluation ∈ next, evaluation = .load) :
      EventStep setting before stage after report next
  | goesOn {evaluation next} (current : stage = some evaluation)
      (advanced : before.checkEndingCriteria setting evaluation = .inl next) :
      EventStep setting before stage before .progressed (some next)
  | returns {evaluation shouldStop} (current : stage = some evaluation)
      (returned : before.checkEndingCriteria setting evaluation = .inr shouldStop) :
      EventStep setting before stage before (.verdict shouldStop) none

section Threads

variable (scheduler : EventBasedScheduler heap) (setting : Setting) (outside : Outside)

theorem EventStep.quiet {before after : EventBasedScheduler heap} {stage next : Option Evaluation}
    {report : Report} (step : Local before after report) (none_ : next = none) :
    EventStep setting before stage after report next :=
  .other step fun evaluation member => by rw [none_] at member; cases member

theorem dispatcher_step (phase : DispatcherPhase) : EventStep setting scheduler phase.evaluation
      (scheduler.dispatcherThreadEntrance setting outside phase).scheduler
      (scheduler.dispatcherThreadEntrance setting outside phase).report
      (scheduler.dispatcherThreadEntrance setting outside phase).next.evaluation := by
  cases phase with
  | idle | finished => exact .quiet setting (local_blocked scheduler) rfl
  | head =>
      refine .quiet setting (local_progressed scheduler) ?_
      rw [dispatcherThreadEntrance]
      dsimp only
      split <;> rfl
  | events =>
      refine .other (local_progressed scheduler) fun evaluation member => ?_
      rw [dispatcherThreadEntrance] at member
      dsimp only at member
      split at member
      next => exact (Option.some.inj member).symm
      next => cases member
  | pop =>
      rw [dispatcherThreadEntrance]
      split
      next => exact .quiet setting (local_abort scheduler) rfl
      next entity _ _ =>
        refine .quiet setting (.of_eq rfl rfl rfl rfl rfl rfl nofun nofun) ?_
        cases entity <;> rfl
  | dispatch entity stage =>
      refine .quiet setting (dispatchEntity_local scheduler entity outside stage) ?_
      rw [dispatcherThreadEntrance]
      cases (scheduler.dispatchEntity entity outside stage).next <;> rfl
  | evaluate stage | confirm stage =>
      rw [dispatcherThreadEntrance]
      cases advanced : scheduler.checkEndingCriteria setting stage with
      | inl next => exact .goesOn rfl advanced
      | inr shouldStop => cases shouldStop <;> exact .returns rfl advanced
  | wait =>
      rw [dispatcherThreadEntrance]
      split
      next => exact .quiet setting (local_progressed scheduler) rfl
      next => exact .quiet setting (local_blocked scheduler) rfl
  | timedWait =>
      rw [dispatcherThreadEntrance]
      split
      next => exact .quiet setting (local_progressed scheduler) rfl
      next =>
        split
        next =>
          exact .other (local_progressed scheduler) fun _ member => (Option.some.inj member).symm
        next => exact .quiet setting (local_blocked scheduler) rfl
  | mark => exact .quiet setting (.of_eq rfl rfl rfl rfl rfl rfl nofun nofun) rfl
  | drain index =>
      rw [dispatcherThreadEntrance]
      split <;> exact .quiet setting (local_progressed scheduler) rfl
  | stop stage =>
      refine .quiet setting (stopAllJobs_local scheduler stage) ?_
      rw [dispatcherThreadEntrance]
      cases (scheduler.stopAllJobs stage).next <;> rfl
  | join =>
      rw [dispatcherThreadEntrance]
      split
      next => exact .quiet setting (.of_eq rfl rfl rfl rfl rfl rfl nofun nofun) rfl
      next => exact .quiet setting (local_blocked scheduler) rfl

theorem async_step (phase : AsyncPhase) : EventStep setting scheduler phase.evaluation
      (scheduler.asyncEventThreadEntrance setting outside phase).scheduler
      (scheduler.asyncEventThreadEntrance setting outside phase).report
      (scheduler.asyncEventThreadEntrance setting outside phase).next.evaluation := by
  cases phase with
  | idle | exited => exact .quiet setting (local_blocked scheduler) rfl
  | head | events =>
      refine .quiet setting (local_progressed scheduler) ?_
      rw [asyncEventThreadEntrance]
      dsimp only
      split <;> rfl
  | pop =>
      rw [asyncEventThreadEntrance]
      split
      next => exact .quiet setting (local_abort scheduler) rfl
      next entity _ _ =>
        refine .quiet setting (.of_eq rfl rfl rfl rfl rfl rfl nofun nofun) ?_
        cases entity <;> rfl
  | dispatch entity stage =>
      refine .other (dispatchEntity_local scheduler entity outside stage) fun evaluation member =>
        ?_
      rw [asyncEventThreadEntrance] at member
      dsimp only at member
      cases isNext : (scheduler.dispatchEntity entity outside stage).next with
      | none =>
          rw [isNext, Option.elim_none] at member
          split at member
          next => cases member
          next => exact (Option.some.inj member).symm
      | some next =>
          rw [isNext] at member
          cases member
  | evaluate stage =>
      rw [asyncEventThreadEntrance]
      cases advanced : scheduler.checkEndingCriteria setting stage with
      | inl next => exact .goesOn rfl advanced
      | inr shouldStop => cases shouldStop <;> exact .returns rfl advanced
  | notify =>
      rw [asyncEventThreadEntrance]
      dsimp only
      split <;> exact .quiet setting (notifyDispatcher_local scheduler kNullUid nofun nofun) rfl
  | wait =>
      rw [asyncEventThreadEntrance]
      split
      next => exact .quiet setting (local_progressed scheduler) rfl
      next => exact .quiet setting (local_blocked scheduler) rfl

end Threads

section Outside

variable (scheduler : EventBasedScheduler heap) (setting : Setting)

theorem maxDurationStep_local (outside : Outside) :
    Local scheduler (scheduler.maxDurationStep outside).1
      (scheduler.maxDurationStep outside).2 := by
  rw [maxDurationStep]
  split
  next => exact local_blocked scheduler
  next => exact local_blocked scheduler
  next => exact .of_eq rfl rfl rfl rfl rfl rfl nofun nofun
  next stage _ => exact (stopAllJobs_local scheduler stage).andThen rfl rfl rfl rfl rfl rfl

theorem assignQueue_local (eid : Uid) {report : Report}
    (noVerdict : ∀ shouldStop, report ≠ .verdict shouldStop)
    (noJob : ∀ eid, report ≠ .handedOut eid) :
    Local scheduler (scheduler.assignQueue setting eid).1 report := by
  rw [assignQueue]
  split
  next => exact .of_eq rfl rfl rfl rfl rfl rfl noVerdict noJob
  next =>
    dsimp only
    split
    next => exact .of_eq rfl rfl rfl rfl rfl rfl noVerdict noJob
    next => exact ⟨⟨rfl, rfl, rfl, rfl, .append, noVerdict⟩, rfl, noJob⟩

theorem schedule_local (eid : Uid) (now : Int) :
    Local scheduler (scheduler.schedule setting eid now).1
      (scheduler.schedule setting eid now).2 := by
  rw [schedule]
  split
  next => exact .of_eq rfl rfl rfl rfl rfl rfl nofun nofun
  next => exact .of_eq rfl rfl rfl rfl rfl rfl nofun nofun
  next =>
    dsimp only
    split
    all_goals
      refine .andThen (assignQueue_local scheduler setting eid ?_ ?_) rfl rfl rfl rfl rfl rfl
    all_goals nofun

theorem unschedule_local (eid : Uid) : Local scheduler (scheduler.unschedule setting eid).1
      (scheduler.unschedule setting eid).2 := by
  rw [unschedule]
  split
  next => exact .of_eq rfl rfl rfl rfl rfl rfl nofun nofun
  next => exact .of_eq rfl rfl rfl rfl rfl rfl nofun nofun
  next =>
    split
    next => exact local_abort scheduler
    next => exact .of_eq rfl rfl rfl rfl rfl rfl nofun nofun

theorem eventNotify_local (eid : Uid) (event : GxfEvent) :
    Local scheduler (scheduler.eventNotify eid event).1 (scheduler.eventNotify eid event).2 := by
  rw [eventNotify]
  split
  next => exact .of_eq rfl rfl rfl rfl rfl rfl nofun nofun
  next =>
    split
    next => exact .of_eq rfl rfl rfl rfl rfl rfl nofun nofun
    next =>
      dsimp only
      apply notifyDispatcher_local
      · intro shouldStop
        split <;> nofun
      · intro eid
        split <;> nofun

theorem stop_local : Local scheduler scheduler.stop.1 scheduler.stop.2 :=
  .of_eq rfl rfl rfl rfl rfl rfl nofun nofun

theorem callerTurn_local (phase : Caller) :
    Local scheduler (scheduler.callerTurn phase).scheduler (scheduler.callerTurn phase).report := by
  cases phase with
  | update entity stage => exact updateCondition_local scheduler entity stage
  | register entity => exact .of_eq rfl rfl rfl rfl rfl rfl nofun nofun
  | stop stage => exact stopAllJobs_local scheduler stage
  | notify =>
      rw [callerTurn]
      dsimp only
      split <;> exact notifyDispatcher_local scheduler kNullUid nofun nofun
  | join =>
      rw [callerTurn]
      split
      next => exact .of_eq rfl rfl rfl rfl rfl rfl nofun nofun
      next => exact local_blocked scheduler
  | returned => exact local_blocked scheduler

theorem caller_local (index : Nat) :
    Local scheduler (scheduler.caller index).1 (scheduler.caller index).2 := by
  rw [caller]
  split
  next => exact local_blocked scheduler
  next phase _ => exact (callerTurn_local scheduler phase).andThen rfl rfl rfl rfl rfl rfl

theorem runAsync_local :
    Local scheduler (scheduler.runAsync setting).1 (scheduler.runAsync setting).2 := by
  rw [runAsync]
  split
  next => exact .of_eq rfl rfl rfl rfl rfl rfl nofun nofun
  next isIdle =>
    split
    next => exact .of_eq rfl rfl rfl rfl rfl rfl nofun nofun
    next =>
      refine .of_eq rfl ?_ rfl rfl rfl rfl nofun nofun
      rw [not_not.mp isIdle]
      rfl

end Outside

/-! ## Steps of the scheduler -/

section Steps

variable {scheduler : EventBasedScheduler heap} {setting : Setting}

theorem Watched.setDispatcher (watched : Watched scheduler) {phase : DispatcherPhase}
    (upToDate : ∀ evaluation, phase.evaluation = some evaluation → UpToDate scheduler evaluation) :
    Watched { scheduler with dispatcher := phase } where
  consistent := watched.consistent
  counted := watched.counted
  upToDate evaluation listed := by
    cases mem_evaluations.mp listed with
    | inl mine => exact upToDate evaluation mine
    | inr others => exact watched.upToDate evaluation (mem_evaluations.mpr (.inr others))

theorem Watched.setAsync (watched : Watched scheduler) {phase : AsyncPhase}
    (upToDate : ∀ evaluation, phase.evaluation = some evaluation → UpToDate scheduler evaluation) :
    Watched { scheduler with async := phase } where
  consistent := watched.consistent
  counted := watched.counted
  upToDate evaluation listed := by
    cases mem_evaluations.mp listed with
    | inl others => exact watched.upToDate evaluation (mem_evaluations.mpr (.inl others))
    | inr mine => exact upToDate evaluation mine

variable {after : EventBasedScheduler heap} {stage next : Option Evaluation} {report : Report}

theorem EventStep.watched (step : EventStep setting scheduler stage after report next)
    (watched : Watched scheduler)
    (current : ∀ evaluation, stage = some evaluation → evaluation ∈ evaluations scheduler)
    (reliable : Reliable scheduler stage)
    (undisturbed : ∀ evaluation ∈ evaluations scheduler, evaluation.outdatedBy report = false) :
    Watched after ∧ ∀ evaluation, next = some evaluation → UpToDate after evaluation := by
  cases step with
  | other step begins =>
      refine ⟨watched.local step undisturbed, fun evaluation isNext promising => ?_⟩
      rw [begins evaluation isNext] at promising
      cases promising
  | goesOn isStage advanced =>
      refine ⟨watched, fun evaluation isNext => ?_⟩
      cases isNext
      rw [isStage] at reliable
      exact watched.goesOn (watched.upToDate _ (current _ isStage)) reliable advanced
  | returns => exact ⟨watched, nofun⟩

theorem EventStep.deadlocked (step : EventStep setting scheduler stage after report next)
    (watched : Watched scheduler)
    (current : ∀ evaluation, stage = some evaluation → evaluation ∈ evaluations scheduler)
    (returned : report = .verdict true) : Deadlocked after := by
  cases step with
  | other step => exact absurd returned (step.noVerdict true)
  | goesOn => cases returned
  | returns isStage concluded =>
      cases returned
      exact (watched.upToDate _ (current _ isStage)).deadlocked concluded

theorem Watched.worker (watched : Watched scheduler) (index : Nat) (outside : Outside)
    (undisturbed : ∀ evaluation ∈ evaluations scheduler,
      evaluation.outdatedBy (scheduler.worker index outside).2 = false) :
    Watched (scheduler.worker index outside).1 := by
  rw [EventBasedScheduler.worker] at undisturbed ⊢
  cases stored : scheduler.workers[index]? with
  | none => exact watched
  | some worker =>
      rw [stored] at undisturbed
      have step := worker_step scheduler outside worker.thread worker.phase
      refine watched.step step.carries.queues ?_ ?_ undisturbed ?_
      · have same := raised_set stored ⟨worker.thread,
          (scheduler.workerThreadEntrance worker.thread outside worker.phase).next⟩
        have counted := watched.counted
        have count := step.count
        rw [Counted] at counted ⊢
        dsimp only at same ⊢
        rw [step.carries.uncounted]
        omega
      · intro noJob noneHeld other member
        cases List.mem_or_eq_of_mem_set member with
        | inl old => exact noneHeld other old
        | inr new =>
            rw [new, Bool.eq_false_iff]
            intro held
            have wasHeld := step.holds held noJob
            rw [noneHeld worker (List.mem_of_getElem? stored)] at wasHeld
            cases wasHeld
      · intro evaluation listed
        rw [mem_evaluations] at listed ⊢
        dsimp only at listed
        rw [step.carries.dispatcher, step.carries.async] at listed
        exact .inl listed

/-- A step of `runAsync_abi` keeps the invariant, also between the creation of a worker
and its count. -/
theorem Watched.runAsyncStep (watched : Watched scheduler) :
    Watched (scheduler.runAsyncStep setting).1 := by
  have counted := watched.counted
  have quiet : ∀ evaluation ∈ evaluations scheduler, evaluation.outdatedBy .progressed = false :=
    fun _ _ => rfl
  rw [Counted] at counted
  rw [EventBasedScheduler.runAsyncStep]
  cases isMain : scheduler.main with
  | idle | done => exact watched
  | start index =>
      dsimp only
      split
      next jobs stored =>
        refine watched.local (.andThen (local_setRunning scheduler stored true) rfl ?_ rfl rfl rfl
          rfl) quiet
        exact (congrArg MainPhase.uncounted isMain).symm
      next =>
        refine watched.step .refl ?_ (fun _ noneHeld => noneHeld) quiet ?_
        · rw [isMain] at counted
          exact counted
        · intro evaluation listed
          cases listed
  | create threads =>
      rw [isMain] at counted
      cases threads with
      | nil =>
          refine watched.local (.of_eq rfl ?_ rfl rfl rfl rfl ?_ ?_) quiet
          · exact (congrArg MainPhase.uncounted isMain).symm
          all_goals nofun
      | cons thread threads =>
          refine watched.step .refl ?_ ?_ quiet fun _ listed => .inl listed
          · rw [Counted, raised, List.countP_append]
            change (scheduler.runningThreads.toNat + 1) % 256 = (raised scheduler.workers + 1) % 256
            change (scheduler.runningThreads.toNat + 0) % 256 = _ at counted
            omega
          · intro _ noneHeld worker member
            cases List.mem_append.mp member with
            | inl old => exact noneHeld worker old
            | inr new => rw [List.mem_singleton.mp new]; rfl
  | count threads =>
      rw [isMain] at counted
      refine watched.step .refl ?_ (fun _ noneHeld => noneHeld) quiet fun _ listed => .inl listed
      have same := toNat_raise scheduler.runningThreads
      exact same.trans counted

theorem Watched.execute (watched : Watched scheduler) (op : Op)
    (reliable : Reliable scheduler (evaluationOf scheduler op))
    (undisturbed : ∀ evaluation ∈ evaluations scheduler,
      evaluation.outdatedBy (scheduler.execute setting op).2 = false) :
    Watched (scheduler.execute setting op).1 := by
  cases op with
  | schedule eid now => exact watched.local (schedule_local scheduler setting eid now) undisturbed
  | unschedule eid => exact watched.local (unschedule_local scheduler setting eid) undisturbed
  | eventNotify eid event =>
      exact watched.local (eventNotify_local scheduler eid event) undisturbed
  | runAsync => exact watched.local (runAsync_local scheduler setting) undisturbed
  | stop => exact watched.local (stop_local scheduler) undisturbed
  | main => exact watched.runAsyncStep
  | caller index => exact watched.local (caller_local scheduler index) undisturbed
  | worker index outside => exact watched.worker index outside undisturbed
  | dispatcher outside =>
      obtain ⟨kept, upToDate⟩ :=
        (dispatcher_step scheduler setting outside scheduler.dispatcher).watched watched
          (fun _ current => mem_evaluations.mpr (.inl current)) reliable undisturbed
      exact kept.setDispatcher upToDate
  | async outside =>
      obtain ⟨kept, upToDate⟩ :=
        (async_step scheduler setting outside scheduler.async).watched watched
          (fun _ current => mem_evaluations.mpr (.inr current)) reliable undisturbed
      exact kept.setAsync upToDate
  | maxDuration outside =>
      exact watched.local (maxDurationStep_local scheduler outside) undisturbed

theorem Watched.deadlocked (watched : Watched scheduler) (op : Op)
    (returned : (scheduler.execute setting op).2 = .verdict true) :
    Deadlocked (scheduler.execute setting op).1 := by
  cases op with
  | schedule eid now =>
      exact absurd returned ((schedule_local scheduler setting eid now).noVerdict true)
  | unschedule eid =>
      exact absurd returned ((unschedule_local scheduler setting eid).noVerdict true)
  | eventNotify eid event =>
      exact absurd returned ((eventNotify_local scheduler eid event).noVerdict true)
  | runAsync => exact absurd returned ((runAsync_local scheduler setting).noVerdict true)
  | stop => exact absurd returned ((stop_local scheduler).noVerdict true)
  | main =>
      change (scheduler.runAsyncStep setting).2 = _ at returned
      rw [EventBasedScheduler.runAsyncStep] at returned
      split at returned
      next => cases returned
      next => cases returned
      next => split at returned <;> cases returned
      all_goals cases returned
  | caller index => exact absurd returned ((caller_local scheduler index).noVerdict true)
  | worker index outside =>
      change (scheduler.worker index outside).2 = _ at returned
      rw [EventBasedScheduler.worker] at returned
      split at returned
      next => cases returned
      next worker _ =>
        have step := worker_step scheduler outside worker.thread worker.phase
        exact absurd returned (step.carries.noVerdict true)
  | dispatcher outside =>
      exact (dispatcher_step scheduler setting outside scheduler.dispatcher).deadlocked watched
        (fun _ current => mem_evaluations.mpr (.inl current)) returned
  | async outside =>
      exact (async_step scheduler setting outside scheduler.async).deadlocked watched
        (fun _ current => mem_evaluations.mpr (.inr current)) returned
  | maxDuration outside =>
      exact absurd returned ((maxDurationStep_local scheduler outside).noVerdict true)

/-- The invariant holds after `initialize()`. -/
theorem watched_init (setting : Setting) : Watched (init heap setting) where
  consistent index jobs stored := by
    have isCreated := List.mem_singleton.mp (List.mem_of_getElem? stored)
    rw [isCreated]
    exact Consistent.create
  counted := rfl
  upToDate _ listed := by cases listed

end Steps

/-- Along every run in which each step is undisturbed, whatever the number of workers and
the order of the steps of all threads, `checkEndingCriteria` returns true only when no
worker has an entity and no job is queued. -/
theorem run_verdicts_sound (heap : PriorityQueue (Item Uid) itemPriorityCmp) (setting : Setting)
    (ops : List Op) (undisturbed : (system heap setting).Along (Undisturbed setting)
      (init heap setting) ops) :
    (system heap setting).Along (VerdictSound setting) (init heap setting) ops := by
  apply System.along_of_invariant _ _ (watched_init setting) undisturbed
  · intro scheduler op watched guard
    rw [Undisturbed, system] at guard
    rw [system]
    dsimp only at guard ⊢
    split
    next => exact watched
    next running =>
      rw [if_neg running] at guard
      exact watched.execute op guard.1 guard.2
  · intro scheduler op watched guard returned
    rw [system] at returned ⊢
    dsimp only at returned ⊢
    split at returned
    next => cases returned
    next running =>
      rw [if_neg running]
      exact watched.deadlocked op returned

/-- Stop on deadlock, one worker thread, and only entities with codelets that are not
pinned. -/
def oneWorker : Setting where
  stopOnDeadlock := true
  workerThreadNumber := 1
  hasCodelets _ := .ok true
  pinnedPool _ := none
  poolThreads _ := []

/-- An executor that is not busy and finds a condition. -/
def finding (type : SchedulingConditionType) : Outside where
  now := 0
  busy := false
  checked := .ok ⟨type, 0⟩
  executed := .ok ⟨.READY, 0⟩
  timeout := false

/-- An entity is scheduled, and all threads are started. -/
def startup : List Op :=
  [.schedule 7 0] ++ List.replicate 4 (.caller 0) ++ [.runAsync] ++ List.replicate 5 .main

/-- The worker executes the entity and waits again, and the dispatcher checks it and
evaluates the ending criteria. -/
theorem run_verdicts_sound_worker :
    let start := init (listHeap Uid) oneWorker
    let ops := startup ++ List.replicate 11 (.worker 0 (finding .NEVER)) ++
      List.replicate 13 (.dispatcher (finding .NEVER))
    ((system _ oneWorker).outputs start ops).getLast? = some (.verdict true) ∧
      (system _ oneWorker).Along (VerdictSound oneWorker) start ops :=
  ⟨by decide, run_verdicts_sound (listHeap Uid) oneWorker _ (by decide)⟩

/-- The worker has taken the entity and not raised the running count yet: the dispatcher
finds a deadlock. -/
theorem verdict_with_popped_entity :
    let scheduler := (system _ oneWorker).run (init (listHeap Uid) oneWorker)
      (startup ++ List.replicate 2 (.worker 0 (finding .NEVER)) ++
        List.replicate 6 (.dispatcher (finding .NEVER)))
    scheduler.workers = [⟨0, .popped 7⟩] ∧
      ¬VerdictSound oneWorker scheduler (.dispatcher (finding .NEVER)) := by
  decide

set_option maxRecDepth 2000 in
/-- The entity waits.  The dispatcher has counted the empty queue when an external event
makes the entity ready: it finds a deadlock with a job in the queue. -/
example :
    let scheduler := (system _ oneWorker).run (init (listHeap Uid) oneWorker)
      (startup ++ List.replicate 11 (.worker 0 (finding .WAIT)) ++
        List.replicate 11 (.dispatcher (finding .WAIT)) ++
        [.eventNotify 7 .GXF_EVENT_EXTERNAL] ++ List.replicate 7 (.async (finding .READY)) ++
        [.dispatcher (finding .READY)])
    NoneHeld scheduler.workers ∧
      ¬VerdictSound oneWorker scheduler (.dispatcher (finding .READY)) := by
  decide

end Gxf.Std.EventBasedScheduler
