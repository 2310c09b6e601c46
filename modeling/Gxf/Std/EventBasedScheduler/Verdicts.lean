import Gxf.Std.EventBasedScheduler.Deadlock

/-!
# Verdicts of the executor in the event based scheduler

A worker passes an entity back after its execution, but not what the executor has answered.
The dispatcher checks the terms of the entity again, and goes by what they say then.  The
answer `NEVER` is obeyed in the runs in which the terms do not call for such an entity any
more, and in which it is nowhere on the way to another execution when the answer comes.
-/

namespace Gxf.Std.EventBasedScheduler

open Gxf.Core Gxf.Lib TimedJobList Function

variable {heap : PriorityQueue (Item Uid) itemPriorityCmp}

def comesToQueue : SchedulingConditionType → Bool
  | .READY | .WAIT_TIME => true
  | .NEVER | .WAIT | .WAIT_EVENT => false

/-- Whether a call of `updateCondition` is going to put its entity into a ready queue. -/
def Update.queues : Update → Bool
  | .remove nextCondition | .place nextCondition => comesToQueue nextCondition.type
  | .present => false

/-- Whether the handling of an event is going to put its entity into a ready queue. -/
def Dispatch.queues : Dispatch → Bool
  | .update stage => stage.queues
  | .look | .check | .stop _ => false

section Pending

variable (eids : Nat → Uid)

def WorkerPhase.pending : WorkerPhase → Option Uid
  | .popped eid => some eid
  | .raise entity | .acquire entity | .execute entity => some (eids entity)
  | .update entity stage => if stage.queues then some (eids entity) else none
  | .sleep | .wait | .release _ | .report _ | .notify .. | .stop _ | .lower | .exited => none

def DispatcherPhase.pending : DispatcherPhase → Option Uid
  | .dispatch entity stage => if stage.queues then some (eids entity) else none
  | .idle | .head | .events | .pop | .evaluate _ | .wait | .timedWait | .confirm _ | .mark
  | .drain _ | .stop _ | .join | .finished => none

/-- The entity that the thread for external events is going to queue. -/
def AsyncPhase.pending : AsyncPhase → Option Uid
  | .dispatch entity stage => if stage.queues then some (eids entity) else none
  | .idle | .head | .events | .pop | .evaluate _ | .notify | .wait | .exited => none

/-- The entity that a call from outside is going to queue. -/
def Caller.pending : Caller → Option Uid
  | .update entity stage => if stage.queues then some (eids entity) else none
  | .register _ | .stop _ | .notify | .join | .returned => none

end Pending

/-- The id of an entity. -/
def eidOf (scheduler : EventBasedScheduler heap) (entity : Nat) : Uid :=
  (scheduler.objects entity).eid

/-- An entity is in no ready queue. -/
def Unqueued (queues : List (TimedJobList Uid heap)) (eid : Uid) : Prop :=
  ∀ jobs ∈ queues, eid ∉ jobs.waiting

/-- An entity is in no ready queue, no thread is about to put it there, and none of the
workers has taken it for an execution. -/
structure AtRest (scheduler : EventBasedScheduler heap) (workers : List Worker) (eid : Uid) :
    Prop where
  unqueued : Unqueued scheduler.readyWaitTimeJobs eid
  workers : ∀ worker ∈ workers, worker.phase.pending scheduler.eidOf ≠ some eid
  callers : ∀ caller ∈ scheduler.callers, caller.pending scheduler.eidOf ≠ some eid
  dispatcher : scheduler.dispatcher.pending scheduler.eidOf ≠ some eid
  async : scheduler.async.pending scheduler.eidOf ≠ some eid

/-- Whether `executeEntity` answers `NEVER`. -/
def Outside.answersNever (outside : Outside) : Bool :=
  match outside.executed with
  | .ok condition => condition.type = .NEVER
  | .error _ => false

/-- Whether the check of an entity, which is not to be unscheduled, finds it ready now or
at some time. -/
def calledFor (scheduler : EventBasedScheduler heap) (outside : Outside) (entity : Nat) : Bool :=
  !(scheduler.objects entity).unschedule &&
    match outside.checked with
    | .ok condition => comesToQueue condition.type
    | .error _ => false

def DispatcherPhase.checking : DispatcherPhase → Option Nat
  | .dispatch entity .check => some entity
  | _ => none

/-- The entity that the thread for external events is going to check. -/
def AsyncPhase.checking : AsyncPhase → Option Nat
  | .dispatch entity .check => some entity
  | _ => none

/-- The entity for which a worker calls `executeEntity` in its next step. -/
def executing (scheduler : EventBasedScheduler heap) (index : Nat) : Option Uid :=
  match scheduler.workers[index]? with
  | some ⟨_, .execute entity⟩ => some (scheduler.eidOf entity)
  | _ => none

/-- The entities for which `executeEntity` has answered `NEVER` since they were scheduled,
after a step. -/
def finishedAfter (scheduler : EventBasedScheduler heap) (finished : List Uid) : Op → List Uid
  | .schedule eid _ => finished.filter (· ≠ eid)
  | .worker index outside =>
      if outside.answersNever then (scheduler.executing index).toList ++ finished else finished
  | .unschedule _ | .eventNotify .. | .runAsync | .stop | .main | .caller _ | .dispatcher _
  | .async _ | .maxDuration _ => finished

/-- The scheduler with a record of the finished entities. -/
def tracked (heap : PriorityQueue (Item Uid) itemPriorityCmp) (setting : Setting) :
    System (EventBasedScheduler heap × List Uid) Op Report where
  step pair op :=
    let answer := (system heap setting).step pair.1 op
    ((answer.1, if pair.1.aborted then pair.2 else finishedAfter pair.1 pair.2 op), answer.2)

/-- No finished entity is executed. -/
def Obeys (pair : EventBasedScheduler heap × List Uid) : Op → Prop
  | .worker index _ => ∀ eid ∈ pair.1.executing index, eid ∉ pair.2
  | .schedule .. | .unschedule _ | .eventNotify .. | .runAsync | .stop | .main | .caller _
  | .dispatcher _ | .async _ | .maxDuration _ => True

/-- The check of a finished entity does not call for it, and an entity is at rest when
`executeEntity` answers `NEVER` for it. -/
def Respects (pair : EventBasedScheduler heap × List Uid) : Op → Prop
  | .dispatcher outside => ∀ entity ∈ pair.1.dispatcher.checking,
      pair.1.calledFor outside entity = true → pair.1.eidOf entity ∉ pair.2
  | .async outside => ∀ entity ∈ pair.1.async.checking,
      pair.1.calledFor outside entity = true → pair.1.eidOf entity ∉ pair.2
  | .worker index outside => outside.answersNever = true →
      ∀ eid ∈ pair.1.executing index, AtRest pair.1 (pair.1.workers.eraseIdx index) eid
  | .schedule .. | .unschedule _ | .eventNotify .. | .runAsync | .stop | .main | .caller _
  | .maxDuration _ => True

instance (scheduler : EventBasedScheduler heap) (workers : List Worker) (eid : Uid) :
    Decidable (AtRest scheduler workers eid) :=
  have : Decidable (Unqueued scheduler.readyWaitTimeJobs eid) :=
    inferInstanceAs (Decidable (∀ _ ∈ _, _))
  decidable_of_iff (Unqueued scheduler.readyWaitTimeJobs eid ∧
      (∀ worker ∈ workers, worker.phase.pending scheduler.eidOf ≠ some eid) ∧
      (∀ caller ∈ scheduler.callers, caller.pending scheduler.eidOf ≠ some eid) ∧
      scheduler.dispatcher.pending scheduler.eidOf ≠ some eid ∧
      scheduler.async.pending scheduler.eidOf ≠ some eid)
    ⟨fun ⟨unqueued, workers, callers, dispatcher, async⟩ =>
        ⟨unqueued, workers, callers, dispatcher, async⟩,
      fun atRest => ⟨atRest.unqueued, atRest.workers, atRest.callers, atRest.dispatcher,
        atRest.async⟩⟩

instance (pair : EventBasedScheduler heap × List Uid) : (op : Op) → Decidable (Obeys pair op)
  | .worker index _ =>
      inferInstanceAs (Decidable (∀ eid ∈ pair.1.executing index, eid ∉ pair.2))
  | .schedule .. | .unschedule _ | .eventNotify .. | .runAsync | .stop | .main | .caller _
  | .dispatcher _ | .async _ | .maxDuration _ => isTrue trivial

instance (pair : EventBasedScheduler heap × List Uid) : (op : Op) → Decidable (Respects pair op)
  | .dispatcher outside => inferInstanceAs (Decidable (∀ entity ∈ pair.1.dispatcher.checking,
      pair.1.calledFor outside entity = true → pair.1.eidOf entity ∉ pair.2))
  | .async outside => inferInstanceAs (Decidable (∀ entity ∈ pair.1.async.checking,
      pair.1.calledFor outside entity = true → pair.1.eidOf entity ∉ pair.2))
  | .worker index outside => inferInstanceAs (Decidable (outside.answersNever = true →
      ∀ eid ∈ pair.1.executing index, AtRest pair.1 (pair.1.workers.eraseIdx index) eid))
  | .schedule .. | .unschedule _ | .eventNotify .. | .runAsync | .stop | .main | .caller _
  | .maxDuration _ => isTrue trivial

section Named

variable {eids others : Nat → Uid} {eid : Uid}

section

variable (named : ∀ entity, eids entity = eid → others entity = eid)
include named

theorem WorkerPhase.pending_of {phase : WorkerPhase} (isPending : phase.pending eids = some eid) :
    phase.pending others = some eid := by
  cases phase with
  | popped other => exact isPending
  | raise entity | acquire entity | execute entity =>
      exact congrArg some (named entity (Option.some.inj isPending))
  | update entity stage =>
      rw [pending, Option.ite_none_right_eq_some] at isPending ⊢
      exact ⟨isPending.1, congrArg some (named entity (Option.some.inj isPending.2))⟩
  | sleep | wait | release entity | report entity | notify other failed | stop stage | lower
  | exited => cases isPending

theorem DispatcherPhase.pending_of
    {phase : DispatcherPhase} (isPending : phase.pending eids = some eid) :
    phase.pending others = some eid := by
  cases phase with
  | dispatch entity stage =>
      rw [pending, Option.ite_none_right_eq_some] at isPending ⊢
      exact ⟨isPending.1, congrArg some (named entity (Option.some.inj isPending.2))⟩
  | idle | head | events | pop | evaluate stage | wait | timedWait | confirm stage | mark
  | drain index | stop stage | join | finished => cases isPending

theorem AsyncPhase.pending_of {phase : AsyncPhase} (isPending : phase.pending eids = some eid) :
    phase.pending others = some eid := by
  cases phase with
  | dispatch entity stage =>
      rw [pending, Option.ite_none_right_eq_some] at isPending ⊢
      exact ⟨isPending.1, congrArg some (named entity (Option.some.inj isPending.2))⟩
  | idle | head | events | pop | evaluate stage | notify | wait | exited => cases isPending

theorem Caller.pending_of {caller : Caller} (isPending : caller.pending eids = some eid) :
    caller.pending others = some eid := by
  cases caller with
  | update entity stage =>
      rw [pending, Option.ite_none_right_eq_some] at isPending ⊢
      exact ⟨isPending.1, congrArg some (named entity (Option.some.inj isPending.2))⟩
  | register entity | stop stage | notify | join | returned => cases isPending

end

end Named

/-- The entity of a call of `schedule_abi`. -/
def Caller.entity : Caller → Option Nat
  | .update entity _ | .register entity => some entity
  | .stop _ | .notify | .join | .returned => none

variable {before after : EventBasedScheduler heap} {eid : Uid}

theorem AtRest.transfer {workers others : List Worker} (atRest : AtRest before workers eid)
    (named : ∀ entity, after.eidOf entity = eid → before.eidOf entity = eid)
    (unqueued : Unqueued after.readyWaitTimeJobs eid)
    (ofWorkers : ∀ worker ∈ others, worker ∈ workers ∨ worker.phase.pending after.eidOf ≠ some eid)
    (ofCallers : ∀ caller ∈ after.callers,
      caller ∈ before.callers ∨ caller.pending after.eidOf ≠ some eid)
    (ofDispatcher : after.dispatcher = before.dispatcher ∨
      after.dispatcher.pending after.eidOf ≠ some eid)
    (ofAsync : after.async = before.async ∨ after.async.pending after.eidOf ≠ some eid) :
    AtRest after others eid where
  unqueued := unqueued
  workers worker member := by
    cases ofWorkers worker member with
    | inl old =>
        intro isPending
        exact atRest.workers worker old (WorkerPhase.pending_of named isPending)
    | inr new => exact new
  callers caller member := by
    cases ofCallers caller member with
    | inl old =>
        intro isPending
        exact atRest.callers caller old (Caller.pending_of named isPending)
    | inr new => exact new
  dispatcher := by
    cases ofDispatcher with
    | inl same =>
        intro isPending
        rw [same] at isPending
        exact atRest.dispatcher (DispatcherPhase.pending_of named isPending)
    | inr new => exact new
  async := by
    cases ofAsync with
    | inl same =>
        intro isPending
        rw [same] at isPending
        exact atRest.async (AsyncPhase.pending_of named isPending)
    | inr new => exact new

/-! ## Parts of threads -/

namespace Unqueued

variable {queues : List (TimedJobList Uid heap)} {next : TimedJobList Uid heap} {eid : Uid}

theorem set (unqueued : Unqueued queues eid) {index : Nat} (notWaiting : eid ∉ next.waiting) :
    Unqueued (queues.set index next) eid := by
  intro jobs member
  cases List.mem_or_eq_of_mem_set member with
  | inl old => exact unqueued jobs old
  | inr new => exact new ▸ notWaiting

theorem append (unqueued : Unqueued queues eid) :
    Unqueued (queues ++ [TimedJobList.create heap]) eid := by
  intro jobs member
  cases List.mem_append.mp member with
  | inl old => exact unqueued jobs old
  | inr new =>
      rw [List.mem_singleton.mp new, waiting_create]
      exact Multiset.notMem_zero eid

end Unqueued

variable {jobs : TimedJobList Uid heap}

theorem notMem_waiting_insert {item : Item Uid}
    (notWaiting : eid ∉ jobs.waiting) (different : eid ≠ item.job) :
    eid ∉ (jobs.insert item).1.waiting := by
  rw [TimedJobList.insert]
  split
  next => exact notWaiting
  next =>
    intro waits
    rw [TimedJobList.waiting, heap.contents_push, Multiset.map_cons, Multiset.cons_add,
      Multiset.mem_cons] at waits
    exact waits.elim different notWaiting

theorem waitForJob_waiting (notWaiting : eid ∉ jobs.waiting) (now : Int) :
    eid ∉ (jobs.waitForJob now).1.waiting ∧ (jobs.waitForJob now).2 ≠ .handedOut eid := by
  have sameWaiting := (moveDue_same now (heap.contents jobs.queue).card jobs).2
  rw [← sameWaiting] at notWaiting
  obtain ⟨-, answer⟩ | ⟨duration, answer⟩ | ⟨pendingJob, rest, isPending, answer⟩ :=
    waitForJob_answer jobs now
  · rw [answer]
    exact ⟨sameWaiting ▸ notWaiting, nofun⟩
  · rw [answer]
    exact ⟨notWaiting, nofun⟩
  · rw [TimedJobList.waiting, isPending, List.map_cons, ← Multiset.cons_coe, Multiset.add_cons,
      Multiset.mem_cons, not_or] at notWaiting
    rw [answer]
    refine ⟨notWaiting.2, fun handedOut => ?_⟩
    exact notWaiting.1 (TimedJobList.Answer.handedOut.inj handedOut).symm

/-- A step of a part of a thread leaves the entities and the calls from outside alone, and
brings at most one entity into a ready queue. -/
structure Keeps (before after : EventBasedScheduler heap) (arriving : Option Uid) : Prop where
  eidOf : after.eidOf = before.eidOf
  allocated : after.allocated = before.allocated
  entities : after.entities = before.entities
  callers : after.callers = before.callers
  unqueued : ∀ eid, arriving ≠ some eid → Unqueued before.readyWaitTimeJobs eid →
    Unqueued after.readyWaitTimeJobs eid

variable {arriving : Option Uid}

theorem Keeps.of_eq
    (eidOf : after.eidOf = before.eidOf) (allocated : after.allocated = before.allocated)
    (entities : after.entities = before.entities) (callers : after.callers = before.callers)
    (queues : after.readyWaitTimeJobs = before.readyWaitTimeJobs) :
    Keeps before after arriving :=
  ⟨eidOf, allocated, entities, callers, fun _ _ unqueued => queues ▸ unqueued⟩

theorem Keeps.andThen {middle : EventBasedScheduler heap}
    (keeps : Keeps before middle arriving) (eidOf : after.eidOf = middle.eidOf)
    (allocated : after.allocated = middle.allocated)
    (entities : after.entities = middle.entities) (callers : after.callers = middle.callers)
    (queues : after.readyWaitTimeJobs = middle.readyWaitTimeJobs) :
    Keeps before after arriving where
  eidOf := eidOf.trans keeps.eidOf
  allocated := allocated.trans keeps.allocated
  entities := entities.trans keeps.entities
  callers := callers.trans keeps.callers
  unqueued := queues ▸ keeps.unqueued

theorem Keeps.named
    (keeps : Keeps before after arriving) (entity : Nat) (same : after.eidOf entity = eid) :
    before.eidOf entity = eid := by
  rw [← keeps.eidOf]
  exact same

section Parts

variable (scheduler : EventBasedScheduler heap)

theorem Keeps.refl : Keeps scheduler scheduler arriving := .of_eq rfl rfl rfl rfl rfl

variable {entity : Nat} {e : ScheduleEntity}

theorem eidOf_of_objects (objects : after.objects = Function.update before.objects entity e)
    (same : e.eid = before.eidOf entity) : after.eidOf = before.eidOf := by
  funext other
  rw [eidOf, objects]
  by_cases here : other = entity
  · rw [here, update_self, same]
  · rw [update_of_ne here]
    rfl

theorem Keeps.modify (objects : after.objects = Function.update before.objects entity e)
    (same : e.eid = before.eidOf entity) (allocated : after.allocated = before.allocated)
    (entities : after.entities = before.entities) (callers : after.callers = before.callers)
    (queues : after.readyWaitTimeJobs = before.readyWaitTimeJobs) :
    Keeps before after arriving :=
  .of_eq (eidOf_of_objects objects same) allocated entities callers queues

/-- A queue is started or stopped. -/
theorem keeps_setRunning {index : Nat} {jobs : TimedJobList Uid heap}
    (stored : scheduler.readyWaitTimeJobs[index]? = some jobs) (isRunning : Bool) :
    Keeps scheduler (scheduler.setJobs index { jobs with isRunning }) arriving where
  eidOf := rfl
  allocated := rfl
  entities := rfl
  callers := rfl
  unqueued _ _ unqueued := unqueued.set (unqueued jobs (List.mem_of_getElem? stored))

theorem insertJob_keeps (entity : Nat) (nextCondition : SchedulingCondition) :
    Keeps scheduler (scheduler.insertJob entity nextCondition).scheduler
      (some (scheduler.eidOf entity)) := by
  rw [insertJob]
  dsimp only
  split
  next => exact .refl scheduler
  next =>
    split
    next => exact .of_eq rfl rfl rfl rfl rfl
    next jobs stored =>
      refine ⟨eidOf_of_objects rfl rfl, rfl, rfl, rfl, ?_⟩
      intro eid other unqueued
      apply unqueued.set
      apply notMem_waiting_insert (unqueued jobs (List.mem_of_getElem? stored))
      intro same
      exact other (congrArg some same.symm)

theorem updateCondition_keeps (entity : Nat) (stage : Update) :
    Keeps scheduler (scheduler.updateCondition entity stage).scheduler
      (if stage.queues then some (scheduler.eidOf entity) else none) := by
  cases stage with
  | remove nextCondition =>
      rw [updateCondition]
      dsimp only
      split
      next =>
        cases (scheduler.objects entity).condition.type <;> exact .modify rfl rfl rfl rfl rfl rfl
      next => exact .modify rfl rfl rfl rfl rfl rfl
  | place nextCondition =>
      rw [updateCondition, Update.queues]
      cases nextCondition.type with
      | READY | WAIT_TIME => exact insertJob_keeps scheduler entity nextCondition
      | WAIT_EVENT | WAIT | NEVER => exact .of_eq rfl rfl rfl rfl rfl
  | present => exact .modify rfl rfl rfl rfl rfl rfl

theorem updateCondition_queues {stage next : Update}
    (isNext : (scheduler.updateCondition entity stage).next = some next)
    (queues : next.queues = true) : stage.queues = true := by
  cases stage with
  | remove nextCondition =>
      cases isNext
      exact queues
  | place nextCondition =>
      rw [updateCondition] at isNext
      rw [Update.queues]
      cases isType : nextCondition.type with
      | READY | WAIT_TIME => rfl
      | WAIT_EVENT | WAIT | NEVER =>
          rw [isType] at isNext
          cases isNext
  | present => cases isNext

theorem stopAllJobs_keeps (stage : Stop) :
    Keeps scheduler (scheduler.stopAllJobs stage).scheduler arriving := by
  cases stage with
  | queue index =>
      rw [stopAllJobs]
      split
      next jobs stored => exact keeps_setRunning scheduler stored false
      next => exact .refl scheduler
  | mark | externalEvents | waitingEvents => exact .of_eq rfl rfl rfl rfl rfl

theorem notifyDispatcher_keeps (eid : Uid) :
    Keeps scheduler (scheduler.notifyDispatcher eid).1 arriving := by
  rw [notifyDispatcher]
  split <;> exact .of_eq rfl rfl rfl rfl rfl

theorem dispatchEntity_keeps (entity : Nat) (outside : Outside) (stage : Dispatch) :
    Keeps scheduler (scheduler.dispatchEntity entity outside stage).scheduler
      (if stage.queues then some (scheduler.eidOf entity) else none) := by
  cases stage with
  | look =>
      rw [dispatchEntity]
      split
      next => exact .refl scheduler
      next =>
        split
        next => exact .refl scheduler
        next => split <;> exact .refl scheduler
  | check =>
      rw [dispatchEntity]
      split
      next => exact .refl scheduler
      next => split <;> exact .of_eq rfl rfl rfl rfl rfl
  | update stage => exact updateCondition_keeps scheduler entity stage
  | stop stage => exact stopAllJobs_keeps scheduler stage

theorem dispatchEntity_queues {outside : Outside} {stage next : Dispatch}
    (isNext : (scheduler.dispatchEntity entity outside stage).next = some next)
    (queues : next.queues = true) :
    stage.queues = true ∨ stage = .check ∧ scheduler.calledFor outside entity = true := by
  cases stage with
  | look =>
      rw [dispatchEntity] at isNext
      split at isNext
      next => cases isNext
      next =>
        split at isNext
        next => cases isNext; cases queues
        next => split at isNext <;> cases isNext; cases queues
  | check =>
      refine .inr ⟨rfl, ?_⟩
      rw [dispatchEntity] at isNext
      rw [calledFor]
      split at isNext
      next => cases isNext; cases queues
      next scheduled =>
        rw [Bool.not_eq_true] at scheduled
        rw [scheduled]
        split at isNext
        next => cases isNext; cases queues
        next condition isChecked =>
          cases isNext
          rw [isChecked]
          exact queues
  | update stage =>
      obtain ⟨after, isAfter, rfl⟩ := Option.map_eq_some_iff.mp isNext
      exact .inl (updateCondition_queues scheduler isAfter queues)
  | stop stage =>
      obtain ⟨after, -, rfl⟩ := Option.map_eq_some_iff.mp isNext
      cases queues

end Parts

/-! ## Threads -/

/-- Entities are found under their ids, and calls from outside are about entities that
exist. -/
structure Addressed (scheduler : EventBasedScheduler heap) : Prop where
  entities : ∀ eid entity, scheduler.entities eid = some entity →
    entity < scheduler.allocated ∧ scheduler.eidOf entity = eid
  callers : ∀ caller ∈ scheduler.callers, ∀ entity ∈ caller.entity, entity < scheduler.allocated

section Threads

variable (scheduler : EventBasedScheduler heap) (outside : Outside)

theorem worker_keeps (thread : Uid) (phase : WorkerPhase) :
    Keeps scheduler (scheduler.workerThreadEntrance thread outside phase).scheduler
      (phase.pending scheduler.eidOf) := by
  cases phase with
  | sleep | raise entity | lower | exited | report entity => exact .of_eq rfl rfl rfl rfl rfl
  | wait =>
      rw [workerThreadEntrance]
      split
      next => exact .of_eq rfl rfl rfl rfl rfl
      next =>
        split
        next => exact .of_eq rfl rfl rfl rfl rfl
        next index _ _ _ jobs stored =>
          have queues (eid : Uid) (unqueued : Unqueued scheduler.readyWaitTimeJobs eid) : Unqueued
                (scheduler.readyWaitTimeJobs.set index (jobs.waitForJob outside.now).1) eid :=
            unqueued.set
              (waitForJob_waiting (unqueued jobs (List.mem_of_getElem? stored)) outside.now).1
          dsimp only
          split
          next => split <;> exact ⟨rfl, rfl, rfl, rfl, fun eid _ => queues eid⟩
          all_goals exact ⟨rfl, rfl, rfl, rfl, fun eid _ => queues eid⟩
  | popped eid =>
      rw [workerThreadEntrance]
      split
      next => exact .of_eq rfl rfl rfl rfl rfl
      next entity _ =>
        split
        next => exact .refl scheduler
        next => exact .modify rfl rfl rfl rfl rfl rfl
  | acquire entity =>
      rw [workerThreadEntrance]
      split
      next => exact .refl scheduler
      next => exact .modify rfl rfl rfl rfl rfl rfl
  | update entity stage => exact updateCondition_keeps scheduler entity stage
  | execute entity =>
      rw [workerThreadEntrance]
      split <;> exact .of_eq rfl rfl rfl rfl rfl
  | release entity => exact .modify rfl rfl rfl rfl rfl rfl
  | notify eid failed =>
      rw [workerThreadEntrance]
      dsimp only
      split <;> exact notifyDispatcher_keeps scheduler eid
  | stop stage => exact stopAllJobs_keeps scheduler stage

theorem worker_pending (addressed : Addressed scheduler) {thread : Uid} {phase : WorkerPhase}
    (unqueued : Unqueued scheduler.readyWaitTimeJobs eid)
    (isPending : (scheduler.workerThreadEntrance thread outside phase).next.pending
      scheduler.eidOf = some eid) : phase.pending scheduler.eidOf = some eid := by
  cases phase with
  | sleep | release entity | lower | exited => cases isPending
  | raise entity => exact isPending
  | wait =>
      rw [workerThreadEntrance] at isPending
      split at isPending
      next => cases isPending
      next =>
        split at isPending
        next => cases isPending
        next jobs stored =>
          dsimp only at isPending
          split at isPending
          next other answer =>
            split at isPending
            next => cases isPending
            next =>
              cases isPending
              have notWaiting := unqueued jobs (List.mem_of_getElem? stored)
              exact absurd answer (waitForJob_waiting notWaiting outside.now).2
          all_goals cases isPending
  | popped other =>
      rw [workerThreadEntrance] at isPending
      split at isPending
      next => exact isPending
      next entity known =>
        split at isPending
        next => exact isPending
        next =>
          rw [← Option.some.inj isPending]
          exact congrArg some (addressed.entities other entity known).2.symm
  | acquire entity =>
      rw [workerThreadEntrance] at isPending
      split at isPending
      next => cases isPending
      next =>
        dsimp only at isPending
        split at isPending
        next => cases isPending
        next => exact isPending
  | update entity stage =>
      rw [workerThreadEntrance] at isPending
      dsimp only at isPending
      cases isNext : (scheduler.updateCondition entity stage).next with
      | none =>
          rw [isNext] at isPending
          cases isPending
      | some next =>
          rw [isNext, Option.elim_some, WorkerPhase.pending, Option.ite_none_right_eq_some]
            at isPending
          rw [WorkerPhase.pending, if_pos (updateCondition_queues scheduler isNext isPending.1)]
          exact isPending.2
  | execute entity =>
      rw [workerThreadEntrance] at isPending
      split at isPending <;> cases isPending
  | report entity =>
      rw [workerThreadEntrance] at isPending
      dsimp only at isPending
      split at isPending <;> cases isPending
  | notify other failed =>
      rw [workerThreadEntrance] at isPending
      dsimp only at isPending
      split at isPending
      next => cases failed <;> cases isPending
      next => cases isPending
  | stop stage =>
      rw [workerThreadEntrance] at isPending
      cases isNext : (scheduler.stopAllJobs stage).next <;> rw [isNext] at isPending <;>
        cases isPending

variable (setting : Setting)

theorem dispatcher_keeps (phase : DispatcherPhase) :
    Keeps scheduler (scheduler.dispatcherThreadEntrance setting outside phase).scheduler
      (phase.pending scheduler.eidOf) := by
  cases phase with
  | idle | head | events | drain index | finished | mark =>
      rw [dispatcherThreadEntrance]
      try split
      all_goals exact .of_eq rfl rfl rfl rfl rfl
  | pop | wait | join =>
      rw [dispatcherThreadEntrance]
      split <;> exact .of_eq rfl rfl rfl rfl rfl
  | dispatch entity stage => exact dispatchEntity_keeps scheduler entity outside stage
  | evaluate stage | confirm stage =>
      rw [dispatcherThreadEntrance]
      split <;> exact .refl scheduler
  | timedWait =>
      rw [dispatcherThreadEntrance]
      split
      next => exact .refl scheduler
      next => split <;> exact .refl scheduler
  | stop stage => exact stopAllJobs_keeps scheduler stage

theorem async_keeps (phase : AsyncPhase) :
    Keeps scheduler (scheduler.asyncEventThreadEntrance setting outside phase).scheduler
      (phase.pending scheduler.eidOf) := by
  cases phase with
  | idle | head | events | exited => exact .refl scheduler
  | pop | wait =>
      rw [asyncEventThreadEntrance]
      split <;> exact .of_eq rfl rfl rfl rfl rfl
  | dispatch entity stage => exact dispatchEntity_keeps scheduler entity outside stage
  | evaluate stage =>
      rw [asyncEventThreadEntrance]
      split <;> exact .refl scheduler
  | notify =>
      rw [asyncEventThreadEntrance]
      dsimp only
      split <;> exact notifyDispatcher_keeps scheduler kNullUid

theorem dispatcher_pending {phase : DispatcherPhase}
    (isPending : (scheduler.dispatcherThreadEntrance setting outside phase).next.pending
      scheduler.eidOf = some eid) :
    phase.pending scheduler.eidOf = some eid ∨ ∃ entity ∈ phase.checking,
      scheduler.calledFor outside entity = true ∧ scheduler.eidOf entity = eid := by
  cases phase with
  | dispatch entity stage =>
      rw [dispatcherThreadEntrance] at isPending
      dsimp only at isPending
      cases isNext : (scheduler.dispatchEntity entity outside stage).next with
      | none =>
          rw [isNext] at isPending
          cases isPending
      | some next =>
          rw [isNext, Option.elim_some, DispatcherPhase.pending, Option.ite_none_right_eq_some]
            at isPending
          cases dispatchEntity_queues scheduler isNext isPending.1 with
          | inl queues =>
              left
              rw [DispatcherPhase.pending, if_pos queues]
              exact isPending.2
          | inr checked =>
              obtain ⟨rfl, called⟩ := checked
              exact .inr ⟨entity, rfl, called, Option.some.inj isPending.2⟩
  | idle | finished | mark => cases isPending
  | pop =>
      rw [dispatcherThreadEntrance] at isPending
      split at isPending
      next => cases isPending
      next entity _ _ => cases entity <;> cases isPending
  | stop stage =>
      rw [dispatcherThreadEntrance] at isPending
      cases isNext : (scheduler.stopAllJobs stage).next <;> rw [isNext] at isPending <;>
        cases isPending
  | head | events | wait | timedWait | join | drain | evaluate | confirm =>
      simp only [dispatcherThreadEntrance] at isPending
      repeat' split at isPending
      all_goals cases isPending

theorem async_pending {phase : AsyncPhase}
    (isPending : (scheduler.asyncEventThreadEntrance setting outside phase).next.pending
      scheduler.eidOf = some eid) :
    phase.pending scheduler.eidOf = some eid ∨ ∃ entity ∈ phase.checking,
      scheduler.calledFor outside entity = true ∧ scheduler.eidOf entity = eid := by
  cases phase with
  | dispatch entity stage =>
      rw [asyncEventThreadEntrance] at isPending
      dsimp only at isPending
      cases isNext : (scheduler.dispatchEntity entity outside stage).next with
      | none =>
          rw [isNext, Option.elim_none] at isPending
          split at isPending <;> cases isPending
      | some next =>
          rw [isNext, Option.elim_some, AsyncPhase.pending, Option.ite_none_right_eq_some]
            at isPending
          cases dispatchEntity_queues scheduler isNext isPending.1 with
          | inl queues =>
              left
              rw [AsyncPhase.pending, if_pos queues]
              exact isPending.2
          | inr checked =>
              obtain ⟨rfl, called⟩ := checked
              exact .inr ⟨entity, rfl, called, Option.some.inj isPending.2⟩
  | idle | exited => cases isPending
  | pop =>
      rw [asyncEventThreadEntrance] at isPending
      split at isPending
      next => cases isPending
      next entity _ _ => cases entity <;> cases isPending
  | head | events | wait | evaluate | notify =>
      simp only [asyncEventThreadEntrance] at isPending
      repeat' split at isPending
      all_goals cases isPending

variable {caller : Caller}

theorem callerTurn_keeps (isOther : ∀ entity, caller ≠ .register entity) :
    Keeps scheduler (scheduler.callerTurn caller).scheduler (caller.pending scheduler.eidOf) := by
  cases caller with
  | update entity stage => exact updateCondition_keeps scheduler entity stage
  | register entity => exact absurd rfl (isOther entity)
  | stop stage => exact stopAllJobs_keeps scheduler stage
  | notify =>
      rw [callerTurn]
      dsimp only
      split <;> exact notifyDispatcher_keeps scheduler kNullUid
  | join =>
      rw [callerTurn]
      split <;> exact .refl scheduler
  | returned => exact .refl scheduler

theorem next_of_none {eids : Nat → Uid} {next : Caller} (noEntity : next.entity = none)
    (notPending : next.pending eids = none) :
    (∀ entity ∈ next.entity, entity ∈ caller.entity) ∧
      ∀ eid, next.pending eids = some eid → caller.pending eids = some eid := by
  rw [noEntity, notPending]
  constructor
  · intro entity member
    cases member
  · intro eid isPending
    cases isPending

theorem callerTurn_next (caller : Caller) :
    (∀ entity ∈ (scheduler.callerTurn caller).next.entity, entity ∈ caller.entity) ∧
      ∀ eid, (scheduler.callerTurn caller).next.pending scheduler.eidOf = some eid →
        caller.pending scheduler.eidOf = some eid := by
  cases caller with
  | update entity stage =>
      rw [callerTurn]
      dsimp only
      cases isNext : (scheduler.updateCondition entity stage).next with
      | none =>
          refine ⟨fun _ member => member, fun eid isPending => ?_⟩
          cases isPending
      | some next =>
          refine ⟨fun _ member => member, fun eid isPending => ?_⟩
          rw [Option.elim_some, Caller.pending, Option.ite_none_right_eq_some] at isPending
          rw [Caller.pending, if_pos (updateCondition_queues scheduler isNext isPending.1)]
          exact isPending.2
  | register entity | returned => exact next_of_none rfl rfl
  | stop stage =>
      rw [callerTurn]
      dsimp only
      cases (scheduler.stopAllJobs stage).next <;> exact next_of_none rfl rfl
  | notify =>
      rw [callerTurn]
      dsimp only
      split <;> exact next_of_none rfl rfl
  | join =>
      rw [callerTurn]
      split <;> exact next_of_none rfl rfl

end Threads

/-! ## Steps of the scheduler -/

section Steps

variable {before after : EventBasedScheduler heap} {workers : List Worker} {eid : Uid}

theorem Addressed.keep (addressed : Addressed before)
    (keeps : Keeps before after arriving) : Addressed after where
  entities eid entity known := by
    rw [keeps.entities] at known
    rw [keeps.allocated, keeps.eidOf]
    exact addressed.entities eid entity known
  callers caller member := by
    rw [keeps.callers] at member
    rw [keeps.allocated]
    exact addressed.callers caller member

theorem AtRest.keep (atRest : AtRest before workers eid)
    (keeps : Keeps before after arriving) (other : arriving ≠ some eid)
    (dispatcher : after.dispatcher = before.dispatcher) (async : after.async = before.async) :
    AtRest after workers eid := by
  apply atRest.transfer
  · exact keeps.named
  · exact keeps.unqueued eid other atRest.unqueued
  · exact fun _ member => .inl member
  · exact fun caller member => .inl (keeps.callers ▸ member)
  · exact .inl dispatcher
  · exact .inl async

/-- Finished entities are at rest. -/
structure Obedient (pair : EventBasedScheduler heap × List Uid) : Prop where
  addressed : Addressed pair.1
  atRest : ∀ eid ∈ pair.2, AtRest pair.1 pair.1.workers eid

variable {scheduler : EventBasedScheduler heap} {finished : List Uid} {setting : Setting}

variable {report : Report} {e : ScheduleEntity} {entity index : Nat}

theorem Obedient.keep (obedient : Obedient (before, finished))
    (keeps : Keeps before after none) (step : Local before after report) :
    Obedient (after, finished) where
  addressed := obedient.addressed.keep keeps
  atRest eid member := by
    have atRest := (obedient.atRest eid member).keep keeps (Option.some_ne_none eid).symm
      step.dispatcher step.async
    rw [← step.workers] at atRest
    exact atRest

theorem assignQueue_keeps (scheduler : EventBasedScheduler heap) (setting : Setting) (eid : Uid) :
    Keeps scheduler (scheduler.assignQueue setting eid).1 none := by
  rw [assignQueue]
  split
  next => exact .refl scheduler
  next =>
    dsimp only
    split
    next => exact .of_eq rfl rfl rfl rfl rfl
    next => exact ⟨rfl, rfl, rfl, rfl, fun _ _ unqueued => unqueued.append⟩

/-- A new entity gets its id. -/
theorem eidOf_create (objects : after.objects = Function.update before.objects before.allocated e) :
    after.eidOf = Function.update before.eidOf before.allocated e.eid := by
  funext entity
  rw [eidOf, objects]
  by_cases here : entity = before.allocated
  · rw [here, update_self, update_self]
  · rw [update_of_ne here, update_of_ne here, eidOf]

theorem Obedient.create (obedient : Obedient (before, finished))
    {stage : Update} (isNew : e.eid ∉ finished)
    (objects : after.objects = Function.update before.objects before.allocated e)
    (allocated : after.allocated = before.allocated + 1)
    (callers : after.callers = before.callers ++ [.update before.allocated stage])
    (entities : after.entities = before.entities)
    (queues : after.readyWaitTimeJobs = before.readyWaitTimeJobs)
    (workers : after.workers = before.workers) (dispatcher : after.dispatcher = before.dispatcher)
    (async : after.async = before.async) : Obedient (after, finished) := by
  have ids := eidOf_create objects
  constructor
  · constructor
    · intro other entity known
      rw [entities] at known
      obtain ⟨inside, same⟩ := obedient.addressed.entities other entity known
      rw [allocated, ids, update_of_ne (Nat.ne_of_lt inside)]
      exact ⟨Nat.lt_succ_of_lt inside, same⟩
    · intro caller member entity isEntity
      rw [callers] at member
      rw [allocated]
      cases List.mem_append.mp member with
      | inl old => exact Nat.lt_succ_of_lt (obedient.addressed.callers caller old entity isEntity)
      | inr new =>
          rw [List.mem_singleton.mp new] at isEntity
          cases isEntity
          exact Nat.lt_succ_self _
  · intro eid member
    have different : e.eid ≠ eid := fun same => isNew (same ▸ member)
    have atRest := obedient.atRest eid member
    apply atRest.transfer
    · intro entity same
      rw [ids] at same
      by_cases here : entity = before.allocated
      · rw [here, update_self] at same
        exact absurd same different
      · rwa [update_of_ne here] at same
    · rw [queues]
      exact atRest.unqueued
    · intro worker listed
      rw [workers] at listed
      exact .inl listed
    · intro caller listed
      rw [callers] at listed
      cases List.mem_append.mp listed with
      | inl old => exact .inl old
      | inr new =>
          right
          rw [List.mem_singleton.mp new, ids, Caller.pending, update_self]
          intro isPending
          exact different (Option.some.inj (Option.ite_none_right_eq_some.mp isPending).2)
    · exact .inl dispatcher
    · exact .inl async

section

variable (obedient : Obedient (scheduler, finished))
include obedient

/-- `schedule_abi` gives the id of its entity to a new number. -/
theorem Obedient.schedule (eid : Uid) (now : Int) :
    Obedient ((scheduler.schedule setting eid now).1, finished.filter (· ≠ eid)) := by
  have fewer : Obedient (scheduler, finished.filter (· ≠ eid)) :=
    ⟨obedient.addressed, fun other member => obedient.atRest other (List.mem_of_mem_filter member)⟩
  have step : Local scheduler (scheduler.assignQueue setting eid).1 .progressed :=
    assignQueue_local scheduler setting eid nofun nofun
  have assigned := fewer.keep (assignQueue_keeps scheduler setting eid) step
  rw [EventBasedScheduler.schedule]
  split
  next => exact fewer
  next => exact fewer
  next =>
    dsimp only
    split
    next => exact assigned.keep (.of_eq rfl rfl rfl rfl rfl) (local_abort _)
    next =>
      refine assigned.create ?_ rfl rfl rfl rfl rfl rfl rfl rfl
      intro member
      exact of_decide_eq_true (List.mem_filter.mp member).2 rfl

theorem Obedient.unschedule (eid : Uid) :
    Obedient ((scheduler.unschedule setting eid).1, finished) := by
  apply obedient.keep _ (unschedule_local scheduler setting eid)
  rw [EventBasedScheduler.unschedule]
  split
  next => exact .refl scheduler
  next => exact .refl scheduler
  next =>
    split
    next => exact .of_eq rfl rfl rfl rfl rfl
    next => exact .modify rfl rfl rfl rfl rfl rfl

theorem Obedient.eventNotify (eid : Uid)
    (event : GxfEvent) : Obedient ((scheduler.eventNotify eid event).1, finished) := by
  apply obedient.keep _ (eventNotify_local scheduler eid event)
  rw [EventBasedScheduler.eventNotify]
  split
  next => exact .refl scheduler
  next =>
    split
    next => exact .of_eq rfl rfl rfl rfl rfl
    next => exact notifyDispatcher_keeps scheduler eid

theorem Obedient.maxDurationStep (outside : Outside) :
    Obedient ((scheduler.maxDurationStep outside).1, finished) := by
  apply obedient.keep _ (maxDurationStep_local scheduler outside)
  rw [EventBasedScheduler.maxDurationStep]
  split
  next => exact .refl scheduler
  next => exact .refl scheduler
  next => exact .of_eq rfl rfl rfl rfl rfl
  next stage _ =>
    have keeps : Keeps scheduler (scheduler.stopAllJobs stage).scheduler none :=
      stopAllJobs_keeps scheduler stage
    exact keeps.andThen rfl rfl rfl rfl rfl

theorem Obedient.runAsync : Obedient ((scheduler.runAsync setting).1, finished) := by
  apply obedient.keep _ (runAsync_local scheduler setting)
  rw [EventBasedScheduler.runAsync]
  split
  next => exact .refl scheduler
  next => split <;> exact .of_eq rfl rfl rfl rfl rfl

/-- `stop_abi` adds a call that is about no entity. -/
theorem Obedient.stop : Obedient (scheduler.stop.1, finished) := by
  constructor
  · refine ⟨obedient.addressed.entities, fun caller member entity isEntity => ?_⟩
    cases List.mem_append.mp member with
    | inl old => exact obedient.addressed.callers caller old entity isEntity
    | inr new =>
        rw [List.mem_singleton.mp new] at isEntity
        cases isEntity
  · intro eid member
    have atRest := obedient.atRest eid member
    refine ⟨atRest.unqueued, atRest.workers, fun caller listed => ?_, atRest.dispatcher,
      atRest.async⟩
    cases List.mem_append.mp listed with
    | inl old => exact atRest.callers caller old
    | inr new =>
        rw [List.mem_singleton.mp new]
        exact (Option.some_ne_none eid).symm

/-- The threads that `runAsync_abi` creates have no entity at first. -/
theorem Obedient.runAsyncStep : Obedient ((scheduler.runAsyncStep setting).1, finished) := by
  rw [EventBasedScheduler.runAsyncStep]
  split
  next => exact obedient
  next => exact obedient
  next =>
    split
    next jobs stored =>
      have keeps : Keeps scheduler (scheduler.setJobs _ { jobs with isRunning := true }) none :=
        keeps_setRunning scheduler stored true
      refine ⟨obedient.addressed.keep (keeps.andThen rfl rfl rfl rfl rfl), fun eid member => ?_⟩
      have atRest := obedient.atRest eid member
      exact ⟨keeps.unqueued eid (Option.some_ne_none eid).symm atRest.unqueued, atRest.workers,
        atRest.callers, atRest.dispatcher, atRest.async⟩
    next =>
      refine ⟨⟨obedient.addressed.entities, obedient.addressed.callers⟩, fun eid member => ?_⟩
      have atRest := obedient.atRest eid member
      exact ⟨atRest.unqueued, atRest.workers, atRest.callers, (Option.some_ne_none eid).symm,
        (Option.some_ne_none eid).symm⟩
  next =>
    refine ⟨⟨obedient.addressed.entities, obedient.addressed.callers⟩, fun eid member => ?_⟩
    have atRest := obedient.atRest eid member
    refine ⟨atRest.unqueued, fun worker listed => ?_, atRest.callers, atRest.dispatcher,
      atRest.async⟩
    cases List.mem_append.mp listed with
    | inl old => exact atRest.workers worker old
    | inr new =>
        rw [List.mem_singleton.mp new]
        exact (Option.some_ne_none eid).symm
  all_goals
    refine ⟨⟨obedient.addressed.entities, obedient.addressed.callers⟩, fun eid member => ?_⟩
    have atRest := obedient.atRest eid member
    exact ⟨atRest.unqueued, atRest.workers, atRest.callers, atRest.dispatcher, atRest.async⟩

end

/-- At the end of `schedule_abi` the entity is found under its id. -/
theorem Addressed.register (addressed : Addressed scheduler)
    (inside : entity < scheduler.allocated) :
    Addressed { scheduler with
      entities := Function.update scheduler.entities (scheduler.eidOf entity) (some entity) } where
  entities eid other known := by
    dsimp only at known
    by_cases here : eid = scheduler.eidOf entity
    · rw [here, update_self] at known
      cases known
      exact ⟨inside, here.symm⟩
    · rw [update_of_ne here] at known
      exact addressed.entities eid other known
  callers := addressed.callers

theorem Addressed.setCaller (addressed : Addressed scheduler) {caller next : Caller}
    (stored : scheduler.callers[index]? = some caller)
    (sameEntity : ∀ entity ∈ next.entity, entity ∈ caller.entity) :
    Addressed { scheduler with callers := scheduler.callers.set index next } where
  entities := addressed.entities
  callers other member entity isEntity := by
    cases List.mem_or_eq_of_mem_set member with
    | inl old => exact addressed.callers other old entity isEntity
    | inr new =>
        rw [new] at isEntity
        exact addressed.callers caller (List.mem_of_getElem? stored) entity
          (sameEntity entity isEntity)

theorem Obedient.caller (obedient : Obedient (scheduler, finished)) (index : Nat) :
    Obedient ((scheduler.caller index).1, finished) := by
  have step := caller_local scheduler index
  rw [EventBasedScheduler.caller] at step ⊢
  cases stored : scheduler.callers[index]? with
  | none => exact obedient
  | some caller =>
      rw [stored] at step
      dsimp only at step ⊢
      have next := callerTurn_next scheduler caller
      have isListed := List.mem_of_getElem? stored
      by_cases registers : ∃ entity, caller = .register entity
      · obtain ⟨entity, rfl⟩ := registers
        have inside := obedient.addressed.callers _ isListed entity rfl
        refine ⟨(obedient.addressed.register inside).setCaller stored next.1, fun eid member => ?_⟩
        have atRest := obedient.atRest eid member
        refine ⟨atRest.unqueued, atRest.workers, fun other listed => ?_, atRest.dispatcher,
          atRest.async⟩
        cases List.mem_or_eq_of_mem_set listed with
        | inl old => exact atRest.callers other old
        | inr new =>
            rw [new]
            exact (Option.some_ne_none eid).symm
      · have keeps := callerTurn_keeps scheduler (not_exists.mp registers)
        have addressed := obedient.addressed.keep keeps
        refine ⟨addressed.setCaller (keeps.callers ▸ stored) next.1, fun eid member => ?_⟩
        have atRest := obedient.atRest eid member
        have other := atRest.callers caller isListed
        have sameWorkers := step.workers
        apply atRest.transfer
        · exact keeps.named
        · exact keeps.unqueued eid other atRest.unqueued
        · intro worker listed
          exact .inl (sameWorkers ▸ listed)
        · intro others listed
          cases List.mem_or_eq_of_mem_set listed with
          | inl old => exact .inl (keeps.callers ▸ old)
          | inr new =>
              right
              rw [new]
              intro isPending
              apply other
              apply next.2 eid
              rw [← keeps.eidOf]
              exact isPending
        · exact .inl step.dispatcher
        · exact .inl step.async

theorem mem_set_worker {next worker : Worker} (member : worker ∈ workers.set index next) :
    worker = next ∨ worker ∈ workers.eraseIdx index := by
  obtain ⟨position, listed⟩ := List.getElem?_of_mem member
  rw [List.getElem?_set] at listed
  split at listed
  next =>
    split at listed
    next => exact .inl (Option.some.inj listed).symm
    next => cases listed
  next different =>
    exact .inr (List.mem_eraseIdx_iff_getElem?.mpr ⟨position, Ne.symm different, listed⟩)

/-- What an answer of `executeEntity` says about its worker. -/
theorem executing_eq_some : scheduler.executing index = some eid ↔
      ∃ thread entity, scheduler.workers[index]? = some ⟨thread, .execute entity⟩ ∧
        scheduler.eidOf entity = eid := by
  rw [executing]
  split
  next thread entity stored =>
    rw [Option.some.injEq]
    constructor
    · exact fun same => ⟨thread, entity, stored, same⟩
    · rintro ⟨_, _, again, same⟩
      rw [stored] at again
      cases again
      exact same
  next other =>
    refine iff_of_false nofun ?_
    rintro ⟨thread, entity, stored, -⟩
    exact other thread entity stored

theorem Obedient.worker_atRest (obedient : Obedient (scheduler, finished)) (index : Nat)
    (outside : Outside) (member : eid ∈ finished) :
    AtRest (scheduler.worker index outside).1 (scheduler.worker index outside).1.workers eid := by
  have atRest := obedient.atRest eid member
  rw [EventBasedScheduler.worker]
  split
  next => exact atRest
  next worker stored =>
    have keeps := worker_keeps scheduler outside worker.thread worker.phase
    have step := worker_step scheduler outside worker.thread worker.phase
    have other := atRest.workers worker (List.mem_of_getElem? stored)
    apply atRest.transfer
    · exact keeps.named
    · exact keeps.unqueued eid other atRest.unqueued
    · intro others listed
      cases List.mem_or_eq_of_mem_set listed with
      | inl old => exact .inl old
      | inr new =>
          right
          rw [new]
          intro isPending
          apply other
          apply worker_pending scheduler outside obedient.addressed atRest.unqueued
          rw [← keeps.eidOf]
          exact isPending
    · exact fun caller listed => .inl (keeps.callers ▸ listed)
    · exact .inl step.carries.dispatcher
    · exact .inl step.carries.async

/-- A worker whose execution was answered `NEVER` has not taken its entity any more. -/
theorem AtRest.finish {thread : Uid} {outside : Outside}
    (stored : scheduler.workers[index]? = some ⟨thread, .execute entity⟩)
    (answers : outside.answersNever = true)
    (atRest : AtRest scheduler (scheduler.workers.eraseIdx index) eid) :
    AtRest (scheduler.worker index outside).1 (scheduler.worker index outside).1.workers eid := by
  rw [EventBasedScheduler.worker, stored]
  dsimp only
  rw [workerThreadEntrance]
  rw [Outside.answersNever] at answers
  split
  next failed =>
    rw [failed] at answers
    cases answers
  next =>
    refine ⟨atRest.unqueued, fun worker listed => ?_, atRest.callers, atRest.dispatcher,
      atRest.async⟩
    cases mem_set_worker listed with
    | inl new =>
        rw [new]
        exact (Option.some_ne_none eid).symm
    | inr old => exact atRest.workers worker old

theorem Obedient.worker (obedient : Obedient (scheduler, finished)) (index : Nat)
    (outside : Outside) (respects : Respects (scheduler, finished) (.worker index outside)) :
    Obedient ((scheduler.worker index outside).1,
      finishedAfter scheduler finished (.worker index outside)) := by
  constructor
  · rw [EventBasedScheduler.worker]
    split
    next => exact obedient.addressed
    next worker _ =>
      have keeps := worker_keeps scheduler outside worker.thread worker.phase
      exact obedient.addressed.keep (keeps.andThen rfl rfl rfl rfl rfl)
  · intro eid member
    rw [finishedAfter] at member
    split at member
    next answers =>
      cases List.mem_append.mp member with
      | inl new =>
          have isExecuting := Option.mem_toList.mp new
          obtain ⟨thread, entity, stored, -⟩ := executing_eq_some.mp isExecuting
          exact AtRest.finish stored answers (respects answers eid isExecuting)
      | inr old => exact obedient.worker_atRest index outside old
    next => exact obedient.worker_atRest index outside member

theorem EventStep.sameThreads {stage next : Option Evaluation}
    (step : EventStep setting before stage after report next) :
    after.workers = before.workers ∧ after.dispatcher = before.dispatcher ∧
      after.async = before.async := by
  cases step with
  | other step => exact ⟨step.workers, step.dispatcher, step.async⟩
  | goesOn | returns => exact ⟨rfl, rfl, rfl⟩

theorem Obedient.event (obedient : Obedient (before, finished))
    {dispatcher : DispatcherPhase} {async : AsyncPhase} (keeps : Keeps before after arriving)
    (workers : after.workers = before.workers) (others : ∀ eid ∈ finished, arriving ≠ some eid)
    (ofDispatcher : ∀ eid ∈ finished, dispatcher.pending before.eidOf ≠ some eid)
    (ofAsync : ∀ eid ∈ finished, async.pending before.eidOf ≠ some eid) :
    Obedient ({ after with dispatcher, async }, finished) := by
  refine ⟨obedient.addressed.keep (keeps.andThen rfl rfl rfl rfl rfl), fun eid member => ?_⟩
  have atRest := obedient.atRest eid member
  apply atRest.transfer
  · exact keeps.named
  · exact keeps.unqueued eid (others eid member) atRest.unqueued
  · exact fun _ listed => .inl (workers ▸ listed)
  · exact fun caller listed => .inl (keeps.callers ▸ listed)
  · right
    intro isPending
    apply ofDispatcher eid member
    rw [← keeps.eidOf]
    exact isPending
  · right
    intro isPending
    apply ofAsync eid member
    rw [← keeps.eidOf]
    exact isPending

section

variable (obedient : Obedient (scheduler, finished))
include obedient

theorem Obedient.dispatch (outside : Outside)
    (respects : Respects (scheduler, finished) (.dispatcher outside)) :
    Obedient ((scheduler.dispatch setting outside).1, finished) := by
  have step := dispatcher_step scheduler setting outside scheduler.dispatcher
  obtain ⟨workers, -, async⟩ := step.sameThreads
  apply obedient.event (dispatcher_keeps scheduler outside setting scheduler.dispatcher) workers
  · exact fun eid member => (obedient.atRest eid member).dispatcher
  · intro eid member isPending
    obtain before | ⟨entity, isChecked, called, same⟩ :=
      dispatcher_pending scheduler outside setting isPending
    · exact (obedient.atRest eid member).dispatcher before
    · exact respects entity isChecked called (same ▸ member)
  · intro eid member
    rw [async]
    exact (obedient.atRest eid member).async

theorem Obedient.asyncEvent (outside : Outside)
    (respects : Respects (scheduler, finished) (.async outside)) :
    Obedient ((scheduler.asyncEvent setting outside).1, finished) := by
  have step := async_step scheduler setting outside scheduler.async
  obtain ⟨workers, dispatcher, -⟩ := step.sameThreads
  apply obedient.event (async_keeps scheduler outside setting scheduler.async) workers
  · exact fun eid member => (obedient.atRest eid member).async
  · intro eid member
    rw [dispatcher]
    exact (obedient.atRest eid member).dispatcher
  · intro eid member isPending
    obtain before | ⟨entity, isChecked, called, same⟩ :=
      async_pending scheduler outside setting isPending
    · exact (obedient.atRest eid member).async before
    · exact respects entity isChecked called (same ▸ member)

theorem Obedient.execute (op : Op) (respects : Respects (scheduler, finished) op) :
    Obedient ((scheduler.execute setting op).1, finishedAfter scheduler finished op) := by
  cases op with
  | schedule eid now => exact obedient.schedule eid now
  | unschedule eid => exact obedient.unschedule eid
  | eventNotify eid event => exact obedient.eventNotify eid event
  | runAsync => exact obedient.runAsync
  | stop => exact obedient.stop
  | main => exact obedient.runAsyncStep
  | caller index => exact obedient.caller index
  | worker index outside => exact obedient.worker index outside respects
  | dispatcher outside => exact obedient.dispatch outside respects
  | async outside => exact obedient.asyncEvent outside respects
  | maxDuration outside => exact obedient.maxDurationStep outside

/-- A worker does not execute an entity at rest. -/
theorem Obedient.obeys (op : Op) : Obeys (scheduler, finished) op := by
  cases op with
  | worker index outside =>
      intro eid isExecuting member
      obtain ⟨thread, entity, stored, same⟩ := executing_eq_some.mp isExecuting
      apply (obedient.atRest eid member).workers _ (List.mem_of_getElem? stored)
      exact congrArg some same
  | schedule eid now | unschedule eid | eventNotify eid event | runAsync | stop | main
  | caller index | dispatcher outside | async outside | maxDuration outside => exact trivial

end

theorem obedient_init (heap : PriorityQueue (Item Uid) itemPriorityCmp) (setting : Setting) :
    Obedient (init heap setting, []) :=
  ⟨⟨nofun, nofun⟩, nofun⟩

end Steps

/-- In every run whose steps respect the verdicts, whatever the number of workers and the order
of the steps of all threads, an entity for which `executeEntity` has answered `NEVER` is not
executed until it is scheduled again. -/
theorem run_obeys (heap : PriorityQueue (Item Uid) itemPriorityCmp) (setting : Setting)
    (ops : List Op) (respects : (tracked heap setting).Along Respects (init heap setting, []) ops) :
    (tracked heap setting).Along Obeys (init heap setting, []) ops := by
  apply System.along_of_invariant _ _ (obedient_init heap setting) respects
  · rintro ⟨scheduler, finished⟩ op obedient respects
    rw [tracked, system]
    dsimp only
    split
    next => exact obedient
    next => exact obedient.execute op respects
  · rintro ⟨scheduler, finished⟩ op obedient _
    exact obedient.obeys op

/-- An executor that answers `NEVER` for an execution, with what a check finds. -/
def stopping (type : SchedulingConditionType) : Outside :=
  { finding type with executed := .ok ⟨.NEVER, 0⟩ }

/-- The worker executes the entity, and the dispatcher checks it. -/
def oneRound (type : SchedulingConditionType) : List Op :=
  startup ++ List.replicate 9 (.worker 0 (stopping type)) ++
    List.replicate 8 (.dispatcher (stopping type))

/-- The terms say `NEVER` as well: the entity is not executed again. -/
theorem run_obeys_terms :
    let start := (init (listHeap Uid) oneWorker, ([] : List Uid))
    ((tracked _ oneWorker).run start (oneRound .NEVER)).2 = [7] ∧
      (tracked _ oneWorker).Along Obeys start
        (oneRound .NEVER ++ List.replicate 5 (.worker 0 (stopping .NEVER))) :=
  ⟨by decide, run_obeys (listHeap Uid) oneWorker _ (by decide)⟩

/-- The controller has stopped the entity, but its terms find it ready: it is executed
again. -/
theorem finished_executed_again :
    let pair := (tracked _ oneWorker).run (init (listHeap Uid) oneWorker, [])
      (oneRound .READY ++ List.replicate 5 (.worker 0 (stopping .READY)))
    pair.2 = [7] ∧ pair.1.executing 0 = some 7 ∧ ¬Obeys pair (.worker 0 (stopping .READY)) := by
  decide

end Gxf.Std.EventBasedScheduler
