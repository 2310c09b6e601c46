import Gxf.Std.MultiThreadScheduler.Places

/-!
# The places of the entities stay sound

One lemma for every kind of step: the calls from outside, the dispatcher, the workers, and the
thread that matches notifications.
-/

namespace Gxf.Std

open Gxf.Core Gxf.Lib TimedJobList DispatcherThread

namespace MultiThreadRun

open MultiThreadScheduler

variable {heap : PriorityQueue (Item Uid) itemPriorityCmp}
variable {run next : MultiThreadRun heap} {eid other : Uid} {place : Place}
variable {setting : Setting} {input : Input}

namespace Lists

theorem start : Lists (start heap) := by
  have jobs : Jobs { TimedJobList.create heap with isRunning := true } := by
    constructor
    · exact Consistent.create.nodup
    · intro job isWaiting
      exact (Consistent.create.items_eq job).mpr isWaiting
  refine ⟨⟨_, rfl, jobs⟩, ⟨_, rfl, jobs⟩, fun eid refused => ?_, rfl⟩
  exact absurd (refused_some.mp refused) (Finset.notMem_empty eid)

theorem congr (lists : Lists run) (check : Kept next.scheduler.checkJobs)
    (worker : next.scheduler.workerJobs = run.scheduler.workerJobs)
    (event : next.scheduler.eventWaiting.isSome = run.scheduler.eventWaiting.isSome) :
    Lists next := by
  refine ⟨check, worker ▸ lists.worker, fun eid => ?_, event.trans lists.event⟩
  rw [worker]
  exact lists.exact eid

theorem insertCheck (lists : Lists run) (eid : Uid) (targetTime : Int) :
    Lists (run.insertCheck eid targetTime).1 :=
  lists.congr lists.check.insertJob rfl rfl

theorem insertWorker (lists : Lists run) (eid : Uid) (targetTime : Int) :
    Lists (run.insertWorker eid targetTime).1 := by
  refine ⟨lists.check, lists.worker.insertJob, fun other refused => ?_, lists.event⟩
  by_cases known : Refused run.scheduler.workerJobs eid
  · have same : (insertJob run.scheduler.workerJobs ⟨eid, targetTime, kMaxSlipNs, 1⟩).1 =
        run.scheduler.workerJobs := insertJob_refused lists.worker known
    simp only [MultiThreadRun.insertWorker, same] at refused ⊢
    exact lists.exact other refused
  · refine (queued_insertJob lists.worker known).mpr ?_
    exact ((refused_insertJob lists.worker).mp refused).imp_right (lists.exact other)

end Lists

section

variable (sound : Sound run)
include sound

theorem Sound.rest {scheduler : MultiThreadScheduler heap}
    (check : scheduler.checkJobs = run.scheduler.checkJobs)
    (worker : scheduler.workerJobs = run.scheduler.workerJobs)
    (event : scheduler.eventWaiting = run.scheduler.eventWaiting)
    (conditions : ∀ other, other ∈ scheduler.conditions ↔ other ∈ run.scheduler.conditions) :
    Sound { run with scheduler } := by
  refine sound.stay ⟨?_, ?_, ?_, ?_⟩ ⟨fun place other => ?_, conditions, id, fun _ _ => .inl,
    fun other => ?_, fun _ _ => .inl⟩ sound.drains
  · exact check.symm ▸ sound.check
  · exact worker.symm ▸ sound.worker
  · simp only [worker]
    exact sound.exact
  · exact event.symm ▸ sound.event
  · cases place with
    | check => simp only [At, check]
    | worker => simp only [At, worker]
    | event => simp only [At, event]
    | _ => exact Iff.rfl
  · simp only [check]
    exact id

/-- A refused job changes nothing but the condition. -/
theorem Sound.scheduleAbi (eid : Uid) (lookup : Except GxfResult Unit)
    (now : Int) : Sound (run.scheduleAbi setting eid lookup now).1 := by
  unfold MultiThreadRun.scheduleAbi
  split
  next => exact sound
  next =>
    split
    next => exact sound
    next =>
      split
      next recorded =>
        obtain ⟨_, _, _, _, updated⟩ := @update_recorded _ eid run ⟨.READY, now⟩ now recorded
        rw [updated, if_neg nofun]
        refine sound.rest rfl rfl rfl fun other => ?_
        rw [AList.mem_insert]
        exact or_iff_right_of_imp fun same => same ▸ recorded
      next fresh =>
        have lists : Lists (run.update eid ⟨.READY, now⟩ now) := by
          rw [update_new fresh]
          exact ⟨sound.check.insertJob, sound.worker, sound.exact, sound.event⟩
        rw [update_new fresh] at lists ⊢
        by_cases refused : Refused run.scheduler.checkJobs eid
        · -- The scheduler stops, and the job was among those that were gone through.
          have same : (insertJob run.scheduler.checkJobs ⟨eid, now, kMaxSlipNs, 0⟩).1 =
            run.scheduler.checkJobs := insertJob_refused sound.check refused
          rw [same] at lists ⊢
          have elsewhere : ¬run.At .check eid := fun queued => fresh (sound.custody.known queued)
          refine sound.lose lists (fun place _ there => by cases place <;> exact there)
            (fun other known => AList.mem_insert _ |>.mpr (.inr known))
            (sound.stale eid refused elsewhere).1 (fun _ _ => id) (fun _ => id) (fun _ => id)
            fun _ _ => id
        · refine sound.enter lists fresh (fun place other => ?_) (fun _ => AList.mem_insert _) rfl
            rfl
            rfl rfl fun other => (refused_insertJob sound.check).mp
          cases place with
          | check => exact (queued_insertJob sound.check refused).trans (by simp [At])
          | _ => exact (or_iff_right (by simp)).symm

theorem Sound.unscheduleAbi (eid : Uid) (lookup : Except GxfResult Unit) :
    Sound (run.unscheduleAbi setting eid lookup).1 := by
  unfold MultiThreadRun.unscheduleAbi
  split
  next => exact sound
  next =>
    split
    next => exact sound
    next => exact sound.rest rfl rfl rfl fun _ => Iff.rfl

theorem Sound.eventNotifyAbi (eid : Uid) (event : GxfEvent) :
    Sound (run.eventNotifyAbi eid event).1 := by
  unfold MultiThreadRun.eventNotifyAbi
  split
  next => exact sound
  next => exact sound.rest rfl rfl rfl fun _ => Iff.rfl

theorem Sound.stopAllJobs : Sound run.stopAllJobs := by
  refine sound.stay ⟨sound.check, sound.worker, sound.exact, sound.event⟩ ?_ fun _ => rfl
  exact ⟨fun place _ => by cases place <;> exact Iff.rfl, fun _ => Iff.rfl, nofun,
    fun _ _ => .inl, fun _ => id, fun _ _ => .inl⟩

theorem Sound.halt (call : Halt) : Sound (run.halt call).1 := by
  unfold MultiThreadRun.halt
  split
  next => exact sound
  next stopped =>
    rw [Bool.not_eq_true] at stopped
    have drains (_ : run.dispatcher.drains = true) : run.running = false := stopped
    cases call with
    | checkJobs =>
        obtain ⟨kept, waits, looked⟩ := sound.check.stop
        refine sound.stay ⟨kept, sound.worker, sound.exact, sound.event⟩ ?_ drains
        refine ⟨fun place other => ?_, fun _ => Iff.rfl, id, fun _ _ => .inl,
          fun other => (looked other).mp, fun _ _ => .inl⟩
        cases place with
        | check => exact waits other
        | _ => exact Iff.rfl
    | workerJobs =>
        obtain ⟨kept, waits, looked⟩ := sound.worker.stop
        have exact (eid : Uid) (refused : Refused _ eid) : Queued _ eid :=
          (waits eid).mpr (sound.exact eid ((looked eid).mp refused))
        refine sound.stay ⟨sound.check, kept, exact, sound.event⟩ ?_ drains
        refine ⟨fun place other => ?_, fun _ => Iff.rfl, id, fun _ _ => .inl,
          fun _ => id, fun _ _ => .inl⟩
        cases place with
        | worker => exact waits other
        | _ => exact Iff.rfl
    | eventWaiting =>
        refine sound.lose ⟨sound.check, sound.worker, sound.exact, ?_⟩ (fun place other there => ?_)
          (fun _ => id) stopped (fun _ _ => id) (fun _ => id) (fun _ => id) fun _ _ => id
        · rw [Option.isSome_map]
          exact sound.event
        · cases place with
          | event => exact absurd there not_stored_clear
          | _ => exact there
    | eventNotified | unscheduleEntities => exact sound.rest rfl rfl rfl fun _ => Iff.rfl

/-! ## The dispatcher -/

theorem Sound.removeRequest (eid : Uid) : Sound (run.removeRequest eid) :=
  sound.rest rfl rfl rfl fun _ => Iff.rfl

theorem Sound.fail (code : GxfResult) : Sound (run.fail code) :=
  have failed : Sound { run with scheduler := { run.scheduler with threadErrorCode := code } } :=
    sound.rest rfl rfl rfl fun _ => Iff.rfl
  failed.stopAllJobs

end

variable {dispatcher : DispatcherThread} {verdict : Verdict} {rest : List Uid}

section

variable (sound : Sound run)
include sound

theorem Sound.goOn {point : DispatcherThread}
    (isAt : run.dispatcher = point) (current : dispatcher.current = point.current)
    (drained : dispatcher.drained = point.drained)
    (drains : dispatcher.drains = true → run.running = false) :
    Sound { run with dispatcher } := by
  refine sound.stay ⟨sound.check, sound.worker, sound.exact, sound.event⟩ ?_ drains
  refine ⟨fun place other => ?_, fun _ => Iff.rfl, id, fun _ _ => .inl, fun _ => id,
    fun _ _ => .inl⟩
  cases place with
  | dispatcher => simp only [At, current, isAt]
  | drained => simp only [At, drained, isAt]
  | _ => exact Iff.rfl

theorem Sound.drop (stopped : run.running = false)
    {point : DispatcherThread} (isAt : run.dispatcher = point)
    (current : ∀ other, dispatcher.current = some other → point.current = some other)
    (drained : ∀ other, dispatcher.drained = some other → point.drained = some other) :
    Sound { run with dispatcher } := by
  refine sound.lose ⟨sound.check, sound.worker, sound.exact, sound.event⟩
    (fun place other there => ?_) (fun _ => id) stopped (fun _ _ => id) (fun _ => id) (fun _ => id)
    fun _ _ => id
  cases place with
  | dispatcher =>
      rw [At, isAt]
      exact current other there
  | drained =>
      rw [At, isAt]
      exact drained other there
  | _ => exact there

theorem Sound.dispatchWaiting (isAt : run.dispatcher = .waiting) :
    Sound (run.dispatch setting input).1 := by
  obtain ⟨kept, taken⟩ := sound.check.takeJob input.now
  simp only [dispatch, isAt]
  generalize takeJob run.scheduler.checkJobs input.now = result at kept taken ⊢
  obtain ⟨jobs, answer⟩ := result
  cases taken with
  | handedOut eid queued waits looked =>
      have here : run.At .check eid := queued
      refine sound.move ⟨kept, sound.worker, sound.exact, sound.event⟩ .check .dispatcher
        (sound.custody.known here) (fun _ => here) (sound.custody.only here)
        ⟨fun place other => ?_, rfl, rfl, fun _ _ isFound => ⟨isFound, nofun⟩,
          fun other refused => .inl ((looked other).mp refused).1, fun _ _ => id⟩
        (fun _ => .inr fun refused => ((looked eid).mp refused).2 rfl) (fun _ => .inl rfl) nofun
      cases place <;> simp [At, isAt, waits, DispatcherThread.current, drained,
        eq_comm]
  | nothing answer none waits looked =>
      have stays (dispatcher : DispatcherThread)
          (current : dispatcher.current = run.dispatcher.current)
          (drained : dispatcher.drained = run.dispatcher.drained)
          (drains : dispatcher.drains = false) :
          Sound { run with
            scheduler := { run.scheduler with checkJobs := jobs }
            dispatcher } := by
        refine sound.stay ⟨kept, sound.worker, sound.exact, sound.event⟩
          ⟨fun place other => ?_, fun _ => Iff.rfl, id, fun _ _ => .inl,
            fun other => (looked other).mp, fun _ _ => .inl⟩ (by simp [drains])
        cases place with
        | check => exact waits other
        | dispatcher => simp only [At, current]
        | drained => simp only [At, drained]
        | _ => exact Iff.rfl
      cases answer with
      | handedOut eid => exact absurd rfl (none eid)
      | stopped => exact stays .exited (by rw [isAt]; rfl) (by rw [isAt]; rfl) rfl
      | _ => exact isAt ▸ stays run.dispatcher rfl rfl (by rw [isAt]; rfl)

theorem Sound.dispatchJudged
    (isAt : run.dispatcher = .judged verdict) : Sound (run.dispatch setting input).1 := by
  have here : run.At .dispatcher verdict.eid := by
    rw [At, isAt]
    rfl
  simp only [dispatch, isAt]
  obtain ⟨_, _, _, _, updated⟩ :=
    @update_recorded _ verdict.eid run verdict.condition input.now (sound.custody.known here)
  rw [updated]
  by_cases never : verdict.condition.type = .NEVER
  · simp only [if_pos never]
    refine sound.leave ⟨sound.check, sound.worker, sound.exact, sound.event⟩ here ⟨by simp, by simp⟩
      (fun place other => ?_) (fun other => AList.mem_erase.trans and_comm) rfl rfl rfl
      (fun _ _ => id) (fun same => by cases same)
    cases place <;> simp [At, isAt, never, Verdict.held, DispatcherThread.current,
      drained, eq_comm]
  · simp only [if_neg never]
    refine sound.stay ⟨sound.check, sound.worker, sound.exact, sound.event⟩
      ⟨fun place other => ?_, fun other => ?_, id, fun _ _ => .inl, fun _ => id,
        fun _ _ => .inl⟩ (fun same => by cases same)
    · cases place <;> simp [At, isAt, never, Verdict.held, DispatcherThread.current,
        drained]
    · rw [AList.mem_insert]
      exact or_iff_right_of_imp fun same => same ▸ sound.custody.known here

/-- One of the jobs that are left is taken. -/
theorem Sound.dispatchDraining
    (isAt : run.dispatcher = .draining verdict) : Sound (run.dispatch setting input).1 := by
  have stopped : run.running = false := sound.drains (by rw [isAt]; rfl)
  obtain ⟨kept, popped⟩ := sound.check.popJob
  simp only [dispatch, isAt]
  generalize popJob run.scheduler.checkJobs = result at kept popped ⊢
  obtain ⟨jobs, answer⟩ := result
  cases popped with
  | error code same => exact sound.goOn isAt rfl rfl fun _ => stopped
  | ok other queued waits looked =>
      have here : run.At .check other := queued
      refine sound.move ⟨kept, sound.worker, sound.exact, sound.event⟩ .check .drained
        (sound.custody.known here) (fun _ => here) (sound.custody.only here)
        ⟨fun place other => ?_, rfl, rfl, fun _ _ isFound => ⟨isFound, nofun⟩,
          fun other refused => .inl (looked other refused), fun _ _ => id⟩
        (fun _ => .inl ⟨rfl, stopped⟩) nofun fun _ => stopped
      cases place <;> simp [At, isAt, waits, DispatcherThread.current, drained,
        eq_comm]

theorem Sound.acceptsWorker {source : Place} (here : run.At source eid)
    (inHand : .worker ≠ source) : ¬Refused run.scheduler.workerJobs eid :=
  fun refused => sound.elsewhere here inHand (sound.exact eid refused)

/-- One of the jobs that are left goes to the workers. -/
theorem Sound.dispatchRehanding
    (isAt : run.dispatcher = .rehanding verdict eid) : Sound (run.dispatch setting input).1 := by
  have stopped : run.running = false := sound.drains (by rw [isAt]; rfl)
  have here : run.At .drained eid := by
    rw [At, isAt]
    rfl
  have accepted := sound.acceptsWorker here (by simp)
  simp only [dispatch, isAt]
  refine sound.move (sound.toLists.insertWorker eid input.now |>.congr sound.check rfl rfl)
    .drained .worker (sound.custody.known here) (fun _ => here) (sound.custody.only here)
    ⟨fun place other => ?_, rfl, rfl, fun _ _ isFound => ⟨isFound, by simp⟩,
      fun _ => .inl, fun _ _ => id⟩ (by simp) (by simp) fun _ => stopped
  cases place with
  | worker => exact (queued_insertJob sound.worker accepted).trans (by simp [At])
  | _ => simp [At, isAt, insertWorker, DispatcherThread.current, drained, eq_comm]

theorem Sound.dispatchPlacing
    (isAt : run.dispatcher = .placing verdict) : Sound (run.dispatch setting input).1 := by
  simp only [dispatch, isAt, MultiThreadRun.place]
  by_cases never : verdict.condition.type = .NEVER
  · simp only [never]
    exact sound.goOn isAt (if_pos never).symm rfl (fun same => by cases same)
  have held : verdict.held = some verdict.eid := if_neg never
  have here : run.At .dispatcher verdict.eid := by
    rw [At, isAt]
    exact held
  have isLive := sound.custody.known here
  have only := sound.custody.only here
  -- The two lists of jobs accept the entity, which is on none of them.
  have toWorker (targetTime : Int) :
      Sound ({ run with dispatcher := .looping }.insertWorker verdict.eid targetTime).1 := by
    have accepted := sound.acceptsWorker here (by simp)
    refine sound.move (sound.toLists.insertWorker verdict.eid targetTime |>.congr sound.check rfl
      rfl)
      .dispatcher .worker isLive (fun _ => here) only ⟨fun place other => ?_, rfl, rfl,
        fun _ _ isFound => ⟨isFound, by simp⟩, fun _ => .inl, fun _ _ => id⟩ (by simp) (by simp)
        (fun same => by cases same)
    cases place with
    | worker => exact (queued_insertJob sound.worker accepted).trans (by simp [At])
    | _ => simp [At, isAt, held, insertWorker, DispatcherThread.current, drained,
        eq_comm]
  have toCheck (targetTime : Int) :
      Sound ({ run with dispatcher := .looping }.insertCheck verdict.eid targetTime).1 := by
    have accepted := sound.accepts (.dispatcher here) (sound.elsewhere here (by simp))
    refine sound.move (sound.toLists.insertCheck verdict.eid targetTime |>.congr
      sound.check.insertJob rfl rfl) .dispatcher .check isLive (fun _ => here) only
      ⟨fun place other => ?_, rfl, rfl, fun _ _ isFound => ⟨isFound, by simp⟩,
        fun other refused => ?_,
        fun _ _ => id⟩ (by simp) (by simp) (fun same => by cases same)
    · cases place with
      | check => exact (queued_insertJob sound.check accepted).trans (by simp [At])
      | _ => simp [At, isAt, held, insertCheck, DispatcherThread.current, drained,
          eq_comm]
    · obtain same | before := (refused_insertJob sound.check).mp refused
      · exact .inr ⟨rfl, same⟩
      · exact .inl before
  cases isType : verdict.condition.type with
  | READY => exact toWorker verdict.now
  | WAIT_TIME => exact toWorker verdict.condition.targetTimestamp
  | WAIT => exact toCheck (verdict.now + setting.recessionPeriodNs)
  | NEVER => exact absurd isType never
  | WAIT_EVENT =>
      refine sound.move ⟨sound.check, sound.worker, sound.exact, ?_⟩ .dispatcher .event isLive
        (fun _ => here) only ⟨fun place other => ?_, rfl, rfl,
          fun _ _ isFound => ⟨isFound, by simp⟩, fun _ => .inl, fun _ _ => id⟩ (by simp)
        (fun _ => .inr (.dispatcher here)) (fun same => by cases same)
      · rw [Option.isSome_map]
        exact sound.event
      · cases place with
        | event => exact (stored_pushEvent sound.event).trans (by simp [At, or_comm])
        | _ => simp [At, isAt, held, DispatcherThread.current, drained, eq_comm]

theorem Sound.dispatch : Sound (run.dispatch setting input).1 := by
  cases isAt : run.dispatcher with
  | waiting => exact sound.dispatchWaiting isAt
  | judged verdict => exact sound.dispatchJudged isAt
  | draining verdict => exact sound.dispatchDraining isAt
  | rehanding verdict other => exact sound.dispatchRehanding isAt
  | placing verdict => exact sound.dispatchPlacing isAt
  | exited =>
      simp only [MultiThreadRun.dispatch, isAt]
      exact sound
  | looping =>
      simp only [MultiThreadRun.dispatch, isAt]
      split
      next => exact sound.goOn isAt rfl rfl nofun
      next => exact sound.goOn isAt rfl rfl nofun
  | holding eid =>
      simp only [MultiThreadRun.dispatch, isAt]
      split
      next => exact sound.goOn isAt rfl rfl nofun
      next =>
        split
        next => exact sound.goOn isAt rfl rfl nofun
        next => exact sound.goOn isAt rfl rfl nofun
  | requested eid now =>
      simp only [MultiThreadRun.dispatch, isAt]
      exact (sound.removeRequest eid).goOn isAt rfl rfl nofun
  | evaluating eid now =>
      simp only [MultiThreadRun.dispatch, isAt]
      split
      next code _ => exact (sound.fail code).drop rfl isAt (fun _ => nofun) fun _ => nofun
      next => exact sound.goOn isAt rfl rfl nofun
  | recorded verdict =>
      simp only [MultiThreadRun.dispatch, isAt]
      have ended : Sound { run with
          scheduler := (run.scheduler.endingCriteria setting.stopOnDeadlock setting.deadlockTimeout
            input.now).2 } := sound.rest rfl rfl rfl fun _ => Iff.rfl
      split
      next => exact ended.goOn isAt rfl rfl nofun
      next => exact ended.goOn isAt rfl rfl nofun
  | stopping verdict =>
      simp only [MultiThreadRun.dispatch, isAt]
      exact sound.stopAllJobs.goOn isAt rfl rfl fun _ => rfl
  | rechecking verdict other =>
      have stopped : run.running = false := sound.drains (by rw [isAt]; rfl)
      simp only [MultiThreadRun.dispatch, isAt]
      split
      next code _ =>
        have failed : Sound { run with
            scheduler := { run.scheduler with threadErrorCode := code } } :=
          sound.rest rfl rfl rfl fun _ => Iff.rfl
        exact failed.drop stopped isAt (fun _ => id) fun _ => nofun
      next =>
        split
        next => exact sound.goOn isAt rfl rfl fun _ => stopped
        next => exact sound.drop stopped isAt (fun _ => id) fun _ => nofun
  | finishing verdict =>
      simp only [MultiThreadRun.dispatch, isAt]
      split
      next =>
        exact sound.stopAllJobs.goOn isAt rfl rfl nofun
      next => exact sound
  | timing verdict =>
      simp only [MultiThreadRun.dispatch, isAt]
      split
      next =>
        exact sound.stopAllJobs.goOn isAt rfl rfl nofun
      next => exact sound.goOn isAt rfl rfl nofun

end

/-! ## The workers -/

variable {worker : Nat} {point : WorkerThread}

theorem goTo_workers (index : Nat) :
    (run.goTo worker point).workers index = if index = worker then point else run.workers index :=
  Function.update_apply ..

theorem at_goTo : (run.goTo worker point).At place other ↔
    if place = .workerThread worker then point.current = some other else run.At place other := by
  cases place with
  | workerThread index =>
      rw [At, goTo_workers]
      by_cases same : index = worker
      · rw [if_pos same, if_pos (congrArg _ same)]
      · rw [if_neg same, if_neg (by simpa using same)]
        rfl
  | _ => rfl

theorem goTo_inserting {index : Nat}
    (inserts : (run.goTo worker point).workers index = .inserting other) :
    run.workers index = .inserting other ∨ point = .inserting other := by
  rw [goTo_workers] at inserts
  split at inserts
  next => exact .inr inserts
  next => exact .inl inserts

section

variable (sound : Sound run)
include sound

theorem Sound.workOn {before : WorkerThread}
    (isAt : run.workers worker = before) (current : point.current = before.current)
    (inserting : ∀ other, point = .inserting other → run.running = true) :
    Sound (run.goTo worker point) := by
  refine sound.stay ⟨sound.check, sound.worker, sound.exact, sound.event⟩
    ⟨fun place other => ?_, fun _ => Iff.rfl, id, fun _ _ => .inl, fun _ => id,
      fun index other inserts => (goTo_inserting inserts).imp_right (inserting other)⟩ sound.drains
  rw [at_goTo]
  split
  next same => rw [same, At, isAt, current]
  next => exact Iff.rfl

theorem Sound.workDrop (stopped : run.running = false)
    (empty : point.current = none) (notInserting : ∀ other, point ≠ .inserting other) :
    Sound (run.goTo worker point) := by
  refine sound.lose ⟨sound.check, sound.worker, sound.exact, sound.event⟩
    (fun place other there => ?_) (fun _ => id) stopped (fun _ _ => id) (fun _ => id) (fun _ => id)
    fun index other inserts => (goTo_inserting inserts).resolve_right (notInserting other)
  rw [at_goTo, empty] at there
  split at there
  next => cases there
  next => exact there

theorem Sound.workWaiting (isAt : run.workers worker = .waiting) :
    Sound (run.work worker input).1 := by
  obtain ⟨kept, taken⟩ := sound.worker.takeJob input.now
  simp only [work, isAt]
  generalize takeJob run.scheduler.workerJobs input.now = result at kept taken ⊢
  obtain ⟨jobs, answer⟩ := result
  cases taken with
  | handedOut eid queued waits looked =>
      have here : run.At .worker eid := queued
      have exact (other : Uid) (refused : Refused jobs other) : Queued jobs other :=
        (waits other).mpr (((looked other).mp refused).imp_left (sound.exact other))
      refine sound.move ⟨sound.check, kept, exact, sound.event⟩ .worker (.workerThread worker)
        (sound.custody.known here) (fun _ => here) (sound.custody.only here)
        ⟨fun place other => ?_, rfl, rfl, fun _ _ isFound => ⟨isFound, by simp⟩, fun _ => .inl,
          fun index other inserts => (goTo_inserting inserts).resolve_right (by simp)⟩
        (by simp) (by simp) sound.drains
      rw [at_goTo]
      split
      next same => simp [same, At, isAt, WorkerThread.current, eq_comm]
      next different =>
        rw [or_iff_right fun both => different both.1]
        cases place with
        | worker => simp [At, waits]
        | _ => simp [At]
  | nothing answer none waits looked =>
      have exact (other : Uid) (refused : Refused jobs other) : Queued jobs other :=
        (waits other).mpr (sound.exact other ((looked other).mp refused))
      have still : Sound { run with scheduler := { run.scheduler with workerJobs := jobs } } := by
        refine sound.stay ⟨sound.check, kept, exact, sound.event⟩ ⟨fun place other => ?_,
          fun _ => Iff.rfl, id, fun _ _ => .inl, fun _ => id, fun _ _ => .inl⟩ sound.drains
        cases place with
        | worker => exact waits other
        | _ => exact Iff.rfl
      cases answer with
      | handedOut eid => exact absurd rfl (none eid)
      | stopped => exact still.workOn isAt rfl (by simp)
      | _ => exact still

theorem Sound.workInserting (isAt : run.workers worker = .inserting eid) :
    Sound (run.work worker input).1 := by
  have here : run.At (.workerThread worker) eid := by
    rw [At, isAt]
    rfl
  have accepted := sound.accepts (.inserting worker isAt) (sound.elsewhere here (by simp))
  simp only [work, isAt]
  refine sound.move (sound.toLists.insertCheck eid input.now |>.congr sound.check.insertJob rfl rfl)
    (.workerThread worker) .check (sound.custody.known here) (fun _ => here)
    (sound.custody.only here)
    ⟨fun place other => ?_, rfl, rfl, fun _ _ isFound => ⟨isFound, by simp⟩,
      fun other refused => ?_,
      fun index other inserts => (goTo_inserting inserts).resolve_right (by simp)⟩
    (by simp) (by simp) sound.drains
  · have moved : ((run.goTo worker .waiting).insertCheck eid input.now).1.At place other ↔
        (place = .check ∧ other = eid) ∨ (run.goTo worker .waiting).At place other := by
      cases place with
      | check => exact (queued_insertJob sound.check accepted).trans (by simp [At, goTo])
      | _ => exact (or_iff_right (by simp)).symm
    rw [moved, at_goTo]
    split
    next same => simp [same, At, isAt, WorkerThread.current, eq_comm]
    next different => simp [different]
  · obtain same | before := (refused_insertJob sound.check).mp refused
    · exact .inr ⟨rfl, same⟩
    · exact .inl before

theorem Sound.work : Sound (run.work worker input).1 := by
  cases isAt : run.workers worker with
  | waiting => exact sound.workWaiting isAt
  | inserting eid => exact sound.workInserting isAt
  | exited =>
      simp only [MultiThreadRun.work, isAt]
      exact sound
  | holding | matching =>
      simp only [MultiThreadRun.work, isAt]
      split
      next => exact sound.workOn isAt rfl (by simp)
      next => exact sound.workOn isAt rfl (by simp)
  | requested eid =>
      simp only [MultiThreadRun.work, isAt]
      exact (sound.removeRequest eid).workOn isAt rfl (by simp)
  | removing eid =>
      have here : run.At (.workerThread worker) eid := by
        rw [At, isAt]
        rfl
      simp only [MultiThreadRun.work, isAt]
      obtain ⟨_, _, _, _, updated⟩ :=
        @update_recorded _ eid run ⟨.NEVER, 0⟩ input.now (sound.custody.known here)
      rw [updated, if_pos rfl]
      refine sound.leave ⟨sound.check, sound.worker, sound.exact, sound.event⟩ here ⟨by simp, by
        simp⟩
        (fun place other => ?_) (fun other => AList.mem_erase.trans and_comm) rfl rfl rfl
        (fun index other inserts => (goTo_inserting inserts).resolve_right (by simp)) sound.drains
      rw [at_goTo]
      split
      next same => simp [same, At, isAt, WorkerThread.current, eq_comm]
      next different =>
        rw [and_iff_left fun both => different both.1]
        cases place <;> exact Iff.rfl
  | executing eid =>
      simp only [MultiThreadRun.work, isAt]
      split
      next code _ => exact (sound.fail code).workDrop rfl rfl (by simp)
      next => exact sound.workOn isAt rfl (by simp)
  | returning eid =>
      simp only [MultiThreadRun.work, isAt]
      split
      next running => exact sound.workOn isAt rfl fun _ _ => running
      next stopped => exact sound.workDrop (Bool.not_eq_true _ ▸ stopped) rfl (by simp)

theorem Sound.watch {point async : AsyncThread} (isAt : run.async = point)
    (current : async.current = point.current)
    (found : ∀ other rest, async = .found other rest → run.At .event other) :
    Sound { run with async } := by
  refine sound.stay ⟨sound.check, sound.worker, sound.exact, sound.event⟩
    ⟨fun place other => ?_, fun _ => Iff.rfl, id, fun other rest isFound =>
      .inr (found other rest isFound), fun _ => id, fun _ _ => .inl⟩ sound.drains
  cases place with
  | eventThread => simp only [At, isAt, current]
  | _ => exact Iff.rfl

/-- An entity that waits is removed from the list. -/
theorem Sound.matchFound
    (isAt : run.async = .found eid rest) : Sound (run.matchEvents input).1 := by
  obtain ⟨isLive, parked⟩ := sound.found eid rest isAt
  simp only [matchEvents, isAt]
  refine sound.move ⟨sound.check, sound.worker, sound.exact, ?_⟩ .event .eventThread isLive
    (fun notEvent => absurd rfl notEvent) parked
    ⟨fun place other => ?_, rfl, rfl, nofun, fun _ => .inl, fun _ _ => id⟩ nofun
    (fun _ => .inr (.found rest isAt)) sound.drains
  · rw [Option.isSome_map]
    exact sound.event
  · cases place with
    | event => exact stored_removeEvent.trans (by simp [At])
    | eventThread => simp [At, isAt, AsyncThread.current, eq_comm]
    | _ => simp [At]

/-- The entity goes back to the dispatcher. -/
theorem Sound.matchHanding
    (isAt : run.async = .handing eid rest) : Sound (run.matchEvents input).1 := by
  have here : run.At .eventThread eid := by
    rw [At, isAt]
    rfl
  have accepted := sound.accepts (.eventThread here) (sound.elsewhere here (by simp))
  simp only [matchEvents, isAt]
  refine sound.move (sound.toLists.insertCheck eid input.now |>.congr sound.check.insertJob rfl rfl)
    .eventThread .check (sound.custody.known here) (fun _ => here) (sound.custody.only here)
    ⟨fun place other => ?_, rfl, rfl, (fun _ _ same => by cases same), fun other refused =>
    ?_, fun _ _ => id⟩
    (by simp) (by simp)
    sound.drains
  · cases place with
    | check => exact (queued_insertJob sound.check accepted).trans (by simp [At])
    | _ => simp [At, isAt, insertCheck, AsyncThread.current, eq_comm]
  · obtain same | before := (refused_insertJob sound.check).mp refused
    · exact .inr ⟨rfl, same⟩
    · exact .inl before

theorem Sound.matchEvents : Sound (run.matchEvents input).1 := by
  unfold MultiThreadRun.matchEvents
  split
  next => exact sound
  next isAt =>
    split
    next => exact sound.watch isAt rfl nofun
    next => exact sound.watch isAt rfl nofun
  next isAt => exact sound.watch isAt rfl nofun
  next isAt => exact sound.watch isAt rfl nofun
  next eid rest isAt =>
    dsimp only
    split
    next parked =>
      exact sound.watch isAt rfl fun _ _ same => by cases same; exact listed_iff.mp parked
    next => exact sound.watch isAt rfl nofun
  next eid rest isAt =>
    have found : Sound (run.matchEvents input).1 := sound.matchFound isAt
    simpa only [MultiThreadRun.matchEvents, isAt] using found
  next eid rest isAt =>
    have removed : Sound { run with
        scheduler :=
          { run.scheduler with
            eventNotified := run.scheduler.eventNotified.map (·.removeEvent eid) } } :=
      sound.rest rfl rfl rfl fun _ => Iff.rfl
    exact removed.watch isAt rfl nofun
  next eid rest isAt =>
    have handed : Sound (run.matchEvents input).1 := sound.matchHanding isAt
    simpa only [MultiThreadRun.matchEvents, isAt] using handed
  next isAt =>
    split
    next => exact sound.watch isAt rfl nofun
    next => exact sound

theorem Sound.step (op : Op) : Sound ((system setting).step run op).1 := by
  cases op with
  | schedule eid lookup now => exact sound.scheduleAbi eid lookup now
  | unschedule eid lookup => exact sound.unscheduleAbi eid lookup
  | eventNotify eid event => exact sound.eventNotifyAbi eid event
  | stop => exact sound.stopAllJobs
  | halt call => exact sound.halt call
  | dispatch input => exact sound.dispatch
  | work worker input => exact sound.work
  | matchEvents input => exact sound.matchEvents

end

theorem not_at_start (place : Place) (eid : Uid) : ¬(start heap).At place eid := by
  cases place with
  | check | worker =>
      rintro ⟨list, isList, isWaiting⟩
      obtain rfl := Option.some.inj isList
      have none : eid ∈ (TimedJobList.create heap).waiting := isWaiting
      rw [waiting_create] at none
      exact Multiset.notMem_zero eid none
  | event => exact fun stored => List.not_mem_nil (stored_some.mp stored)
  | dispatcher | drained | workerThread _ | eventThread => exact nofun

theorem Sound.start : Sound (start heap) where
  toLists := Lists.start
  custody := by
    refine ⟨fun eid due => ?_, fun here => absurd here (not_at_start _ _),
      fun here => absurd here (not_at_start _ _)⟩
    exact absurd due.2 (AList.notMem_empty eid)
  found := nofun
  stale eid refused := absurd (refused_some.mp refused) (Finset.notMem_empty eid)
  drains := nofun

end MultiThreadRun

end Gxf.Std
