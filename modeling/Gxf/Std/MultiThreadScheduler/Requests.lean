import Gxf.Std.MultiThreadScheduler.Ownership

/-!
# The last request

A request to unschedule an entity stays in a list until the entity comes by.  Scheduling an entity
that still has a condition does nothing, so it does not take such a request back.
-/

namespace Gxf.Std

open Gxf.Core Gxf.Lib TimedJobList

namespace MultiThreadRun

open MultiThreadScheduler

variable {heap : PriorityQueue (Item Uid) itemPriorityCmp}
variable {run : MultiThreadRun heap} {eid : Uid}
variable {setting : Setting} {input : Input}

/-- A request to unschedule an entity is stored, or a thread is about to give the entity up. -/
inductive Pending (run : MultiThreadRun heap) (eid : Uid) : Prop where
  | stored (requested : Stored run.scheduler.unscheduleEntities eid)
  | requested (now : Int) (isAt : run.dispatcher = .requested eid now)
  | judged (verdict : Verdict) (isAt : run.dispatcher = .judged verdict)
      (never : verdict.condition.type = .NEVER) (same : verdict.eid = eid)
  | workerRequested (worker : Nat) (isAt : run.workers worker = .requested eid)
  | removing (worker : Nat) (isAt : run.workers worker = .removing eid)

/-- The entity that a step asks to unschedule. -/
def Op.unschedules (setting : Setting) : Op → Option Uid
  | .unschedule eid (.ok ()) => if setting.hasCodelets eid then some eid else none
  | _ => none

/-- The entity about which the executor says that it will never execute again, or fails. -/
def Report.ends : Report → Option Uid
  | .answered eid (.ok condition) => if condition.type = .NEVER then some eid else none
  | .answered eid (.error _) | .executed eid (.error _) => some eid
  | _ => none

/-! ## Requests come from outside -/

theorem stored_dispatch
    (stored : Stored (run.dispatch setting input).1.scheduler.unscheduleEntities eid) :
    Stored run.scheduler.unscheduleEntities eid := by
  cases isAt : run.dispatcher with
  | requested other now =>
      simp only [dispatch, isAt] at stored
      exact (stored_removeEvent.mp stored).1
  | judged verdict =>
      simp only [dispatch, isAt, update, updateCondition, recountAll_eq] at stored
      (repeat' split at stored) <;> exact stored
  | placing verdict =>
      simp only [dispatch, isAt, place] at stored
      split at stored <;> exact stored
  | _ =>
      simp only [dispatch, isAt] at stored
      (repeat' split at stored) <;> exact stored

theorem stored_work {worker : Nat}
    (stored : Stored (run.work worker input).1.scheduler.unscheduleEntities eid) :
    Stored run.scheduler.unscheduleEntities eid := by
  cases isAt : run.workers worker with
  | requested other =>
      simp only [work, isAt] at stored
      exact (stored_removeEvent.mp stored).1
  | removing other =>
      simp only [work, isAt, update, updateCondition, recountAll_eq] at stored
      (repeat' split at stored) <;> exact stored
  | _ =>
      simp only [work, isAt] at stored
      (repeat' split at stored) <;> exact stored

theorem stored_step (op : Op)
    (stored : Stored ((system setting).step run op).1.scheduler.unscheduleEntities eid) :
    Stored run.scheduler.unscheduleEntities eid ∨ op.unschedules setting = some eid := by
  cases op with
  | dispatch input => exact .inl (stored_dispatch stored)
  | work worker input => exact .inl (stored_work stored)
  | stop => exact .inl stored
  | matchEvents input =>
      simp only [system, matchEvents] at stored
      (repeat' split at stored) <;> exact .inl stored
  | eventNotify other event =>
      simp only [system, eventNotifyAbi] at stored
      split at stored <;> exact .inl stored
  | halt call =>
      simp only [system, halt] at stored
      split at stored
      next => exact .inl stored
      next =>
        cases call with
        | unscheduleEntities => exact absurd stored not_stored_clear
        | _ => exact .inl stored
  | schedule other lookup now =>
      simp only [system, scheduleAbi, update, updateCondition, recountAll_eq] at stored
      (repeat' split at stored) <;> exact .inl stored
  | unschedule other lookup =>
      cases lookup with
      | error code => exact .inl stored
      | ok =>
          simp only [system, unscheduleAbi] at stored
          split at stored
          next => exact .inl stored
          next some =>
            rw [Bool.not_eq_true', Bool.not_eq_false] at some
            cases requests : run.scheduler.unscheduleEntities with
            | none => simp [Stored, requests] at stored
            | some list =>
                have pushed : Stored ((Option.some list).map (·.pushEvent other)) eid :=
                  requests ▸ stored
                obtain before | same := (stored_pushEvent rfl).mp pushed
                · exact .inl before
                · exact .inr ((if_pos some).trans (congrArg _ same.symm))

theorem dispatch_requested {now : Int}
    (finds : (run.dispatch setting input).1.dispatcher = .requested eid now) :
    Stored run.scheduler.unscheduleEntities eid := by
  cases isAt : run.dispatcher with
  | holding other =>
      simp only [dispatch, isAt] at finds
      split at finds
      next isListed =>
        cases finds
        exact listed_iff.mp isListed
      next => split at finds <;> cases finds
  | waiting | exited | finishing _ =>
      simp only [dispatch, isAt] at finds
      (repeat' split at finds) <;> simp_all
  | draining _ =>
      simp only [dispatch, isAt] at finds
      split at finds <;> cases finds
  | placing _ =>
      simp only [dispatch, isAt, place] at finds
      split at finds <;> cases finds
  | _ =>
      simp only [dispatch, isAt] at finds
      (repeat' split at finds) <;> cases finds

theorem work_requested {worker index : Nat}
    (finds : (run.work worker input).1.workers index = .requested eid) :
    run.workers index = .requested eid ∨ Stored run.scheduler.unscheduleEntities eid := by
  by_cases same : index = worker
  · subst same
    cases isAt : run.workers index with
    | holding other =>
        simp only [work, isAt] at finds
        split at finds
        next isListed =>
          simp only [goTo_workers, if_true, WorkerThread.requested.injEq] at finds
          exact .inr (listed_iff.mp (finds ▸ isListed))
        next => simp [goTo] at finds
    | _ =>
        simp only [work, isAt] at finds
        (repeat' split at finds) <;> simp [goTo, insertCheck, isAt] at finds
  · rw [work_workers same] at finds
    exact .inl finds

theorem pending_step (op : Op) (pending : ((system setting).step run op).1.Pending eid) :
    run.Pending eid ∨ op.unschedules setting = some eid ∨
      ((system setting).step run op).2.ends = some eid := by
  have byDispatcher {dispatcher : DispatcherThread}
      (isAt : ((system setting).step run op).1.dispatcher = dispatcher) :
      run.dispatcher = dispatcher ∨ ∃ input, op = .dispatch input := by
    by_cases dispatches : ∃ input, op = .dispatch input
    · exact .inr dispatches
    · exact .inl (((threads_step _).1 (not_exists.mp dispatches)).symm.trans isAt)
  have byWorker {worker : Nat} {point : WorkerThread}
      (isAt : ((system setting).step run op).1.workers worker = point) :
      run.workers worker = point ∨ ∃ index input, op = .work index input := by
    by_cases works : ∃ index input, op = .work index input
    · exact .inr works
    · have same : ((system setting).step run op).1.workers = run.workers :=
        (threads_step _).2.1 fun index => not_exists.mp (not_exists.mp works index)
      exact .inl ((congrFun same worker).symm.trans isAt)
  cases pending with
  | stored stored =>
      obtain before | requests := stored_step op stored
      · exact .inl (.stored before)
      · exact .inr (.inl requests)
  | requested now isAt =>
      obtain before | ⟨input, rfl⟩ := byDispatcher isAt
      · exact .inl (.requested now before)
      · exact .inl (.stored (dispatch_requested isAt))
  | judged verdict isAt never same =>
      subst same
      obtain before | ⟨input, rfl⟩ := byDispatcher isAt
      · exact .inl (.judged verdict before never rfl)
      · obtain ⟨⟨now, requested⟩, -⟩ | report := dispatch_judged never isAt
        · exact .inl (.requested now requested)
        · exact .inr (.inr ((congrArg Report.ends report).trans (if_pos never)))
  | workerRequested worker isAt =>
      obtain before | ⟨index, input, rfl⟩ := byWorker isAt
      · exact .inl (.workerRequested worker before)
      · obtain before | stored := work_requested isAt
        · exact .inl (.workerRequested worker before)
        · exact .inl (.stored stored)
  | removing worker isAt =>
      obtain before | ⟨index, input, rfl⟩ := byWorker isAt
      · exact .inl (.removing worker before)
      · obtain before | ⟨requested, -⟩ := work_removing isAt
        · exact .inl (.removing worker before)
        · exact .inl (.workerRequested worker requested)

/-- The entities whose last request was to schedule them and about which the executor has not said
since that they are over. -/
def want (setting : Setting) (wanted : List Uid) (op : Op) (report : Report) : List Uid :=
  (op.schedules setting).toList ++
    wanted.filter fun eid => op.unschedules setting ≠ some eid ∧ report.ends ≠ some eid

/-- The threads with the entities that are wanted. -/
def requested (setting : Setting) : System (MultiThreadRun heap × List Uid) Op Report :=
  (system setting).recorded (want setting)

/-- An entity is scheduled only when no earlier request to unschedule it is left. -/
def Clear (setting : Setting) (state : MultiThreadRun heap × List Uid) (op : Op) : Prop :=
  ∀ eid, op.schedules setting = some eid → ¬state.1.Pending eid

/-- The entities that are wanted have a condition, and nothing is about to give them up. -/
structure Wanted (state : MultiThreadRun heap × List Uid) : Prop where
  sound : Sound state.1
  kept : ∀ eid ∈ state.2, eid ∈ state.1.scheduler.conditions ∧ ¬state.1.Pending eid

theorem pending_of_erases {op : Op} (erases : run.Erases eid op) : run.Pending eid := by
  cases op with
  | dispatch input =>
      obtain ⟨verdict, isAt, never, same⟩ := erases
      exact .judged verdict isAt never same
  | work worker input => exact .removing worker erases
  | _ => exact erases.elim

theorem schedules_only {op : Op} (schedules : op.schedules setting = some eid)
    (run : MultiThreadRun heap) :
    op.unschedules setting = none ∧ ((system setting).step run op).2.ends = none := by
  cases op with
  | schedule other lookup now =>
      refine ⟨rfl, ?_⟩
      simp only [system, scheduleAbi]
      repeat' split
      all_goals rfl
  | _ => cases schedules

theorem Wanted.step {state : MultiThreadRun heap × List Uid} (wanted : Wanted state) (op : Op)
    (clear : Clear setting state op) : Wanted ((requested setting).step state op).1 := by
  refine ⟨wanted.sound.step op, fun eid isWanted => ?_⟩
  obtain schedules | before := List.mem_append.mp isWanted
  · have schedules := Option.mem_toList.mp schedules
    refine ⟨(conditions_step wanted.sound op).mpr (.inr schedules), fun pending => ?_⟩
    obtain ⟨noRequest, noAnswer⟩ := schedules_only schedules state.1
    obtain before | unschedules | ends := pending_step op pending
    · exact clear eid schedules before
    · exact absurd unschedules (by simp [noRequest])
    · exact absurd ends (by simp [noAnswer])
  · obtain ⟨before, stays⟩ := List.mem_filter.mp before
    rw [decide_eq_true_eq] at stays
    obtain ⟨known, free⟩ := wanted.kept eid before
    refine ⟨(conditions_step wanted.sound op).mpr (.inl ⟨known, mt pending_of_erases free⟩), ?_⟩
    intro pending
    obtain before | unschedules | ends := pending_step op pending
    · exact free before
    · exact stays.1 unschedules
    · exact stays.2 ends

theorem not_pending_start : ¬(start heap).Pending eid := by
  intro pending
  cases pending with
  | stored requested => exact List.not_mem_nil (stored_some.mp requested)
  | requested now isAt => cases isAt
  | judged verdict isAt => cases isAt
  | workerRequested worker isAt => cases isAt
  | removing worker isAt => cases isAt

/-- In every run in which an entity is scheduled only when no earlier request to unschedule it is
left: while the scheduler runs, an entity whose last request was to schedule it, and about which
the executor has not said since that it is over, is at exactly one place, and nothing is about to
give it up. -/
theorem last_request_wins (heap : PriorityQueue (Item Uid) itemPriorityCmp) (setting : Setting)
    (ops : List Op) (clear : (requested setting).Along (Clear setting) (start heap, []) ops) :
    let state := (requested setting).run (start heap, []) ops
    state.1.running = true → ∀ eid ∈ state.2,
      (∃! place, state.1.At place eid) ∧ ¬state.1.Pending eid := by
  intro state running eid isWanted
  have wanted : Wanted state :=
    System.invariant_run (fun _ op wanted clear => wanted.step op clear) ⟨Sound.start, nofun⟩ clear
  obtain ⟨known, free⟩ := wanted.kept eid isWanted
  exact ⟨wanted.sound.custody.existsUnique ⟨running, known⟩, free⟩

/-- An entity is scheduled and executed. -/
theorem last_request_wins_executing :
    let setting : Setting := ⟨fun _ => true, true, 0, 0⟩
    let ops : List Op := [.schedule 7 (.ok ()) 0, .dispatch {}, .dispatch {}, .dispatch {},
      .dispatch {}, .dispatch {}, .dispatch {}, .dispatch {}, .dispatch {}, .work 3 {}, .work 3 {},
      .work 3 {}]
    let state := (requested setting).run (start (listHeap Uid), []) ops
    (∃! place, state.1.At place 7) ∧ ¬state.1.Pending 7 := by
  refine last_request_wins (listHeap Uid) ⟨fun _ => true, true, 0, 0⟩ _ ?_ (by decide +kernel) 7
    (by decide +kernel)
  exact ⟨fun _ _ => not_pending_start, nofun, nofun, nofun, nofun, nofun, nofun, nofun, nofun,
    nofun,
    nofun, nofun, trivial⟩

/-- An entity is scheduled, unscheduled and scheduled again before the dispatcher comes by.  The
last request is ignored, and the one before it is accepted. -/
theorem last_request_loses :
    let setting : Setting := ⟨fun _ => true, true, 0, 0⟩
    let ops : List Op := [.schedule 7 (.ok ()) 0, .unschedule 7 (.ok ()), .schedule 7 (.ok ()) 0] ++
      .replicate 5 (.dispatch {})
    let state := (requested setting).run (start (listHeap Uid), []) ops
    state.1.running = true ∧ state.2 = [7] ∧ ∀ place, ¬state.1.At place 7 := by
  intro setting ops state
  have sound : Sound state.1 :=
    @System.invariant_run_of_forall _ _ _ (requested setting) (fun state => Sound state.1)
      (fun _ op sound => sound.step op) _ Sound.start ops
  refine ⟨by decide +kernel, by decide +kernel, fun place here => ?_⟩
  have gone : 7 ∉ state.1.scheduler.conditions := by decide +kernel
  exact gone (sound.custody.known here)

end MultiThreadRun

end Gxf.Std
