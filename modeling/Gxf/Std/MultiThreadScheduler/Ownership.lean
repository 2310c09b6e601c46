import Gxf.Std.MultiThreadScheduler.Soundness

/-!
# Who owns an entity

While the scheduler runs, an entity that was scheduled and not given up yet is at exactly one
place.  No two workers execute it at once, also when the scheduler stops.
-/

namespace Gxf.Std

open Gxf.Core Gxf.Lib TimedJobList

namespace MultiThreadRun

open MultiThreadScheduler

variable {heap : PriorityQueue (Item Uid) itemPriorityCmp}
variable {run : MultiThreadRun heap} {eid other : Uid}
variable {setting : Setting} {input : Input}

/-- The entity that a step schedules. -/
def Op.schedules (setting : Setting) : Op → Option Uid
  | .schedule eid (.ok ()) _ => if setting.hasCodelets eid then some eid else none
  | _ => none

/-- A step erases the condition of an entity. -/
def Erases (run : MultiThreadRun heap) (eid : Uid) : Op → Prop
  | .dispatch _ => ∃ verdict, run.dispatcher = .judged verdict ∧
      verdict.condition.type = .NEVER ∧ verdict.eid = eid
  | .work worker _ => run.workers worker = .removing eid
  | _ => False

theorem dispatch_conditions (undecided : ∀ verdict, run.dispatcher ≠ .judged verdict) :
    (run.dispatch setting input).1.scheduler.conditions = run.scheduler.conditions := by
  cases isAt : run.dispatcher with
  | judged verdict => exact absurd isAt (undecided verdict)
  | placing verdict =>
      simp only [dispatch, isAt, place]
      split <;> rfl
  | _ =>
      simp only [dispatch, isAt]
      repeat' split
      all_goals rfl

variable {worker : Nat} {condition : SchedulingCondition} {now : Int}

theorem work_conditions (keeps : ∀ eid, run.workers worker ≠ .removing eid) :
    (run.work worker input).1.scheduler.conditions = run.scheduler.conditions := by
  cases isAt : run.workers worker with
  | removing eid => exact absurd isAt (keeps eid)
  | _ =>
      simp only [work, isAt]
      repeat' split
      all_goals rfl

theorem matchEvents_conditions :
    (run.matchEvents input).1.scheduler.conditions = run.scheduler.conditions := by
  unfold matchEvents
  repeat' split
  all_goals rfl

theorem mem_update (recorded : eid ∈ run.scheduler.conditions)
    : other ∈ (run.update eid condition now).scheduler.conditions ↔
      other ∈ run.scheduler.conditions ∧ ¬(condition.type = .NEVER ∧ other = eid) := by
  obtain ⟨_, _, _, _, updated⟩ := @update_recorded _ eid run condition now recorded
  rw [updated]
  by_cases never : condition.type = .NEVER
  · simp only [never, if_true, true_and]
    exact AList.mem_erase.trans and_comm
  · simp only [never, if_false, false_and, not_false_eq_true, and_true, AList.mem_insert]
    exact or_iff_right_of_imp fun same => same ▸ recorded

theorem scheduleAbi_conditions {lookup : Except GxfResult Unit} :
    other ∈ (run.scheduleAbi setting eid lookup now).1.scheduler.conditions ↔
      other ∈ run.scheduler.conditions ∨
        lookup = .ok () ∧ setting.hasCodelets eid = true ∧ other = eid := by
  unfold scheduleAbi
  split
  next => simp
  next =>
    split
    next none => simp_all
    next some =>
      rw [Bool.not_eq_true', Bool.not_eq_false] at some
      split
      next recorded =>
        dsimp only
        rw [mem_update recorded]
        simp only [reduceCtorEq, false_and, not_false_eq_true, and_true, true_and, some]
        exact (or_iff_left_of_imp fun same => same ▸ recorded).symm
      next fresh =>
        rw [update_new fresh]
        simp only [AList.mem_insert, true_and, some]
        exact or_comm

theorem conditions_step (sound : Sound run) (op : Op) :
    other ∈ ((system setting).step run op).1.scheduler.conditions ↔
      other ∈ run.scheduler.conditions ∧ ¬run.Erases other op ∨ op.schedules setting =
      some other := by
  have same {next : MultiThreadRun heap}
      (kept : next.scheduler.conditions = run.scheduler.conditions)
      (erases : ¬run.Erases other op) (schedules : op.schedules setting ≠ some other) :
      other ∈ next.scheduler.conditions ↔
        other ∈ run.scheduler.conditions ∧ ¬run.Erases other op ∨ op.schedules setting =
        some other := by
    rw [kept, or_iff_left schedules, and_iff_left erases]
  cases op with
  | schedule eid lookup now =>
      refine scheduleAbi_conditions.trans ?_
      simp only [Erases, not_false_eq_true, and_true]
      apply or_congr_right
      cases lookup with
      | error code => simp [Op.schedules]
      | ok => simp [Op.schedules, @eq_comm _ other]
  | unschedule eid lookup =>
      refine same ?_ id (fun same => by cases same)
      simp only [system, unscheduleAbi]
      repeat' split
      all_goals rfl
  | eventNotify eid event =>
      refine same ?_ id (fun same => by cases same)
      simp only [system, eventNotifyAbi]
      split <;> rfl
  | stop => exact same rfl id (fun same => by cases same)
  | halt call =>
      refine same ?_ id (fun same => by cases same)
      simp only [system, halt]
      cases call <;> (split <;> rfl)
  | matchEvents input => exact same matchEvents_conditions id (fun same => by cases same)
  | dispatch input =>
      have notSchedules : Op.schedules setting (.dispatch input) ≠ some other :=
        fun same => by cases same
      cases isAt : run.dispatcher with
      | judged verdict =>
          have here : run.At .dispatcher verdict.eid := by
            rw [At, isAt]
            rfl
          simp only [system, dispatch, isAt]
          refine (mem_update (sound.custody.known here)).trans ?_
          rw [or_iff_left notSchedules]
          simp only [Erases, isAt, DispatcherThread.judged.injEq, exists_eq_left', @eq_comm _ other]
      | _ =>
          refine same (dispatch_conditions fun verdict => by simp [isAt]) ?_ notSchedules
          simp [Erases, isAt]
  | work worker input =>
      have notSchedules : Op.schedules setting (.work worker input) ≠ some other :=
        fun same => by cases same
      cases isAt : run.workers worker with
      | removing eid =>
          have here : run.At (.workerThread worker) eid := by
            rw [At, isAt]
            rfl
          simp only [system, work, isAt]
          refine (mem_update (sound.custody.known here)).trans ?_
          rw [or_iff_left notSchedules]
          simp only [Erases, isAt, WorkerThread.removing.injEq, true_and, @eq_comm _ other]
      | _ =>
          refine same (work_conditions fun eid => by simp [isAt]) ?_ notSchedules
          simp [Erases, isAt]

/-- The entity that an answer gives up: the executor says that it will never execute again or
fails, or a request to unschedule it is accepted. -/
def Report.givesUp : Report → Option Uid
  | .answered eid (.ok condition) => if condition.type = .NEVER then some eid else none
  | .answered eid (.error _) | .executed eid (.error _) | .withdrawn eid => some eid
  | _ => none

theorem dispatch_judged {verdict : Verdict} (never : verdict.condition.type = .NEVER)
    (decides : (run.dispatch setting input).1.dispatcher = .judged verdict) :
    ((∃ now, run.dispatcher = .requested verdict.eid now) ∧
      (run.dispatch setting input).2 = .withdrawn verdict.eid) ∨
    (run.dispatch setting input).2 = .answered verdict.eid (.ok verdict.condition) := by
  cases isAt : run.dispatcher with
  | holding eid =>
      simp only [dispatch, isAt] at decides
      split at decides
      next => cases decides
      next =>
        split at decides
        next => cases decides
        next =>
          cases decides
          cases never
  | requested eid now =>
      simp only [dispatch, isAt] at decides ⊢
      cases decides
      exact .inl ⟨⟨now, rfl⟩, rfl⟩
  | evaluating eid now =>
      simp only [dispatch, isAt] at decides ⊢
      split at decides
      next => cases decides
      next answer =>
        cases decides
        exact .inr rfl
  | waiting | exited | finishing _ =>
      simp only [dispatch, isAt] at decides
      (repeat' split at decides) <;> simp_all
  | draining _ =>
      simp only [dispatch, isAt] at decides
      split at decides <;> cases decides
  | placing _ =>
      simp only [dispatch, isAt, place] at decides
      split at decides <;> cases decides
  | looping | judged _ | recorded _ | stopping _ | rechecking _ _ | rehanding _ _ | timing _ =>
      simp only [dispatch, isAt] at decides
      (repeat' split at decides) <;> cases decides

variable {index : Nat} {jobs next : Option (TimedJobList Uid heap)} {targetTime : Int}

theorem work_workers (different : index ≠ worker) :
    (run.work worker input).1.workers index = run.workers index := by
  cases isAt : run.workers worker with
  | inserting eid =>
      simp only [work, isAt, insertCheck, goTo_workers, if_neg different]
  | _ =>
      simp only [work, isAt]
      repeat' split
      all_goals first | rfl | exact Function.update_of_ne different _ _

theorem work_removing (removes : (run.work worker input).1.workers index = .removing eid) :
    run.workers index = .removing eid ∨
      run.workers index = .requested eid ∧ (run.work worker input).2 = .withdrawn eid := by
  by_cases same : index = worker
  · subst same
    cases isAt : run.workers index with
    | requested found =>
        simp only [work, isAt, goTo_workers, if_true, WorkerThread.removing.injEq] at removes ⊢
        exact .inr ⟨congrArg _ removes, congrArg _ removes⟩
    | _ =>
        simp only [work, isAt] at removes
        (repeat' split at removes) <;> simp [goTo, insertCheck, isAt] at removes
  · rw [work_workers same] at removes
    exact .inl removes

/-- Every thread is moved by its own steps only. -/
theorem threads_step (op : Op) :
    ((∀ input, op ≠ .dispatch input) →
      ((system setting).step run op).1.dispatcher = run.dispatcher) ∧
    ((∀ worker input, op ≠ .work worker input) →
      ((system setting).step run op).1.workers = run.workers) ∧
    ((∀ input, op ≠ .matchEvents input) →
      ((system setting).step run op).1.async = run.async) := by
  cases op with
  | stop => exact ⟨fun _ => rfl, fun _ => rfl, fun _ => rfl⟩
  | schedule eid lookup now =>
      simp only [system, scheduleAbi]
      repeat' split
      all_goals exact ⟨fun _ => rfl, fun _ => rfl, fun _ => rfl⟩
  | unschedule eid lookup =>
      simp only [system, unscheduleAbi]
      repeat' split
      all_goals exact ⟨fun _ => rfl, fun _ => rfl, fun _ => rfl⟩
  | eventNotify eid event =>
      simp only [system, eventNotifyAbi]
      split <;> exact ⟨fun _ => rfl, fun _ => rfl, fun _ => rfl⟩
  | halt call =>
      simp only [system, halt]
      split <;> exact ⟨fun _ => rfl, fun _ => rfl, fun _ => rfl⟩
  | dispatch input =>
      refine ⟨fun other => absurd rfl (other input), ?_⟩
      cases isAt : run.dispatcher with
      | placing verdict =>
          simp only [system, dispatch, isAt, place]
          split <;> exact ⟨fun _ => rfl, fun _ => rfl⟩
      | _ =>
          simp only [system, dispatch, isAt]
          repeat' split
          all_goals first
            | exact ⟨fun _ => rfl, fun _ => rfl⟩
            | exact ⟨fun _ => trivial, fun _ => trivial⟩
  | work worker input =>
      suffices same : ((system setting).step run (.work worker input)).1.dispatcher =
          run.dispatcher ∧ ((system setting).step run (.work worker input)).1.async = run.async from
        ⟨fun _ => same.1, fun other => absurd rfl (other worker input), fun _ => same.2⟩
      simp only [system, work]
      repeat' split
      all_goals exact ⟨rfl, rfl⟩
  | matchEvents input =>
      suffices same : ((system setting).step run (.matchEvents input)).1.dispatcher =
          run.dispatcher ∧ ((system setting).step run (.matchEvents input)).1.workers =
            run.workers from
        ⟨fun _ => same.1, fun _ => same.2, fun other => absurd rfl (other input)⟩
      simp only [system, matchEvents]
      repeat' split
      all_goals exact ⟨rfl, rfl⟩

/-! ## Refused jobs -/

theorem refused_insert {item : Item Uid} (kept : Kept jobs)
    (refused : Refused (insertJob jobs item).1 other) :
    Refused jobs other ∨ Queued (insertJob jobs item).1 other := by
  by_cases known : Refused jobs item.job
  · rw [insertJob_refused kept known] at refused
    exact .inl refused
  · obtain same | before := (refused_insertJob kept).mp refused
    · exact .inr ((queued_insertJob kept known).mpr (.inl same))
    · exact .inl before

theorem refused_take {answer : Answer Uid}
    (taken : Taken jobs next answer) (refused : Refused next other) : Refused jobs other := by
  cases taken with
  | handedOut eid queued waits looked => exact ((looked other).mp refused).1
  | nothing answer none waits looked => exact (looked other).mp refused

theorem refused_pop {answer : Except GxfResult Uid} (popped : Popped jobs next answer)
    (refused : Refused next other) : Refused jobs other := by
  cases popped with
  | ok eid queued waits looked => exact looked other refused
  | error code same => exact same ▸ refused

section

variable (lists : Lists run)
include lists

theorem refused_update
    (refused : Refused (run.update eid condition now).scheduler.checkJobs other) :
    Refused run.scheduler.checkJobs other ∨ (run.update eid condition now).At .check other := by
  by_cases recorded : eid ∈ run.scheduler.conditions
  · obtain ⟨_, _, _, _, updated⟩ := @update_recorded _ eid run condition now recorded
    rw [updated] at refused
    exact .inl refused
  · rw [update_new recorded] at refused ⊢
    exact refused_insert lists.check refused

theorem refused_dispatch
    (refused : Refused (run.dispatch setting input).1.scheduler.checkJobs other) :
    Refused run.scheduler.checkJobs other ∨ (run.dispatch setting input).1.At .check other := by
  cases isAt : run.dispatcher with
  | waiting =>
      refine .inl (refused_take (lists.check.takeJob input.now).2 ?_)
      simp only [dispatch, isAt] at refused
      split at refused <;> exact refused
  | draining verdict =>
      simp only [dispatch, isAt] at refused
      split at refused
      next => exact .inl (refused_pop lists.check.popJob.2 refused)
      next => exact .inl refused
  | judged verdict =>
      simp only [dispatch, isAt] at refused ⊢
      exact refused_update lists refused
  | placing verdict =>
      simp only [dispatch, isAt, place] at refused ⊢
      split at refused
      next => exact .inl refused
      next => exact .inl refused
      next => exact .inl refused
      next => exact refused_insert lists.check refused
      next => exact .inl refused
  | _ =>
      left
      simp only [dispatch, isAt] at refused
      (repeat' split at refused) <;> exact refused

theorem refused_work (refused : Refused (run.work worker input).1.scheduler.checkJobs other) :
    Refused run.scheduler.checkJobs other ∨ (run.work worker input).1.At .check other := by
  cases isAt : run.workers worker with
  | inserting eid =>
      simp only [work, isAt] at refused ⊢
      exact refused_insert lists.check refused
  | removing eid =>
      simp only [work, isAt] at refused ⊢
      exact refused_update lists refused
  | _ =>
      left
      simp only [work, isAt] at refused
      (repeat' split at refused) <;> exact refused

theorem refused_matchEvents
    (refused : Refused (run.matchEvents input).1.scheduler.checkJobs other) :
    Refused run.scheduler.checkJobs other ∨ (run.matchEvents input).1.At .check other := by
  cases isAt : run.async with
  | handing eid rest =>
      simp only [matchEvents, isAt] at refused ⊢
      exact refused_insert lists.check refused
  | comparing notifications =>
      left
      cases notifications with
      | nil | cons =>
          simp only [matchEvents, isAt] at refused
          exact refused
  | _ =>
      left
      simp only [matchEvents, isAt] at refused
      (repeat' split at refused) <;> exact refused

theorem refused_step (op : Op)
    (refused : Refused ((system setting).step run op).1.scheduler.checkJobs other) :
    Refused run.scheduler.checkJobs other ∨ ((system setting).step run op).1.At .check other := by
  cases op with
  | dispatch input => exact refused_dispatch lists refused
  | work worker input => exact refused_work lists refused
  | matchEvents input => exact refused_matchEvents lists refused
  | stop => exact .inl refused
  | unschedule eid lookup =>
      left
      simp only [system, unscheduleAbi] at refused
      (repeat' split at refused) <;> exact refused
  | eventNotify eid event =>
      left
      simp only [system, eventNotifyAbi] at refused
      split at refused <;> exact refused
  | halt call =>
      left
      simp only [system, halt] at refused
      split at refused
      next => exact refused
      next =>
        cases call with
        | checkJobs => exact (lists.check.stop.2.2 other).mp refused
        | _ => exact refused
  | schedule eid lookup now =>
      simp only [system, scheduleAbi] at refused ⊢
      cases lookup with
      | error code => exact .inl refused
      | ok =>
          dsimp only at refused ⊢
          split
          next none =>
            rw [if_pos none] at refused
            exact .inl refused
          next some =>
            rw [if_neg some] at refused
            split
            next recorded =>
              rw [if_pos recorded] at refused
              exact refused_update lists refused
            next fresh =>
              rw [if_neg fresh] at refused
              exact refused_update lists refused

theorem insertCheck_accepted (accepted : ¬Refused run.scheduler.checkJobs eid) :
    (run.insertCheck eid targetTime).2 ≠ .inserted false := by
  rw [insertCheck, (insertJob_accepted lists.check).mpr accepted]
  simp

theorem insertWorker_accepted (accepted : ¬Refused run.scheduler.workerJobs eid) :
    (run.insertWorker eid targetTime).2 ≠ .inserted false := by
  rw [insertWorker, (insertJob_accepted lists.worker).mpr accepted]
  simp

end

theorem dispatch_inserts (sound : Sound run) :
    (run.dispatch setting input).2 ≠ .inserted false := by
  cases isAt : run.dispatcher with
  | rehanding verdict other =>
      have here : run.At .drained other := by
        rw [At, isAt]
        rfl
      simp only [dispatch, isAt]
      have lists : Lists { run with dispatcher := .draining verdict } :=
        ⟨sound.check, sound.worker, sound.exact, sound.event⟩
      exact insertWorker_accepted lists (sound.acceptsWorker here (by simp))
  | placing verdict =>
      have lists : Lists { run with dispatcher := .looping } :=
        ⟨sound.check, sound.worker, sound.exact, sound.event⟩
      have here (held : verdict.condition.type ≠ .NEVER) : run.At .dispatcher verdict.eid := by
        rw [At, isAt]
        exact if_neg held
      simp only [dispatch, isAt, place]
      cases isType : verdict.condition.type with
      | READY | WAIT_TIME =>
          refine insertWorker_accepted lists (sound.acceptsWorker (here ?_) (by simp))
          simp [isType]
      | WAIT =>
          have here := here (by simp [isType])
          exact insertCheck_accepted lists
            (sound.accepts (.dispatcher here) (sound.elsewhere here (by simp)))
      | NEVER | WAIT_EVENT => simp
  | _ =>
      simp only [dispatch, isAt]
      repeat' split
      all_goals simp

theorem step_inserts (sound : Sound run) (op : Op)
    (new : ∀ eid, op.schedules setting = some eid → eid ∉ run.scheduler.conditions →
      ¬Refused run.scheduler.checkJobs eid) :
    ((system setting).step run op).2 ≠ .inserted false := by
  cases op with
  | dispatch input => exact dispatch_inserts sound
  | work worker input =>
      cases isAt : run.workers worker with
      | inserting eid =>
          have here : run.At (.workerThread worker) eid := by
            rw [At, isAt]
            rfl
          have lists : Lists (run.goTo worker .waiting) :=
            ⟨sound.check, sound.worker, sound.exact, sound.event⟩
          simp only [system, work, isAt]
          exact insertCheck_accepted lists
            (sound.accepts (.inserting worker isAt) (sound.elsewhere here (by simp)))
      | _ =>
          simp only [system, work, isAt]
          repeat' split
          all_goals simp
  | matchEvents input =>
      cases isAt : run.async with
      | handing eid rest =>
          have here : run.At .eventThread eid := by
            rw [At, isAt]
            rfl
          have lists : Lists { run with async := .comparing rest } :=
            ⟨sound.check, sound.worker, sound.exact, sound.event⟩
          simp only [system, matchEvents, isAt]
          exact insertCheck_accepted lists
            (sound.accepts (.eventThread here) (sound.elsewhere here (by simp)))
      | comparing notifications =>
          cases notifications with
          | nil | cons =>
              simp only [system, matchEvents, isAt]
              simp
      | _ =>
          simp only [system, matchEvents, isAt]
          repeat' split
          all_goals simp
  | stop => simp [system]
  | unschedule eid lookup =>
      simp only [system, unscheduleAbi]
      repeat' split
      all_goals simp
  | eventNotify eid event =>
      simp only [system, eventNotifyAbi]
      split <;> simp
  | halt call =>
      simp only [system, halt]
      split <;> simp
  | schedule eid lookup now =>
      cases lookup with
      | error code => simp [system, scheduleAbi]
      | ok =>
          simp only [system, scheduleAbi]
          split
          next => simp
          next some =>
            rw [Bool.not_eq_true', Bool.not_eq_false] at some
            split
            next => simp
            next fresh =>
              have accepted := new eid (if_pos some) fresh
              rw [(insertJob_accepted sound.check).mpr accepted]
              simp

/-! ## Single ownership -/

/-- Which entities were scheduled, and which were given up. -/
structure History where
  scheduled : List Uid
  answered : List Uid

def History.note (setting : Setting) (history : History) (op : Op) (report : Report) : History where
  scheduled := (op.schedules setting).toList ++ history.scheduled
  answered := report.givesUp.toList ++ history.answered

/-- The threads with the history of the entities. -/
def noted (setting : Setting) : System (MultiThreadRun heap × History) Op Report :=
  (system setting).recorded (History.note setting)

/-- Nothing is scheduled a second time. -/
def Once (setting : Setting) (state : MultiThreadRun heap × History) (op : Op) : Prop :=
  ∀ eid ∈ op.schedules setting, eid ∉ state.2.scheduled

instance (setting : Setting) (state : MultiThreadRun heap × History) (op : Op) :
    Decidable (Once setting state op) :=
  inferInstanceAs (Decidable (∀ eid ∈ op.schedules setting, eid ∉ state.2.scheduled))

/-- What holds of the threads and the history of the entities. -/
structure Owned (state : MultiThreadRun heap × History) : Prop where
  sound : Sound state.1
  kept : ∀ eid ∈ state.2.scheduled, eid ∉ state.2.answered → eid ∈ state.1.scheduler.conditions
  judged : ∀ verdict, state.1.dispatcher = .judged verdict → verdict.condition.type = .NEVER →
    verdict.eid ∈ state.2.answered
  removing : ∀ worker eid, state.1.workers worker = .removing eid → eid ∈ state.2.answered
  known : ∀ eid ∈ state.1.scheduler.conditions, eid ∈ state.2.scheduled
  looked : ∀ eid, Refused state.1.scheduler.checkJobs eid → eid ∈ state.2.scheduled

namespace Owned

theorem start : Owned (MultiThreadRun.start heap, ⟨[], []⟩) where
  sound := Sound.start
  kept := nofun
  judged := nofun
  removing := nofun
  known eid known := absurd known (AList.notMem_empty eid)
  looked eid refused := absurd (refused_some.mp refused) (Finset.notMem_empty eid)

variable {state : MultiThreadRun heap × History}

theorem step (owned : Owned state) (op : Op) : Owned ((noted setting).step state op).1 := by
  have answered {eid : Uid} (before : eid ∈ state.2.answered) :
      eid ∈ ((noted setting).step state op).1.2.answered := List.mem_append_right _ before
  have sound : Sound ((noted setting).step state op).1.1 := owned.sound.step op
  have scheduled {eid : Uid} (known : eid ∈ state.1.scheduler.conditions) :
      eid ∈ ((noted setting).step state op).1.2.scheduled :=
    List.mem_append_right _ (owned.known eid known)
  have known (eid : Uid) (known : eid ∈ ((noted setting).step state op).1.1.scheduler.conditions) :
      eid ∈ ((noted setting).step state op).1.2.scheduled := by
    obtain ⟨before, -⟩ | schedules := (conditions_step owned.sound op).mp known
    · exact scheduled before
    · exact List.mem_append_left _ (Option.mem_toList.mpr schedules)
  refine ⟨sound, fun eid isScheduled notAnswered => ?_, fun verdict isAt never => ?_,
    fun worker eid isAt => ?_, known, fun eid refused => ?_⟩
  · refine (conditions_step owned.sound op).mpr ?_
    obtain now | before := List.mem_append.mp isScheduled
    · exact .inr (Option.mem_toList.mp now)
    · refine .inl ⟨owned.kept eid before (mt answered notAnswered), fun erases => ?_⟩
      cases op with
      | dispatch input =>
          obtain ⟨verdict, isAt, never, rfl⟩ := erases
          exact notAnswered (answered (owned.judged verdict isAt never))
      | work worker input => exact notAnswered (answered (owned.removing worker eid erases))
      | _ => exact erases
  · by_cases dispatches : ∃ input, op = .dispatch input
    · obtain ⟨input, rfl⟩ := dispatches
      have gone : ((system setting).step state.1 (.dispatch input)).2.givesUp =
          some verdict.eid := by
        obtain ⟨-, report⟩ | report := dispatch_judged never isAt
        · exact congrArg Report.givesUp report
        · exact (congrArg Report.givesUp report).trans (if_pos never)
      exact List.mem_append_left _ (Option.mem_toList.mpr gone)
    · have same : ((system setting).step state.1 op).1.dispatcher = state.1.dispatcher :=
        (threads_step _).1 (not_exists.mp dispatches)
      exact answered (owned.judged verdict (same.symm.trans isAt) never)
  · by_cases works : ∃ index input, op = .work index input
    · obtain ⟨index, input, rfl⟩ := works
      obtain before | ⟨-, report⟩ := work_removing isAt
      · exact answered (owned.removing worker eid before)
      · exact List.mem_append_left _ (Option.mem_toList.mpr (congrArg Report.givesUp report))
    · have same : ((system setting).step state.1 op).1.workers = state.1.workers :=
        (threads_step _).2.1 fun index => not_exists.mp (not_exists.mp works index)
      exact answered (owned.removing worker eid ((congrFun same worker).symm.trans isAt))
  · obtain before | queued := refused_step owned.sound.toLists op refused
    · exact List.mem_append_right _ (owned.looked eid before)
    · exact known eid (sound.custody.known queued)

end Owned

/-- In every run of the dispatcher, any number of workers, the thread that matches notifications
and the calls from outside, in any order: while the scheduler runs, an entity that was scheduled
and not given up is at exactly one place; no two workers execute it at once, and no insertion
of a job is refused as long as nothing is scheduled twice, also while the scheduler stops. -/
theorem single_owner (heap : PriorityQueue (Item Uid) itemPriorityCmp) (setting : Setting)
    (ops : List Op) :
    let state := (noted setting).run (start heap, ⟨[], []⟩) ops
    (state.1.running = true → ∀ eid ∈ state.2.scheduled, eid ∉ state.2.answered →
      ∃! place, state.1.At place eid) ∧
    (∀ eid first second, state.1.workers first = .executing eid →
      state.1.workers second = .executing eid → first = second) ∧
    ∀ op, Once setting state op → ((system setting).step state.1 op).2 ≠ .inserted false := by
  intro state
  have owned : Owned state :=
    System.invariant_run_of_forall (fun _ op owned => owned.step op) Owned.start ops
  refine ⟨fun running eid isScheduled notAnswered => ?_, fun eid first second isFirst isSecond =>
    ?_,
    fun op once => ?_⟩
  · exact owned.sound.custody.existsUnique ⟨running, owned.kept eid isScheduled notAnswered⟩
  · have executes {worker : Nat} (isAt : state.1.workers worker = .executing eid) :
        state.1.At (.workerThread worker) eid := by
      rw [At, isAt]
      rfl
    exact Place.workerThread.inj (owned.sound.custody.once (executes isFirst) (executes isSecond))
  · exact step_inserts owned.sound op fun eid schedules _ refused =>
      once eid schedules (owned.looked eid refused)

/-- One entity is scheduled, and a worker executes it. -/
theorem single_owner_executing :
    let setting : Setting := ⟨fun _ => true, true, 0, 0⟩
    let ops : List Op := [.schedule 7 (.ok ()) 0, .dispatch {}, .dispatch {}, .dispatch {},
      .dispatch {}, .dispatch {}, .dispatch {}, .dispatch {}, .dispatch {}, .work 3 {}, .work 3 {},
      .work 3 {}]
    let state := (noted setting).run (start (listHeap Uid), ⟨[], []⟩) ops
    state.1.workers 3 = .executing 7 ∧ ∃! place, state.1.At place 7 := by
  refine ⟨by decide +kernel, ?_⟩
  exact (single_owner (listHeap Uid) ⟨fun _ => true, true, 0, 0⟩ _).1 (by decide +kernel) 7
    (by decide +kernel) (by decide +kernel)

theorem workers_run {ops : List Op} (idle : ∀ op ∈ ops, ∀ worker input, op ≠ .work worker input)
    (state : MultiThreadRun heap × History) :
    ((noted setting).run state ops).1.workers = state.1.workers := by
  induction ops generalizing state with
  | nil => rfl
  | cons op rest ih =>
      obtain ⟨first, later⟩ := List.forall_mem_cons.mp idle
      exact (ih later _).trans ((threads_step _).2.1 first)

/-- An entity that waits for an event is in the hands of the thread that matches notifications.
Two entities wait when the scheduler stops: one of them is dropped, though the executor never
said that it will not execute again. -/
theorem owner_elsewhere :
    let setting : Setting := ⟨fun _ => true, true, 1, 1000000⟩
    let reached := (noted setting).run (start (listHeap Uid), ⟨[], []⟩)
    let waits (type : SchedulingConditionType) (now : Int) : Op :=
      .dispatch { now, condition := .ok ⟨type, 0⟩ }
    let parked : List Op := .schedule 1 (.ok ()) 0 :: .replicate 8 (waits .WAIT_EVENT 0) ++
      .eventNotify 1 .GXF_EVENT_EXTERNAL :: .replicate 4 (.matchEvents {})
    let stopped : List Op := [.schedule 1 (.ok ()) 0, .schedule 2 (.ok ()) 0] ++
      .replicate 8 (waits .WAIT 0) ++ .replicate 9 (waits .WAIT 2000000)
    ((noted setting).Along (Once setting) (start (listHeap Uid), ⟨[], []⟩) parked ∧
      (reached parked).1.running = true ∧ 1 ∈ (reached parked).2.scheduled ∧
      (reached parked).2.answered = [] ∧
      ∀ place, (reached parked).1.At place 1 → place = .eventThread) ∧
    (noted setting).Along (Once setting) (start (listHeap Uid), ⟨[], []⟩) stopped ∧
      2 ∈ (reached stopped).2.scheduled ∧ (reached stopped).2.answered = [] ∧
      ∀ place, ¬(reached stopped).1.At place 2 := by
  intro setting reached waits parked stopped
  have owned (ops : List Op) : Owned (reached ops) :=
    System.invariant_run_of_forall (fun _ op owned => owned.step op) Owned.start ops
  refine ⟨⟨by decide +kernel, by decide +kernel, by decide +kernel, by decide +kernel, ?_⟩,
    by decide +kernel, by decide +kernel, by decide +kernel, fun place here => ?_⟩
  · have inHand : (reached parked).1.async.current = some 1 := by decide +kernel
    exact (owned parked).sound.custody.only inHand
  · cases place with
    | check =>
        have none : ¬Queued (reached stopped).1.scheduler.checkJobs 2 := by decide +kernel
        exact none here
    | worker =>
        have none : ¬Queued (reached stopped).1.scheduler.workerJobs 2 := by decide +kernel
        exact none here
    | event =>
        have none : ¬Stored (reached stopped).1.scheduler.eventWaiting 2 := by decide +kernel
        exact none here
    | dispatcher =>
        have other : (reached stopped).1.dispatcher.current ≠ some 2 := by decide +kernel
        exact other here
    | drained =>
        have none : (reached stopped).1.dispatcher.drained ≠ some 2 := by decide +kernel
        exact none here
    | workerThread worker =>
        have idle : (reached stopped).1.workers = (start (listHeap Uid)).workers :=
          workers_run (by simp [stopped, waits]) _
        rw [At, idle] at here
        cases here
    | eventThread =>
        have none : (reached stopped).1.async.current ≠ some 2 := by decide +kernel
        exact none here

end MultiThreadRun

end Gxf.Std
