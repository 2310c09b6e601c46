import Gxf.Lib.Double
import Gxf.Lib.Patience
import Gxf.Std.MultiThreadScheduler.Threads

/-!
# The patience of the multi-thread scheduler

The dispatcher compares the time of an evaluation without a ready entity with the one of the latest
evaluation that was not stuck.  This time is kept from one run to the next.  The recession period is
added to the timeout before the sign of the timeout is looked at.
-/

namespace Gxf.Std.MultiThreadRun

open Gxf.Core Gxf.Lib TimedJobList MultiThreadScheduler

variable {heap : PriorityQueue (Item Uid) itemPriorityCmp}

/-- `stop_on_deadlock_timeout_ + check_recession_period_ms_`, where the period is the value of a
double. -/
def recessedTimeout (timeout : Int) (period : ℚ) : ℚ := toDouble (toDouble timeout + period)

/-- The sum as a whole number.  Its conversion is only specified in the range of an `int64_t`. -/
def deadlockTimeoutOf (unspecified : ℚ → Int) (timeout : Int) (period : ℚ) : Int :=
  let sum := recessedTimeout timeout period
  let whole := if 0 ≤ sum then ⌊sum⌋ else ⌈sum⌉
  if InInt64 whole then whole else unspecified sum

/-- What `checkEndingCriteria` finds at some time.  It is stuck if no entity is ready and none waits
for a time or for an event. -/
def evaluation (run : MultiThreadRun heap) (now : Int) : Evaluation where
  time := now
  ready := decide (run.scheduler.readyCount ≠ 0)
  stuck := decide (run.scheduler.readyCount = 0 ∧ run.scheduler.waitTimeCount = 0 ∧
    run.scheduler.waitEventCount = 0)

/-- A run with the latest reading of the clock for an evaluation and the evaluations so far, latest
first. -/
structure Watched (heap : PriorityQueue (Item Uid) itemPriorityCmp) where
  run : MultiThreadRun heap
  clock : Int
  evaluations : List Evaluation

/-- The time and the verdict of a step, if it is an evaluation. -/
def evaluating (run : MultiThreadRun heap) : Op → Option Evaluation
  | .dispatch input =>
      match run.dispatcher with
      | .recorded _ => some (run.evaluation input.now)
      | _ => none
  | _ => none

/-- The run with its evaluations. -/
def watching (setting : Setting) : System (Watched heap) Op Report where
  step watched op :=
    let answer := (system setting).step watched.run op
    match watched.run.evaluating op with
    | some found => (⟨answer.1, found.time, found :: watched.evaluations⟩, answer.2)
    | none => (⟨answer.1, watched.clock, watched.evaluations⟩, answer.2)

/-- The dispatcher decides to stop though there are entities left that wait. -/
def StopsOnDeadlock (setting : Setting) (run : MultiThreadRun heap) (op : Op) : Prop :=
  ∃ input verdict, op = .dispatch input ∧ run.dispatcher = .recorded verdict ∧
    run.scheduler.waitCount ≠ 0 ∧ (run.dispatch setting input).1.dispatcher = .stopping verdict

/-- What is asked of a step: the dispatcher stops on deadlock only after a timeout that is not
negative, and all evaluations of the run during the timeout were stuck. -/
def HasPatience (setting : Setting) (timeout start : Int) (watched : Watched heap) (op : Op) :
    Prop :=
  StopsOnDeadlock setting watched.run op → 0 ≤ timeout ∧ ∃ found ∈ watched.run.evaluating op,
      Patient start (timeout * 1000000) found.time (found :: watched.evaluations)

/-- The clock does not go back. -/
def Forward (watched : Watched heap) (op : Op) : Prop :=
  ∀ found ∈ watched.run.evaluating op, watched.clock ≤ found.time

/-- Before an evaluation that is stuck there was one in the run that was not. -/
def Refreshed (watched : Watched heap) (op : Op) : Prop :=
  ∀ found ∈ watched.run.evaluating op, found.stuck = true → (latestOther watched.evaluations).isSome

instance (watched : Watched heap) (op : Op) : Decidable (Forward watched op) :=
  inferInstanceAs (Decidable (∀ found ∈ watched.run.evaluating op, _ ≤ _))

instance (watched : Watched heap) (op : Op) : Decidable (Refreshed watched op) :=
  inferInstanceAs (Decidable (∀ found ∈ watched.run.evaluating op, _ → _))

section Steps

variable {setting : Setting} {run : MultiThreadRun heap} {input : Input}

theorem updateCondition_lastNoStopTs (scheduler : MultiThreadScheduler heap) (eid : Uid)
    (condition : SchedulingCondition) (now : Int) :
    (scheduler.updateCondition eid condition now).lastNoStopTs = scheduler.lastNoStopTs := by
  unfold updateCondition recountAll
  repeat' split
  all_goals rfl

theorem dispatch_lastNoStopTs (unrecorded : ∀ verdict, run.dispatcher ≠ .recorded verdict) :
    (run.dispatch setting input).1.scheduler.lastNoStopTs = run.scheduler.lastNoStopTs := by
  cases isAt : run.dispatcher with
  | recorded verdict => exact absurd isAt (unrecorded verdict)
  | placing verdict =>
      simp only [dispatch, isAt, place]
      split <;> rfl
  | judged verdict =>
      simp only [dispatch, isAt]
      exact updateCondition_lastNoStopTs run.scheduler _ _ _
  | _ =>
      simp only [dispatch, isAt]
      repeat' split
      all_goals rfl

theorem work_lastNoStopTs (worker : Nat) :
    (run.work worker input).1.scheduler.lastNoStopTs = run.scheduler.lastNoStopTs := by
  cases isAt : run.workers worker with
  | removing eid =>
      simp only [work, isAt]
      exact updateCondition_lastNoStopTs run.scheduler _ _ _
  | _ =>
      simp only [work, isAt]
      repeat' split
      all_goals rfl

theorem lastNoStopTs_step {op : Op} (unevaluated : run.evaluating op = none) :
    ((system setting).step run op).1.scheduler.lastNoStopTs = run.scheduler.lastNoStopTs := by
  cases op with
  | dispatch input =>
      apply dispatch_lastNoStopTs
      intro verdict isAt
      simp only [evaluating, isAt] at unevaluated
      cases unevaluated
  | work worker input => exact work_lastNoStopTs worker
  | schedule eid lookup now =>
      simp only [system, scheduleAbi]
      repeat' split
      all_goals first | rfl | exact updateCondition_lastNoStopTs run.scheduler _ _ _
  | unschedule eid lookup =>
      simp only [system, unscheduleAbi]
      repeat' split
      all_goals rfl
  | eventNotify eid event =>
      simp only [system, eventNotifyAbi]
      split <;> rfl
  | stop => rfl
  | halt call =>
      simp only [system, halt]
      repeat' split
      all_goals rfl
  | matchEvents input =>
      simp only [system, matchEvents]
      repeat' split
      all_goals rfl

theorem evaluating_eq_some {op : Op} {found : Evaluation}
    (evaluates : run.evaluating op = some found) :
    ∃ input verdict, op = .dispatch input ∧ run.dispatcher = .recorded verdict ∧
      found = run.evaluation input.now := by
  cases op with
  | dispatch input =>
      cases isAt : run.dispatcher with
      | recorded verdict =>
          simp only [evaluating, isAt] at evaluates
          exact ⟨input, verdict, rfl, rfl, (Option.some.inj evaluates).symm⟩
      | _ =>
          simp only [evaluating, isAt] at evaluates
          cases evaluates
  | _ => cases evaluates

/-- The quotient is greater only after one more unit. -/
theorem le_of_lt_tdiv {elapsed timeout : Int} (enabled : 0 ≤ timeout)
    (waited : timeout < elapsed.tdiv 1000000) : (timeout + 1) * 1000000 ≤ elapsed := by
  have forward : 0 ≤ elapsed := by
    by_contra backward
    have notPositive : elapsed.tdiv 1000000 ≤ Int.tdiv 0 1000000 :=
      Int.tdiv_le_tdiv (by decide) (Int.le_of_lt (Int.not_le.mp backward))
    rw [Int.zero_tdiv] at notPositive
    omega
  rw [Int.tdiv_eq_ediv_of_nonneg forward] at waited
  omega

theorem endingCriteria_eq (scheduler : MultiThreadScheduler heap) (stopOnDeadlock : Bool)
    (timeout now : Int) (stuck : Bool)
    (isStuck : stuck = decide (scheduler.readyCount = 0 ∧ scheduler.waitTimeCount = 0 ∧
      scheduler.waitEventCount = 0)) :
    ∃ lastNoStopTs, (scheduler.endingCriteria stopOnDeadlock timeout now).2 =
        { scheduler with lastNoStopTs } ∧
      (0 ≤ timeout → lastNoStopTs = now ∨ stuck = true ∧ lastNoStopTs = scheduler.lastNoStopTs) ∧
      ((scheduler.endingCriteria stopOnDeadlock timeout now).1 = true → scheduler.waitCount ≠ 0 →
        0 ≤ timeout ∧ stuck = true ∧
          timeout < (int64 (now - scheduler.lastNoStopTs)).tdiv 1000000) := by
  have trend : (stopOnDeadlock && stuck) = true ∨ (stopOnDeadlock && stuck) = false :=
    Bool.eq_false_or_eq_true _
  simp only [endingCriteria, ← isStuck]
  by_cases disabled : timeout < 0
  · rw [stopOnDeadlockTimeout, if_pos disabled]
    refine ⟨_, rfl, fun enabled => absurd disabled (Int.not_lt.mpr enabled),
      fun stops waiting => ?_⟩
    rw [decide_eq_false waiting, Bool.and_false] at stops
    cases stops
  rcases trend with trend | trend
  · have verdict : stuck = true := (Bool.and_eq_true_iff.mp trend).2
    rw [stopOnDeadlockTimeout, if_neg disabled, trend, if_neg (by decide)]
    refine ⟨scheduler.lastNoStopTs, ?_, fun _ => .inr ⟨verdict, rfl⟩, fun stops waiting => ?_⟩
    · split <;> rfl
    · refine ⟨Int.not_lt.mp disabled, verdict, ?_⟩
      split at stops
      next =>
        rw [decide_eq_false waiting] at stops
        cases stops
      next waited => exact Int.not_le.mp waited
  · rw [stopOnDeadlockTimeout, if_neg disabled, trend, if_pos (by decide)]
    exact ⟨now, rfl, fun _ => .inl rfl, fun stops => by cases stops⟩

end Steps

section Timeouts

variable {unspecified : ℚ → Int} {timeout : Int} {period : ℚ}

/-- The sum is in the range of an `int64_t`. -/
def Converts (timeout : Int) (period : ℚ) : Prop :=
  -9223372036854775808 ≤ recessedTimeout timeout period ∧
    recessedTimeout timeout period < 9223372036854775808

theorem deadlockTimeoutOf_eq (converts : Converts timeout period) :
    deadlockTimeoutOf unspecified timeout period = if 0 ≤ recessedTimeout timeout period
      then ⌊recessedTimeout timeout period⌋ else ⌈recessedTimeout timeout period⌉ := by
  obtain ⟨low, high⟩ := converts
  rw [deadlockTimeoutOf]
  refine if_pos ⟨?_, ?_⟩
  · split
    · exact Int.le_floor.mpr (by push_cast; exact low)
    · exact_mod_cast low.trans (Int.le_ceil _)
  · split
    · exact Int.floor_lt.mpr (by push_cast; exact high)
    next negative => exact (Int.ceil_le.mpr (by push_cast; linarith) :
        ⌈recessedTimeout timeout period⌉ ≤ 0).trans_lt (by decide)

/-- A timeout with 53 bits is not shortened by more than the fraction of a millisecond. -/
theorem le_deadlockTimeoutOf (converts : Converts timeout period) (notNegative : 0 ≤ timeout)
    (notLess : -1 ≤ period) :
    min timeout (2 ^ 53 - 1) ≤ deadlockTimeoutOf unspecified timeout period + 1 := by
  have bits : ∀ whole : Int, -1 ≤ whole → whole < 2 ^ 53 → toDouble whole = whole :=
    fun whole low high => toDouble_intCast (abs_lt.mpr ⟨by omega, high⟩)
  have kept : ((min timeout (2 ^ 53 - 1) : Int) : ℚ) ≤ toDouble timeout :=
    (bits _ (by omega) (by omega)).symm.trans_le (toDouble_mono (Int.cast_le.mpr (by omega)))
  have sum : ((min timeout (2 ^ 53 - 1) - 1 : Int) : ℚ) ≤ recessedTimeout timeout period :=
    (bits _ (by omega) (by omega)).symm.trans_le (toDouble_mono (by push_cast at kept ⊢; linarith))
  rw [deadlockTimeoutOf_eq converts]
  split
  · have whole := Int.le_floor.mpr sum
    omega
  · have above : min timeout (2 ^ 53 - 1) - 1 ≤ ⌈recessedTimeout timeout period⌉ := by
      exact_mod_cast sum.trans (Int.le_ceil _)
    omega

theorem deadlockTimeoutOf_neg (converts : Converts timeout period)
    (disabled : toDouble timeout + period ≤ -1) :
    deadlockTimeoutOf unspecified timeout period < 0 := by
  have whole : toDouble ((-1 : Int) : ℚ) = (-1 : Int) := toDouble_intCast (by decide)
  have sum : recessedTimeout timeout period ≤ ((-1 : Int) : ℚ) :=
    (toDouble_mono (by push_cast; exact disabled)).trans_eq whole
  have below : ⌈recessedTimeout timeout period⌉ ≤ -1 := Int.ceil_le.mpr sum
  push_cast at sum
  rw [deadlockTimeoutOf_eq converts, if_neg (by linarith)]
  omega

end Timeouts

/-- The evaluations are in the order of time, and with a timeout that is not negative the time that
is kept is not before the latest one that was not stuck, and not in the future. -/
structure Timed (setting : Setting) (start : Int) (watched : Watched heap) : Prop where
  timely : Timely start watched.clock watched.evaluations
  started : start ≤ watched.clock
  latest : 0 ≤ setting.deadlockTimeout → ∀ latest ∈ latestOther watched.evaluations,
    latest.time ≤ watched.run.scheduler.lastNoStopTs ∧
      watched.run.scheduler.lastNoStopTs ≤ watched.clock

section Timed

variable {setting : Setting} {start : Int} {watched : Watched heap}

theorem timed_start (setting : Setting) (run : MultiThreadRun heap) (start : Int) :
    Timed setting start ⟨run, start, []⟩ where
  timely := timely_nil _ _
  started := Int.le_refl _
  latest _ latest isLatest := by cases isLatest

theorem evaluation_stuck (run : MultiThreadRun heap) (now : Int) :
    (run.evaluation now).stuck = decide (run.scheduler.readyCount = 0 ∧
      run.scheduler.waitTimeCount = 0 ∧ run.scheduler.waitEventCount = 0) :=
  rfl

theorem Timed.step (timed : Timed setting start watched) (op : Op) (forward : Forward watched op) :
    Timed setting start ((watching setting).step watched op).1 := by
  simp only [watching]
  cases evaluates : watched.run.evaluating op with
  | none =>
      refine ⟨timed.timely, timed.started, fun enabled latest isLatest => ?_⟩
      rw [lastNoStopTs_step evaluates]
      exact timed.latest enabled latest isLatest
  | some found =>
      have later : watched.clock ≤ found.time := forward found evaluates
      have started : start ≤ found.time := timed.started.trans later
      refine ⟨(timed.timely.later later).cons started, started, fun enabled latest isLatest => ?_⟩
      obtain ⟨input, verdict, rfl, isAt, rfl⟩ := evaluating_eq_some evaluates
      obtain ⟨lastNoStopTs, keeps, takes, -⟩ := endingCriteria_eq watched.run.scheduler
        setting.stopOnDeadlock setting.deadlockTimeout input.now _
        (watched.run.evaluation_stuck input.now)
      simp only [system, dispatch, isAt, keeps]
      rcases takes enabled with now | ⟨stuck, kept⟩
      · rw [now]
        have member := List.mem_of_find?_eq_some isLatest
        exact ⟨(((timed.timely.later later).cons started).inside latest member).2, le_refl _⟩
      · rw [latestOther_cons_stuck stuck] at isLatest
        rw [kept]
        exact (timed.latest enabled latest isLatest).imp_right fun past => past.trans later

theorem Timed.hasPatience {unspecified : ℚ → Int} {timeout : Int} {period : ℚ} {op : Op}
    (timed : Timed setting start watched)
    (timeoutEq : setting.deadlockTimeout = deadlockTimeoutOf unspecified timeout period)
    (converts : Converts timeout period)
    (recession : toDouble timeout + period ≤ -1 ∨ 0 ≤ timeout ∧ -1 ≤ period)
    (forward : Forward watched op) (refreshed : 0 < timeout → Refreshed watched op) :
    HasPatience setting timeout start watched op := by
  rintro ⟨input, verdict, rfl, isAt, waiting, stopped⟩
  have evaluates : watched.run.evaluating (.dispatch input) =
      some (watched.run.evaluation input.now) := by
    simp only [evaluating, isAt]
  have later : watched.clock ≤ input.now := forward _ evaluates
  obtain ⟨lastNoStopTs, keeps, -, stops⟩ := endingCriteria_eq watched.run.scheduler
    setting.stopOnDeadlock setting.deadlockTimeout input.now _
    (watched.run.evaluation_stuck input.now)
  simp only [dispatch, isAt] at stopped
  split at stopped
  next decides =>
    obtain ⟨enabled, stuck, waited⟩ := stops decides waiting
    rw [timeoutEq] at waited enabled
    rcases recession with disabled | ⟨notNegative, notLess⟩
    · exact absurd enabled (Int.not_le.mpr (deadlockTimeoutOf_neg converts disabled))
    have timely := timed.timely.later later
    refine ⟨notNegative, _, evaluates, Patient.cons ?_ stuck⟩
    rcases Int.lt_or_eq_of_le notNegative with positive | none
    · obtain ⟨latest, isLatest⟩ :=
        Option.isSome_iff_exists.mp (refreshed positive _ evaluates stuck)
      obtain ⟨before, past⟩ := timed.latest (timeoutEq ▸ enabled) latest isLatest
      have shorter := @le_deadlockTimeoutOf unspecified _ _ converts notNegative notLess
      have whole := le_of_lt_tdiv enabled waited
      have inside := (inInt64_int64 (input.now - watched.run.scheduler.lastNoStopTs)).2
      have elapsed := whole.trans (int64_le_self (by omega))
      apply timely.patient isLatest
      omega
    · rw [← none, Int.zero_mul]
      exact timely.patient_zero (timed.started.trans later)
  next => cases stopped

end Timed

theorem hasPatience_run (setting : Setting) {unspecified : ℚ → Int} {timeout : Int} {period : ℚ}
    (timeoutEq : setting.deadlockTimeout = deadlockTimeoutOf unspecified timeout period)
    (converts : Converts timeout period)
    (recession : toDouble timeout + period ≤ -1 ∨ 0 ≤ timeout ∧ -1 ≤ period)
    (run : MultiThreadRun heap) (start : Int) (ops : List Op)
    (forward : (watching setting).Along Forward ⟨run, start, []⟩ ops)
    (refreshed : 0 < timeout → (watching setting).Along Refreshed ⟨run, start, []⟩ ops) :
    (watching setting).Along (HasPatience setting timeout start) ⟨run, start, []⟩ ops := by
  have guarded : (watching setting).Along
      (fun watched op => Forward watched op ∧ (0 < timeout → Refreshed watched op))
      ⟨run, start, []⟩ ops := by
    rw [System.along_and]
    exact ⟨forward, System.along_imp refreshed⟩
  exact System.along_of_invariant (fun watched op timed guard => timed.step op guard.1)
    (fun watched op timed guard => timed.hasPatience timeoutEq converts recession guard.1 guard.2)
    (timed_start setting run start) guarded

end Gxf.Std.MultiThreadRun
