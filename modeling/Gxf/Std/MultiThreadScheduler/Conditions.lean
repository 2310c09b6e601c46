import Gxf.Lib.SignedWord
import Gxf.Lib.Tally
import Gxf.Std.Entity
import Gxf.Std.EventList
import Gxf.Std.SchedulingCondition
import Gxf.Std.TimedJobList

/-!
# The conditions of the multi-thread scheduler

The scheduler keeps the last condition of every entity and four counters beside it, one
for each type that an entity can wait with.  The counters decide whether the scheduler
stops.
-/

namespace Gxf.Std

open Gxf.Core Gxf.Lib TimedJobList

namespace MultiThreadScheduler

/-- The slip tolerance of a job. -/
def kMaxSlipNs : Int := 1000000

end MultiThreadScheduler

/-- The fields of the scheduler. -/
structure MultiThreadScheduler (heap : PriorityQueue (Item Uid) itemPriorityCmp) where
  threadErrorCode : GxfResult
  conditions : Table Uid SchedulingCondition
  readyCount : Int
  waitTimeCount : Int
  waitEventCount : Int
  waitCount : Int
  workerJobs : Option (TimedJobList Uid heap)
  checkJobs : Option (TimedJobList Uid heap)
  unscheduleEntities : Option (EventList Uid)
  eventNotified : Option (EventList Uid)
  eventWaiting : Option (EventList Uid)
  lastNoStopTs : Int

namespace MultiThreadScheduler

variable {heap : PriorityQueue (Item Uid) itemPriorityCmp}

/-- The scheduler after its construction. -/
def create (heap : PriorityQueue (Item Uid) itemPriorityCmp) : MultiThreadScheduler heap where
  threadErrorCode := .GXF_SUCCESS
  conditions := ∅
  readyCount := 0
  waitTimeCount := 0
  waitEventCount := 0
  waitCount := 0
  workerJobs := none
  checkJobs := none
  unscheduleEntities := none
  eventNotified := none
  eventWaiting := none
  lastNoStopTs := 0

/-- The number of entities whose condition has a type. -/
def countOf (type : SchedulingConditionType) (conditions : Table Uid SchedulingCondition) : Int :=
  tally (fun condition => decide (condition.type = type)) conditions

/-- `initialize()`. -/
def init (scheduler : MultiThreadScheduler heap) : MultiThreadScheduler heap :=
  { scheduler with
    readyCount := countOf .READY scheduler.conditions
    waitTimeCount := countOf .WAIT_TIME scheduler.conditions
    waitEventCount := countOf .WAIT_EVENT scheduler.conditions
    workerJobs := some (TimedJobList.create heap)
    checkJobs := some (TimedJobList.create heap)
    eventWaiting := some ⟨[]⟩
    eventNotified := some ⟨[]⟩
    unscheduleEntities := some ⟨[]⟩
    threadErrorCode := .GXF_SUCCESS }

/-- `deinitialize()`, with the code it returns. -/
def deinit (scheduler : MultiThreadScheduler heap) : MultiThreadScheduler heap × GxfResult :=
  ({ scheduler with
      conditions := ∅
      readyCount := 0
      waitTimeCount := 0
      waitEventCount := 0
      workerJobs := none
      checkJobs := none
      eventWaiting := none
      eventNotified := none }, scheduler.threadErrorCode)

/-- The counter of a type when a condition of another type replaces one. -/
def recount (type previous next : SchedulingConditionType) (count : Int) : Int :=
  let lowered := if previous = type then count - 1 else count
  if next = type then lowered + 1 else lowered

/-- The existing condition of an entity is replaced: its part on the counters. -/
def recountAll (scheduler : MultiThreadScheduler heap)
    (previous next : SchedulingConditionType) : MultiThreadScheduler heap :=
  if next ≠ previous then
    { scheduler with
      readyCount := recount .READY previous next scheduler.readyCount
      waitTimeCount := recount .WAIT_TIME previous next scheduler.waitTimeCount
      waitEventCount := recount .WAIT_EVENT previous next scheduler.waitEventCount
      waitCount := recount .WAIT previous next scheduler.waitCount }
  else scheduler

/-- `updateCondition(eid, next_condition)`, with the clock at `now`. -/
def updateCondition (scheduler : MultiThreadScheduler heap) (eid : Uid)
    (nextCondition : SchedulingCondition) (now : Int) : MultiThreadScheduler heap :=
  match scheduler.conditions.lookup eid with
  | none =>
      { scheduler with
        conditions := scheduler.conditions.insert eid nextCondition
        readyCount := scheduler.readyCount + 1
        checkJobs := scheduler.checkJobs.map fun jobs => (jobs.insert ⟨eid, now, kMaxSlipNs, 0⟩).1 }
  | some prevCondition =>
      let recounted := scheduler.recountAll prevCondition.type nextCondition.type
      if nextCondition.type = .NEVER then
        { recounted with conditions := scheduler.conditions.erase eid }
      else { recounted with conditions := scheduler.conditions.insert eid nextCondition }

/-- The calls that reach the conditions or the counters. -/
inductive Op where
  | init
  | updateCondition (eid : Uid) (nextCondition : SchedulingCondition) (now : Int)
  | deinit
  deriving DecidableEq, Repr

/-- The scheduler as a system; `deinit` answers with a code. -/
def system : System (MultiThreadScheduler heap) Op (Option GxfResult) where
  step scheduler
    | .init => (scheduler.init, none)
    | .updateCondition eid nextCondition now =>
        (scheduler.updateCondition eid nextCondition now, none)
    | .deinit => (scheduler.deinit.1, some scheduler.deinit.2)

/-! ## The counters -/

/-- Every counter is the number of conditions of its type. -/
structure Counted (scheduler : MultiThreadScheduler heap) : Prop where
  ready : scheduler.readyCount = countOf .READY scheduler.conditions
  waitTime : scheduler.waitTimeCount = countOf .WAIT_TIME scheduler.conditions
  waitEvent : scheduler.waitEventCount = countOf .WAIT_EVENT scheduler.conditions
  wait : scheduler.waitCount = countOf .WAIT scheduler.conditions

/-- A new entity comes with a ready condition, and no entity waits when the scheduler
is deinitialized. -/
def Covered (scheduler : MultiThreadScheduler heap) : Op → Prop
  | .init => True
  | .updateCondition eid nextCondition _ =>
      eid ∉ scheduler.conditions → nextCondition.type = .READY
  | .deinit => countOf .WAIT scheduler.conditions = 0

variable {scheduler : MultiThreadScheduler heap} {eid : Uid}
variable {previous nextCondition : SchedulingCondition} {now : Int}

theorem cast_add_test (count : Nat) (test : Prop) [Decidable test] :
    ((count + if decide test = true then 1 else 0 : Nat) : Int) =
    count + if test then 1 else 0 := by
  by_cases holds : test
  · rw [if_pos (decide_eq_true holds), if_pos holds]
    rfl
  · rw [if_neg (mt of_decide_eq_true holds), if_neg holds, Nat.add_zero, Int.add_zero]

theorem countOf_insert (type : SchedulingConditionType)
    (conditions : Table Uid SchedulingCondition) (eid : Uid) (condition : SchedulingCondition) :
    countOf type (conditions.insert eid condition) =
      countOf type (conditions.erase eid) + if condition.type = type then 1 else 0 := by
  rw [countOf, tally_insert, cast_add_test]
  rfl

variable {conditions : Table Uid SchedulingCondition}

section

variable (type : SchedulingConditionType)
include type

theorem countOf_insert_of_notMem (fresh : eid ∉ conditions) (condition : SchedulingCondition) :
    countOf type (conditions.insert eid condition) =
      countOf type conditions + if condition.type = type then 1 else 0 := by
  rw [countOf, tally_insert_of_notMem _ fresh, cast_add_test]
  rfl

theorem countOf_of_lookup (stored : conditions.lookup eid = some previous) :
    countOf type conditions =
      countOf type (conditions.erase eid) + if previous.type = type then 1 else 0 := by
  rw [countOf, tally_of_lookup _ stored, cast_add_test]
  rfl

theorem recount_insert (stored : conditions.lookup eid = some previous) :
    recount type previous.type nextCondition.type (countOf type conditions) =
      countOf type (conditions.insert eid nextCondition) := by
  rw [recount, countOf_insert, countOf_of_lookup type stored]
  split <;> split <;> omega

theorem recount_erase (other : type ≠ .NEVER) (stored : conditions.lookup eid = some previous) :
    recount type previous.type .NEVER (countOf type conditions) =
      countOf type (conditions.erase eid) := by
  rw [recount, countOf_of_lookup type stored, if_neg other.symm]
  split <;> omega

end

theorem recount_self (type same : SchedulingConditionType) (count : Int) :
    recount type same same count = count := by
  rw [recount]
  split <;> omega

theorem recountAll_eq (scheduler : MultiThreadScheduler heap)
    (previous next : SchedulingConditionType) :
    scheduler.recountAll previous next =
      { scheduler with
        readyCount := recount .READY previous next scheduler.readyCount
        waitTimeCount := recount .WAIT_TIME previous next scheduler.waitTimeCount
        waitEventCount := recount .WAIT_EVENT previous next scheduler.waitEventCount
        waitCount := recount .WAIT previous next scheduler.waitCount } := by
  rw [recountAll]
  split
  next => rfl
  next same =>
    rw [not_not.mp same]
    simp only [recount_self]

namespace Counted

theorem create : Counted (create heap) := ⟨rfl, rfl, rfl, rfl⟩

section

variable (counted : Counted scheduler)
include counted

theorem init : Counted scheduler.init := ⟨rfl, rfl, rfl, counted.wait⟩

theorem deinit_iff : Counted scheduler.deinit.1 ↔ countOf .WAIT scheduler.conditions = 0 := by
  constructor
  · intro next
    exact counted.wait.symm.trans next.wait
  · intro noneWaits
    exact ⟨rfl, rfl, rfl, counted.wait.trans noneWaits⟩

theorem updateCondition_new_iff (fresh : eid ∉ scheduler.conditions) :
    Counted (scheduler.updateCondition eid nextCondition now) ↔ nextCondition.type = .READY := by
  rw [updateCondition, AList.lookup_eq_none.mpr fresh]
  have counts (type : SchedulingConditionType) := countOf_insert_of_notMem type fresh nextCondition
  constructor
  · intro next
    by_contra notReady
    have ready := next.ready
    simp only [counts, if_neg notReady, counted.ready] at ready
    omega
  · intro isReady
    constructor
    · simp only [counts, isReady, counted.ready, if_true]
    · simp only [counts, isReady, counted.waitTime, reduceCtorEq, if_false, Int.add_zero]
    · simp only [counts, isReady, counted.waitEvent, reduceCtorEq, if_false, Int.add_zero]
    · simp only [counts, isReady, counted.wait, reduceCtorEq, if_false, Int.add_zero]

theorem updateCondition_stored (stored : scheduler.conditions.lookup eid = some previous) :
    Counted (scheduler.updateCondition eid nextCondition now) := by
  rw [updateCondition, stored]
  simp only [recountAll_eq, counted.ready, counted.waitTime, counted.waitEvent, counted.wait]
  split
  next never =>
    rw [never]
    exact ⟨recount_erase .READY (by decide) stored, recount_erase .WAIT_TIME (by decide) stored,
      recount_erase .WAIT_EVENT (by decide) stored, recount_erase .WAIT (by decide) stored⟩
  next =>
    exact ⟨recount_insert _ stored, recount_insert _ stored, recount_insert _ stored,
      recount_insert _ stored⟩

theorem step_iff (op : Op) : Counted (system.step scheduler op).1 ↔ Covered scheduler op := by
  cases op with
  | init => exact iff_of_true counted.init trivial
  | deinit => exact counted.deinit_iff
  | updateCondition eid nextCondition now =>
      by_cases fresh : eid ∉ scheduler.conditions
      · rw [Covered, imp_iff_right fresh]
        exact counted.updateCondition_new_iff fresh
      · obtain ⟨previous, stored⟩ :=
          Option.isSome_iff_exists.mp (AList.lookup_isSome.mpr (not_not.mp fresh))
        exact iff_of_true (counted.updateCondition_stored stored) fun absent => absurd absent fresh

end

end Counted

/-- Along a run from the construction the four counters are right after every call
exactly when every new entity comes with a ready condition and no entity waits when the
scheduler is deinitialized. -/
theorem run_counted_iff (heap : PriorityQueue (Item Uid) itemPriorityCmp) (ops : List Op) :
    system.Along (fun scheduler op => Counted (system.step scheduler op).1) (create heap) ops ↔
      system.Along Covered (create heap) ops :=
  System.along_iff_guarded (fun _ op counted covered => (counted.step_iff op).mpr covered)
    (fun _ op counted => counted.step_iff op) Counted.create ops

/-- An entity waits when the scheduler is deinitialized: its part of the counter stays,
also through the next initialization. -/
theorem deinit_keeps_wait_count :
    let ops : List Op := [.init, .updateCondition 7 ⟨.READY, 0⟩ 0, .updateCondition 7 ⟨.WAIT, 0⟩ 0,
      .deinit, .init]
    let scheduler := system.run (create (listHeap Uid)) ops
    scheduler.waitCount = 1 ∧ scheduler.conditions = ∅ ∧ ¬Counted scheduler := by
  refine ⟨by decide, rfl, fun counted => ?_⟩
  exact absurd counted.wait (by decide)

/-- `stop_on_deadlock_timeout(timeout, now, should_stop)`: whether to stop, and the
latest timestamp without a trend to stop. -/
def stopOnDeadlockTimeout (lastNoStopTs timeout now : Int) (shouldStop : Bool) : Bool × Int :=
  if timeout < 0 then (false, lastNoStopTs)
  else if !shouldStop then (false, now)
  else if (int64 (now - lastNoStopTs)).tdiv 1000000 ≤ timeout then (false, lastNoStopTs)
  else (true, lastNoStopTs)

/-- The part of `checkEndingCriteria(timestamp)` under the lock of the conditions: whether
to stop.  `timeout` is `stop_on_deadlock_timeout_ + check_recession_period_ms_`. -/
def endingCriteria (scheduler : MultiThreadScheduler heap) (stopOnDeadlock : Bool)
    (timeout now : Int) : Bool × MultiThreadScheduler heap :=
  let deadlock := stopOnDeadlock && decide (scheduler.readyCount = 0 ∧
    scheduler.waitTimeCount = 0 ∧ scheduler.waitEventCount = 0)
  let (shouldStop, lastNoStopTs) :=
    stopOnDeadlockTimeout scheduler.lastNoStopTs timeout now deadlock
  (shouldStop || deadlock && decide (scheduler.waitCount = 0), { scheduler with lastNoStopTs })

end MultiThreadScheduler

end Gxf.Std
