import Gxf.Std.GreedyScheduler.Patience
import Gxf.Std.MultiThreadScheduler.Patience

/-!
# Patience before a stop on deadlock

Both schedulers measure the time without progress from a field that outlives a run.  Where the run
itself has set the field before it is needed, a stop on deadlock comes only after the timeout.
-/

namespace Gxf.Std

open Gxf.Core Gxf.Lib TimedJobList MultiThreadRun

/-- Both schedulers stop on deadlock only after the timeout in each run where the time that is kept
comes from the same run, in the greedy scheduler the timeout in nanoseconds fits a signed word, and
in the multi-thread scheduler the recession period does not bring the timeout to the other side of
zero. -/
theorem stops_with_patience (heap : PriorityQueue (Item Uid) itemPriorityCmp) :
    (∀ (setting : GreedyScheduler.Setting) (clock : Int) (events : List GreedyScheduler.Event),
      setting.stopOnDeadlockTimeout * 1000000 < 2 ^ 63 →
      let start : GreedyScheduler.Watched := ⟨GreedyScheduler.init, clock, []⟩
      (GreedyScheduler.watching setting).Along GreedyScheduler.Forward start events →
      (0 < setting.stopOnDeadlockTimeout →
        (GreedyScheduler.watching setting).Along GreedyScheduler.Refreshed start events) →
      (GreedyScheduler.watching setting).Along (GreedyScheduler.HasPatience setting) start events) ∧
    ∀ (setting : MultiThreadRun.Setting) (unspecified : ℚ → Int) (timeout : Int) (period : ℚ)
      (run : MultiThreadRun heap) (clock : Int) (ops : List MultiThreadRun.Op),
      let start : MultiThreadRun.Watched heap := ⟨run, clock, []⟩
      setting.deadlockTimeout = deadlockTimeoutOf unspecified timeout period →
      Converts timeout period → toDouble timeout + period ≤ -1 ∨ 0 ≤ timeout ∧ -1 ≤ period →
      (MultiThreadRun.watching setting).Along MultiThreadRun.Forward start ops →
      (0 < timeout → (MultiThreadRun.watching setting).Along MultiThreadRun.Refreshed start ops) →
      (MultiThreadRun.watching setting).Along (MultiThreadRun.HasPatience setting timeout clock)
        start ops :=
  ⟨fun setting clock events fits => GreedyScheduler.hasPatience_run setting fits clock events,
    fun setting _ _ _ run clock ops timeoutEq converts recession =>
      MultiThreadRun.hasPatience_run setting timeoutEq converts recession run clock ops⟩

/-- An entity of the greedy scheduler executes once and waits from then on; in the multi-thread
scheduler two entities start to wait.  Both stop when the timeout of a second has passed. -/
theorem stops_after_second :
    let greedy : GreedyScheduler.Setting := ⟨fun _ => true, none, true, 1000⟩
    let loop (now : Int) (type : SchedulingConditionType) : GreedyScheduler.Event :=
      .loop ⟨now, .ok ⟨type, 0⟩, .GXF_SUCCESS⟩
    let events := [.schedule 1 (.ok ()), .runAsync] ++ .replicate 9 (loop 0 .READY) ++
      .replicate 8 (loop 1000000000 .WAIT)
    let setting : MultiThreadRun.Setting := ⟨fun _ => true, true, 1000, 0⟩
    let dispatch (now : Int) : MultiThreadRun.Op := .dispatch { now, condition := .ok ⟨.WAIT, 0⟩ }
    let ops := [.schedule 1 (.ok ()) 0, .schedule 2 (.ok ()) 0] ++ .replicate 8 (dispatch 0) ++
      .replicate 6 (dispatch 1001000000)
    (GreedyScheduler.watching greedy).Along (GreedyScheduler.HasPatience greedy)
      ⟨GreedyScheduler.init, 0, []⟩ events ∧
    (MultiThreadRun.watching setting).Along (MultiThreadRun.HasPatience setting 1000 0)
      ⟨start (listHeap Uid), 0, []⟩ ops := by
  intro greedy loop events setting dispatch ops
  have timeoutEq : setting.deadlockTimeout = deadlockTimeoutOf (fun _ => 0) 1000 0 := by
    decide +kernel
  exact ⟨(stops_with_patience (listHeap Uid)).1 greedy 0 events (by decide) (by decide +kernel)
      fun _ => by decide +kernel,
    (stops_with_patience (listHeap Uid)).2 setting (fun _ => 0) 1000 0 (start (listHeap Uid)) 0
      ops timeoutEq ⟨by decide +kernel, by decide +kernel⟩ (.inr (by decide +kernel))
      (by decide +kernel)
      fun _ => by decide +kernel⟩

/-- The clock shows five seconds when the first run of the greedy scheduler begins: a timeout of a
second is over at the first evaluation.  The multi-thread scheduler stops with a timeout of `-1`
milliseconds and the default recession period of five. -/
theorem first_evaluation_stops :
    let greedy : GreedyScheduler.Setting := ⟨fun _ => true, none, true, 1000⟩
    let loop : GreedyScheduler.Event := .loop ⟨5000000000, .ok ⟨.WAIT, 0⟩, .GXF_SUCCESS⟩
    let events := [.schedule 1 (.ok ()), .runAsync] ++ .replicate 9 loop
    let setting : MultiThreadRun.Setting :=
      ⟨fun _ => true, true, deadlockTimeoutOf (fun _ => 0) (-1) 5, 5000000⟩
    let dispatch : MultiThreadRun.Op := .dispatch { now := 5000000, condition := .ok ⟨.WAIT, 0⟩ }
    let ops := [.schedule 1 (.ok ()) 0] ++ .replicate 6 dispatch
    ((GreedyScheduler.watching greedy).Along GreedyScheduler.Forward ⟨GreedyScheduler.init, 0, []⟩
        events ∧
      ¬(GreedyScheduler.watching greedy).Along (GreedyScheduler.HasPatience greedy)
        ⟨GreedyScheduler.init, 0, []⟩ events) ∧
    ((MultiThreadRun.watching setting).Along MultiThreadRun.Forward
        ⟨start (listHeap Uid), 0, []⟩ ops ∧
      ¬(MultiThreadRun.watching setting).Along (MultiThreadRun.HasPatience setting (-1) 0)
        ⟨start (listHeap Uid), 0, []⟩ ops) := by
  intro greedy loop events setting dispatch ops
  refine ⟨⟨by decide +kernel, fun patience => ?_⟩, by decide +kernel, fun patience => ?_⟩
  · have last := ((System.along_append _ _ (events.take 10) [loop]).mp patience).2.1
    have waited := (last ⟨_, rfl, by decide +kernel, by decide +kernel, by decide +kernel⟩).2.lasted
    exact absurd waited (by decide +kernel)
  · have last := ((System.along_append _ _ (ops.take 6) [dispatch]).mp patience).2.1
    have notNegative := (last ⟨_, ⟨1, 5000000, ⟨.WAIT, 0⟩⟩, rfl, by decide +kernel,
      by decide +kernel, by decide +kernel⟩).1
    exact absurd notNegative (by decide +kernel)

end Gxf.Std
