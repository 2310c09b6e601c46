import Gxf.Std.GreedyScheduler.Notifications
import Gxf.Std.MultiThreadScheduler.Notifications

/-!
# Notifications are matched

Both schedulers let an entity wait for an event outside of the locks under which notifications
arrive.  An entity that waits is in either case still in the list of notifications when one
arrived after its evaluation.
-/

namespace Gxf.Std

open Gxf.Core Gxf.Lib TimedJobList MultiThreadRun

/-- No notification is lost in the multi-thread scheduler while it runs, nor in the greedy
scheduler, where the entity may also be in the middle of its match. -/
theorem no_notification_lost (heap : PriorityQueue (Item Uid) itemPriorityCmp)
    (setting : MultiThreadRun.Setting) (ops : List MultiThreadRun.Op)
    (greedy : GreedyScheduler.Setting) (events : List GreedyScheduler.Event) :
    let state := (notified setting).run (start heap, []) ops
    let pair := (GreedyScheduler.Matching.noticed greedy).run
      (GreedyScheduler.Matching.start, []) events
    (state.1.running = true → ∀ eid ∈ state.2, state.1.At .event eid →
      MultiThreadRun.Stored state.1.scheduler.eventNotified eid ∧
      (state.1.async = .exporting → ∀ pass,
        ((system setting).run state.1 pass).running = true →
        ((system setting).run state.1 pass).async = .sleeping →
          eid ∈ (system setting).gather handedBack state.1 pass)) ∧
    ∀ eid ∈ pair.2, eid ∈ pair.1.scheduler.eventWaiting.list →
      (eid ∈ pair.1.scheduler.eventNotified.list ∨ pair.1.within = .matched eid) ∧
      (pair.1.scheduler.phase = .unschedule → ∀ pass, (∀ event ∈ pass, event ≠ .runAsync) →
        ((GreedyScheduler.Matching.system greedy).run pair.1 pass).scheduler.phase = .remove →
          eid ∈ (GreedyScheduler.Matching.system greedy).gather
            GreedyScheduler.Matching.handedBack pair.1 pass) :=
  ⟨kept_until_matched heap setting ops,
    GreedyScheduler.Matching.kept_until_matched greedy events⟩

/-- The entity `1` is evaluated, notified and put on the waiting list, in this order. -/
def parkedOps : List MultiThreadRun.Op :=
  [.matchEvents {}, .schedule 1 (.ok ()) 0, .dispatch {}, .dispatch {}, .dispatch {},
    .dispatch { condition := .ok ⟨.WAIT_EVENT, 0⟩ }, .eventNotify 1 .GXF_EVENT_EXTERNAL,
    .dispatch {}, .dispatch {}, .dispatch {}, .dispatch {}]

def loopPass (condition : SchedulingConditionType) : GreedyScheduler.Event :=
  .loop ⟨0, .ok ⟨condition, 0⟩, .GXF_SUCCESS⟩

/-- The same in the greedy scheduler. -/
def parkedEvents : List GreedyScheduler.Event :=
  [.schedule 1 (.ok ()), .runAsync, loopPass .READY, loopPass .READY, loopPass .READY,
    loopPass .WAIT_EVENT, .eventNotify 1 .GXF_EVENT_EXTERNAL, loopPass .READY, loopPass .READY]

theorem no_notification_lost_parked :
    let setting : MultiThreadRun.Setting := ⟨fun _ => true, false, 0, 0⟩
    let greedy : GreedyScheduler.Setting := ⟨fun _ => true, none, false, 0⟩
    let state := (notified setting).run (start (listHeap Uid), []) parkedOps
    let pair := (GreedyScheduler.Matching.noticed greedy).run
      (GreedyScheduler.Matching.start, []) parkedEvents
    (MultiThreadRun.Stored state.1.scheduler.eventNotified 1 ∧
      1 ∈ (system setting).gather handedBack state.1 (.replicate 6 (.matchEvents {}))) ∧
    (1 ∈ pair.1.scheduler.eventNotified.list ∨ pair.1.within = .matched 1) ∧
      1 ∈ (GreedyScheduler.Matching.system greedy).gather
        GreedyScheduler.Matching.handedBack pair.1 (.replicate 5 (loopPass .READY)) := by
  obtain ⟨multi, loop⟩ := no_notification_lost (listHeap Uid) ⟨fun _ => true, false, 0, 0⟩ parkedOps
    ⟨fun _ => true, none, false, 0⟩ parkedEvents
  have kept := multi (by decide +kernel) 1 (by decide +kernel) (by
    change MultiThreadRun.Stored _ _
    decide +kernel)
  have handed := kept.2 (by decide +kernel) (.replicate 6 (.matchEvents {})) (by decide +kernel)
    (by decide +kernel)
  have calm : ∀ event ∈ List.replicate 5 (loopPass .READY), event ≠ .runAsync := by
    intro event member
    rw [List.eq_of_mem_replicate member]
    exact nofun
  have still := loop 1 (by decide +kernel) (by decide +kernel)
  have active := still.2 (by decide +kernel) _ calm (by decide +kernel)
  exact ⟨⟨kept.1, handed⟩, still.1, active⟩

/-- The last entity that is evaluated starts to wait after `stopAllJobs()` has cleared the
notifications.  The loop of the greedy scheduler has removed the notifications of an entity that
still waits. -/
theorem notification_not_stored :
    let setting : MultiThreadRun.Setting := ⟨fun _ => true, false, 0, 0⟩
    let ops : List MultiThreadRun.Op := [.schedule 1 (.ok ()) 0, .dispatch {}, .dispatch {},
      .dispatch {}, .dispatch { condition := .ok ⟨.WAIT_EVENT, 0⟩ },
      .eventNotify 1 .GXF_EVENT_EXTERNAL, .dispatch {}, .dispatch {},
      .dispatch { expired := true }, .halt .eventNotified, .halt .eventWaiting, .dispatch {}]
    let state := (notified setting).run (start (listHeap Uid), []) ops
    let greedy : GreedyScheduler.Setting := ⟨fun _ => true, none, false, 0⟩
    let input (condition : SchedulingConditionType) : GreedyScheduler.Event :=
      .loop ⟨0, .ok ⟨condition, 0⟩, .GXF_SUCCESS⟩
    let events : List GreedyScheduler.Event := [.schedule 1 (.ok ()), .runAsync, input .READY,
      input .READY, input .READY, input .WAIT_EVENT, .eventNotify 1 .GXF_EVENT_EXTERNAL,
      input .READY, input .READY, input .READY, input .READY, input .READY]
    let pair := (GreedyScheduler.Matching.noticed greedy).run
      (GreedyScheduler.Matching.start, []) events
    (1 ∈ state.2 ∧ state.1.At .event 1 ∧ ¬MultiThreadRun.Stored state.1.scheduler.eventNotified 1) ∧
    (1 ∈ pair.2 ∧ 1 ∈ pair.1.scheduler.eventWaiting.list ∧
      1 ∉ pair.1.scheduler.eventNotified.list) := by
  intro setting ops state greedy input events pair
  have parked : MultiThreadRun.Stored state.1.scheduler.eventWaiting 1 := by decide +kernel
  exact ⟨⟨by decide +kernel, parked, by decide +kernel⟩, by decide +kernel⟩

end Gxf.Std
