import Gxf.Core.Result
import Gxf.Std.StagingQueue.Lists

/-!
# The transmitter to another process

Every tick joins the stages but sends one message only.  The messages that wait and the new ones
have to fit into one stage.
-/

namespace Gxf.Ucx

open Gxf.Core Gxf.Std

/-- `UcxTransmitter`, with what it sent, oldest first, and whether a stage had no room. -/
structure UcxTransmitter (Entity : Type) where
  queue : StagingQueue Entity
  sent : List Entity
  overflowed : Bool
  deriving DecidableEq

namespace UcxTransmitter

variable {Entity : Type} [DecidableEq Entity]

/-- `push_abi(other)`. -/
def pushAbi (transmitter : UcxTransmitter Entity) (other : Entity) :
    UcxTransmitter Entity × GxfResult :=
  let pushed := transmitter.queue.push other
  ({ transmitter with
      queue := pushed.1
      overflowed := transmitter.overflowed ||
        transmitter.queue.numBackstage == transmitter.queue.capacity },
    if pushed.2 then .GXF_SUCCESS else .GXF_EXCEEDING_PREALLOCATED_SIZE)

/-- `sync_io_abi()`, where sending succeeds. -/
def syncIoAbi (transmitter : UcxTransmitter Entity) : UcxTransmitter Entity × GxfResult :=
  let synced := transmitter.queue.sync
  let next := { transmitter with
    queue := synced.1
    overflowed := transmitter.overflowed ||
      transmitter.queue.capacity < transmitter.queue.numMainstage + transmitter.queue.numBackstage }
  if !synced.2 then (next, .GXF_EXCEEDING_PREALLOCATED_SIZE)
  else
    let popped := next.queue.pop
    if popped.2 = next.queue.null then ({ next with queue := popped.1 }, .GXF_SUCCESS)
    else ({ next with queue := popped.1, sent := next.sent ++ [popped.2] }, .GXF_SUCCESS)

/-- An entity publishes messages in its tick, and the router calls `sync_io()` behind it. -/
def tick (transmitter : UcxTransmitter Entity) (messages : List Entity) : UcxTransmitter Entity :=
  (messages.foldl (fun current message => (current.pushAbi message).1) transmitter).syncIoAbi.1

def run (capacity : Nat) (policy : OverflowBehavior) (null : Entity)
    (ticks : List (List Entity)) : UcxTransmitter Entity :=
  ticks.foldl tick ⟨StagingQueue.create capacity policy null, [], false⟩

/-- What waits and what is published in a tick fits into a stage. -/
def Fits (capacity : Nat) : Nat → List (List Entity) → Prop
  | _, [] => True
  | backlog, messages :: ticks =>
      backlog + messages.length ≤ capacity ∧ Fits capacity (backlog + messages.length - 1) ticks

/-- Nothing was lost: what was not sent waits in the main stage. -/
structure Carries (capacity : Nat) (policy : OverflowBehavior) (null : Entity)
    (transmitter : UcxTransmitter Entity) (published backlog : List Entity) : Prop where
  holds : transmitter.queue.Holds capacity policy null ⟨backlog, []⟩
  sent : transmitter.sent ++ backlog = published
  room : transmitter.overflowed = false
  known : ∀ message ∈ published, message ≠ null

variable {capacity : Nat} {policy : OverflowBehavior} {null : Entity}
  {transmitter : UcxTransmitter Entity} {published backlog : List Entity}

omit [DecidableEq Entity] in
theorem pushes (messages : List Entity) {stages : Stages Entity}
    (holds : transmitter.queue.Holds capacity policy null stages)
    (room : transmitter.overflowed = false)
    (fits : stages.back.length + messages.length ≤ capacity) :
    ∃ queue : StagingQueue Entity,
      messages.foldl (fun current message => (current.pushAbi message).1) transmitter =
        { transmitter with queue } ∧
      queue.Holds capacity policy null { stages with back := stages.back ++ messages } := by
  induction messages generalizing transmitter stages with
  | nil => exact ⟨transmitter.queue, rfl, by simpa using holds⟩
  | cons message messages ih =>
      rw [List.length_cons] at fits
      have free : stages.back.length ≠ capacity := by omega
      have pushed := (holds.push message).2
      simp only [Stages.push, if_neg free] at pushed
      have stays : (transmitter.pushAbi message).1 =
          { transmitter with queue := (transmitter.queue.push message).1 } := by
        simp [pushAbi, holds.back_eq, holds.capacity_eq, free]
      rw [List.foldl_cons, stays]
      obtain ⟨queue, isNext, next⟩ := @ih { transmitter with queue := _ } _ pushed room
        (by simp only [List.length_append, List.length_singleton]; omega)
      refine ⟨queue, isNext, ?_⟩
      rw [List.append_cons]
      exact next

section

variable (carries : Carries capacity policy null transmitter published backlog)
include carries

theorem Carries.tick {messages : List Entity} (known : ∀ message ∈ messages, message ≠ null)
    (fits : backlog.length + messages.length ≤ capacity) :
    Carries capacity policy null (transmitter.tick messages) (published ++ messages)
      (backlog ++ messages).tail := by
  have allKnown : ∀ message ∈ published ++ messages, message ≠ null := fun message member =>
    (List.mem_append.mp member).elim (carries.known message) (known message)
  obtain ⟨queue, isPushed, pushed⟩ := pushes messages carries.holds carries.room
    (by simp only [List.length_nil]; omega)
  rw [List.nil_append] at pushed
  obtain ⟨flag, synced⟩ := pushed.sync fun _ => fits
  have small : ¬capacity < backlog.length + messages.length := by omega
  simp only [Stages.sync, List.length_append, gt_iff_lt, if_neg small] at flag synced
  obtain ⟨isPopped, popped⟩ := synced.pop
  rw [UcxTransmitter.tick, isPushed, syncIoAbi]
  simp only [flag, Bool.not_true, Bool.false_eq_true, if_false, isPopped, synced.null_eq]
  have roomy : (transmitter.overflowed ||
      decide (queue.capacity < queue.numMainstage + queue.numBackstage)) = false := by
    simp [carries.room, pushed.capacity_eq, pushed.main_eq, pushed.back_eq, small]
  have total : transmitter.sent ++ (backlog ++ messages) = published ++ messages := by
    rw [← List.append_assoc, carries.sent]
  cases waiting : backlog ++ messages with
  | nil =>
      rw [waiting] at popped total
      rw [List.headD_nil, if_pos rfl]
      exact ⟨popped, total, roomy, allKnown⟩
  | cons first rest =>
      have other : first ≠ null := by
        apply allKnown
        rw [← total, waiting]
        simp
      rw [waiting] at popped total
      rw [List.headD_cons, if_neg other]
      refine ⟨popped, ?_, roomy, allKnown⟩
      rw [List.tail_cons, List.append_assoc, List.singleton_append, total]

theorem Carries.ticks
    {ticks : List (List Entity)} (known : ∀ message ∈ ticks.flatten, message ≠ null)
    (fits : Fits capacity backlog.length ticks) :
    ∃ rest, rest.length ≤ backlog.length + ticks.flatten.length ∧
      Carries capacity policy null (ticks.foldl UcxTransmitter.tick transmitter)
        (published ++ ticks.flatten) rest := by
  induction ticks generalizing transmitter published backlog with
  | nil => exact ⟨backlog, Nat.le_refl _, by simpa using carries⟩
  | cons messages ticks ih =>
      rw [List.flatten_cons] at known ⊢
      have ticked := carries.tick (fun message member =>
        known message (List.mem_append_left _ member)) fits.1
      obtain ⟨rest, le, carried⟩ := ih ticked
        (fun message member => known message (List.mem_append_right _ member))
        (by rw [List.length_tail, List.length_append]; exact fits.2)
      refine ⟨rest, ?_, ?_⟩
      · rw [List.length_tail, List.length_append] at le
        rw [List.length_append]
        omega
      · rw [List.foldl_cons, ← List.append_assoc]
        exact carried

theorem Carries.idle {ticks : Nat} (enough : backlog.length ≤ ticks) : Carries capacity policy null
      ((List.replicate ticks []).foldl UcxTransmitter.tick transmitter) published [] := by
  induction ticks generalizing transmitter backlog with
  | zero =>
      rw [List.eq_nil_of_length_eq_zero (Nat.le_zero.mp enough)] at carries
      exact carries
  | succ ticks ih =>
      have ticked := carries.tick (List.forall_mem_nil _) carries.holds.main_le
      simp only [List.append_nil] at ticked
      exact ih ticked (by rw [List.length_tail]; omega)

end

/-- As long as what waits and what is published fit into a stage and no null entity is published,
nothing overflows, messages are sent in order, and enough further ticks send all of them. -/
theorem sends_in_order (positive : 1 ≤ capacity) (allocatable : 2 * capacity < 2 ^ 64)
    (policy : OverflowBehavior) (null : Entity) (ticks : List (List Entity))
    (known : ∀ message ∈ ticks.flatten, message ≠ null)
    (fits : Fits capacity 0 ticks) (idle : Nat) (enough : ticks.flatten.length ≤ idle) :
    ((run capacity policy null ticks).overflowed = false ∧
      (run capacity policy null ticks).sent <+: ticks.flatten) ∧
    (run capacity policy null (ticks ++ List.replicate idle [])).overflowed = false ∧
      (run capacity policy null (ticks ++ List.replicate idle [])).sent = ticks.flatten := by
  have created : Carries capacity policy null
      ⟨StagingQueue.create capacity policy null, [], false⟩ [] [] :=
    ⟨StagingQueue.holds_create positive allocatable policy null, rfl, rfl, List.forall_mem_nil _⟩
  obtain ⟨rest, le, carried⟩ := created.ticks known fits
  have idled := carried.idle (Nat.le_trans le (by simpa using enough))
  refine ⟨⟨carried.room, rest, carried.sent⟩, ?_⟩
  rw [run, List.foldl_append]
  exact ⟨idled.room, (List.append_nil _).symm.trans idled.sent⟩

/-- Two messages once, and one in each tick behind. -/
theorem sends_in_order_two : (run 2 .kFault 0 ([[1, 2], [3]] ++ List.replicate 3 [])).sent =
    [1, 2, 3] :=
  (sends_in_order (by decide) (by decide) .kFault 0 [[1, 2], [3]] (by decide)
    ⟨by decide, by decide, trivial⟩ 3 (by decide)).2.2

/-- Two messages in each tick fit into a stage, but one of the first ones still waits. -/
theorem second_tick_overflows :
    ¬∀ (capacity : Nat) (policy : OverflowBehavior) (ticks : List (List Nat)), 1 ≤ capacity →
      (∀ messages ∈ ticks, messages.length ≤ capacity) → (∀ message ∈ ticks.flatten, message ≠ 0) →
          (run capacity policy 0 ticks).overflowed = false := by
  intro claim
  exact absurd (claim 2 .kFault [[1, 2], [3, 4]] (by decide) (by decide) (by decide)) (by decide)

end UcxTransmitter

end Gxf.Ucx
