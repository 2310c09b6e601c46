import Gxf.Lib.Run
import Mathlib.Data.List.Infix

/-!
# Queue thread

A worker takes items from a queue and runs a function on each.  Stopping sets a flag, which
the worker reads after it took an item, and a token, which wakes it up once and makes it leave
without an item.  Callers of `wait()` sleep until they are notified and find the flag set and
the queue empty; both notifications are sent without the mutex that the callers hold while they
look.
-/

namespace Gxf.Std

open Gxf.Lib

/-- Where the worker is in `threadLoop()`. -/
inductive QueueWorker (Item : Type) where
  /-- In `pop()`. -/
  | popping
  /-- It holds an item, before it reads `stop_requested_`. -/
  | popped (item : Item)
  /-- It holds an item and found the flag set, before it reads the size of the queue. -/
  | stopSeen (item : Item)
  /-- In `run_function_`. -/
  | running
  /-- It broke out of the loop, before it clears the queue. -/
  | leaving
  /-- It cleared the queue, before it sets `stop_requested_`. -/
  | cleared
  /-- It set the flag, before it notifies the callers of `wait()`. -/
  | announced
  | exited
  deriving DecidableEq

/-- Where the caller of `wait()` is that holds `stop_mutex_`. -/
inductive QueueWaiter where
  /-- It read `stop_requested_` set, before it reads the size of the queue. -/
  | looking
  /-- It found the condition false, before it sleeps; `stopped` is the flag it read. -/
  | failed (stopped : Bool)
  /-- In `joinThread()`, still with the mutex. -/
  | joining
  deriving DecidableEq

/-- `QueueThread` with its `GuardQueue`.  `stopping` counts the callers of `stop()` that set
the flag and not yet the token, `notifying` those that set the token and did not notify yet, and
`asleep` the callers of `wait()` that sleep on `stop_cv_`. -/
structure QueueThread (Item : Type) where
  queue : List Item := []
  wakeupOnce : Bool := false
  stopRequested : Bool := false
  stopping : Nat := 0
  notifying : Nat := 0
  inside : Option QueueWaiter := none
  asleep : Nat := 0
  worker : QueueWorker Item := .popping

/-- The steps of the callers and of the worker. -/
inductive QueueThreadOp (Item : Type) where
  | queueItem (item : Item)
  | requestStop
  | wakeupOnce
  | notify
  /-- A caller of `wait()` locks `stop_mutex_`, at first or after it woke up, and reads the
  flag. -/
  | lock
  | look
  | sleep
  /-- A caller of `wait()` wakes up without a notification. -/
  | wake
  | join
  | pop
  | readStop
  | readSize
  | finish (result : Bool)
  | clear
  | announce
  | notifyExit

namespace QueueThread

variable {Item : Type}

/-- `pop()`, which blocks without a token and without an item. -/
def pop (thread : QueueThread Item) : QueueThread Item :=
  if thread.wakeupOnce then { thread with wakeupOnce := false, worker := .exited }
  else
    match thread.queue with
    | [] => thread
    | item :: rest => { thread with queue := rest, worker := .popped item }

/-- One step, with the item whose run it starts.  A step that is not the next one of its thread
changes nothing. -/
def step (thread : QueueThread Item) : QueueThreadOp Item → QueueThread Item × Option Item
  | .queueItem item => ({ thread with queue := thread.queue ++ [item] }, none)
  | .requestStop =>
      match thread.inside with
      | none => ({ thread with stopRequested := true, stopping := thread.stopping + 1 }, none)
      | some _ => (thread, none)
  | .wakeupOnce =>
      if thread.stopping = 0 then (thread, none)
      else
        ({ thread with
            wakeupOnce := true
            stopping := thread.stopping - 1
            notifying := thread.notifying + 1 }, none)
  | .notify =>
      if thread.notifying = 0 then (thread, none)
      else ({ thread with notifying := thread.notifying - 1, asleep := 0 }, none)
  | .lock =>
      match thread.inside with
      | none =>
          if thread.stopRequested then ({ thread with inside := some .looking }, none)
          else ({ thread with inside := some (.failed false) }, none)
      | some _ => (thread, none)
  | .look =>
      match thread.inside with
      | some .looking =>
          if thread.queue = [] then ({ thread with inside := some .joining }, none)
          else ({ thread with inside := some (.failed true) }, none)
      | _ => (thread, none)
  | .sleep =>
      match thread.inside with
      | some (.failed _) => ({ thread with inside := none, asleep := thread.asleep + 1 }, none)
      | _ => (thread, none)
  | .wake => ({ thread with asleep := thread.asleep - 1 }, none)
  | .join =>
      match thread.inside, thread.worker with
      | some .joining, .exited => ({ thread with inside := none }, none)
      | _, _ => (thread, none)
  | .pop =>
      match thread.worker with
      | .popping => (thread.pop, none)
      | _ => (thread, none)
  | .readStop =>
      match thread.worker with
      | .popped item =>
          if thread.stopRequested then ({ thread with worker := .stopSeen item }, none)
          else ({ thread with worker := .running }, some item)
      | _ => (thread, none)
  | .readSize =>
      match thread.worker with
      | .stopSeen item =>
          if thread.queue = [] then ({ thread with worker := .leaving }, none)
          else ({ thread with worker := .running }, some item)
      | _ => (thread, none)
  | .finish result =>
      match thread.worker with
      | .running => ({ thread with worker := if result then .popping else .leaving }, none)
      | _ => (thread, none)
  | .clear =>
      match thread.worker with
      | .leaving => ({ thread with queue := [], wakeupOnce := false, worker := .cleared }, none)
      | _ => (thread, none)
  | .announce =>
      match thread.worker with
      | .cleared => ({ thread with stopRequested := true, worker := .announced }, none)
      | _ => (thread, none)
  | .notifyExit =>
      match thread.worker with
      | .announced => ({ thread with asleep := 0, worker := .exited }, none)
      | _ => (thread, none)

/-- The condition that `wait()` blocks on. -/
def waitCondition (thread : QueueThread Item) : Prop :=
  thread.stopRequested = true ∧ thread.queue = []

/-- No caller of `wait()` sleeps or found the condition false and is about to sleep. -/
def noneBlocked (thread : QueueThread Item) : Prop :=
  thread.asleep = 0 ∧ ∀ stopped, thread.inside ≠ some (.failed stopped)

end QueueThread

/-- The items queued so far, those of them queued before `stop()` was called, and those run. -/
structure QueueHistory (Item : Type) where
  queued : List Item := []
  early : List Item := []
  ran : List Item := []
  stopCalled : Bool := false

namespace QueueHistory

variable {Item : Type}

/-- The history after a step. -/
def extend (history : QueueHistory Item) (op : QueueThreadOp Item) (started : Option Item) :
    QueueHistory Item :=
  match op with
  | .queueItem item =>
      { history with
        queued := history.queued ++ [item]
        early := if history.stopCalled then history.early else history.early ++ [item] }
  | .requestStop => { history with stopCalled := true }
  | _ => { history with ran := history.ran ++ started.toList }

end QueueHistory

namespace QueueThread

variable {Item : Type}

def system : System (QueueThread Item × QueueHistory Item) (QueueThreadOp Item) (Option Item) :=
  System.recorded ⟨step⟩ QueueHistory.extend

/-- What a step does. -/
inductive Moves (thread : QueueThread Item) (history : QueueHistory Item) :
    QueueThreadOp Item → QueueThread Item → QueueHistory Item → Prop
  | stays (op : QueueThreadOp Item) : Moves thread history op thread history
  | queued (item : Item) :
      Moves thread history (.queueItem item) { thread with queue := thread.queue ++ [item] }
        (history.extend (.queueItem item) none)
  | requested (free : thread.inside = none) : Moves thread history .requestStop
        { thread with stopRequested := true, stopping := thread.stopping + 1 }
        { history with stopCalled := true }
  | refused : Moves thread history .requestStop thread { history with stopCalled := true }
  | token (some : thread.stopping ≠ 0) :
      Moves thread history .wakeupOnce
        { thread with
          wakeupOnce := true
          stopping := thread.stopping - 1
          notifying := thread.notifying + 1 } history
  | notified (some : thread.notifying ≠ 0) :
      Moves thread history .notify
        { thread with notifying := thread.notifying - 1, asleep := 0 } history
  | found (stopped : thread.stopRequested = true) :
      Moves thread history .lock { thread with inside := some .looking } history
  | unset (unset : thread.stopRequested = false) :
      Moves thread history .lock { thread with inside := some (.failed false) } history
  | ready : Moves thread history .look { thread with inside := some .joining } history
  | waits (left : thread.queue ≠ []) :
      Moves thread history .look { thread with inside := some (.failed true) } history
  | slept (stopped : Bool) (failed : thread.inside = some (.failed stopped)) :
      Moves thread history .sleep { thread with inside := none, asleep := thread.asleep + 1 }
        history
  | woke : Moves thread history .wake { thread with asleep := thread.asleep - 1 } history
  | joined : Moves thread history .join { thread with inside := none } history
  | signalled (at_pop : thread.worker = .popping) (woken : thread.wakeupOnce = true) :
      Moves thread history .pop { thread with wakeupOnce := false, worker := .exited } history
  | popped (item : Item) (rest : List Item) (at_pop : thread.worker = .popping)
      (first : thread.queue = item :: rest) :
      Moves thread history .pop { thread with queue := rest, worker := .popped item } history
  | seen (item : Item) (held : thread.worker = .popped item)
      (stopped : thread.stopRequested = true) :
      Moves thread history .readStop { thread with worker := .stopSeen item } history
  | started (item : Item) (held : thread.worker = .popped item ∨ thread.worker = .stopSeen item)
      (left : thread.stopRequested = false ∨ thread.queue ≠ []) (op : QueueThreadOp Item) :
      Moves thread history op { thread with worker := .running }
        { history with ran := history.ran ++ [item] }
  | dropped (item : Item) (held : thread.worker = .stopSeen item) (empty : thread.queue = []) :
      Moves thread history .readSize { thread with worker := .leaving } history
  | finished (ran : thread.worker = .running) :
      Moves thread history (.finish true) { thread with worker := .popping } history
  | failed (ran : thread.worker = .running) :
      Moves thread history (.finish false) { thread with worker := .leaving } history
  | cleared (left : thread.worker = .leaving) : Moves thread history .clear
        { thread with queue := [], wakeupOnce := false, worker := .cleared } history
  | announced (left : thread.worker = .cleared) :
      Moves thread history .announce { thread with stopRequested := true, worker := .announced }
        history
  | told (left : thread.worker = .announced) :
      Moves thread history .notifyExit { thread with asleep := 0, worker := .exited } history

theorem moves_step (thread : QueueThread Item) (history : QueueHistory Item)
    (op : QueueThreadOp Item) :
    Moves thread history op (system.step (thread, history) op).1.1
      (system.step (thread, history) op).1.2 := by
  simp only [system, System.recorded]
  cases op with
  | queueItem item => exact .queued item
  | requestStop =>
      simp only [step, QueueHistory.extend]
      split
      next free => exact .requested free
      next => exact .refused
  | wakeupOnce =>
      simp only [step, QueueHistory.extend]
      split
      next => simpa using Moves.stays _
      next some => simpa using Moves.token some
  | notify =>
      simp only [step, QueueHistory.extend]
      split
      next => simpa using Moves.stays _
      next some => simpa using Moves.notified some
  | lock =>
      simp only [step, QueueHistory.extend]
      split
      next =>
        split
        next stopped => simpa using Moves.found stopped
        next running => simpa using Moves.unset (Bool.eq_false_iff.mpr running)
      next => simpa using Moves.stays _
  | look =>
      simp only [step, QueueHistory.extend]
      split
      next =>
        split
        next => simpa using Moves.ready
        next left => simpa using Moves.waits left
      next => simpa using Moves.stays _
  | sleep =>
      simp only [step, QueueHistory.extend]
      split
      next stopped failed => simpa using Moves.slept stopped failed
      next => simpa using Moves.stays _
  | wake => simpa [step, QueueHistory.extend] using Moves.woke
  | join =>
      simp only [step, QueueHistory.extend]
      split
      next => simpa using Moves.joined
      next => simpa using Moves.stays _
  | pop =>
      simp only [step, QueueHistory.extend]
      split
      next at_pop =>
        rw [pop]
        split
        next woken => simpa using Moves.signalled at_pop woken
        next =>
          split
          next => simpa using Moves.stays _
          next item rest first => simpa using Moves.popped item rest at_pop first
      next => simpa using Moves.stays _
  | readStop =>
      simp only [step, QueueHistory.extend]
      split
      next item held =>
        split
        next stopped => simpa using Moves.seen item held stopped
        next unset => exact Moves.started item (.inl held) (.inl (Bool.eq_false_iff.mpr unset)) _
      next => simpa using Moves.stays _
  | readSize =>
      simp only [step, QueueHistory.extend]
      split
      next item held =>
        split
        next empty => simpa using Moves.dropped item held empty
        next left => exact Moves.started item (.inr held) (.inr left) _
      next => simpa using Moves.stays _
  | finish result =>
      simp only [step, QueueHistory.extend]
      split
      next ran =>
        cases result with
        | true => simpa using Moves.finished ran
        | false => simpa using Moves.failed ran
      next => simpa using Moves.stays _
  | clear =>
      simp only [step, QueueHistory.extend]
      split
      next left => simpa using Moves.cleared left
      next => simpa using Moves.stays _
  | announce =>
      simp only [step, QueueHistory.extend]
      split
      next left => simpa using Moves.announced left
      next => simpa using Moves.stays _
  | notifyExit =>
      simp only [step, QueueHistory.extend]
      split
      next left => simpa using Moves.told left
      next => simpa using Moves.stays _

/-- The item the worker holds before it runs it. -/
def inHand : QueueWorker Item → List Item
  | .popped item | .stopSeen item => [item]
  | _ => []

def inLoop : QueueWorker Item → Bool
  | .popping | .popped _ | .stopSeen _ | .running => true
  | _ => false

/-- It has an item it may leave the loop with, or it is on the way to notify. -/
def onTheWay : QueueWorker Item → Bool
  | .popped _ | .stopSeen _ | .leaving | .cleared | .announced => true
  | _ => false

variable {thread next : QueueThread Item} {history later : QueueHistory Item}
  {op : QueueThreadOp Item}

/-- The items run are the first ones queued, and, while the worker is in its loop, all others
are held or in the queue. -/
structure Ordered (thread : QueueThread Item) (history : QueueHistory Item) : Prop where
  loop : inLoop thread.worker = true →
    history.queued = history.ran ++ (inHand thread.worker ++ thread.queue)
  ran : history.ran <+: history.queued

theorem Ordered.moves (ordered : Ordered thread history)
    (moves : Moves thread history op next later) : Ordered next later := by
  cases moves with
  | stays => exact ordered
  | queued item =>
      refine ⟨fun inside => ?_, ordered.ran.trans (List.prefix_append _ _)⟩
      simp only [QueueHistory.extend, ordered.loop inside, List.append_assoc]
  | requested | refused | token | notified | found | unset | ready | waits | slept | woke
  | joined => exact ⟨ordered.loop, ordered.ran⟩
  | signalled | dropped | failed | cleared | announced | told => exact ⟨nofun, ordered.ran⟩
  | popped item rest at_pop first =>
      refine ⟨fun _ => ?_, ordered.ran⟩
      rw [ordered.loop (by rw [at_pop]; rfl), at_pop, first]
      rfl
  | seen item held =>
      refine ⟨fun _ => ?_, ordered.ran⟩
      rw [ordered.loop (by rw [held]; rfl), held]
      rfl
  | started item held =>
      have all : history.queued = history.ran ++ [item] ++ thread.queue := by
        obtain held | held := held
        all_goals
          rw [ordered.loop (by rw [held]; rfl), held, List.append_assoc]
          rfl
      exact ⟨fun _ => all, all ▸ List.prefix_append _ _⟩
  | finished ran =>
      refine ⟨fun _ => ?_, ordered.ran⟩
      rw [ordered.loop (by rw [ran]; rfl), ran]
      rfl

/-! ## The end -/

/-- The steps that leave nothing behind: the worker does not find the queue empty after it saw
the flag while it holds an item queued before `stop()` was called; it does not take the token
while there are items; nothing is queued once it cleared the queue or exited; the run function
returns true; and no notification is sent while a caller of `wait()` that found items in the
queue is about to sleep. -/
def Orderly (state : QueueThread Item × QueueHistory Item) (op : QueueThreadOp Item) : Prop :=
  match op with
  | .queueItem _ =>
      state.1.worker ≠ .cleared ∧ state.1.worker ≠ .announced ∧ state.1.worker ≠ .exited
  | .pop => state.1.worker = .popping → state.1.wakeupOnce = true → state.1.queue = []
  | .readSize => ∀ item, state.1.worker = .stopSeen item → state.1.queue = [] →
      state.2.early.length < state.2.queued.length
  | .finish result => result = true
  | .notify => state.1.notifying ≠ 0 → state.1.inside ≠ some (.failed true)
  | .notifyExit => state.1.worker = .announced → state.1.inside ≠ some (.failed true)
  | _ => True

/-- What orderly steps keep. -/
structure Kept (thread : QueueThread Item) (history : QueueHistory Item) : Prop where
  early : history.early <+: history.queued
  stopping : thread.stopping ≠ 0 → thread.stopRequested = true
  woken : thread.wakeupOnce = true → thread.stopRequested = true
  seen : ∀ item, thread.worker = .stopSeen item → thread.stopRequested = true
  called : thread.stopRequested = true → history.stopCalled = true
  uncalled : history.stopCalled = false → history.early = history.queued
  left : inLoop thread.worker = false → thread.stopRequested = true ∧ history.early <+: history.ran
  emptied : thread.worker = .cleared ∨ thread.worker = .announced ∨ thread.worker = .exited →
    thread.queue = []

theorem Kept.moves (kept : Kept thread history) (ordered : Ordered thread history)
    (orderly : Orderly (thread, history) op) (moves : Moves thread history op next later) :
    Kept next later := by
  obtain ⟨early, stopping, woken, seen, called, uncalled, left, emptied⟩ := kept
  cases moves with
  | stays => exact ⟨early, stopping, woken, seen, called, uncalled, left, emptied⟩
  | queued item =>
      cases stopped : history.stopCalled with
      | true =>
          refine ⟨?_, stopping, woken, seen, fun _ => stopped, fun uncalled => ?_,
            fun outside => ?_, fun ends => ?_⟩
          · simp only [QueueHistory.extend, stopped, if_true]
            exact early.trans (List.prefix_append _ _)
          · cases stopped.symm.trans uncalled
          · simp only [QueueHistory.extend, stopped, if_true]
            exact left outside
          · exact absurd ends (by rwa [not_or, not_or])
      | false =>
          have unset : thread.stopRequested = false := by
            cases flag : thread.stopRequested with
            | false => rfl
            | true => exact absurd (called flag) (by rw [stopped]; nofun)
          refine ⟨?_, stopping, woken, seen, fun flag => ?_, fun _ => ?_, fun outside => ?_,
            fun ends => absurd ends (by rwa [not_or, not_or])⟩
          · simp only [QueueHistory.extend, stopped, uncalled stopped, Bool.false_eq_true,
              if_false, List.prefix_rfl]
          · cases unset.symm.trans flag
          · simp only [QueueHistory.extend, stopped, uncalled stopped, Bool.false_eq_true, if_false]
          · cases unset.symm.trans (left outside).1
  | requested =>
      exact ⟨early, fun _ => rfl, fun _ => rfl, fun _ _ => rfl, fun _ => rfl, nofun,
        fun outside => ⟨rfl, (left outside).2⟩, emptied⟩
  | refused => exact ⟨early, stopping, woken, seen, fun _ => rfl, nofun, left, emptied⟩
  | notified | found | unset | ready | waits | slept | woke | joined =>
      exact ⟨early, stopping, woken, seen, called, uncalled, left, emptied⟩
  | token some =>
      exact ⟨early, fun _ => stopping some, fun _ => stopping some, seen, called, uncalled, left,
        emptied⟩
  | signalled at_pop token =>
      have empty := orderly at_pop token
      have all := ordered.loop (by rw [at_pop]; rfl)
      rw [at_pop, empty] at all
      refine ⟨early, stopping, nofun, nofun, called, uncalled, fun _ => ⟨woken token, ?_⟩,
        fun _ => empty⟩
      exact all.trans (List.append_nil _) ▸ early
  | popped | started | finished =>
      exact ⟨early, stopping, woken, nofun, called, uncalled, nofun, nofun⟩
  | seen item held stopped =>
      exact ⟨early, stopping, woken, fun _ _ => stopped, called, uncalled, nofun, nofun⟩
  | dropped item held empty =>
      refine ⟨early, stopping, woken, nofun, called, uncalled, fun _ => ⟨seen item held, ?_⟩, nofun⟩
      -- The item dropped is the last one queued, and it was not queued early.
      have all := ordered.loop (by rw [held]; rfl)
      rw [held, empty] at all
      have fewer := orderly item held empty
      obtain same | before := List.prefix_concat_iff.mp (all ▸ early)
      · rw [same, all] at fewer
        exact absurd fewer (Nat.lt_irrefl _)
      · exact before
  | failed => cases orderly
  | cleared at_leaving =>
      exact ⟨early, stopping, nofun, nofun, called, uncalled,
        fun _ => left (by rw [at_leaving]; rfl), fun _ => rfl⟩
  | announced at_cleared =>
      exact ⟨early, fun _ => rfl, fun _ => rfl, nofun,
        fun _ => called (left (by rw [at_cleared]; rfl)).1, uncalled,
        fun _ => ⟨rfl, (left (by rw [at_cleared]; rfl)).2⟩, fun _ => emptied (.inl at_cleared)⟩
  | told at_announced =>
      exact ⟨early, stopping, woken, nofun, called, uncalled,
        fun _ => left (by rw [at_announced]; rfl), fun _ => emptied (.inr (.inl at_announced))⟩

/-! ## The callers of `wait()` -/

/-- Something is still to come that notifies the sleeping callers of `wait()`: the call of
`stop()` that sets the flag, the notification of such a call, or the end of the worker, which
has an item before it. -/
def Coming (thread : QueueThread Item) : Prop :=
  thread.stopRequested = false ∨ (thread.stopping ≠ 0 ∨ thread.notifying ≠ 0) ∨
    (onTheWay thread.worker = true ∨ thread.queue ≠ [] ∧ inLoop thread.worker = true)

/-- Callers sleep, or are about to, only while a notification is to come. -/
structure Reminded (thread : QueueThread Item) : Prop where
  unset : thread.inside = some (.failed false) → thread.stopRequested = false
  window : thread.inside = some (.failed true) → Coming thread
  asleep : thread.asleep ≠ 0 → Coming thread

theorem Coming.moves (coming : Coming thread) (kept : Kept thread history)
    (orderly : Orderly (thread, history) op) (moves : Moves thread history op next later) :
    Coming next ∨ next.asleep = 0 ∧ next.inside ≠ some (.failed true) := by
  cases moves with
  | stays | refused | found | unset | ready | waits | slept | woke | joined => exact .inl coming
  | notified some => exact .inr ⟨rfl, orderly some⟩
  | told at_announced => exact .inr ⟨rfl, orderly at_announced⟩
  | requested => exact .inl (.inr (.inl (.inl (Nat.succ_ne_zero _))))
  | token => exact .inl (.inr (.inl (.inr (Nat.succ_ne_zero _))))
  | popped | seen | dropped | failed | cleared | announced => exact .inl (.inr (.inr (.inl rfl)))
  | queued item =>
      have grown : thread.queue ++ [item] ≠ [] := by simp
      obtain unset | sent | busy | ⟨-, inside⟩ := coming
      · exact .inl (.inl unset)
      · exact .inl (.inr (.inl sent))
      · exact .inl (.inr (.inr (.inl busy)))
      · exact .inl (.inr (.inr (.inr ⟨grown, inside⟩)))
  | signalled at_pop token =>
      -- The token comes with the flag, and no item is left behind it: some `stop()` is unfinished.
      obtain unset | sent | busy | ⟨left, -⟩ := coming
      · cases unset.symm.trans (kept.woken token)
      · exact .inl (.inr (.inl sent))
      · rw [at_pop] at busy
        cases busy
      · exact absurd (orderly at_pop token) left
  | started item held left =>
      obtain unset | left := left
      · exact .inl (.inl unset)
      · exact .inl (.inr (.inr (.inr ⟨left, rfl⟩)))
  | finished ran =>
      obtain unset | sent | busy | ⟨left, -⟩ := coming
      · exact .inl (.inl unset)
      · exact .inl (.inr (.inl sent))
      · rw [ran] at busy
        cases busy
      · exact .inl (.inr (.inr (.inr ⟨left, rfl⟩)))

/-- While there are items, the worker has not cleared the queue yet. -/
theorem Kept.coming (kept : Kept thread history) (left : thread.queue ≠ []) : Coming thread := by
  refine .inr (.inr ?_)
  cases at_step : thread.worker with
  | popping | running => exact .inr ⟨left, rfl⟩
  | popped | stopSeen | leaving => exact .inl rfl
  | cleared => exact absurd (kept.emptied (.inl at_step)) left
  | announced => exact absurd (kept.emptied (.inr (.inl at_step))) left
  | exited => exact absurd (kept.emptied (.inr (.inr at_step))) left

theorem Reminded.moves (reminded : Reminded thread) (kept : Kept thread history)
    (orderly : Orderly (thread, history) op) (moves : Moves thread history op next later) :
    Reminded next := by
  have coming := fun now : Coming thread => now.moves kept orderly moves
  obtain ⟨unset, window, asleep⟩ := reminded
  cases moves with
  | stays | refused => exact ⟨unset, window, asleep⟩
  | queued | token | signalled | popped | seen | started | dropped | finished | failed | cleared =>
      exact ⟨unset, fun waiting => (coming (window waiting)).resolve_right (·.2 waiting),
        fun some => (coming (asleep some)).resolve_right fun quiet => some quiet.1⟩
  | requested free =>
      have nobody (stopped : Bool) : thread.inside ≠ some (.failed stopped) := by simp [free]
      exact ⟨fun waiting => absurd waiting (nobody _), fun waiting => absurd waiting (nobody _),
        fun some => (coming (asleep some)).resolve_right fun quiet => some quiet.1⟩
  | announced at_cleared =>
      have flag := (kept.left (by rw [at_cleared]; rfl)).1
      exact ⟨fun _ => flag ▸ unset ‹_›,
        fun waiting => (coming (window waiting)).resolve_right (·.2 waiting),
        fun some => (coming (asleep some)).resolve_right fun quiet => some quiet.1⟩
  | notified some => exact ⟨unset, fun waiting => absurd waiting (orderly some), nofun⟩
  | told at_announced => exact ⟨unset, fun waiting => absurd waiting (orderly at_announced), nofun⟩
  | found | ready | joined => exact ⟨nofun, nofun, asleep⟩
  | unset flag => exact ⟨fun _ => flag, nofun, asleep⟩
  | waits left => exact ⟨nofun, fun _ => kept.coming left, asleep⟩
  | slept stopped failed =>
      refine ⟨nofun, nofun, fun _ => ?_⟩
      cases stopped with
      | true => exact window failed
      | false => exact .inl (unset failed)
  | woke => exact ⟨unset, window, fun some => asleep fun none => some (by rw [none])⟩

/-- Once the worker has exited and every `stop()` has notified, nothing is to come. -/
theorem Reminded.noneBlocked (reminded : Reminded thread) (stopped : thread.stopRequested = true)
    (exited : thread.worker = .exited) (sent : thread.stopping = 0 ∧ thread.notifying = 0) :
    thread.noneBlocked := by
  have quiet : ¬ Coming thread := by simp [Coming, stopped, exited, sent, onTheWay, inLoop]
  refine ⟨by_contra fun some => quiet (reminded.asleep some), fun flag waiting => ?_⟩
  cases flag with
  | true => exact quiet (reminded.window waiting)
  | false => cases stopped.symm.trans (reminded.unset waiting)

/-- Items are run in the order queued, each at most once.  If all steps are orderly, then every
item queued before `stop()` was called is run or still in the queue when the worker has exited,
the condition that `wait()` blocks on holds, and no caller of `wait()` is blocked once the calls
of `stop()` have notified. -/
theorem run_processes_items (ops : List (QueueThreadOp Item)) :
    let final := system.run ({}, {}) ops
    final.2.ran <+: final.2.queued ∧ (system.Along Orderly ({}, {}) ops → final.1.worker = .exited →
        final.2.early <+: final.2.ran ++ final.1.queue ∧ final.1.waitCondition ∧
          (final.1.stopping = 0 ∧ final.1.notifying = 0 → final.1.noneBlocked)) := by
  have ordered_step (state : QueueThread Item × QueueHistory Item) (op : QueueThreadOp Item)
      (ordered : Ordered state.1 state.2) :
      Ordered (system.step state op).1.1 (system.step state op).1.2 :=
    ordered.moves (moves_step state.1 state.2 op)
  have start : Ordered ({} : QueueThread Item) {} := ⟨fun _ => rfl, List.prefix_rfl⟩
  have ordered : Ordered (system.run ({}, {}) ops).1 (system.run ({}, {}) ops).2 :=
    @System.invariant_run_of_forall _ _ _ system (fun state => Ordered state.1 state.2)
      ordered_step ({}, {}) start ops
  refine ⟨ordered.ran, fun orderly exited => ?_⟩
  have kept : Ordered (system.run ({}, {}) ops).1 (system.run ({}, {}) ops).2 ∧
      Kept (system.run ({}, {}) ops).1 (system.run ({}, {}) ops).2 ∧
      Reminded (system.run ({}, {}) ops).1 :=
    @System.invariant_run _ _ _ system
      (fun state => Ordered state.1 state.2 ∧ Kept state.1 state.2 ∧ Reminded state.1) Orderly
      (fun state op inv guarded => ⟨ordered_step state op inv.1,
        inv.2.1.moves inv.1 guarded (moves_step state.1 state.2 op),
        inv.2.2.moves inv.2.1 guarded (moves_step state.1 state.2 op)⟩) ({}, {}) ops
      ⟨start, ⟨List.prefix_rfl, nofun, nofun, nofun, nofun, fun _ => rfl, nofun, nofun⟩,
        ⟨nofun, nofun, fun some => absurd rfl some⟩⟩ orderly
  have outside : inLoop (system.run ({}, {}) ops).1.worker = false := by rw [exited]; rfl
  obtain ⟨stopped, before⟩ := kept.2.1.left outside
  exact ⟨before.trans (List.prefix_append _ _), ⟨stopped, kept.2.1.emptied (.inr (.inr exited))⟩,
    kept.2.2.noneBlocked stopped exited⟩

/-- A caller waits, and the thread is stopped while two items are on their way and a third one
follows, which is the one dropped. -/
def stoppedOps : List (QueueThreadOp Nat) :=
  [.lock, .sleep, .queueItem 7, .queueItem 8, .pop, .requestStop, .readStop, .readSize,
    .queueItem 9, .finish true, .pop, .readStop, .readSize, .finish true, .pop, .readStop,
    .readSize, .clear, .wakeupOnce, .announce, .notify, .notifyExit]

theorem run_processes_items_stopped :
    let final := system.run ({}, {}) stoppedOps
    final.2.ran = [7, 8] ∧ final.2.early <+: final.2.ran ++ final.1.queue ∧
      final.1.waitCondition ∧ final.1.noneBlocked := by
  obtain ⟨processed, holds, awake⟩ := (run_processes_items stoppedOps).2
    ⟨trivial, trivial, ⟨nofun, nofun, nofun⟩, ⟨nofun, nofun, nofun⟩, nofun, trivial, trivial,
      fun _ _ => nofun, ⟨nofun, nofun, nofun⟩, rfl, nofun, trivial, fun _ _ => nofun, rfl, nofun,
      trivial, fun _ _ _ => (by decide : 2 < 3), trivial, trivial, trivial, fun _ => nofun,
      fun _ => nofun, trivial⟩ rfl
  exact ⟨rfl, processed, holds, awake ⟨rfl, rfl⟩⟩

/-- An item popped right before `stop()` is dropped, an item behind the token keeps the condition
of `wait()` from holding, and a caller that found an item sleeps past both notifications. -/
theorem stop_leaves_items :
    (¬ ∀ ops : List (QueueThreadOp Nat), (∀ result, .finish result ∈ ops → result = true) →
      let final := system.run ({}, {}) ops
      final.1.worker = .exited →
        ∀ item ∈ final.2.early, item ∈ final.2.ran ∨ item ∈ final.1.queue) ∧
    (¬ ∀ ops : List (QueueThreadOp Nat), (∀ result, .finish result ∈ ops → result = true) →
      let final := system.run ({}, {}) ops
      final.1.worker = .exited → final.1.waitCondition) ∧
    ¬ ∀ ops : List (QueueThreadOp Nat), (∀ result, .finish result ∈ ops → result = true) →
      let final := system.run ({}, {}) ops
      final.1.worker = .exited → final.1.stopping = 0 ∧ final.1.notifying = 0 →
        final.1.waitCondition → final.1.noneBlocked := by
  refine ⟨fun claim => ?_, fun claim => ?_, fun claim => ?_⟩
  · have processed := claim [.queueItem 7, .pop, .requestStop, .readStop, .readSize, .clear,
      .announce, .notifyExit] (by simp) rfl 7 (List.mem_singleton.mpr rfl)
    exact absurd processed (by decide)
  · have holds := claim [.queueItem 7, .requestStop, .wakeupOnce, .pop] (by simp) rfl
    exact absurd holds.2 (by decide)
  · have awake := claim [.requestStop, .queueItem 7, .lock, .look, .pop, .readStop, .readSize,
      .clear, .announce, .notifyExit, .wakeupOnce, .notify, .sleep] (by simp) rfl ⟨rfl, rfl⟩
      ⟨rfl, rfl⟩
    exact absurd awake.1 (by decide)

end QueueThread

end Gxf.Std
