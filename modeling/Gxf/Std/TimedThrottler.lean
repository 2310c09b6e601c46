import Gxf.Std.SchedulingTerms.TargetTime

/-!
# The timed throttler

A tick publishes the message that was kept, takes the next one, and asks to be executed again when
the execution clock reaches the time of that message.  The answer of the scheduling term is not
looked at.
-/

namespace Gxf.Std

open Gxf.Core Gxf.Lib TargetTimeSchedulingTerm

/-- `initialize()` of a term that has been used: what is locked in stays. -/
def TargetTimeSchedulingTerm.restart (term : TargetTimeSchedulingTerm) (clock : Int) :
    TargetTimeSchedulingTerm :=
  { term with lastTimestamp := clock, targetTimestamp := some clock }

namespace TimedThrottler

/-- The component `Timestamp`.  Adding the offset does not overflow. -/
structure Timestamp where
  pubtime : Int
  acqtime : Int
  deriving DecidableEq, Repr

/-- An entity that is received, with its timestamp if it has one. -/
structure Message where
  eid : Uid
  timestamp : Option Timestamp
  deriving DecidableEq, Repr

end TimedThrottler

open TimedThrottler

/-- The fields of the codelet, with its scheduling term, the messages in its receiver and the
reading of its execution clock. -/
structure TimedThrottler where
  cachedEntity : Option Message
  timeOffset : Int
  schedulingTerm : TargetTimeSchedulingTerm
  receiver : List Message
  executionClock : Int
  deriving DecidableEq, Repr

namespace TimedThrottler

/-- `initialize()`, after that of the scheduling term. -/
def init (throttler : TimedThrottler) (throttlingClock : Int) : TimedThrottler :=
  { throttler with
    timeOffset := throttler.executionClock - throttlingClock
    schedulingTerm := (throttler.schedulingTerm.restart throttler.executionClock).setNextTargetTime
      throttler.executionClock
    cachedEntity := none }

/-- `stop()`. -/
def stop (throttler : TimedThrottler) : TimedThrottler := { throttler with cachedEntity := none }

/-- The time of a message on the execution clock. -/
def Timestamp.shift (timestamp : Timestamp) (offset : Int) : Timestamp :=
  ⟨timestamp.pubtime + offset, timestamp.acqtime + offset⟩

/-- A tick takes the next message, adapts its timestamp and asks for an execution at that time. -/
def takeNext (throttler : TimedThrottler) : TimedThrottler × Except GxfResult Unit :=
  match throttler.receiver with
  | [] => (throttler, .error .GXF_FAILURE)
  | message :: receiver =>
      match message.timestamp with
      | none =>
          ({ throttler with cachedEntity := some message, receiver },
            .error .GXF_ENTITY_COMPONENT_NOT_FOUND)
      | some timestamp =>
          let nextTimestamp := timestamp.shift throttler.timeOffset
          ({ throttler with
              cachedEntity := some { message with timestamp := some nextTimestamp }
              receiver
              schedulingTerm :=
                throttler.schedulingTerm.setNextTargetTime nextTimestamp.acqtime }, .ok ())

/-- The codelet after a tick, the message that was published, and the result. -/
structure Ticked where
  throttler : TimedThrottler
  published : Option Message
  result : Except GxfResult Unit

/-- `tick()`, where `publish` is the answer of the transmitter. -/
def tick (throttler : TimedThrottler) (publish : Except GxfResult Unit) : Ticked :=
  let taken := throttler.stop.takeNext
  match throttler.cachedEntity with
  | none => ⟨taken.1, none, taken.2⟩
  | some message =>
      match publish with
      | .error code => ⟨throttler.stop, none, .error code⟩
      | .ok _ => ⟨taken.1, some message, taken.2⟩

/-- The entity is checked: its scheduling term locks in a target. -/
def check (throttler : TimedThrottler) : TimedThrottler :=
  { throttler with schedulingTerm := throttler.schedulingTerm.lock }

/-- The scheduling term is ready. -/
def Due (throttler : TimedThrottler) : Prop :=
  (throttler.schedulingTerm.checkAbi throttler.executionClock).type = .READY

instance (throttler : TimedThrottler) : Decidable throttler.Due :=
  inferInstanceAs (Decidable (_ = _))

/-- The entity is executed if its scheduling term is ready.  The term is told only of a tick that
succeeds. -/
def execute (throttler : TimedThrottler) (publish : Except GxfResult Unit) :
    TimedThrottler × Option Message :=
  if throttler.check.Due then
    let ticked := throttler.check.tick publish
    match ticked.result with
    | .error _ => (ticked.throttler, ticked.published)
    | .ok _ =>
        ({ ticked.throttler with
            schedulingTerm := ticked.throttler.schedulingTerm.onExecute throttler.executionClock },
          ticked.published)
  else (throttler.check, none)

/-- What happens to the codelet. -/
inductive Op where
  /-- A message reaches the receiver. -/
  | arrive (message : Message)
  /-- Time passes on the execution clock. -/
  | pass (elapsed : Nat)
  /-- The entity is checked, and another of its terms is not ready. -/
  | check
  /-- The entity is checked, and all its other terms are ready. -/
  | execute (publish : Except GxfResult Unit)
  | stop
  /-- The entity is activated again. -/
  | init (throttlingClock : Int)
  deriving DecidableEq, Repr

/-- The codelet as a system, which answers with the message that is published. -/
def system : System TimedThrottler Op (Option Message) where
  step throttler
    | .arrive message =>
        ({ throttler with receiver := throttler.receiver ++ [message] }, none)
    | .pass elapsed =>
        ({ throttler with executionClock := throttler.executionClock + elapsed }, none)
    | .check => (throttler.check, none)
    | .execute publish => throttler.execute publish
    | .stop => (throttler.stop, none)
    | .init throttlingClock => (throttler.init throttlingClock, none)

/-- The codelet after its first activation. -/
def start (executionClock throttlingClock : Int) : TimedThrottler :=
  TimedThrottler.init ⟨none, 0, .init executionClock, [], executionClock⟩ throttlingClock

/-- The message that reaches the receiver in a step. -/
def arriving (_ : TimedThrottler) : Op → List Message
  | .arrive message => [message]
  | .pass _ | .check | .execute _ | .stop | .init _ => []

def publishing (throttler : TimedThrottler) (op : Op) : List Message :=
  (system.step throttler op).2.toList

/-- If a message is kept, the scheduling term holds a target time. -/
def Held (throttler : TimedThrottler) : Prop :=
  throttler.cachedEntity.isSome → throttler.schedulingTerm.targetTimestamp.isSome ∨
    throttler.schedulingTerm.lockedTargetTimestamp.isSome

instance (throttler : TimedThrottler) : Decidable throttler.Held :=
  inferInstanceAs (Decidable (_ → _))

/-- A message is not ahead of its time on the execution clock. -/
def Reached (throttler : TimedThrottler) (message : Message) : Prop :=
  ∀ timestamp, message.timestamp = some timestamp → timestamp.acqtime ≤ throttler.executionClock

/-- The message that a tick takes is not earlier than the target that released the tick. -/
def InOrder (throttler : TimedThrottler) : Op → Prop
  | .execute publish =>
      throttler.check.Due → throttler.cachedEntity = none ∨ publish = .ok () →
        ∀ message ∈ throttler.receiver.head?, ∀ timestamp ∈ message.timestamp,
          ∀ locked ∈ throttler.check.schedulingTerm.lockedTargetTimestamp,
            locked ≤ timestamp.acqtime + throttler.timeOffset
  | .arrive _ | .pass _ | .check | .stop | .init _ => True

instance (throttler : TimedThrottler) : (op : Op) → Decidable (throttler.InOrder op)
  | .execute _ => inferInstanceAs (Decidable (_ → _ → _))
  | .arrive _ | .pass _ | .check | .stop | .init _ => isTrue trivial

section Steps

variable {throttler : TimedThrottler}

theorem exists_locked_of_due (due : throttler.Due) :
    ∃ locked, throttler.schedulingTerm.lockedTargetTimestamp = some locked ∧
      locked ≤ throttler.executionClock := by
  unfold Due checkAbi at due
  cases isLocked : throttler.schedulingTerm.lockedTargetTimestamp with
  | none =>
      rw [isLocked] at due
      cases due
  | some locked =>
      rw [isLocked] at due
      dsimp only at due
      split at due
      next => cases due
      next reached => exact ⟨locked, rfl, not_lt.mp reached⟩

/-- What an execution can do. -/
inductive Executed (throttler : TimedThrottler) (publish : Except GxfResult Unit) :
    TimedThrottler × Option Message → Prop where
  /-- The scheduling term is not ready. -/
  | waits (notDue : ¬throttler.check.Due) : Executed throttler publish (throttler.check, none)
  /-- The kept message cannot be published. -/
  | dropped (code : GxfResult) (due : throttler.check.Due)
      (refused : throttler.cachedEntity.isSome ∧ publish = .error code) :
      Executed throttler publish (throttler.check.stop, none)
  /-- There is no next message. -/
  | starved (due : throttler.check.Due) (empty : throttler.receiver = []) :
      Executed throttler publish (throttler.check.stop, throttler.cachedEntity)
  /-- The next message has no timestamp. -/
  | untimed (message : Message) (receiver : List Message) (due : throttler.check.Due)
      (received : throttler.receiver = message :: receiver) (plain : message.timestamp = none) :
      Executed throttler publish
        ({ throttler.check with cachedEntity := some message, receiver }, throttler.cachedEntity)
  /-- The next message is kept. -/
  | taken (message : Message) (receiver : List Message) (timestamp : Timestamp)
      (due : throttler.check.Due)
      (answered : throttler.cachedEntity = none ∨ publish = .ok ())
      (received : throttler.receiver = message :: receiver)
      (timed : message.timestamp = some timestamp) :
      Executed throttler publish ({ throttler.check with
            cachedEntity :=
              some { message with timestamp := some (timestamp.shift throttler.timeOffset) }
            receiver
            schedulingTerm := (throttler.schedulingTerm.lock.setNextTargetTime
              (timestamp.acqtime + throttler.timeOffset)).onExecute throttler.executionClock },
          throttler.cachedEntity)

theorem execute_of_answered {publish : Except GxfResult Unit} (due : throttler.check.Due)
    (answered : throttler.cachedEntity = none ∨ publish = .ok ()) :
    Executed throttler publish (throttler.execute publish) := by
  have ticks : throttler.check.tick publish =
      ⟨throttler.check.stop.takeNext.1, throttler.cachedEntity,
        throttler.check.stop.takeNext.2⟩ := by
    have same : throttler.check.cachedEntity = throttler.cachedEntity := rfl
    rw [tick, same]
    cases kept : throttler.cachedEntity with
    | none => rfl
    | some message =>
        cases answered.resolve_left (by rw [kept]; exact Option.some_ne_none message)
        rfl
  rw [execute, if_pos due, ticks, takeNext]
  cases received : throttler.receiver with
  | nil =>
      have none : throttler.check.stop.receiver = [] := received
      rw [none]
      exact .starved due received
  | cons message receiver =>
      have first : throttler.check.stop.receiver = message :: receiver := received
      rw [first]
      cases timed : message.timestamp with
      | none =>
          simp only [timed]
          exact .untimed message receiver due received timed
      | some timestamp =>
          simp only [timed]
          exact .taken message receiver timestamp due answered received timed

theorem executed (throttler : TimedThrottler) (publish : Except GxfResult Unit) :
    Executed throttler publish (throttler.execute publish) := by
  by_cases due : throttler.check.Due
  · cases kept : throttler.cachedEntity with
    | none => exact execute_of_answered due (.inl kept)
    | some message =>
        cases publish with
        | ok _ => exact execute_of_answered due (.inr rfl)
        | error code =>
            have same : throttler.check.cachedEntity = some message := kept
            rw [execute, if_pos due, tick, same]
            exact .dropped code due ⟨by rw [kept]; rfl, rfl⟩
  · rw [execute, if_neg due]
    exact .waits due

end Steps

/-- The messages that are kept or wait, in the order in which they were received. -/
def pending (throttler : TimedThrottler) : List Message :=
  throttler.cachedEntity.toList ++ throttler.receiver

theorem pending_step (throttler : TimedThrottler) (op : Op) :
    ((throttler.publishing op ++ (system.step throttler op).1.pending).map (·.eid)).Sublist
      ((throttler.pending ++ throttler.arriving op).map (·.eid)) := by
  cases op with
  | arrive message =>
      have same : throttler.pending ++ throttler.arriving (.arrive message) =
          throttler.cachedEntity.toList ++ (throttler.receiver ++ [message]) :=
        List.append_assoc _ _ _
      rw [same]
      exact List.Sublist.refl _
  | pass elapsed | check =>
      rw [arriving, List.append_nil]
      exact List.Sublist.refl _
  | stop | init throttlingClock =>
      rw [arriving, List.append_nil]
      exact (List.sublist_append_right _ _).map _
  | execute publish =>
      rw [arriving, List.append_nil, publishing]
      dsimp only [system]
      generalize after : throttler.execute publish = next
      cases after ▸ executed throttler publish with
      | waits | starved => exact List.Sublist.refl _
      | dropped code due refused => exact (List.sublist_append_right _ _).map _
      | untimed message receiver due received plain =>
          have first : throttler.pending = throttler.cachedEntity.toList ++ message :: receiver :=
            congrArg (throttler.cachedEntity.toList ++ ·) received
          rw [first]
          exact List.Sublist.refl _
      | taken message receiver timestamp due answered received timed =>
          have first : throttler.pending = throttler.cachedEntity.toList ++ message :: receiver :=
            congrArg (throttler.cachedEntity.toList ++ ·) received
          rw [first, List.map_append, List.map_append]
          exact List.Sublist.refl _

theorem published_sublist (throttler : TimedThrottler) (ops : List Op) :
    ((system.gather publishing throttler ops ++ (system.run throttler ops).pending).map
        (·.eid)).Sublist
      ((throttler.pending ++ system.gather arriving throttler ops).map (·.eid)) := by
  induction ops generalizing throttler with
  | nil =>
      rw [System.gather, System.gather, List.append_nil]
      exact List.Sublist.refl _
  | cons op rest ih =>
      have here := pending_step throttler op
      have later := ih (system.step throttler op).1
      simp only [System.gather, System.run_cons, List.map_append, List.append_assoc] at here later ⊢
      refine (later.append_left _).trans ?_
      rw [← List.append_assoc, ← List.append_assoc]
      exact here.append_right _

/-- A kept message with a timestamp is due, or the scheduling term holds its time. -/
def Timed (throttler : TimedThrottler) : Prop :=
  ∀ message ∈ throttler.cachedEntity, ∀ timestamp ∈ message.timestamp,
    timestamp.acqtime ≤ throttler.executionClock ∨
      throttler.schedulingTerm.lockedTargetTimestamp = some timestamp.acqtime ∨
      throttler.schedulingTerm.lockedTargetTimestamp = none ∧
        throttler.schedulingTerm.targetTimestamp = some timestamp.acqtime

section Time

variable {throttler : TimedThrottler}

theorem timed_of_none (empty : throttler.cachedEntity = none) : throttler.Timed := by
  intro message kept
  rw [empty] at kept
  cases kept

theorem Timed.check (timed : throttler.Timed) : throttler.check.Timed := by
  intro message kept timestamp read
  rcases timed message kept timestamp read with due | locked | ⟨notLocked, waiting⟩
  · exact .inl due
  · refine .inr (.inl ?_)
    rw [TimedThrottler.check, lock_of_some locked]
    exact locked
  · refine .inr (.inl ?_)
    rw [TimedThrottler.check, lock_of_none notLocked]
    exact waiting

theorem Timed.reached (timed : throttler.Timed) (due : throttler.Due) :
    ∀ message ∈ throttler.cachedEntity, throttler.Reached message := by
  intro message kept timestamp read
  obtain ⟨target, isLocked, passed⟩ := exists_locked_of_due due
  rcases timed message kept timestamp read with due | locked | ⟨notLocked, -⟩
  · exact due
  · cases isLocked.symm.trans locked
    exact passed
  · cases isLocked.symm.trans notLocked

/-- A target that is refused has come. -/
theorem timed_of_taken {message : Message} {receiver : List Message} {timestamp : Timestamp}
    (due : throttler.check.Due) :
    ({ throttler.check with
        cachedEntity :=
          some { message with timestamp := some (timestamp.shift throttler.timeOffset) }
        receiver
        schedulingTerm := (throttler.schedulingTerm.lock.setNextTargetTime
          (timestamp.acqtime + throttler.timeOffset)).onExecute throttler.executionClock } :
      TimedThrottler).Timed := by
  intro kept isKept shifted isShifted
  cases isKept
  cases isShifted
  obtain ⟨target, isLocked, passed⟩ := exists_locked_of_due due
  have locked : throttler.schedulingTerm.lock.lockedTargetTimestamp = some target := isLocked
  rcases lt_or_ge (timestamp.acqtime + throttler.timeOffset) target with early | inTime
  · exact .inl (Int.le_of_lt (Int.lt_of_lt_of_le early passed))
  · have accepted : throttler.schedulingTerm.lock.accepts
        (timestamp.acqtime + throttler.timeOffset) = true := by
      rw [accepts, locked]
      exact decide_eq_true inTime
    refine .inr (.inr ⟨rfl, ?_⟩)
    rw [setNextTargetTime_accepts accepted]
    rfl

theorem Timed.step (timed : throttler.Timed) (op : Op) : (system.step throttler op).1.Timed ∧
      ∀ message ∈ throttler.publishing op, throttler.Reached message := by
  cases op with
  | arrive message => exact ⟨timed, List.forall_mem_nil _⟩
  | pass elapsed =>
      refine ⟨fun message kept timestamp read => ?_, List.forall_mem_nil _⟩
      refine (timed message kept timestamp read).imp_left fun due => ?_
      exact Int.le_trans due (Int.le_add_of_nonneg_right (Int.natCast_nonneg elapsed))
  | check => exact ⟨timed.check, List.forall_mem_nil _⟩
  | stop | init throttlingClock => exact ⟨timed_of_none rfl, List.forall_mem_nil _⟩
  | execute publish =>
      have reached (due : throttler.check.Due) :
          ∀ message ∈ throttler.cachedEntity.toList, throttler.Reached message := by
        intro message kept
        exact timed.check.reached due message (Option.mem_toList.mp kept)
      rw [publishing]
      dsimp only [system]
      generalize after : throttler.execute publish = next
      cases after ▸ executed throttler publish with
      | waits notDue => exact ⟨timed.check, List.forall_mem_nil _⟩
      | dropped code due refused => exact ⟨timed_of_none rfl, List.forall_mem_nil _⟩
      | starved due empty => exact ⟨timed_of_none rfl, reached due⟩
      | untimed message receiver due received plain =>
          refine ⟨fun kept isKept timestamp read => ?_, reached due⟩
          cases isKept
          rw [plain] at read
          cases read
      | taken message receiver timestamp due answered received timed =>
          exact ⟨timed_of_taken due, reached due⟩

theorem held_of_none (empty : throttler.cachedEntity = none) : throttler.Held := by
  intro kept
  rw [empty] at kept
  cases kept

theorem Held.check (held : throttler.Held) : throttler.check.Held := by
  intro kept
  rw [TimedThrottler.check]
  cases isLocked : throttler.schedulingTerm.lockedTargetTimestamp with
  | none =>
      rw [lock_of_none isLocked]
      have waiting := held kept
      rw [isLocked] at waiting
      exact .inr (waiting.resolve_right Bool.false_ne_true)
  | some locked =>
      rw [lock_of_some isLocked]
      exact held kept

theorem Held.step (held : throttler.Held) {op : Op} (inOrder : throttler.InOrder op) :
    (system.step throttler op).1.Held := by
  cases op with
  | arrive message | pass elapsed => exact held
  | check => exact held.check
  | stop | init throttlingClock => exact held_of_none rfl
  | execute publish =>
      dsimp only [system]
      generalize after : throttler.execute publish = next
      cases after ▸ executed throttler publish with
      | waits notDue => exact held.check
      | dropped code due refused | starved due empty => exact held_of_none rfl
      | untimed message receiver due received plain =>
          obtain ⟨target, isLocked, -⟩ := exists_locked_of_due due
          exact fun _ => .inr (Option.isSome_of_eq_some isLocked)
      | taken message receiver timestamp due answered received timed =>
          obtain ⟨target, isLocked, -⟩ := exists_locked_of_due due
          have locked : throttler.schedulingTerm.lock.lockedTargetTimestamp = some target :=
            isLocked
          have inTime := inOrder due answered message (by rw [received]; rfl) timestamp timed
            target isLocked
          have accepted : throttler.schedulingTerm.lock.accepts
              (timestamp.acqtime + throttler.timeOffset) = true := by
            rw [accepts, locked]
            exact decide_eq_true inTime
          refine fun _ => .inl ?_
          rw [setNextTargetTime_accepts accepted]
          rfl

end Time

/-- For every run: messages are published in the order in which they are received, none before the
execution clock has reached its time, and a message that is kept has a target if no tick takes a
message that is earlier than the target which released that tick. -/
theorem run_throttles (executionClock throttlingClock : Int) (ops : List Op) :
    let first := start executionClock throttlingClock
    ((system.gather publishing first ops).map (·.eid)).Sublist
        ((system.gather arriving first ops).map (·.eid)) ∧
      system.Along (fun throttler op =>
        ∀ message ∈ throttler.publishing op, throttler.Reached message) first ops ∧
      (system.Along InOrder first ops → (system.run first ops).Held) := by
  intro first
  have empty : first.cachedEntity = none := rfl
  refine ⟨?_, ?_, fun inOrder => ?_⟩
  · have sublist := published_sublist first ops
    rw [List.map_append] at sublist
    exact (List.sublist_append_left _ _).trans sublist
  · have preserved (throttler : TimedThrottler) (op : Op) (timed : throttler.Timed) :
        (system.step throttler op).1.Timed := (timed.step op).1
    exact System.along_of_invariant_of_forall preserved
      (fun throttler op timed => (timed.step op).2) (timed_of_none empty) ops
  · have preserved (throttler : TimedThrottler) (op : Op) (held : throttler.Held)
        (inOrder : throttler.InOrder op) : (system.step throttler op).1.Held := held.step inOrder
    exact System.invariant_run preserved (held_of_none empty) inOrder

/-- Two messages in the order of their times. -/
theorem run_throttles_two_messages :
    let ops : List Op := [.arrive ⟨1, some ⟨0, 10⟩⟩, .arrive ⟨2, some ⟨0, 30⟩⟩, .execute (.ok ()),
      .pass 10, .execute (.ok ())]
    (system.gather publishing (start 0 0) ops).map (·.eid) = [1] ∧
      (system.run (start 0 0) ops).Held := by
  intro ops
  exact ⟨by decide, (run_throttles 0 0 ops).2.2 (by decide)⟩

/-- The second of two messages is earlier than the first one: it is kept without a target. -/
theorem early_message_stranded : ¬∀ (executionClock throttlingClock : Int) (ops : List Op),
      (∀ message ∈ system.gather arriving (start executionClock throttlingClock) ops,
        message.timestamp.isSome) →
      (system.run (start executionClock throttlingClock) ops).Held := by
  intro claim
  have held := claim 0 0 [.arrive ⟨1, some ⟨0, 10⟩⟩, .arrive ⟨2, some ⟨0, 5⟩⟩, .execute (.ok ()),
    .pass 10, .execute (.ok ())] (by decide)
  exact absurd held (by decide)

end TimedThrottler

end Gxf.Std
