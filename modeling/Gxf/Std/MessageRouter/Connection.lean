import Gxf.Std.SchedulingCondition
import Gxf.Std.StagingQueue.Queue

/-!
# A transmitter and its receivers

The executor checks a `DownstreamReceptiveSchedulingTerm` over the receivers that are
connected to a transmitter, ticks the entity of the transmitter, and lets the router
distribute what was published.  Every access to a queue is a step of its own, because the
receivers are synced and popped by the threads of their own entities.  The definitions
follow `scheduling_terms.cpp`, `message_router.cpp` and the order of calls in
`entity_executor.cpp`.  Other codelets, terms and queues of the entity only show in the ways
a tick can end.
-/

namespace Gxf.Std

open Gxf.Lib

/-- The fields of a `DownstreamReceptiveSchedulingTerm`, less its two handles. -/
structure DownstreamReceptiveSchedulingTerm where
  minSize : UInt64
  currentState : SchedulingConditionType
  lastStateChange : Int
  deriving DecidableEq, Repr

namespace DownstreamReceptiveSchedulingTerm

/-- `initialize()`, for a value of the parameter `min_size`. -/
def init (minSize : UInt64) : DownstreamReceptiveSchedulingTerm := ⟨minSize, .READY, 0⟩

/-- The end of `update_state_abi(timestamp)`, once it has looked at all receivers. -/
def concludeUpdate (term : DownstreamReceptiveSchedulingTerm) (isReady : Bool)
    (timestamp : Int) : DownstreamReceptiveSchedulingTerm :=
  if isReady ∧ term.currentState ≠ .READY then
    { term with currentState := .READY, lastStateChange := timestamp }
  else if ¬isReady ∧ term.currentState ≠ .WAIT then
    { term with currentState := .WAIT, lastStateChange := timestamp }
  else term

/-- `check_abi(timestamp, type, target_timestamp)`. -/
def checkAbi (term : DownstreamReceptiveSchedulingTerm) (hasReceivers : Bool) :
    SchedulingCondition :=
  if hasReceivers then ⟨term.currentState, term.lastStateChange⟩ else ⟨.NEVER, 0⟩

@[simp] theorem concludeUpdate_currentState (term : DownstreamReceptiveSchedulingTerm)
    (isReady : Bool) (timestamp : Int) :
    (term.concludeUpdate isReady timestamp).currentState = if isReady then .READY else .WAIT := by
  rw [concludeUpdate]
  cases isReady with
  | true => by_cases ready : term.currentState = .READY <;> simp [ready]
  | false => by_cases waiting : term.currentState = .WAIT <;> simp [waiting]

@[simp] theorem concludeUpdate_minSize (term : DownstreamReceptiveSchedulingTerm) (isReady : Bool)
    (timestamp : Int) : (term.concludeUpdate isReady timestamp).minSize = term.minSize := by
  rw [concludeUpdate]
  split
  · rfl
  · split <;> rfl

end DownstreamReceptiveSchedulingTerm

/-- Why the state of the term is updated. -/
inductive UpdatePurpose where
  | check
  | onExecute
  deriving DecidableEq, Repr

namespace Connection

/-- What the thread that executes the entity of the transmitter is about to do. -/
inductive Phase (Receiver Message : Type) where
  | idle
  /-- Read `back_size()` of the first remaining receiver. -/
  | update (purpose : UpdatePurpose) (timestamp : Int) (isReady : Bool) (remaining : List Receiver)
  /-- Read `size()` of the receiver. -/
  | updateSize (purpose : UpdatePurpose) (timestamp : Int) (isReady : Bool) (required : UInt64)
      (receiver : Receiver) (remaining : List Receiver)
  | ready
  | ticking
  /-- Sync the transmitter. -/
  | outbox
  /-- Pop the next message from the transmitter. -/
  | distribute
  /-- Push a message to the first remaining receiver. -/
  | push (message : Message) (remaining : List Receiver)
  deriving DecidableEq, Repr

/-- What a step reports. -/
inductive Report (Receiver Message : Type) where
  | progressed
  /-- The codelets begin to tick. -/
  | ticking
  | published (message : Message) (accepted : Bool)
  /-- The tick has ended with an error. -/
  | failed
  /-- `syncOutbox` has returned. -/
  | distributed
  | synced (receiver : Receiver) (accepted : Bool)
  | popped (receiver : Receiver) (message : Option Message)
  deriving DecidableEq, Repr

/-- The steps of the executor, of the codelets of both sides, and of the threads that
execute the entities of the receivers. -/
inductive Op (Receiver Message : Type) where
  /-- Check the term. -/
  | execute (timestamp : Int)
  /-- Tick the codelets of an entity that is ready. -/
  | tick
  | publish (message : Message)
  /-- The codelets have ticked. -/
  | finish (timestamp : Int)
  /-- The tick ends with an error: of a codelet, or of another term. -/
  | fail
  /-- The next step of the executor. -/
  | advance
  | sync (receiver : Receiver)
  | pop (receiver : Receiver)
  deriving DecidableEq, Repr

/-- The parameters of a receiver or a transmitter.  `initialize()` refuses an empty queue,
and a queue has two slots for each item. -/
structure QueueSettings where
  capacity : Nat
  policy : OverflowBehavior
  positive : 1 ≤ capacity
  allocatable : 2 * capacity < 2 ^ 64

/-- The parameters of a transmitter, of its term and of the receivers. -/
structure Settings (Receiver : Type) where
  minSize : UInt64
  transmitter : QueueSettings
  receivers : Receiver → QueueSettings
  /-- The receivers that the router finds for the transmitter, in the order of their
  handles. -/
  connected : List Receiver
  nodup : connected.Nodup

end Connection

/-- A transmitter with the receivers of the application.  An empty handle stands for the
null entity. -/
structure Connection (Receiver Message : Type) where
  transmitter : StagingQueue (Option Message)
  receivers : Receiver → StagingQueue (Option Message)
  term : DownstreamReceptiveSchedulingTerm
  phase : Connection.Phase Receiver Message

namespace Connection

variable {Receiver Message : Type} [DecidableEq Receiver]

/-- The components after they are initialized. -/
def init (settings : Settings Receiver) : Connection Receiver Message where
  transmitter := .create settings.transmitter.capacity settings.transmitter.policy none
  receivers receiver :=
    .create (settings.receivers receiver).capacity (settings.receivers receiver).policy none
  term := .init settings.minSize
  phase := .idle

/-- The executor goes on to a phase. -/
def goto (connection : Connection Receiver Message) (phase : Phase Receiver Message) :
    Connection Receiver Message :=
  { connection with phase }

def setTransmitter (connection : Connection Receiver Message)
    (transmitter : StagingQueue (Option Message)) : Connection Receiver Message :=
  { connection with transmitter }

def setReceiver (connection : Connection Receiver Message) (receiver : Receiver)
    (queue : StagingQueue (Option Message)) : Connection Receiver Message :=
  { connection with receivers := Function.update connection.receivers receiver queue }

/-- The first half of a turn of the loop of `update_state_abi`. -/
def required (connection : Connection Receiver Message) (receiver : Receiver) : UInt64 :=
  UInt64.ofNat (connection.receivers receiver).backSize + connection.term.minSize

/-- The second half of a turn of the loop of `update_state_abi`. -/
def available (connection : Connection Receiver Message) (receiver : Receiver) : UInt64 :=
  UInt64.ofNat (connection.receivers receiver).capacity -
    UInt64.ofNat (connection.receivers receiver).size

/-- The end of an update, and of the check that asked for it.  Without receivers the
update has returned at once. -/
def concludeUpdate (connected : List Receiver) (connection : Connection Receiver Message)
    (purpose : UpdatePurpose) (timestamp : Int) (isReady : Bool) :
    Connection Receiver Message :=
  let term :=
    if connected.isEmpty then connection.term
    else connection.term.concludeUpdate isReady timestamp
  match purpose with
  | .check =>
      { connection with
        term
        phase := if (term.checkAbi !connected.isEmpty).type = .READY then .ready else .idle }
  | .onExecute => { connection with term, phase := .outbox }

/-- A turn of the loop of `syncOutbox`. -/
def distributeNext (connected : List Receiver) (connection : Connection Receiver Message) :
    Connection Receiver Message × Report Receiver Message :=
  if connection.transmitter.size > 0 then
    let popped := connection.transmitter.pop
    match popped.2 with
    | none => ((connection.setTransmitter popped.1).goto .idle, .failed)
    | some message =>
        ((connection.setTransmitter popped.1).goto (.push message connected), .progressed)
  else (connection.goto .idle, .distributed)

/-- The next step of the executor. -/
def advance (connected : List Receiver) (connection : Connection Receiver Message) :
    Connection Receiver Message × Report Receiver Message :=
  match connection.phase with
  | .idle | .ready | .ticking => (connection, .progressed)
  | .update purpose timestamp isReady [] =>
      (connection.concludeUpdate connected purpose timestamp isReady, .progressed)
  | .update purpose timestamp isReady (receiver :: remaining) =>
      (connection.goto
        (.updateSize purpose timestamp isReady (connection.required receiver) receiver remaining),
        .progressed)
  | .updateSize purpose timestamp isReady required receiver remaining =>
      (connection.goto
        (.update purpose timestamp (isReady && required ≤ connection.available receiver) remaining),
        .progressed)
  | .outbox =>
      let synced := connection.transmitter.sync
      if synced.2 then ((connection.setTransmitter synced.1).goto .distribute, .progressed)
      else ((connection.setTransmitter synced.1).goto .idle, .failed)
  | .distribute => connection.distributeNext connected
  | .push _ [] => (connection.goto .distribute, .progressed)
  | .push message (receiver :: remaining) =>
      -- the router ignores whether the receiver has taken the message
      let pushed := (connection.receivers receiver).push (some message)
      ((connection.setReceiver receiver pushed.1).goto (.push message remaining), .progressed)

def system (connected : List Receiver) :
    System (Connection Receiver Message) (Op Receiver Message) (Report Receiver Message) where
  step connection
    | .execute timestamp =>
        match connection.phase with
        | .idle | .ready =>
            (connection.goto (.update .check timestamp true connected), .progressed)
        | _ => (connection, .progressed)
    | .tick =>
        match connection.phase with
        | .ready => (connection.goto .ticking, .ticking)
        | _ => (connection, .progressed)
    | .publish message =>
        match connection.phase with
        | .ticking =>
            let published := connection.transmitter.push (some message)
            (connection.setTransmitter published.1, .published message published.2)
        | _ => (connection, .progressed)
    | .finish timestamp =>
        match connection.phase with
        | .ticking => (connection.goto (.update .onExecute timestamp true connected), .progressed)
        | _ => (connection, .progressed)
    | .fail =>
        match connection.phase with
        | .ticking | .outbox => (connection.goto .idle, .failed)
        | _ => (connection, .progressed)
    | .advance => connection.advance connected
    | .sync receiver =>
        let synced := (connection.receivers receiver).sync
        (connection.setReceiver receiver synced.1, .synced receiver synced.2)
    | .pop receiver =>
        let popped := (connection.receivers receiver).pop
        (connection.setReceiver receiver popped.1, .popped receiver popped.2)

end Connection

end Gxf.Std
