import Gxf.Core.Result
import Gxf.Std.SchedulingCondition
import Gxf.Std.StagingQueue.Lists

/-!
# Scheduling terms for CUDA work

A term looks at the message at the front of a receiver and asks the driver to call back when
the work of that message is complete.  It remembers the id of the message only.  The receiver
may drop the message, and the driver may refuse.
-/

namespace Gxf.Cuda

open Gxf.Core Gxf.Lib Gxf.Std

/-- `State` of both terms. -/
inductive CudaTermState where
  | UNSET
  | CALLBACK_REGISTERED
  | DATA_AVAILABLE
  deriving DecidableEq

/-- A message: its entity, and the job on the stream or the buffer that it carries. -/
structure CudaMessage where
  eid : Nat
  work : Option Nat
  deriving DecidableEq

/-- A term with its receiver and the driver: the jobs that callbacks of the term wait for, the
jobs that are complete, and the jobs on buffers that are allocated.  An assertion may have
failed. -/
structure CudaGate where
  receiver : StagingQueue (Option CudaMessage)
  state : CudaTermState := .UNSET
  messageEid : Option Nat := none
  callbacks : List Nat := []
  completed : Nat → Bool := fun _ => false
  allocated : Nat → Bool := fun _ => false
  aborted : Bool := false

/-- What the driver answers: whether the stream of a message can be accessed, and whether a
callback is registered. -/
structure CudaAnswers where
  stream : Except GxfResult Unit := .ok ()
  launches : Bool := true

namespace CudaGate

/-- `receiver_->sync()`, unless there is a message on the main stage. -/
def synced (gate : CudaGate) : CudaGate × Bool :=
  if gate.receiver.size = 0 then
    ({ gate with receiver := gate.receiver.sync.1 }, gate.receiver.sync.2)
  else (gate, true)

/-- `cudaLaunchHostFunc(stream, cudaHostCallback, this)`, after the state is set. -/
def register (gate : CudaGate) (job : Nat) (launches : Bool) : CudaGate × Except GxfResult Unit :=
  if launches then
    ({ gate with state := .CALLBACK_REGISTERED, callbacks := gate.callbacks ++ [job] }, .ok ())
  else ({ gate with state := .CALLBACK_REGISTERED }, .error .GXF_FAILURE)

/-- `update_state_abi(timestamp)` of both terms, which differ in how they treat a message with
a job. -/
def updateStateWith (treat : CudaGate → Nat → CudaGate × Except GxfResult Unit)
    (gate : CudaGate) : CudaGate × Except GxfResult Unit :=
  if gate.state = .UNSET then
    let synced := gate.synced
    if synced.2 then
      if synced.1.receiver.size = 0 then (synced.1, .ok ())
      else
        match synced.1.receiver.peek 0 with
        | none => (synced.1, .error .GXF_FAILURE)
        | some message =>
            let seen := { synced.1 with messageEid := some message.eid }
            match message.work with
            | none => ({ seen with state := .DATA_AVAILABLE }, .ok ())
            | some job => treat seen job
    else (synced.1, .error .GXF_EXCEEDING_PREALLOCATED_SIZE)
  else (gate, .ok ())

/-- `check_abi(timestamp, type, target_timestamp)` of both terms. -/
def checkAbi (gate : CudaGate) (timestamp : Int) : SchedulingCondition :=
  match gate.state with
  | .DATA_AVAILABLE => ⟨.READY, timestamp⟩
  | .CALLBACK_REGISTERED => ⟨.WAIT_EVENT, 0⟩
  | .UNSET => ⟨.WAIT, 0⟩

/-- `onExecute_abi(timestamp)` of both terms. -/
def onExecute (gate : CudaGate) : CudaGate :=
  if gate.state = .DATA_AVAILABLE then
    if gate.receiver.size = 0 ∨ gate.messageEid ≠ (gate.receiver.peek 0).map CudaMessage.eid then
      { gate with state := .UNSET, messageEid := none }
    else gate
  else gate

/-- `cudaHostCallback(term_ptr)` of both terms. -/
def cudaHostCallback (gate : CudaGate) : CudaGate :=
  if gate.state = .CALLBACK_REGISTERED then { gate with state := .DATA_AVAILABLE }
  else { gate with aborted := true }

/-- A codelet receives so many messages. -/
def consume : (count : Nat) → CudaGate → CudaGate
  | 0, gate => gate
  | count + 1, gate => consume count { gate with receiver := gate.receiver.pop.1 }

end CudaGate

/-- A message with a job for a `CudaStreamSchedulingTerm`. -/
def CudaStreamSchedulingTerm.treat (answers : CudaAnswers) (gate : CudaGate) (job : Nat) :
    CudaGate × Except GxfResult Unit :=
  match answers.stream with
  | .error code => (gate, .error code)
  | .ok _ => gate.register job answers.launches

/-- `CudaStreamSchedulingTerm::update_state_abi(timestamp)`. -/
def CudaStreamSchedulingTerm.updateState (answers : CudaAnswers) :
    CudaGate → CudaGate × Except GxfResult Unit :=
  CudaGate.updateStateWith (CudaStreamSchedulingTerm.treat answers)

/-- A message with a job for a `CudaBufferAvailableSchedulingTerm`.  The state of the buffer is
set by a callback of its own, which is registered when the buffer is allocated. -/
def CudaBufferAvailableSchedulingTerm.treat (answers : CudaAnswers) (gate : CudaGate)
    (job : Nat) : CudaGate × Except GxfResult Unit :=
  if gate.allocated job then ({ gate with state := .DATA_AVAILABLE }, .ok ())
  else gate.register job answers.launches

/-- `CudaBufferAvailableSchedulingTerm::update_state_abi(timestamp)`. -/
def CudaBufferAvailableSchedulingTerm.updateState (answers : CudaAnswers) :
    CudaGate → CudaGate × Except GxfResult Unit :=
  CudaGate.updateStateWith (CudaBufferAvailableSchedulingTerm.treat answers)

/-- The two terms. -/
inductive CudaTerm where
  | stream
  | bufferAvailable
  deriving DecidableEq

namespace CudaTerm

/-- How a term treats a message with a job. -/
def treat : CudaTerm → CudaAnswers → CudaGate → Nat → CudaGate × Except GxfResult Unit
  | .stream => CudaStreamSchedulingTerm.treat
  | .bufferAvailable => CudaBufferAvailableSchedulingTerm.treat

/-- `update_state_abi(timestamp)`. -/
def updateState : CudaTerm → CudaAnswers → CudaGate → CudaGate × Except GxfResult Unit
  | .stream => CudaStreamSchedulingTerm.updateState
  | .bufferAvailable => CudaBufferAvailableSchedulingTerm.updateState

end CudaTerm

/-- What happens to a term: a message arrives, the receiver is synced, the scheduler updates
the term, the entity executes and receives some messages, a job completes, a buffer is
allocated, or a callback is called. -/
inductive CudaOp where
  | push (message : CudaMessage)
  | sync
  | updateState (answers : CudaAnswers)
  | execute (consumed : Nat)
  | complete (job : Nat)
  | allocate (job : Nat)
  | callback (job : Nat)

namespace CudaGate

/-- The term, step after step.  No other thread writes the state while the scheduler does: a
callback is called in the state `CALLBACK_REGISTERED` only.  The entity executes only when its
term is ready, and a callback is called only after the job it waits for. -/
def step (term : CudaTerm) (gate : CudaGate) : CudaOp → CudaGate
  | .push message => { gate with receiver := (gate.receiver.push (some message)).1 }
  | .sync => { gate with receiver := gate.receiver.sync.1 }
  | .updateState answers => (term.updateState answers gate).1
  | .execute consumed =>
      if (gate.checkAbi 0).type = .READY then (gate.consume consumed).onExecute else gate
  | .complete job => { gate with completed := Function.update gate.completed job true }
  | .allocate job => { gate with allocated := Function.update gate.allocated job true }
  | .callback job =>
      if job ∈ gate.callbacks ∧ gate.completed job then
        { gate with callbacks := gate.callbacks.erase job }.cudaHostCallback
      else gate

def system (term : CudaTerm) : System CudaGate CudaOp Unit where
  step gate op := (gate.step term op, ())

/-- A term of an empty receiver. -/
def initial (capacity : Nat) (behavior : OverflowBehavior) : CudaGate where
  receiver := .create capacity behavior none

/-- The work of a message is complete, or it has none. -/
def Done (gate : CudaGate) (message : CudaMessage) : Prop :=
  ∀ job, message.work = some job → gate.completed job

/-- A term that finds a job is called back when the job is complete, or knows that it is. -/
def Treats (gate : CudaGate) (answers : CudaAnswers) (job : Nat) : CudaTerm → Prop
  | .stream => answers.stream.isOk → answers.launches
  | .bufferAvailable => if gate.allocated job then gate.completed job else answers.launches

/-- A step that keeps the term and the front of the receiver together. -/
def Clean (term : CudaTerm) (gate : CudaGate) : CudaOp → Prop
  | .sync =>
      gate.receiver.size + gate.receiver.backSize ≤ gate.receiver.capacity ∨
        gate.receiver.overflowBehavior = .kReject ∨
        gate.receiver.overflowBehavior = .kPop ∧ gate.state = .UNSET
  | .updateState answers =>
      gate.state = .UNSET → ∀ message job, gate.synced.1.receiver.peek 0 = some message →
        message.work = some job → gate.Treats answers job term
  | .execute consumed =>
      ∀ message, (gate.consume consumed).receiver.peek 0 = some message →
        gate.messageEid = some message.eid → gate.Done message
  | _ => True

/-! ## The watched message -/

section Steps

variable {capacity : Nat} {behavior : OverflowBehavior} {gate : CudaGate}
  {stages : Stages (Option CudaMessage)} {term : CudaTerm}

variable {main : List (Option CudaMessage)} {message : CudaMessage} {answers : CudaAnswers}

end Steps

end CudaGate

end Gxf.Cuda
