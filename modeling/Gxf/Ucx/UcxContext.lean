import Gxf.Core.Result
import Gxf.Lib.Heap
import Gxf.Lib.Run

/-!
# The receiving side of a UCX context

UCX announces a message by a callback, which keeps a copy of its header.  The server thread
turns the header into an entity and leaves the data to the receiver.  There is one descriptor
for the current message and a queue for messages that arrive meanwhile.  The model is about one
connection that stays up, with asynchronous operation.
-/

namespace Gxf.Ucx

open Gxf.Core Gxf.Lib

/-- The number of descriptors that fit into the queue. -/
def kMaxRxContexts : Nat := 1024

/-- A message, with the bytes of its header and the handle of its data. -/
structure Message (Data : Type) where
  header : List UInt8
  desc : Data
  deriving DecidableEq, Repr

/-- `ucx_am_data_desc` in the queue.  Its header is addressed. -/
structure QueuedDesc (Data : Type) where
  header : Nat
  desc : Data
  deriving DecidableEq, Repr

/-- `ucx_am_data_desc` of the current message. -/
structure AmDataDesc (Data : Type) where
  complete : Bool
  header : Nat
  desc : Option Data
  receivingMessage : Bool
  deriving DecidableEq, Repr

/-- The states of a connection that is up. -/
inductive ConnState where
  | CONNECTED
  | RECEIVE_MESSAGE
  deriving DecidableEq, Repr

/-- Where the server thread is with the connection. -/
inductive Server where
  /-- Outside of `progress_work`. -/
  | waiting
  /-- At the beginning of `progress_work`. -/
  | start
  /-- Before `complete` is tested. -/
  | progress
  /-- In `am_desc_to_iov`, before the header is written to the serialization buffer. -/
  | write
  /-- Before the header is freed. -/
  | release
  | deserialize
  /-- Before the entity is pushed. -/
  | push
  /-- Before `complete` is reset. -/
  | reset
  /-- The loop was left because of an error. -/
  | exited
  deriving DecidableEq, Repr

/-- How the processing of a message ended. -/
inductive Outcome where
  | pushed
  | failed (code : GxfResult)
  deriving DecidableEq, Repr

/-- A message with the end of its processing. -/
structure Handled (Data : Type) where
  message : Message Data
  outcome : Outcome
  deriving DecidableEq, Repr

/-- What the server thread reads from outside. -/
structure Outside where
  /-- There is no need for a device, or it could be chosen. -/
  device : Bool
  /-- `ucp_worker_progress` did something. -/
  progressed : Bool
  written : Except GxfResult Unit
  deserialized : Except GxfResult Unit
  /-- The descriptor of the worker could be removed from the events to wait for. -/
  removed : Bool

/-- `UcxReceiverContext`, with the memory of its headers and the thread that serves it.
`arrived` lists the messages in the order of their callbacks and `handled` in the order of
their processing. -/
structure UcxReceiverContext (Data : Type) where
  connState : ConnState
  amDataDesc : AmDataDesc Data
  headers : List (QueuedDesc Data)
  heap : Heap (List UInt8)
  /-- The content of the serialization buffer. -/
  buffer : List UInt8
  server : Server
  arrived : List (Message Data)
  handled : List (Handled Data)
  deriving DecidableEq, Repr

namespace UcxReceiverContext

variable {Data : Type}

/-- A connection that was just accepted. -/
def init : UcxReceiverContext Data where
  connState := .CONNECTED
  amDataDesc := { complete := false, header := 0, desc := none, receivingMessage := false }
  headers := []
  heap := .empty
  buffer := []
  server := .waiting
  arrived := []
  handled := []

/-- `ucp_am_data_cb`. -/
def ucpAmDataCb (context : UcxReceiverContext Data) (message : Message Data) :
    UcxReceiverContext Data :=
  let (heap, address) := context.heap.malloc message.header
  let arrived := context.arrived ++ [message]
  if ¬context.amDataDesc.complete ∧ context.headers.length = 0 then
    { context with
      heap, arrived
      amDataDesc :=
        { context.amDataDesc with
          complete := true
          header := address
          desc := some message.desc } }
  else
    -- The answer of the full vector is not looked at.
    { context with
      heap, arrived
      headers :=
        if context.headers.length < kMaxRxContexts then
          context.headers ++ [⟨address, message.desc⟩]
        else context.headers }

/-- `copy_header_to_am_desc`.  The header of the queued descriptor is copied. -/
def copyHeaderToAmDesc (context : UcxReceiverContext Data) : UcxReceiverContext Data :=
  match context.headers with
  | [] => context
  | queued :: headers =>
      let (heap, address) :=
        (context.heap.read queued.header).malloc ((context.heap.content queued.header).getD [])
      { context with
        heap, headers
        amDataDesc :=
          { context.amDataDesc with
            complete := true
            header := address
            desc := some queued.desc } }

/-- A step of the server thread ends with an error.  The loop goes on only when a value was not
initialized. -/
def fail (context : UcxReceiverContext Data) (code : GxfResult) : UcxReceiverContext Data :=
  { context with server := if code = .GXF_UNINITIALIZED_VALUE then .waiting else .exited }

/-- The processing of the current message ends. -/
def handle (context : UcxReceiverContext Data) (outcome : Outcome) : UcxReceiverContext Data :=
  { context with
    handled := context.handled ++
      (context.amDataDesc.desc.toList.map fun desc => ⟨⟨context.buffer, desc⟩, outcome⟩) }

/-- The next step of `progress_work`, with `am_desc_to_iov`. -/
def progressWork (context : UcxReceiverContext Data) (outside : Outside) :
    UcxReceiverContext Data :=
  match context.server with
  | .start =>
      if context.connState = .CONNECTED ∧ ¬context.amDataDesc.receivingMessage then
        if context.headers.length > 0 ∧ ¬context.amDataDesc.complete then
          { context.copyHeaderToAmDesc with server := .progress }
        else { context with server := .progress }
      else { context with server := .waiting }
  | .progress =>
      if context.amDataDesc.complete then { context with server := .write }
      else { context with server := if outside.progressed then .progress else .waiting }
  | .write =>
      if outside.device then
        let heap := context.heap.read context.amDataDesc.header
        match outside.written with
        | .error code => { context with heap }.fail code
        | .ok _ =>
            { context with
              heap
              buffer := (heap.content context.amDataDesc.header).getD []
              server := .release }
      else context.fail .GXF_FAILURE
  | .release =>
      { context with
        heap := context.heap.free context.amDataDesc.header
        server := .deserialize }
  | .deserialize =>
      match outside.deserialized with
      | .error code => (context.handle (.failed code)).fail code
      | .ok _ =>
          { context with
            connState := .RECEIVE_MESSAGE
            amDataDesc := { context.amDataDesc with receivingMessage := true }
            server := .push }
  | .push =>
      if outside.removed then { context.handle .pushed with server := .reset }
      else context.fail .GXF_FAILURE
  | .reset =>
      { context with
        amDataDesc := { context.amDataDesc with complete := false }
        server := .waiting }
  | .waiting | .exited => context

/-- The server thread is told about an event of the worker and calls `progress_work`. -/
def workerEvent (context : UcxReceiverContext Data) : UcxReceiverContext Data :=
  if context.server = .waiting then { context with server := .start } else context

/-- The part of `handle_connections_after_recv` that is about the connection. -/
def handleConnectionsAfterRecv (context : UcxReceiverContext Data) : UcxReceiverContext Data :=
  if context.server = .waiting ∧ ¬context.amDataDesc.receivingMessage ∧
      context.connState = .RECEIVE_MESSAGE then
    { context with connState := .CONNECTED, server := .start }
  else context

/-- The receiver has the data of the message. -/
def waitAbi (context : UcxReceiverContext Data) : UcxReceiverContext Data :=
  { context with amDataDesc := { context.amDataDesc with receivingMessage := false } }

/-- The steps of the threads. -/
inductive Op (Data : Type) where
  | callback (message : Message Data)
  | workerEvent
  | signalEvent
  | progress (outside : Outside)
  | received

def system (Data : Type) : System (UcxReceiverContext Data) (Op Data) Unit where
  step context
    | .callback message => (context.ucpAmDataCb message, ())
    | .workerEvent => (context.workerEvent, ())
    | .signalEvent => (context.handleConnectionsAfterRecv, ())
    | .progress outside => (context.progressWork outside, ())
    | .received => (context.waitAbi, ())

end UcxReceiverContext

end Gxf.Ucx
