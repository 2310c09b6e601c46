import Gxf.Ucx.UcxContext

/-!
# What becomes of the messages that arrive

A message waits in the descriptor or in the queue until it was handled, and its header is freed
while it is processed.  That holds in every run in which the server thread takes no header from
the queue, comes back to no header that it freed, and does not leave its loop with messages left.
-/

namespace Gxf.Ucx.UcxReceiverContext

open Gxf.Core Gxf.Lib

variable {Data : Type}

def messageAt (heap : Heap (List UInt8)) (header : Nat) (desc : Data) : Message Data :=
  ⟨(heap.content header).getD [], desc⟩

def queuedMessages (heap : Heap (List UInt8)) (headers : List (QueuedDesc Data)) :
    List (Message Data) :=
  headers.map fun queued => messageAt heap queued.header queued.desc

/-- The messages in the descriptor and in the queue. -/
def stored (context : UcxReceiverContext Data) : List (Message Data) :=
  (if context.amDataDesc.complete then
    context.amDataDesc.desc.toList.map (messageAt context.heap context.amDataDesc.header)
  else []) ++ queuedMessages context.heap context.headers

/-- The headers of the descriptor and of the queue. -/
def referenced (context : UcxReceiverContext Data) : List Nat :=
  (if context.amDataDesc.complete then [context.amDataDesc.header] else []) ++
    context.headers.map QueuedDesc.header

/-- Messages are handled at most once and in the order of their arrival, the others are kept as
long as the loop goes on, and headers are freed once and not read afterwards. -/
structure Intact (context : UcxReceiverContext Data) : Prop where
  inOrder : context.handled.map Handled.message <+: context.arrived
  notLost : context.arrived.drop context.handled.length <:+ context.stored
  finished : context.server = .exited → context.handled.length = context.arrived.length
  clean : context.heap.Clean context.referenced

def errorOf : Except GxfResult Unit → Option GxfResult
  | .ok _ => none
  | .error code => some code

/-- A message has a place to come to, no header is taken from the queue or used again after it
was freed, and the loop is left only when its last message cannot be deserialized. -/
def Regular (context : UcxReceiverContext Data) : Op Data → Prop
  | .callback _ =>
      context.server ≠ .exited ∧ (context.amDataDesc.complete = false ∧ context.headers = [] ∨
          context.headers.length < kMaxRxContexts)
  | .progress outside =>
      (context.server = .start → context.connState = .CONNECTED →
        context.amDataDesc.receivingMessage = false →
          context.headers = [] ∨ context.amDataDesc.complete = true) ∧
      (context.server = .write → outside.device = true ∧
        context.amDataDesc.header ∉ context.heap.freed ∧
          ∀ code ∈ errorOf outside.written, code = .GXF_UNINITIALIZED_VALUE) ∧
      (context.server = .deserialize → ∀ code ∈ errorOf outside.deserialized,
        code = .GXF_UNINITIALIZED_VALUE ∨ context.headers = []) ∧
      (context.server = .push → outside.removed = true)
  | .workerEvent | .signalEvent | .received => True

instance (context : UcxReceiverContext Data) : (op : Op Data) → Decidable (Regular context op)
  | .callback _ => inferInstanceAs (Decidable (_ ∧ _))
  | .progress _ => inferInstanceAs (Decidable (_ ∧ _))
  | .workerEvent | .signalEvent | .received => isTrue trivial

/-- Whether the server thread can be there without a message. -/
def AtRest : Server → Prop
  | .waiting | .start | .progress => True
  | .write | .release | .deserialize | .push | .reset | .exited => False

/-- The current message, with the header that it owns and the message that is still due. -/
inductive Current (context : UcxReceiverContext Data) : List Nat → List (Message Data) → Prop where
  | none (isFree : context.amDataDesc.complete = false) (isAt : AtRest context.server) :
      Current context [] []
  | fresh (desc : Data) (isComplete : context.amDataDesc.complete = true)
      (isDesc : context.amDataDesc.desc = some desc)
      (isAt : AtRest context.server ∨ context.server = .write ∨ context.server = .release ∧
          context.buffer = (context.heap.content context.amDataDesc.header).getD []) :
      Current context [context.amDataDesc.header]
        [messageAt context.heap context.amDataDesc.header desc]
  | processing (desc : Data) (isComplete : context.amDataDesc.complete = true)
      (isDesc : context.amDataDesc.desc = some desc)
      (isFreed : context.amDataDesc.header ∈ context.heap.freed)
      (isAt : context.server = .deserialize ∨ context.server = .push)
      (copied : context.buffer = (context.heap.content context.amDataDesc.header).getD []) :
      Current context [] [messageAt context.heap context.amDataDesc.header desc]
  | spent (isComplete : context.amDataDesc.complete = true)
      (isFreed : context.amDataDesc.header ∈ context.heap.freed)
      (isAt : AtRest context.server ∨ context.server = .write ∨ context.server = .reset ∨
        context.server = .exited ∧ context.headers = []) :
      Current context [] []

/-- The messages that are due are kept, and the headers that are owned are those of the current
message and of the queue. -/
structure Sound (context : UcxReceiverContext Data) (owned : List Nat)
    (due : List (Message Data)) : Prop where
  current : Current context owned due
  owns : context.heap.Owns (owned ++ context.headers.map QueuedDesc.header)
  arrived : context.arrived = context.handled.map Handled.message ++
    (due ++ queuedMessages context.heap context.headers)

variable {context : UcxReceiverContext Data} {owned : List Nat} {due : List (Message Data)}

theorem Current.owned_referenced (current : Current context owned due) :
    ∀ address ∈ owned ++ context.headers.map QueuedDesc.header, address ∈ context.referenced := by
  intro address member
  cases current with
  | none | processing | spent => exact List.mem_append_right _ member
  | fresh desc isComplete isDesc isAt =>
      rw [referenced, if_pos isComplete]
      exact member

theorem Current.due_stored (current : Current context owned due) :
    due ++ queuedMessages context.heap context.headers <:+ context.stored := by
  cases current with
  | none | spent => exact List.suffix_append _ _
  | fresh desc isComplete isDesc isAt =>
      rw [stored, if_pos isComplete, isDesc]
      exact List.suffix_rfl
  | processing desc isComplete isDesc isFreed isAt copied =>
      rw [stored, if_pos isComplete, isDesc]
      exact List.suffix_rfl

theorem Current.exited (current : Current context owned due) (isAt : context.server = .exited) :
    due = [] ∧ context.headers = [] := by
  cases current with
  | none isFree atRest => exact absurd atRest (by simp [isAt, AtRest])
  | fresh desc isComplete isDesc atRest => exact absurd atRest (by simp [isAt, AtRest])
  | processing desc isComplete isDesc isFreed atRest copied =>
      exact absurd atRest (by simp [isAt])
  | spent isComplete isFreed atRest =>
      obtain atRest | same | same | ⟨-, empty⟩ := atRest
      · exact absurd atRest (by simp [isAt, AtRest])
      · exact absurd same (by simp [isAt])
      · exact absurd same (by simp [isAt])
      · exact ⟨rfl, empty⟩

theorem Sound.intact (sound : Sound context owned due) : Intact context where
  inOrder := ⟨_, sound.arrived.symm⟩
  notLost := by
    rw [sound.arrived, List.drop_left' (List.length_map _)]
    exact sound.current.due_stored
  finished isAt := by
    obtain ⟨rfl, empty⟩ := sound.current.exited isAt
    rw [sound.arrived, empty]
    simp [queuedMessages]
  clean := sound.owns.clean sound.current.owned_referenced

theorem messageAt_malloc {heap : Heap (List UInt8)} {address : Nat}
    (inside : address < heap.contents.length) (content : List UInt8) (desc : Data) :
    messageAt (heap.malloc content).1 address desc = messageAt heap address desc := by
  rw [messageAt, Heap.content_malloc inside, messageAt]

theorem queuedMessages_malloc {heap : Heap (List UInt8)} {headers : List (QueuedDesc Data)}
    (inside : ∀ queued ∈ headers, queued.header < heap.contents.length) (content : List UInt8) :
    queuedMessages (heap.malloc content).1 headers = queuedMessages heap headers :=
  List.map_congr_left fun queued member => messageAt_malloc (inside queued member) content _

theorem queuedMessages_append (heap : Heap (List UInt8)) (headers : List (QueuedDesc Data))
    (queued : QueuedDesc Data) :
    queuedMessages heap (headers ++ [queued]) =
      queuedMessages heap headers ++ [messageAt heap queued.header queued.desc] := by
  rw [queuedMessages, List.map_append, queuedMessages]
  rfl

theorem Sound.header_inside (sound : Sound context owned due)
    (isComplete : context.amDataDesc.complete = true) :
    context.amDataDesc.header < context.heap.contents.length := by
  cases sound.current with
  | none isFree isAt => exact absurd isComplete (by simp [isFree])
  | fresh desc isComplete isDesc isAt => exact sound.owns.inside (List.mem_cons_self ..)
  | processing desc isComplete isDesc isFreed isAt copied => exact sound.owns.bounded _ isFreed
  | spent isComplete isFreed isAt => exact sound.owns.bounded _ isFreed

theorem Sound.current_malloc (sound : Sound context owned due) (content : List UInt8)
    (arrived : List (Message Data)) (headers : List (QueuedDesc Data))
    (running : context.server ≠ .exited) :
    Current { context with heap := (context.heap.malloc content).1, arrived, headers }
      owned due := by
  have header_inside := sound.header_inside
  cases sound.current with
  | none isFree isAt => exact .none isFree isAt
  | fresh desc isComplete isDesc isAt =>
      have same := Heap.content_malloc (header_inside isComplete) content
      rw [← messageAt_malloc (header_inside isComplete) content]
      refine .fresh desc isComplete isDesc ?_
      rw [same]
      exact isAt
  | processing desc isComplete isDesc isFreed isAt copied =>
      have same := Heap.content_malloc (header_inside isComplete) content
      rw [← messageAt_malloc (header_inside isComplete) content]
      exact .processing desc isComplete isDesc isFreed isAt (same ▸ copied)
  | spent isComplete isFreed isAt =>
      refine .spent isComplete isFreed ?_
      obtain isAt | isAt | isAt | ⟨isAt, -⟩ := isAt
      · exact .inl isAt
      · exact .inr (.inl isAt)
      · exact .inr (.inr (.inl isAt))
      · exact absurd isAt running

theorem ucpAmDataCb_free (isFree : context.amDataDesc.complete = false)
    (empty : context.headers = []) (message : Message Data) :
    context.ucpAmDataCb message =
      { context with
        heap := (context.heap.malloc message.header).1
        arrived := context.arrived ++ [message]
        amDataDesc :=
          { context.amDataDesc with
            complete := true
            header := (context.heap.malloc message.header).2
            desc := some message.desc } } := by
  rw [ucpAmDataCb]
  exact if_pos ⟨by simp [isFree], by simp [empty]⟩

theorem ucpAmDataCb_queued (taken : ¬(context.amDataDesc.complete = false ∧ context.headers = []))
    (room : context.headers.length < kMaxRxContexts) (message : Message Data) :
    context.ucpAmDataCb message =
      { context with
        heap := (context.heap.malloc message.header).1
        arrived := context.arrived ++ [message]
        headers := context.headers ++
          [⟨(context.heap.malloc message.header).2, message.desc⟩] } := by
  have isQueued : ¬(¬context.amDataDesc.complete ∧ context.headers.length = 0) := by
    simpa using taken
  rw [ucpAmDataCb]
  simp only [if_neg isQueued, if_pos room]

theorem messageAt_malloc_self (heap : Heap (List UInt8)) (message : Message Data) :
    messageAt (heap.malloc message.header).1 (heap.malloc message.header).2 message.desc =
      message := by
  rw [messageAt, Heap.content_malloc_self]
  rfl

theorem Sound.callback (sound : Sound context owned due) (message : Message Data)
    (running : context.server ≠ .exited)
    (room : context.amDataDesc.complete = false ∧ context.headers = [] ∨
      context.headers.length < kMaxRxContexts) :
    ∃ owned due, Sound (context.ucpAmDataCb message) owned due := by
  have owns := sound.owns.malloc message.header
  have shown := messageAt_malloc_self context.heap message
  by_cases isFree : context.amDataDesc.complete = false ∧ context.headers = []
  · obtain ⟨isFree, empty⟩ := isFree
    rw [ucpAmDataCb_free isFree empty]
    cases sound.current with
    | fresh desc isComplete isDesc isAt => exact absurd isComplete (by simp [isFree])
    | processing desc isComplete isDesc isFreed isAt copied =>
        exact absurd isComplete (by simp [isFree])
    | spent isComplete isFreed isAt => exact absurd isComplete (by simp [isFree])
    | none _ isAt =>
        refine ⟨_, _, .fresh message.desc rfl rfl (.inl isAt), owns, ?_⟩
        simp only [shown]
        rw [sound.arrived, empty]
        simp [queuedMessages]
  · rw [ucpAmDataCb_queued isFree (room.resolve_left isFree)]
    refine ⟨owned, due, sound.current_malloc message.header _ _ running, owns.perm ?_, ?_⟩
    · rw [List.map_append, ← List.append_assoc]
      exact (List.perm_append_singleton _ _).symm
    · have kept := queuedMessages_malloc (fun queued member =>
        sound.owns.inside (List.mem_append_right _ (List.mem_map_of_mem member))) message.header
      rw [sound.arrived, queuedMessages_append, kept, shown]
      simp only [List.append_assoc]

/-! ## What the server thread does -/

/-- The server thread goes on with the same message. -/
theorem Sound.goOn (sound : Sound context owned due) {next : UcxReceiverContext Data}
    (current : Current next owned due) (heap : next.heap = context.heap)
    (headers : next.headers = context.headers) (arrived : next.arrived = context.arrived)
    (handled : next.handled = context.handled) : Sound next owned due where
  current
  owns := by rw [heap, headers]; exact sound.owns
  arrived := by rw [heap, headers, arrived, handled]; exact sound.arrived

theorem Current.rest (current : Current context owned due) (isAt : AtRest context.server)
    {server : Server} (next : AtRest server) (connState : ConnState) :
    Current { context with server, connState } owned due := by
  cases current with
  | none isFree _ => exact .none isFree next
  | fresh desc isComplete isDesc _ => exact .fresh desc isComplete isDesc (.inl next)
  | processing desc isComplete isDesc isFreed notRest copied =>
      obtain same | same := notRest <;> simp [same, AtRest] at isAt
  | spent isComplete isFreed _ => exact .spent isComplete isFreed (.inl next)

section

variable (sound : Sound context owned due)
include sound

theorem Sound.rest (isAt : AtRest context.server)
    (server : Server) (next : AtRest server) (connState : ConnState) :
    Sound { context with server, connState } owned due :=
  sound.goOn (sound.current.rest isAt next connState) rfl rfl rfl rfl

theorem Sound.handle (isAt : context.server = .deserialize ∨
    context.server = .push) (outcome : Outcome) {server : Server}
    (next : AtRest server ∨ server = .reset ∨ server = .exited ∧ context.headers = []) :
    Sound { context.handle outcome with server } [] [] := by
  cases sound.current with
  | none _ atRest => obtain same | same := isAt <;> simp [same, AtRest] at atRest
  | fresh _ _ _ atRest => obtain same | same := isAt <;> simp [same, AtRest] at atRest
  | spent _ _ atRest => obtain same | same := isAt <;> simp [same, AtRest] at atRest
  | processing desc isComplete isDesc isFreed _ copied =>
      refine ⟨.spent isComplete isFreed ?_, sound.owns, ?_⟩
      · obtain next | next | next := next
        · exact .inl next
        · exact .inr (.inr (.inl next))
        · exact .inr (.inr (.inr next))
      · have arrived := sound.arrived
        simp only [UcxReceiverContext.handle, isDesc, Option.toList_some, List.map_cons,
          List.map_nil, List.map_append, copied] at arrived ⊢
        rw [arrived]
        simp [messageAt]

theorem Sound.progress {outside : Outside} (regular : Regular context (.progress outside)) :
    ∃ owned due, Sound (context.progressWork outside) owned due := by
  cases isAt : context.server with
  | waiting | exited =>
      simp only [progressWork, isAt]
      exact ⟨owned, due, sound⟩
  | start =>
      have atRest : AtRest context.server := by rw [isAt]; trivial
      simp only [progressWork, isAt]
      split
      next connected =>
        have notCopied : ¬(context.headers.length > 0 ∧ ¬context.amDataDesc.complete) := by
          have none := regular.1 isAt connected.1 (by simpa using connected.2)
          rintro ⟨some, free⟩
          obtain empty | isComplete := none
          · simp [empty] at some
          · exact free isComplete
        rw [if_neg notCopied]
        exact ⟨owned, due, sound.rest atRest .progress trivial _⟩
      next => exact ⟨owned, due, sound.rest atRest .waiting trivial _⟩
  | progress =>
      have atRest : AtRest context.server := by rw [isAt]; trivial
      simp only [progressWork, isAt]
      split
      next isComplete =>
        refine ⟨owned, due, sound.goOn ?_ rfl rfl rfl rfl⟩
        cases sound.current with
        | none isFree _ => simp [isFree] at isComplete
        | fresh desc isComplete isDesc _ =>
            exact .fresh desc isComplete isDesc (.inr (.inl rfl))
        | processing _ _ _ _ notRest _ => obtain same | same := notRest <;> simp [same] at isAt
        | spent isComplete isFreed _ => exact .spent isComplete isFreed (.inr (.inl rfl))
      next =>
        split
        next => exact ⟨owned, due, sound.rest atRest .progress trivial _⟩
        next => exact ⟨owned, due, sound.rest atRest .waiting trivial _⟩
  | write =>
      obtain ⟨device, notFreed, retried⟩ := regular.2.1 isAt
      simp only [progressWork, isAt, device, if_true]
      cases sound.current with
      | none _ atRest => simp [isAt, AtRest] at atRest
      | processing _ _ _ _ notWrite _ => obtain same | same := notWrite <;> simp [same] at isAt
      | spent isComplete isFreed _ => exact absurd isFreed notFreed
      | fresh desc isComplete isDesc _ =>
          rw [sound.owns.read (List.mem_cons_self ..)]
          cases written : outside.written with
          | error code =>
              simp only [fail, retried code (written ▸ rfl), if_true]
              exact ⟨_, _, sound.goOn (.fresh desc isComplete isDesc (.inl trivial)) rfl rfl rfl
                rfl⟩
          | ok _ =>
              exact ⟨_, _, sound.goOn (.fresh desc isComplete isDesc (.inr (.inr ⟨rfl, rfl⟩)))
                rfl rfl rfl rfl⟩
  | release =>
      simp only [progressWork, isAt]
      cases sound.current with
      | none _ atRest => simp [isAt, AtRest] at atRest
      | processing _ _ _ _ notHere _ => obtain same | same := notHere <;> simp [same] at isAt
      | spent _ _ notHere => simp [isAt, AtRest] at notHere
      | fresh desc isComplete isDesc atRelease =>
          have copied : context.buffer =
              (context.heap.content context.amDataDesc.header).getD [] := by
            obtain same | same | ⟨-, copied⟩ := atRelease
            · simp [isAt, AtRest] at same
            · simp [isAt] at same
            · exact copied
          refine ⟨_, _, .processing desc isComplete isDesc ?_ (.inl rfl) copied, sound.owns.free,
            sound.arrived⟩
          exact List.mem_append_right _ (List.mem_singleton_self _)
  | deserialize =>
      simp only [progressWork, isAt]
      cases deserialized : outside.deserialized with
      | error code =>
          simp only [fail]
          refine ⟨_, _, sound.handle (.inl isAt) _ ?_⟩
          obtain rfl | empty := regular.2.2.1 isAt code (deserialized ▸ rfl)
          · exact .inl trivial
          · split
            · exact .inl trivial
            · exact .inr (.inr ⟨rfl, empty⟩)
      | ok _ =>
          refine ⟨owned, due, sound.goOn ?_ rfl rfl rfl rfl⟩
          cases sound.current with
          | none _ atRest => simp [isAt, AtRest] at atRest
          | fresh _ _ _ notHere => simp [isAt, AtRest] at notHere
          | spent _ _ notHere => simp [isAt, AtRest] at notHere
          | processing desc isComplete isDesc isFreed _ copied =>
              exact .processing desc isComplete isDesc isFreed (.inr rfl) copied
  | push =>
      simp only [progressWork, isAt, regular.2.2.2 isAt, if_true]
      exact ⟨_, _, sound.handle (.inr isAt) _ (.inr (.inl rfl))⟩
  | reset =>
      simp only [progressWork, isAt]
      cases sound.current with
      | none _ atRest => simp [isAt, AtRest] at atRest
      | fresh _ _ _ notHere => simp [isAt, AtRest] at notHere
      | processing _ _ _ _ notHere _ => obtain same | same := notHere <;> simp [same] at isAt
      | spent => exact ⟨_, _, .none rfl trivial, sound.owns, sound.arrived⟩

theorem Sound.step (op : Op Data) (regular : Regular context op) :
    ∃ owned due, Sound ((system Data).step context op).1 owned due := by
  cases op with
  | callback message => exact sound.callback message regular.1 regular.2
  | progress outside => exact sound.progress regular
  | workerEvent =>
      simp only [system, UcxReceiverContext.workerEvent]
      split
      next isAt =>
        have atRest : AtRest context.server := by rw [isAt]; trivial
        exact ⟨owned, due, sound.rest atRest .start trivial _⟩
      next => exact ⟨owned, due, sound⟩
  | signalEvent =>
      simp only [system, handleConnectionsAfterRecv]
      split
      next isAt =>
        have atRest : AtRest context.server := by rw [isAt.1]; trivial
        exact ⟨owned, due, sound.rest atRest .start trivial _⟩
      next => exact ⟨owned, due, sound⟩
  | received =>
      refine ⟨owned, due, sound.goOn ?_ rfl rfl rfl rfl⟩
      cases sound.current with
      | none isFree isAt => exact .none isFree isAt
      | fresh desc isComplete isDesc isAt => exact .fresh desc isComplete isDesc isAt
      | processing desc isComplete isDesc isFreed isAt copied =>
          exact .processing desc isComplete isDesc isFreed isAt copied
      | spent isComplete isFreed isAt => exact .spent isComplete isFreed isAt

end

/-- In a regular run, messages are handled at most once and in the order of their arrival, none
is lost, and headers are freed once and not read afterwards. -/
theorem run_intact (ops : List (Op Data)) (regular : (system Data).Along Regular init ops) :
    Intact ((system Data).run init ops) := by
  have start : Sound (init : UcxReceiverContext Data) [] [] :=
    ⟨.none rfl trivial, Heap.Owns.empty, rfl⟩
  obtain ⟨owned, due, sound⟩ := @System.invariant_run _ _ _ (system Data)
    (fun context => ∃ owned due, Sound context owned due) Regular
    (fun context op sound regular => sound.elim fun _ sound => sound.elim fun _ sound =>
      sound.step op regular) init ops ⟨[], [], start⟩ regular
  exact sound.intact

def allGood : Outside := ⟨true, true, .ok (), .ok (), true⟩

/-- The steps of the server thread for one message, up to the end of `am_desc_to_iov`. -/
def processing (outside : Outside) : List (Op Nat) := List.replicate 6 (.progress outside)

/-- A message is received, and the header of the next one cannot be deserialized. -/
def oneByOne : List (Op Nat) :=
  [.workerEvent, .progress allGood, .callback ⟨[1], 10⟩] ++ processing allGood ++
    [.received, .signalEvent, .progress allGood, .callback ⟨[2], 20⟩] ++
      processing { allGood with deserialized := .error .GXF_FAILURE }

theorem run_intact_oneByOne :
    (system Nat).Along Regular init oneByOne ∧ Intact ((system Nat).run init oneByOne) :=
  ⟨by decide, run_intact oneByOne (by decide)⟩

/-- Two messages arrive together and are received. -/
def together : List (Op Nat) :=
  [.workerEvent, .progress allGood, .callback ⟨[1], 10⟩, .callback ⟨[2], 20⟩] ++
    processing allGood ++ [.received, .signalEvent, .progress allGood]

/-- A header that was queued is copied and stays allocated. -/
theorem queued_header_leaks : ¬Intact ((system Nat).run init together) := by
  intro intact
  have kept := intact.clean.kept 1 (by decide) (by decide)
  exact absurd kept (by decide)

/-- A message fails, and the loop comes back to it. -/
def uninitialized : List (Op Nat) := [.workerEvent, .progress allGood, .callback ⟨[1], 10⟩] ++
    List.replicate 4 (.progress { allGood with deserialized := .error .GXF_UNINITIALIZED_VALUE }) ++
      .workerEvent :: List.replicate 4 (.progress allGood)

example : ((system Nat).run init uninitialized).heap.stale = [0] ∧
    ((system Nat).run init uninitialized).heap.freed = [0, 0] := by decide

end Gxf.Ucx.UcxReceiverContext
