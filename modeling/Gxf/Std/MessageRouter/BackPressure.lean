import Gxf.Std.MessageRouter.Connection
import Gxf.Std.StagingQueue.Refinement

/-!
# Back pressure

A transmitter whose entity waits for room in all connected receivers loses no message, as
long as the messages that it publishes between two calls of `syncOutbox` are as few as its
term promised.  A tick that fails keeps its messages in the transmitter, where the term does
not see them.
-/

namespace Gxf.Std.Connection

open Gxf.Lib Function System

variable {Receiver Message : Type} [DecidableEq Receiver]

/-- The messages published, those among them that belong to the last tick, and the messages
popped from each receiver. -/
structure Trail (Receiver Message : Type) where
  published : List Message
  inTick : Nat
  popped : Receiver → List Message

/-- What a report adds. -/
def Trail.observe (trail : Trail Receiver Message) :
    Report Receiver Message → Trail Receiver Message
  | .ticking => { trail with inTick := 0 }
  | .published message accepted =>
      if accepted then
        { trail with published := trail.published ++ [message], inTick := trail.inTick + 1 }
      else trail
  | .popped receiver (some message) =>
      { trail with
        popped := update trail.popped receiver (trail.popped receiver ++ [message]) }
  | .popped _ none | .progressed | .failed | .distributed | .synced .. => trail

def observed (settings : Settings Receiver) :
    System (Connection Receiver Message × Trail Receiver Message) (Op Receiver Message)
      (Report Receiver Message) :=
  (system settings.connected).recorded fun trail _ => trail.observe

/-- A tick publishes as many messages as the term waits for at most, and as many as the
transmitter takes. -/
def Moderate (state : Connection Receiver Message × Trail Receiver Message) :
    Op Receiver Message → Prop
  | .publish _ => state.1.phase = .ticking →
      state.2.inTick < state.1.term.minSize.toNat ∧ state.2.inTick < state.1.transmitter.capacity
  | .execute _ | .tick | .finish _ | .fail | .advance | .sync _ | .pop _ => True

/-- The same, counting the messages that failed ticks have left in the transmitter. -/
def Spaced (state : Connection Receiver Message × Trail Receiver Message) :
    Op Receiver Message → Prop
  | .publish _ => state.1.phase = .ticking →
      state.1.transmitter.backSize < state.1.term.minSize.toNat ∧
        state.1.transmitter.backSize < state.1.transmitter.capacity
  | .execute _ | .tick | .finish _ | .fail | .advance | .sync _ | .pop _ => True

/-- A step neither pushes to a full receiver nor syncs one that has no room in its main
stage, and when `syncOutbox` returns, each connected receiver has got all messages. -/
structure Lossless (settings : Settings Receiver)
    (state : Connection Receiver Message × Trail Receiver Message) (op : Op Receiver Message) :
    Prop where
  push : ∀ message receiver remaining, op = .advance →
    state.1.phase = .push message (receiver :: remaining) →
    (state.1.receivers receiver).backSize < (state.1.receivers receiver).capacity
  sync : ∀ receiver, op = .sync receiver →
    (state.1.receivers receiver).size + (state.1.receivers receiver).backSize ≤
      (state.1.receivers receiver).capacity
  delivered : ((observed settings).step state op).2 = .distributed →
    ∀ receiver ∈ settings.connected,
      (((observed settings).step state op).1.2.popped receiver).map some ++
          (((observed settings).step state op).1.1.receivers receiver).stored =
        ((observed settings).step state op).1.2.published.map some

/-- A queue that holds messages in its two stages. -/
def Carries (settings : QueueSettings) (queue : StagingQueue (Option Message))
    (stages : Stages Message) : Prop :=
  StagingQueue.Holds settings.capacity settings.policy none queue
    ⟨stages.main.map some, stages.back.map some⟩

namespace Carries

variable {settings : QueueSettings} {queue : StagingQueue (Option Message)}
  {stages : Stages Message}

theorem create (settings : QueueSettings) :
    Carries settings (.create settings.capacity settings.policy none) (⟨[], []⟩ : Stages Message) :=
  StagingQueue.holds_create settings.positive settings.allocatable ..

section

variable (carries : Carries settings queue stages)
include carries

theorem size : queue.size = stages.main.length := carries.main_eq.trans (List.length_map _)

theorem backSize : queue.backSize = stages.back.length := carries.back_eq.trans (List.length_map _)

theorem stored : queue.stored = (stages.main ++ stages.back).map some := by
  rw [carries.stored_eq, List.map_append]

theorem push (message : Message) (room : stages.back.length < settings.capacity) :
    (queue.push (some message)).2 = true ∧ Carries settings (queue.push (some message)).1
        ⟨stages.main, stages.back ++ [message]⟩ := by
  have notFull : (stages.back.map some).length ≠ settings.capacity := by
    rw [List.length_map]
    exact Nat.ne_of_lt room
  have pushed := StagingQueue.Holds.push carries (some message)
  simp only [Stages.push, notFull, if_false] at pushed
  rw [Carries, List.map_append]
  exact ⟨pushed.1, pushed.2⟩

theorem sync (room : stages.main.length + stages.back.length ≤ settings.capacity) :
    queue.sync.2 = true ∧ Carries settings queue.sync.1 ⟨stages.main ++ stages.back, []⟩ := by
  have notOver : ¬settings.capacity < (stages.main.map some ++ stages.back.map some).length := by
    rw [List.length_append, List.length_map, List.length_map]
    exact Nat.not_lt.mpr room
  have fits : settings.policy = .kFault →
      (stages.main.map some).length + (stages.back.map some).length ≤ settings.capacity := by
    rw [List.length_map, List.length_map]
    exact fun _ => room
  have synced := StagingQueue.Holds.sync carries fits
  simp only [Stages.sync, gt_iff_lt, notOver, if_false] at synced
  rw [Carries, List.map_append]
  exact ⟨synced.1, synced.2⟩

theorem pop : queue.pop.2 = stages.main.head? ∧
      Carries settings queue.pop.1 ⟨stages.main.tail, stages.back⟩ := by
  obtain ⟨item, popped⟩ := StagingQueue.Holds.pop carries
  rw [Carries, List.map_tail]
  refine ⟨item.trans ?_, popped⟩
  cases stages.main <;> rfl

end

end Carries

/-! ## The invariant -/

/-- The receivers that the executor still has to visit in a loop. -/
def Phase.remaining : Phase Receiver Message → List Receiver
  | .update _ _ _ remaining | .push _ remaining => remaining
  | .updateSize _ _ _ _ receiver remaining => receiver :: remaining
  | .idle | .ready | .ticking | .outbox | .distribute => []

/-- The message that the router holds for a receiver. -/
def Phase.held (phase : Phase Receiver Message) (receiver : Receiver) : List Message :=
  match phase with
  | .push message remaining => if receiver ∈ remaining then [message] else []
  | .idle | .update .. | .updateSize .. | .ready | .ticking | .outbox | .distribute => []

/-- A receiver has room for so many messages more. -/
def Room (settings : Settings Receiver) (incoming : Receiver → Stages Message)
    (count : Nat) (receiver : Receiver) : Prop :=
  (incoming receiver).main.length + (incoming receiver).back.length + count ≤
    (settings.receivers receiver).capacity

/-- All connected receivers have the room that the term waits for. -/
def Promised (settings : Settings Receiver) (incoming : Receiver → Stages Message) : Prop :=
  ∀ receiver ∈ settings.connected, Room settings incoming settings.minSize.toNat receiver

/-- What the executor knows in a phase. -/
def Stage (settings : Settings Receiver) (outgoing : Stages Message)
    (incoming : Receiver → Stages Message) : Phase Receiver Message → Prop
  | .idle => outgoing.main = []
  | .update .check _ isReady remaining => outgoing.main = [] ∧
      (isReady = true → ∀ receiver ∈ settings.connected, receiver ∉ remaining →
        Room settings incoming settings.minSize.toNat receiver)
  | .updateSize .check _ isReady required current remaining => outgoing.main = [] ∧
      (isReady = true → ∀ receiver ∈ settings.connected, receiver ∉ current :: remaining →
        Room settings incoming settings.minSize.toNat receiver) ∧
      (incoming current).back.length + settings.minSize.toNat ≤ required.toNat
  | .update .onExecute .. | .updateSize .onExecute .. | .ready | .ticking | .outbox =>
      outgoing.main = [] ∧ Promised settings incoming
  | .distribute => outgoing.back = [] ∧
      ∀ receiver ∈ settings.connected, Room settings incoming outgoing.main.length receiver
  | .push _ remaining => outgoing.back = [] ∧ ∀ receiver ∈ settings.connected,
        Room settings incoming (outgoing.main.length + if receiver ∈ remaining then 1 else 0)
          receiver

/-- The queues hold the messages that were published and not popped, in their order. -/
structure Flow (settings : Settings Receiver) (connection : Connection Receiver Message)
    (published : List Message) (popped : Receiver → List Message) (outgoing : Stages Message)
    (incoming : Receiver → Stages Message) : Prop where
  transmitter : Carries settings.transmitter connection.transmitter outgoing
  receivers : ∀ receiver,
    Carries (settings.receivers receiver) (connection.receivers receiver) (incoming receiver)
  minSize : connection.term.minSize = settings.minSize
  limit : outgoing.back.length ≤ settings.minSize.toNat
  fits : ∀ receiver, Room settings incoming 0 receiver
  /-- A message is only published once all receivers had the room that the term waits for. -/
  possible : published = [] ∨ ∀ receiver ∈ settings.connected,
      settings.minSize.toNat ≤ (settings.receivers receiver).capacity
  order : ∀ receiver ∈ settings.connected,
    popped receiver ++ (incoming receiver).main ++ (incoming receiver).back ++
      connection.phase.held receiver ++ outgoing.main ++ outgoing.back = published
  visits : connection.phase.remaining.Sublist settings.connected
  stage : Stage settings outgoing incoming connection.phase

variable {settings : Settings Receiver} {connection : Connection Receiver Message}
  {published : List Message} {popped : Receiver → List Message} {outgoing : Stages Message}
  {incoming : Receiver → Stages Message} {receiver : Receiver} {phase : Phase Receiver Message}

variable {later : Receiver → Stages Message}

omit [DecidableEq Receiver] in
theorem Room.of_le {count few : Nat}
    (room : Room settings incoming count receiver) (le : few ≤ count)
    (load : (later receiver).main.length + (later receiver).back.length ≤
      (incoming receiver).main.length + (incoming receiver).back.length) :
    Room settings later few receiver :=
  Nat.le_trans (Nat.add_le_add load le) room

theorem setReceiver_self (connection : Connection Receiver Message) (receiver : Receiver)
    (queue : StagingQueue (Option Message)) :
    (connection.setReceiver receiver queue).receivers receiver = queue :=
  update_self ..

theorem setReceiver_of_ne (connection : Connection Receiver Message) {other : Receiver}
    (different : other ≠ receiver) (queue : StagingQueue (Option Message)) :
    (connection.setReceiver receiver queue).receivers other = connection.receivers other :=
  update_of_ne different ..

theorem Stage.of_le (stage : Stage settings outgoing incoming phase)
    (load : ∀ receiver, (later receiver).main.length + (later receiver).back.length ≤
      (incoming receiver).main.length + (incoming receiver).back.length)
    (back : ∀ receiver, (later receiver).back.length ≤ (incoming receiver).back.length) :
    Stage settings outgoing later phase := by
  have keeps {count : Nat} {receiver : Receiver} (room : Room settings incoming count receiver) :
      Room settings later count receiver := room.of_le (Nat.le_refl _) (load receiver)
  cases phase with
  | idle => exact stage
  | ready | ticking | outbox | distribute | push =>
      exact ⟨stage.1, fun _ member => keeps (stage.2 _ member)⟩
  | update purpose =>
      cases purpose with
      | check =>
          exact ⟨stage.1, fun isReady _ member seen => keeps (stage.2 isReady _ member seen)⟩
      | onExecute => exact ⟨stage.1, fun _ member => keeps (stage.2 _ member)⟩
  | updateSize purpose _ _ _ current =>
      cases purpose with
      | check =>
          exact ⟨stage.1, fun isReady _ member seen => keeps (stage.2.1 isReady _ member seen),
            Nat.le_trans (Nat.add_le_add_right (back current) _) stage.2.2⟩
      | onExecute => exact ⟨stage.1, fun _ member => keeps (stage.2 _ member)⟩

theorem concludeUpdate_ready_iff (term : DownstreamReceptiveSchedulingTerm) (isReady : Bool)
    (timestamp : Int) :
    (term.concludeUpdate isReady timestamp).currentState = .READY ↔ isReady = true := by
  rw [DownstreamReceptiveSchedulingTerm.concludeUpdate_currentState]
  cases isReady <;> simp

omit [DecidableEq Receiver] in
theorem concludeUpdate_cases (connected : List Receiver)
    (connection : Connection Receiver Message) (purpose : UpdatePurpose) (timestamp : Int)
    (isReady : Bool) :
    ∃ term : DownstreamReceptiveSchedulingTerm, term.minSize = connection.term.minSize ∧
      (purpose = .onExecute ∧ connection.concludeUpdate connected purpose timestamp isReady =
            { connection with term, phase := .outbox } ∨
        purpose = .check ∧ isReady = true ∧
          connection.concludeUpdate connected purpose timestamp isReady =
            { connection with term, phase := .ready } ∨
        purpose = .check ∧ connection.concludeUpdate connected purpose timestamp isReady =
            { connection with term, phase := .idle }) := by
  cases connected with
  | nil =>
      refine ⟨connection.term, rfl, ?_⟩
      cases purpose with
      | check => exact .inr (.inr ⟨rfl, rfl⟩)
      | onExecute => exact .inl ⟨rfl, rfl⟩
  | cons receiver rest =>
      refine ⟨_, connection.term.concludeUpdate_minSize isReady timestamp, ?_⟩
      cases purpose with
      | onExecute => exact .inl ⟨rfl, rfl⟩
      | check =>
          by_cases ready : (connection.term.concludeUpdate isReady timestamp).currentState = .READY
          · have isReady := (concludeUpdate_ready_iff ..).mp ready
            refine .inr (.inl ⟨rfl, isReady, ?_⟩)
            exact congrArg (Connection.mk _ _ _) (if_pos ready)
          · refine .inr (.inr ⟨rfl, ?_⟩)
            exact congrArg (Connection.mk _ _ _) (if_neg ready)

namespace Flow

section

variable (flow : Flow settings connection published popped outgoing incoming)
include flow

theorem goto (held : ∀ receiver ∈ settings.connected,
      phase.held receiver = connection.phase.held receiver)
    (visits : phase.remaining.Sublist settings.connected)
    (stage : Stage settings outgoing incoming phase) :
    Flow settings (connection.goto phase) published popped outgoing incoming :=
  { flow with
    order := fun receiver member => held receiver member ▸ flow.order receiver member
    visits
    stage }

theorem receive {queue : StagingQueue (Option Message)} {stages : Stages Message}
    {taken : List Message}
    (carries : Carries (settings.receivers receiver) queue stages)
    (same : taken ++ stages.main ++ stages.back =
      (incoming receiver).main ++ (incoming receiver).back)
    (back : stages.back.length ≤ (incoming receiver).back.length) :
    Flow settings (connection.setReceiver receiver queue) published
      (update popped receiver (popped receiver ++ taken)) outgoing
      (update incoming receiver stages) := by
  have load : stages.main.length + stages.back.length ≤
      (incoming receiver).main.length + (incoming receiver).back.length := by
    have lengths := congrArg List.length same
    simp only [List.length_append] at lengths
    omega
  have loads (other : Receiver) : (update incoming receiver stages other).main.length +
          (update incoming receiver stages other).back.length ≤
        (incoming other).main.length + (incoming other).back.length := by
    by_cases isReceiver : other = receiver
    · rw [isReceiver, update_self]
      exact load
    · rw [update_of_ne isReceiver]
  have backs (other : Receiver) : (update incoming receiver stages other).back.length ≤
        (incoming other).back.length := by
    by_cases isReceiver : other = receiver
    · rw [isReceiver, update_self]
      exact back
    · rw [update_of_ne isReceiver]
  refine ⟨flow.transmitter, ?_, flow.minSize, flow.limit, ?_, flow.possible, ?_, flow.visits,
    flow.stage.of_le loads backs⟩
  · intro other
    by_cases isReceiver : other = receiver
    · rw [isReceiver, setReceiver_self, update_self]
      exact carries
    · rw [setReceiver_of_ne connection isReceiver, update_of_ne isReceiver]
      exact flow.receivers other
  · exact fun other => (flow.fits other).of_le (Nat.le_refl 0) (loads other)
  · intro other member
    rw [← flow.order other member]
    by_cases isReceiver : other = receiver
    · rw [isReceiver, update_self, update_self, List.append_assoc (popped _),
        List.append_assoc (popped _), same, ← List.append_assoc (popped _)]
      rfl
    · rw [update_of_ne isReceiver, update_of_ne isReceiver]
      rfl

theorem required (member : receiver ∈ settings.connected) : (connection.required receiver).toNat =
      (incoming receiver).back.length + settings.minSize.toNat := by
  have small : (incoming receiver).back.length + settings.minSize.toNat < 2 ^ 64 := by
    have bound := settings.minSize.toNat_lt
    rcases flow.possible with isNil | possible
    · have order := flow.order receiver member
      rw [isNil] at order
      simp only [List.append_eq_nil_iff] at order
      rw [order.1.1.1.2, List.length_nil, Nat.zero_add]
      exact bound
    · have back := (flow.receivers receiver).back_le
      rw [List.length_map] at back
      calc (incoming receiver).back.length + settings.minSize.toNat
          ≤ (settings.receivers receiver).capacity + (settings.receivers receiver).capacity :=
            Nat.add_le_add back (possible receiver member)
        _ < 2 ^ 64 := Nat.two_mul _ ▸ (settings.receivers receiver).allocatable
  have backSmall := Nat.lt_of_le_of_lt (Nat.le_add_right _ settings.minSize.toNat) small
  rw [Connection.required, (flow.receivers receiver).backSize, flow.minSize, UInt64.toNat_add,
    UInt64.toNat_ofNat', Nat.mod_eq_of_lt backSmall, Nat.mod_eq_of_lt small]

/-- Neither does what the second half computes. -/
theorem available (receiver : Receiver) : (connection.available receiver).toNat =
      (settings.receivers receiver).capacity - (incoming receiver).main.length := by
  have carries := flow.receivers receiver
  have main := carries.main_le
  rw [List.length_map] at main
  have small : (settings.receivers receiver).capacity < 2 ^ 64 := by
    have allocatable := (settings.receivers receiver).allocatable
    omega
  have capacity : (UInt64.ofNat (connection.receivers receiver).capacity).toNat =
      (settings.receivers receiver).capacity := by
    rw [UInt64.toNat_ofNat', carries.capacity_eq, Nat.mod_eq_of_lt small]
  have size : (UInt64.ofNat (connection.receivers receiver).size).toNat =
      (incoming receiver).main.length := by
    rw [UInt64.toNat_ofNat', carries.size, Nat.mod_eq_of_lt (Nat.lt_of_le_of_lt main small)]
  have le : UInt64.ofNat (connection.receivers receiver).size ≤
      UInt64.ofNat (connection.receivers receiver).capacity := by
    rw [UInt64.le_iff_toNat_le, capacity, size]
    exact main
  rw [Connection.available, UInt64.toNat_sub_of_le _ _ le, capacity, size]

end

variable {remaining : List Receiver} {purpose : UpdatePurpose} {timestamp : Int} {isReady : Bool}

section

variable (flow : Flow settings connection published popped outgoing incoming)
include flow

theorem push {message : Message}
    (isPhase : connection.phase = .push message (receiver :: remaining)) :
    (connection.receivers receiver).backSize < (connection.receivers receiver).capacity ∧
      Flow settings ((connection.setReceiver receiver
          ((connection.receivers receiver).push (some message)).1).goto (.push message remaining))
        published popped outgoing
        (update incoming receiver
          ⟨(incoming receiver).main, (incoming receiver).back ++ [message]⟩) := by
  have visits := flow.visits
  have stage := flow.stage
  have order := flow.order
  rw [isPhase] at visits stage order
  have member : receiver ∈ settings.connected := visits.subset (List.mem_cons_self ..)
  have notMem : receiver ∉ remaining := (List.nodup_cons.mp (settings.nodup.sublist visits)).1
  have room := stage.2 receiver member
  rw [Room, if_pos (List.mem_cons_self ..)] at room
  have free : (incoming receiver).back.length < (settings.receivers receiver).capacity := by
    omega
  have more : (incoming receiver).main.length +
      ((incoming receiver).back ++ [message]).length + outgoing.main.length ≤
        (settings.receivers receiver).capacity := by
    rw [List.length_append, List.length_singleton]
    omega
  have still (other : Receiver) (isReceiver : other ≠ receiver) :
      (other ∈ receiver :: remaining) = (other ∈ remaining) := by
    rw [List.mem_cons, eq_false isReceiver, false_or]
  refine ⟨?_, flow.transmitter, ?_, flow.minSize, flow.limit, ?_, flow.possible, ?_,
    (List.sublist_cons_self ..).trans visits, stage.1, ?_⟩
  · rw [(flow.receivers receiver).backSize, (flow.receivers receiver).capacity_eq]
    exact free
  · intro other
    by_cases isReceiver : other = receiver
    · rw [isReceiver, update_self]
      exact (setReceiver_self connection receiver _).symm ▸
        ((flow.receivers receiver).push message free).2
    · rw [update_of_ne isReceiver]
      exact (setReceiver_of_ne connection isReceiver _).symm ▸ flow.receivers other
  · intro other
    by_cases isReceiver : other = receiver
    · rw [isReceiver, Room, update_self]
      exact Nat.le_trans (Nat.le_add_right ..) more
    · rw [Room, update_of_ne isReceiver]
      exact flow.fits other
  · intro other isConnected
    rw [← order other isConnected]
    change _ ++ (if other ∈ remaining then [message] else []) ++ _ ++ _ =
      _ ++ (if other ∈ receiver :: remaining then [message] else []) ++ _ ++ _
    by_cases isReceiver : other = receiver
    · rw [isReceiver, update_self, if_neg notMem, if_pos (List.mem_cons_self ..),
        List.append_nil, ← List.append_assoc _ (incoming receiver).back]
    · rw [update_of_ne isReceiver]
      simp only [still other isReceiver]
  · intro other isConnected
    by_cases isReceiver : other = receiver
    · rw [isReceiver, Room, update_self, if_neg notMem]
      exact more
    · have others := stage.2 other isConnected
      simp only [still other isReceiver] at others
      rw [Room, update_of_ne isReceiver]
      exact others

theorem publish (isPhase : connection.phase = .ticking) (message : Message)
    (few : connection.transmitter.backSize < connection.term.minSize.toNat)
    (fewer : connection.transmitter.backSize < connection.transmitter.capacity) :
    (connection.transmitter.push (some message)).2 = true ∧
      Flow settings (connection.setTransmitter (connection.transmitter.push (some message)).1)
        (published ++ [message]) popped ⟨outgoing.main, outgoing.back ++ [message]⟩ incoming := by
  have stage := flow.stage
  rw [isPhase] at stage
  rw [flow.transmitter.backSize, flow.minSize] at few
  rw [flow.transmitter.backSize, flow.transmitter.capacity_eq] at fewer
  obtain ⟨accepted, carries⟩ := flow.transmitter.push message fewer
  refine ⟨accepted, carries, flow.receivers, flow.minSize, ?_, flow.fits, .inr ?_, ?_,
    flow.visits, ?_⟩
  · rw [List.length_append]
    exact few
  · intro receiver member
    exact Nat.le_trans (Nat.le_add_left ..) (stage.2 receiver member)
  · intro receiver member
    rw [← flow.order receiver member, ← List.append_assoc]
    rfl
  · change Stage _ _ _ connection.phase
    rw [isPhase]
    exact stage

theorem outbox (isPhase : connection.phase = .outbox) : connection.transmitter.sync.2 = true ∧
      Flow settings ((connection.setTransmitter connection.transmitter.sync.1).goto .distribute)
        published popped ⟨outgoing.back, []⟩ incoming := by
  have stage := flow.stage
  rw [isPhase] at stage
  obtain ⟨isNil, promised⟩ := stage
  have room : outgoing.main.length + outgoing.back.length ≤ settings.transmitter.capacity := by
    have back := flow.transmitter.back_le
    rw [List.length_map] at back
    rw [isNil, List.length_nil, Nat.zero_add]
    exact back
  obtain ⟨accepted, carries⟩ := flow.transmitter.sync room
  rw [isNil, List.nil_append] at carries
  refine ⟨accepted, carries, flow.receivers, flow.minSize, Nat.zero_le _, flow.fits,
    flow.possible, ?_, List.nil_sublist _, rfl, ?_⟩
  · intro receiver member
    have order := flow.order receiver member
    rw [isPhase, isNil, List.append_nil] at order
    rw [← order, List.append_nil]
    rfl
  · intro receiver member
    exact (promised receiver member).of_le flow.limit (Nat.le_refl _)

theorem distribute (isPhase : connection.phase = .distribute) :
    (∃ message rest, outgoing = ⟨message :: rest, []⟩ ∧
        connection.distributeNext settings.connected =
          ((connection.setTransmitter connection.transmitter.pop.1).goto
            (.push message settings.connected), .progressed) ∧
        Flow settings ((connection.setTransmitter connection.transmitter.pop.1).goto
            (.push message settings.connected)) published popped ⟨rest, []⟩ incoming) ∨
      outgoing = ⟨[], []⟩ ∧
        connection.distributeNext settings.connected = (connection.goto .idle, .distributed) := by
  have stage := flow.stage
  rw [isPhase] at stage
  obtain ⟨isNil, room⟩ := stage
  have size := flow.transmitter.size
  obtain ⟨item, carries⟩ := flow.transmitter.pop
  obtain ⟨main, back⟩ := outgoing
  cases isNil
  rw [distributeNext, size]
  cases main with
  | nil => exact .inr ⟨rfl, if_neg (Nat.lt_irrefl 0)⟩
  | cons message rest =>
      refine .inl ⟨message, rest, rfl, ?_, carries, flow.receivers, flow.minSize, flow.limit,
        flow.fits, flow.possible, ?_, List.Sublist.refl _, rfl, ?_⟩
      · refine (if_pos (Nat.succ_pos rest.length)).trans ?_
        simp only [item, List.head?_cons]
      · intro receiver member
        rw [← flow.order receiver member, isPhase]
        change _ ++ (if receiver ∈ settings.connected then [message] else []) ++ rest ++ [] =
          _ ++ [] ++ (message :: rest) ++ []
        rw [if_pos member, List.append_assoc _ [message],
          List.append_nil (popped receiver ++ _ ++ _)]
        rfl
      · intro receiver member
        rw [if_pos member]
        exact room receiver member

/-- The term has looked at all receivers. -/
theorem conclude (isPhase : connection.phase = .update purpose timestamp isReady []) :
    Flow settings (connection.concludeUpdate settings.connected purpose timestamp isReady)
      published popped outgoing incoming := by
  have stage := flow.stage
  have order := flow.order
  rw [isPhase] at stage order
  obtain ⟨term, same, ends⟩ :=
    concludeUpdate_cases settings.connected connection purpose timestamp isReady
  have minSize : term.minSize = settings.minSize := same.trans flow.minSize
  rcases ends with ⟨rfl, ends⟩ | ⟨rfl, rfl, ends⟩ | ⟨rfl, ends⟩
  · exact ends ▸ { flow with minSize, order, visits := List.nil_sublist _, stage }
  · have promised : Promised settings incoming :=
      fun receiver member => stage.2 rfl receiver member List.not_mem_nil
    exact ends ▸
      { flow with minSize, order, visits := List.nil_sublist _, stage := ⟨stage.1, promised⟩ }
  · exact ends ▸ { flow with minSize, order, visits := List.nil_sublist _, stage := stage.1 }

theorem look
    (isPhase : connection.phase = .update purpose timestamp isReady (receiver :: remaining)) :
    Flow settings (connection.goto (.updateSize purpose timestamp isReady
      (connection.required receiver) receiver remaining)) published popped outgoing incoming := by
  have stage := flow.stage
  have visits := flow.visits
  rw [isPhase] at stage visits
  refine flow.goto (fun _ _ => by rw [isPhase]; rfl) visits ?_
  cases purpose with
  | onExecute => exact stage
  | check =>
      exact ⟨stage.1, stage.2,
        Nat.le_of_eq (flow.required (visits.subset (List.mem_cons_self ..))).symm⟩

theorem compare {required : UInt64} (isPhase : connection.phase =
      .updateSize purpose timestamp isReady required receiver remaining) :
    Flow settings (connection.goto (.update purpose timestamp
      (isReady && required ≤ connection.available receiver) remaining))
      published popped outgoing incoming := by
  have stage := flow.stage
  have visits := flow.visits
  rw [isPhase] at stage visits
  refine flow.goto (fun _ _ => by rw [isPhase]; rfl) ((List.sublist_cons_self ..).trans visits) ?_
  cases purpose with
  | onExecute => exact stage
  | check =>
      obtain ⟨isNil, seen, needed⟩ := stage
      refine ⟨isNil, fun stillReady other member notRemaining => ?_⟩
      obtain ⟨wasReady, enough⟩ := (Bool.and_eq_true _ _).mp stillReady
      by_cases isReceiver : other = receiver
      · have le := UInt64.le_iff_toNat_le.mp (of_decide_eq_true enough)
        rw [flow.available] at le
        have fits := flow.fits receiver
        rw [isReceiver]
        rw [Room] at fits ⊢
        omega
      · exact seen wasReady other member fun isOther =>
          notRemaining ((List.mem_cons.mp isOther).resolve_left isReceiver)

/-- The executor takes a step. -/
theorem advance :
    ∃ outgoing incoming, Flow settings (connection.advance settings.connected).1 published popped
      outgoing incoming := by
  rw [Connection.advance]
  split
  next => exact ⟨outgoing, incoming, flow⟩
  next => exact ⟨outgoing, incoming, flow⟩
  next => exact ⟨outgoing, incoming, flow⟩
  next isPhase => exact ⟨outgoing, incoming, flow.conclude isPhase⟩
  next isPhase => exact ⟨outgoing, incoming, flow.look isPhase⟩
  next isPhase => exact ⟨outgoing, incoming, flow.compare isPhase⟩
  next isPhase =>
      obtain ⟨accepted, later⟩ := flow.outbox isPhase
      rw [if_pos accepted]
      exact ⟨_, incoming, later⟩
  next isPhase =>
      rcases flow.distribute isPhase with ⟨message, rest, _, step, later⟩ | ⟨rfl, step⟩
      · rw [step]
        exact ⟨_, incoming, later⟩
      · rw [step]
        exact ⟨⟨[], []⟩, incoming,
          flow.goto (fun _ _ => by rw [isPhase]; rfl) (List.nil_sublist _) rfl⟩
  next isPhase =>
      have stage := flow.stage
      rw [isPhase] at stage
      exact ⟨outgoing, incoming, flow.goto (fun _ _ => by rw [isPhase]; rfl)
        (List.nil_sublist _) stage⟩
  next isPhase => exact ⟨outgoing, _, (flow.push isPhase).2⟩

end

end Flow

/-! ## Runs -/

/-- Some messages are under way, in their order. -/
def Kept (settings : Settings Receiver)
    (state : Connection Receiver Message × Trail Receiver Message) : Prop :=
  ∃ outgoing incoming, Flow settings state.1 state.2.published state.2.popped outgoing incoming

variable {state : Connection Receiver Message × Trail Receiver Message} {op : Op Receiver Message}

theorem kept_init (settings : Settings Receiver) : Kept settings
      ((init settings, ⟨[], 0, fun _ => []⟩) :
        Connection Receiver Message × Trail Receiver Message) := by
  refine ⟨⟨[], []⟩, fun _ => ⟨[], []⟩, ?_⟩
  exact
    { transmitter := Carries.create _
      receivers := fun _ => Carries.create _
      minSize := rfl
      limit := Nat.zero_le _
      fits := fun _ => Nat.zero_le _
      possible := .inl rfl
      order := fun _ _ => rfl
      visits := List.nil_sublist _
      stage := rfl }

theorem observe_advance (connected : List Receiver) (connection : Connection Receiver Message)
    (trail : Trail Receiver Message) :
    trail.observe (connection.advance connected).2 = trail := by
  rw [advance]
  split
  next => rfl
  next => rfl
  next => rfl
  next => rfl
  next => rfl
  next => rfl
  next =>
      dsimp only
      split <;> rfl
  next =>
      rw [distributeNext]
      split
      · dsimp only
        split <;> rfl
      · rfl
  next => rfl
  next => rfl

section

variable (flow : Flow settings connection published popped outgoing incoming)
include flow

theorem Flow.execute
    (isPhase : connection.phase = .idle ∨ connection.phase = .ready) (timestamp : Int) :
    Flow settings (connection.goto (.update .check timestamp true settings.connected)) published
      popped outgoing incoming := by
  have stage := flow.stage
  rcases isPhase with isPhase | isPhase
  · rw [isPhase] at stage
    exact flow.goto (fun _ _ => by rw [isPhase]; rfl) (List.Sublist.refl _)
      ⟨stage, fun _ receiver member notSeen => absurd member notSeen⟩
  · rw [isPhase] at stage
    exact flow.goto (fun _ _ => by rw [isPhase]; rfl) (List.Sublist.refl _)
      ⟨stage.1, fun _ receiver member notSeen => absurd member notSeen⟩

theorem Flow.fail (isPhase : connection.phase = .ticking ∨ connection.phase = .outbox) :
    Flow settings (connection.goto .idle) published popped outgoing incoming := by
  have stage := flow.stage
  rcases isPhase with isPhase | isPhase
  · rw [isPhase] at stage
    exact flow.goto (fun _ _ => by rw [isPhase]; rfl) (List.nil_sublist _) stage.1
  · rw [isPhase] at stage
    exact flow.goto (fun _ _ => by rw [isPhase]; rfl) (List.nil_sublist _) stage.1

theorem Flow.sync (receiver : Receiver) :
    Flow settings (connection.setReceiver receiver (connection.receivers receiver).sync.1)
      published popped outgoing (update incoming receiver
        ⟨(incoming receiver).main ++ (incoming receiver).back, []⟩) := by
  obtain ⟨_, carries⟩ := (flow.receivers receiver).sync (flow.fits receiver)
  have same : [] ++ ((incoming receiver).main ++ (incoming receiver).back) ++ [] =
      (incoming receiver).main ++ (incoming receiver).back := List.append_nil _
  have received := flow.receive carries same (Nat.zero_le _)
  rw [List.append_nil, update_eq_self] at received
  exact received

theorem Flow.pop (receiver : Receiver) :
    Flow settings (connection.setReceiver receiver (connection.receivers receiver).pop.1) published
      (update popped receiver
        (popped receiver ++ (connection.receivers receiver).pop.2.toList)) outgoing
      (update incoming receiver
        ⟨(incoming receiver).main.tail, (incoming receiver).back⟩) := by
  obtain ⟨item, carries⟩ := (flow.receivers receiver).pop
  refine flow.receive carries ?_ (Nat.le_refl _)
  rw [item]
  cases (incoming receiver).main <;> rfl

end

theorem kept_step (kept : Kept settings state) (spaced : Spaced state op) :
    Kept settings ((observed settings).step state op).1 := by
  obtain ⟨outgoing, incoming, flow⟩ := kept
  have stays : Kept settings state := ⟨outgoing, incoming, flow⟩
  have stage := flow.stage
  cases op with
  | execute timestamp =>
      simp only [observed, recorded, system]
      split
      next isPhase => exact ⟨outgoing, incoming, flow.execute (.inl isPhase) timestamp⟩
      next isPhase => exact ⟨outgoing, incoming, flow.execute (.inr isPhase) timestamp⟩
      next => exact stays
  | tick =>
      simp only [observed, recorded, system]
      split
      next isPhase =>
          rw [isPhase] at stage
          exact ⟨outgoing, incoming,
            flow.goto (fun _ _ => by rw [isPhase]; rfl) (List.nil_sublist _) stage⟩
      next => exact stays
  | publish message =>
      simp only [observed, recorded, system]
      split
      next isPhase =>
          obtain ⟨few, fewer⟩ := spaced isPhase
          obtain ⟨accepted, later⟩ := flow.publish isPhase message few fewer
          rw [accepted]
          exact ⟨_, incoming, later⟩
      next => exact stays
  | finish timestamp =>
      simp only [observed, recorded, system]
      split
      next isPhase =>
          rw [isPhase] at stage
          exact ⟨outgoing, incoming,
            flow.goto (fun _ _ => by rw [isPhase]; rfl) (List.Sublist.refl _) stage⟩
      next => exact stays
  | fail =>
      simp only [observed, recorded, system]
      split
      next isPhase => exact ⟨outgoing, incoming, flow.fail (.inl isPhase)⟩
      next isPhase => exact ⟨outgoing, incoming, flow.fail (.inr isPhase)⟩
      next => exact stays
  | advance =>
      simp only [observed, recorded, system]
      rw [observe_advance]
      exact flow.advance
  | sync receiver => exact ⟨outgoing, _, flow.sync receiver⟩
  | pop receiver =>
      have later := flow.pop receiver
      simp only [observed, recorded, system]
      cases isItem : (state.1.receivers receiver).pop.2 with
      | none =>
          rw [isItem, Option.toList_none, List.append_nil, update_eq_self] at later
          exact ⟨outgoing, _, later⟩
      | some message =>
          rw [isItem] at later
          exact ⟨outgoing, _, later⟩

/-- Only the loop of `syncOutbox` ends `syncOutbox`. -/
theorem phase_of_distributed (isReport : ((observed settings).step state op).2 = .distributed) :
    op = .advance ∧ state.1.phase = .distribute := by
  cases op with
  | execute | tick | publish | finish | fail =>
      simp only [observed, recorded, system] at isReport
      split at isReport <;> cases isReport
  | sync | pop => cases isReport
  | advance =>
      refine ⟨rfl, ?_⟩
      simp only [observed, recorded, system] at isReport
      rw [advance] at isReport
      split at isReport
      next => cases isReport
      next => cases isReport
      next => cases isReport
      next => cases isReport
      next => cases isReport
      next => cases isReport
      next =>
          dsimp only at isReport
          split at isReport <;> cases isReport
      next isPhase => exact isPhase
      next => cases isReport
      next => cases isReport

theorem lossless_of_kept (kept : Kept settings state) (op : Op Receiver Message) :
    Lossless settings state op := by
  obtain ⟨outgoing, incoming, flow⟩ := kept
  refine ⟨?_, ?_, ?_⟩
  · intro message receiver remaining _ isPhase
    exact (flow.push isPhase).1
  · intro receiver _
    have fits := flow.fits receiver
    rw [(flow.receivers receiver).size, (flow.receivers receiver).backSize,
      (flow.receivers receiver).capacity_eq]
    exact fits
  · intro isReport
    obtain ⟨rfl, isPhase⟩ := phase_of_distributed isReport
    simp only [observed, recorded, system] at isReport ⊢
    rw [observe_advance]
    simp only [advance, isPhase] at isReport ⊢
    rcases flow.distribute isPhase with ⟨_, _, _, step, _⟩ | ⟨rfl, step⟩
    · rw [step] at isReport
      cases isReport
    · rw [step]
      intro receiver member
      have order := flow.order receiver member
      rw [isPhase] at order
      change _ ++ (state.1.receivers receiver).stored = _
      rw [(flow.receivers receiver).stored, ← List.map_append, ← order]
      change _ = List.map some (_ ++ [] ++ [] ++ [])
      rw [List.append_nil, List.append_nil, List.append_nil, List.append_assoc]

/-- No message is lost in a run in which few messages are published between two calls of
`syncOutbox`. -/
theorem run_lossless (settings : Settings Receiver) (ops : List (Op Receiver Message))
    (spaced : (observed settings).Along Spaced (init settings, ⟨[], 0, fun _ => []⟩) ops) :
    (observed settings).Along (Lossless settings) (init settings, ⟨[], 0, fun _ => []⟩) ops :=
  along_of_invariant (fun _ _ kept spaced => kept_step kept spaced)
    (fun _ op kept _ => lossless_of_kept kept op) (kept_init settings) spaced

/-- One receiver with room for one message, and a transmitter with room for two. -/
def single : Settings Unit where
  minSize := 1
  transmitter := ⟨2, .kFault, by decide, by decide⟩
  receivers _ := ⟨1, .kFault, by decide, by decide⟩
  connected := [()]
  nodup := List.nodup_singleton ()

theorem run_lossless_single : (observed single).Along Spaced (init single, ⟨[], 0, fun _ => []⟩)
        [.execute 0, .advance, .advance, .advance, .tick, .publish 1, .finish 0, .advance,
          .advance, .advance, .advance, .advance, .advance, .advance, .advance, .sync (), .pop ()] ∧
      (observed single).Along (Lossless single) (init single, ⟨[], 0, fun _ => []⟩)
        [.execute 0, .advance, .advance, .advance, .tick, .publish 1, .finish 0, .advance,
          .advance, .advance, .advance, .advance, .advance, .advance, .advance, .sync (),
          .pop ()] := by
  have spaced : (observed single).Along Spaced (init single, ⟨[], 0, fun _ => []⟩)
      [.execute 0, .advance, .advance, .advance, .tick, .publish 1, .finish 0, .advance,
        .advance, .advance, .advance, .advance, .advance, .advance, .advance, .sync (),
        .pop ()] :=
    ⟨trivial, trivial, trivial, trivial, trivial, fun _ => ⟨by decide, by decide⟩, trivial,
      trivial, trivial, trivial, trivial, trivial, trivial, trivial, trivial, trivial, trivial,
      trivial⟩
  exact ⟨spaced, run_lossless single _ spaced⟩

/-- The message of a failed tick takes the room that the term has found for the message of
the next tick. -/
theorem failed_tick_loses : (observed single).Along Moderate (init single, ⟨[], 0, fun _ => []⟩)
        [.execute 0, .advance, .advance, .advance, .tick, .publish 1, .fail,
          .execute 1, .advance, .advance, .advance, .tick, .publish 2, .finish 1, .advance,
          .advance, .advance, .advance, .advance, .advance, .advance, .advance, .advance] ∧
      ¬(observed single).Along (Lossless single) (init single, ⟨[], 0, fun _ => []⟩)
        [.execute 0, .advance, .advance, .advance, .tick, .publish 1, .fail,
          .execute 1, .advance, .advance, .advance, .tick, .publish 2, .finish 1, .advance,
          .advance, .advance, .advance, .advance, .advance, .advance, .advance, .advance] := by
  constructor
  · exact ⟨trivial, trivial, trivial, trivial, trivial, fun _ => ⟨by decide, by decide⟩, trivial,
      trivial, trivial, trivial, trivial, trivial, fun _ => ⟨by decide, by decide⟩, trivial,
      trivial, trivial, trivial, trivial, trivial, trivial, trivial, trivial, trivial, trivial⟩
  · rintro ⟨-, -, -, -, -, -, -, -, -, -, -, -, -, -, -, -, -, -, -, -, -, -, last, -⟩
    exact absurd (last.push 2 () [] rfl rfl) (by decide)

end Gxf.Std.Connection
