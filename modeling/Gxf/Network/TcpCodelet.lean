import Gxf.Lib.Procedure
import Gxf.Lib.Run
import Gxf.Network.Transfers

/-!
# Two TCP codelets

A codelet publishes what it receives on the channels of its transmitters, and sends what its
receivers hold.  Two codelets exchange packets over a connection.  Errors are logged, and the
connection stays open: where a packet was transferred partly, the rest of it is missing.
-/

namespace Gxf.Network

open Gxf.Core Gxf.Lib

variable {Item : Type}

/-- What happens around a tick: whether the socket has data, what `recv` and `send` answer, how
deserializing each entity fails, the messages of the receivers and how serializing them fails,
and what the transmitters answer.  A vector has less than 2⁶⁴ elements. -/
structure TcpTick (Item : Type) where
  available : Bool := false
  recvs : List (Option Nat) := []
  refusals : Nat → Refusal := fun _ => none
  received : List (TcpMessage Item × Refusal) := []
  sends : List (Option Nat) := []
  publishes : List (Except GxfResult Unit) := []
  small : received.length < 2 ^ 64

/-- `TcpCodelet`, with the messages it published and those it passed to its socket.  A channel
has a transmitter, or is known to have none.  The process may have ended. -/
structure TcpCodelet (Item : Type) where
  clientSocket : TcpClientSocket
  channelMap : UInt64 → Option Bool
  txMessages : List (TcpMessage Item) := []
  published : List (TcpMessage Item) := []
  sent : List (TcpMessage Item) := []
  exited : Bool := false

namespace TcpCodelet

variable (serializer : StreamSerializer Item)

/-- `client_socket_.receiveMessages(context, serializer)`, when there is data. -/
def receive (codelet : TcpCodelet Item) (tick : TcpTick Item) : TcpCodelet Item :=
  if tick.available then
    match receiveMessages serializer tick.refusals
      { codelet.clientSocket with recvs := tick.recvs } with
    | .ok messages socket => { codelet with clientSocket := socket, txMessages := messages }
    | .error _ socket => { codelet with clientSocket := socket }
  else codelet

/-- `client_socket_.sendMessages(rx_messages, serializer)`, when there are messages. -/
def transmit (codelet : TcpCodelet Item) (tick : TcpTick Item) : TcpCodelet Item :=
  if tick.received = [] then codelet
  else
    let sent := codelet.sent ++ tick.received.map Prod.fst
    match sendMessages serializer tick.received
      { codelet.clientSocket with sends := tick.sends } with
    | .ok _ socket => { codelet with clientSocket := socket, sent }
    | .error _ socket => { codelet with clientSocket := socket, sent }

/-- The loop of `tick()` over the messages from the socket.  Asking a null handle for a name
ends the process. -/
def publish (codelet : TcpCodelet Item) : List (TcpMessage Item) → List (Except GxfResult Unit) →
    TcpCodelet Item × Outcome GxfResult Unit
  | [], _ => (codelet, .ok ())
  | message :: messages, answers =>
      match codelet.channelMap message.channelId with
      | none =>
          publish { codelet with
            channelMap := Function.update codelet.channelMap message.channelId (some false) }
            messages answers
      | some false => (codelet, .aborted)
      | some true =>
          match answers.head? with
          | some (.error code) => (codelet, .error code)
          | _ =>
              publish { codelet with published := codelet.published ++ [message] } messages
                answers.tail

/-- The end of `tick()`, after the messages are published. -/
def finish (ended : TcpCodelet Item × Outcome GxfResult Unit) :
    TcpCodelet Item × Outcome GxfResult Unit :=
  match ended.2 with
  | .ok _ => ({ ended.1 with txMessages := [] }, .ok ())
  | .aborted => ({ ended.1 with exited := true }, .aborted)
  | outcome => (ended.1, outcome)

/-- `tick()` while the monitor runs. -/
def tick (codelet : TcpCodelet Item) (tick : TcpTick Item) :
    TcpCodelet Item × Outcome GxfResult Unit :=
  let transferred := (codelet.receive serializer tick).transmit serializer tick
  finish (transferred.publish transferred.txMessages tick.publishes)

/-- A tick of one of the codelets, or both leave the connection for a new one. -/
inductive TcpOp (Item : Type) where
  | tick (side : Bool) (tick : TcpTick Item)
  | reconnect

/-- The socket of a new connection. -/
def reconnected (codelet : TcpCodelet Item) : TcpCodelet Item := { codelet with clientSocket :=
      { codelet.clientSocket with connected := true, incoming := [], outgoing := [] } }

/-- What left one codelet arrives at the other. -/
def exchange (link : Bool → TcpCodelet Item) (side : Bool) (codelet : TcpCodelet Item) :
    Bool → TcpCodelet Item := fun other =>
  if other = side then
    { codelet with clientSocket := { codelet.clientSocket with outgoing := [] } }
  else
    { link other with clientSocket := { (link other).clientSocket with
        incoming := (link other).clientSocket.incoming ++ codelet.clientSocket.outgoing } }

/-- Two codelets with a connection between them. -/
def system : System (Bool → TcpCodelet Item) (TcpOp Item) Unit where
  step link
    | .tick side tick =>
        if (link side).exited then (link, ())
        else (exchange link side ((link side).tick serializer tick).1, ())
    | .reconnect => (fun side => (link side).reconnected, ())

/-- Two codelets before they connect. -/
def initial (maximumAttempts : Bool → Nat) (channelMap : Bool → UInt64 → Option Bool)
    (side : Bool) : TcpCodelet Item :=
  { clientSocket := { maximumAttempts := maximumAttempts side }, channelMap := channelMap side }

/-! ## Whole packets -/

/-- The codelet receives the whole packet that comes next. -/
def Receives (codelet : TcpCodelet Item) (tick : TcpTick Item) : Prop :=
  tick.available ∧ codelet.clientSocket.connected ∧ codelet.clientSocket.incoming ≠ [] ∧
    (∀ index, tick.refusals index = none) ∧
    ∃ left, ServesAll 1 codelet.clientSocket.maximumAttempts
      (packetSizes serializer codelet.clientSocket.incoming) tick.recvs left

/-- The codelet receives a whole packet, finds the connection closed, or receives nothing.  It
sends a whole packet or nothing.  Messages whose publishing was broken off are replaced. -/
structure Clean (codelet : TcpCodelet Item) (tick : TcpTick Item) : Prop where
  receives : tick.available → codelet.clientSocket.connected → codelet.clientSocket.incoming ≠ [] →
    Receives serializer codelet tick ∨
      (∀ index, tick.refusals index = none) ∧ Breaks codelet.clientSocket.maximumAttempts
        (packetSizes serializer codelet.clientSocket.incoming) tick.recvs ∨
      Untouched codelet.clientSocket.maximumAttempts tick.recvs
  transmits : tick.received ≠ [] → codelet.clientSocket.connected →
    (∀ message ∈ tick.received, message.2 = none) ∧
      (∃ left, ServesAll 0 codelet.clientSocket.maximumAttempts
        ((packetPieces serializer (tick.received.map Prod.fst)).map List.length)
        tick.sends left) ∨
      Untouched codelet.clientSocket.maximumAttempts tick.sends
  publishes : codelet.txMessages = [] ∨ Receives serializer codelet tick

/-- What receiving does to a codelet at which some packets arrived. -/
inductive Received (codelet : TcpCodelet Item) (packets : List (List (TcpMessage Item))) :
    TcpCodelet Item → Prop
  | whole {packet rest recvs} : packets = packet :: rest → Received codelet packets
        { codelet with
          clientSocket :=
            { codelet.clientSocket with
              recvs, incoming := rest.flatMap (encodePacket serializer) }
          txMessages := packet }
  | idle {recvs} : codelet.txMessages = [] → Received codelet packets
        { codelet with clientSocket := { codelet.clientSocket with recvs } }
  | dropped {next} : codelet.txMessages = [] → codelet.clientSocket.Dropped next →
      Received codelet packets { codelet with clientSocket := next }

/-- What sending some messages does to a codelet: they leave as a packet, or nothing leaves. -/
inductive Transmitted (codelet : TcpCodelet Item) (new : List (TcpMessage Item)) :
    TcpCodelet Item → Prop
  | whole {sends} : new.length < 2 ^ 64 → Transmitted codelet new
        { codelet with
          clientSocket :=
            { codelet.clientSocket with
              sends, outgoing := codelet.clientSocket.outgoing ++ encodePacket serializer new }
          sent := codelet.sent ++ new }
  | idle {sends} : Transmitted codelet new
        { codelet with
          clientSocket := { codelet.clientSocket with sends }
          sent := codelet.sent ++ new }

section Steps

variable {serializer} {codelet : TcpCodelet Item} {step : TcpTick Item}
  {packets : List (List (TcpMessage Item))}

theorem receive_received (clean : Clean serializer codelet step)
    (small : ∀ packet ∈ packets, packet.length < 2 ^ 64)
    (arrived : codelet.clientSocket.connected →
      codelet.clientSocket.incoming = packets.flatMap (encodePacket serializer)) :
    Received serializer codelet packets (codelet.receive serializer step) := by
  rw [receive]
  by_cases whole : Receives serializer codelet step
  · obtain ⟨available, connected, some_, complete, left, serves⟩ := whole
    cases packets with
    | nil => exact absurd (arrived connected) some_
    | cons packet rest =>
        have bytes : codelet.clientSocket.incoming = _ ++ _ := arrived connected
        rw [bytes] at serves
        have reads := (Reads.receiveMessages (small packet List.mem_cons_self) _ complete).completes
          { codelet.clientSocket with recvs := step.recvs } left connected bytes serves
        rw [if_pos available, reads]
        exact .whole rfl
  have published := clean.publishes.resolve_right whole
  by_cases available : step.available
  case neg =>
    rw [if_neg available]
    exact .idle published
  rw [if_pos available]
  by_cases idle : ¬codelet.clientSocket.connected ∨
      Untouched codelet.clientSocket.maximumAttempts step.recvs
  · obtain ⟨code, recvs, fails⟩ := @receiveMessages_idle _
      { codelet.clientSocket with recvs := step.recvs } serializer step.refusals idle
    rw [fails]
    exact .idle published
  obtain ⟨connected, asked⟩ := not_or.mp idle
  have connected := not_not.mp connected
  suffices closed : ∃ code next, receiveMessages serializer step.refusals
      { codelet.clientSocket with recvs := step.recvs } = .error code next ∧
      codelet.clientSocket.Dropped next by
    obtain ⟨code, next, fails, dropped⟩ := closed
    rw [fails]
    exact .dropped published dropped
  by_cases empty : codelet.clientSocket.incoming = []
  · exact receiveMessages_empty step.refusals connected empty asked
  obtain ⟨complete, breaks⟩ := ((clean.receives available connected empty).resolve_left
    whole).resolve_right asked
  cases packets with
  | nil => exact absurd (arrived connected) empty
  | cons packet rest =>
      have bytes : codelet.clientSocket.incoming = _ ++ _ := arrived connected
      rw [bytes] at breaks
      exact (Reads.receiveMessages (small packet List.mem_cons_self) _ complete).breaks
        { codelet.clientSocket with recvs := step.recvs } connected bytes breaks

theorem transmit_transmitted (transmits : step.received ≠ [] → codelet.clientSocket.connected →
      (∀ message ∈ step.received, message.2 = none) ∧
        (∃ left, ServesAll 0 codelet.clientSocket.maximumAttempts
          ((packetPieces serializer (step.received.map Prod.fst)).map List.length)
          step.sends left) ∨
        Untouched codelet.clientSocket.maximumAttempts step.sends) :
    Transmitted serializer codelet (step.received.map Prod.fst)
      (codelet.transmit serializer step) := by
  rw [transmit]
  by_cases nothing : step.received = []
  · have same := @Transmitted.idle _ serializer codelet [] codelet.clientSocket.sends
    rw [if_pos nothing, nothing]
    rwa [List.append_nil] at same
  rw [if_neg nothing]
  by_cases idle : ¬codelet.clientSocket.connected ∨
      Untouched codelet.clientSocket.maximumAttempts step.sends
  · obtain ⟨code, sends, fails⟩ := @sendMessages_idle _
      { codelet.clientSocket with sends := step.sends } serializer step.received idle
    rw [fails]
    exact .idle
  · obtain ⟨connected, asked⟩ := not_or.mp idle
    have connected := not_not.mp connected
    obtain ⟨complete, left, serves⟩ := (transmits nothing connected).resolve_right asked
    have leaves := (@Writes.sendMessages _ serializer _ complete)
      { codelet.clientSocket with sends := step.sends } left connected serves
    rw [leaves]
    refine .whole ?_
    rw [List.length_map]
    exact step.small

theorem publish_published (messages : List (TcpMessage Item))
    (answers : List (Except GxfResult Unit)) :
    ∃ taken channelMap, (codelet.publish messages answers).1 =
      { codelet with published := codelet.published ++ taken, channelMap } ∧
      taken.Sublist messages := by
  induction messages generalizing codelet answers with
  | nil =>
      refine ⟨[], codelet.channelMap, ?_, .slnil⟩
      rw [publish, List.append_nil]
  | cons message messages ih =>
      rw [publish]
      split
      · obtain ⟨taken, channelMap, ends, sublist⟩ := @ih { codelet with
            channelMap := Function.update codelet.channelMap message.channelId (some false) }
            answers
        exact ⟨taken, channelMap, ends, sublist.cons _⟩
      · refine ⟨[], codelet.channelMap, ?_, List.nil_sublist _⟩
        rw [List.append_nil]
      · split
        · refine ⟨[], codelet.channelMap, ?_, List.nil_sublist _⟩
          rw [List.append_nil]
        · obtain ⟨taken, channelMap, ends, sublist⟩ := @ih
            { codelet with published := codelet.published ++ [message] } answers.tail
          refine ⟨message :: taken, channelMap, ?_, sublist.cons_cons _⟩
          rw [ends, List.append_assoc]
          rfl

theorem finish_frame (ended : TcpCodelet Item × Outcome GxfResult Unit) :
    (finish ended).1.published = ended.1.published ∧
      (finish ended).1.clientSocket = ended.1.clientSocket ∧
      (finish ended).1.sent = ended.1.sent := by
  rw [finish]
  split <;> exact ⟨rfl, rfl, rfl⟩

theorem tick_published {transferred : TcpCodelet Item}
    (transfers : (codelet.receive serializer step).transmit serializer step = transferred) :
    ∃ taken, taken.Sublist transferred.txMessages ∧
      (codelet.tick serializer step).1.published = transferred.published ++ taken ∧
      (codelet.tick serializer step).1.clientSocket = transferred.clientSocket ∧
      (codelet.tick serializer step).1.sent = transferred.sent := by
  obtain ⟨taken, channelMap, ends, sublist⟩ :=
    @publish_published _ transferred transferred.txMessages step.publishes
  have frame := finish_frame (transferred.publish transferred.txMessages step.publishes)
  rw [ends] at frame
  rw [tick, transfers]
  exact ⟨taken, sublist, frame⟩

theorem tick_transfers (clean : Clean serializer codelet step)
    (small : ∀ packet ∈ packets, packet.length < 2 ^ 64)
    (arrived : codelet.clientSocket.connected →
      codelet.clientSocket.incoming = packets.flatMap (encodePacket serializer)) :
    ∃ middle, Received serializer codelet packets middle ∧
      Transmitted serializer middle (step.received.map Prod.fst)
        ((codelet.receive serializer step).transmit serializer step) := by
  have received := receive_received clean small arrived
  refine ⟨_, received, transmit_transmitted fun some_ connected => ?_⟩
  generalize codelet.receive serializer step = middle at received connected ⊢
  cases received with
  | whole | idle => exact clean.transmits some_ connected
  | dropped _ dropped => exact absurd connected (by rw [dropped.1]; exact Bool.false_ne_true)

theorem tick_leaves (clean : Clean serializer codelet step)
    (small : ∀ packet ∈ packets, packet.length < 2 ^ 64)
    (arrived : codelet.clientSocket.connected →
      codelet.clientSocket.incoming = packets.flatMap (encodePacket serializer))
    {next : TcpCodelet Item} (steps : (codelet.tick serializer step).1 = next) :
    next.sent = codelet.sent ++ step.received.map Prod.fst ∧
      (next.clientSocket.outgoing = codelet.clientSocket.outgoing ∨
        next.clientSocket.outgoing = codelet.clientSocket.outgoing ++
          encodePacket serializer (step.received.map Prod.fst)) := by
  obtain ⟨middle, received, transmitted⟩ := tick_transfers clean small arrived
  obtain ⟨-, -, -, socket, sent⟩ := @tick_published _ serializer codelet step _ rfl
  rw [steps] at socket sent
  have before : middle.sent = codelet.sent ∧
      middle.clientSocket.outgoing = codelet.clientSocket.outgoing := by
    cases received with
    | whole | idle => exact ⟨rfl, rfl⟩
    | dropped _ dropped => exact ⟨rfl, dropped.2.2⟩
  rw [socket, sent, ← before.1, ← before.2]
  generalize (codelet.receive serializer step).transmit serializer step = after at transmitted
  cases transmitted with
  | whole _ => exact ⟨rfl, .inr rfl⟩
  | idle => exact ⟨rfl, .inl rfl⟩

theorem tick_arrives (clean : Clean serializer codelet step)
    (small : ∀ packet ∈ packets, packet.length < 2 ^ 64)
    (arrived : codelet.clientSocket.connected →
      codelet.clientSocket.incoming = packets.flatMap (encodePacket serializer))
    {next : TcpCodelet Item} (steps : (codelet.tick serializer step).1 = next) :
    ∃ rest, rest <:+ packets ∧
      (next.published ++ rest.flatten).Sublist (codelet.published ++ packets.flatten) ∧
      (next.clientSocket.connected →
        next.clientSocket.incoming = rest.flatMap (encodePacket serializer)) := by
  obtain ⟨middle, received, transmitted⟩ := tick_transfers clean small arrived
  obtain ⟨taken, sublist, published, socket, -⟩ := @tick_published _ serializer codelet step _ rfl
  rw [steps] at socket published
  rw [socket, published]
  have kept : ∀ after, Transmitted serializer middle (step.received.map Prod.fst) after →
      after.txMessages = middle.txMessages ∧ after.published = middle.published ∧
        after.clientSocket.connected = middle.clientSocket.connected ∧
        after.clientSocket.incoming = middle.clientSocket.incoming := by
    intro after transmitted
    cases transmitted <;> exact ⟨rfl, rfl, rfl, rfl⟩
  obtain ⟨messages, before, connected, incoming⟩ := kept _ transmitted
  rw [messages] at sublist
  rw [before, connected, incoming]
  cases received with
  | @whole packet rest recvs same =>
      refine ⟨rest, same ▸ List.suffix_cons packet rest, ?_, fun _ => rfl⟩
      rw [same, List.flatten_cons, List.append_assoc]
      exact (sublist.append_right _).append_left _
  | idle nothing =>
      have none_taken : taken.Sublist codelet.txMessages := sublist
      rw [nothing, List.sublist_nil] at none_taken
      rw [none_taken, List.append_nil]
      exact ⟨packets, List.suffix_rfl, .refl _, arrived⟩
  | dropped nothing dropped =>
      have none_taken : taken.Sublist codelet.txMessages := sublist
      rw [nothing, List.sublist_nil] at none_taken
      rw [none_taken, List.append_nil]
      refine ⟨[], List.nil_suffix, List.Sublist.append_left (List.nil_sublist _) _, ?_⟩
      intro connected
      exact absurd connected (by rw [dropped.1]; exact Bool.false_ne_true)

end Steps

/-! ## Runs -/

/-- The step of the connection keeps messages whole. -/
def CleanOp (link : Bool → TcpCodelet Item) : TcpOp Item → Prop
  | .tick side tick => (link side).exited ∨ Clean serializer (link side) tick
  | .reconnect => True

/-- What a side published, and what is on its way to it, is what the other side sent, in order.
What arrives at a connected side is whole packets. -/
structure Aligned (link : Bool → TcpCodelet Item) (side : Bool)
    (packets : List (List (TcpMessage Item))) : Prop where
  small : ∀ packet ∈ packets, packet.length < 2 ^ 64
  ordered : ((link side).published ++ packets.flatten).Sublist (link !side).sent
  arrived : (link side).clientSocket.connected →
    (link side).clientSocket.incoming = packets.flatMap (encodePacket serializer)
  drained : (link side).clientSocket.outgoing = []

/-- Both directions of the connection are aligned. -/
def AllAligned (link : Bool → TcpCodelet Item) : Prop :=
  ∀ side, ∃ packets, Aligned serializer link side packets

section Runs

variable {serializer} {step : TcpTick Item} {packets : List (List (TcpMessage Item))}

theorem exchange_self (link : Bool → TcpCodelet Item) (side : Bool) (codelet : TcpCodelet Item) :
    exchange link side codelet side =
      { codelet with clientSocket := { codelet.clientSocket with outgoing := [] } } :=
  if_pos rfl

theorem exchange_other (link : Bool → TcpCodelet Item) (side : Bool) (codelet : TcpCodelet Item) :
    exchange link side codelet (!side) =
      { link !side with clientSocket := { (link !side).clientSocket with
          incoming := (link !side).clientSocket.incoming ++ codelet.clientSocket.outgoing } } :=
  if_neg (by cases side <;> exact Bool.noConfusion)

theorem aligned_self {link : Bool → TcpCodelet Item} {side : Bool}
    (aligned : Aligned serializer link side packets)
    (clean : Clean serializer (link side) step) :
    ∃ rest, Aligned serializer
      (exchange link side ((link side).tick serializer step).1) side rest := by
  obtain ⟨rest, suffix, ordered, arrived⟩ := tick_arrives clean aligned.small aligned.arrived rfl
  refine ⟨rest, fun packet member => aligned.small packet (suffix.subset member), ?_, ?_, ?_⟩
  · rw [exchange_self, exchange_other]
    exact ordered.trans aligned.ordered
  · rw [exchange_self]
    exact arrived
  · rw [exchange_self]

theorem aligned_other {link : Bool → TcpCodelet Item} {side : Bool}
    {otherPackets : List (List (TcpMessage Item))}
    (aligned : Aligned serializer link (!side) otherPackets)
    (here : Aligned serializer link side packets) (clean : Clean serializer (link side) step) :
    ∃ next, Aligned serializer
      (exchange link side ((link side).tick serializer step).1) (!side) next := by
  obtain ⟨sent, leaves⟩ := tick_leaves clean here.small here.arrived rfl
  have ordered := aligned.ordered
  rw [Bool.not_not] at ordered
  rw [here.drained, List.nil_append] at leaves
  obtain nothing | packet := leaves
  · refine ⟨otherPackets, aligned.small, ?_, ?_, ?_⟩
    · rw [exchange_other, Bool.not_not, exchange_self]
      dsimp only
      rw [sent]
      exact ordered.trans (List.sublist_append_left _ _)
    · rw [exchange_other, nothing, List.append_nil]
      exact aligned.arrived
    · rw [exchange_other]
      exact aligned.drained
  · refine ⟨otherPackets ++ [step.received.map Prod.fst], ?_, ?_, ?_, ?_⟩
    · refine List.forall_mem_append.mpr ⟨aligned.small, List.forall_mem_singleton.mpr ?_⟩
      rw [List.length_map]
      exact step.small
    · rw [exchange_other, Bool.not_not, exchange_self]
      dsimp only
      rw [sent, List.flatten_append, List.flatten_singleton, ← List.append_assoc]
      exact ordered.append (.refl _)
    · rw [exchange_other, packet, List.flatMap_append, List.flatMap_singleton]
      exact fun connected => congrArg (· ++ _) (aligned.arrived connected)
    · rw [exchange_other]
      exact aligned.drained

theorem step_aligned (link : Bool → TcpCodelet Item) (op : TcpOp Item)
    (aligned : AllAligned serializer link) (clean : CleanOp serializer link op) :
    AllAligned serializer ((system serializer).step link op).1 := by
  cases op with
  | reconnect =>
      intro side
      obtain ⟨packets, here⟩ := aligned side
      refine ⟨[], List.forall_mem_nil _, ?_, fun _ => rfl, rfl⟩
      exact ((List.nil_sublist _).append_left _).trans here.ordered
  | tick side step =>
      rw [system]
      dsimp only
      split
      case isTrue => exact aligned
      case isFalse running =>
        have clean := clean.resolve_left running
        obtain ⟨packets, here⟩ := aligned side
        intro other
        by_cases same : other = side
        · rw [same]
          exact aligned_self here clean
        · obtain ⟨otherPackets, there⟩ := aligned other
          obtain rfl := Bool.eq_not_of_ne same
          exact aligned_other there here clean

/-- Failures may close the connection or leave whole packets out.  Then a side publishes, on
their channels and in order, messages that the other side sent, none twice, and as long as it
is connected it reads the next packet from a packet's first byte. -/
theorem stream_aligned (serializer : StreamSerializer Item) (maximumAttempts : Bool → Nat)
    (channelMap : Bool → UInt64 → Option Bool) {ops : List (TcpOp Item)}
    (clean : (system serializer).Along (CleanOp serializer) (initial maximumAttempts channelMap)
      ops) (side : Bool) :
    let link := (system serializer).run (initial maximumAttempts channelMap) ops
    (link side).published.Sublist (link !side).sent ∧ ((link side).clientSocket.connected →
        ∃ packets : List (List (TcpMessage Item)),
          (link side).clientSocket.incoming = packets.flatMap (encodePacket serializer)) := by
  intro link
  have start : AllAligned serializer (initial maximumAttempts channelMap) :=
    fun side => ⟨[], List.forall_mem_nil _, .slnil, nofun, rfl⟩
  have aligned : AllAligned serializer link := System.invariant_run step_aligned start clean
  obtain ⟨packets, here⟩ := aligned side
  exact ⟨(List.sublist_append_left _ _).trans here.ordered,
    fun connected => ⟨packets, here.arrived connected⟩⟩

end Runs

def byteStream : StreamSerializer UInt8 where
  pieces item := [[item]]
  reading := .read 1 fun
    | [byte] => .done (.ok byte)
    | _ => .done (.error .GXF_FAILURE)
  run_pieces item left := by simp [Reading.run]

/-- A packet is received in parts. -/
def partly : List (TcpOp UInt8) := [.reconnect, .tick false
      { received := [(⟨3, 5⟩, none)], sends := [some 16, some 8, some 1], small := by decide },
    .tick true
      { available := true, recvs := [some 10, some 6, some 8, some 1], small := by decide }]

theorem partly_clean :
    (system byteStream).Along (CleanOp byteStream) (initial (fun _ => 2) fun _ _ => some true)
      partly := by
  refine ⟨trivial, .inr ⟨nofun, fun _ _ => .inl ⟨?_, [], ?_⟩, .inl rfl⟩,
    .inr ⟨fun _ _ _ => .inl ?_, nofun, .inl rfl⟩, trivial⟩
  · exact List.forall_mem_singleton.mpr rfl
  · exact .cons (.last le_rfl) (.cons (.last le_rfl) (.cons (.last le_rfl) .nil))
  · refine ⟨rfl, rfl, List.cons_ne_nil _ _, fun _ => rfl, [], ?_⟩
    have first : Serves 1 2 16 [some 10, some 6, some 8, some 1] [some 8, some 1] :=
      .part (by decide) (by decide) (.last le_rfl)
    exact .cons first (.cons (.last le_rfl) (.cons (.last le_rfl) .nil))

theorem stream_aligned_partly :
    let link := (system byteStream).run (initial (fun _ => 2) fun _ _ => some true) partly
    (link true).published.Sublist (link !true).sent ∧ ((link true).clientSocket.connected →
        ∃ packets : List (List (TcpMessage UInt8)),
          (link true).clientSocket.incoming = packets.flatMap (encodePacket byteStream)) :=
  stream_aligned byteStream (fun _ => 2) (fun _ _ => some true) partly_clean true

/-- A serializer fails after a header is sent, and the next packet is sent. -/
def halfSent : List (TcpOp UInt8) := [.reconnect, .tick false
      { received := [(⟨3, 5⟩, some (0, .GXF_FAILURE))], sends := [some 16, some 8],
        small := by decide },
    .tick false
      { received := [(⟨3, 7⟩, none)], sends := [some 16, some 8, some 1], small := by decide },
    .tick true { available := true, recvs := [some 16, some 8, some 1], small := by decide }]

theorem half_sent_shifts : ¬ ∀ (ops : List (TcpOp UInt8)) (side : Bool),
      let link := (system byteStream).run (initial (fun _ => 1) fun _ _ => some true) ops
      (link side).published.Sublist (link !side).sent := by
  intro ordered
  have shifted : (⟨3, 0⟩ : TcpMessage UInt8) ∈ [(⟨3, 5⟩ : TcpMessage UInt8), ⟨3, 7⟩] :=
    (ordered halfSent true).subset List.mem_cons_self
  exact absurd shifted (by decide)

end TcpCodelet

end Gxf.Network
