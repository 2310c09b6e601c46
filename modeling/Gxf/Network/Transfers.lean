import Gxf.Network.TcpClientSocket

/-!
# Whole packets are sent and received

When the answers of the machine complete every transfer, a packet leaves as a whole and is
received as a whole, in whichever parts it is transferred.
-/

namespace Gxf.Network

open Gxf.Core Gxf.Lib SocketM

variable {Item Result Next : Type} {socket : TcpClientSocket} {serializer : StreamSerializer Item}

variable {count attempts size : Nat} {left answers : List (Option Nat)}

theorem send_some (data : List UInt8) (given : socket.sends = some count :: left) :
    send data socket = .ok (min count data.length)
      { socket with sends := left, outgoing := socket.outgoing ++ data.take count } := by
  rw [send, given]

theorem sendLoop_serves {data : List UInt8}
    (serves : Serves 0 attempts size answers left) (length : data.length = size)
    (given : socket.sends = answers) :
    sendLoop attempts data socket =
      .ok () { socket with sends := left, outgoing := socket.outgoing ++ data } := by
  induction serves generalizing data socket with
  | @last attempts size count left enough =>
      have sent : send data socket =
          .ok data.length { socket with sends := left, outgoing := socket.outgoing ++ data } := by
        rw [send_some data given, Nat.min_eq_right (length ▸ enough),
          List.take_of_length_le (length ▸ enough)]
      rw [sendLoop, bind_ok sent, if_pos rfl]
      rfl
  | @part attempts size count answers left _ short serves ih =>
      have fits : count < data.length := length ▸ short
      have sent : send data socket = .ok count
            { socket with sends := answers, outgoing := socket.outgoing ++ data.take count } := by
        rw [send_some data given, Nat.min_eq_left fits.le]
      rw [sendLoop, bind_ok sent, if_neg fits.ne,
        ih (by rw [List.length_drop, length]) rfl, List.append_assoc, List.take_append_drop]

/-- The procedure writes some pieces when the machine lets it, and gives a result. -/
def Writes (procedure : SocketM Result) (result : Result) (pieces : List (List UInt8)) : Prop :=
  ∀ (socket : TcpClientSocket) (left : List (Option Nat)), socket.connected →
    ServesAll 0 socket.maximumAttempts (pieces.map List.length) socket.sends left →
    procedure socket = .ok result
      { socket with sends := left, outgoing := socket.outgoing ++ pieces.flatten }

namespace Writes

theorem pure (result : Result) : Writes (pure result) result [] := by
  intro socket left _ serves
  cases serves
  rw [List.flatten_nil, List.append_nil]
  rfl

theorem bind {first : SocketM Result} {continuation : Result → SocketM Next} {result : Result}
    {next : Next} {before after : List (List UInt8)} (begins : Writes first result before)
    (ends : Writes (continuation result) next after) :
    Writes (first >>= continuation) next (before ++ after) := by
  intro socket left connected serves
  rw [List.map_append] at serves
  obtain ⟨middle, here, later⟩ := serves.split
  rw [bind_ok (begins socket middle connected here),
    ends { socket with sends := middle, outgoing := socket.outgoing ++ before.flatten } left
      connected later, List.flatten_append, List.append_assoc]

theorem writeAbi (data : List UInt8) : Writes (writeAbi data) () [data] := by
  intro socket left connected serves
  cases serves with
  | cons here later =>
      cases later
      rw [Network.writeAbi, if_pos connected, sendLoop_serves here rfl rfl, List.flatten_singleton]

theorem writePieces (pieces : List (List UInt8)) : Writes (writePieces pieces none) () pieces := by
  induction pieces with
  | nil => exact pure ()
  | cons piece pieces ih => exact (writeAbi piece).bind ih

theorem sendMessage (message : TcpMessage Item) :
    Writes (sendMessage serializer message none) () (messagePieces serializer message) :=
  (writeAbi _).bind (writePieces _)

variable {messages : List (TcpMessage Item × Refusal)}

theorem sendEach (complete : ∀ message ∈ messages, message.2 = none) :
    Writes (sendEach serializer messages) ()
      ((messages.map Prod.fst).flatMap (messagePieces serializer)) := by
  induction messages with
  | nil => exact pure ()
  | cons message messages ih =>
      obtain ⟨here, later⟩ := List.forall_mem_cons.mp complete
      rw [Network.sendEach, here]
      exact (sendMessage message.1).bind (ih later)

theorem sendMessages (complete : ∀ message ∈ messages, message.2 = none) :
    Writes (sendMessages serializer messages) ()
      (packetPieces serializer (messages.map Prod.fst)) := by
  rw [packetPieces, List.length_map]
  exact (writeAbi _).bind (sendEach complete)

end Writes

/-! ## Receiving -/

/-- The socket has no connection any more, and the other direction is as it was. -/
def TcpClientSocket.Dropped (socket next : TcpClientSocket) : Prop :=
  next.connected = false ∧ next.maximumAttempts = socket.maximumAttempts ∧
    next.outgoing = socket.outgoing

theorem recv_some (size : Nat) (given : socket.recvs = some count :: left) :
    recv size socket = .ok (socket.incoming.take (min count size))
      { socket with recvs := left, incoming := socket.incoming.drop (min count size) } := by
  rw [recv, given]

theorem recv_part (given : socket.recvs = some count :: answers) (short : count < size)
    (arrived : size ≤ socket.incoming.length) :
    recv size socket = .ok (socket.incoming.take count)
        { socket with recvs := answers, incoming := socket.incoming.drop count } ∧
      (socket.incoming.take count).length = count := by
  rw [recv_some size given, Nat.min_eq_left short.le]
  exact ⟨rfl, List.length_take_of_le (short.le.trans arrived)⟩

theorem recvLoop_serves
    (serves : Serves 1 attempts size answers left) (given : socket.recvs = answers)
    (arrived : size ≤ socket.incoming.length) (positive : 0 < size) :
    recvLoop attempts size socket = .ok (socket.incoming.take size)
        { socket with recvs := left, incoming := socket.incoming.drop size } := by
  induction serves generalizing socket with
  | @last attempts size count left enough =>
      have received : recv size socket = .ok (socket.incoming.take size)
            { socket with recvs := left, incoming := socket.incoming.drop size } := by
        rw [recv_some size given, Nat.min_eq_right enough]
      have length : (socket.incoming.take size).length = size := List.length_take_of_le arrived
      rw [recvLoop, bind_ok received, length, if_neg positive.ne', if_pos rfl]
      rfl
  | @part attempts size count answers left some_ short serves ih =>
      obtain ⟨received, length⟩ := recv_part given short arrived
      have others := @ih { socket with recvs := answers, incoming := socket.incoming.drop count }
        rfl (by rw [List.length_drop]; omega) (by omega)
      rw [recvLoop, bind_ok received, length, if_neg (by omega), if_neg short.ne,
        bind_ok others, List.drop_drop, Nat.add_sub_cancel' short.le]
      rw [← List.take_add, Nat.add_sub_cancel' short.le]
      rfl

theorem recvLoop_closes (closes : Closes attempts size answers) (given : socket.recvs = answers)
    (arrived : size ≤ socket.incoming.length) :
    ∃ next, recvLoop attempts size socket = .error .GXF_CONNECTION_BROKEN next ∧
      socket.Dropped next := by
  induction closes generalizing socket with
  | @closed attempts size answers =>
      have received : recv size socket = .ok [] { socket with recvs := answers } := by
        rw [recv_some size given, Nat.zero_min]
        rfl
      refine ⟨{ socket with recvs := answers, connected := false }, ?_, rfl, rfl, rfl⟩
      rw [recvLoop, bind_ok received]
      rfl
  | @part attempts size count answers some_ short closes ih =>
      obtain ⟨received, length⟩ := recv_part given short arrived
      obtain ⟨next, fails, dropped⟩ :=
        @ih { socket with recvs := answers, incoming := socket.incoming.drop count } rfl
          (by rw [List.length_drop]; omega)
      refine ⟨next, ?_, dropped⟩
      rw [recvLoop, bind_ok received, length, if_neg some_.ne', if_neg short.ne,
        bind_error fails]

/-- With some bytes arrived, the procedure makes a result of them and leaves the others, or
finds the connection closed. -/
structure Reads (procedure : SocketM Result) (result : Result) (bytes rest : List UInt8)
    (sizes : List Nat) : Prop where
  completes : ∀ (socket : TcpClientSocket) (left : List (Option Nat)), socket.connected →
    socket.incoming = bytes → ServesAll 1 socket.maximumAttempts sizes socket.recvs left →
    procedure socket = .ok result { socket with recvs := left, incoming := rest }
  breaks : ∀ socket : TcpClientSocket, socket.connected → socket.incoming = bytes →
    Breaks socket.maximumAttempts sizes socket.recvs →
    ∃ code next, procedure socket = .error code next ∧ socket.Dropped next

namespace Reads

theorem pure (result : Result) (bytes : List UInt8) :
    Reads (pure result) result bytes bytes [] where
  completes socket left _ arrived serves := by
    cases serves
    rw [← arrived]
    rfl
  breaks socket _ _ breaks := nomatch breaks

variable {first : SocketM Result} {result : Result} {bytes rest : List UInt8}
  {refusals : Nat → Refusal}

theorem bind {continuation : Result → SocketM Next}
    {next : Next} {middle : List UInt8} {before after : List Nat}
    (begins : Reads first result bytes middle before)
    (ends : Reads (continuation result) next middle rest after) :
    Reads (first >>= continuation) next bytes rest (before ++ after) where
  completes socket left connected arrived serves := by
    obtain ⟨answers, here, later⟩ := serves.split
    rw [bind_ok (begins.completes socket answers connected arrived here)]
    exact ends.completes { socket with recvs := answers, incoming := middle } left connected rfl
      later
  breaks socket connected arrived breaks := by
    obtain here | ⟨answers, here, later⟩ := breaks.split
    · obtain ⟨code, next, fails, dropped⟩ := begins.breaks socket connected arrived here
      exact ⟨code, next, bind_error fails, dropped⟩
    · rw [bind_ok (begins.completes socket answers connected arrived here)]
      exact ends.breaks { socket with recvs := answers, incoming := middle } connected rfl later

theorem map
    {sizes : List Nat} (form : Result → Next) (begins : Reads first result bytes rest sizes) :
    Reads (first >>= fun result => Pure.pure (form result)) (form result) bytes rest sizes := by
  have ends : Reads (first >>= fun result => Pure.pure (form result)) (form result) bytes rest
      (sizes ++ []) := begins.bind (pure (form result) rest)
  rwa [List.append_nil] at ends

theorem readAbi {size : Nat} (arrived : size ≤ bytes.length) :
    Reads (readAbi size) (bytes.take size) bytes (bytes.drop size)
      (if size = 0 then [] else [size]) := by
  by_cases empty : size = 0
  · subst empty
    refine ⟨fun socket left connected same serves => ?_, fun socket _ _ breaks => nomatch breaks⟩
    cases serves
    rw [Network.readAbi, if_pos connected, if_pos rfl, ← same]
    rfl
  · rw [if_neg empty]
    constructor
    · intro socket left connected same serves
      cases serves with
      | cons here later =>
          cases later
          rw [Network.readAbi, if_pos connected, if_neg empty,
            recvLoop_serves here rfl (same ▸ arrived) (Nat.pos_of_ne_zero empty), same]
    · intro socket connected same breaks
      cases breaks with
      | here closes =>
          obtain ⟨next, fails, dropped⟩ := recvLoop_closes closes rfl (same ▸ arrived)
          exact ⟨_, next, by rw [Network.readAbi, if_pos connected, if_neg empty, fails], dropped⟩
      | later _ breaks => cases breaks

theorem readAbi_encode {Value : Type} (format : Format Value) (value : Value)
    (rest : List UInt8) (positive : format.width ≠ 0) :
    Reads (Network.readAbi format.width) (format.encode value) (format.encode value ++ rest) rest
      [format.width] := by
  have length := format.length_encode value
  have reads := @readAbi (format.encode value ++ rest) format.width (by simp)
  rwa [List.take_left' length, List.drop_left' length, if_neg positive] at reads

theorem perform {reading : Reading Item} {left : List UInt8} {item : Item}
    (ends : reading.run bytes = some (.ok item, left)) :
    Reads (reading.perform none) item bytes left (reading.sizes bytes) := by
  induction reading generalizing bytes with
  | done result =>
      cases ends
      exact pure item _
  | read size next ih =>
      rw [Reading.run] at ends
      split at ends
      case isTrue fits => exact (readAbi fits).bind (ih _ ends)
      case isFalse => cases ends

theorem receiveMessage (message : TcpMessage Item) (left : List UInt8) :
    Reads (receiveMessage serializer none) message
      ((messagePieces serializer message).flatten ++ left) left
      (Format.uint64.width ::
        serializer.reading.sizes ((serializer.pieces message.entity).flatten ++ left)) := by
  have entity := (perform (serializer.run_pieces message.entity left)).map
    fun entity => (⟨message.channelId, entity⟩ : TcpMessage Item)
  rw [messagePieces, List.flatten_cons, List.append_assoc]
  refine (readAbi_encode Format.uint64 message.channelId _ (by decide)).bind ?_
  rw [Format.decode_encode_self]
  exact entity

theorem messageSizes_message (message : TcpMessage Item) (count : Nat) (left : List UInt8) :
    messageSizes serializer (count + 1) ((messagePieces serializer message).flatten ++ left) =
      (Format.uint64.width ::
        serializer.reading.sizes ((serializer.pieces message.entity).flatten ++ left)) ++
        messageSizes serializer count left := by
  have skipped : (Format.uint64.encode message.channelId ++
      ((serializer.pieces message.entity).flatten ++ left)).drop Format.uint64.width =
      (serializer.pieces message.entity).flatten ++ left :=
    List.drop_left' (Format.uint64.length_encode message.channelId)
  rw [messageSizes, messagePieces, List.flatten_cons, List.append_assoc, skipped,
    Reading.rest_of_run (serializer.run_pieces message.entity left), List.cons_append]

theorem receiveEach (messages : List (TcpMessage Item)) (left : List UInt8)
    (complete : ∀ index, refusals index = none) :
    Reads (receiveEach serializer messages.length refusals) messages
      ((messages.flatMap (messagePieces serializer)).flatten ++ left) left
      (messageSizes serializer messages.length
        ((messages.flatMap (messagePieces serializer)).flatten ++ left)) := by
  induction messages generalizing refusals with
  | nil => exact pure [] left
  | cons message messages ih =>
      have later := (ih fun index => complete (index + 1)).map (message :: ·)
      rw [List.flatMap_cons, List.flatten_append, List.append_assoc, List.length_cons,
        messageSizes_message, Network.receiveEach, complete]
      exact (receiveMessage message _).bind later

theorem receiveMessages {messages : List (TcpMessage Item)} (small : messages.length < 2 ^ 64)
    (left : List UInt8) (complete : ∀ index, refusals index = none) :
    Reads (receiveMessages serializer refusals) messages
      (encodePacket serializer messages ++ left) left
      (packetSizes serializer (encodePacket serializer messages ++ left)) := by
  have count : (UInt64.ofNat messages.length).toNat = messages.length :=
    UInt64.toNat_ofNat_of_lt' small
  have each := @receiveEach _ serializer refusals messages left complete
  rw [encodePacket, packetPieces, List.flatten_cons, List.append_assoc, packetSizes,
    TcpHeader.format.decode_encode, List.drop_left' (TcpHeader.format.length_encode _), count]
  refine ((readAbi_encode TcpHeader.format _ _ (by decide)).map _).bind ?_
  rw [TcpHeader.format.decode_encode_self, count]
  exact each

end Reads

theorem sendLoop_untouched (untouched : Untouched attempts socket.sends) (data : List UInt8) :
    ∃ code sends, sendLoop attempts data socket = .error code { socket with sends } := by
  cases attempts with
  | zero => exact ⟨.GXF_FAILURE, socket.sends, rfl⟩
  | succ attempts =>
      obtain impossible | silent := untouched
      · cases impossible
      have fails : ∃ sends, send data socket = .error .GXF_FAILURE { socket with sends } := by
        rw [send]
        split
        next => exact ⟨_, rfl⟩
        next sends given => exact ⟨sends, rfl⟩
        next count sends given => simp [given] at silent
      obtain ⟨sends, fails⟩ := fails
      exact ⟨_, sends, by rw [sendLoop, bind_error fails]⟩

theorem sendMessages_idle (messages : List (TcpMessage Item × Refusal))
    (idle : ¬socket.connected ∨ Untouched socket.maximumAttempts socket.sends) :
    ∃ code sends, sendMessages serializer messages socket = .error code { socket with sends } := by
  have fails : ∃ code sends, sendTcpHeader ⟨0, UInt64.ofNat messages.length⟩ socket =
      .error code { socket with sends } := by
    rw [sendTcpHeader, writeAbi]
    split
    case isFalse => exact ⟨_, socket.sends, rfl⟩
    case isTrue connected => exact sendLoop_untouched (idle.resolve_left (not_not.mpr connected)) _
  obtain ⟨code, sends, fails⟩ := fails
  exact ⟨code, sends, bind_error fails⟩

theorem recvLoop_untouched (untouched : Untouched attempts socket.recvs) (size : Nat) :
    ∃ code recvs, recvLoop attempts size socket = .error code { socket with recvs } := by
  cases attempts with
  | zero => exact ⟨.GXF_FAILURE, socket.recvs, rfl⟩
  | succ attempts =>
      obtain impossible | silent := untouched
      · cases impossible
      have fails : ∃ recvs, recv size socket = .error .GXF_FAILURE { socket with recvs } := by
        rw [recv]
        split
        next => exact ⟨_, rfl⟩
        next recvs given => exact ⟨recvs, rfl⟩
        next count recvs given => simp [given] at silent
      obtain ⟨recvs, fails⟩ := fails
      exact ⟨_, recvs, by rw [recvLoop, bind_error fails]⟩

theorem receiveMessages_idle (refusals : Nat → Refusal)
    (idle : ¬socket.connected ∨ Untouched socket.maximumAttempts socket.recvs) :
    ∃ code recvs,
      receiveMessages serializer refusals socket = .error code { socket with recvs } := by
  have fails : ∃ code recvs, readAbi TcpHeader.format.width socket =
      .error code { socket with recvs } := by
    rw [readAbi]
    split
    case isFalse => exact ⟨_, socket.recvs, rfl⟩
    case isTrue connected =>
      rw [if_neg (by decide)]
      exact recvLoop_untouched (idle.resolve_left (not_not.mpr connected)) _
  obtain ⟨code, recvs, fails⟩ := fails
  exact ⟨code, recvs, bind_error (bind_error fails)⟩

theorem recvLoop_empty (some_ : attempts ≠ 0)
    (size : Nat) (empty : socket.incoming = []) (given : socket.recvs = some count :: left) :
    recvLoop attempts size socket = .error .GXF_CONNECTION_BROKEN
      { socket with recvs := left, incoming := [], connected := false } := by
  obtain ⟨attempts, rfl⟩ := Nat.exists_eq_succ_of_ne_zero some_
  have received := recv_some size given
  rw [empty, List.take_nil, List.drop_nil] at received
  rw [recvLoop, bind_ok received]
  rfl

theorem receiveMessages_empty (refusals : Nat → Refusal) (connected : socket.connected)
    (empty : socket.incoming = []) (asked : ¬Untouched socket.maximumAttempts socket.recvs) :
    ∃ code next, receiveMessages serializer refusals socket = .error code next ∧
      socket.Dropped next := by
  obtain ⟨some_, answered⟩ := not_or.mp asked
  match given : socket.recvs with
  | [] => exact absurd (by rw [given]; rfl) answered
  | none :: recvs => exact absurd (by rw [given]; rfl) answered
  | some count :: recvs =>
      have closed := recvLoop_empty some_ TcpHeader.format.width empty given
      refine ⟨.GXF_CONNECTION_BROKEN, { socket with recvs, incoming := [], connected := false },
        bind_error (bind_error ?_), rfl, rfl, rfl⟩
      rw [readAbi, if_pos connected, if_neg (by decide), closed]

end Gxf.Network
