import Gxf.Core.Result
import Gxf.Lib.Wire

/-!
# Messages on a TCP connection

A packet is a header with the number of its messages, followed by the messages: a channel and
an entity each.  A connection transfers parts of what is asked for, or nothing.  The module
gives the calls of a socket and says when they transfer whole packets.
-/

namespace Gxf.Network

open Gxf.Core Gxf.Lib

/-- `TcpClientSocket`, with the bytes that arrived, the bytes that left, and what `send` and
`recv` answer next: an error, or the most bytes that the call transfers. -/
structure TcpClientSocket where
  connected : Bool := false
  maximumAttempts : Nat := 1
  incoming : List UInt8 := []
  outgoing : List UInt8 := []
  sends : List (Option Nat) := []
  recvs : List (Option Nat) := []

/-- Procedures on a socket.  A procedure that fails leaves the socket as it is by then. -/
abbrev SocketM := EStateM GxfResult TcpClientSocket

namespace SocketM

variable {Result Next : Type} {first : SocketM Result} {continuation : Result → SocketM Next}
  {socket next : TcpClientSocket} {result : Result} {code : GxfResult}

theorem bind_ok (ends : first socket = .ok result next) :
    (first >>= continuation) socket = continuation result next := by
  simp only [bind, EStateM.bind, ends]

theorem bind_error (ends : first socket = .error code next) :
    (first >>= continuation) socket = .error code next := by
  simp only [bind, EStateM.bind, ends]

end SocketM

/-- `send(fd, data, size, flags)`. -/
def send (data : List UInt8) : SocketM Nat := fun socket =>
  match socket.sends with
  | [] => .error .GXF_FAILURE socket
  | none :: sends => .error .GXF_FAILURE { socket with sends }
  | some count :: sends =>
      .ok (min count data.length)
        { socket with sends, outgoing := socket.outgoing ++ data.take count }

/-- `recv(fd, data, size, flags)`.  It returns no bytes once the peer closed the connection. -/
def recv (size : Nat) : SocketM (List UInt8) := fun socket =>
  match socket.recvs with
  | [] => .error .GXF_FAILURE socket
  | none :: recvs => .error .GXF_FAILURE { socket with recvs }
  | some count :: recvs =>
      .ok (socket.incoming.take (min count size))
        { socket with recvs, incoming := socket.incoming.drop (min count size) }

/-- The loop of `write_abi(data, size, bytes_written)`. -/
def sendLoop : (attempts : Nat) → (data : List UInt8) → SocketM Unit
  | 0, _ => throw .GXF_FAILURE
  | attempts + 1, data => do
      let bytes ← send data
      if bytes = data.length then pure () else sendLoop attempts (data.drop bytes)

/-- `write_abi(data, size, bytes_written)` for data in valid memory. -/
def writeAbi (data : List UInt8) : SocketM Unit := fun socket =>
  if socket.connected then sendLoop socket.maximumAttempts data socket
  else .error .GXF_FAILURE socket

/-- The peer closed the connection. -/
def disconnected : SocketM (List UInt8) := fun socket =>
  .error .GXF_CONNECTION_BROKEN { socket with connected := false }

/-- The loop of `read_abi(data, size, bytes_read)`. -/
def recvLoop : (attempts size : Nat) → SocketM (List UInt8)
  | 0, _ => throw .GXF_FAILURE
  | attempts + 1, size => do
      let bytes ← recv size
      if bytes.length = 0 then disconnected
      else if bytes.length = size then pure bytes
      else
        let rest ← recvLoop attempts (size - bytes.length)
        pure (bytes ++ rest)

/-- `read_abi(data, size, bytes_read)` into valid memory. -/
def readAbi (size : Nat) : SocketM (List UInt8) := fun socket =>
  if socket.connected then
    if size = 0 then .ok [] socket else recvLoop socket.maximumAttempts size socket
  else .error .GXF_FAILURE socket

/-! ## Packets -/

/-- `TcpHeader`. -/
structure TcpHeader where
  payloadSize : UInt64
  entityCount : UInt64

/-- `TcpMessage`: the channel that its header names, and the entity. -/
structure TcpMessage (Item : Type) where
  channelId : UInt64
  entity : Item
  deriving DecidableEq

/-- Both numbers of a `TcpHeader`, in little endian. -/
def TcpHeader.format : Format TcpHeader :=
  (Format.uint64.pair Format.uint64).via (fun header => (header.payloadSize, header.entityCount))
    (fun numbers => ⟨numbers.1, numbers.2⟩) fun _ => rfl

/-- What a deserializer does: it reads some bytes after others, and ends. -/
inductive Reading (Item : Type) where
  | done (result : Except GxfResult Item)
  | read (size : Nat) (next : List UInt8 → Reading Item)

/-- How serializing or deserializing an entity fails by itself: with a code, after it wrote or
read so often. -/
abbrev Refusal := Option (Nat × GxfResult)

namespace Reading

variable {Item : Type}

/-- The outcome when all bytes arrive, with the bytes that are left. -/
def run : Reading Item → List UInt8 → Option (Except GxfResult Item × List UInt8)
  | .done result, bytes => some (result, bytes)
  | .read size next, bytes =>
      if size ≤ bytes.length then run (next (bytes.take size)) (bytes.drop size) else none

/-- The sizes that are read when all bytes arrive. -/
def sizes : Reading Item → List UInt8 → List Nat
  | .done _, _ => []
  | .read size next, bytes =>
      (if size = 0 then [] else [size]) ++ sizes (next (bytes.take size)) (bytes.drop size)

/-- The bytes left when all bytes arrive. -/
def rest : Reading Item → List UInt8 → List UInt8
  | .done _, bytes => bytes
  | .read size next, bytes => rest (next (bytes.take size)) (bytes.drop size)

theorem rest_of_run {reading : Reading Item} {bytes left : List UInt8}
    {result : Except GxfResult Item} (ends : reading.run bytes = some (result, left)) :
    reading.rest bytes = left := by
  induction reading generalizing bytes with
  | done other =>
      cases ends
      rfl
  | read size next ih =>
      rw [run] at ends
      split at ends
      · exact ih _ ends
      · cases ends

/-- `deserializeEntity(context, endpoint)`. -/
def perform : Reading Item → Refusal → SocketM Item
  | .done (.ok item), none => pure item
  | .done (.error code), none => throw code
  | .done _, some (_, code) => throw code
  | .read size next, none => do
      let bytes ← readAbi size
      perform (next bytes) none
  | .read _ _, some (0, code) => throw code
  | .read size next, some (count + 1, code) => do
      let bytes ← readAbi size
      perform (next bytes) (some (count, code))

end Reading

/-- An entity serializer: the pieces it writes for an entity, and how it reads one.  An entity
comes back from its pieces, in whichever parts they are read. -/
structure StreamSerializer (Item : Type) where
  pieces : Item → List (List UInt8)
  reading : Reading Item
  run_pieces : ∀ item left, reading.run ((pieces item).flatten ++ left) = some (.ok item, left)

def writePieces : List (List UInt8) → Refusal → SocketM Unit
  | [], none => pure ()
  | [], some (_, code) => throw code
  | piece :: pieces, none => do
      writeAbi piece
      writePieces pieces none
  | _ :: _, some (0, code) => throw code
  | piece :: pieces, some (count + 1, code) => do
      writeAbi piece
      writePieces pieces (some (count, code))

section Messages

variable {Item : Type} (serializer : StreamSerializer Item)

/-- `sendTcpHeader(header)`. -/
def sendTcpHeader (header : TcpHeader) : SocketM Unit := writeAbi (TcpHeader.format.encode header)

/-- `receiveTcpHeader()`. -/
def receiveTcpHeader : SocketM TcpHeader := do
  let bytes ← readAbi TcpHeader.format.width
  pure (TcpHeader.format.decode bytes)

/-- `sendMessage(message, serializer)`. -/
def sendMessage (message : TcpMessage Item) (refusal : Refusal) : SocketM Unit := do
  writeAbi (Format.uint64.encode message.channelId)
  writePieces (serializer.pieces message.entity) refusal

/-- `receiveMessage(context, serializer)`. -/
def receiveMessage (refusal : Refusal) : SocketM (TcpMessage Item) := do
  let bytes ← readAbi Format.uint64.width
  let entity ← serializer.reading.perform refusal
  pure ⟨Format.uint64.decode bytes, entity⟩

/-- The loop of `sendMessages(messages, serializer)`. -/
def sendEach : List (TcpMessage Item × Refusal) → SocketM Unit
  | [] => pure ()
  | message :: messages => do
      sendMessage serializer message.1 message.2
      sendEach messages

/-- `sendMessages(messages, serializer)`. -/
def sendMessages (messages : List (TcpMessage Item × Refusal)) : SocketM Unit := do
  sendTcpHeader ⟨0, UInt64.ofNat messages.length⟩
  sendEach serializer messages

/-- The loop of `receiveMessages(context, serializer)`. -/
def receiveEach : (count : Nat) → (refusals : Nat → Refusal) → SocketM (List (TcpMessage Item))
  | 0, _ => pure []
  | count + 1, refusals => do
      let message ← receiveMessage serializer (refusals 0)
      let messages ← receiveEach count fun index => refusals (index + 1)
      pure (message :: messages)

/-- `receiveMessages(context, serializer)`. -/
def receiveMessages (refusals : Nat → Refusal) : SocketM (List (TcpMessage Item)) := do
  let header ← receiveTcpHeader
  receiveEach serializer header.entityCount.toNat refusals

def messagePieces (message : TcpMessage Item) : List (List UInt8) :=
  Format.uint64.encode message.channelId :: serializer.pieces message.entity

def packetPieces (messages : List (TcpMessage Item)) : List (List UInt8) :=
  TcpHeader.format.encode ⟨0, UInt64.ofNat messages.length⟩ ::
    messages.flatMap (messagePieces serializer)

def encodePacket (messages : List (TcpMessage Item)) : List UInt8 :=
  (packetPieces serializer messages).flatten

def messageSizes : (count : Nat) → (bytes : List UInt8) → List Nat
  | 0, _ => []
  | count + 1, bytes =>
      Format.uint64.width :: (serializer.reading.sizes (bytes.drop Format.uint64.width) ++
        messageSizes count (serializer.reading.rest (bytes.drop Format.uint64.width)))

def packetSizes (bytes : List UInt8) : List Nat := TcpHeader.format.width ::
    messageSizes serializer (TcpHeader.format.decode bytes).entityCount.toNat
      (bytes.drop TcpHeader.format.width)

end Messages

/-- The answers let a loop of so many calls transfer so many bytes.  Every call but the last
transfers a part, of at least some size. -/
inductive Serves (least : Nat) : (attempts size : Nat) → (answers left : List (Option Nat)) → Prop
  | last {attempts size count left} : size ≤ count →
      Serves least (attempts + 1) size (some count :: left) left
  | part {attempts size count answers left} : least ≤ count → count < size →
      Serves least attempts (size - count) answers left →
      Serves least (attempts + 1) size (some count :: answers) left

/-- The answers complete one transfer after another. -/
inductive ServesAll (least attempts : Nat) : (sizes : List Nat) →
    (answers left : List (Option Nat)) → Prop
  | nil {left} : ServesAll least attempts [] left left
  | cons {size sizes answers middle left} : Serves least attempts size answers middle →
      ServesAll least attempts sizes middle left →
      ServesAll least attempts (size :: sizes) answers left

/-- A loop of calls finds the connection closed. -/
inductive Closes : (attempts size : Nat) → (answers : List (Option Nat)) → Prop
  | closed {attempts size answers} : Closes (attempts + 1) size (some 0 :: answers)
  | part {attempts size count answers} : 0 < count → count < size →
      Closes attempts (size - count) answers → Closes (attempts + 1) size (some count :: answers)

/-- One of several transfers finds the connection closed, after those before it completed. -/
inductive Breaks (attempts : Nat) : (sizes : List Nat) → (answers : List (Option Nat)) → Prop
  | here {size sizes answers} : Closes attempts size answers →
      Breaks attempts (size :: sizes) answers
  | later {size sizes answers middle} : Serves 1 attempts size answers middle →
      Breaks attempts sizes middle → Breaks attempts (size :: sizes) answers

/-- The first call fails, or there is none. -/
def Untouched (attempts : Nat) (answers : List (Option Nat)) : Prop :=
  attempts = 0 ∨ answers.head?.join = none

theorem ServesAll.split {least attempts : Nat} {before after : List Nat}
    {answers left : List (Option Nat)}
    (serves : ServesAll least attempts (before ++ after) answers left) :
    ∃ middle, ServesAll least attempts before answers middle ∧
      ServesAll least attempts after middle left := by
  induction before generalizing answers with
  | nil => exact ⟨answers, .nil, serves⟩
  | cons size before ih =>
      cases serves with
      | cons here later =>
          obtain ⟨middle, first, second⟩ := ih later
          exact ⟨middle, .cons here first, second⟩

theorem Breaks.split {attempts : Nat} {before after : List Nat} {answers : List (Option Nat)}
    (breaks : Breaks attempts (before ++ after) answers) :
    Breaks attempts before answers ∨
      ∃ middle, ServesAll 1 attempts before answers middle ∧ Breaks attempts after middle := by
  induction before generalizing answers with
  | nil => exact .inr ⟨answers, .nil, breaks⟩
  | cons size before ih =>
      cases breaks with
      | here closes => exact .inl (.here closes)
      | later here later =>
          obtain first | ⟨middle, first, second⟩ := ih later
          · exact .inl (.later here first)
          · exact .inr ⟨middle, .cons here first, second⟩

end Gxf.Network
