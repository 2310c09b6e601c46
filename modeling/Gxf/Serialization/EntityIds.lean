import Gxf.Core.EntityHandle
import Gxf.Serialization.Endpoint

/-!
# Entities sent as their ids

Inside a context an entity is sent as its id alone.  The sender counts a reference for the header
before it writes it, and the receiver takes this reference over for the handle that it returns.  So
the count of an entity stands for its handles and for the headers under way.  An error of the
endpoint is not handled on either side.
-/

namespace Gxf.Serialization.StdEntityIdSerializer

open Gxf.Core Gxf.Lib Gxf.Std

/-- `EntityHeader`.  On a machine with the least significant byte first, the conversions of the byte
order change nothing. -/
structure EntityHeader where
  entityId : UInt64
  sequenceNumber : UInt64

/-- The packed layout of a header. -/
def entityHeader : Format EntityHeader :=
  (Format.uint64.pair Format.uint64).via (fun header => (header.entityId, header.sequenceNumber))
    (fun fields => ⟨fields.1, fields.2⟩) fun _ => rfl

/-- The id in a header, as `gxf_uid_t`. -/
def EntityHeader.eid (header : EntityHeader) : Uid := header.entityId.toInt64.toInt

/-- The entities of a context, the handles that name them, and an endpoint with a serializer. -/
structure Exchange (Context Parameters : Type) where
  runtime : Runtime Parameters
  handles : List (EntityHandle Context)
  channel : Channel
  outgoingSequenceNumber : UInt64 := 0
  incomingSequenceNumber : UInt64 := 0

/-- Calls of the serializer, each with the answers of the endpoint, and what else happens to
handles. -/
inductive Op where
  | create
  | copy (index : Nat)
  | destroy (index : Nat) (teardown : Uid → Teardown)
  | serialize (endpoint : Option Machine) (eid : Int64)
  | deserialize (endpoint : Option Machine) (teardown : Uid → Teardown)

namespace Exchange

variable {Context Parameters : Type}

/-- `serialize_entity_abi(eid, endpoint, size)`, where `size` is never null. -/
def serializeEntity (endpoint : Option Machine) (eid : Int64)
    (exchange : Exchange Context Parameters) :
    Exchange Context Parameters × Outcome GxfResult Nat :=
  match endpoint with
  | none => (exchange, .error .GXF_ARGUMENT_NULL)
  | some machine =>
      let counted : Exchange Context Parameters :=
        { exchange with
          runtime := (exchange.runtime.entityRefCountInc eid.toInt).1
          outgoingSequenceNumber := exchange.outgoingSequenceNumber + 1 }
      match machine.writeTrivialType entityHeader ⟨eid.toUInt64, exchange.outgoingSequenceNumber⟩
        exchange.channel with
      | .ok (_, channel) => ({ counted with channel }, .ok entityHeader.width)
      | .error code => (counted, .error code)
      | .aborted => (counted, .aborted)
      | .undefined => (counted, .undefined)

/-- `deserialize_entity_header_abi(endpoint)`.  The header is taken out of the result of the read
also if this is an error.  A sequence number that does not match is only logged. -/
def deserializeEntityHeader (context : Context) (endpoint : Option Machine)
    (teardown : Uid → Teardown) (exchange : Exchange Context Parameters) :
    Exchange Context Parameters × Outcome GxfResult (EntityHandle Context) :=
  match endpoint with
  | none => (exchange, .error .GXF_ARGUMENT_NULL)
  | some machine =>
      match machine.readTrivialType entityHeader exchange.channel with
      | .ok (header, channel) =>
          let (shared, maybeEntity) :=
            EntityHandle.shared exchange.runtime (some context) header.eid
          let next : Exchange Context Parameters :=
            { exchange with
              runtime := (shared.entityRefCountDec header.eid (teardown header.eid)).1
              channel
              incomingSequenceNumber := exchange.incomingSequenceNumber + 1 }
          match maybeEntity with
          | .ok entity => ({ next with handles := entity :: next.handles }, .ok entity)
          | .error code => (next, .error code)
      | .error _ => (exchange, .aborted)
      | .aborted => (exchange, .aborted)
      | .undefined => (exchange, .undefined)

/-- The state after a call. -/
def apply (context : Context) (exchange : Exchange Context Parameters) :
    Op → Exchange Context Parameters
  | .create =>
      match EntityHandle.new exchange.runtime context with
      | (runtime, .ok entity) => { exchange with runtime, handles := entity :: exchange.handles }
      | (runtime, .error _) => { exchange with runtime }
  | .copy index =>
      match exchange.handles[index]? with
      | none => exchange
      | some other =>
          let (runtime, entity) := EntityHandle.copy exchange.runtime other
          { exchange with runtime, handles := entity :: exchange.handles }
  | .destroy index teardown =>
      match exchange.handles[index]? with
      | none => exchange
      | some entity =>
          { exchange with
            runtime := EntityHandle.destroy teardown exchange.runtime entity
            handles := exchange.handles.eraseIdx index }
  | .serialize endpoint eid => (exchange.serializeEntity endpoint eid).1
  | .deserialize endpoint teardown =>
      (exchange.deserializeEntityHeader context endpoint teardown).1

end Exchange

variable {Context Parameters : Type}

/-- Exchanges under calls. -/
def exchanges (context : Context) : System (Exchange Context Parameters) Op Unit where
  step exchange op := (exchange.apply context op, ())

theorem width_pos : 0 < entityHeader.width := by decide

/-- The complete headers among some bytes, oldest first. -/
def headersOf (content : List UInt8) : List EntityHeader :=
  if content.length < entityHeader.width then []
  else entityHeader.decode content :: headersOf (content.drop entityHeader.width)
termination_by content.length
decreasing_by
  rw [List.length_drop]
  have positive := width_pos
  omega

/-- The number of headers that name an entity. -/
def naming (headers : List EntityHeader) (eid : Uid) : Nat :=
  headers.countP fun header => header.eid = eid

/-- The count of every entity stands for its handles and for the headers under way. -/
def Balanced (exchange : Exchange Context Parameters) : Prop :=
  ∀ eid ≠ kNullUid, EntityHandle.Counts exchange.runtime eid
    (EntityHandle.naming exchange.handles eid + naming (headersOf exchange.channel.content) eid)

/-- An error of the endpoint is returned. -/
def Reports (context : Context) (exchange : Exchange Context Parameters) : Op → Prop
  | .serialize (some machine) eid =>
      ∀ code, machine.ioError exchange.channel.calls = some code →
        (exchange.serializeEntity (some machine) eid).2 = .error code
  | .deserialize (some machine) teardown =>
      ∀ code, machine.ioError exchange.channel.calls = some code →
        (exchange.deserializeEntityHeader context (some machine) teardown).2 = .error code
  | _ => True

/-- What is asked of a step: the errors are returned, and the counts are right afterwards. -/
def Sound (context : Context) (exchange : Exchange Context Parameters) (op : Op) : Prop :=
  Reports context exchange op ∧ Balanced (exchange.apply context op)

/-- The endpoint transfers a complete header. -/
def Completes (exchange : Exchange Context Parameters) : Op → Prop
  | .serialize (some machine) _ =>
      machine.ioError exchange.channel.calls = none ∧
        entityHeader.width ≤ machine.stored exchange.channel.calls entityHeader.width
  | .deserialize (some machine) _ =>
      machine.ioError exchange.channel.calls = none ∧
        entityHeader.width ≤ exchange.channel.content.length
  | _ => True

/-- The bytes of some headers. -/
def encoded (headers : List EntityHeader) : List UInt8 := headers.flatMap entityHeader.encode

section Headers

variable {headers : List EntityHeader} {eid : Uid}

theorem encoded_cons (header : EntityHeader) (headers : List EntityHeader) :
    encoded (header :: headers) = entityHeader.encode header ++ encoded headers :=
  List.flatMap_cons

theorem headersOf_encoded (headers : List EntityHeader) :
    headersOf (encoded headers) = headers := by
  induction headers with
  | nil =>
      rw [headersOf]
      exact if_pos width_pos
  | cons header headers ih =>
      have long : ¬(entityHeader.encode header ++ encoded headers).length < entityHeader.width := by
        rw [List.length_append, entityHeader.length_encode]
        exact Nat.not_lt.mpr (Nat.le_add_right _ _)
      have rest : (entityHeader.encode header ++ encoded headers).drop entityHeader.width =
          encoded headers :=
        List.drop_left' (entityHeader.length_encode header)
      rw [encoded_cons, headersOf, if_neg long, entityHeader.decode_encode, rest, ih]

theorem encoded_append (headers : List EntityHeader) (header : EntityHeader) :
    encoded (headers ++ [header]) = encoded headers ++ entityHeader.encode header := by
  rw [encoded, List.flatMap_append, List.flatMap_singleton]
  rfl

theorem naming_append (headers : List EntityHeader) (header : EntityHeader) (eid : Uid) :
    naming (headers ++ [header]) eid = naming headers eid + if header.eid = eid then 1 else 0 := by
  rw [naming, List.countP_append, List.countP_singleton, naming]
  simp only [decide_eq_true_eq]

theorem naming_cons (header : EntityHeader) (headers : List EntityHeader) (eid : Uid) :
    naming (header :: headers) eid = naming headers eid + if header.eid = eid then 1 else 0 := by
  rw [naming, List.countP_cons, naming]
  simp only [decide_eq_true_eq]

theorem eid_sent (eid : Int64) (sequenceNumber : UInt64) :
    EntityHeader.eid ⟨eid.toUInt64, sequenceNumber⟩ = eid.toInt :=
  rfl

end Headers

/-! ## Steps -/

section Steps

variable {context : Context} {exchange : Exchange Context Parameters}
  {headers : List EntityHeader} {machine : Machine}

/-- What holds in every state of a run: the endpoint holds complete headers, and the counts are
right. -/
structure Settled (exchange : Exchange Context Parameters) (headers : List EntityHeader) :
    Prop where
  content : exchange.channel.content = encoded headers
  counts : ∀ eid ≠ kNullUid, EntityHandle.Counts exchange.runtime eid
    (EntityHandle.naming exchange.handles eid + naming headers eid)

theorem settled_iff (content : exchange.channel.content = encoded headers) :
    Settled exchange headers ↔ Balanced exchange := by
  have same : headersOf exchange.channel.content = headers := by
    rw [content, headersOf_encoded]
  constructor
  · intro settled
    rw [Balanced, same]
    exact settled.counts
  · intro balanced
    rw [Balanced, same] at balanced
    exact ⟨content, balanced⟩

theorem naming_handles_cons (entity : EntityHandle Context)
    (handles : List (EntityHandle Context)) (eid : Uid) :
    EntityHandle.naming (entity :: handles) eid =
      EntityHandle.naming handles eid + entity.names eid := by
  rw [EntityHandle.naming, List.map_cons, List.sum_cons, Nat.add_comm]
  rfl

theorem naming_handles_eraseIdx {handles : List (EntityHandle Context)} {index : Nat}
    {entity : EntityHandle Context} (found : handles[index]? = some entity) (eid : Uid) :
    EntityHandle.naming handles eid =
      EntityHandle.naming (handles.eraseIdx index) eid + entity.names eid := by
  obtain ⟨inRange, rfl⟩ := List.getElem?_eq_some_iff.mp found
  have perm := List.getElem_cons_eraseIdx_perm inRange
  rw [← naming_handles_cons, EntityHandle.naming, EntityHandle.naming]
  exact ((perm.map _).sum_eq).symm

theorem writeTrivialType_eq {header : EntityHeader} {channel : Channel}
    (works : machine.ioError channel.calls = none)
    (all : entityHeader.width ≤ machine.stored channel.calls entityHeader.width) :
    machine.writeTrivialType entityHeader header channel = .ok (entityHeader.width,
        { channel.tick with content := channel.content ++ entityHeader.encode header }) := by
  rw [Machine.writeTrivialType, Machine.write, works]
  dsimp only
  rw [entityHeader.length_encode, Nat.min_eq_right all,
    List.take_of_length_le (entityHeader.length_encode header).le]

section

variable (settled : Settled exchange headers)
include settled

theorem Settled.create : Settled (exchange.apply context .create) headers := by
  have rule (eid : Uid) (real : eid ≠ kNullUid) := (settled.counts eid real).new context
  rw [Exchange.apply]
  cases made : EntityHandle.new exchange.runtime context with
  | mk runtime result =>
      rw [made] at rule
      cases result with
      | error code => exact ⟨settled.content, fun eid real => (rule eid real).2 code rfl⟩
      | ok entity =>
          refine ⟨settled.content, fun eid real => ?_⟩
          have counts := (rule eid real).1 entity rfl
          rwa [Nat.add_right_comm, ← naming_handles_cons] at counts

theorem Settled.copy (index : Nat) : Settled (exchange.apply context (.copy index)) headers := by
  rw [Exchange.apply]
  cases found : exchange.handles[index]? with
  | none => exact settled
  | some other =>
      refine ⟨settled.content, fun eid real => ?_⟩
      have counts := (settled.counts eid real).copy real other
      rw [Nat.add_right_comm, ← naming_handles_cons] at counts
      exact counts

theorem Settled.destroy (index : Nat) (teardown : Uid → Teardown) :
    Settled (exchange.apply context (.destroy index teardown)) headers := by
  rw [Exchange.apply]
  cases found : exchange.handles[index]? with
  | none => exact settled
  | some entity =>
      refine ⟨settled.content, fun eid real => ?_⟩
      have counts := settled.counts eid real
      rw [naming_handles_eraseIdx found, Nat.add_right_comm] at counts
      exact counts.destroy real

theorem Settled.serialize (eid : Int64)
    (completes : Completes exchange (.serialize (some machine) eid)) :
    Settled (exchange.apply context (.serialize (some machine) eid))
      (headers ++ [⟨eid.toUInt64, exchange.outgoingSequenceNumber⟩]) := by
  obtain ⟨works, all⟩ := completes
  rw [Exchange.apply, Exchange.serializeEntity]
  dsimp only
  rw [writeTrivialType_eq works all]
  refine ⟨?_, fun other real => ?_⟩
  · rw [encoded_append, ← settled.content]
  · rw [naming_append, eid_sent, ← Nat.add_assoc]
    exact (settled.counts other real).inc eid.toInt

theorem Settled.deserialize (teardown : Uid → Teardown)
    (completes : Completes exchange (.deserialize (some machine) teardown)) :
    Settled (exchange.apply context (.deserialize (some machine) teardown)) headers.tail := by
  obtain ⟨works, complete⟩ := completes
  cases headers with
  | nil =>
      rw [settled.content] at complete
      exact absurd complete (Nat.not_le.mpr width_pos)
  | cons header headers =>
      have content := settled.content
      rw [encoded_cons] at content
      have rest : exchange.channel.content.drop entityHeader.width = encoded headers := by
        rw [content, List.drop_left' (entityHeader.length_encode header)]
      rw [Exchange.apply, Exchange.deserializeEntityHeader]
      dsimp only
      rw [Machine.readTrivialType_shows works entityHeader header
        (Machine.shows_of_content content)]
      refine ⟨rest, fun eid real => ?_⟩
      have counts := settled.counts eid real
      rw [naming_cons, ← Nat.add_assoc] at counts
      have shared := counts.inc header.eid
      have given : EntityHandle.Counts
          ((exchange.runtime.entityRefCountInc header.eid).1.entityRefCountDec header.eid
            (teardown header.eid)).1 eid
          (EntityHandle.naming (EntityHandle.own context header.eid :: exchange.handles) eid +
            naming headers eid) := by
        rw [naming_handles_cons, Nat.add_right_comm]
        exact shared.dec
      exact given

theorem settled_apply {op : Op}
    (completes : Completes exchange op) : ∃ next, Settled (exchange.apply context op) next := by
  cases op with
  | create => exact ⟨_, settled.create⟩
  | copy index => exact ⟨_, settled.copy index⟩
  | destroy index teardown => exact ⟨_, settled.destroy index teardown⟩
  | serialize endpoint eid =>
      cases endpoint with
      | none => exact ⟨_, settled⟩
      | some machine => exact ⟨_, settled.serialize eid completes⟩
  | deserialize endpoint teardown =>
      cases endpoint with
      | none => exact ⟨_, settled⟩
      | some machine => exact ⟨_, settled.deserialize teardown completes⟩

end

theorem reports_of_completes {op : Op} (completes : Completes exchange op) :
    Reports context exchange op := by
  cases op with
  | create | copy | destroy => trivial
  | serialize endpoint eid =>
      cases endpoint with
      | none => trivial
      | some machine =>
          intro code fails
          cases completes.1.symm.trans fails
  | deserialize endpoint teardown =>
      cases endpoint with
      | none => trivial
      | some machine =>
          intro code fails
          cases completes.1.symm.trans fails

end Steps

/-- In every run from an exchange with complete headers and right counts: as long as every transfer
is complete, the counts stay right, and nothing is left unreported. -/
theorem run_sound (context : Context) (exchange : Exchange Context Parameters)
    (headers : List EntityHeader) (ops : List Op)
    (content : exchange.channel.content = encoded headers) (balanced : Balanced exchange)
    (completes : (exchanges context).Along Completes exchange ops) :
    (exchanges context).Along (Sound context) exchange ops := by
  have preserved (exchange : Exchange Context Parameters) (op : Op)
      (settled : ∃ headers, Settled exchange headers) (completes : Completes exchange op) :
      ∃ headers, Settled (exchange.apply context op) headers := by
    obtain ⟨headers, settled⟩ := settled
    exact settled_apply settled completes
  refine System.along_of_invariant preserved ?_ ⟨headers, (settled_iff content).mpr balanced⟩
    completes
  intro exchange op settled completes
  obtain ⟨next, settledNext⟩ := preserved exchange op settled completes
  exact ⟨reports_of_completes completes, (settled_iff settledNext.content).mp settledNext⟩

/-- An endpoint that transfers all bytes, or fails. -/
def fifo (ioError : Option GxfResult) : Machine where
  ioError _ := ioError
  stored _ size := size
  memory _ := 0
  allocation _ _ _ := .ok 16
  release _ := .ok ()
  copies _ := true
  holdsString _ := true
  attributes _ := none

/-- No component is in the way of a destruction. -/
def freely (_ : Uid) : Teardown :=
  ⟨⟨fun _ => .GXF_SUCCESS, fun _ => .GXF_SUCCESS⟩, fun _ _ => .ok ()⟩

/-- A context without entities, and nothing under way. -/
def quiet : Exchange Unit Unit where
  runtime := Runtime.initial Unit 1 2
  handles := []
  channel := ⟨[], 0, 0⟩

theorem balanced_quiet : Balanced quiet :=
  have settled : Settled quiet [] := ⟨rfl, fun _ _ => rfl⟩
  (settled_iff rfl).mp settled

/-- The sender gives up its handle before the header is read. -/
theorem sound_handover : (exchanges ()).Along (Sound ()) quiet
      [.create, .serialize (some (fifo none)) 2, .destroy 0 freely,
        .deserialize (some (fifo none)) freely] :=
  run_sound () quiet [] _ rfl balanced_quiet
    ⟨trivial, ⟨rfl, Nat.le_refl _⟩, trivial, ⟨rfl, by decide⟩, trivial⟩

/-- The reference that is counted for a header stays when the header is not written. -/
theorem failed_write_leaks :
    ¬∀ (exchange : Exchange Unit Unit) (headers : List EntityHeader) (ops : List Op),
      exchange.channel.content = encoded headers → Balanced exchange →
        (exchanges ()).Along (Sound ()) exchange ops := by
  intro claim
  have sound := claim quiet [] [.create, .serialize (some (fifo (some .GXF_FAILURE))) 2] rfl
    balanced_quiet
  have balanced := sound.2.1.2 2 (by decide)
  have counted : (2 : Int) = ((1 + naming (headersOf []) 2 : Nat) : Int) := balanced
  have none : headersOf [] = [] := headersOf_encoded []
  rw [none] at counted
  exact absurd counted (by decide)

end Gxf.Serialization.StdEntityIdSerializer
