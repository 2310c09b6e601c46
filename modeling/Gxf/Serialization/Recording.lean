import Gxf.Lib.Run
import Gxf.Serialization.RoundTrip
import Mathlib.Data.List.Forall2

/-!
# Recording and replaying entities

The recorder appends entities to a binary file and a record for each of them to an index file.
The replayer reads both files from their beginning.  It counts the records and reads the
entities one after the other, wherever the last one ended.
-/

namespace Gxf.Serialization

open Gxf.Core Gxf.Lib Gxf.Std

/-- What a deserializer makes of the bytes that are left of a file, what it leaves, and whether
the stream is still good. -/
structure Deserialized (Item : Type) where
  result : Except GxfResult Item
  rest : List UInt8
  good : Bool

/-- An entity serializer: the bytes of an entity, and what it makes of any bytes.  An entity
comes back from its bytes. -/
structure ItemSerializer (Item : Type) where
  encode : Item → List UInt8
  deserialize : List UInt8 → Deserialized Item
  deserialize_encode : ∀ item rest, deserialize (encode item ++ rest) = ⟨.ok item, rest, true⟩

/-- `EntityIndex`. -/
structure EntityIndex where
  logTime : Nat
  dataSize : Nat
  dataOffset : Nat
  deriving DecidableEq

/-- The output side of `FileStream`.  Once it is not good, all operations fail, and what is in the
file stays there. -/
structure OutputFile (Entry : Type) where
  content : List Entry := []
  good : Bool := true

namespace OutputFile

variable {Entry Item : Type}

/-- `write(data, size)`, which may fail after it stored some of the data. -/
def write (file : OutputFile Entry) (data : List Entry) (failure : Option Nat) :
    OutputFile Entry × Except GxfResult Unit :=
  if file.good then
    match failure with
    | none => ({ file with content := file.content ++ data }, .ok ())
    | some count => (⟨file.content ++ data.take count, false⟩, .error .GXF_FAILURE)
  else (file, .error .GXF_FAILURE)

/-- `flush()`. -/
def flush (file : OutputFile Entry) (fails : Bool) : OutputFile Entry × Except GxfResult Unit :=
  if file.good && !fails then (file, .ok ())
  else ({ file with good := false }, .error .GXF_FAILURE)

end OutputFile

/-- How the serialization of an entity ends: with all its bytes, with an error of a component
serializer after some bytes, or with an error of the stream after some bytes. -/
inductive Fate where
  | completed
  | gaveUp (count : Nat) (code : GxfResult)
  | streamFailed (count : Nat)
  deriving DecidableEq

/-- A tick of the recorder: what the receiver answers, and which calls fail. -/
structure RecorderTick (Item : Type) where
  received : Except GxfResult Item
  fate : Fate := .completed
  logTime : Nat := 0
  indexFails : Bool := false
  binaryFlushFails : Bool := false
  indexFlushFails : Bool := false

/-- `EntityRecorder`. -/
structure EntityRecorder where
  binaryFileStream : OutputFile UInt8 := {}
  indexFileStream : OutputFile EntityIndex := {}
  binaryFileOffset : Nat := 0

namespace EntityRecorder

variable {Item : Type} (serializer : ItemSerializer Item) (flushOnTick : Bool)

/-- `serializeEntity(entity, endpoint)`. -/
def serializeEntity (file : OutputFile UInt8) (item : Item) (fate : Fate) :
    OutputFile UInt8 × Except GxfResult Nat :=
  if file.good then
    match fate with
    | .completed =>
        ({ file with content := file.content ++ serializer.encode item },
          .ok (serializer.encode item).length)
    | .gaveUp count code =>
        ({ file with content := file.content ++ (serializer.encode item).take count }, .error code)
    | .streamFailed count =>
        (⟨file.content ++ (serializer.encode item).take count, false⟩, .error .GXF_FAILURE)
  else (file, .error .GXF_FAILURE)

/-- The end of `tick()`. -/
def flush (recorder : EntityRecorder) (tick : RecorderTick Item) :
    EntityRecorder × Except GxfResult Unit :=
  if flushOnTick then
    let binary := recorder.binaryFileStream.flush tick.binaryFlushFails
    match binary.2 with
    | .error code => ({ recorder with binaryFileStream := binary.1 }, .error code)
    | .ok _ =>
        let index := recorder.indexFileStream.flush tick.indexFlushFails
        ({ recorder with binaryFileStream := binary.1, indexFileStream := index.1 }, index.2)
  else (recorder, .ok ())

/-- `tick()`.  A record that is stored partly is no record. -/
def tick (recorder : EntityRecorder) (tick : RecorderTick Item) :
    EntityRecorder × Except GxfResult Unit :=
  match tick.received with
  | .error code => (recorder, .error code)
  | .ok item =>
      let serialized := serializeEntity serializer recorder.binaryFileStream item tick.fate
      match serialized.2 with
      | .error code => ({ recorder with binaryFileStream := serialized.1 }, .error code)
      | .ok size =>
          let index : EntityIndex := ⟨tick.logTime, size, recorder.binaryFileOffset⟩
          let written := recorder.indexFileStream.write [index]
            (if tick.indexFails then some 0 else none)
          match written.2 with
          | .error code =>
              ({ recorder with
                binaryFileStream := serialized.1, indexFileStream := written.1 }, .error code)
          | .ok _ =>
              flush flushOnTick ⟨serialized.1, written.1, recorder.binaryFileOffset + size⟩ tick

def system : System EntityRecorder (RecorderTick Item) (Except GxfResult Unit) :=
  ⟨tick serializer flushOnTick⟩

def recorded (recorder : EntityRecorder) (tick : RecorderTick Item) : List Item :=
  match tick.received with
  | .error _ => []
  | .ok item =>
      if recorder.binaryFileStream.good ∧ tick.fate = .completed ∧
        recorder.indexFileStream.good ∧ tick.indexFails = false then [item] else []

/-- A serialization that fails leaves no bytes, unless a stream cannot be written any more. -/
def Clean (recorder : EntityRecorder) (tick : RecorderTick Item) : Prop :=
  ∀ item count code, tick.received = .ok item → tick.fate = .gaveUp count code →
    recorder.binaryFileStream.good → recorder.indexFileStream.good →
    (serializer.encode item).take count = []

end EntityRecorder

/-- A tick of the replayer: how many entities it reads, and what the transmitter answers. -/
structure ReplayerTick (Item : Type) where
  batchSize : Nat := 1
  publish : Item → Except GxfResult Unit

/-- `EntityReplayer`, with what is left of both files and what it handed to the transmitter, which
may have refused it. -/
structure EntityReplayer (Item : Type) where
  index : List EntityIndex
  content : List UInt8
  good : Bool := true
  enabled : Bool := true
  handedOver : List Item := []

namespace EntityReplayer

variable {Item : Type} (serializer : ItemSerializer Item) (ignoreCorruptedEntities : Bool)

/-- `deserializeEntity(context, endpoint)`. -/
def deserializeEntity (replayer : EntityReplayer Item) : Deserialized Item :=
  if replayer.good then serializer.deserialize replayer.content
  else ⟨.error .GXF_FAILURE, replayer.content, false⟩

/-- The loop of `tick()`, with the number of entities that are left to read. -/
def tickLoop (publish : Item → Except GxfResult Unit) :
    Nat → EntityReplayer Item → EntityReplayer Item × Except GxfResult Unit
  | 0, replayer => (replayer, .ok ())
  | left + 1, replayer =>
      match replayer.index with
      | [] => ({ replayer with enabled := false }, .ok ())
      | _ :: index =>
          let entity := replayer.deserializeEntity serializer
          let next := { replayer with index := index, content := entity.rest, good := entity.good }
          match entity.result with
          | .error code =>
              if ignoreCorruptedEntities then tickLoop publish left next else (next, .error code)
          | .ok item =>
              let publishing := { next with handedOver := next.handedOver ++ [item] }
              match publish item with
              | .error code => (publishing, .error code)
              | .ok _ => tickLoop publish left publishing

def system : System (EntityReplayer Item) (ReplayerTick Item) (Except GxfResult Unit) :=
  ⟨fun replayer tick =>
    tickLoop serializer ignoreCorruptedEntities tick.publish tick.batchSize replayer⟩

/-- `initialize()` on the files of a recorder. -/
def ofRecorder (recorder : EntityRecorder) : EntityReplayer Item where
  index := recorder.indexFileStream.content
  content := recorder.binaryFileStream.content

end EntityReplayer

/-! ## What the recorder writes -/

section Recorder

variable {Item : Type} {serializer : ItemSerializer Item} {flushOnTick : Bool}

/-- What a tick does to the files: it adds nothing to the index, and bytes to the binary file
only when one of the files cannot be written any more, or it adds an entity to both. -/
inductive Moves (serializer : ItemSerializer Item) (recorder : EntityRecorder) :
    EntityRecorder → List Item → Prop
  | kept {next : EntityRecorder} (extra : List UInt8)
      (index : next.indexFileStream.content = recorder.indexFileStream.content)
      (content : next.binaryFileStream.content = recorder.binaryFileStream.content ++ extra)
      (offset : next.binaryFileOffset = recorder.binaryFileOffset)
      (quiet : next.binaryFileStream.good → next.indexFileStream.good →
        recorder.binaryFileStream.good ∧ recorder.indexFileStream.good ∧ extra = []) :
      Moves serializer recorder next []
  | added {next : EntityRecorder} (item : Item) (logTime : Nat)
      (binaryGood : recorder.binaryFileStream.good) (indexGood : recorder.indexFileStream.good)
      (index : next.indexFileStream.content = recorder.indexFileStream.content ++
        [⟨logTime, (serializer.encode item).length, recorder.binaryFileOffset⟩])
      (content : next.binaryFileStream.content =
        recorder.binaryFileStream.content ++ serializer.encode item)
      (offset : next.binaryFileOffset =
        recorder.binaryFileOffset + (serializer.encode item).length) :
      Moves serializer recorder next [item]

theorem content_flush_file {Entry : Type} (file : OutputFile Entry) (fails : Bool) :
    (file.flush fails).1.content = file.content := by
  rw [OutputFile.flush]
  split <;> rfl

theorem content_flush (recorder : EntityRecorder) (tick : RecorderTick Item) :
    (EntityRecorder.flush flushOnTick recorder tick).1.binaryFileStream.content =
        recorder.binaryFileStream.content ∧
      (EntityRecorder.flush flushOnTick recorder tick).1.indexFileStream.content =
        recorder.indexFileStream.content ∧
      (EntityRecorder.flush flushOnTick recorder tick).1.binaryFileOffset =
        recorder.binaryFileOffset := by
  cases flushOnTick with
  | false => exact ⟨rfl, rfl, rfl⟩
  | true =>
      simp only [EntityRecorder.flush, if_true]
      cases (recorder.binaryFileStream.flush tick.binaryFlushFails).2 with
      | error code => exact ⟨content_flush_file _ _, rfl, rfl⟩
      | ok _ => exact ⟨content_flush_file _ _, content_flush_file _ _, rfl⟩

variable {recorder : EntityRecorder}

theorem tick_moves {tick : RecorderTick Item}
    (clean : EntityRecorder.Clean serializer recorder tick) :
    Moves serializer recorder (EntityRecorder.tick serializer flushOnTick recorder tick).1
      (EntityRecorder.recorded recorder tick) := by
  rw [EntityRecorder.tick, EntityRecorder.recorded]
  cases received : tick.received with
  | error code =>
      exact .kept [] rfl (List.append_nil _).symm rfl fun binary index => ⟨binary, index, rfl⟩
  | ok item =>
      by_cases binaryGood : recorder.binaryFileStream.good
      · cases fate : tick.fate with
        | gaveUp count code =>
            simp only [EntityRecorder.serializeEntity, binaryGood, if_true]
            exact .kept _ rfl rfl rfl fun binary index =>
              ⟨binaryGood, index, clean item count code received fate binaryGood index⟩
        | streamFailed count =>
            simp only [EntityRecorder.serializeEntity, binaryGood, if_true]
            exact .kept _ rfl rfl rfl nofun
        | completed =>
            by_cases indexGood : recorder.indexFileStream.good
            · cases fails : tick.indexFails with
              | true =>
                  simp only [EntityRecorder.serializeEntity, OutputFile.write, binaryGood,
                    indexGood, if_true]
                  exact .kept _ (List.append_nil _) rfl rfl nofun
              | false =>
                  simp only [EntityRecorder.serializeEntity, OutputFile.write, binaryGood,
                    indexGood, if_true, and_self, Bool.false_eq_true, if_false]
                  obtain ⟨content, index, offset⟩ := @content_flush Item flushOnTick
                    ⟨{ content := recorder.binaryFileStream.content ++ serializer.encode item },
                      { content := recorder.indexFileStream.content ++
                          [⟨tick.logTime, (serializer.encode item).length,
                            recorder.binaryFileOffset⟩] },
                      recorder.binaryFileOffset + (serializer.encode item).length⟩ tick
                  exact .added item tick.logTime binaryGood indexGood index content offset
            · simp only [EntityRecorder.serializeEntity, OutputFile.write, binaryGood, indexGood,
                if_true]
              exact .kept _ rfl rfl rfl fun _ good => absurd good indexGood
      · simp only [EntityRecorder.serializeEntity, binaryGood]
        exact .kept [] rfl (List.append_nil _).symm rfl fun good => absurd good binaryGood

/-- A record designates a range of the binary file that holds an entity. -/
structure Designates (serializer : ItemSerializer Item) (bytes : List UInt8)
    (index : EntityIndex) (item : Item) : Prop where
  within : index.dataOffset + index.dataSize ≤ bytes.length
  range : (bytes.drop index.dataOffset).take index.dataSize = serializer.encode item

theorem Designates.append {bytes : List UInt8} {index : EntityIndex} {item : Item}
    (designates : Designates serializer bytes index item) (extra : List UInt8) :
    Designates serializer (bytes ++ extra) index item where
  within := by
    rw [List.length_append]
    exact Nat.le_trans designates.within (Nat.le_add_right _ _)
  range := by
    have within := designates.within
    rw [List.drop_append_of_le_length (by omega), List.take_append_of_le_length, designates.range]
    rw [List.length_drop]
    omega

/-- The entities recorded so far, and nothing else while both files can be written. -/
structure Written (serializer : ItemSerializer Item) (recorder : EntityRecorder)
    (items : List Item) : Prop where
  records : List.Forall₂ (Designates serializer recorder.binaryFileStream.content)
    recorder.indexFileStream.content items
  content : ∃ extra, recorder.binaryFileStream.content = items.flatMap serializer.encode ++ extra ∧
    (recorder.binaryFileStream.good → recorder.indexFileStream.good → extra = [])
  offset : recorder.binaryFileOffset = (items.flatMap serializer.encode).length

variable {items : List Item}

theorem Written.moves {next : EntityRecorder} {more : List Item}
    (written : Written serializer recorder items) (moves : Moves serializer recorder next more) :
    Written serializer next (items ++ more) := by
  obtain ⟨before, content, quiet⟩ := written.content
  cases moves with
  | kept extra indexKept contentAdded offsetKept quietAfter =>
      refine ⟨?_, ⟨before ++ extra, ?_, fun binary index => ?_⟩, ?_⟩
      · rw [indexKept, List.append_nil, contentAdded]
        exact written.records.imp fun index item designates => designates.append extra
      · rw [contentAdded, content, List.append_nil, List.append_assoc]
      · obtain ⟨binaryBefore, indexBefore, none⟩ := quietAfter binary index
        rw [quiet binaryBefore indexBefore, none, List.append_nil]
      · rw [offsetKept, List.append_nil, written.offset]
  | added item logTime binaryGood indexGood indexAdded contentAdded offsetAdded =>
      have none := quiet binaryGood indexGood
      rw [none, List.append_nil] at content
      have flat : (items ++ [item]).flatMap serializer.encode =
          items.flatMap serializer.encode ++ serializer.encode item := by
        rw [List.flatMap_append, List.flatMap_singleton]
      refine ⟨?_, ⟨[], ?_, fun _ _ => rfl⟩, ?_⟩
      · rw [indexAdded, contentAdded]
        refine List.rel_append (written.records.imp fun index other designates =>
          designates.append _) (.cons ⟨?_, ?_⟩ .nil)
        · simp only [written.offset, content, List.length_append]
          exact Nat.le_refl _
        · rw [written.offset, content, List.drop_left, List.take_length]
      · rw [contentAdded, content, flat, List.append_nil]
      · rw [offsetAdded, written.offset, flat, List.length_append]

theorem run_written {ticks : List (RecorderTick Item)} (written : Written serializer recorder items)
    (clean : (EntityRecorder.system serializer flushOnTick).Along
      (EntityRecorder.Clean serializer) recorder ticks) :
    Written serializer ((EntityRecorder.system serializer flushOnTick).run recorder ticks)
      (items ++ (EntityRecorder.system serializer flushOnTick).gather EntityRecorder.recorded
        recorder ticks) := by
  induction ticks generalizing recorder items with
  | nil =>
      rw [System.gather, List.append_nil]
      exact written
  | cons tick ticks ih =>
      rw [System.gather, ← List.append_assoc]
      exact ih (written.moves (tick_moves clean.1)) clean.2

end Recorder

section Replayer

variable {Item : Type} {serializer : ItemSerializer Item}

/-- The entities that are left to replay come next in the file, one for each record. -/
structure Left (serializer : ItemSerializer Item) (replayer : EntityReplayer Item)
    (items : List Item) : Prop where
  content : ∃ extra, replayer.content = items.flatMap serializer.encode ++ extra
  index : replayer.index.length = items.length
  good : items ≠ [] → replayer.good

variable {replayer : EntityReplayer Item} {items : List Item}

theorem tickLoop_publishes (publish : Item → Except GxfResult Unit) (batchSize : Nat)
    (left : Left serializer replayer items) :
    ∃ now later, items = now ++ later ∧
      (EntityReplayer.tickLoop serializer true publish batchSize replayer).1.handedOver =
        replayer.handedOver ++ now ∧
      Left serializer (EntityReplayer.tickLoop serializer true publish batchSize replayer).1 later ∧
      (0 < batchSize → items ≠ [] → now ≠ []) := by
  induction batchSize generalizing replayer items with
  | zero => exact ⟨[], items, rfl, (List.append_nil _).symm, left, nofun⟩
  | succ batchSize ih =>
      rw [EntityReplayer.tickLoop]
      cases items with
      | nil =>
          have done : replayer.index = [] := List.length_eq_zero_iff.mp left.index
          simp only [done]
          exact ⟨[], [], rfl, (List.append_nil _).symm, ⟨left.content, left.index ▸ rfl, nofun⟩,
            fun _ some => absurd rfl some⟩
      | cons item items =>
          obtain ⟨extra, content⟩ := left.content
          obtain ⟨record, index, records⟩ := List.exists_cons_of_length_eq_add_one left.index
          have good := left.good (List.cons_ne_nil _ _)
          have read : replayer.deserializeEntity serializer =
              ⟨.ok item, items.flatMap serializer.encode ++ extra, true⟩ := by
            rw [EntityReplayer.deserializeEntity, if_pos good, content, List.flatMap_cons,
              List.append_assoc, serializer.deserialize_encode]
          have rest : index.length = items.length := by
            have total := left.index
            rw [records] at total
            exact Nat.succ.inj total
          simp only [records, read]
          cases publish item with
          | error code =>
              exact ⟨[item], items, rfl, rfl, ⟨⟨extra, rfl⟩, rest, fun _ => rfl⟩,
                fun _ _ => List.cons_ne_nil _ _⟩
          | ok _ =>
              obtain ⟨now, later, split, published, leftLater, -⟩ := @ih
                { replayer with
                  index := index
                  content := items.flatMap serializer.encode ++ extra
                  good := true
                  handedOver := replayer.handedOver ++ [item] } items
                ⟨⟨extra, rfl⟩, rest, fun _ => rfl⟩
              refine ⟨item :: now, later, congrArg (item :: ·) split, ?_, leftLater,
                fun _ _ => List.cons_ne_nil _ _⟩
              rw [published, List.append_assoc, List.singleton_append]

theorem run_publishes {replays : List (ReplayerTick Item)} (left : Left serializer replayer items) :
    ∃ now later, items = now ++ later ∧
      ((EntityReplayer.system serializer true).run replayer replays).handedOver =
        replayer.handedOver ++ now ∧
      ((∀ replay ∈ replays, 0 < replay.batchSize) → items.length ≤ replays.length →
        later = []) := by
  induction replays generalizing replayer items with
  | nil =>
      refine ⟨[], items, rfl, (List.append_nil _).symm, fun _ none => ?_⟩
      exact List.length_eq_zero_iff.mp (Nat.le_zero.mp none)
  | cons replay replays ih =>
      obtain ⟨now, later, split, published, leftLater, some⟩ :=
        tickLoop_publishes replay.publish replay.batchSize left
      obtain ⟨soon, last, splitLater, publishedLater, done⟩ := ih leftLater
      refine ⟨now ++ soon, last, ?_, ?_, fun positive enough => ?_⟩
      · rw [split, splitLater, List.append_assoc]
      · exact publishedLater.trans (by rw [published, List.append_assoc])
      · obtain ⟨here, others⟩ := List.forall_mem_cons.mp positive
        refine done others ?_
        cases items with
        | nil =>
            rw [(List.append_eq_nil_iff.mp split.symm).2]
            exact Nat.zero_le _
        | cons item items =>
            have shorter := List.length_pos_of_ne_nil (some here (List.cons_ne_nil _ _))
            rw [split, List.length_append, List.length_cons] at enough
            omega

end Replayer

variable {Item : Type}

/-- If no failed entity leaves bytes behind, every index record designates its entity, and the
replayer hands over the recorded entities once and in order. -/
theorem recording_replayed (serializer : ItemSerializer Item) (flushOnTick : Bool)
    {ticks : List (RecorderTick Item)}
    (clean : (EntityRecorder.system serializer flushOnTick).Along
      (EntityRecorder.Clean serializer) {} ticks) (replays : List (ReplayerTick Item)) :
    let recorder := (EntityRecorder.system serializer flushOnTick).run {} ticks
    let items := (EntityRecorder.system serializer flushOnTick).gather EntityRecorder.recorded
      {} ticks
    let replayer := (EntityReplayer.system serializer true).run (.ofRecorder recorder) replays
    List.Forall₂ (Designates serializer recorder.binaryFileStream.content)
        recorder.indexFileStream.content items ∧
      replayer.handedOver <+: items ∧
      ((∀ replay ∈ replays, 0 < replay.batchSize) → items.length ≤ replays.length →
        replayer.handedOver = items) := by
  intro recorder items replayer
  have empty : Written serializer {} [] := ⟨.nil, ⟨[], rfl, fun _ _ => rfl⟩, rfl⟩
  have written : Written serializer recorder items := run_written empty clean
  obtain ⟨extra, content, -⟩ := written.content
  have left : Left serializer (.ofRecorder recorder) items :=
    ⟨⟨extra, content⟩, written.records.length_eq, fun _ => rfl⟩
  obtain ⟨now, later, split, published, done⟩ := run_publishes left
  have all : replayer.handedOver = now := published.trans (List.nil_append now)
  refine ⟨written.records, ?_, fun positive enough => ?_⟩
  · rw [all, split]
    exact List.prefix_append now later
  · rw [all, split, done positive enough, List.append_nil]

/-- A component without memory of its own, whose name is accepted. -/
def Component.IsPlain (component : Component) : Bool :=
  match component.value with
  | .plain .. => component.name.length < kMaxComponentNameSize && 0 ∉ component.name
  | .tensor _ => false

/-- An entity of plain components, with the number of its message. -/
structure PlainEntity where
  sequenceNumber : UInt64
  components : List Component
  few : components.length ≤ kMaxComponents
  plain : ∀ component ∈ components, component.IsPlain

theorem Component.IsPlain.sendable {component : Component} (plain : component.IsPlain) :
    component.Sendable := by
  cases component with
  | mk name value =>
      cases value with
      | plain type value =>
          obtain ⟨short, ends⟩ := Bool.and_eq_true_iff.mp plain
          exact ⟨of_decide_eq_true ends, of_decide_eq_true short, trivial⟩
      | tensor value => cases plain

theorem PlainEntity.sendable (entity : PlainEntity) : SendableEntity entity.components :=
  ⟨entity.few, fun component among => Component.IsPlain.sendable (entity.plain component among)⟩

theorem Component.Same.eq_of_isPlain {component other : Component} (same : component.Same other)
    (plain : other.IsPlain) : component = other := by
  cases component with
  | mk name value =>
      cases other with
      | mk otherName otherValue =>
          obtain ⟨names, values⟩ := same
          cases values with
          | plain type value => exact congrArg (Component.mk · _) names
          | tensor same => cases plain

theorem PlainEntity.eq_of_same (entity : PlainEntity) {components : List Component}
    (same : List.Forall₂ Component.Same components entity.components) :
    components = entity.components := by
  refine List.forall₂_eq_eq_eq ▸ (List.forall₂_iff_zip.mpr ⟨same.length_eq, ?_⟩)
  intro component other among
  exact Component.Same.eq_of_isPlain ((List.forall₂_iff_zip.mp same).2 among)
    (entity.plain other (List.of_mem_zip among).2)

/-- What `StdEntitySerializer` reads, when it is an entity of plain components. -/
def deserializePlainEntity (bytes : List UInt8) : Deserialized PlainEntity :=
  match workingMachine.readTrivialType entityHeader ⟨bytes, 0, 0⟩,
    deserializeEntity workingMachine ⟨bytes, 0, 0⟩ with
  | .ok (header, _), .ok (components, channel) =>
      if plain : components.length ≤ kMaxComponents ∧ ∀ component ∈ components, component.IsPlain
      then ⟨.ok ⟨header.sequenceNumber, components, plain.1, plain.2⟩, channel.content, true⟩
      else ⟨.error .GXF_FAILURE, channel.content, true⟩
  | _, _ => ⟨.error .GXF_FAILURE, [], false⟩

theorem deserializePlainEntity_encode (entity : PlainEntity) (rest : List UInt8) :
    deserializePlainEntity (encodeEntity entity.sequenceNumber entity.components ++ rest) =
      ⟨.ok entity, rest, true⟩ := by
  let channel : Channel := ⟨encodeEntity entity.sequenceNumber entity.components ++ rest, 0, 0⟩
  have shows : workingMachine.Shows channel
      (encodeEntity entity.sequenceNumber entity.components) :=
    Machine.shows_of_content rfl
  obtain ⟨headed, headerRead, -⟩ := readTrivialType_eq workingMachine_works entityHeader
    (headerOf entity.sequenceNumber entity.components) shows.left
  obtain ⟨result, last, read, same, after⟩ :=
    deserializeEntity_eq workingMachine_works entity.sendable entity.sequenceNumber shows
  obtain rfl : result = entity.components := by
    refine entity.eq_of_same (same ?_)
    rw [List.length_append]
    exact Nat.le_add_right _ _
  have left : last.content = rest := after.content.trans List.drop_left
  rw [deserializePlainEntity, headerRead, read]
  simp only [left]
  exact dif_pos ⟨entity.few, entity.plain⟩

/-- `StdEntitySerializer` for entities of plain components. -/
def stdEntitySerializer : ItemSerializer PlainEntity :=
  ⟨fun entity => encodeEntity entity.sequenceNumber entity.components, deserializePlainEntity,
    deserializePlainEntity_encode⟩

/-- An entity with a number, and one with a flag and a time. -/
def plainEntities : PlainEntity × PlainEntity :=
  (⟨0, [⟨[110], .plain .uint16 (7 : UInt16)⟩], by decide, by decide⟩,
    ⟨1, [⟨[102], .plain .bool true⟩, ⟨[116], .plain .timestamp ⟨3, 4⟩⟩], by decide, by decide⟩)

/-- Two entities, recorded without a failure. -/
def twoTicks : List (RecorderTick PlainEntity) :=
  [⟨.ok plainEntities.1, .completed, 0, false, false, false⟩,
    ⟨.ok plainEntities.2, .completed, 1, false, false, false⟩]

theorem twoTicks_clean : (EntityRecorder.system stdEntitySerializer true).Along
    (EntityRecorder.Clean stdEntitySerializer) {} twoTicks :=
  ⟨nofun, nofun, trivial⟩

theorem recording_replayed_twice :
    let recorder := (EntityRecorder.system stdEntitySerializer true).run {} twoTicks
    let items := [plainEntities.1, plainEntities.2]
    let replayer := (EntityReplayer.system stdEntitySerializer true).run (.ofRecorder recorder)
      [⟨1, fun _ => .ok ()⟩, ⟨2, fun _ => .ok ()⟩]
    List.Forall₂ (Designates stdEntitySerializer recorder.binaryFileStream.content)
        recorder.indexFileStream.content items ∧ replayer.handedOver = items := by
  obtain ⟨records, -, all⟩ := recording_replayed stdEntitySerializer true twoTicks_clean
    [⟨1, fun _ => .ok ()⟩, ⟨2, fun _ => .ok ()⟩]
  exact ⟨records, all (List.forall_iff_forall_mem.mp (by decide)) (Nat.le_refl 2)⟩

/-- Bytes with a null behind each of them. -/
def byteSerializer : ItemSerializer UInt8 where
  encode item := [item, 0]
  deserialize
    | item :: 0 :: rest => ⟨.ok item, rest, true⟩
    | _ :: _ :: rest => ⟨.error .GXF_FAILURE, rest, true⟩
    | _ => ⟨.error .GXF_FAILURE, [], false⟩
  deserialize_encode _ _ := rfl

/-- An entity that fails after one byte shifts all later ones, but not their records. -/
theorem partial_entity_shifts : ¬ ∀ ticks : List (RecorderTick UInt8),
      ∀ index ∈ ((EntityRecorder.system byteSerializer false).run {} ticks).indexFileStream.content,
        ∃ item, (((EntityRecorder.system byteSerializer false).run {}
          ticks).binaryFileStream.content.drop index.dataOffset).take index.dataSize =
            byteSerializer.encode item := by
  intro exact_
  obtain ⟨item, range⟩ := exact_ [⟨.ok 5, .gaveUp 1 .GXF_FAILURE, 0, false, false, false⟩,
      ⟨.ok 7, .completed, 1, false, false, false⟩] ⟨1, 2, 0⟩ List.mem_cons_self
  have second := congrArg (fun bytes : List UInt8 => bytes[1]?) range
  cases second

end Gxf.Serialization
