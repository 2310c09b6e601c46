import Gxf.Std.DoubleBufferReceiver.Slots

/-!
# Messages in double buffer receivers

Handles of messages are made, copied, moved and destroyed, and pushed into the queues of
receivers.  A popped message is handed out as an id, which the caller wraps in a handle.  The
count of an entity is always the number of its handles.
-/

namespace Gxf.Std

open Gxf.Core Gxf.Lib EntityHandle

/-! ## Receivers -/

/-- The behavior for a value of the policy parameter.  The other values have no case of their
own in the queue, and do what `kFault` does. -/
def OverflowBehavior.ofPolicy : Nat → OverflowBehavior
  | 0 => .kPop
  | 1 => .kReject
  | _ => .kFault

/-- `DoubleBufferReceiver`, a component of an entity. -/
structure DoubleBufferReceiver (Context : Type) where
  context : Context
  eid : Uid
  queue : Option (StagingQueue (EntityHandle Context))

namespace DoubleBufferReceiver

variable {Parameters Context : Type} [DecidableEq Context] (teardown : Uid → Teardown)

/-- The conversion of an index to `size_t`. -/
def toSize (index : Int) : Nat := (index % 18446744073709551616).toNat

def destroyAll (runtime : Runtime Parameters) (entities : List (EntityHandle Context)) :
    Runtime Parameters :=
  entities.foldl (EntityHandle.destroy teardown) runtime

/-- The handles in the queue, with its null value. -/
def held (receiver : DoubleBufferReceiver Context) : List (EntityHandle Context) :=
  match receiver.queue with
  | none => []
  | some queue => queue.null :: queue.items

/-- `initialize()`.  The queue from before is destroyed. -/
def init (runtime : Runtime Parameters) (receiver : DoubleBufferReceiver Context)
    (capacity policy : Nat) : Runtime Parameters × DoubleBufferReceiver Context × GxfResult :=
  if capacity = 0 then (runtime, receiver, .GXF_ARGUMENT_OUT_OF_RANGE)
  else
    (destroyAll teardown runtime receiver.held,
      { receiver with queue := some (.create capacity (.ofPolicy policy) EntityHandle.null) },
      .GXF_SUCCESS)

/-- `entity()` and the destructor of the handle it returns. -/
def entity (runtime : Runtime Parameters) (receiver : DoubleBufferReceiver Context) :
    Runtime Parameters :=
  match EntityHandle.shared runtime (some receiver.context) receiver.eid with
  | (counted, .ok made) => made.destroy teardown counted
  | (counted, .error _) => counted

/-- `deinitialize()`.  Only a warning asks for the name of the entity. -/
def deinit (runtime : Runtime Parameters) (receiver : DoubleBufferReceiver Context) :
    Runtime Parameters × DoubleBufferReceiver Context × GxfResult :=
  match receiver.queue with
  | none => (runtime, receiver, .GXF_CONTRACT_INVALID_SEQUENCE)
  | some queue =>
      let warned := if queue.size ≠ 0 then receiver.entity teardown runtime else runtime
      let popped := Custody.popAll teardown ⟨warned, queue⟩
      let emptied := (popped.sync teardown).1.popAll teardown
      (emptied.runtime, { receiver with queue := some emptied.queue }, .GXF_SUCCESS)

/-- `pop_abi(uid)` and `receive_abi(uid)`. -/
def popAbi (runtime : Runtime Parameters) (receiver : DoubleBufferReceiver Context) :
    Runtime Parameters × DoubleBufferReceiver Context × Except GxfResult Uid :=
  match receiver.queue with
  | none => (runtime, receiver, .error .GXF_FAILURE)
  | some queue =>
      let (popped, entity) := Custody.pop teardown ⟨runtime, queue⟩
      let after := { receiver with queue := some popped.queue }
      if entity.eid = kNullUid then
        (entity.destroy teardown popped.runtime, after, .error .GXF_FAILURE)
      else
        (entity.destroy teardown (popped.runtime.entityRefCountInc entity.eid).1, after,
          .ok entity.eid)

/-- `push_abi(other)`. -/
def pushAbi (runtime : Runtime Parameters) (receiver : DoubleBufferReceiver Context)
    (other : Uid) : Runtime Parameters × DoubleBufferReceiver Context × GxfResult :=
  match receiver.queue with
  | none => (runtime, receiver, .GXF_FAILURE)
  | some queue =>
      match EntityHandle.shared runtime (some receiver.context) other with
      | (counted, .error code) => (counted, receiver, code)
      | (counted, .ok maybe) =>
          let (item, left) := maybe.move
          let (pushed, accepted) := Custody.push teardown ⟨counted, queue⟩ item
          (left.destroy teardown pushed.runtime, { receiver with queue := some pushed.queue },
            if accepted then .GXF_SUCCESS else .GXF_EXCEEDING_PREALLOCATED_SIZE)

/-- `peek_abi(uid, index)`. -/
def peekAbi (receiver : DoubleBufferReceiver Context) (index : Int) : Except GxfResult Uid :=
  match receiver.queue with
  | none => .error .GXF_FAILURE
  | some queue =>
      let uid := (queue.peek (toSize index)).eid
      if uid = kNullUid then .error .GXF_FAILURE else .ok uid

/-- `peek_back_abi(uid, index)`. -/
def peekBackAbi (receiver : DoubleBufferReceiver Context) (index : Int) : Except GxfResult Uid :=
  match receiver.queue with
  | none => .error .GXF_FAILURE
  | some queue =>
      let uid := (queue.peekBackstage (toSize index)).eid
      if uid = kNullUid then .error .GXF_FAILURE else .ok uid

/-- `sync_abi()`. -/
def syncAbi (runtime : Runtime Parameters) (receiver : DoubleBufferReceiver Context) :
    Runtime Parameters × DoubleBufferReceiver Context × GxfResult :=
  match receiver.queue with
  | none => (runtime, receiver, .GXF_FAILURE)
  | some queue =>
      let (synced, fits) := Custody.sync teardown ⟨runtime, queue⟩
      (synced.runtime, { receiver with queue := some synced.queue },
        if fits then .GXF_SUCCESS else .GXF_EXCEEDING_PREALLOCATED_SIZE)

end DoubleBufferReceiver

namespace DoubleBufferReceiver

variable {Parameters Context : Type} [DecidableEq Context] {teardown : Uid → Teardown}
  {runtime : Runtime Parameters} {receiver : DoubleBufferReceiver Context} {eid : Uid}
  {others : Nat}

/-- The count of an entity stands for the handles in the queue and for others. -/
structure Accounts (runtime : Runtime Parameters) (receiver : DoubleBufferReceiver Context)
    (eid : Uid) (others : Nat) : Prop where
  counts : EntityHandle.Counts runtime eid (others + naming receiver.held eid)

/-- The queue of a receiver has slots. -/
def Slotted (receiver : DoubleBufferReceiver Context) : Prop :=
  ∀ queue ∈ receiver.queue, 0 < queue.items.length

omit [DecidableEq Context] in
theorem Accounts.custody (accounts : receiver.Accounts runtime eid others)
    (slots : receiver.Slotted) {queue : StagingQueue (EntityHandle Context)}
    (isQueue : receiver.queue = some queue) :
    Custody.Accounts ⟨runtime, queue⟩ eid others := by
  have counts := accounts.counts
  rw [held, isQueue] at counts
  exact ⟨counts, slots queue isQueue⟩

omit [DecidableEq Context] in
theorem accounts_of_custody {custody : Custody Parameters Context}
    (accounts : custody.Accounts eid others) (receiver : DoubleBufferReceiver Context) :
    Accounts custody.runtime { receiver with queue := some custody.queue } eid others :=
  ⟨accounts.counts⟩

omit [DecidableEq Context] in
theorem counts_destroyAll (real : eid ≠ kNullUid) {entities : List (EntityHandle Context)}
    (counts : EntityHandle.Counts runtime eid (others + naming entities eid)) :
    EntityHandle.Counts (destroyAll teardown runtime entities) eid others := by
  induction entities generalizing runtime with
  | nil => exact counts
  | cons entity rest ih =>
      have first : EntityHandle.Counts (entity.destroy teardown runtime) eid
          (others + naming rest eid) := by
        apply EntityHandle.Counts.destroy real
        rw [Nat.add_assoc, Nat.add_comm (naming rest eid)]
        exact counts
      exact ih first

omit [DecidableEq Context] in
theorem naming_replicate_null (real : eid ≠ kNullUid) (count : Nat) :
    naming (List.replicate count (.null : EntityHandle Context)) eid = 0 := by
  rw [naming, List.map_replicate, List.sum_replicate, names_null real]
  rfl

omit [DecidableEq Context] in
/-- A new queue replaces the one from before. -/
theorem Accounts.init (real : eid ≠ kNullUid) (accounts : receiver.Accounts runtime eid others)
    (capacity policy : Nat) :
    Accounts (receiver.init teardown runtime capacity policy).1
      (receiver.init teardown runtime capacity policy).2.1 eid others := by
  rw [DoubleBufferReceiver.init]
  split
  next => exact accounts
  next positive =>
    constructor
    change EntityHandle.Counts _ eid (others +
      naming (List.replicate (2 * capacity % 2 ^ 64 + 1) EntityHandle.null) eid)
    rw [naming_replicate_null real]
    exact counts_destroyAll real accounts.counts

omit [DecidableEq Context] in
theorem counts_entity (real : eid ≠ kNullUid) (counts : EntityHandle.Counts runtime eid others)
    (receiver : DoubleBufferReceiver Context) :
    EntityHandle.Counts (receiver.entity teardown runtime) eid others :=
  (counts.inc receiver.eid).destroy real

theorem Accounts.deinit (real : eid ≠ kNullUid) (slots : receiver.Slotted)
    (accounts : receiver.Accounts runtime eid others) :
    Accounts (receiver.deinit teardown runtime).1 (receiver.deinit teardown runtime).2.1 eid
      others := by
  rw [DoubleBufferReceiver.deinit]
  split
  next => exact accounts
  next queue isQueue =>
    have custody := accounts.custody slots isQueue
    dsimp only
    have warned : Custody.Accounts ⟨if queue.size ≠ 0 then receiver.entity teardown runtime
        else runtime, queue⟩ eid others := by
      split
      next => exact ⟨counts_entity real custody.counts receiver, custody.slots⟩
      next => exact custody
    exact accounts_of_custody (((warned.popAll real).sync real).popAll real) receiver

omit [DecidableEq Context] in
theorem Accounts.pushAbi (real : eid ≠ kNullUid) (slots : receiver.Slotted)
    (accounts : receiver.Accounts runtime eid others) (other : Uid) :
    Accounts (receiver.pushAbi teardown runtime other).1
      (receiver.pushAbi teardown runtime other).2.1 eid others := by
  rw [DoubleBufferReceiver.pushAbi]
  split
  next => exact accounts
  next queue isQueue =>
    have custody := accounts.custody slots isQueue
    have shared : Custody.Accounts ⟨(runtime.entityRefCountInc other).1, queue⟩ eid
        (others + (EntityHandle.own receiver.context other).names eid) := by
      refine ⟨?_, custody.slots⟩
      rw [Nat.add_right_comm]
      exact custody.counts.inc other
    exact accounts_of_custody (shared.push real) receiver

omit [DecidableEq Context] in
/-- A popped id is counted once more. -/
theorem Accounts.popAbi (real : eid ≠ kNullUid) (slots : receiver.Slotted)
    (accounts : receiver.Accounts runtime eid others) :
    Accounts (receiver.popAbi teardown runtime).1 (receiver.popAbi teardown runtime).2.1 eid
      (others + match (receiver.popAbi teardown runtime).2.2 with
        | .error _ => 0
        | .ok uid => if uid = eid then 1 else 0) := by
  rw [DoubleBufferReceiver.popAbi]
  split
  next => exact accounts
  next queue isQueue =>
    have popped := (accounts.custody slots isQueue).pop real teardown
    generalize Custody.pop teardown ⟨runtime, queue⟩ = after at popped
    obtain ⟨custody, entity⟩ := after
    have counts := popped.counts
    rw [Nat.add_right_comm] at counts
    dsimp only
    split
    next =>
      have left : Custody.Accounts ⟨entity.destroy teardown custody.runtime, custody.queue⟩ eid
          others := ⟨counts.destroy real, popped.slots⟩
      exact accounts_of_custody left receiver
    next =>
      have counted := counts.inc entity.eid
      rw [Nat.add_right_comm, Nat.add_right_comm others] at counted
      have left : Custody.Accounts ⟨entity.destroy teardown
          (custody.runtime.entityRefCountInc entity.eid).1, custody.queue⟩ eid
          (others + if entity.eid = eid then 1 else 0) := ⟨counted.destroy real, popped.slots⟩
      exact accounts_of_custody left receiver

theorem Accounts.syncAbi (real : eid ≠ kNullUid) (slots : receiver.Slotted)
    (accounts : receiver.Accounts runtime eid others) :
    Accounts (receiver.syncAbi teardown runtime).1 (receiver.syncAbi teardown runtime).2.1 eid
      others := by
  rw [DoubleBufferReceiver.syncAbi]
  split
  next => exact accounts
  next queue isQueue =>
    exact accounts_of_custody ((accounts.custody slots isQueue).sync real) receiver

end DoubleBufferReceiver

/-! ## Sequences of calls -/

/-- The handles outside of queues, the receivers, and the ids that were popped and are not
wrapped yet. -/
structure Messages (Parameters Context : Type) where
  runtime : Runtime Parameters
  entities : List (EntityHandle Context)
  receivers : List (DoubleBufferReceiver Context)
  uids : List Uid

/-- The calls.  Handles, receivers and ids are given by their positions. -/
inductive MessageOp (Context : Type) where
  | null
  | new (context : Context)
  | shared (context : Option Context) (eid : Uid)
  | own (context : Context) (uid : Nat)
  | copy (source : Nat)
  | move (source : Nat)
  | copyAssign (target source : Nat)
  | moveAssign (target source : Nat)
  | clone (source : Nat)
  | destroy (entity : Nat)
  | createReceiver (context : Context) (eid : Uid)
  | init (receiver capacity policy : Nat)
  | push (receiver : Nat) (other : Uid)
  | pop (receiver : Nat)
  | receive (receiver : Nat)
  | peek (receiver : Nat) (index : Int)
  | peekBack (receiver : Nat) (index : Int)
  | sync (receiver : Nat)
  | deinit (receiver : Nat)
  | destroyReceiver (receiver : Nat)

namespace Messages

variable {Parameters Context : Type} [DecidableEq Context] (teardown : Uid → Teardown)

/-- A call that may make a handle. -/
def keep (messages : Messages Parameters Context)
    (made : Runtime Parameters × Except GxfResult (EntityHandle Context)) :
    Messages Parameters Context :=
  match made with
  | (runtime, .ok entity) =>
      { messages with runtime, entities := messages.entities ++ [entity] }
  | (runtime, .error _) => { messages with runtime }

/-- What a call into a receiver leaves. -/
def withReceiver (messages : Messages Parameters Context) (index : Nat)
    (runtime : Runtime Parameters) (receiver : DoubleBufferReceiver Context) :
    Messages Parameters Context :=
  { messages with runtime, receivers := messages.receivers.set index receiver }

/-- A call that concerns a handle. -/
def onEntity (messages : Messages Parameters Context) (index : Nat)
    (call : EntityHandle Context → Messages Parameters Context) : Messages Parameters Context :=
  match messages.entities[index]? with
  | none => messages
  | some entity => call entity

def onReceiver (messages : Messages Parameters Context) (index : Nat)
    (call : DoubleBufferReceiver Context → Messages Parameters Context) :
    Messages Parameters Context :=
  match messages.receivers[index]? with
  | none => messages
  | some receiver => call receiver

/-- A call that takes an index modulo the size of the ring.  Without slots the division ends the
process. -/
def onRing (messages : Messages Parameters Context) (index : Nat)
    (call : DoubleBufferReceiver Context → Messages Parameters Context) :
    Messages Parameters Context :=
  messages.onReceiver index fun receiver =>
    if receiver.queue.all fun queue => 0 < queue.items.length then call receiver else messages

/-- `peek` and `peekBack` share what they see. -/
def sharePeeked (messages : Messages Parameters Context) (receiver : DoubleBufferReceiver Context)
    (peeked : Except GxfResult Uid) : Messages Parameters Context :=
  match peeked with
  | .error _ => messages
  | .ok uid => messages.keep (EntityHandle.shared messages.runtime (some receiver.context) uid)

/-- One call. -/
def step (messages : Messages Parameters Context) : MessageOp Context → Messages Parameters Context
  | .null => { messages with entities := messages.entities ++ [EntityHandle.null] }
  | .new context => messages.keep (EntityHandle.new messages.runtime context)
  | .shared context eid => messages.keep (EntityHandle.shared messages.runtime context eid)
  | .own context uid =>
      match messages.uids[uid]? with
      | none => messages
      | some eid =>
          { messages with
            entities := messages.entities ++ [EntityHandle.own context eid]
            uids := messages.uids.eraseIdx uid }
  | .copy source => messages.onEntity source fun other =>
      let (runtime, entity) := EntityHandle.copy messages.runtime other
      { messages with runtime, entities := messages.entities ++ [entity] }
  | .move source => messages.onEntity source fun other =>
      let (entity, left) := other.move
      { messages with entities := messages.entities.set source left ++ [entity] }
  | .copyAssign target source => messages.onEntity target fun self =>
      messages.onEntity source fun other =>
        let (runtime, entity) := self.copyAssign teardown messages.runtime other
        { messages with runtime, entities := messages.entities.set target entity }
  | .moveAssign target source => messages.onEntity target fun self =>
      messages.onEntity source fun other =>
        if target = source then messages
        else
          let (runtime, entity, left) := self.moveAssign teardown messages.runtime other
          { messages with
            runtime, entities := (messages.entities.set target entity).set source left }
  | .clone source => messages.onEntity source fun other =>
      messages.keep (other.clone messages.runtime)
  | .destroy index => messages.onEntity index fun entity =>
      { messages with
        runtime := entity.destroy teardown messages.runtime
        entities := messages.entities.eraseIdx index }
  | .createReceiver context eid =>
      { messages with receivers := messages.receivers ++ [⟨context, eid, none⟩] }
  | .init index capacity policy => messages.onReceiver index fun receiver =>
      let (runtime, after, _) := receiver.init teardown messages.runtime capacity policy
      messages.withReceiver index runtime after
  | .push index other => messages.onRing index fun receiver =>
      let (runtime, after, _) := receiver.pushAbi teardown messages.runtime other
      messages.withReceiver index runtime after
  | .pop index => messages.onRing index fun receiver =>
      let (runtime, after, popped) := receiver.popAbi teardown messages.runtime
      let left := messages.withReceiver index runtime after
      match popped with
      | .error _ => left
      | .ok uid => { left with uids := left.uids ++ [uid] }
  | .receive index => messages.onRing index fun receiver =>
      let (runtime, after, popped) := receiver.popAbi teardown messages.runtime
      let left := messages.withReceiver index runtime after
      match popped with
      | .error _ => left
      | .ok uid =>
          { left with entities := left.entities ++ [EntityHandle.own receiver.context uid] }
  | .peek index position => messages.onReceiver index fun receiver =>
      messages.sharePeeked receiver (receiver.peekAbi position)
  | .peekBack index position => messages.onReceiver index fun receiver =>
      messages.sharePeeked receiver (receiver.peekBackAbi position)
  | .sync index => messages.onRing index fun receiver =>
      let (runtime, after, _) := receiver.syncAbi teardown messages.runtime
      messages.withReceiver index runtime after
  | .deinit index => messages.onRing index fun receiver =>
      let (runtime, after, _) := receiver.deinit teardown messages.runtime
      messages.withReceiver index runtime after
  | .destroyReceiver index => messages.onReceiver index fun receiver =>
      { messages with
        runtime := DoubleBufferReceiver.destroyAll teardown messages.runtime receiver.held
        receivers := messages.receivers.eraseIdx index }

/-- All sequences of calls.  Each comes with what the components of an entity and their
deallocation return where it destroys the entity.  The handles that these components own are
destroyed by calls that follow. -/
def calls (Parameters Context : Type) [DecidableEq Context] :
    System (Messages Parameters Context) ((Uid → Teardown) × MessageOp Context) Unit where
  step messages call := (messages.step call.1 call.2, ())

/-- A new context without handles. -/
def initial (Parameters Context : Type) (gid nextId : Uid) : Messages Parameters Context :=
  ⟨.initial Parameters gid nextId, [], [], []⟩

/-- The number of handles that name an entity: those outside of queues, those in queues, and
the popped ids. -/
def handles (messages : Messages Parameters Context) (eid : Uid) : Nat :=
  naming messages.entities eid +
    (messages.receivers.map fun receiver => naming receiver.held eid).sum +
    messages.uids.count eid

variable {teardown} {messages : Messages Parameters Context} {runtime : Runtime Parameters}
  {extra : Uid → Nat}

/-- The invariant of a run, in the middle of a call with some handles more than there are
outside of it: the counts are the numbers of handles. -/
structure Accounted (messages : Messages Parameters Context) (extra : Uid → Nat) : Prop where
  counts : ∀ eid ≠ kNullUid,
    EntityHandle.Counts messages.runtime eid (messages.handles eid + extra eid)

omit [DecidableEq Context] in
theorem Accounted.setRuntime (accounted : messages.Accounted fun _ => 0)
    (counts : ∀ eid ≠ kNullUid, ∀ handles, EntityHandle.Counts messages.runtime eid handles →
      EntityHandle.Counts runtime eid (handles + extra eid)) :
    Accounted { messages with runtime } extra :=
  ⟨fun eid real => counts eid real _ (accounted.counts eid real)⟩

omit [DecidableEq Context] in
theorem naming_append (entities : List (EntityHandle Context)) (entity : EntityHandle Context)
    (eid : Uid) : naming (entities ++ [entity]) eid =
      naming entities eid + entity.names eid := by
  rw [naming, List.map_append, List.sum_append, List.map_singleton, List.sum_singleton,
    ← naming]

omit [DecidableEq Context] in
theorem handles_addEntity (messages : Messages Parameters Context) (entity : EntityHandle Context)
    (eid : Uid) : handles { messages with entities := messages.entities ++ [entity] } eid =
      messages.handles eid + entity.names eid := by
  simp only [handles, naming_append]
  omega

omit [DecidableEq Context] in
theorem Accounted.addEntity (entity : EntityHandle Context)
    (accounted : messages.Accounted fun eid => entity.names eid) :
    Accounted { messages with entities := messages.entities ++ [entity] } fun _ => 0 := by
  refine ⟨fun eid real => ?_⟩
  rw [handles_addEntity]
  exact accounted.counts eid real

variable {entity self : EntityHandle Context} {index target : Nat}
  {receiver : DoubleBufferReceiver Context} {entities : List (EntityHandle Context)}

omit [DecidableEq Context] in
theorem Accounted.make (accounted : messages.Accounted fun _ => 0)
    (counts : ∀ eid ≠ kNullUid, ∀ handles, EntityHandle.Counts messages.runtime eid handles →
      EntityHandle.Counts runtime eid (handles + entity.names eid)) :
    Accounted { messages with runtime, entities := messages.entities ++ [entity] } fun _ => 0 :=
  Accounted.addEntity entity (accounted.setRuntime counts)

omit [DecidableEq Context] in
/-- A popped id is kept. -/
theorem Accounted.addUid {uid : Uid}
    (accounted : messages.Accounted fun eid => if uid = eid then 1 else 0) :
    Accounted { messages with uids := messages.uids ++ [uid] } fun _ => 0 := by
  refine ⟨fun eid real => ?_⟩
  have more : handles { messages with uids := messages.uids ++ [uid] } eid =
      messages.handles eid + if uid = eid then 1 else 0 := by
    simp only [handles, List.count_append, List.count_singleton, beq_iff_eq, Nat.add_assoc]
  rw [more]
  exact accounted.counts eid real

omit [DecidableEq Context] in
theorem exists_handles_eq (found : messages.receivers[index]? = some receiver) (eid : Uid) : ∃ rest,
      messages.handles eid = rest + naming receiver.held eid ∧
      (∀ runtime after, (messages.withReceiver index runtime after).handles eid =
        rest + naming after.held eid) ∧
      ∀ runtime : Runtime Parameters, handles { messages with
        runtime, receivers := messages.receivers.eraseIdx index } eid = rest := by
  obtain ⟨inside, isReceiver⟩ := List.getElem?_eq_some_iff.mp found
  refine ⟨naming messages.entities eid +
    ((messages.receivers.eraseIdx index).map fun receiver =>
      naming receiver.held eid).sum +
    messages.uids.count eid, ?_, fun runtime after => ?_, fun runtime => rfl⟩
  · rw [handles, sum_map_eraseIdx _ inside, isReceiver]
    omega
  · rw [withReceiver, handles]
    dsimp only
    rw [sum_map_set _ inside]
    omega

omit [DecidableEq Context] in
theorem Accounted.withReceiver {after : DoubleBufferReceiver Context}
    (accounted : messages.Accounted fun _ => 0) (found : messages.receivers[index]? = some receiver)
    (accounts : ∀ eid ≠ kNullUid, ∀ others, receiver.Accounts messages.runtime eid others →
      after.Accounts runtime eid (others + extra eid)) :
    (messages.withReceiver index runtime after).Accounted extra := by
  constructor
  intro eid real
  obtain ⟨rest, all, changed, -⟩ := exists_handles_eq found eid
  have counts := accounted.counts eid real
  rw [all] at counts
  rw [changed, Nat.add_right_comm]
  exact (accounts eid real rest ⟨counts⟩).counts

omit [DecidableEq Context] in
theorem exists_naming_entities (found : entities[index]? = some entity) (eid : Uid) : ∃ rest,
      naming entities eid = rest + entity.names eid ∧
      (∀ after : EntityHandle Context, naming (entities.set index after) eid =
        rest + after.names eid) ∧
      naming (entities.eraseIdx index) eid = rest := by
  obtain ⟨inside, isEntity⟩ := List.getElem?_eq_some_iff.mp found
  refine ⟨_, ?_, fun after => sum_map_set _ inside after, rfl⟩
  rw [naming, sum_map_eraseIdx _ inside, isEntity]

omit [DecidableEq Context] in
theorem Accounted.setEntities (accounted : messages.Accounted fun _ => 0)
    (counts : ∀ eid ≠ kNullUid, ∀ others, EntityHandle.Counts messages.runtime eid
        (others + naming messages.entities eid) →
      EntityHandle.Counts runtime eid (others + naming entities eid)) :
    Accounted { messages with runtime, entities } fun _ => 0 := by
  refine ⟨fun eid real => ?_⟩
  have after := counts eid real ((messages.receivers.map fun receiver =>
    naming receiver.held eid).sum + messages.uids.count eid)
  have before := accounted.counts eid real
  simp only [handles, Nat.add_zero] at before ⊢
  rw [Nat.add_assoc, Nat.add_comm] at before ⊢
  exact after before

omit [DecidableEq Context] in
theorem Accounted.onEntity (accounted : messages.Accounted fun _ => 0)
    {call : EntityHandle Context → Messages Parameters Context}
    (called : ∀ entity, messages.entities[index]? = some entity →
      (call entity).Accounted fun _ => 0) :
    (messages.onEntity index call).Accounted fun _ => 0 := by
  rw [Messages.onEntity]
  split
  next => exact accounted
  next entity found => exact called entity found

omit [DecidableEq Context] in
theorem Accounted.onReceiver (accounted : messages.Accounted fun _ => 0)
    {call : DoubleBufferReceiver Context → Messages Parameters Context}
    (called : ∀ receiver, messages.receivers[index]? = some receiver →
      (call receiver).Accounted fun _ => 0) :
    (messages.onReceiver index call).Accounted fun _ => 0 := by
  rw [Messages.onReceiver]
  split
  next => exact accounted
  next receiver found => exact called receiver found

omit [DecidableEq Context] in
theorem Accounted.onRing (accounted : messages.Accounted fun _ => 0)
    {call : DoubleBufferReceiver Context → Messages Parameters Context}
    (called : ∀ receiver, messages.receivers[index]? = some receiver → receiver.Slotted →
      (call receiver).Accounted fun _ => 0) :
    (messages.onRing index call).Accounted fun _ => 0 := by
  apply accounted.onReceiver
  intro receiver found
  split
  next slotted =>
    refine called receiver found fun queue isQueue => ?_
    rw [Option.mem_def.mp isQueue, Option.all_some] at slotted
    exact of_decide_eq_true slotted
  next => exact accounted

omit [DecidableEq Context] in
/-- What `Shared` makes is kept. -/
theorem Accounted.keep_shared (accounted : messages.Accounted fun _ => 0)
    (context : Option Context) (eid : Uid) :
    (messages.keep (EntityHandle.shared messages.runtime context eid)).Accounted fun _ => 0 := by
  cases context with
  | none => exact accounted
  | some context =>
      have shared : Accounted { messages with
          runtime := (messages.runtime.entityRefCountInc eid).1
          entities := messages.entities ++ [EntityHandle.own context eid] } fun _ => 0 :=
        accounted.make fun other real handles counts => counts.inc eid
      exact shared

omit [DecidableEq Context] in
theorem Accounted.keep_new (accounted : messages.Accounted fun _ => 0) (context : Context) :
    (messages.keep (EntityHandle.new messages.runtime context)).Accounted fun _ => 0 := by
  have rules (eid : Uid) (handles : Nat)
      (counts : EntityHandle.Counts messages.runtime eid handles) :=
    counts.new context
  generalize EntityHandle.new messages.runtime context = result at rules ⊢
  obtain ⟨runtime, made⟩ := result
  cases made with
  | error code =>
      exact accounted.setRuntime fun eid real handles counts =>
        (rules eid handles counts).2 code rfl
  | ok entity =>
      exact accounted.make fun eid real handles counts => (rules eid handles counts).1 entity rfl

omit [DecidableEq Context] in
theorem Accounted.sharePeeked (accounted : messages.Accounted fun _ => 0)
    (receiver : DoubleBufferReceiver Context) (peeked : Except GxfResult Uid) :
    (messages.sharePeeked receiver peeked).Accounted fun _ => 0 := by
  cases peeked with
  | error code => exact accounted
  | ok uid => exact accounted.keep_shared (some receiver.context) uid

omit [DecidableEq Context] in
/-- A popped id that is wrapped is a handle instead. -/
theorem Accounted.own (accounted : messages.Accounted fun _ => 0) (context : Context)
    {uid : Uid} (found : messages.uids[index]? = some uid) :
    Accounted { messages with
      entities := messages.entities ++ [EntityHandle.own context uid]
      uids := messages.uids.eraseIdx index } fun _ => 0 := by
  refine ⟨fun eid real => ?_⟩
  obtain ⟨inside, isUid⟩ := List.getElem?_eq_some_iff.mp found
  have popped := (List.getElem_cons_eraseIdx_perm inside).count_eq eid
  have same : handles { messages with
      entities := messages.entities ++ [EntityHandle.own context uid]
      uids := messages.uids.eraseIdx index } eid = messages.handles eid := by
    rw [isUid, List.count_cons] at popped
    simp only [handles, naming_append, ← popped, beq_iff_eq, names, EntityHandle.own]
    omega
  rw [same]
  exact accounted.counts eid real

theorem Accounted.copyAssign (accounted : messages.Accounted fun _ => 0)
    (isSelf : messages.entities[target]? = some self)
    (other : EntityHandle Context) :
    Accounted { messages with
      runtime := (self.copyAssign teardown messages.runtime other).1
      entities := messages.entities.set target
        (self.copyAssign teardown messages.runtime other).2 } fun _ => 0 := by
  rw [copyAssign_snd]
  apply accounted.setEntities
  intro eid real others counts
  obtain ⟨rest, before, after, -⟩ := exists_naming_entities isSelf eid
  rw [before, ← Nat.add_assoc] at counts
  rw [after, ← Nat.add_assoc]
  exact counts.copyAssign real other

omit [DecidableEq Context] in
theorem Accounted.moveAssign (accounted : messages.Accounted fun _ => 0) {source : Nat}
    (different : target ≠ source) {other : EntityHandle Context}
    (isSelf : messages.entities[target]? = some self)
    (isOther : messages.entities[source]? = some other) :
    Accounted { messages with
      runtime := self.destroy teardown messages.runtime
      entities := (messages.entities.set target other).set source .null } fun _ => 0 := by
  apply accounted.setEntities
  intro eid real others counts
  obtain ⟨rest, before, after, -⟩ := exists_naming_entities isSelf eid
  have between : (messages.entities.set target other)[source]? = some other := by
    rw [List.getElem?_set_ne different, isOther]
  obtain ⟨last, held, left, -⟩ := exists_naming_entities between eid
  rw [after] at held
  rw [before, ← Nat.add_assoc] at counts
  rw [left, names_null real, ← Nat.add_right_cancel held]
  exact counts.destroy real

omit [DecidableEq Context] in
theorem Accounted.popAbi (accounted : messages.Accounted fun _ => 0) (teardown : Uid → Teardown)
    (found : messages.receivers[index]? = some receiver) (slots : receiver.Slotted) :
    (messages.withReceiver index (receiver.popAbi teardown messages.runtime).1
      (receiver.popAbi teardown messages.runtime).2.1).Accounted fun eid =>
        match (receiver.popAbi teardown messages.runtime).2.2 with
        | .error _ => 0
        | .ok uid => if uid = eid then 1 else 0 :=
  accounted.withReceiver found fun _ real _ accounts => accounts.popAbi real slots

/-- Every call keeps the invariant. -/
theorem Accounted.step (accounted : messages.Accounted fun _ => 0)
    (teardown : Uid → Teardown) (op : MessageOp Context) :
    (messages.step teardown op).Accounted fun _ => 0 := by
  cases op with
  | null =>
      apply accounted.make
      intro eid real handles counts
      rw [names_null real]
      exact counts
  | new context => exact accounted.keep_new context
  | shared context eid => exact accounted.keep_shared context eid
  | own context uid =>
      rw [Messages.step]
      cases found : messages.uids[uid]? with
      | none => exact accounted
      | some eid => exact accounted.own context found
  | copy source =>
      apply accounted.onEntity
      intro other found
      exact accounted.make fun eid real handles counts => counts.copy real other
  | move source =>
      apply accounted.onEntity
      intro other found
      apply accounted.setEntities
      intro eid real others counts
      obtain ⟨rest, before, after, -⟩ := exists_naming_entities found eid
      rw [before] at counts
      rw [naming_append, after, names_null real]
      exact counts
  | copyAssign target source =>
      apply accounted.onEntity
      intro self isSelf
      apply accounted.onEntity
      exact fun other isOther => accounted.copyAssign isSelf other
  | moveAssign target source =>
      apply accounted.onEntity
      intro self isSelf
      apply accounted.onEntity
      intro other isOther
      by_cases same : target = source
      · rw [if_pos same]
        exact accounted
      · rw [if_neg same]
        exact accounted.moveAssign same isSelf isOther
  | clone source =>
      apply accounted.onEntity
      exact fun other found => accounted.keep_shared other.context other.eid
  | destroy index =>
      apply accounted.onEntity
      intro entity found
      apply accounted.setEntities
      intro eid real others counts
      obtain ⟨rest, before, -, after⟩ := exists_naming_entities found eid
      rw [before, ← Nat.add_assoc] at counts
      rw [after]
      exact counts.destroy real
  | createReceiver context eid =>
      constructor
      intro uid real
      have same : (messages.step teardown (.createReceiver context eid)).handles uid =
          messages.handles uid := by
        simp [Messages.step, handles, DoubleBufferReceiver.held, naming]
      rw [same]
      exact accounted.counts uid real
  | init index capacity policy =>
      apply accounted.onReceiver
      intro receiver found
      apply accounted.withReceiver found
      exact fun eid real others accounts => accounts.init real capacity policy
  | push index other =>
      apply accounted.onRing
      intro receiver found slots
      apply accounted.withReceiver found
      exact fun eid real others accounts => accounts.pushAbi real slots other
  | pop index =>
      apply accounted.onRing
      intro receiver found slots
      have left := accounted.popAbi teardown found slots
      generalize receiver.popAbi teardown messages.runtime = result at left ⊢
      obtain ⟨runtime, after, popped⟩ := result
      cases popped with
      | error code => exact left
      | ok uid => exact left.addUid
  | receive index =>
      apply accounted.onRing
      intro receiver found slots
      have left := accounted.popAbi teardown found slots
      generalize receiver.popAbi teardown messages.runtime = result at left ⊢
      obtain ⟨runtime, after, popped⟩ := result
      cases popped with
      | error code => exact left
      | ok uid => exact Accounted.addEntity (.own receiver.context uid) left
  | peek | peekBack =>
      apply accounted.onReceiver
      exact fun receiver found => accounted.sharePeeked receiver _
  | sync index =>
      apply accounted.onRing
      intro receiver found slots
      apply accounted.withReceiver found
      exact fun eid real others accounts => accounts.syncAbi real slots
  | deinit index =>
      apply accounted.onRing
      intro receiver found slots
      apply accounted.withReceiver found
      exact fun eid real others accounts => accounts.deinit real slots
  | destroyReceiver index =>
      apply accounted.onReceiver
      intro receiver found
      constructor
      intro eid real
      obtain ⟨rest, before, -, after⟩ := exists_handles_eq found eid
      rw [after]
      apply DoubleBufferReceiver.counts_destroyAll real
      have counts := accounted.counts eid real
      rw [before] at counts
      exact counts

/-- For any contexts and from a new one: after every sequence of constructions, copies, moves,
assignments, clones and destructions of handles and of calls of receivers, whatever their
capacities and policies, the count of every entity is the number of handles that name it. -/
theorem run_messages_accounted (Parameters Context : Type) [DecidableEq Context]
    (gid nextId : Uid) (ops : List ((Uid → Teardown) × MessageOp Context)) :
    ∀ eid ≠ kNullUid, ((calls Parameters Context).run (initial Parameters Context gid nextId)
        ops).runtime.refCounts.count eid =
      ((calls Parameters Context).run (initial Parameters Context gid nextId) ops).handles eid := by
  have start : (initial Parameters Context gid nextId).Accounted fun _ => 0 :=
    ⟨fun _ _ => rfl⟩
  have accounted : ((calls Parameters Context).run (initial Parameters Context gid nextId)
      ops).Accounted fun _ => 0 :=
    System.invariant_run_of_forall (fun (messages : Messages Parameters Context) op
        (accounted : messages.Accounted fun _ => 0) => accounted.step op.1 op.2) start ops
  exact fun eid real => accounted.counts eid real

/-- A message that is pushed twice into a receiver for one, of which the second is rejected,
and then popped. -/
theorem run_messages_accounted_rejected :
    let teardown (_ : Uid) : Teardown :=
      ⟨⟨fun _ => .GXF_SUCCESS, fun _ => .GXF_SUCCESS⟩, fun _ _ => .ok ()⟩
    let ops : List (MessageOp Unit) := [.shared (some ()) 7, .createReceiver () 3, .init 0 1 1,
      .push 0 7, .push 0 7, .copy 0, .moveAssign 0 1, .copyAssign 1 1, .sync 0, .pop 0]
    let messages := (calls Unit Unit).run (initial Unit Unit 1 2) (ops.map (teardown, ·))
    messages.runtime.refCounts.count 7 = messages.handles 7 ∧
      messages.handles 7 = 2 ∧ messages.uids = [7] :=
  ⟨run_messages_accounted Unit Unit 1 2 _ 7 (by decide), by decide, by decide⟩

end Messages

end Gxf.Std
