import Gxf.Core.EntityHandle
import Gxf.Std.StagingQueue.Lists

/-!
# A staging queue of handles

A `DoubleBufferReceiver` keeps handles of its messages in the slots of a staging queue.  The
queue moves, swaps and overwrites slots, and each of these adjusts counts of entities.
-/

namespace Gxf.Std

open Gxf.Core Gxf.Lib EntityHandle StagingQueue

/-- The runtime and a queue of handles. -/
structure Custody (Parameters Context : Type) where
  runtime : Runtime Parameters
  queue : StagingQueue (EntityHandle Context)

namespace Custody

variable {Parameters Context : Type} [DecidableEq Context] (teardown : Uid → Teardown)

/-- Members of the queue other than the slots change. -/
def withQueue (custody : Custody Parameters Context)
    (change : StagingQueue (EntityHandle Context) → StagingQueue (EntityHandle Context)) :
    Custody Parameters Context :=
  { custody with queue := change custody.queue }

/-- `at(index) = null_`. -/
def assignNull (custody : Custody Parameters Context) (index : Nat) : Custody Parameters Context :=
  let (runtime, slot) :=
    (custody.queue.readAt index).copyAssign teardown custody.runtime custody.queue.null
  ⟨runtime, custody.queue.writeAt index slot⟩

/-- `at(index) = std::move(item)`, and what is left of the item. -/
def moveInto (custody : Custody Parameters Context) (index : Nat) (item : EntityHandle Context) :
    Custody Parameters Context × EntityHandle Context :=
  let (runtime, slot, left) := (custody.queue.readAt index).moveAssign teardown custody.runtime item
  (⟨runtime, custody.queue.writeAt index slot⟩, left)

/-- `at(target) = std::move(at(source))`. -/
def moveSlot (custody : Custody Parameters Context) (target source : Nat) :
    Custody Parameters Context :=
  if target % custody.queue.items.length = source % custody.queue.items.length then custody
  else
    let (moved, left) := custody.moveInto teardown target (custody.queue.readAt source)
    moved.withQueue fun queue => queue.writeAt source left

/-- `count` turns of `at(begin_++) = null_`. -/
def clearFront : (count : Nat) → Custody Parameters Context → Custody Parameters Context
  | 0, custody => custody
  | count + 1, custody =>
      clearFront count ((custody.assignNull teardown custody.queue.start).withQueue fun queue =>
        { queue with start := queue.start + 1 })

/-- `count` turns of `at(begin_ + --num_mainstage_) = null_`. -/
def clearBack : (count : Nat) → Custody Parameters Context → Custody Parameters Context
  | 0, custody => custody
  | count + 1, custody =>
      let shorter := custody.withQueue fun queue =>
        { queue with numMainstage := queue.numMainstage - 1 }
      clearBack count
        (shorter.assignNull teardown (shorter.queue.start + shorter.queue.numMainstage))

/-- `count` turns of `at(i - 1) = std::move(at(i))`, starting at `index`. -/
def shiftBackstage : (count index : Nat) → Custody Parameters Context → Custody Parameters Context
  | 0, _, custody => custody
  | count + 1, index, custody =>
      shiftBackstage count (index + 1) (custody.moveSlot teardown (index - 1) index)

/-- `pop()`.  The slot and the result, a copy of the null value, are swapped. -/
def pop (custody : Custody Parameters Context) :
    Custody Parameters Context × EntityHandle Context :=
  let (runtime, result) := copy custody.runtime custody.queue.null
  if custody.queue.numMainstage > 0 then
    let (temporary, slot) := move (custody.queue.readAt custody.queue.start)
    let (runtime, slot, result) := slot.moveAssign teardown runtime result
    let (runtime, result, temporary) := result.moveAssign teardown runtime temporary
    let popped := { custody.queue.writeAt custody.queue.start slot with
      start := custody.queue.start + 1
      numMainstage := custody.queue.numMainstage - 1 }
    (⟨temporary.destroy teardown runtime, popped.wrapStart⟩, result)
  else (⟨runtime, custody.queue.wrapStart⟩, result)

/-- `popAll()`. -/
def popAll (custody : Custody Parameters Context) : Custody Parameters Context :=
  (clearFront teardown custody.queue.numMainstage custody).withQueue fun queue =>
    { queue.wrapStart with numMainstage := 0 }

/-- The body of `push(item)`, and what is left of the item. -/
def pushItem (custody : Custody Parameters Context) (item : EntityHandle Context) :
    Custody Parameters Context × EntityHandle Context × Bool :=
  let queue := custody.queue
  let beginBackstage := queue.start + queue.numMainstage
  if queue.numBackstage = queue.capacity then
    match queue.overflowBehavior with
    | .kPop =>
        let backstageEnd := beginBackstage + queue.numBackstage
        let shifted := shiftBackstage teardown (backstageEnd - (beginBackstage + 1))
          (beginBackstage + 1) custody
        let (moved, left) := shifted.moveInto teardown (backstageEnd - 1) item
        (moved, left, true)
    | .kReject => (custody, item, true)
    | .kFault => (custody, item, false)
  else
    let (moved, left) := custody.moveInto teardown (beginBackstage + queue.numBackstage) item
    (moved.withQueue fun queue => { queue with numBackstage := queue.numBackstage + 1 }, left, true)

/-- `push(item)`, with the destructor of the parameter. -/
def push (custody : Custody Parameters Context) (item : EntityHandle Context) :
    Custody Parameters Context × Bool :=
  let (pushed, left, accepted) := custody.pushItem teardown item
  ({ pushed with runtime := left.destroy teardown pushed.runtime }, accepted)

/-- `sync()`. -/
def sync (custody : Custody Parameters Context) : Custody Parameters Context × Bool :=
  let merged := custody.withQueue mergeStages
  let excess := merged.queue.numMainstage - merged.queue.capacity
  if merged.queue.numMainstage > merged.queue.capacity then
    match merged.queue.overflowBehavior with
    | .kPop =>
        ((clearFront teardown excess merged).withQueue fun queue =>
          { queue with numMainstage := merged.queue.capacity }.wrapStart, true)
    | .kReject => ((clearBack teardown excess merged).withQueue wrapStart, true)
    | .kFault => (merged, false)
  else (merged.withQueue wrapStart, true)

/-- The count of an entity stands for the null value and the slots of the queue that name it,
and for other handles. -/
structure Accounts (custody : Custody Parameters Context) (eid : Uid) (others : Nat) : Prop where
  counts : EntityHandle.Counts custody.runtime eid
    (others + naming (custody.queue.null :: custody.queue.items) eid)
  slots : 0 < custody.queue.items.length

end Custody

theorem sum_map_eraseIdx {α : Type} (weight : α → Nat) {list : List α} {index : Nat}
    (inside : index < list.length) :
    (list.map weight).sum = ((list.eraseIdx index).map weight).sum + weight list[index] := by
  have sums := ((List.getElem_cons_eraseIdx_perm inside).map weight).sum_eq
  rw [List.map_cons, List.sum_cons] at sums
  rw [← sums, Nat.add_comm]

theorem sum_map_set {α : Type} (weight : α → Nat) {list : List α} {index : Nat}
    (inside : index < list.length) (value : α) :
    ((list.set index value).map weight).sum =
      ((list.eraseIdx index).map weight).sum + weight value := by
  rw [((List.set_perm_cons_eraseIdx inside value).map weight).sum_eq, List.map_cons,
    List.sum_cons, Nat.add_comm]

namespace Custody

variable {Parameters Context : Type} [DecidableEq Context] {teardown : Uid → Teardown}
  {custody : Custody Parameters Context} {item : EntityHandle Context} {eid : Uid} {others : Nat}

omit [DecidableEq Context] in
theorem exists_naming_eq {queue : StagingQueue (EntityHandle Context)}
    (slots : 0 < queue.items.length) (index : Nat) (eid : Uid) : ∃ rest,
      naming (queue.null :: queue.items) eid = rest + (queue.readAt index).names eid ∧
      ∀ item, naming (queue.null :: (queue.writeAt index item).items) eid =
        rest + names item eid := by
  have inside := Nat.mod_lt index slots
  have isRead : queue.readAt index = queue.items[index % queue.items.length] :=
    List.getD_eq_getElem _ _ inside
  refine ⟨queue.null.names eid + naming
    (queue.items.eraseIdx (index % queue.items.length)) eid, ?_, fun item => ?_⟩
  · rw [naming, List.map_cons, List.sum_cons, sum_map_eraseIdx _ inside, isRead,
      ← Nat.add_assoc, naming]
  · rw [naming, List.map_cons, List.sum_cons, writeAt,
      sum_map_set _ inside, ← Nat.add_assoc, naming]

omit [DecidableEq Context] in
theorem Accounts.withQueue (accounts : custody.Accounts eid others)
    {change : StagingQueue (EntityHandle Context) → StagingQueue (EntityHandle Context)}
    (items : (change custody.queue).items = custody.queue.items)
    (null : (change custody.queue).null = custody.queue.null) :
    (custody.withQueue change).Accounts eid others := by
  constructor
  · rw [Custody.withQueue, items, null]
    exact accounts.counts
  · rw [Custody.withQueue, items]
    exact accounts.slots

theorem queue_assignNull (teardown : Uid → Teardown) (custody : Custody Parameters Context)
    (index : Nat) : (custody.assignNull teardown index).queue =
      custody.queue.writeAt index custody.queue.null := by
  change custody.queue.writeAt index (copyAssign teardown custody.runtime
    (custody.queue.readAt index) custody.queue.null).2 = _
  rw [copyAssign_snd]

theorem Accounts.assignNull (real : eid ≠ kNullUid) (accounts : custody.Accounts eid others)
    (index : Nat) : (custody.assignNull teardown index).Accounts eid others := by
  obtain ⟨rest, before, after⟩ := exists_naming_eq accounts.slots index eid
  have counts := accounts.counts
  rw [before, ← Nat.add_assoc] at counts
  constructor
  · have isNull : (custody.queue.writeAt index custody.queue.null).null = custody.queue.null := rfl
    rw [queue_assignNull, isNull, after, ← Nat.add_assoc]
    exact counts.copyAssign real custody.queue.null
  · rw [queue_assignNull, length_writeAt]
    exact accounts.slots

omit [DecidableEq Context] in
theorem Accounts.moveInto (real : eid ≠ kNullUid)
    (accounts : custody.Accounts eid (others + item.names eid)) (index : Nat) :
    (custody.moveInto teardown index item).1.Accounts eid
      (others + (custody.moveInto teardown index item).2.names eid) := by
  obtain ⟨rest, before, after⟩ := exists_naming_eq accounts.slots index eid
  have counts := accounts.counts
  rw [before, ← Nat.add_assoc] at counts
  constructor
  · change EntityHandle.Counts _ eid (others + names EntityHandle.null eid +
      naming (custody.queue.null :: (custody.queue.writeAt index item).items) eid)
    rw [after, names_null real, Nat.add_zero, ← Nat.add_assoc, Nat.add_right_comm]
    exact counts.destroy real
  · exact accounts.slots.trans_eq (length_writeAt _ _ _).symm

omit [DecidableEq Context] in
theorem readAt_writeAt_of_ne {queue : StagingQueue (EntityHandle Context)} {target source : Nat}
    (different : target % queue.items.length ≠ source % queue.items.length)
    (item : EntityHandle Context) :
    (queue.writeAt target item).readAt source = queue.readAt source := by
  rw [readAt, length_writeAt, writeAt,
    List.getD_eq_getElem?_getD, List.getElem?_set_ne different, ← List.getD_eq_getElem?_getD,
    readAt]

omit [DecidableEq Context] in
theorem Accounts.moveSlot (real : eid ≠ kNullUid) (accounts : custody.Accounts eid others)
    (target source : Nat) : (custody.moveSlot teardown target source).Accounts eid others := by
  rw [Custody.moveSlot]
  split
  next => exact accounts
  next different =>
    -- the target is written first, and the source then gives up what it still holds
    let written := custody.queue.writeAt target (custody.queue.readAt source)
    have slots : 0 < written.items.length :=
      accounts.slots.trans_eq (length_writeAt _ _ _).symm
    obtain ⟨rest, before, after⟩ := exists_naming_eq accounts.slots target eid
    obtain ⟨last, held, left⟩ := exists_naming_eq slots source eid
    have same : last = rest := by
      have between := held.symm.trans (after (custody.queue.readAt source))
      rw [readAt_writeAt_of_ne different] at between
      exact Nat.add_right_cancel between
    have counts := accounts.counts
    rw [before, ← Nat.add_assoc] at counts
    constructor
    · change EntityHandle.Counts
        (destroy teardown custody.runtime (custody.queue.readAt target)) eid
        (others + naming
          (written.null :: (written.writeAt source EntityHandle.null).items) eid)
      rw [left, names_null real, same, Nat.add_zero]
      exact counts.destroy real
    · exact slots.trans_eq (length_writeAt _ _ _).symm

theorem Accounts.clearFront (real : eid ≠ kNullUid) (count : Nat)
    (accounts : custody.Accounts eid others) :
    (clearFront teardown count custody).Accounts eid others := by
  induction count generalizing custody with
  | zero => exact accounts
  | succ count ih => exact ih ((accounts.assignNull real _).withQueue rfl rfl)

theorem Accounts.clearBack (real : eid ≠ kNullUid) (count : Nat)
    (accounts : custody.Accounts eid others) :
    (clearBack teardown count custody).Accounts eid others := by
  induction count generalizing custody with
  | zero => exact accounts
  | succ count ih => exact ih ((accounts.withQueue rfl rfl).assignNull real _)

omit [DecidableEq Context] in
theorem Accounts.shiftBackstage (real : eid ≠ kNullUid) (count index : Nat)
    (accounts : custody.Accounts eid others) :
    (shiftBackstage teardown count index custody).Accounts eid others := by
  induction count generalizing index custody with
  | zero => exact accounts
  | succ count ih => exact ih (index + 1) (accounts.moveSlot real (index - 1) index)

theorem Accounts.popAll (real : eid ≠ kNullUid) (accounts : custody.Accounts eid others) :
    (custody.popAll teardown).Accounts eid others :=
  (accounts.clearFront real _).withQueue rfl rfl

omit [DecidableEq Context] in
theorem pop_eq (teardown : Uid → Teardown) (custody : Custody Parameters Context) :
    custody.pop teardown = (⟨(copy custody.runtime custody.queue.null).1,
      custody.queue.pop.1⟩, custody.queue.pop.2) := by
  rw [Custody.pop, StagingQueue.pop]
  dsimp only
  by_cases hasItem : custody.queue.numMainstage > 0
  · rw [if_pos hasItem, if_pos hasItem]
    rfl
  · rw [if_neg hasItem, if_neg hasItem]
    rfl

omit [DecidableEq Context] in
/-- A popped handle leaves the queue. -/
theorem Accounts.pop (real : eid ≠ kNullUid) (teardown : Uid → Teardown)
    (accounts : custody.Accounts eid others) :
    (custody.pop teardown).1.Accounts eid (others + (custody.pop teardown).2.names eid) := by
  have copied := accounts.counts.copy real custody.queue.null
  rw [pop_eq, StagingQueue.pop]
  split
  next =>
    obtain ⟨rest, before, after⟩ := exists_naming_eq accounts.slots custody.queue.start eid
    constructor
    · change EntityHandle.Counts _ eid (others +
        (custody.queue.readAt custody.queue.start).names eid +
        naming (custody.queue.null ::
          (custody.queue.writeAt custody.queue.start custody.queue.null).items) eid)
      rw [before, ← Nat.add_assoc, Nat.add_right_comm others] at copied
      rw [after, ← Nat.add_assoc]
      exact copied
    · change 0 < (custody.queue.writeAt custody.queue.start custody.queue.null).items.length
      rw [length_writeAt]
      exact accounts.slots
  next =>
    constructor
    · rw [Nat.add_right_comm]
      exact copied
    · exact accounts.slots

omit [DecidableEq Context] in
theorem Accounts.pushItem (real : eid ≠ kNullUid)
    (accounts : custody.Accounts eid (others + item.names eid)) :
    (custody.pushItem teardown item).1.Accounts eid
      (others + (custody.pushItem teardown item).2.1.names eid) := by
  rw [Custody.pushItem]
  dsimp only
  split
  next =>
    split
    next => exact (accounts.shiftBackstage real _ _).moveInto real _
    next => exact accounts
    next => exact accounts
  next =>
    dsimp only
    exact (accounts.moveInto real _).withQueue rfl rfl

omit [DecidableEq Context] in
theorem Accounts.push (real : eid ≠ kNullUid)
    (accounts : custody.Accounts eid (others + item.names eid)) :
    (custody.push teardown item).1.Accounts eid others := by
  have pushed : (custody.pushItem teardown item).1.Accounts eid
      (others + (custody.pushItem teardown item).2.1.names eid) := accounts.pushItem real
  have counts := pushed.counts
  rw [Nat.add_right_comm] at counts
  exact ⟨counts.destroy real, pushed.slots⟩

theorem Accounts.sync (real : eid ≠ kNullUid) (accounts : custody.Accounts eid others) :
    (custody.sync teardown).1.Accounts eid others := by
  have merged : (custody.withQueue mergeStages).Accounts eid others :=
    accounts.withQueue rfl rfl
  rw [Custody.sync]
  split
  next =>
    split
    next =>
      dsimp only
      exact (merged.clearFront real _).withQueue rfl rfl
    next => exact (merged.clearBack real _).withQueue rfl rfl
    next => exact merged
  next => exact merged.withQueue rfl rfl

end Custody

end Gxf.Std
