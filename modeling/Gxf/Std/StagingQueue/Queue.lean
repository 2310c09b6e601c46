import Gxf.Lib.Run
import Gxf.Lib.Ring

/-!
# The staging queue

`StagingQueue` keeps a main stage and a back stage in one ring of twice its
capacity.  The definitions follow `staging_queue.hpp` and its iterator operation
by operation.  The number of slots is computed on `size_t`, and from a capacity of
`2^63` on it wraps around.  A vector has less than `2^63` slots, so in a ring of
twice the capacity every index stays below `2^64`, and indices are natural numbers.
-/

namespace Gxf.Std

open Gxf.Lib

/-- What happens when an item is added to a full stage. -/
inductive OverflowBehavior where
  | kPop
  | kReject
  | kFault
  deriving DecidableEq, Repr

/-- The fields of the queue.  The mutex that every member function holds is
reflected by each function being one step. -/
structure StagingQueue (T : Type) where
  capacity : Nat
  overflowBehavior : OverflowBehavior
  null : T
  items : List T
  start : Nat
  numMainstage : Nat
  numBackstage : Nat
  deriving DecidableEq, Repr

/-- A forward iterator: the ring it walks and an index that is taken modulo the
ring's size when it is dereferenced. -/
structure StagingQueueIterator (T : Type) where
  data : List T
  size : Nat
  index : Nat
  deriving DecidableEq, Repr

namespace StagingQueueIterator

variable {T : Type}

/-- `operator++`. -/
def next (iterator : StagingQueueIterator T) : StagingQueueIterator T :=
  { iterator with index := iterator.index + 1 }

/-- `operator*`. -/
def deref (iterator : StagingQueueIterator T) : Option T :=
  iterator.data[iterator.index % iterator.size]?

/-- `operator==` for two iterators of one queue, whose data pointers agree. -/
def same (left right : StagingQueueIterator T) : Bool :=
  left.size == right.size && left.index == right.index

/-- The items visited by `for (it = first; it != last; ++it)`, or `none` when
the walk has not met `last` within `fuel` steps or leaves the ring. -/
def walk : (fuel : Nat) → (first last : StagingQueueIterator T) → Option (List T)
  | fuel, first, last =>
    if first.same last then some []
    else
      match fuel with
      | 0 => none
      | fuel + 1 => do
          let item ← first.deref
          let rest ← walk fuel first.next last
          return item :: rest

end StagingQueueIterator

namespace StagingQueue

variable {T : Type}

/-- The constructor.  `2 * capacity` is a product on `size_t`. -/
def create (capacity : Nat) (overflowBehavior : OverflowBehavior) (null : T) : StagingQueue T where
  capacity
  overflowBehavior
  null
  items := List.replicate (2 * capacity % 2 ^ 64) null
  start := 0
  numMainstage := 0
  numBackstage := 0

/-- Read through the private accessor `at`, which wraps around the ring. -/
def readAt (queue : StagingQueue T) (index : Nat) : T :=
  queue.items.getD (index % queue.items.length) queue.null

/-- Write through the private accessor `at`. -/
def writeAt (queue : StagingQueue T) (index : Nat) (item : T) : StagingQueue T :=
  { queue with items := queue.items.set (index % queue.items.length) item }

/-- `size()`. -/
def size (queue : StagingQueue T) : Nat := queue.numMainstage

/-- `empty()`. -/
def empty (queue : StagingQueue T) : Bool := queue.numMainstage == 0

/-- `back_size()`. -/
def backSize (queue : StagingQueue T) : Nat := queue.numBackstage

/-- `peek(index)`. -/
def peek (queue : StagingQueue T) (index : Nat) : T :=
  if index < queue.numMainstage then queue.readAt (queue.start + index)
  else queue.null

/-- `peek_backstage(index)`. -/
def peekBackstage (queue : StagingQueue T) (index : Nat) : T :=
  if index < queue.numBackstage then
    let beginBackstage := queue.start + queue.numMainstage
    queue.readAt (beginBackstage + index)
  else queue.null

/-- `latest(index)`. -/
def latest (queue : StagingQueue T) (index : Nat) : T :=
  if index < queue.numMainstage then
    queue.readAt (queue.start + queue.numMainstage - index - 1)
  else queue.null

/-- `begin()`. -/
def beginIterator (queue : StagingQueue T) : StagingQueueIterator T :=
  ⟨queue.items, queue.items.length, queue.start⟩

/-- `end()`. -/
def endIterator (queue : StagingQueue T) : StagingQueueIterator T :=
  ⟨queue.items, queue.items.length, queue.start + queue.numMainstage⟩

/-- `begin_ %= items_.size()`. -/
def wrapStart (queue : StagingQueue T) : StagingQueue T :=
  { queue with start := queue.start % queue.items.length }

/-- `pop()`: the oldest item is swapped against the null value. -/
def pop (queue : StagingQueue T) : StagingQueue T × T :=
  if queue.numMainstage > 0 then
    let result := queue.readAt queue.start
    let popped := { queue.writeAt queue.start queue.null with
      start := queue.start + 1
      numMainstage := queue.numMainstage - 1 }
    (popped.wrapStart, result)
  else (queue.wrapStart, queue.null)

/-- `count` turns of `at(begin_++) = null_`. -/
def clearFront : (count : Nat) → StagingQueue T → StagingQueue T
  | 0, queue => queue
  | count + 1, queue =>
      clearFront count { queue.writeAt queue.start queue.null with start := queue.start + 1 }

/-- `count` turns of `at(begin_ + --num_mainstage_) = null_`. -/
def clearBack : (count : Nat) → StagingQueue T → StagingQueue T
  | 0, queue => queue
  | count + 1, queue =>
      let shorter := { queue with numMainstage := queue.numMainstage - 1 }
      clearBack count (shorter.writeAt (shorter.start + shorter.numMainstage) shorter.null)

/-- `count` turns of `at(i - 1) = std::move(at(i))`, starting at `index`.  The
slot an item is moved out of is overwritten by the next turn, or by the new item
once the loop is over. -/
def shiftBackstage : (count index : Nat) → StagingQueue T → StagingQueue T
  | 0, _, queue => queue
  | count + 1, index, queue =>
      shiftBackstage count (index + 1) (queue.writeAt (index - 1) (queue.readAt index))

/-- `popAll()`. -/
def popAll (queue : StagingQueue T) : StagingQueue T :=
  { (queue.clearFront queue.numMainstage).wrapStart with numMainstage := 0 }

/-- `push(item)`. -/
def push (queue : StagingQueue T) (item : T) : StagingQueue T × Bool :=
  let beginBackstage := queue.start + queue.numMainstage
  if queue.numBackstage = queue.capacity then
    match queue.overflowBehavior with
    | .kPop =>
        let backstageEnd := beginBackstage + queue.numBackstage
        let shifted := queue.shiftBackstage (backstageEnd - (beginBackstage + 1))
          (beginBackstage + 1)
        (shifted.writeAt (backstageEnd - 1) item, true)
    | .kReject => (queue, true)
    | .kFault => (queue, false)
  else
    ({ queue.writeAt (beginBackstage + queue.numBackstage) item with
        numBackstage := queue.numBackstage + 1 }, true)

/-- The first statements of `sync()`: the back stage items join the main stage. -/
def mergeStages (queue : StagingQueue T) : StagingQueue T :=
  { queue with
    numMainstage := queue.numMainstage + queue.numBackstage
    numBackstage := 0 }

/-- `sync()`.  The counters are already merged when the overflow is handled, and
the failing branch returns without undoing that. -/
def sync (queue : StagingQueue T) : StagingQueue T × Bool :=
  let merged := queue.mergeStages
  let excess := merged.numMainstage - merged.capacity
  if merged.numMainstage > merged.capacity then
    match merged.overflowBehavior with
    | .kPop =>
        let trimmed := { merged.clearFront excess with numMainstage := merged.capacity }
        (trimmed.wrapStart, true)
    | .kReject => ((merged.clearBack excess).wrapStart, true)
    | .kFault => (merged, false)
  else (merged.wrapStart, true)

/-- The public operations of the queue. -/
inductive Op (T : Type) where
  | push (item : T)
  | sync
  | pop
  | popAll
  | peek (index : Nat)
  | peekBackstage (index : Nat)
  | latest (index : Nat)
  | iterate
  | size
  | backSize
  | empty
  deriving DecidableEq, Repr

/-- What an operation returns. -/
inductive Out (T : Type) where
  | done
  | flag (value : Bool)
  | item (value : T)
  | count (value : Nat)
  | items (value : Option (List T))
  deriving DecidableEq, Repr

/-- The queue as a system: every operation is one critical section. -/
def system (T : Type) : System (StagingQueue T) (Op T) (Out T) where
  step queue
    | .push item => ((queue.push item).1, .flag (queue.push item).2)
    | .sync => (queue.sync.1, .flag queue.sync.2)
    | .pop => (queue.pop.1, .item queue.pop.2)
    | .popAll => (queue.popAll, .done)
    | .peek index => (queue, .item (queue.peek index))
    | .peekBackstage index => (queue, .item (queue.peekBackstage index))
    | .latest index => (queue, .item (queue.latest index))
    | .iterate =>
        (queue, .items
          (StagingQueueIterator.walk queue.items.length queue.beginIterator queue.endIterator))
    | .size => (queue, .count queue.size)
    | .backSize => (queue, .count queue.backSize)
    | .empty => (queue, .flag queue.empty)

end StagingQueue

end Gxf.Std
