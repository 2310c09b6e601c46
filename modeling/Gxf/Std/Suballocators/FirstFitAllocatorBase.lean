import Mathlib.Algebra.GroupWithZero.Nat
import Mathlib.Algebra.Ring.Int.Defs
import Gxf.Lib.Run

/-!
# The first fit allocator

A segment tree over the cells of an area.  Node 1 is the root, and the children of a
node are its double and the number behind it.  Every node says how many free cells its
segment starts and ends with, how many lie in a row, and how many cells it has.

A function answers `none` when it reads or writes outside the tree, which has the nodes
from 1 to `2 * lastLayerFirstIndex - 1`, or when a loop does not end.  Integers are
unbounded here: no value in the tree of an area exceeds its size.
-/

namespace Gxf.Std

open Gxf.Lib

namespace FirstFitAllocatorBase

/-- Error codes. -/
inductive Error where
  | kAlreadyInUse
  | kInvalidSize
  | kOutOfMemory
  | kBlockNotAllocated
  | kLogicError
  deriving DecidableEq, Repr

/-- A node of the tree. -/
structure Memory where
  left : Int
  right : Int
  max : Int
  size : Int
  deriving DecidableEq, Repr

namespace Memory

/-- `update(left_child, right_child)`. -/
def update (node leftChild rightChild : Memory) : Memory where
  left :=
    if leftChild.size = leftChild.left then leftChild.size + rightChild.left else leftChild.left
  right :=
    if rightChild.size = rightChild.right then rightChild.size + leftChild.right
    else rightChild.right
  max := Max.max (rightChild.left + leftChild.right) (Max.max rightChild.max leftChild.max)
  size := node.size

/-- `set(free)`. -/
def set (node : Memory) (free : Int) : Memory :=
  { node with
    left := node.size * free
    right := node.size * free
    max := node.size * free }

end Memory

end FirstFitAllocatorBase

open FirstFitAllocatorBase

/-- The fields of the allocator. -/
structure FirstFitAllocatorBase where
  tree : Option (List Memory)
  size : Int
  lastLayerFirstIndex : Nat
  deriving DecidableEq, Repr

namespace FirstFitAllocatorBase

/-- The allocator after its construction. -/
def create : FirstFitAllocatorBase := ⟨none, 0, 0⟩

def read (tree : List Memory) (idx : Nat) : Option Memory :=
  if 0 < idx then tree[idx]? else none

def write (tree : List Memory) (idx : Nat) (node : Memory) : Option (List Memory) :=
  if 0 < idx ∧ idx < tree.length then some (tree.set idx node) else none

/-- `while (last_layer_first_index_ < size) last_layer_first_index_ *= 2`. -/
def growLayer (size : Int) : (fuel : Nat) → (lastLayerFirstIndex : Nat) → Option Nat
  | 0, _ => none
  | fuel + 1, lastLayerFirstIndex =>
      if lastLayerFirstIndex < size then growLayer size fuel (lastLayerFirstIndex * 2)
      else some lastLayerFirstIndex

/-- The loop over the leaves, of which `count` remain. -/
def fillLeaves (size : Int) (lastLayerFirstIndex : Nat) :
    (count : Nat) → List Memory → Option (List Memory)
  | 0, tree => some tree
  | count + 1, tree => do
      let idx := lastLayerFirstIndex - (count + 1)
      let leaf : Memory := if idx < size then ⟨1, 1, 1, 1⟩ else ⟨0, 0, 0, 0⟩
      let tree ← write tree (lastLayerFirstIndex + idx) leaf
      fillLeaves size lastLayerFirstIndex count tree

/-- The loop over the other nodes, down to the root. -/
def fillNodes : (idx : Nat) → List Memory → Option (List Memory)
  | 0, tree => some tree
  | idx + 1, tree => do
      let leftChild ← read tree (2 * (idx + 1))
      let rightChild ← read tree (2 * (idx + 1) + 1)
      let node ← read tree (idx + 1)
      let sized := { node with size := leftChild.size + rightChild.size }
      let tree ← write tree (idx + 1) (sized.update leftChild rightChild)
      fillNodes idx tree

/-- `allocate(size)`, where `memory` is what the new storage happens to hold, if there is
storage. -/
def allocate (allocator : FirstFitAllocatorBase) (size : Int)
    (memory : Option (Nat → Memory)) : Option (FirstFitAllocatorBase × Except Error Unit) := do
  let inUse ← match allocator.tree with
    | none => some false
    | some tree => do
        let root ← read tree 1
        some (decide (root.max ≠ allocator.size))
  if inUse then return (allocator, .error .kAlreadyInUse)
  if size ≤ 0 ∨ size ≥ 2 ^ 30 then return (allocator, .error .kInvalidSize)
  let lastLayerFirstIndex ← growLayer size size.toNat 1
  match memory with
  | none => return (⟨none, size, lastLayerFirstIndex⟩, .error .kOutOfMemory)
  | some memory =>
      let tree := (List.range (lastLayerFirstIndex * 2)).map memory
      let tree ← fillLeaves size lastLayerFirstIndex lastLayerFirstIndex tree
      let tree ← fillNodes (lastLayerFirstIndex - 1) tree
      return (⟨some tree, size, lastLayerFirstIndex⟩, .ok ())

/-- The loop of `propagateToRoot(idx)`. -/
def propagateLoop : (fuel : Nat) → List Memory → (idx : Nat) → Option (List Memory)
  | fuel, tree, idx =>
      if 0 < idx then
        match fuel with
        | 0 => none
        | fuel + 1 => do
            let node ← read tree idx
            let leftChild ← read tree (2 * idx)
            let rightChild ← read tree (2 * idx + 1)
            let tree ← write tree idx (node.update leftChild rightChild)
            propagateLoop fuel tree (idx / 2)
      else some tree

/-- `propagateToRoot(idx)`. -/
def propagateToRoot (tree : List Memory) (idx : Nat) : Option (List Memory) :=
  propagateLoop tree.length tree idx

/-- `ptr[idx].set(free); propagateToRoot(idx / 2)`. -/
def setNode (free : Int) (tree : List Memory) (idx : Nat) : Option (List Memory) := do
  let node ← read tree idx
  let tree ← write tree idx (node.set free)
  propagateToRoot tree (idx / 2)

/-- The loop of `update(left, right, free)`. -/
def updateLoop (free : Int) : (fuel : Nat) → List Memory → (left right : Nat) → Option (List Memory)
  | fuel, tree, left, right =>
      if left ≤ right then
        match fuel with
        | 0 => none
        | fuel + 1 => do
            let tree ← if left % 2 = 1 then setNode free tree left else some tree
            let left := if left % 2 = 1 then (left + 1) / 2 else left / 2
            let tree ← if right % 2 = 1 then some tree else setNode free tree right
            let right := if right % 2 = 1 then right / 2 else (right - 1) / 2
            updateLoop free fuel tree left right
      else some tree

/-- `update(left, right, free)`.  A right end in front of the leaves ends the loop before
its first round, as a right end at 0 does. -/
def update (lastLayerFirstIndex : Nat) (tree : List Memory) (left right free : Int) :
    Option (List Memory) :=
  updateLoop free tree.length tree (left + lastLayerFirstIndex).toNat
    (right + (lastLayerFirstIndex - 1)).toNat

/-- `release(index)`. -/
def release (allocator : FirstFitAllocatorBase) (index : Int) :
    Option (FirstFitAllocatorBase × Except Error Unit) := do
  if index < 0 ∨ index ≥ allocator.size then return (allocator, .error .kInvalidSize)
  let tree ← allocator.tree
  let idx := allocator.lastLayerFirstIndex + index.toNat
  let leaf ← read tree idx
  if leaf.max ≠ -1 then return (allocator, .error .kBlockNotAllocated)
  let tree ← write tree idx { leaf with size := 1, max := 1 }
  let tree ← update allocator.lastLayerFirstIndex tree index (index + leaf.size) 1
  return ({ allocator with tree := some tree }, .ok ())

/-- The loop of `acquire(size)`: where the first block of the size starts. -/
def search (size : Int) (lastLayerFirstIndex : Nat) (tree : List Memory) :
    (fuel : Nat) → (idx : Nat) → (index : Int) → Option (Except Error Int)
  | fuel, idx, index =>
      if idx < 2 * lastLayerFirstIndex then
        match fuel with
        | 0 => none
        | fuel + 1 => do
            let node ← read tree idx
            if node.left ≥ size then return .ok index
            let leftChild ← read tree (2 * idx)
            if leftChild.max ≥ size then
              search size lastLayerFirstIndex tree fuel (2 * idx) index
            else
              let rightChild ← read tree (2 * idx + 1)
              if leftChild.right + rightChild.left ≥ size then
                return .ok (index + (leftChild.size - leftChild.right))
              else
                search size lastLayerFirstIndex tree fuel (2 * idx + 1) (index + leftChild.size)
      else some (.error .kLogicError)

/-- The cells of a found block are taken, and its leaf stores its size. -/
def takeBlock (lastLayerFirstIndex : Nat) (tree : List Memory) (index size : Int) :
    Option (List Memory) := do
  let tree ← update lastLayerFirstIndex tree index (index + size) 0
  let idx := (lastLayerFirstIndex + index).toNat
  let leaf ← read tree idx
  write tree idx { leaf with max := -1, size }

/-- `acquire(size)`. -/
def acquire (allocator : FirstFitAllocatorBase) (size : Int) :
    Option (FirstFitAllocatorBase × Except Error Int) :=
  match allocator.tree with
  | none => some (allocator, .error .kOutOfMemory)
  | some tree => do
      let root ← read tree 1
      if root.max < size then return (allocator, .error .kOutOfMemory)
      match ← search size allocator.lastLayerFirstIndex tree tree.length 1 0 with
      | .error code => return (allocator, .error code)
      | .ok index =>
          let tree ← takeBlock allocator.lastLayerFirstIndex tree index size
          return ({ allocator with tree := some tree }, .ok index)

/-- Operations on an allocated area. -/
inductive Op where
  | acquire (size : Int)
  | release (index : Int)
  deriving DecidableEq, Repr

/-- What an operation answers. -/
inductive Answer where
  /-- The process is lost: a bad access, or a loop that does not end. -/
  | fault
  | acquired (result : Except Error Int)
  | released (result : Except Error Unit)
  deriving DecidableEq, Repr

def system : System FirstFitAllocatorBase Op Answer where
  step allocator
    | .acquire size =>
        match allocator.acquire size with
        | none => (allocator, .fault)
        | some (allocator, result) => (allocator, .acquired result)
    | .release index =>
        match allocator.release index with
        | none => (allocator, .fault)
        | some (allocator, result) => (allocator, .released result)

end FirstFitAllocatorBase

end Gxf.Std
