import Mathlib.Algebra.GroupWithZero.Nat
import Gxf.Common.MemoryUtils
import Gxf.Lib.Run

/-!
# The fixed vector

A vector whose storage is allocated once, on the stack or by `reserve`.  The storage
is raw: objects are constructed, moved and destroyed in it by hand.  A stack vector
starts with its capacity and has no `reserve`, `shrink_to_fit` and `copy_from`; a heap
vector starts empty.  Vectors are addressed by name, since two operations read another
vector.
-/

namespace Gxf.Common

open Gxf.Lib

/-- Error codes of the vector. -/
inductive FixedVectorError where
  | kOutOfMemory
  | kArgumentOutOfRange
  | kContainerEmpty
  | kContainerFull
  | kInvalidIterator
  deriving DecidableEq, Repr

/-- The fields of a vector. -/
structure FixedVector (T : Type*) where
  data : List (Option T)
  capacity : Nat
  size : Nat
  deriving DecidableEq, Repr

namespace FixedVector

variable {T ι : Type*}

/-- The answer of an operation. -/
abbrev Answer := Except FixedVectorError Unit

/-- A vector with unused storage: a stack vector, or a heap vector when the capacity
is zero. -/
def create (capacity : Nat) : FixedVector T := ⟨List.replicate capacity none, capacity, 0⟩

/-- The slots from `begin()` to `end()`. -/
def contents (vector : FixedVector T) : List (Option T) := vector.data.take vector.size

/-- `empty()`. -/
def empty (vector : FixedVector T) : Bool := vector.size == 0

/-- `full()`. -/
def full (vector : FixedVector T) : Bool := vector.size == vector.capacity

/-- `emplace(index, args)`, which `insert(index, obj)` calls with the object.  The
object is not itself an element of the vector. -/
def emplace (vector : FixedVector T) (index : Nat) (object : T) : FixedVector T × Answer :=
  if index > vector.size then (vector, .error .kArgumentOutOfRange)
  else if vector.full then (vector, .error .kContainerFull)
  else
    let data :=
      if index < vector.size then
        arrayMoveConstruct vector.data (index + 1) index (vector.size - index)
      else vector.data
    ({ vector with
        data := inplaceConstruct data index object
        size := vector.size + 1 }, .ok ())

/-- `push_back(obj)` and `emplace_back(args)`. -/
def pushBack (vector : FixedVector T) (object : T) : FixedVector T × Answer :=
  vector.emplace vector.size object

/-- `insert(index, start, end)`, with `start` and `end` pointing into `other`, `count`
elements apart. -/
def insertRange (vector other : FixedVector T) (pos start count : Nat) : FixedVector T × Answer :=
  if pos > vector.size ∨ pos + count > vector.capacity then
    (vector, .error .kArgumentOutOfRange)
  else if start < other.size then
    ({ vector with
        data := arrayCopyConstruct vector.data pos other.data start count
        size := vector.size + count }, .ok ())
  else (vector, .error .kInvalidIterator)

/-- `erase(index)`. -/
def erase (vector : FixedVector T) (index : Nat) : FixedVector T × Answer :=
  if index ≥ vector.size then (vector, .error .kArgumentOutOfRange)
  else if vector.empty then (vector, .error .kContainerEmpty)
  else
    let data := destruct vector.data index
    let size := vector.size - 1
    ({ vector with
        data :=
          if index < size then arrayMoveConstruct data index (index + 1) (size - index) else data
        size }, .ok ())

/-- `pop_back()`.  The position before an empty vector wraps around. -/
def popBack (vector : FixedVector T) : FixedVector T × Answer :=
  vector.erase (if vector.size = 0 then 2 ^ 64 - 1 else vector.size - 1)

/-- The loop of `clear()`. -/
def destructDown (slots : List (Option T)) : (size : Nat) → List (Option T)
  | 0 => slots
  | size + 1 => destructDown (destruct slots size) size

/-- `clear()`. -/
def clear (vector : FixedVector T) : FixedVector T :=
  { vector with data := destructDown vector.data vector.size, size := 0 }

/-- `while (count > size_) push_back(obj)`. -/
def growTo (count : Nat) (object : T) : (fuel : Nat) → FixedVector T → FixedVector T
  | 0, vector => vector
  | fuel + 1, vector =>
      if count > vector.size then growTo count object fuel (vector.pushBack object).1 else vector

/-- `while (count < size_) pop_back()`. -/
def shrinkTo (count : Nat) : (fuel : Nat) → FixedVector T → FixedVector T
  | 0, vector => vector
  | fuel + 1, vector =>
      if count < vector.size then shrinkTo count fuel vector.popBack.1 else vector

/-- `resize(count, obj)`, and `resize(count)` when the object is a default one. -/
def resize (vector : FixedVector T) (count : Nat) (object : T) : FixedVector T × Answer :=
  if count > vector.capacity then (vector, .error .kArgumentOutOfRange)
  else
    let grown := growTo count object count vector
    (shrinkTo count grown.size grown, .ok ())

/-- The relocation to storage of another size. -/
def reallocate (vector : FixedVector T) (capacity : Nat) : FixedVector T :=
  { vector with
    data := arrayCopyConstruct (List.replicate capacity none) 0 vector.data 0 vector.size
    capacity }

/-- `reserve(capacity)`, where `allocated` says whether the memory could be had. -/
def reserve (vector : FixedVector T) (capacity : Nat) (allocated : Bool) : FixedVector T × Answer :=
  if capacity > vector.capacity then
    if !allocated then (vector, .error .kOutOfMemory)
    else (vector.reallocate capacity, .ok ())
  else (vector, .ok ())

/-- `shrink_to_fit()`. -/
def shrinkToFit (vector : FixedVector T) (allocated : Bool) : FixedVector T × Answer :=
  if vector.size < vector.capacity then
    if !allocated then (vector, .error .kOutOfMemory)
    else (vector.reallocate vector.size, .ok ())
  else (vector, .ok ())

/-- `copy_from(other)`.  The vector is cleared before the other one, which may be the
same, is read. -/
def copyFrom [DecidableEq ι] (store : ι → FixedVector T) (target source : ι) :
    FixedVector T × Answer :=
  if (store source).size > (store target).capacity then
    (store target, .error .kArgumentOutOfRange)
  else
    let cleared := (store target).clear
    let other := Function.update store target cleared source
    ({ cleared with
        size := other.size
        data := arrayCopyConstruct cleared.data 0 other.data 0 other.size }, .ok ())

/-- The operations on a vector. -/
inductive Call (ι T : Type*) where
  | emplace (index : Nat) (object : T)
  | pushBack (object : T)
  | insertRange (pos : Nat) (source : ι) (start count : Nat)
  | erase (index : Nat)
  | popBack
  | clear
  | resize (count : Nat) (object : T)
  | reserve (capacity : Nat) (allocated : Bool)
  | shrinkToFit (allocated : Bool)
  | copyFrom (source : ι)
  deriving DecidableEq, Repr

/-- An operation together with the vector it is called on. -/
structure Op (ι T : Type*) where
  target : ι
  call : Call ι T
  deriving DecidableEq, Repr

variable [DecidableEq ι]

def answer (store : ι → FixedVector T) (target : ι) : Call ι T → FixedVector T × Answer
  | .emplace index object => (store target).emplace index object
  | .pushBack object => (store target).pushBack object
  | .insertRange pos source start count =>
      (store target).insertRange (store source) pos start count
  | .erase index => (store target).erase index
  | .popBack => (store target).popBack
  | .clear => ((store target).clear, .ok ())
  | .resize count object => (store target).resize count object
  | .reserve capacity allocated => (store target).reserve capacity allocated
  | .shrinkToFit allocated => (store target).shrinkToFit allocated
  | .copyFrom source => copyFrom store target source

def system : System (ι → FixedVector T) (Op ι T) Answer where
  step store op := (Function.update store op.target (answer store op.target op.call).1,
      (answer store op.target op.call).2)

/-- A list with a bound on its length. -/
structure Sequence (T : Type*) where
  contents : List T
  capacity : Nat
  deriving DecidableEq, Repr

namespace Sequence

/-- The list operation for each call. -/
def answer (store : ι → Sequence T) (target : ι) (call : Call ι T) : Sequence T × Answer :=
  let sequence := store target
  match call with
  | .emplace index object =>
      if index > sequence.contents.length then (sequence, .error .kArgumentOutOfRange)
      else if sequence.contents.length = sequence.capacity then
        (sequence, .error .kContainerFull)
      else
        ({ sequence with
            contents :=
              sequence.contents.take index ++ object :: sequence.contents.drop index }, .ok ())
  | .pushBack object =>
      if sequence.contents.length = sequence.capacity then (sequence, .error .kContainerFull)
      else ({ sequence with contents := sequence.contents ++ [object] }, .ok ())
  | .insertRange pos source start count =>
      if pos > sequence.contents.length ∨ pos + count > sequence.capacity then
        (sequence, .error .kArgumentOutOfRange)
      else
        ({ sequence with
            contents := sequence.contents.take pos ++
              (((store source).contents.drop start).take count ++
                sequence.contents.drop pos) }, .ok ())
  | .erase index =>
      if index ≥ sequence.contents.length then (sequence, .error .kArgumentOutOfRange)
      else ({ sequence with contents := sequence.contents.eraseIdx index }, .ok ())
  | .popBack =>
      if sequence.contents = [] then (sequence, .error .kArgumentOutOfRange)
      else ({ sequence with contents := sequence.contents.dropLast }, .ok ())
  | .clear => ({ sequence with contents := [] }, .ok ())
  | .resize count object =>
      if count > sequence.capacity then (sequence, .error .kArgumentOutOfRange)
      else
        ({ sequence with
            contents := sequence.contents.take count ++
              List.replicate (count - sequence.contents.length) object }, .ok ())
  | .reserve capacity allocated =>
      if capacity ≤ sequence.capacity then (sequence, .ok ())
      else if allocated then ({ sequence with capacity }, .ok ())
      else (sequence, .error .kOutOfMemory)
  | .shrinkToFit allocated =>
      if sequence.contents.length = sequence.capacity then (sequence, .ok ())
      else if allocated then ({ sequence with capacity := sequence.contents.length }, .ok ())
      else (sequence, .error .kOutOfMemory)
  | .copyFrom source =>
      if (store source).contents.length > sequence.capacity then
        (sequence, .error .kArgumentOutOfRange)
      else ({ sequence with contents := (store source).contents }, .ok ())

def system : System (ι → Sequence T) (Op ι T) Answer where
  step store op := (Function.update store op.target (answer store op.target op.call).1,
      (answer store op.target op.call).2)

end Sequence

end FixedVector

end Gxf.Common
