import Gxf.Common.FixedVector.Vector

/-!
# The stack vector

Every variable of a program may hold a vector `FixedVector<T, N>`, whose objects live in its own
pool.  An object lives until it is destroyed.  One that was moved away from is still there, in the
state that its type leaves it in.  The memory counts the objects that nobody destroyed before their
slot was used again or given up, and the accesses to slots without an object.
-/

namespace Gxf.Common.StackVector

open Gxf.Lib

/-- The pools of all variables. -/
structure Memory (ι T : Type*) where
  slots : ι × Nat → Option T
  undestroyed : Nat
  rawAccesses : Nat

/-- The variables of a program; those without a size hold no vector. -/
structure Vectors (ι T : Type*) where
  memory : Memory ι T
  size : ι → Option Nat

/-- The operations on a vector that exists. -/
inductive Element (ι T : Type*) where
  | at (index : Nat)
  | equals (other : ι)
  | emplace (index : Nat) (object : T)
  | insertRange (pos : Nat) (source : ι) (start count : Nat)
  | erase (index : Nat)
  | popBack
  | clear
  | resize (count : Nat) (object : T)
  deriving DecidableEq, Repr

/-- What a program does with a variable. -/
inductive Call (ι T : Type*) where
  | create
  | copyConstruct (source : ι)
  | moveConstruct (source : ι)
  | copyAssign (source : ι)
  | moveAssign (source : ι)
  | element (element : Element ι T)
  | destroy
  deriving DecidableEq, Repr

/-- A call on a variable. -/
structure Op (ι T : Type*) where
  target : ι
  call : Call ι T
  deriving DecidableEq, Repr

/-- The answer of an operation. -/
abbrev Answer := Except FixedVectorError Unit

variable {ι T : Type*} [DecidableEq ι]

namespace Memory

/-- An access to a slot that holds no object. -/
def rawAccess (memory : Memory ι T) : Memory ι T :=
  { memory with rawAccesses := memory.rawAccesses + 1 }

/-- The use of an object. -/
def read (memory : Memory ι T) (src : ι × Nat) : Memory ι T :=
  if (memory.slots src).isSome then memory else memory.rawAccess

/-- `Destruct(src)`. -/
def destruct (memory : Memory ι T) (src : ι × Nat) : Memory ι T :=
  if (memory.slots src).isSome then
    { memory with slots := Function.update memory.slots src none }
  else memory.rawAccess

/-- `InplaceConstruct(dst, args)`, where the pool of every variable has `N` slots. -/
def inplaceConstruct (N : ι → Nat) (memory : Memory ι T) (dst : ι × Nat) (object : T) :
    Memory ι T :=
  if dst.2 < N dst.1 then
    { memory with
      slots := Function.update memory.slots dst (some object)
      undestroyed := memory.undestroyed + if (memory.slots dst).isSome then 1 else 0 }
  else memory.rawAccess

/-- `InplaceMoveConstruct(dst, other)` and `InplaceCopyConstruct(dst, other)`, which differ in what
they leave of the other object. -/
def inplaceConstructFrom (N : ι → Nat) (left : T → T) (memory : Memory ι T) (dst src : ι × Nat) :
    Memory ι T :=
  match memory.slots src with
  | none => memory.rawAccess
  | some object =>
      inplaceConstruct N
        { memory with slots := Function.update memory.slots src (some (left object)) } dst object

/-- `ArrayMoveConstruct(dst, src, count)` and `ArrayCopyConstruct(dst, src, count)`. -/
def arrayConstructFrom (N : ι → Nat) (left : T → T) (memory : Memory ι T) (dst src : ι × Nat)
    (count : Nat) : Memory ι T :=
  let reverse := dst.1 = src.1 ∧ dst.2 > src.2 ∧ dst.2 < src.2 + count
  ((List.range count).map fun i => if reverse then count - 1 - i else i).foldl
    (fun memory index =>
      inplaceConstructFrom N left memory (dst.1, dst.2 + index) (src.1, src.2 + index)) memory

/-- `ArrayMoveConstruct(dst, src, count)`, after which the objects at the source are what
`movedFrom` says. -/
def arrayMoveConstruct (N : ι → Nat) (movedFrom : T → T) (memory : Memory ι T) (dst src : ι × Nat)
    (count : Nat) : Memory ι T :=
  arrayConstructFrom N movedFrom memory dst src count

/-- `ArrayCopyConstruct(dst, src, count)`. -/
def arrayCopyConstruct (N : ι → Nat) (memory : Memory ι T) (dst src : ι × Nat) (count : Nat) :
    Memory ι T :=
  arrayConstructFrom N id memory dst src count

/-- The pool of a variable is given up, with all objects that are still there. -/
def release (N : ι → Nat) (memory : Memory ι T) (target : ι) : Memory ι T :=
  { memory with
    slots := fun slot => if slot.1 = target then none else memory.slots slot
    undestroyed := memory.undestroyed +
      (List.range (N target)).countP fun index => (memory.slots (target, index)).isSome }

end Memory

section Elements

variable (N : ι → Nat) (movedFrom : T → T) (target : ι)

/-- The loop of `operator==(other)`. -/
def equalsLoop [DecidableEq T] (other : ι) : (count index : Nat) → Memory ι T → Memory ι T
  | 0, _, memory => memory
  | count + 1, index, memory =>
      let read := (memory.read (target, index)).read (other, index)
      if memory.slots (target, index) ≠ memory.slots (other, index) then read
      else equalsLoop other count (index + 1) read

/-- `operator==(other)`. -/
def equals [DecidableEq T] (memory : Memory ι T) (size : Nat) (other : ι) (otherSize : Nat) :
    Memory ι T :=
  if size ≠ otherSize then memory
  else if target = other then memory
  else equalsLoop target other size 0 memory

/-- `emplace(index, args)`. -/
def emplace (memory : Memory ι T) (size index : Nat) (object : T) : (Memory ι T × Nat) × Answer :=
  if index > size then ((memory, size), .error .kArgumentOutOfRange)
  else if size = N target then ((memory, size), .error .kContainerFull)
  else
    let memory :=
      if index < size then
        memory.arrayMoveConstruct N movedFrom (target, index + 1) (target, index) (size - index)
      else memory
    ((memory.inplaceConstruct N (target, index) object, size + 1), .ok ())

/-- `push_back(obj)`. -/
def pushBack (memory : Memory ι T) (size : Nat) (object : T) : (Memory ι T × Nat) × Answer :=
  emplace N movedFrom target memory size size object

/-- `insert(index, start, end)`, with `start` and `end` pointing into another vector, `count`
elements apart. -/
def insertRange (memory : Memory ι T) (size pos : Nat) (source : ι)
    (sourceSize start count : Nat) : (Memory ι T × Nat) × Answer :=
  if pos > size ∨ pos + count > N target then ((memory, size), .error .kArgumentOutOfRange)
  else if start < sourceSize then
    ((memory.arrayCopyConstruct N (target, pos) (source, start) count, size + count), .ok ())
  else ((memory, size), .error .kInvalidIterator)

/-- `erase(index)`. -/
def erase (memory : Memory ι T) (size index : Nat) : (Memory ι T × Nat) × Answer :=
  if index ≥ size then ((memory, size), .error .kArgumentOutOfRange)
  else if size = 0 then ((memory, size), .error .kContainerEmpty)
  else
    let memory := memory.destruct (target, index)
    let size := size - 1
    ((if index < size then
        memory.arrayMoveConstruct N movedFrom (target, index) (target, index + 1) (size - index)
      else memory, size), .ok ())

/-- `pop_back()`.  The position before an empty vector wraps around. -/
def popBack (memory : Memory ι T) (size : Nat) : (Memory ι T × Nat) × Answer :=
  erase N movedFrom target memory size (if size = 0 then 2 ^ 64 - 1 else size - 1)

/-- `clear()`. -/
def clear (memory : Memory ι T) : (size : Nat) → Memory ι T
  | 0 => memory
  | size + 1 => clear (memory.destruct (target, size)) size

/-- `while (count > size_) push_back(obj)`. -/
def growTo (count : Nat) (object : T) : (fuel : Nat) → Memory ι T × Nat → Memory ι T × Nat
  | 0, vector => vector
  | fuel + 1, vector =>
      if count > vector.2 then
        growTo count object fuel (pushBack N movedFrom target vector.1 vector.2 object).1
      else vector

/-- `while (count < size_) pop_back()`. -/
def shrinkTo (count : Nat) : (fuel : Nat) → Memory ι T × Nat → Memory ι T × Nat
  | 0, vector => vector
  | fuel + 1, vector =>
      if count < vector.2 then
        shrinkTo count fuel (popBack N movedFrom target vector.1 vector.2).1
      else vector

/-- `resize(count, obj)`. -/
def resize (memory : Memory ι T) (size count : Nat) (object : T) : (Memory ι T × Nat) × Answer :=
  if count > N target then ((memory, size), .error .kArgumentOutOfRange)
  else
    let grown := growTo N movedFrom target count object count (memory, size)
    (shrinkTo N movedFrom target count grown.2 grown, .ok ())

end Elements

namespace Vectors

/-- `size()`, for a variable that holds a vector. -/
def sizeOf (vectors : Vectors ι T) (name : ι) : Nat := (vectors.size name).getD 0

def holds (vectors : Vectors ι T) (name : ι) : Bool := (vectors.size name).isSome

/-- A variable gets a size. -/
def resized (vectors : Vectors ι T) (memory : Memory ι T) (name : ι) (size : Option Nat) :
    Vectors ι T :=
  ⟨memory, Function.update vectors.size name size⟩

variable (N : ι → Nat) (movedFrom : T → T)

/-- `operator=(const FixedVector& other)`. -/
def copyAssign (vectors : Vectors ι T) (target source : ι) : Vectors ι T :=
  if target = source then vectors
  else
    vectors.resized
      (vectors.memory.arrayCopyConstruct N (target, 0) (source, 0) (vectors.sizeOf source)) target
      (some (vectors.sizeOf source))

/-- `operator=(FixedVector&& other)`. -/
def moveAssign (vectors : Vectors ι T) (target source : ι) : Vectors ι T :=
  if target = source then vectors
  else
    let memory := vectors.memory.arrayMoveConstruct N movedFrom (target, 0) (source, 0)
      (vectors.sizeOf source)
    (vectors.resized memory target (some (vectors.sizeOf source))).resized memory source
      (some (vectors.sizeOf target))

/-- An operation on a vector that exists. -/
def elementAnswer [DecidableEq T] (vectors : Vectors ι T) (target : ι) :
    Element ι T → (Memory ι T × Nat) × Answer
  | .at index =>
      if index ≥ vectors.sizeOf target then
        ((vectors.memory, vectors.sizeOf target), .error .kArgumentOutOfRange)
      else ((vectors.memory.read (target, index), vectors.sizeOf target), .ok ())
  | .equals other =>
      ((equals target vectors.memory (vectors.sizeOf target) other (vectors.sizeOf other),
        vectors.sizeOf target), .ok ())
  | .emplace index object =>
      emplace N movedFrom target vectors.memory (vectors.sizeOf target) index object
  | .insertRange pos source start count =>
      insertRange N target vectors.memory (vectors.sizeOf target) pos source
        (vectors.sizeOf source) start count
  | .erase index => erase N movedFrom target vectors.memory (vectors.sizeOf target) index
  | .popBack => popBack N movedFrom target vectors.memory (vectors.sizeOf target)
  | .clear => ((clear target vectors.memory (vectors.sizeOf target), 0), .ok ())
  | .resize count object =>
      resize N movedFrom target vectors.memory (vectors.sizeOf target) count object

/-- What a call of the language does.  A constructed vector starts with size 0. -/
def answer [DecidableEq T] (vectors : Vectors ι T) (target : ι) : Call ι T → Vectors ι T × Answer
  | .create => (vectors.resized vectors.memory target (some 0), .ok ())
  | .copyConstruct source =>
      ((vectors.resized vectors.memory target (some 0)).copyAssign N target source, .ok ())
  | .moveConstruct source =>
      ((vectors.resized vectors.memory target (some 0)).moveAssign N movedFrom target source,
      .ok ())
  | .copyAssign source => (vectors.copyAssign N target source, .ok ())
  | .moveAssign source => (vectors.moveAssign N movedFrom target source, .ok ())
  | .element element =>
      let result := vectors.elementAnswer N movedFrom target element
      (vectors.resized result.1.1 target (some result.1.2), result.2)
  | .destroy =>
      (vectors.resized ((clear target vectors.memory (vectors.sizeOf target)).release N target)
        target none, .ok ())

/-- A program can contain the call: vectors are constructed once, used while they exist, and
assigned to variables of their own type. -/
def expressible (vectors : Vectors ι T) (target : ι) : Call ι T → Bool
  | .create => !vectors.holds target
  | .copyConstruct source | .moveConstruct source =>
      !vectors.holds target && vectors.holds source && decide (N target = N source)
  | .copyAssign source | .moveAssign source =>
      vectors.holds target && vectors.holds source && decide (N target = N source)
  | .element (.equals other) => vectors.holds target && vectors.holds other
  | .element (.insertRange _ source _ _) => vectors.holds target && vectors.holds source
  | .element _ | .destroy => vectors.holds target

/-- Programs as a system.  Calls that no program contains change nothing. -/
def system [DecidableEq T] : System (Vectors ι T) (Op ι T) Answer where
  step vectors op :=
    if vectors.expressible N op.target op.call then vectors.answer N movedFrom op.target op.call
    else (vectors, .ok ())

/-- Before anything is constructed. -/
def initial : Vectors ι T := ⟨⟨fun _ => none, 0, 0⟩, fun _ => none⟩

end Vectors

end Gxf.Common.StackVector
