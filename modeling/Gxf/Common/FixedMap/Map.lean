import Mathlib.Data.Finmap
import Mathlib.Data.List.ReduceOption
import Gxf.Lib.Probing
import Gxf.Lib.Run

/-!
# The fixed map

A hash table of a fixed number of buckets with open addressing: a key is searched
from its hash on, up to the first bucket that is not occupied.  Maps are addressed by
name, since `copy_from` reads another map.
-/

namespace Gxf.Common

open Gxf.Lib

/-- Error codes of the map. -/
inductive FixedMapError where
  | kOutOfMemory
  | kInvalidKey
  | kDuplicateKey
  | kContainerFull
  | kInvalidIterator
  deriving DecidableEq, Repr

/-- The fields of a map.  A bucket that is not occupied is `none`. -/
structure FixedMap (Key T : Type*) where
  data : List (Option (Key × T))
  capacity : Nat
  size : Nat
  deriving DecidableEq, Repr

namespace FixedMap

variable {Key T ι : Type*}

/-- The answer of an operation: an error, or the value it refers to, if any. -/
abbrev Answer (T : Type*) := Except FixedMapError (Option T)

/-- A map without storage. -/
def create : FixedMap Key T := ⟨[], 0, 0⟩

/-- The stored pairs, in the order of the buckets. -/
def entries (map : FixedMap Key T) : List (Key × T) := map.data.reduceOption

section Search

variable (hashKey : Key → Nat)

/-- `hash(key)`. -/
def hash (map : FixedMap Key T) (key : Key) : Nat := hashKey key % map.capacity

/-- One turn of the loop of `findMatchingBucket`. -/
def visitMatching [DecidableEq Key] (map : FixedMap Key T) (key : Key) (index : Nat) :
    Option (Option Nat) :=
  match map.data.getD index none with
  | none => some none
  | some entry => if entry.1 = key then some (some index) else none

/-- One turn of the loop of `findEmptyBucket`. -/
def visitEmpty (map : FixedMap Key T) (index : Nat) : Option (Option Nat) :=
  match map.data.getD index none with
  | none => some (some index)
  | some _ => none

/-- `findMatchingBucket(key)`. -/
def findMatchingBucket [DecidableEq Key] (map : FixedMap Key T) (key : Key) : Option Nat :=
  if map.capacity = 0 then none
  else
    let start := map.hash hashKey key
    probe map.capacity (map.visitMatching key) start map.capacity start

/-- `findEmptyBucket(key)`. -/
def findEmptyBucket (map : FixedMap Key T) (key : Key) : Option Nat :=
  if map.capacity = 0 then none
  else
    let start := map.hash hashKey key
    probe map.capacity map.visitEmpty start map.capacity start

end Search

section Operations

variable [DecidableEq Key] (hashKey : Key → Nat)

/-- `contains(key)`. -/
def contains (map : FixedMap Key T) (key : Key) : Bool :=
  (map.findMatchingBucket hashKey key).isSome

def valueAt (map : FixedMap Key T) (index : Nat) : Option T :=
  (map.data.getD index none).map Prod.snd

/-- `at(key)`. -/
def atKey (map : FixedMap Key T) (key : Key) : Answer T :=
  match map.findMatchingBucket hashKey key with
  | some index => .ok (map.valueAt index)
  | none => .error .kInvalidKey

def assignAt (map : FixedMap Key T) (index : Nat) (value : T) : FixedMap Key T :=
  { map with
    data := map.data.set index ((map.data.getD index none).map fun entry => (entry.1, value)) }

/-- `emplace(key, value)`, which `insert` calls with the pair. -/
def emplace (map : FixedMap Key T) (key : Key) (value : T) :
    FixedMap Key T × Except FixedMapError Unit :=
  match map.findMatchingBucket hashKey key with
  | some _ => (map, .error .kDuplicateKey)
  | none =>
      match map.findEmptyBucket hashKey key with
      | none => (map, .error .kContainerFull)
      | some index =>
          ({ map with
              data := map.data.set index (some (key, value))
              size := map.size + 1 }, .ok ())

/-- `insert_or_assign(key, value)`. -/
def insertOrAssign (map : FixedMap Key T) (key : Key) (value : T) :
    FixedMap Key T × Except FixedMapError Unit :=
  match map.findMatchingBucket hashKey key with
  | some index => (map.assignAt index value, .ok ())
  | none => map.emplace hashKey key value

/-- `operator[](key)`, up to the bucket it refers to.  A new key gets a default value. -/
def subscript [Inhabited T] (map : FixedMap Key T) (key : Key) :
    FixedMap Key T × Except FixedMapError Nat :=
  match map.findMatchingBucket hashKey key with
  | some index => (map, .ok index)
  | none =>
      match map.emplace hashKey key default with
      | (after, .error code) => (after, .error code)
      | (after, .ok ()) =>
          match after.findMatchingBucket hashKey key with
          | some index => (after, .ok index)
          | none => (after, .error .kInvalidKey)

/-- `update(key, value)`. -/
def update (map : FixedMap Key T) (key : Key) (value : T) :
    FixedMap Key T × Except FixedMapError Unit :=
  match map.findMatchingBucket hashKey key with
  | some index => (map.assignAt index value, .ok ())
  | none => (map, .error .kInvalidKey)

/-- `erase(key)`. -/
def erase (map : FixedMap Key T) (key : Key) : FixedMap Key T × Except FixedMapError Unit :=
  match map.findMatchingBucket hashKey key with
  | some index =>
      ({ map with data := map.data.set index none, size := map.size - 1 }, .ok ())
  | none => (map, .error .kInvalidKey)

/-- `clear()`. -/
def clear (map : FixedMap Key T) : FixedMap Key T :=
  { map with data := map.data.map fun _ => none, size := 0 }

/-- The loop of `reserve` and `copy_from`: the occupied ones of some buckets are
emplaced, up to the first failure. -/
def emplaceAll : FixedMap Key T → List (Option (Key × T)) →
    FixedMap Key T × Except FixedMapError Unit
  | map, [] => (map, .ok ())
  | map, none :: buckets => emplaceAll map buckets
  | map, some entry :: buckets =>
      match map.emplace hashKey entry.1 entry.2 with
      | (after, .error code) => (after, .error code)
      | (after, .ok ()) => emplaceAll after buckets

/-- `reserve(capacity)`, where `allocated` says whether the memory could be had. -/
def reserve (map : FixedMap Key T) (capacity : Nat) (allocated : Bool) :
    FixedMap Key T × Except FixedMapError Unit :=
  if capacity > map.capacity then
    if !allocated then (map, .error .kOutOfMemory)
    else emplaceAll hashKey ⟨List.replicate capacity none, capacity, 0⟩ map.data
  else (map, .ok ())

/-- `copy_from(other)`.  The map is cleared before the other one, which may be the same,
is read. -/
def copyFrom [DecidableEq ι] (store : ι → FixedMap Key T) (target source : ι) :
    FixedMap Key T × Except FixedMapError Unit :=
  if (store source).size > (store target).capacity then (store target, .error .kContainerFull)
  else
    let cleared := (store target).clear
    let other := Function.update store target cleared source
    emplaceAll hashKey cleared other.data

end Operations

/-- The operations on a map.  Reading and assigning through `operator[]` are two calls. -/
inductive Call (ι Key T : Type*) where
  | emplace (key : Key) (value : T)
  | insertOrAssign (key : Key) (value : T)
  | subscript (key : Key)
  | subscriptAssign (key : Key) (value : T)
  | update (key : Key) (value : T)
  | erase (key : Key)
  | clear
  | reserve (capacity : Nat) (allocated : Bool)
  | copyFrom (source : ι)
  deriving DecidableEq, Repr

/-- An operation together with the map it is called on. -/
structure Op (ι Key T : Type*) where
  target : ι
  call : Call ι Key T
  deriving DecidableEq, Repr

section System

variable [DecidableEq Key] [DecidableEq ι] [Inhabited T] (hashKey : Key → Nat)

def answer (store : ι → FixedMap Key T) (target : ι) : Call ι Key T → FixedMap Key T × Answer T
  | .emplace key value =>
      let result := (store target).emplace hashKey key value
      (result.1, result.2.map fun _ => none)
  | .insertOrAssign key value =>
      let result := (store target).insertOrAssign hashKey key value
      (result.1, result.2.map fun _ => none)
  | .subscript key =>
      let result := (store target).subscript hashKey key
      (result.1, result.2.map fun index => result.1.valueAt index)
  | .subscriptAssign key value =>
      match (store target).subscript hashKey key with
      | (after, .ok index) => (after.assignAt index value, .ok (some value))
      | (after, .error code) => (after, .error code)
  | .update key value =>
      let result := (store target).update hashKey key value
      (result.1, result.2.map fun _ => none)
  | .erase key =>
      let result := (store target).erase hashKey key
      (result.1, result.2.map fun _ => none)
  | .clear => ((store target).clear, .ok none)
  | .reserve capacity allocated =>
      let result := (store target).reserve hashKey capacity allocated
      (result.1, result.2.map fun _ => none)
  | .copyFrom source =>
      let result := copyFrom hashKey store target source
      (result.1, result.2.map fun _ => none)

def system : System (ι → FixedMap Key T) (Op ι Key T) (Answer T) where
  step store op := (Function.update store op.target (answer hashKey store op.target op.call).1,
      (answer hashKey store op.target op.call).2)

end System

/-- A finite map with a bound on its number of keys. -/
structure Bounded (Key T : Type*) where
  pairs : Finmap fun _ : Key => T
  capacity : Nat

namespace Bounded

variable [DecidableEq Key] [DecidableEq ι] [Inhabited T]

/-- Storing a value, unless the key is new and there is no room for it. -/
def store (map : Bounded Key T) (key : Key) (value : T) (answer : Option T) :
    Bounded Key T × Answer T :=
  if key ∉ map.pairs ∧ map.pairs.keys.card = map.capacity then (map, .error .kContainerFull)
  else ({ map with pairs := map.pairs.insert key value }, .ok answer)

/-- The operation on finite maps for each call. -/
def answer (maps : ι → Bounded Key T) (target : ι) (call : Call ι Key T) :
    Bounded Key T × Answer T :=
  let map := maps target
  match call with
  | .emplace key value =>
      if key ∈ map.pairs then (map, .error .kDuplicateKey) else map.store key value none
  | .insertOrAssign key value => map.store key value none
  | .subscript key =>
      match map.pairs.lookup key with
      | some value => (map, .ok (some value))
      | none => map.store key default (some default)
  | .subscriptAssign key value => map.store key value (some value)
  | .update key value =>
      if key ∈ map.pairs then map.store key value none else (map, .error .kInvalidKey)
  | .erase key =>
      if key ∈ map.pairs then ({ map with pairs := map.pairs.erase key }, .ok none)
      else (map, .error .kInvalidKey)
  | .clear => ({ map with pairs := ∅ }, .ok none)
  | .reserve capacity allocated =>
      if capacity ≤ map.capacity then (map, .ok none)
      else if allocated then ({ map with capacity }, .ok none)
      else (map, .error .kOutOfMemory)
  | .copyFrom source =>
      if (maps source).pairs.keys.card > map.capacity then (map, .error .kContainerFull)
      else ({ map with pairs := (maps source).pairs }, .ok none)

def system : System (ι → Bounded Key T) (Op ι Key T) (Answer T) where
  step maps op := (Function.update maps op.target (answer maps op.target op.call).1,
      (answer maps op.target op.call).2)

end Bounded

end FixedMap

end Gxf.Common
