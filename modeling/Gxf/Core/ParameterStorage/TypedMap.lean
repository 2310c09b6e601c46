import Gxf.Core.ParameterStorage.Storage

/-!
# Typed maps

What the parameter storage is for: a map from keys to values, where an entry has a type that
stays the same, and a frontend stands for the entry it is connected to.
-/

namespace Gxf.Core

open Gxf.Lib Gxf.Std

/-- An entry has a type and perhaps a value of it. -/
structure TypedEntry (Data : Type) where
  type : ParameterType
  value : Option (ParameterValue Data)
  typed : ∀ content, value = some content → content.type = type

/-- A map of typed entries, with the entries that frontends stand for. -/
@[ext]
structure TypedMap (Data : Type) where
  entries : Uid → String → Option (TypedEntry Data) := fun _ _ => none
  connected : ParameterRef → Option (Uid × String) := fun _ => none

namespace TypedMap

variable {Data : Type} (map : TypedMap Data)

def entryOf (content : ParameterValue Data) : TypedEntry Data :=
  ⟨content.type, some content, fun _ stored => Option.some.inj stored ▸ rfl⟩

def store (uid : Uid) (key : String) (entry : TypedEntry Data) : TypedMap Data :=
  { map with
    entries := fun otherUid otherKey =>
      if otherUid = uid ∧ otherKey = key then some entry else map.entries otherUid otherKey }

/-- A value is stored under a new key, or one whose entry has its type. -/
def assign (uid : Uid) (key : String) (content : ParameterValue Data) :
    TypedMap Data × Except GxfResult Unit :=
  match map.entries uid key with
  | none => (map.store uid key (entryOf content), .ok ())
  | some entry =>
      if entry.type = content.type then (map.store uid key (entryOf content), .ok ())
      else (map, .error .GXF_PARAMETER_INVALID_TYPE)

section Assign

variable {map} {uid : Uid} {key : String} {content : ParameterValue Data} {entry : TypedEntry Data}

theorem assign_of_absent (absent : map.entries uid key = none) :
    map.assign uid key content = (map.store uid key (entryOf content), .ok ()) := by
  simp only [assign, absent]

theorem assign_of_type (present : map.entries uid key = some entry)
    (same : content.type = entry.type) :
    map.assign uid key content = (map.store uid key (entryOf content), .ok ()) := by
  simp only [assign, present, if_pos same.symm]

theorem assign_of_ne (present : map.entries uid key = some entry)
    (differs : ¬ content.type = entry.type) :
    map.assign uid key content = (map, .error .GXF_PARAMETER_INVALID_TYPE) := by
  simp only [assign, present, if_neg fun same => differs (Eq.symm same)]

end Assign

/-- A frontend is connected to a new entry. -/
def register (ref : ParameterRef) (uid : Uid) (key : String)
    (default : Option {content : ParameterValue Data // content.type = ref.type}) :
    TypedMap Data × Except GxfResult Unit :=
  match map.entries uid key with
  | some _ => (map, .error .GXF_PARAMETER_ALREADY_REGISTERED)
  | none =>
      ({ map.store uid key ⟨ref.type, default.map Subtype.val, by
            intro content stored
            obtain ⟨given, -, rfl⟩ := Option.map_eq_some_iff.mp stored
            exact given.2⟩ with
          connected := Function.update map.connected ref (some (uid, key)) },
        .ok ())

def assignHandle (uid : Uid) (key : String) (created : Except GxfResult Handle) :
    TypedMap Data × Except GxfResult Unit :=
  match map.entries uid key with
  | none => (map, .error .GXF_PARAMETER_NOT_FOUND)
  | some entry =>
      match entry.type with
      | .handle component =>
          match created with
          | .error code => (map, .error code)
          | .ok handle => (map.store uid key (entryOf (.handle component handle)), .ok ())
      | _ => (map, .error .GXF_PARAMETER_INVALID_TYPE)

/-- The number stored under a key, or 0. -/
def number (uid : Uid) (key : String) : Int64 :=
  match (map.entries uid key).bind TypedEntry.value with
  | some (.int64 stored) => stored
  | _ => 0

/-- The value stored under a key, if it has a type. -/
def read (type : ParameterType) (uid : Uid) (key : String) :
    Except GxfResult (ParameterValue Data) :=
  match map.entries uid key with
  | none => .error .GXF_PARAMETER_NOT_FOUND
  | some entry =>
      if entry.type = type then
        match entry.value with
        | none => .error .GXF_PARAMETER_NOT_INITIALIZED
        | some content =>
            if content.isUnspecified then .error .GXF_PARAMETER_NOT_INITIALIZED else .ok content
      else .error .GXF_PARAMETER_INVALID_TYPE

/-- The map without the entries of a component. -/
def clear (uid : Uid) : TypedMap Data where
  entries otherUid key := if otherUid = uid then none else map.entries otherUid key
  connected ref := (map.connected ref).filter fun place => place.1 ≠ uid

/-- One call, in a storage of some context. -/
def step (context : UInt64) (map : TypedMap Data) :
    StorageOp Data → TypedMap Data × StorageAnswer Data
  | .registerParameter type (some address) uid (some key) (some _) (some _) default _ =>
      let result := map.register ⟨type, address⟩ uid key default
      (result.1, .done result.2)
  | .registerParameter .. => (map, .done (.error .GXF_ARGUMENT_NULL))
  | .set uid key value =>
      let result := map.assign uid key value
      (result.1, .done result.2)
  | .setStr uid key value =>
      let result := map.assign uid key (.string value)
      (result.1, .done result.2)
  | .setStrVector uid key value =>
      match ParameterStorage.strings value with
      | none => (map, .done (.error .GXF_ARGUMENT_NULL))
      | some content =>
          let result := map.assign uid key (.stringVector content)
          (result.1, .done result.2)
  | .setHandle uid key value created =>
      let result := map.assignHandle uid key
        (created.map fun object => ⟨context, value, object.1, object.2⟩)
      (result.1, .done result.2)
  | .addGetInt64 uid key delta =>
      let sum := map.number uid key + delta
      let result := map.assign uid key (.int64 sum)
      (result.1, .sum (result.2.map fun _ => sum))
  | .get type uid key => (map, .value (map.read type uid key))
  | .clearEntityParameters uid => (map.clear uid, .done (.ok ()))
  | .setFrontend address value =>
      match map.connected ⟨value.type, address⟩ with
      | none => (map, .undefined)
      | some place =>
          let result := map.assign place.1 place.2 value
          (result.1, .done result.2)

/-- The map and the calls. -/
def system (context : UInt64) : System (TypedMap Data) (StorageOp Data) (StorageAnswer Data) where
  step := step context

end TypedMap

end Gxf.Core
