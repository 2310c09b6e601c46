import Gxf.Core.Result
import Gxf.Lib.Run
import Gxf.Lib.Tally
import Gxf.Std.Entity

/-!
# Parameter storage

The storage keeps a backend for every parameter, by the id of its component and by its key.
A component reaches a parameter through a frontend with a value of its own.  The type of a
parameter is the template argument of its backend.
-/

namespace Gxf.Core

open Gxf.Lib Gxf.Std

/-- The types of parameters: those with functions of their own, and all others. -/
inductive ParameterType where
  | int64
  | string
  | stringVector
  | handle (component : Nat)
  | other (id : Nat)
  deriving DecidableEq

/-- `Handle<T>`. -/
structure Handle where
  context : UInt64
  cid : Uid
  tid : Nat
  pointer : UInt64
  deriving DecidableEq

/-- Equality with `Handle<T>::Unspecified()`, which compares the context and the id. -/
def Handle.isUnspecified (handle : Handle) : Bool :=
  handle.context == 0 && handle.cid == kUnspecifiedUid

/-- A value of a parameter.  `Data` are the values of the types without functions of their
own. -/
inductive ParameterValue (Data : Type) where
  | int64 (value : Int64)
  | string (value : String)
  | stringVector (value : List String)
  | handle (component : Nat) (value : Handle)
  | other (id : Nat) (value : Data)

namespace ParameterValue

variable {Data : Type}

def type : ParameterValue Data → ParameterType
  | int64 _ => .int64
  | string _ => .string
  | stringVector _ => .stringVector
  | handle component _ => .handle component
  | other id _ => .other id

/-- The handle that stands for a component to be created later. -/
def isUnspecified : ParameterValue Data → Bool
  | handle _ value => value.isUnspecified
  | _ => false

end ParameterValue

/-- `ParameterBackend<T>`, with an identity of its own.  A validator is never set. -/
structure ParameterBackend (Data : Type) where
  id : Nat
  type : ParameterType
  value : Option (ParameterValue Data) := none
  frontend : Option Nat := none
  flags : UInt32
  isDynamic : Bool
  headline : String
  description : String
  typed : ∀ content, value = some content → content.type = type := by nofun

/-- A pointer to a backend: its identity, and where it is stored. -/
structure BackendPointer where
  id : Nat
  uid : Uid
  key : String
  deriving DecidableEq

/-- `Parameter<T>`. -/
structure Parameter (Data : Type) where
  value : Option (ParameterValue Data) := none
  backend : Option BackendPointer := none

/-- A pointer to a frontend, with its type. -/
structure ParameterRef where
  type : ParameterType
  address : Nat
  deriving DecidableEq

namespace ParameterBackend

variable {Data : Type} (backend : ParameterBackend Data)

/-- `isConstant()`. -/
def isConstant : Bool := backend.flags &&& 2 == 0

/-- `isImmutable()`, where no component counts as active. -/
def isImmutable : Bool :=
  if backend.isConstant then
    let isActive := false
    if isActive then true else false
  else false

def holding (content : ParameterValue Data) (same : content.type = backend.type) :
    ParameterBackend Data :=
  { backend with
    value := some content
    typed := fun _ stored => Option.some.inj stored ▸ same }

/-- `set(value)`. -/
def set (content : ParameterValue Data) (same : content.type = backend.type) :
    Except GxfResult (ParameterBackend Data) :=
  if backend.isImmutable then .error .GXF_PARAMETER_CAN_NOT_MODIFY_CONSTANT
  else .ok (backend.holding content same)

/-- `try_get()`. -/
def tryGet : Except GxfResult (ParameterValue Data) :=
  match backend.value with
  | none => .error .GXF_PARAMETER_NOT_INITIALIZED
  | some content =>
      if content.isUnspecified then .error .GXF_PARAMETER_NOT_INITIALIZED else .ok content

/-- The frontend as a pointer with a type. -/
def ref : Option ParameterRef := backend.frontend.map fun address => ⟨backend.type, address⟩

theorem isImmutable_eq_false : backend.isImmutable = false := by
  rw [isImmutable]
  split <;> rfl

theorem set_eq (content : ParameterValue Data) (same : content.type = backend.type) :
    backend.set content same = .ok (backend.holding content same) := by
  rw [set, backend.isImmutable_eq_false, if_neg Bool.false_ne_true]

end ParameterBackend

/-- `ParameterStorage` and the frontends of all components.  `made` counts the backends made
so far. -/
structure ParameterStorage (Data : Type) where
  context : UInt64
  parameters : Table Uid (Table String (ParameterBackend Data)) := ∅
  frontends : ParameterRef → Parameter Data := fun _ => {}
  made : Nat := 0

/-- The calls, with what the runtime answers when a handle is made. -/
inductive StorageOp (Data : Type) where
  | registerParameter (type : ParameterType) (frontend : Option Nat) (uid : Uid)
      (key headline description : Option String)
      (default : Option {content : ParameterValue Data // content.type = type})
      (flags : UInt32)
  | set (uid : Uid) (key : String) (value : ParameterValue Data)
  | setStr (uid : Uid) (key value : String)
  | setStrVector (uid : Uid) (key : String) (value : Option (List (Option String)))
  | setHandle (uid : Uid) (key : String) (value : Uid) (created : Except GxfResult (Nat × UInt64))
  | addGetInt64 (uid : Uid) (key : String) (delta : Int64)
  | get (type : ParameterType) (uid : Uid) (key : String)
  | clearEntityParameters (uid : Uid)
  | setFrontend (address : Nat) (value : ParameterValue Data)

/-- What a call returns.  There is no result if it dereferences a backend that does not
exist. -/
inductive StorageAnswer (Data : Type) where
  | done (result : Except GxfResult Unit)
  | value (result : Except GxfResult (ParameterValue Data))
  | sum (result : Except GxfResult Int64)
  | undefined

namespace ParameterStorage

variable {Data : Type} (storage : ParameterStorage Data)

/-- The map of a component, which is made if there is none. -/
def component (uid : Uid) : Table String (ParameterBackend Data) :=
  (storage.parameters.lookup uid).getD ∅

/-- The backend of a key. -/
def find (uid : Uid) (key : String) : Option (ParameterBackend Data) :=
  (storage.parameters.lookup uid).bind fun entries => entries.lookup key

/-- The storage with a map for a component. -/
def ensure (uid : Uid) : ParameterStorage Data :=
  { storage with parameters := storage.parameters.insert uid (storage.component uid) }

def put (uid : Uid) (key : String) (backend : ParameterBackend Data) : ParameterStorage Data :=
  { storage with
    parameters := storage.parameters.insert uid ((storage.component uid).insert key backend) }

/-- `writeToFrontend()`. -/
def writeToFrontend (backend : ParameterBackend Data) : ParameterStorage Data :=
  match backend.ref, backend.value with
  | some ref, some content =>
      { storage with
        frontends := Function.update storage.frontends ref
          { storage.frontends ref with value := some content } }
  | _, _ => storage

/-- `getBackendPointerImpl<ParameterBackend<T>>(uid, key)`. -/
def getBackendPointer (type : ParameterType) (uid : Uid) (key : String) :
    Except GxfResult (ParameterBackend Data) :=
  match storage.find uid key with
  | none => .error .GXF_PARAMETER_NOT_FOUND
  | some backend =>
      if backend.type = type then .ok backend else .error .GXF_PARAMETER_INVALID_TYPE

/-- A backend made on demand, without a frontend. -/
def dynamicBackend (type : ParameterType) (key : String) : ParameterBackend Data where
  id := storage.made
  type := type
  flags := 3
  isDynamic := true
  headline := key
  description := "N/A"

/-- The part that `set<T>` and `addGetInt64` share: the backend of a key, which is made if
there is none. -/
def demand (type : ParameterType) (uid : Uid) (key : String) :
    ParameterStorage Data × ParameterBackend Data :=
  match storage.find uid key with
  | some backend => (storage, backend)
  | none =>
      let backend := storage.dynamicBackend type key
      ({ (storage.ensure uid).put uid key backend with made := storage.made + 1 }, backend)

/-- A value is written into a backend and from there into its frontend. -/
def write (uid : Uid) (key : String) (backend : ParameterBackend Data)
    (content : ParameterValue Data) : ParameterStorage Data × Except GxfResult Unit :=
  if same : content.type = backend.type then
    match backend.set content same with
    | .error code => (storage, .error code)
    | .ok written => ((storage.put uid key written).writeToFrontend written, .ok ())
  else (storage, .error .GXF_PARAMETER_INVALID_TYPE)

/-- `set<T>(uid, key, value)`. -/
def set (uid : Uid) (key : String) (content : ParameterValue Data) :
    ParameterStorage Data × Except GxfResult Unit :=
  let found := storage.demand content.type uid key
  found.1.write uid key found.2 content

/-- `connect(backend)` of a frontend. -/
def connect (ref : ParameterRef) (pointer : BackendPointer) : ParameterStorage Data :=
  { storage with
    frontends := Function.update storage.frontends ref
      { storage.frontends ref with backend := some pointer } }

/-- `registerParameter<T>(...)`. -/
def registerParameter (type : ParameterType) (frontend : Option Nat) (uid : Uid)
    (key headline description : Option String)
    (default : Option {content : ParameterValue Data // content.type = type}) (flags : UInt32) :
    ParameterStorage Data × Except GxfResult Unit :=
  match frontend, key, headline, description with
  | some address, some key, some headline, some description =>
      match storage.find uid key with
      | some _ => (storage, .error .GXF_PARAMETER_ALREADY_REGISTERED)
      | none =>
          let backend : ParameterBackend Data :=
            { id := storage.made
              type := type
              frontend := some address
              flags := flags
              isDynamic := false
              headline := headline
              description := description }
          let connected :=
            { (storage.ensure uid).connect ⟨type, address⟩ ⟨backend.id, uid, key⟩ with
              made := storage.made + 1 }
          match default with
          | none => (connected.put uid key backend, .ok ())
          | some content =>
              match backend.set content.1 content.2 with
              | .error code => (connected, .error code)
              | .ok written => ((connected.writeToFrontend written).put uid key written, .ok ())
  | _, _, _, _ => (storage, .error .GXF_ARGUMENT_NULL)

/-- The strings of an array of strings, unless it or one of them is null. -/
def strings (value : Option (List (Option String))) : Option (List String) :=
  value.bind fun pointers => pointers.mapM id

/-- `setStrVector(uid, key, value, length)`. -/
def setStrVector (uid : Uid) (key : String) (value : Option (List (Option String))) :
    ParameterStorage Data × Except GxfResult Unit :=
  match strings value with
  | none => (storage, .error .GXF_ARGUMENT_NULL)
  | some content => storage.set uid key (.stringVector content)

/-- `setHandle(uid, key, value)`. -/
def setHandle (uid : Uid) (key : String) (value : Uid)
    (created : Except GxfResult (Nat × UInt64)) : ParameterStorage Data × Except GxfResult Unit :=
  match storage.find uid key with
  | none => (storage, .error .GXF_PARAMETER_NOT_FOUND)
  | some backend =>
      match backend.type with
      | .handle component =>
          match created with
          | .error code => (storage, .error code)
          | .ok object =>
              storage.write uid key backend
                (.handle component ⟨storage.context, value, object.1, object.2⟩)
      | _ => (storage, .error .GXF_PARAMETER_INVALID_TYPE)

def numberOf (backend : ParameterBackend Data) : Int64 :=
  match backend.tryGet with
  | .ok (.int64 number) => number
  | _ => 0

/-- `addGetInt64(uid, key, delta)`. -/
def addGetInt64 (uid : Uid) (key : String) (delta : Int64) :
    ParameterStorage Data × Except GxfResult Int64 :=
  let found := storage.demand .int64 uid key
  let sum := numberOf found.2 + delta
  let written := found.1.write uid key found.2 (.int64 sum)
  (written.1, written.2.map fun _ => sum)

/-- `get<T>(uid, key)`. -/
def get (type : ParameterType) (uid : Uid) (key : String) :
    Except GxfResult (ParameterValue Data) :=
  match storage.getBackendPointer type uid key with
  | .error code => .error code
  | .ok backend =>
      match backend.tryGet with
      | .error _ => .error .GXF_PARAMETER_NOT_INITIALIZED
      | .ok content => .ok content

/-- `clearEntityParameters(eid)`. -/
def clearEntityParameters (uid : Uid) : ParameterStorage Data × Except GxfResult Unit :=
  ({ storage with parameters := storage.parameters.erase uid }, .ok ())

/-- The backend a pointer points to, if it still exists. -/
def deref (pointer : BackendPointer) : Option (ParameterBackend Data) :=
  (storage.find pointer.uid pointer.key).filter fun backend => backend.id == pointer.id

/-- `Parameter<T>::set(value)` of a frontend.  It has no result if there is no backend. -/
def setFrontend (address : Nat) (content : ParameterValue Data) :
    ParameterStorage Data × Option (Except GxfResult Unit) :=
  let frontend := storage.frontends ⟨content.type, address⟩
  match frontend.backend with
  | none => (storage, none)
  | some pointer =>
      match storage.deref pointer with
      | none => (storage, none)
      | some backend =>
          if same : content.type = backend.type then
            match backend.set content same with
            | .error code => (storage, some (.error code))
            | .ok written =>
                ({ storage.put pointer.uid pointer.key written with
                    frontends := Function.update storage.frontends ⟨content.type, address⟩
                      { frontend with value := some content } },
                  some (.ok ()))
          else (storage, none)

/-- One call. -/
def step (storage : ParameterStorage Data) :
    StorageOp Data → ParameterStorage Data × StorageAnswer Data
  | .registerParameter type frontend uid key headline description default flags =>
      let result := storage.registerParameter type frontend uid key headline description default
        flags
      (result.1, .done result.2)
  | .set uid key value =>
      let result := storage.set uid key value
      (result.1, .done result.2)
  | .setStr uid key value =>
      let result := storage.set uid key (.string value)
      (result.1, .done result.2)
  | .setStrVector uid key value =>
      let result := storage.setStrVector uid key value
      (result.1, .done result.2)
  | .setHandle uid key value created =>
      let result := storage.setHandle uid key value created
      (result.1, .done result.2)
  | .addGetInt64 uid key delta =>
      let result := storage.addGetInt64 uid key delta
      (result.1, .sum result.2)
  | .get type uid key => (storage, .value (storage.get type uid key))
  | .clearEntityParameters uid =>
      let result := storage.clearEntityParameters uid
      (result.1, .done result.2)
  | .setFrontend address value =>
      let result := storage.setFrontend address value
      (result.1, result.2.elim .undefined .done)

/-- The storage and the calls. -/
def system : System (ParameterStorage Data) (StorageOp Data) (StorageAnswer Data) where
  step := step

variable {storage} {uid : Uid} {key : String} {backend written : ParameterBackend Data}

theorem find_put (storage : ParameterStorage Data) (uid : Uid) (key : String)
    (backend : ParameterBackend Data) (otherUid : Uid) (otherKey : String) :
    (storage.put uid key backend).find otherUid otherKey =
      if otherUid = uid ∧ otherKey = key then some backend else storage.find otherUid otherKey := by
  rw [find, put]
  by_cases sameUid : otherUid = uid
  · subst sameUid
    rw [AList.lookup_insert, Option.bind_some]
    by_cases sameKey : otherKey = key
    · subst sameKey
      rw [AList.lookup_insert, if_pos ⟨rfl, rfl⟩]
    · rw [AList.lookup_insert_ne sameKey, if_neg fun both => sameKey both.2, component, find]
      cases storage.parameters.lookup otherUid <;> rfl
  · rw [AList.lookup_insert_ne sameUid, if_neg fun both => sameUid both.1]
    rfl

theorem find_ensure (storage : ParameterStorage Data) (uid otherUid : Uid) (otherKey : String) :
    (storage.ensure uid).find otherUid otherKey = storage.find otherUid otherKey := by
  rw [find, ensure]
  by_cases sameUid : otherUid = uid
  · subst sameUid
    rw [AList.lookup_insert, Option.bind_some, component, find]
    cases storage.parameters.lookup otherUid <;> rfl
  · rw [AList.lookup_insert_ne sameUid]
    rfl

theorem find_clear (storage : ParameterStorage Data) (uid otherUid : Uid) (otherKey : String) :
    (storage.clearEntityParameters uid).1.find otherUid otherKey =
      if otherUid = uid then none else storage.find otherUid otherKey := by
  rw [find, clearEntityParameters]
  by_cases sameUid : otherUid = uid
  · subst sameUid
    rw [AList.lookup_erase, if_pos rfl]
    rfl
  · rw [AList.lookup_erase_ne sameUid, if_neg sameUid]
    rfl

end ParameterStorage

end Gxf.Core
