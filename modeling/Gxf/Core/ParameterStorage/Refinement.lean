import Gxf.Core.ParameterStorage.TypedMap

/-!
# The parameter storage is a typed map

Every call answers as a typed map does.  A frontend holds the value of its backend, unless it
was registered a second time while it was connected already.
-/

namespace Gxf.Core.ParameterStorage

open Gxf.Lib Gxf.Std ParameterBackend Function TypedMap

variable {Data : Type} {storage next : ParameterStorage Data} {uid : Uid} {key : String}
  {backend : ParameterBackend Data} {content : ParameterValue Data} {ref : ParameterRef}

/-- The storage after a value is written into an existing backend and its frontend. -/
def rewritten (storage : ParameterStorage Data) (uid : Uid) (key : String)
    (backend : ParameterBackend Data) (content : ParameterValue Data)
    (same : content.type = backend.type) : ParameterStorage Data :=
  (storage.put uid key (backend.holding content same)).writeToFrontend
    (backend.holding content same)

/-- The storage with a backend made on demand. -/
def demanded (storage : ParameterStorage Data) (type : ParameterType) (uid : Uid)
    (key : String) : ParameterStorage Data :=
  { (storage.ensure uid).put uid key (storage.dynamicBackend type key) with
    made := storage.made + 1 }

/-- The storage after a value is written into a backend made for it. -/
def created (storage : ParameterStorage Data) (uid : Uid) (key : String)
    (content : ParameterValue Data) : ParameterStorage Data :=
  (storage.demanded content.type uid key).rewritten uid key
    (storage.dynamicBackend content.type key) content rfl

theorem typed_default {ref : ParameterRef}
    (default : Option {content : ParameterValue Data // content.type = ref.type})
    (content : ParameterValue Data) (stored : default.map Subtype.val = some content) :
    content.type = ref.type := by
  obtain ⟨given, -, rfl⟩ := Option.map_eq_some_iff.mp stored
  exact given.2

def staticBackend (storage : ParameterStorage Data) (ref : ParameterRef)
    (headline description : String)
    (default : Option {content : ParameterValue Data // content.type = ref.type})
    (flags : UInt32) : ParameterBackend Data where
  id := storage.made
  type := ref.type
  value := default.map Subtype.val
  frontend := some ref.address
  flags := flags
  isDynamic := false
  headline := headline
  description := description
  typed := typed_default default

/-- The storage after a frontend is connected to a backend made for it. -/
def registered (storage : ParameterStorage Data) (ref : ParameterRef) (uid : Uid) (key : String)
    (backend : ParameterBackend Data) : ParameterStorage Data :=
  let connected :=
    { (storage.ensure uid).connect ref ⟨backend.id, uid, key⟩ with made := storage.made + 1 }
  (connected.writeToFrontend backend).put uid key backend

theorem write_of_type (same : content.type = backend.type) : storage.write uid key backend content =
      (storage.rewritten uid key backend content same, .ok ()) := by
  rw [write, dif_pos same, backend.set_eq content same]
  rfl

theorem write_of_ne (differs : ¬ content.type = backend.type) :
    storage.write uid key backend content = (storage, .error .GXF_PARAMETER_INVALID_TYPE) :=
  dif_neg differs

theorem set_of_absent (absent : storage.find uid key = none) (content : ParameterValue Data) :
    storage.set uid key content = (storage.created uid key content, .ok ()) := by
  simp only [set, demand, absent]
  exact write_of_type rfl

theorem set_of_found (found : storage.find uid key = some backend) (content : ParameterValue Data) :
    storage.set uid key content = storage.write uid key backend content := by
  simp only [set, demand, found]

theorem registerParameter_of_absent (absent : storage.find uid key = none)
    (ref : ParameterRef) (headline description : String)
    (default : Option {content : ParameterValue Data // content.type = ref.type})
    (flags : UInt32) :
    storage.registerParameter ref.type (some ref.address) uid (some key) (some headline)
        (some description) default flags =
      (storage.registered ref uid key
        (storage.staticBackend ref headline description default flags), .ok ()) := by
  simp only [registerParameter, absent]
  cases default with
  | none => rfl
  | some content =>
      simp only [set_eq]
      rfl

/-! ## Frames -/

@[simp] theorem find_writeToFrontend (storage : ParameterStorage Data)
    (backend : ParameterBackend Data) (uid : Uid) (key : String) :
    (storage.writeToFrontend backend).find uid key = storage.find uid key := by
  rw [writeToFrontend]
  split <;> rfl

theorem backend_writeToFrontend (storage : ParameterStorage Data)
    (backend : ParameterBackend Data) (ref : ParameterRef) :
    ((storage.writeToFrontend backend).frontends ref).backend =
      (storage.frontends ref).backend := by
  rw [writeToFrontend]
  split
  next other _ _ _ =>
    by_cases same : ref = other
    · subst same
      simp only [update_self]
    · simp only [update_of_ne same]
  next => rfl

theorem value_writeToFrontend (storage : ParameterStorage Data)
    (backend : ParameterBackend Data) (ref : ParameterRef) :
    ((storage.writeToFrontend backend).frontends ref).value =
      if backend.ref = some ref ∧ backend.value.isSome then backend.value
      else (storage.frontends ref).value := by
  rw [writeToFrontend]
  split
  next other content connected holds =>
    by_cases same : ref = other
    · subst same
      rw [connected, holds, if_pos ⟨rfl, rfl⟩]
      simp only [update_self]
    · rw [connected, if_neg fun both => same (Option.some.inj both.1).symm]
      simp only [update_of_ne same]
  next none =>
    rw [if_neg]
    rintro ⟨connected, holds⟩
    obtain ⟨content, stored⟩ := Option.isSome_iff_exists.mp holds
    exact none _ _ connected stored

theorem made_writeToFrontend (storage : ParameterStorage Data)
    (backend : ParameterBackend Data) : (storage.writeToFrontend backend).made = storage.made := by
  rw [writeToFrontend]
  split <;> rfl

theorem context_writeToFrontend (storage : ParameterStorage Data)
    (backend : ParameterBackend Data) :
    (storage.writeToFrontend backend).context = storage.context := by
  rw [writeToFrontend]
  split <;> rfl

section Rewritten

variable (storage) (uid) (key) (backend) (same : content.type = backend.type)

theorem find_rewritten (otherUid : Uid) (otherKey : String) :
    (storage.rewritten uid key backend content same).find otherUid otherKey =
      if otherUid = uid ∧ otherKey = key then some (backend.holding content same)
      else storage.find otherUid otherKey := by
  rw [rewritten, find_writeToFrontend, find_put]

theorem pointer_rewritten (ref : ParameterRef) :
    ((storage.rewritten uid key backend content same).frontends ref).backend =
      (storage.frontends ref).backend := by
  rw [rewritten, backend_writeToFrontend]
  rfl

theorem value_rewritten (ref : ParameterRef) :
    ((storage.rewritten uid key backend content same).frontends ref).value =
      if backend.ref = some ref then some content else (storage.frontends ref).value := by
  rw [rewritten, value_writeToFrontend]
  simp only [holding, Option.isSome_some, and_true]
  rfl

theorem made_rewritten : (storage.rewritten uid key backend content same).made = storage.made := by
  rw [rewritten, made_writeToFrontend]
  rfl

end Rewritten

/-- The backend a value is stored in when there was none. -/
def createdBackend (storage : ParameterStorage Data) (key : String)
    (content : ParameterValue Data) : ParameterBackend Data :=
  (storage.dynamicBackend content.type key).holding content rfl

theorem ref_createdBackend (storage : ParameterStorage Data) (key : String)
    (content : ParameterValue Data) : (storage.createdBackend key content).ref = none := rfl

theorem ref_staticBackend (storage : ParameterStorage Data) (ref : ParameterRef)
    (headline description : String)
    (default : Option {content : ParameterValue Data // content.type = ref.type})
    (flags : UInt32) :
    (storage.staticBackend ref headline description default flags).ref = some ref := rfl

theorem find_demanded (storage : ParameterStorage Data) (type : ParameterType) (uid : Uid)
    (key : String) (otherUid : Uid) (otherKey : String) :
    (storage.demanded type uid key).find otherUid otherKey =
      if otherUid = uid ∧ otherKey = key then some (storage.dynamicBackend type key)
      else storage.find otherUid otherKey := by
  rw [← find_ensure storage uid]
  exact find_put _ _ _ _ _ _

theorem find_created (storage : ParameterStorage Data) (uid : Uid) (key : String)
    (content : ParameterValue Data) (otherUid : Uid) (otherKey : String) :
    (storage.created uid key content).find otherUid otherKey =
      if otherUid = uid ∧ otherKey = key then some (storage.createdBackend key content)
      else storage.find otherUid otherKey := by
  refine (find_rewritten _ uid key _ _ otherUid otherKey).trans ?_
  rw [find_demanded]
  split <;> rfl

theorem pointer_created (storage : ParameterStorage Data) (uid : Uid) (key : String)
    (content : ParameterValue Data) (ref : ParameterRef) :
    ((storage.created uid key content).frontends ref).backend =
      (storage.frontends ref).backend :=
  pointer_rewritten (storage.demanded content.type uid key) uid key _ _ ref

theorem value_created (storage : ParameterStorage Data) (uid : Uid) (key : String)
    (content : ParameterValue Data) (ref : ParameterRef) :
    ((storage.created uid key content).frontends ref).value = (storage.frontends ref).value :=
  (value_rewritten (storage.demanded content.type uid key) uid key _ _ ref).trans (if_neg nofun)

theorem made_created (storage : ParameterStorage Data) (uid : Uid) (key : String)
    (content : ParameterValue Data) :
    (storage.created uid key content).made = storage.made + 1 :=
  made_rewritten (storage.demanded content.type uid key) uid key _ _

section Registered

variable (storage) (ref) (uid) (key) (backend)

theorem find_registered (otherUid : Uid) (otherKey : String) :
    (storage.registered ref uid key backend).find otherUid otherKey =
      if otherUid = uid ∧ otherKey = key then some backend
      else storage.find otherUid otherKey := by
  rw [registered, find_put, find_writeToFrontend, ← find_ensure storage uid]
  rfl

theorem pointer_registered (other : ParameterRef) :
    ((storage.registered ref uid key backend).frontends other).backend =
      if other = ref then some ⟨backend.id, uid, key⟩ else (storage.frontends other).backend := by
  have kept := backend_writeToFrontend
    ({ (storage.ensure uid).connect ref ⟨backend.id, uid, key⟩ with
      made := storage.made + 1 } : ParameterStorage Data) backend other
  refine kept.trans ?_
  by_cases same : other = ref
  · subst same
    simp only [connect, update_self, if_pos]
  · simp only [connect, update_of_ne same, if_neg same]
    rfl

theorem value_registered (other : ParameterRef) :
    ((storage.registered ref uid key backend).frontends other).value =
      if backend.ref = some other ∧ backend.value.isSome then backend.value
      else (storage.frontends other).value := by
  have written := value_writeToFrontend
    ({ (storage.ensure uid).connect ref ⟨backend.id, uid, key⟩ with
      made := storage.made + 1 } : ParameterStorage Data) backend other
  refine written.trans (if_congr Iff.rfl rfl ?_)
  by_cases same : other = ref
  · subst same
    simp only [connect, update_self]
    rfl
  · simp only [connect, update_of_ne same]
    rfl

theorem made_registered : (storage.registered ref uid key backend).made = storage.made + 1 := by
  have kept := made_writeToFrontend ({ (storage.ensure uid).connect ref ⟨backend.id, uid, key⟩ with
      made := storage.made + 1 } : ParameterStorage Data) backend
  exact kept

end Registered

/-- The storage without the parameters of a component. -/
abbrev cleared (storage : ParameterStorage Data) (uid : Uid) : ParameterStorage Data :=
  (storage.clearEntityParameters uid).1

/-! ## The typed map of a storage -/

/-- What a backend stores. -/
def entry (backend : ParameterBackend Data) : TypedEntry Data :=
  ⟨backend.type, backend.value, backend.typed⟩

/-- The entries of the backends, and for every frontend the place of its backend, if that
still exists. -/
def typedMap (storage : ParameterStorage Data) : TypedMap Data where
  entries uid key := (storage.find uid key).map entry
  connected ref := (storage.frontends ref).backend.bind fun pointer =>
    (storage.deref pointer).map fun _ => (pointer.uid, pointer.key)

theorem entries_typedMap (storage : ParameterStorage Data) (uid : Uid) (key : String) :
    storage.typedMap.entries uid key = (storage.find uid key).map entry := rfl

theorem deref_eq_some_iff {pointer : BackendPointer} : storage.deref pointer = some backend ↔
      storage.find pointer.uid pointer.key = some backend ∧ backend.id = pointer.id := by
  rw [deref, Option.filter_eq_some_iff, beq_iff_eq]

theorem connected_eq_some_iff {place : Uid × String} : storage.typedMap.connected ref = some place ↔
      ∃ id backend, (storage.frontends ref).backend = some ⟨id, place.1, place.2⟩ ∧
        storage.find place.1 place.2 = some backend ∧ backend.id = id := by
  simp only [typedMap, Option.bind_eq_some_iff, Option.map_eq_some_iff, deref_eq_some_iff]
  constructor
  · rintro ⟨⟨id, uid, key⟩, points, backend, ⟨found, same⟩, rfl⟩
    exact ⟨id, backend, points, found, same⟩
  · rintro ⟨id, backend, points, found, same⟩
    exact ⟨_, points, backend, ⟨found, same⟩, rfl⟩

theorem connected_congr (pointers : (next.frontends ref).backend = (storage.frontends ref).backend)
    (alive : ∀ pointer, (storage.frontends ref).backend = some pointer →
      ((∃ backend, next.find pointer.uid pointer.key = some backend ∧ backend.id = pointer.id) ↔
        ∃ backend, storage.find pointer.uid pointer.key = some backend ∧ backend.id = pointer.id)) :
    next.typedMap.connected ref = storage.typedMap.connected ref := by
  apply Option.ext
  intro place
  rw [connected_eq_some_iff, connected_eq_some_iff, pointers]
  constructor
  · rintro ⟨id, backend, points, found, same⟩
    obtain ⟨other, foundThere, sameThere⟩ := (alive _ points).mp ⟨backend, found, same⟩
    exact ⟨id, other, points, foundThere, sameThere⟩
  · rintro ⟨id, backend, points, found, same⟩
    obtain ⟨other, foundThere, sameThere⟩ := (alive _ points).mpr ⟨backend, found, same⟩
    exact ⟨id, other, points, foundThere, sameThere⟩

theorem entries_congr {entryThere : TypedEntry Data}
    (finds : ∀ otherUid otherKey, next.find otherUid otherKey =
      if otherUid = uid ∧ otherKey = key then some backend else storage.find otherUid otherKey)
    (same : entry backend = entryThere) :
    next.typedMap.entries = (storage.typedMap.store uid key entryThere).entries := by
  funext otherUid otherKey
  simp only [typedMap, store, finds, ← same]
  split <;> rfl

theorem entry_holding (same : content.type = backend.type) :
    entry (backend.holding content same) = entryOf content := by
  simp only [entry, holding, entryOf, same]

/-- Identities are given once, and a pointer to an existing backend comes from its frontend. -/
structure WellFormed (storage : ParameterStorage Data) : Prop where
  born : ∀ uid key backend, storage.find uid key = some backend → backend.id < storage.made
  pointed : ∀ ref pointer, (storage.frontends ref).backend = some pointer →
    pointer.id < storage.made
  connected : ∀ ref pointer backend, (storage.frontends ref).backend = some pointer →
    storage.deref pointer = some backend → backend.ref = some ref

theorem typedMap_rewritten (found : storage.find uid key = some backend)
    (same : content.type = backend.type) :
    (storage.rewritten uid key backend content same).typedMap =
      storage.typedMap.store uid key (entryOf content) := by
  refine TypedMap.ext (entries_congr (find_rewritten storage uid key backend same)
    (entry_holding same)) (funext fun ref => ?_)
  refine connected_congr (pointer_rewritten storage uid key backend same ref) fun pointer _ => ?_
  rw [find_rewritten]
  split
  next here =>
    rw [here.1, here.2, found]
    simp [holding]
  next => rfl

theorem typedMap_created (wellFormed : storage.WellFormed) (absent : storage.find uid key = none)
    (content : ParameterValue Data) :
    (storage.created uid key content).typedMap =
      storage.typedMap.store uid key (entryOf content) := by
  refine TypedMap.ext (entries_congr (find_created storage uid key content)
    (entry_holding _)) (funext fun ref => ?_)
  refine connected_congr (pointer_created storage uid key content ref) fun pointer points => ?_
  have older := wellFormed.pointed ref pointer points
  rw [find_created]
  split
  next here =>
    rw [here.1, here.2, absent]
    simp [createdBackend, holding, dynamicBackend, Nat.ne_of_gt older]
  next => rfl

theorem typedMap_registered (wellFormed : storage.WellFormed)
    (absent : storage.find uid key = none) (ref : ParameterRef) (headline description : String)
    (default : Option {content : ParameterValue Data // content.type = ref.type})
    (flags : UInt32) :
    storage.typedMap.register ref uid key default = ((storage.registered ref uid key
        (storage.staticBackend ref headline description default flags)).typedMap, .ok ()) := by
  have none : storage.typedMap.entries uid key = none := by
    rw [entries_typedMap, absent]
    rfl
  simp only [register, none]
  refine congrArg (fun map => (map, _)) (TypedMap.ext ?_ ?_)
  · exact (entries_congr (find_registered storage uid key
      (storage.staticBackend ref headline description default flags) ref) rfl).symm
  · funext other
    dsimp only
    by_cases same : other = ref
    · subst same
      rw [update_self, eq_comm, connected_eq_some_iff]
      refine ⟨storage.made, storage.staticBackend other headline description default flags, ?_,
        ?_, rfl⟩
      · rw [pointer_registered, if_pos rfl]
        rfl
      · rw [find_registered, if_pos ⟨rfl, rfl⟩]
    · rw [update_of_ne same]
      refine (connected_congr ?_ fun pointer points => ?_).symm
      · rw [pointer_registered, if_neg same]
      · have older := wellFormed.pointed other pointer points
        rw [find_registered]
        split
        next here =>
          rw [here.1, here.2, absent]
          simp [staticBackend, Nat.ne_of_gt older]
        next => rfl

theorem typedMap_cleared (storage : ParameterStorage Data) (uid : Uid) :
    (storage.cleared uid).typedMap = storage.typedMap.clear uid := by
  refine TypedMap.ext ?_ ?_
  · funext otherUid otherKey
    simp only [typedMap, clear, find_clear]
    split <;> rfl
  · funext ref
    apply Option.ext
    intro place
    rw [connected_eq_some_iff]
    simp only [clear, Option.filter_eq_some_iff, connected_eq_some_iff, find_clear]
    by_cases here : place.1 = uid
    · simp [here]
    · simp only [here, if_false]
      exact (and_iff_left (decide_eq_true here)).symm

/-! ## One call -/

/-- What a call leaves behind. -/
inductive Effect (storage : ParameterStorage Data) : StorageOp Data → ParameterStorage Data → Prop
  | keeps (op : StorageOp Data) : Effect storage op storage
  | rewritten (op : StorageOp Data) (uid : Uid) (key : String) (backend : ParameterBackend Data)
      (content : ParameterValue Data) (same : content.type = backend.type)
      (found : storage.find uid key = some backend) :
      Effect storage op (storage.rewritten uid key backend content same)
  | created (op : StorageOp Data) (uid : Uid) (key : String) (content : ParameterValue Data)
      (absent : storage.find uid key = none) :
      Effect storage op (storage.created uid key content)
  | registered (ref : ParameterRef) (uid : Uid) (key headline description : String)
      (default : Option {content : ParameterValue Data // content.type = ref.type})
      (flags : UInt32) (absent : storage.find uid key = none) :
      Effect storage (.registerParameter ref.type (some ref.address) uid (some key) (some headline)
          (some description) default flags)
        (storage.registered ref uid key
          (storage.staticBackend ref headline description default flags))
  | cleared (uid : Uid) : Effect storage (.clearEntityParameters uid) (storage.cleared uid)

/-- A call does to the storage what it does to the typed map, and answers the same. -/
def Simulates (storage : ParameterStorage Data) (op : StorageOp Data) : Prop :=
  (storage.step op).2 = (TypedMap.step storage.context storage.typedMap op).2 ∧
    (storage.step op).1.typedMap = (TypedMap.step storage.context storage.typedMap op).1 ∧
    Effect storage op (storage.step op).1

theorem assign_spec (wellFormed : storage.WellFormed) (op : StorageOp Data) (uid : Uid)
    (key : String) (content : ParameterValue Data) :
    (storage.set uid key content).2 = (storage.typedMap.assign uid key content).2 ∧
      (storage.set uid key content).1.typedMap = (storage.typedMap.assign uid key content).1 ∧
      Effect storage op (storage.set uid key content).1 := by
  cases found : storage.find uid key with
  | none =>
      have absent : storage.typedMap.entries uid key = none := by
        rw [entries_typedMap, found]
        rfl
      rw [set_of_absent found, assign_of_absent absent]
      exact ⟨rfl, typedMap_created wellFormed found content, .created op uid key content found⟩
  | some backend =>
      have present : storage.typedMap.entries uid key = some (entry backend) := by
        rw [entries_typedMap, found]
        rfl
      rw [set_of_found found]
      by_cases same : content.type = backend.type
      · rw [write_of_type same, assign_of_type present same]
        exact ⟨rfl, typedMap_rewritten found same, .rewritten op uid key backend content same found⟩
      · rw [write_of_ne same, assign_of_ne present same]
        exact ⟨rfl, rfl, .keeps op⟩

theorem register_spec (wellFormed : storage.WellFormed) (type : ParameterType)
    (frontend : Option Nat) (uid : Uid) (key headline description : Option String)
    (default : Option {content : ParameterValue Data // content.type = type}) (flags : UInt32) :
    Simulates storage
      (.registerParameter type frontend uid key headline description default flags) := by
  rcases frontend with - | address
  · exact ⟨rfl, rfl, .keeps _⟩
  rcases key with - | key
  · exact ⟨rfl, rfl, .keeps _⟩
  rcases headline with - | headline
  · exact ⟨rfl, rfl, .keeps _⟩
  rcases description with - | description
  · exact ⟨rfl, rfl, .keeps _⟩
  cases found : storage.find uid key with
  | none =>
      have concrete := registerParameter_of_absent found ⟨type, address⟩ headline description
        default flags
      have abstract := typedMap_registered wellFormed found ⟨type, address⟩ headline description
        default flags
      simp only [Simulates, step, TypedMap.step]
      dsimp only at concrete
      rw [concrete, abstract]
      exact ⟨rfl, rfl, .registered ⟨type, address⟩ uid key headline description default flags found⟩
  | some backend =>
      have present : storage.typedMap.entries uid key = some (entry backend) := by
        rw [entries_typedMap, found]
        rfl
      simp only [Simulates, step, TypedMap.step, registerParameter, found, register,
        present]
      exact ⟨trivial, trivial, .keeps _⟩

theorem setHandle_spec (uid : Uid) (key : String) (value : Uid)
    (answer : Except GxfResult (Nat × UInt64)) :
    Simulates storage (.setHandle uid key value answer) := by
  cases found : storage.find uid key with
  | none =>
      have absent : storage.typedMap.entries uid key = none := by
        rw [entries_typedMap, found]
        rfl
      simp only [Simulates, step, TypedMap.step, setHandle, found, assignHandle, absent]
      exact ⟨trivial, trivial, .keeps _⟩
  | some backend =>
      have present : storage.typedMap.entries uid key = some (entry backend) := by
        rw [entries_typedMap, found]
        rfl
      have typed : (entry backend).type = backend.type := rfl
      simp only [Simulates, step, TypedMap.step, setHandle, found, assignHandle,
        present, typed]
      cases type : backend.type with
      | handle component =>
          cases answer with
          | error code => exact ⟨rfl, rfl, .keeps _⟩
          | ok object =>
              have same : (ParameterValue.handle component
                  ⟨storage.context, value, object.1, object.2⟩ : ParameterValue Data).type =
                  backend.type := type.symm
              dsimp only
              rw [write_of_type same]
              exact ⟨rfl, typedMap_rewritten found same, .rewritten _ uid key backend _ same found⟩
      | int64 | string | stringVector | other => exact ⟨rfl, rfl, .keeps _⟩

theorem addGetInt64_eq (storage : ParameterStorage Data) (uid : Uid) (key : String)
    (delta : Int64) :
    storage.addGetInt64 uid key delta =
      ((storage.set uid key (.int64 (storage.typedMap.number uid key + delta))).1,
        (storage.set uid key (.int64 (storage.typedMap.number uid key + delta))).2.map
          fun _ => storage.typedMap.number uid key + delta) := by
  have held : numberOf (storage.demand .int64 uid key).2 = storage.typedMap.number uid key := by
    rw [TypedMap.number, entries_typedMap]
    cases found : storage.find uid key with
    | none =>
        simp only [demand, found]
        rfl
    | some backend =>
        simp only [demand, found, numberOf, tryGet, Option.map_some,
          Option.bind_some, entry]
        rcases backend.value with - | (number | _ | _ | ⟨component, handle⟩ | _) <;>
          simp [ParameterValue.isUnspecified]
        by_cases unspecified : handle.isUnspecified = true <;> simp [unspecified]
  simp only [addGetInt64, held]
  rfl

theorem get_eq (storage : ParameterStorage Data) (type : ParameterType) (uid : Uid)
    (key : String) : storage.get type uid key = storage.typedMap.read type uid key := by
  rw [get, getBackendPointer, TypedMap.read, entries_typedMap]
  cases storage.find uid key with
  | none => rfl
  | some backend =>
      by_cases same : backend.type = type
      · simp only [Option.map_some, entry, if_pos same, tryGet]
        cases backend.value with
        | none => rfl
        | some content =>
            dsimp only
            cases content.isUnspecified <;> rfl
      · simp only [Option.map_some, entry, if_neg same]

theorem setFrontend_spec (wellFormed : storage.WellFormed) (address : Nat)
    (content : ParameterValue Data) : Simulates storage (.setFrontend address content) := by
  have connected : storage.typedMap.connected ⟨content.type, address⟩ =
      (storage.frontends ⟨content.type, address⟩).backend.bind fun pointer =>
        (storage.deref pointer).map fun _ => (pointer.uid, pointer.key) := rfl
  simp only [Simulates, step, TypedMap.step, setFrontend, connected]
  cases points : (storage.frontends ⟨content.type, address⟩).backend with
  | none => exact ⟨rfl, rfl, .keeps _⟩
  | some pointer =>
      cases found : storage.deref pointer with
      | none =>
          simp only [Option.bind_some, found]
          exact ⟨rfl, rfl, .keeps _⟩
      | some backend =>
          have isRef := wellFormed.connected _ pointer backend points found
          have stored := (deref_eq_some_iff.mp found).1
          have same : content.type = backend.type := by
            obtain ⟨number, -, equal⟩ := Option.map_eq_some_iff.mp isRef
            exact (congrArg ParameterRef.type equal).symm
          have present : storage.typedMap.entries pointer.uid pointer.key =
              some (entry backend) := by
            rw [entries_typedMap, stored]
            rfl
          have both : ({ storage.put pointer.uid pointer.key (backend.holding content same) with
              frontends := update storage.frontends ⟨content.type, address⟩
                { value := some content, backend := some pointer } } :
              ParameterStorage Data) =
              storage.rewritten pointer.uid pointer.key backend content same := by
            have refThere : (backend.holding content same).ref =
                some ⟨content.type, address⟩ := isRef
            rw [← points, rewritten, writeToFrontend, refThere]
            rfl
          simp only [Option.bind_some, found, Option.map_some, dif_pos same, backend.set_eq, both,
            assign_of_type present same]
          exact ⟨rfl, typedMap_rewritten stored same, .rewritten _ _ _ backend content same stored⟩

/-- Every call does what it does to a typed map. -/
theorem simulates (wellFormed : storage.WellFormed) (op : StorageOp Data) :
    Simulates storage op := by
  cases op with
  | registerParameter type frontend uid key headline description default flags =>
      exact register_spec wellFormed type frontend uid key headline description default flags
  | set uid key value =>
      obtain ⟨answer, map, effect⟩ := assign_spec wellFormed (.set uid key value) uid key value
      exact ⟨congrArg StorageAnswer.done answer, map, effect⟩
  | setStr uid key value =>
      obtain ⟨answer, map, effect⟩ :=
        assign_spec wellFormed (.setStr uid key value) uid key (.string value)
      exact ⟨congrArg StorageAnswer.done answer, map, effect⟩
  | setStrVector uid key value =>
      simp only [Simulates, step, TypedMap.step, setStrVector]
      cases strings value with
      | none => exact ⟨rfl, rfl, .keeps _⟩
      | some content =>
          obtain ⟨answer, map, effect⟩ :=
            assign_spec wellFormed (.setStrVector uid key value) uid key (.stringVector content)
          exact ⟨congrArg StorageAnswer.done answer, map, effect⟩
  | setHandle uid key value answer => exact setHandle_spec uid key value answer
  | addGetInt64 uid key delta =>
      obtain ⟨answer, map, effect⟩ := assign_spec wellFormed (.addGetInt64 uid key delta) uid key
        (.int64 (storage.typedMap.number uid key + delta))
      simp only [Simulates, step, TypedMap.step, addGetInt64_eq, answer]
      exact ⟨trivial, map, effect⟩
  | get type uid key =>
      exact ⟨congrArg StorageAnswer.value (get_eq storage type uid key), rfl, .keeps _⟩
  | clearEntityParameters uid => exact ⟨rfl, typedMap_cleared storage uid, .cleared uid⟩
  | setFrontend address value => exact setFrontend_spec wellFormed address value

end Gxf.Core.ParameterStorage
