import Gxf.Std.EntityWarden.ComponentLifecycle
import Gxf.Std.EntityWarden.Names
import Gxf.Std.EntityWarden.RefCount

/-!
# The life of entities in the runtime

The runtime creates entities, counts the references to them, and destroys them when the
count is zero.  To destroy an entity goes over the warden, the objects, the parameters and
the reference counts, and stops at the first failure.
-/

namespace Gxf.Core

open Gxf.Lib Gxf.Std Gxf.Std.EntityWarden

/-- The stores of the runtime that know entities.  `objects` are the component pointers of
the shared context. -/
structure Runtime (Parameters : Type) where
  warden : EntityWarden
  nextId : Uid
  refCounts : RefCountStore
  objects : Table Uid Pointer
  parameters : Table Uid Parameters

/-- `deallocate` of the extension loader, and the components' own `deinitialize`. -/
structure Teardown where
  results : Results
  deallocate : ComponentFactory

/-- All components deinitialize and are deallocated. -/
def Teardown.Succeeds (teardown : Teardown) : Prop :=
  (∀ component, teardown.results.deinit component = .GXF_SUCCESS) ∧
    ∀ tid pointer, teardown.deallocate tid pointer = .ok ()

namespace Runtime

variable {Parameters : Type}

def eraseAll {Value : Type} (table : Table Uid Value) (keys : List Uid) : Table Uid Value :=
  keys.foldl (fun table key => table.erase key) table

/-- `getEntityComponents(eid)` of the warden. -/
def getEntityComponents (warden : EntityWarden) (eid : Uid) : Except GxfResult (List Uid) :=
  match warden.entities.lookup eid with
  | none => .error .GXF_QUERY_NOT_FOUND
  | some item =>
      if kMaxComponents < item.components.length then .error .GXF_EXCEEDING_PREALLOCATED_SIZE
      else .ok (item.components.map ComponentItem.cid)

/-- `GxfCreateEntity(info, eid)`. -/
def createEntity (runtime : Runtime Parameters) (entityName : Option String) :
    Runtime Parameters × GxfResult :=
  match entityName.map runtime.warden.find with
  | some (.ok _) => (runtime, .GXF_ARGUMENT_INVALID)
  | _ =>
      let eid := runtime.nextId
      if (entityName.map isReserved).getD false then
        ({ runtime with nextId := eid + 1 }, .GXF_ARGUMENT_INVALID)
      else
        let created := runtime.warden.create eid (entityNameOf eid entityName)
        ({ runtime with warden := created.warden, nextId := eid + 1 }, created.code)

/-- `GxfEntityDestroyImpl(eid)`. -/
def entityDestroyImpl (runtime : Runtime Parameters) (eid : Uid) (teardown : Teardown) :
    Runtime Parameters × GxfResult :=
  match getEntityComponents runtime.warden eid with
  | .error code => (runtime, code)
  | .ok cids =>
      let deinitialized := runtime.warden.deinit eid teardown.results
      if deinitialized.code ≠ .GXF_SUCCESS then
        ({ runtime with warden := deinitialized.warden }, deinitialized.code)
      else
        let destroyed := deinitialized.warden.destroy eid (some teardown.deallocate)
        let removed := { runtime with
          warden := destroyed.warden
          objects := eraseAll runtime.objects cids }
        if destroyed.code ≠ .GXF_SUCCESS then (removed, destroyed.code)
        else
          ({ removed with
            parameters := (eraseAll runtime.parameters cids).erase eid
            refCounts := runtime.refCounts.removeEntityRefCount eid }, .GXF_SUCCESS)

/-- `GxfEntityDestroy(eid)`. -/
def entityDestroy (runtime : Runtime Parameters) (eid : Uid) (teardown : Teardown) :
    Runtime Parameters × GxfResult :=
  if runtime.refCounts.count eid ≠ 0 then (runtime, .GXF_FAILURE)
  else runtime.entityDestroyImpl eid teardown

/-- `GxfEntityRefCountInc(eid)`. -/
def entityRefCountInc (runtime : Runtime Parameters) (eid : Uid) : Runtime Parameters × GxfResult :=
  ({ runtime with refCounts := runtime.refCounts.incEntityRefCount eid }, .GXF_SUCCESS)

/-- `GxfEntityRefCountDec(eid)`. -/
def entityRefCountDec (runtime : Runtime Parameters) (eid : Uid) (teardown : Teardown) :
    Runtime Parameters × GxfResult :=
  let (refCounts, value) := runtime.refCounts.decEntityRefCount eid
  let counted := { runtime with refCounts }
  match value with
  | .error code => (counted, code)
  | .ok value =>
      if value = 0 then counted.entityDestroyImpl eid teardown
      else (counted, .GXF_SUCCESS)

/-- The part of `GxfComponentAdd` behind the checks: a component with a new id is added to
an entity that can take it. -/
def componentAdd (runtime : Runtime Parameters) (eid : Uid) (tid : Tid) (rawPointer : Pointer)
    (component : Option Pointer) : Runtime Parameters × GxfResult :=
  let added := runtime.warden.addComponent eid ⟨runtime.nextId, tid, rawPointer, component⟩
  if added.code ≠ .GXF_SUCCESS then (runtime, added.code)
  else
    ({ runtime with
      warden := added.warden
      nextId := runtime.nextId + 1 }, .GXF_SUCCESS)

end Runtime

/-- The calls that concern the life of entities, and the ones that give them components and
parameters and initialize them. -/
inductive LifeOp (Parameters : Type) where
  | createEntity (entityName : Option String)
  | entityRefCountInc (eid : Uid)
  | entityRefCountDec (eid : Uid) (teardown : Teardown)
  | entityDestroy (eid : Uid) (teardown : Teardown)
  | componentAdd (eid : Uid) (tid : Tid) (rawPointer : Pointer) (component : Option Pointer)
  | setParameters (uid : Uid) (parameters : Parameters)
  | init (eid : Uid) (available : Uid → Except GxfResult Unit) (results : Results)

namespace Runtime

variable {Parameters : Type}

/-- The outcome of a call. -/
def apply (runtime : Runtime Parameters) : LifeOp Parameters → Runtime Parameters × GxfResult
  | .createEntity entityName => runtime.createEntity entityName
  | .entityRefCountInc eid => runtime.entityRefCountInc eid
  | .entityRefCountDec eid teardown => runtime.entityRefCountDec eid teardown
  | .entityDestroy eid teardown => runtime.entityDestroy eid teardown
  | .componentAdd eid tid rawPointer component => runtime.componentAdd eid tid rawPointer component
  | .setParameters uid parameters =>
      ({ runtime with parameters := runtime.parameters.insert uid parameters }, .GXF_SUCCESS)
  | .init eid available results =>
      ({ runtime with warden := (runtime.warden.init eid available results).warden },
        (runtime.warden.init eid available results).code)

/-- The runtime under calls. -/
def lives (Parameters : Type) : System (Runtime Parameters) (LifeOp Parameters) GxfResult where
  step runtime op := runtime.apply op

/-- A new context. -/
def initial (Parameters : Type) (gid nextId : Uid) : Runtime Parameters :=
  ⟨fresh gid, nextId, ∅, ∅, ∅⟩

/-- Nothing of an entity is left, nor of its components. -/
structure Gone (before after : Runtime Parameters) (eid : Uid) : Prop where
  entity : eid ∉ after.warden.entities
  eidToName : eid ∉ after.warden.eidToName
  nameToEid : ∀ entityName, after.warden.nameToEid.lookup entityName ≠ some eid
  components : ∀ cid, ∀ entry ∈ after.warden.components.lookup cid, entry.eid ≠ eid
  parameters : eid ∉ after.parameters
  componentParameters : ∀ item ∈ before.warden.entities.lookup eid,
    ∀ component ∈ item.components, component.cid ∉ after.parameters
  refCount : eid ∉ after.refCounts

/-- What the counts promise: an increment succeeds for every id, and a decrement to zero
that succeeds leaves nothing of the entity.  It does succeed for a live entity whose
components can be torn down. -/
structure CountsLife (runtime : Runtime Parameters) (op : LifeOp Parameters) : Prop where
  increments : ∀ eid, op = .entityRefCountInc eid → (runtime.apply op).2 = .GXF_SUCCESS
  gone : ∀ eid teardown, op = .entityRefCountDec eid teardown →
    (runtime.refCounts.decEntityRefCount eid).2 = .ok 0 → (runtime.apply op).2 = .GXF_SUCCESS →
      Gone runtime (runtime.apply op).1 eid
  succeeds : ∀ eid teardown, op = .entityRefCountDec eid teardown →
    (runtime.refCounts.decEntityRefCount eid).2 = .ok 0 → eid ∈ runtime.warden.entities →
      teardown.Succeeds → (runtime.apply op).2 = .GXF_SUCCESS

/-- The invariant of a run: the names are those of the live entities, and the index knows
only components of entities that are stored. -/
structure Consistent (warden : EntityWarden) (nextId : Uid) : Prop where
  inverse : Inverse warden.eidToName warden.nameToEid
  live : ∀ eid, eid ∈ warden.eidToName ↔ eid ∈ warden.entities
  known : ∀ eid ∈ warden.entities, eid < nextId
  reserved : ∀ eid entityName, warden.eidToName.lookup eid = some entityName →
    isReserved entityName = true → entityName = automaticName eid
  index : ∀ cid, ∀ entry ∈ warden.components.lookup cid,
    ∃ item ∈ warden.entities.lookup entry.eid, ∃ component ∈ item.components, component.cid = cid
  room : ∀ eid, ∀ item ∈ warden.entities.lookup eid, item.components.length ≤ kMaxComponents
  stages : ∀ eid, ∀ item ∈ warden.entities.lookup eid,
    item.stage = .kUninitialized ∨ item.stage = .kInitialized

/-- What holds in every state of a run. -/
def Inv (runtime : Runtime Parameters) : Prop := Consistent runtime.warden runtime.nextId

theorem mem_eraseAll {Value : Type} (table : Table Uid Value) (keys : List Uid) (key : Uid) :
    key ∈ eraseAll table keys ↔ key ∈ table ∧ key ∉ keys := by
  induction keys generalizing table with
  | nil => exact (and_iff_left List.not_mem_nil).symm
  | cons first rest ih =>
      rw [eraseAll, List.foldl_cons, ← eraseAll, ih, AList.mem_erase, List.mem_cons, not_or]
      constructor
      · rintro ⟨⟨different, member⟩, notInRest⟩
        exact ⟨member, different, notInRest⟩
      · rintro ⟨member, different, notInRest⟩
        exact ⟨⟨different, member⟩, notInRest⟩

theorem lookup_eraseAll {Value : Type} {table : Table Uid Value} {keys : List Uid} {key : Uid}
    {value : Value} (stored : value ∈ (eraseAll table keys).lookup key) :
    value ∈ table.lookup key := by
  induction keys generalizing table with
  | nil => exact stored
  | cons first rest ih =>
      have later := ih stored
      by_cases same : key = first
      · rw [same, AList.lookup_erase] at later
        cases later
      · rw [AList.lookup_erase_ne same] at later
        exact later

/-! ## Entities that are created, changed and destroyed -/

variable {warden other : EntityWarden} {nextId eid : Uid} {item : EntityItem}

theorem Consistent.later (consistent : Consistent warden nextId) :
    Consistent warden (nextId + 1) := by
  have known (eid : Uid) (live : eid ∈ warden.entities) : eid < nextId + 1 :=
    Int.lt_trans (consistent.known eid live) (Int.lt_succ nextId)
  exact { consistent with known }

theorem Consistent.create (consistent : Consistent warden nextId) {entityName : String}
    (free : entityName ∉ warden.nameToEid)
    (reserved : isReserved entityName = true → entityName = automaticName nextId) :
    Consistent (warden.create nextId entityName).warden (nextId + 1) := by
  have newEntity : nextId ∉ warden.entities := fun live =>
    Int.lt_irrefl _ (consistent.known nextId live)
  have newEid : nextId ∉ warden.eidToName := fun member =>
    newEntity ((consistent.live nextId).mp member)
  have entities : (warden.create nextId entityName).warden.entities =
      warden.entities.insert nextId (EntityItem.create nextId warden.defaultEntityGroupId) :=
    if_neg newEntity
  have forth : (warden.create nextId entityName).warden.eidToName =
      warden.eidToName.insert nextId entityName := if_neg newEid
  have back : (warden.create nextId entityName).warden.nameToEid =
      warden.nameToEid.insert entityName nextId := if_neg free
  constructor
  · rw [forth, back]
    exact consistent.inverse.insert newEid free
  · intro eid
    rw [forth, entities, AList.mem_insert, AList.mem_insert, consistent.live eid]
  · intro eid live
    rw [entities, AList.mem_insert] at live
    rcases live with rfl | before
    · exact Int.lt_succ _
    · exact Int.lt_trans (consistent.known eid before) (Int.lt_succ _)
  · intro eid name stored isRes
    rw [forth] at stored
    by_cases isNew : eid = nextId
    · rw [isNew, AList.lookup_insert] at stored
      cases stored
      rw [isNew]
      exact reserved isRes
    · rw [AList.lookup_insert_ne isNew] at stored
      exact consistent.reserved eid name stored isRes
  · intro cid entry isEntry
    obtain ⟨item, stored, has⟩ := consistent.index cid entry isEntry
    refine ⟨item, ?_, has⟩
    have different : entry.eid ≠ nextId := by
      rintro same
      rw [same, AList.lookup_eq_none.mpr newEntity] at stored
      cases stored
    rw [entities, AList.lookup_insert_ne different]
    exact stored
  · intro eid item stored
    rw [entities] at stored
    by_cases isNew : eid = nextId
    · rw [isNew, AList.lookup_insert] at stored
      cases stored
      exact Nat.zero_le _
    · rw [AList.lookup_insert_ne isNew] at stored
      exact consistent.room eid item stored
  · intro eid item stored
    rw [entities] at stored
    by_cases isNew : eid = nextId
    · rw [isNew, AList.lookup_insert] at stored
      cases stored
      exact .inl rfl
    · rw [AList.lookup_insert_ne isNew] at stored
      exact consistent.stages eid item stored

theorem Consistent.setEntity (consistent : Consistent warden nextId) (item : EntityItem)
    {old : EntityItem}
    (stored : warden.entities.lookup eid = some old)
    (kept : ∀ component ∈ old.components, component ∈ item.components)
    (room : item.components.length ≤ kMaxComponents)
    (stage : item.stage = .kUninitialized ∨ item.stage = .kInitialized)
    (entities : other.entities = warden.entities.insert eid item)
    (names : other.eidToName = warden.eidToName ∧ other.nameToEid = warden.nameToEid)
    (index : ∀ cid, ∀ entry ∈ other.components.lookup cid, entry ∈ warden.components.lookup cid ∨
        entry.eid = eid ∧ ∃ component ∈ item.components, component.cid = cid) :
    Consistent other nextId := by
  have isLive : eid ∈ warden.entities := AList.lookup_isSome.mp (by rw [stored, Option.isSome_some])
  have sameLive (one : Uid) : one ∈ other.entities ↔ one ∈ warden.entities := by
    rw [entities, AList.mem_insert]
    exact or_iff_right_of_imp fun same => same ▸ isLive
  have lookup (one : Uid) (found : EntityItem) (isFound : found ∈ other.entities.lookup one) :
      one = eid ∧ found = item ∨ found ∈ warden.entities.lookup one := by
    rw [entities] at isFound
    by_cases same : one = eid
    · rw [same, AList.lookup_insert] at isFound
      exact .inl ⟨same, (Option.some.inj isFound).symm⟩
    · rw [AList.lookup_insert_ne same] at isFound
      exact .inr isFound
  constructor
  · rw [names.1, names.2]
    exact consistent.inverse
  · intro one
    rw [names.1, sameLive, consistent.live one]
  · exact fun one live => consistent.known one ((sameLive one).mp live)
  · rw [names.1]
    exact consistent.reserved
  · intro cid entry isEntry
    have isItem : item ∈ other.entities.lookup eid := by
      rw [entities, AList.lookup_insert]
      rfl
    rcases index cid entry isEntry with before | ⟨same, has⟩
    · obtain ⟨found, isFound, component, member, isCid⟩ := consistent.index cid entry before
      by_cases same : entry.eid = eid
      · rw [same, stored] at isFound
        cases isFound
        exact ⟨item, same ▸ isItem, component, kept component member, isCid⟩
      · refine ⟨found, ?_, component, member, isCid⟩
        rw [entities, AList.lookup_insert_ne same]
        exact isFound
    · exact ⟨item, same ▸ isItem, has⟩
  · intro one found isFound
    rcases lookup one found isFound with ⟨-, rfl⟩ | before
    · exact room
    · exact consistent.room one found before
  · intro one found isFound
    rcases lookup one found isFound with ⟨-, rfl⟩ | before
    · exact stage
    · exact consistent.stages one found before

def without (warden : EntityWarden) (eid : Uid) (item : EntityItem) : EntityWarden :=
  (warden.takeEntity eid item).removeName eid

theorem components_without (warden : EntityWarden) (eid : Uid) (item : EntityItem) :
    (without warden eid item).components =
      eraseAll warden.components (item.components.map ComponentItem.cid) := by
  rw [eraseAll, List.foldl_map]
  rfl

section

variable (consistent : Consistent warden nextId)
include consistent

section

variable (stored : warden.entities.lookup eid = some item)
include stored

theorem Consistent.index_without {cid : Uid} {entry : ComponentEntityType}
    (isEntry : entry ∈ (without warden eid item).components.lookup cid) : entry.eid ≠ eid := by
  rintro same
  have member : cid ∈ (without warden eid item).components :=
    AList.lookup_isSome.mp (Option.isSome_iff_exists.mpr ⟨entry, isEntry⟩)
  rw [components_without] at isEntry member
  obtain ⟨found, isFound, component, isIn, isCid⟩ :=
    consistent.index cid entry (lookup_eraseAll isEntry)
  rw [same, stored] at isFound
  cases isFound
  exact ((mem_eraseAll _ _ _).mp member).2 (List.mem_map.mpr ⟨component, isIn, isCid⟩)

theorem Consistent.name_of_stored : ∃ entityName, warden.eidToName.lookup eid = some entityName ∧
      (without warden eid item).nameToEid = warden.nameToEid.erase entityName := by
  have isLive : eid ∈ warden.entities := AList.lookup_isSome.mp (by rw [stored, Option.isSome_some])
  have isNamed := (consistent.live eid).mpr isLive
  obtain ⟨entityName, name⟩ := Option.isSome_iff_exists.mp (AList.lookup_isSome.mpr isNamed)
  refine ⟨entityName, name, ?_⟩
  have erased : (without warden eid item).nameToEid =
      warden.nameToEid.erase ((warden.eidToName.lookup eid).getD "") := rfl
  rw [erased, name, Option.getD_some]

theorem Consistent.without : Consistent (without warden eid item) nextId := by
  obtain ⟨entityName, name, back⟩ := consistent.name_of_stored stored
  have forth : (Runtime.without warden eid item).eidToName = warden.eidToName.erase eid := rfl
  have entities : (Runtime.without warden eid item).entities = warden.entities.erase eid := rfl
  have before (one : Uid) (found : EntityItem)
      (isFound : found ∈ (Runtime.without warden eid item).entities.lookup one) :
      found ∈ warden.entities.lookup one := by
    rw [entities] at isFound
    by_cases same : one = eid
    · rw [same, AList.lookup_erase] at isFound
      cases isFound
    · rw [AList.lookup_erase_ne same] at isFound
      exact isFound
  constructor
  · rw [forth, back]
    exact consistent.inverse.erase name
  · intro one
    rw [forth, entities, AList.mem_erase, AList.mem_erase, consistent.live one]
  · intro one live
    rw [entities, AList.mem_erase] at live
    exact consistent.known one live.2
  · intro one found isFound
    rw [forth] at isFound
    by_cases same : one = eid
    · rw [same, AList.lookup_erase] at isFound
      cases isFound
    · rw [AList.lookup_erase_ne same] at isFound
      exact consistent.reserved one found isFound
  · intro cid entry isEntry
    have different := consistent.index_without stored isEntry
    rw [components_without] at isEntry
    obtain ⟨found, isFound, has⟩ := consistent.index cid entry (lookup_eraseAll isEntry)
    refine ⟨found, ?_, has⟩
    rw [entities, AList.lookup_erase_ne different]
    exact isFound
  · exact fun one found isFound => consistent.room one found (before one found isFound)
  · exact fun one found isFound => consistent.stages one found (before one found isFound)

theorem Consistent.setStage {stage : Stage}
    (allowed : stage = .kUninitialized ∨ stage = .kInitialized) :
    Consistent (warden.setEntity eid (item.setStage stage)) nextId := by
  have room := consistent.room eid item stored
  exact consistent.setEntity (item.setStage stage) stored (fun _ member => member) room allowed rfl
    ⟨rfl, rfl⟩ fun _ _ isEntry => .inl isEntry

end

theorem Consistent.init (available : Uid → Except GxfResult Unit) (results : Results) :
    Consistent (warden.init eid available results).warden nextId := by
  have possible := init_cases warden eid available results
  generalize warden.init eid available results = outcome at possible ⊢
  cases possible with
  | refused code => exact consistent
  | succeeded item stored => exact consistent.setStage stored (.inr rfl)
  | failed item stored => exact consistent.setStage stored (.inl rfl)

theorem Consistent.deinit (eid : Uid) (results : Results) :
    Consistent (warden.deinit eid results).warden nextId := by
  have possible := deinit_cases warden eid results
  generalize warden.deinit eid results = outcome at possible ⊢
  cases possible with
  | refused code => exact consistent
  | done item stored => exact consistent.setStage stored (.inl rfl)

end

section

variable (stored : warden.entities.lookup eid = some item)
include stored

theorem deinit_stored (results : Results) :
    ∃ left, (warden.deinit eid results).warden.entities.lookup eid = some left ∧
      left.components = item.components := by
  have possible := deinit_cases warden eid results
  generalize warden.deinit eid results = outcome at possible ⊢
  cases possible with
  | refused code => exact ⟨item, stored, rfl⟩
  | done found isFound =>
      rw [stored] at isFound
      cases isFound
      exact ⟨_, AList.lookup_insert _, rfl⟩

theorem deinit_succeeds
    (stage : item.stage = .kUninitialized ∨ item.stage = .kInitialized) {results : Results}
    (succeeds : ∀ component, results.deinit component = .GXF_SUCCESS) :
    (warden.deinit eid results).code = .GXF_SUCCESS ∧
      ∃ left, (warden.deinit eid results).warden.entities.lookup eid = some left ∧
        left.stage = .kUninitialized := by
  have accumulated (pointers : List Pointer) :
      (pointers.map results.deinit).foldl accumulateError .GXF_SUCCESS = .GXF_SUCCESS := by
    induction pointers with
    | nil => rfl
    | cons first rest ih =>
        rw [List.map_cons, List.foldl_cons, succeeds first]
        exact ih
  rw [EntityWarden.deinit, stored]
  dsimp only
  cases stage with
  | inl idle =>
      rw [if_pos idle]
      exact ⟨rfl, item, stored, idle⟩
  | inr running =>
      have notIdle : item.stage ≠ .kUninitialized := by
        rw [running]
        decide
      rw [if_neg notIdle, if_neg (not_not.mpr running)]
      dsimp only [EntityItem.deinit, EntityItem.setStage]
      rw [if_neg (not_not.mpr rfl)]
      exact ⟨accumulated _, _, AList.lookup_insert _, rfl⟩

theorem destroy_warden (factory : Option ComponentFactory) :
    (warden.destroy eid factory).warden = without warden eid item := by
  rw [EntityWarden.destroy, stored]
  dsimp only
  split <;> rfl

theorem destroy_succeeds (idle : item.stage = .kUninitialized) {deallocate : ComponentFactory}
    (succeeds : ∀ tid pointer, deallocate tid pointer = .ok ()) :
    (warden.destroy eid (some deallocate)).code = .GXF_SUCCESS := by
  rw [EntityWarden.destroy, stored]
  dsimp only [EntityItem.destroy, EntityItem.setStage]
  rw [if_neg (not_not.mpr idle), if_neg (not_not.mpr rfl)]
  dsimp only
  induction item.components with
  | nil => rfl
  | cons first rest ih =>
      rw [List.foldl_cons, succeeds]
      exact ih

end

/-! ## Each call -/

variable {runtime : Runtime Parameters} {teardown : Teardown}

theorem getEntityComponents_of_ok {cids : List Uid}
    (isOk : getEntityComponents warden eid = .ok cids) :
    ∃ item, warden.entities.lookup eid = some item ∧
      cids = item.components.map ComponentItem.cid := by
  rw [getEntityComponents] at isOk
  split at isOk
  next => cases isOk
  next item stored =>
    split at isOk
    next => cases isOk
    next =>
      cases isOk
      exact ⟨item, stored, rfl⟩

theorem nextId_entityDestroyImpl (runtime : Runtime Parameters) (eid : Uid) (teardown : Teardown) :
    (runtime.entityDestroyImpl eid teardown).1.nextId = runtime.nextId := by
  rw [entityDestroyImpl]
  split
  next => rfl
  next =>
    dsimp only
    split
    next => rfl
    next => split <;> rfl

theorem Inv.entityDestroyImpl (inv : Inv runtime) :
    Inv (runtime.entityDestroyImpl eid teardown).1 := by
  rw [Inv, nextId_entityDestroyImpl, Runtime.entityDestroyImpl]
  split
  next => exact inv
  next cids isOk =>
    obtain ⟨item, stored, -⟩ := getEntityComponents_of_ok isOk
    obtain ⟨left, isLeft, -⟩ := deinit_stored stored teardown.results
    have deinitialized := Consistent.deinit inv eid teardown.results
    dsimp only
    split
    next => exact deinitialized
    next =>
      have removed := deinitialized.without isLeft
      rw [← destroy_warden isLeft (some teardown.deallocate)] at removed
      split <;> exact removed

theorem getEntityComponents_of_error {code : GxfResult}
    (isError : getEntityComponents warden eid = .error code) : code ≠ .GXF_SUCCESS := by
  rw [getEntityComponents] at isError
  split at isError
  next =>
    cases isError
    nofun
  next =>
    split at isError
    next =>
      cases isError
      nofun
    next => cases isError

section

variable (inv : Inv runtime)
include inv

theorem Inv.gone (success : (runtime.entityDestroyImpl eid teardown).2 = .GXF_SUCCESS) :
    Gone runtime (runtime.entityDestroyImpl eid teardown).1 eid := by
  rw [Runtime.entityDestroyImpl] at success ⊢
  split at success
  next code isError => exact absurd success (getEntityComponents_of_error isError)
  next cids isOk =>
    obtain ⟨item, stored, rfl⟩ := getEntityComponents_of_ok isOk
    obtain ⟨left, isLeft, sameComponents⟩ := deinit_stored stored teardown.results
    have deinitialized := Consistent.deinit inv eid teardown.results
    dsimp only at success ⊢
    split at success
    next failed => exact absurd success failed
    next deinitSuccess =>
      rw [if_neg deinitSuccess]
      split at success
      next failed => exact absurd success failed
      next destroySuccess =>
        rw [if_neg destroySuccess, destroy_warden isLeft]
        obtain ⟨entityName, name, back⟩ := deinitialized.name_of_stored isLeft
        have erased {Value : Type} {table : Table Uid Value} : eid ∉ table.erase eid :=
          fun member => (AList.mem_erase.mp member).1 rfl
        constructor
        · exact erased
        · exact erased
        · intro other found
          have inverse := (deinitialized.without isLeft).inverse
          exact inverse.ne_of_notMem erased other found
        · exact fun cid entry isEntry => deinitialized.index_without isLeft isEntry
        · exact erased
        · intro found isFound component isIn member
          rw [stored] at isFound
          cases isFound
          have remains := ((mem_eraseAll _ _ _).mp (AList.mem_erase.mp member).2).2
          exact remains (List.mem_map.mpr ⟨component, isIn, rfl⟩)
        · exact erased

theorem Inv.destroy_succeeds
    (isLive : eid ∈ runtime.warden.entities) (succeeds : teardown.Succeeds) :
    (runtime.entityDestroyImpl eid teardown).2 = .GXF_SUCCESS := by
  obtain ⟨item, stored⟩ := Option.isSome_iff_exists.mp (AList.lookup_isSome.mpr isLive)
  obtain ⟨code, left, isLeft, idle⟩ :=
    deinit_succeeds stored (Consistent.stages inv eid item stored) succeeds.1
  have components : getEntityComponents runtime.warden eid =
      .ok (item.components.map ComponentItem.cid) := by
    rw [getEntityComponents, stored]
    exact if_neg (Nat.not_lt.mpr (Consistent.room inv eid item stored))
  rw [Runtime.entityDestroyImpl, components]
  dsimp only
  rw [if_neg (not_not.mpr code),
    if_neg (not_not.mpr (Runtime.destroy_succeeds isLeft idle succeeds.2))]

theorem Inv.createEntity (entityName : Option String) :
    Inv (runtime.createEntity entityName).1 := by
  have consistent : Consistent runtime.warden runtime.nextId := inv
  rw [Runtime.createEntity]
  split
  next => exact consistent
  next unused =>
    dsimp only
    split
    next => exact consistent.later
    next allowed =>
      have spec := Naming.entityNameOf_spec runtime.nextId (Bool.eq_false_iff.mpr allowed)
      refine consistent.create ?_ spec.2
      intro member
      obtain ⟨other, found⟩ := Option.isSome_iff_exists.mp (AList.lookup_isSome.mpr member)
      have stored := (consistent.inverse other _).mpr found
      by_cases automatic : isReserved (entityNameOf runtime.nextId entityName) = true
      · -- the name would be the automatic one of another entity
        have same := (spec.2 automatic).symm.trans (consistent.reserved other _ stored automatic)
        have isLive : other ∈ runtime.warden.entities :=
          (consistent.live other).mp (AList.lookup_isSome.mp (by rw [stored, Option.isSome_some]))
        rw [← Naming.automaticName_injective same] at isLive
        exact Int.lt_irrefl _ (consistent.known _ isLive)
      · -- the name was given, and the check did not find it
        cases entityName with
        | none => exact automatic (Naming.isReserved_automaticName _)
        | some given =>
            rw [entityNameOf] at found automatic
            by_cases isEmpty : given = ""
            · rw [if_pos isEmpty] at automatic
              exact automatic (Naming.isReserved_automaticName _)
            · rw [if_neg isEmpty] at found
              apply unused other
              rw [Option.map_some, find, if_neg isEmpty, found]

theorem Inv.componentAdd (eid : Uid) (tid : Tid) (rawPointer : Pointer)
    (component : Option Pointer) :
    Inv (runtime.componentAdd eid tid rawPointer component).1 := by
  have consistent : Consistent runtime.warden runtime.nextId := inv
  rw [Runtime.componentAdd]
  split
  next => exact consistent
  next success =>
    have added := not_not.mp success
    have grown : Consistent (runtime.warden.addComponent eid
        ⟨runtime.nextId, tid, rawPointer, component⟩).warden runtime.nextId := by
      rw [EntityWarden.addComponent] at added ⊢
      split at added
      next => cases added
      next item stored =>
        split at added
        next => cases added
        next idle =>
          split at added
          next => cases added
          next hasRoom =>
            rw [if_neg idle, if_neg hasRoom]
            refine consistent.setEntity { item with components := item.components ++
              [⟨runtime.nextId, tid, rawPointer, component⟩] } stored
              (fun one member => List.mem_append_left _ member) ?_ (.inl (not_not.mp idle)) rfl
              ⟨rfl, rfl⟩ ?_
            · rw [List.length_append]
              exact Nat.not_le.mp hasRoom
            · intro cid entry isEntry
              by_cases isNew : cid = runtime.nextId
              · subst isNew
                have same := (AList.lookup_insert _).symm.trans isEntry
                cases same
                exact .inr ⟨rfl, _, List.mem_append_right _ (List.mem_singleton_self _), rfl⟩
              · exact .inl ((AList.lookup_insert_ne isNew).symm.trans isEntry)
    exact grown.later

theorem Inv.entityRefCountDec : Inv (runtime.entityRefCountDec eid teardown).1 := by
  rw [Runtime.entityRefCountDec]
  have counted : Inv { runtime with
      refCounts := (runtime.refCounts.decEntityRefCount eid).1 } := inv
  dsimp only
  split
  next => exact counted
  next =>
    split
    next => exact counted.entityDestroyImpl
    next => exact counted

theorem Inv.apply (op : LifeOp Parameters) : Inv (runtime.apply op).1 := by
  cases op with
  | createEntity entityName => exact inv.createEntity entityName
  | entityRefCountInc | setParameters => exact inv
  | entityRefCountDec eid teardown => exact inv.entityRefCountDec
  | entityDestroy eid teardown =>
      rw [Runtime.apply, entityDestroy]
      split
      next => exact inv
      next => exact inv.entityDestroyImpl
  | componentAdd eid tid rawPointer component =>
      exact inv.componentAdd eid tid rawPointer component
  | init eid available results => exact Consistent.init inv available results

end

theorem entityRefCountDec_zero (toZero : (runtime.refCounts.decEntityRefCount eid).2 = .ok 0) :
    runtime.entityRefCountDec eid teardown =
      { runtime with
        refCounts := (runtime.refCounts.decEntityRefCount eid).1 }.entityDestroyImpl eid
          teardown := by
  rw [entityRefCountDec]
  dsimp only
  rw [toZero]
  exact if_pos rfl

theorem inv_initial (Parameters : Type) (gid nextId : Uid) :
    Inv (initial Parameters gid nextId) := by
  have none (eid : Uid) (item : EntityItem) :
      item ∉ (initial Parameters gid nextId).warden.entities.lookup eid := nofun
  constructor
  · exact inverse_empty
  · exact fun eid => iff_of_false (AList.notMem_empty eid) (AList.notMem_empty eid)
  · exact fun eid live => absurd live (AList.notMem_empty eid)
  · nofun
  · nofun
  · exact fun eid item stored => absurd stored (none eid item)
  · exact fun eid item stored => absurd stored (none eid item)

/-- In every run from a new context, whatever the components' own `deinitialize` and their
deallocation return: an increment succeeds for every id, and after a decrement that brings
the count to zero and succeeds nothing of the entity is left.  Such a decrement succeeds
for a live entity whose components are torn down without a failure. -/
theorem run_counts_life (Parameters : Type) (gid nextId : Uid) (ops : List (LifeOp Parameters)) :
    (lives Parameters).Along CountsLife (initial Parameters gid nextId) ops := by
  apply System.along_of_invariant_of_forall _ _ (inv_initial Parameters gid nextId)
  · exact fun runtime op inv => inv.apply op
  · intro runtime op inv
    constructor
    · rintro eid rfl
      rfl
    · rintro eid teardown rfl toZero success
      rw [Runtime.apply, entityRefCountDec_zero toZero] at success ⊢
      have counted : Inv { runtime with
          refCounts := (runtime.refCounts.decEntityRefCount eid).1 } := inv
      obtain ⟨entity, eidToName, nameToEid, components, parameters, ofComponents, refCount⟩ :=
        counted.gone success
      exact ⟨entity, eidToName, nameToEid, components, parameters, ofComponents, refCount⟩
    · rintro eid teardown rfl toZero isLive succeeds
      rw [Runtime.apply, entityRefCountDec_zero toZero]
      have counted : Inv { runtime with
          refCounts := (runtime.refCounts.decEntityRefCount eid).1 } := inv
      exact counted.destroy_succeeds isLive succeeds

/-- A reference to an id that no entity has is counted.  When it is given up, the entry
stays. -/
theorem unknown_entity_counted :
    let teardown : Teardown := ⟨⟨fun _ => .GXF_SUCCESS, fun _ => .GXF_SUCCESS⟩, fun _ _ => .ok ()⟩
    let ops : List (LifeOp Unit) := [.entityRefCountInc 7, .entityRefCountDec 7 teardown]
    (lives Unit).outputs (initial Unit 1 2) ops = [.GXF_SUCCESS, .GXF_QUERY_NOT_FOUND] ∧
      7 ∉ (initial Unit 1 2).warden.entities ∧
      ((lives Unit).run (initial Unit 1 2) ops).refCounts.lookup 7 = some 0 := by
  decide

end Runtime

end Gxf.Core
