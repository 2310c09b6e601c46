import Gxf.Core.Result
import Gxf.Lib.Tally
import Gxf.Std.Entity

/-!
# The entity warden

The warden stores the entities of an application with their components, an index of the
components, the names of the entities, and the entity groups.  A function that takes
several locks one after the other is composed of its sections.
-/

namespace Gxf.Std

open Gxf.Core Gxf.Lib

namespace EntityWarden

/-- `gxf_tid_t`. -/
structure Tid where
  hash1 : UInt64
  hash2 : UInt64
  deriving DecidableEq, Repr

/-- The address of an object. -/
abbrev Pointer := Nat

/-- A component within an entity.  An object that is not a component has no component
pointer. -/
structure ComponentItem where
  cid : Uid
  tid : Tid
  rawPointer : Pointer
  componentPointer : Option Pointer
  deriving DecidableEq, Repr

/-- The life cycle stages of an entity item. -/
inductive Stage where
  | kUninitialized
  | kInitializationInProgress
  | kInitialized
  | kDeinitializationInProgress
  | kDestructionInProgress
  | kDestroyed
  deriving DecidableEq, Repr

/-- What the warden stores for an entity. -/
structure EntityItem where
  stage : Stage
  uid : Uid
  components : List ComponentItem
  interface : Table String Uid
  gid : Uid
  deriving DecidableEq

/-- `ComponentEntityType`. -/
structure ComponentEntityType where
  eid : Uid
  tid : Tid
  deriving DecidableEq, Repr

/-- `EntityGroupItem`. -/
structure EntityGroupItem where
  gid : Uid
  name : String
  entities : List Uid
  resourceComponents : List Uid
  deriving DecidableEq, Repr

/-- What the functions of the warden call outside of it. -/
inductive Call where
  | init (component : Pointer) (result : GxfResult)
  | deinit (component : Pointer) (result : GxfResult)
  /-- The component factory is invoked. -/
  | deallocate (tid : Tid) (pointer : Pointer)
  deriving DecidableEq, Repr

/-- The results of the components' own functions. -/
structure Results where
  init : Pointer → GxfResult
  deinit : Pointer → GxfResult

/-- `deallocate(tid, pointer)` of a component factory. -/
abbrev ComponentFactory := Tid → Pointer → Except GxfResult Unit

def kDefaultEntityGroupName : String := "default_entity_group"

/-- `AccumulateError(previous, current)`. -/
def accumulateError (previous current : GxfResult) : GxfResult :=
  if current ≠ .GXF_SUCCESS then current else previous

/-- `deinitialize()` of some components, with the calls. -/
def deinitAll (results : Results) (components : List ComponentItem) : List Call :=
  (components.filterMap ComponentItem.componentPointer).map fun component =>
    .deinit component (results.deinit component)

/-- The loop of `EntityItem::initialize()`, after some components. -/
def initFrom (results : Results) (before : List ComponentItem) :
    List ComponentItem → GxfResult × List Call
  | [] => (.GXF_SUCCESS, [])
  | item :: rest =>
      match item.componentPointer with
      | none => initFrom results (before ++ [item]) rest
      | some component =>
          let result := results.init component
          if result ≠ .GXF_SUCCESS then
            (result, .init component result :: deinitAll results before)
          else
            let (code, calls) := initFrom results (before ++ [item]) rest
            (code, .init component result :: calls)

namespace EntityItem

/-- An entity without components. -/
def create (eid gid : Uid) : EntityItem := ⟨.kUninitialized, eid, [], ∅, gid⟩

/-- `initialize()`. -/
def init (item : EntityItem) (results : Results) : EntityItem × GxfResult × List Call :=
  if item.stage ≠ .kInitializationInProgress then (item, .GXF_INVALID_LIFECYCLE_STAGE, [])
  else
    let (code, calls) := initFrom results [] item.components
    ({ item with stage := if code = .GXF_SUCCESS then .kInitialized else .kUninitialized },
      code, calls)

/-- `deinitialize()`, which goes from the last component to the first. -/
def deinit (item : EntityItem) (results : Results) : EntityItem × GxfResult × List Call :=
  if item.stage ≠ .kDeinitializationInProgress then (item, .GXF_INVALID_LIFECYCLE_STAGE, [])
  else
    let components := item.components.reverse
    ({ item with stage := .kUninitialized },
      ((components.filterMap ComponentItem.componentPointer).map results.deinit).foldl
        accumulateError .GXF_SUCCESS,
      deinitAll results components)

/-- `destroy(factory)`, after which the item is gone. -/
def destroy (item : EntityItem) (factory : Option ComponentFactory) : GxfResult × List Call :=
  match factory with
  | none => (.GXF_ARGUMENT_NULL, [])
  | some deallocate =>
      if item.stage ≠ .kDestructionInProgress then (.GXF_INVALID_LIFECYCLE_STAGE, [])
      else
        (item.components.foldl (fun result component =>
            match deallocate component.tid component.rawPointer with
            | .ok () => result
            | .error code => code) .GXF_SUCCESS,
          item.components.map fun component => .deallocate component.tid component.rawPointer)

def setStage (item : EntityItem) (stage : Stage) : EntityItem := { item with stage }

end EntityItem

end EntityWarden

open EntityWarden

/-- The fields of the warden. -/
structure EntityWarden where
  entities : Table Uid EntityWarden.EntityItem
  entityGroups : Table Uid EntityGroupItem
  components : Table Uid ComponentEntityType
  nameToEid : Table String Uid
  eidToName : Table Uid String
  defaultEntityGroupId : Uid

namespace EntityWarden

/-- The warden after the call of a function, with the code it returned and what it called
outside. -/
structure Outcome where
  warden : EntityWarden
  code : GxfResult
  calls : List Call

/-- A call that changes nothing. -/
def refuse (warden : EntityWarden) (code : GxfResult) : Outcome := ⟨warden, code, []⟩

def setEntity (warden : EntityWarden) (eid : Uid) (item : EntityItem) : EntityWarden :=
  { warden with entities := warden.entities.insert eid item }

/-- `emplace(key, value)` of a map. -/
def emplace {Key Value : Type} [DecidableEq Key] (table : Table Key Value) (key : Key)
    (value : Value) : Table Key Value :=
  if key ∈ table then table else table.insert key value

/-- The section of `create` under the lock of the names. -/
def addName (warden : EntityWarden) (eid : Uid) (entityName : String) : EntityWarden :=
  { warden with
    eidToName := emplace warden.eidToName eid entityName
    nameToEid := emplace warden.nameToEid entityName eid }

/-- The section of `create` under the lock of the entities. -/
def addEntity (warden : EntityWarden) (eid : Uid) (item : EntityItem) : EntityWarden :=
  { warden with entities := emplace warden.entities eid item }

/-- `create(eid, item_ptr, entity_name)`. -/
def create (warden : EntityWarden) (eid : Uid) (entityName : String) : Outcome :=
  ⟨(warden.addName eid entityName).addEntity eid
    (EntityItem.create eid warden.defaultEntityGroupId), .GXF_SUCCESS, []⟩

/-- `initialize(eid)`.  `available` is what the parameter storage says about a component. -/
def init (warden : EntityWarden) (eid : Uid) (available : Uid → Except GxfResult Unit)
    (results : Results) : Outcome :=
  match warden.entities.lookup eid with
  | none => warden.refuse .GXF_ENTITY_NOT_FOUND
  | some item =>
      match item.components.forM fun component => available component.cid with
      | .error code => warden.refuse code
      | .ok () =>
          if item.stage ≠ .kUninitialized then warden.refuse .GXF_INVALID_LIFECYCLE_STAGE
          else
            let (item, code, calls) := (item.setStage .kInitializationInProgress).init results
            ⟨warden.setEntity eid item, code, calls⟩

/-- `deinitialize(eid)`. -/
def deinit (warden : EntityWarden) (eid : Uid) (results : Results) : Outcome :=
  match warden.entities.lookup eid with
  | none => warden.refuse .GXF_ENTITY_NOT_FOUND
  | some item =>
      if item.stage = .kUninitialized then warden.refuse .GXF_SUCCESS
      else if item.stage ≠ .kInitialized then warden.refuse .GXF_INVALID_LIFECYCLE_STAGE
      else
        let (item, code, calls) := (item.setStage .kDeinitializationInProgress).deinit results
        ⟨warden.setEntity eid item, code, calls⟩

/-- The section of `destroy` that takes the entity out of the store. -/
def takeEntity (warden : EntityWarden) (eid : Uid) (item : EntityItem) : EntityWarden :=
  { warden with
    entities := warden.entities.erase eid
    components := item.components.foldl (fun components component =>
      components.erase component.cid) warden.components }

/-- The section of `destroy` under the lock of the names. -/
def removeName (warden : EntityWarden) (eid : Uid) : EntityWarden :=
  { warden with
    nameToEid := warden.nameToEid.erase ((warden.eidToName.lookup eid).getD "")
    eidToName := warden.eidToName.erase eid }

/-- `destroy(eid, factory)`. -/
def destroy (warden : EntityWarden) (eid : Uid) (factory : Option ComponentFactory) : Outcome :=
  match warden.entities.lookup eid with
  | none => warden.refuse .GXF_ENTITY_NOT_FOUND
  | some item =>
      let removed := (warden.takeEntity eid item).removeName eid
      if item.stage ≠ .kUninitialized then removed.refuse .GXF_INVALID_LIFECYCLE_STAGE
      else
        let (code, calls) := (item.setStage .kDestructionInProgress).destroy factory
        ⟨removed, code, calls⟩

/-- The loop of `cleanup` that deinitializes entities. -/
def cleanupDeinit (results : Results) :
    GxfResult → List EntityItem → List EntityItem × GxfResult × List Call
  | code, [] => ([], code, [])
  | code, item :: rest =>
      let (item, current, calls) :=
        if item.stage = .kInitialized then
          (item.setStage .kDeinitializationInProgress).deinit results
        else (item, .GXF_SUCCESS, [])
      let (items, code, later) := cleanupDeinit results (accumulateError code current) rest
      (item :: items, code, calls ++ later)

/-- The loop of `cleanup` that destroys entities. -/
def cleanupDestroy (factory : Option ComponentFactory) :
    GxfResult → List EntityItem → GxfResult × List Call
  | code, [] => (code, [])
  | code, item :: rest =>
      if item.stage ≠ .kUninitialized then
        cleanupDestroy factory .GXF_INVALID_LIFECYCLE_STAGE rest
      else
        let (current, calls) := (item.setStage .kDestructionInProgress).destroy factory
        let (code, later) := cleanupDestroy factory (accumulateError code current) rest
        (code, calls ++ later)

/-- `cleanup(factory)`.  The map of entities is gone through in some order, here in the
order of the table. -/
def cleanup (warden : EntityWarden) (factory : Option ComponentFactory) (results : Results) :
    Outcome :=
  let (items, code, deinitialized) :=
    cleanupDeinit results .GXF_SUCCESS (warden.entities.entries.map fun entry => entry.2)
  let (code, destroyed) := cleanupDestroy factory code items
  ⟨{ warden with entities := ∅, components := ∅, nameToEid := ∅, eidToName := ∅ }, code,
    deinitialized ++ destroyed⟩

/-- `find(context, name, eid)`. -/
def find (warden : EntityWarden) (name : String) : Except GxfResult Uid :=
  if name = "" then .error .GXF_ENTITY_NOT_FOUND
  else
    match warden.nameToEid.lookup name with
    | none => .error .GXF_ENTITY_NOT_FOUND
    | some eid => .ok eid

/-- `removeComponent(context, eid, cid, factory)`. -/
def removeComponent (warden : EntityWarden) (eid cid : Uid) (factory : Option ComponentFactory) :
    Outcome :=
  match factory with
  | none => warden.refuse .GXF_ARGUMENT_NULL
  | some deallocate =>
      if cid ∉ warden.components then warden.refuse .GXF_ENTITY_COMPONENT_NOT_FOUND
      else
        let erased := { warden with components := warden.components.erase cid }
        match warden.entities.lookup eid with
        | none => erased.refuse .GXF_ENTITY_NOT_FOUND
        | some item =>
            if item.stage ≠ .kUninitialized then
              erased.refuse .GXF_ENTITY_CAN_NOT_REMOVE_COMPONENT_AFTER_INITIALIZATION
            else
              match item.components.find? fun component => component.cid = cid with
              | none => erased.refuse .GXF_SUCCESS
              | some component =>
                  let calls := [.deallocate component.tid (component.componentPointer.getD 0)]
                  match deallocate component.tid (component.componentPointer.getD 0) with
                  | .error code => ⟨erased, code, calls⟩
                  | .ok () =>
                      ⟨erased.setEntity eid { item with
                        components := item.components.eraseP fun component => component.cid = cid },
                        .GXF_SUCCESS, calls⟩

/-- `addComponent(eid, cid, tid, raw_pointer, component)`. -/
def addComponent (warden : EntityWarden) (eid : Uid) (component : ComponentItem) : Outcome :=
  match warden.entities.lookup eid with
  | none => warden.refuse .GXF_ENTITY_NOT_FOUND
  | some item =>
      let indexed := { warden with
        components := warden.components.insert component.cid ⟨eid, component.tid⟩ }
      if item.stage ≠ .kUninitialized then
        indexed.refuse .GXF_ENTITY_CAN_NOT_ADD_COMPONENT_AFTER_INITIALIZATION
      else if kMaxComponents ≤ item.components.length then
        indexed.refuse .GXF_ENTITY_MAX_COMPONENTS_LIMIT_EXCEEDED
      else
        ⟨indexed.setEntity eid { item with components := item.components ++ [component] },
          .GXF_SUCCESS, []⟩

/-- `addComponentToInterface(eid, cid, name)`. -/
def addComponentToInterface (warden : EntityWarden) (eid cid : Uid) (name : String) : Outcome :=
  match warden.entities.lookup eid with
  | none => warden.refuse .GXF_ENTITY_NOT_FOUND
  | some item =>
      if item.stage ≠ .kUninitialized then
        warden.refuse .GXF_ENTITY_CAN_NOT_ADD_COMPONENT_AFTER_INITIALIZATION
      else
        ⟨warden.setEntity eid { item with interface := emplace item.interface name cid },
          .GXF_SUCCESS, []⟩

/-- `createEntityGroup(gid, name)`. -/
def createEntityGroup (warden : EntityWarden) (gid : Uid) (name : String) : Outcome :=
  if gid ∈ warden.entityGroups then warden.refuse .GXF_FAILURE
  else
    ⟨{ warden with entityGroups := warden.entityGroups.insert gid ⟨gid, name, [], []⟩ },
      .GXF_SUCCESS, []⟩

/-- `createDefaultEntityGroup(gid)`. -/
def createDefaultEntityGroup (warden : EntityWarden) (gid : Uid) : Outcome :=
  let created := warden.createEntityGroup gid kDefaultEntityGroupName
  if created.code ≠ .GXF_SUCCESS then created
  else { created with warden := { created.warden with defaultEntityGroupId := gid } }

/-- The loop of `entityGroupRemoveEntity`, which goes on behind the place of an erased
element, from an index on. -/
def removeFrom (eid : Uid) : (fuel index : Nat) → List Uid → List Uid
  | 0, _, entities => entities
  | fuel + 1, index, entities =>
      match entities[index]? with
      | none => entities
      | some member =>
          removeFrom eid fuel (index + 1)
            (if member = eid then entities.eraseIdx index else entities)

/-- The entities of a group are replaced. -/
def setMembers (warden : EntityWarden) (gid : Uid) (group : EntityGroupItem)
    (entities : List Uid) : EntityWarden :=
  { warden with entityGroups := warden.entityGroups.insert gid { group with entities } }

/-- `entityGroupRemoveEntity(eid)`. -/
def entityGroupRemoveEntity (warden : EntityWarden) (eid : Uid) : EntityWarden × GxfResult :=
  match warden.entities.lookup eid with
  | none => (warden, .GXF_ENTITY_NOT_FOUND)
  | some item =>
      if item.gid = kUnspecifiedUid then (warden, .GXF_FAILURE)
      else
        match warden.entityGroups.lookup item.gid with
        | none => (warden, .GXF_ENTITY_GROUP_NOT_FOUND)
        | some group =>
            ((warden.setMembers item.gid group
                (removeFrom eid group.entities.length 0 group.entities)).setEntity eid
              { item with gid := kUnspecifiedUid }, .GXF_SUCCESS)

/-- `updateEntityGroup(gid, eid)`. -/
def updateEntityGroup (warden : EntityWarden) (gid eid : Uid) : Outcome :=
  match warden.entityGroups.lookup gid with
  | none => warden.refuse .GXF_ENTITY_GROUP_NOT_FOUND
  | some group =>
      match warden.entities.lookup eid with
      | none => warden.refuse .GXF_ENTITY_NOT_FOUND
      | some item =>
          if item.gid = gid then warden.refuse .GXF_FAILURE
          else if item.gid = kUnspecifiedUid then warden.refuse .GXF_FAILURE
          else
            let (removed, code) := warden.entityGroupRemoveEntity eid
            if code ≠ .GXF_SUCCESS then removed.refuse code
            else
              let updated := removed.setEntity eid { item with gid }
              if kMaxEntities ≤ group.entities.length then updated.refuse .GXF_OUT_OF_MEMORY
              else ⟨updated.setMembers gid group (group.entities ++ [eid]), .GXF_SUCCESS, []⟩

/-- The warden of a new context, with its default entity group. -/
def fresh (gid : Uid) : EntityWarden :=
  (createDefaultEntityGroup ⟨∅, ∅, ∅, ∅, ∅, kUnspecifiedUid⟩ gid).warden

end EntityWarden

end Gxf.Std
