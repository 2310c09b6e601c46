import Gxf.Core.Result
import Gxf.Std.Entity
import Gxf.Std.Program.States
import Mathlib.Algebra.Order.Group.Multiset

/-!
# The entities of a program

A program keeps its entities in two lists.  To activate an entity is to initialize it, to hand
it to the executor and to schedule it; the deactivation of a graph takes all of this back.
-/

namespace Gxf.Std

open Gxf.Core

namespace Program

/-- The types of components that a program looks for in an entity. -/
inductive ComponentKind where
  | System
  | Router
  | Connection
  | NetworkContext
  | Scheduler
  | Monitor
  | JobStatistics
  deriving DecidableEq, Repr

/-- The classes in which entities are activated, in this order. -/
inductive EntityClass where
  | system
  | router
  | connection
  | networkContext
  | graph
  deriving DecidableEq, Repr

/-- A code other than that of success. -/
abbrev Failure := { code : GxfResult // code ≠ .GXF_SUCCESS }

/-- What the functions that a program calls return.  `find` gives the handles of components,
of which some may be bad.  `createGroups` gives the message router and the network router.  The
results of `schedule`, `unschedule`, `addRoutes` and `removeRoutes` are accumulated by the
groups, and `iterate` is the order of a hash set. -/
structure Environment where
  typeId : GxfResult
  find : ComponentKind → Uid → Except Failure (List (Option Uid))
  createGroups : Except Failure (Uid × Uid)
  add : ComponentKind → Uid → GxfResult
  addRoutes : Uid → GxfResult
  removeRoutes : Uid → GxfResult
  populate : Uid → GxfResult
  init : Uid → GxfResult
  deinit : Uid → GxfResult
  executorActivate : Uid → Except Failure Bool
  prepare : Uid → GxfResult
  schedule : Uid → GxfResult
  unschedule : Uid → GxfResult
  iterate : List Uid → List Uid
  iterate_perm : ∀ eids, (iterate eids).Perm eids

end Program

open Program

/-- The fields of the program, with what the system group, the router group and the executor
have registered, and the entities that the warden has initialized and the executor has active.
`groups` and `statistics` say that the handles of the groups lead to components and that the
executor has its list of job statistics. -/
structure Program where
  state : State
  unscheduled : List Uid
  scheduled : List Uid
  schedulers : List Uid
  registered : ComponentKind → Multiset Uid
  groups : Bool
  statistics : Bool
  /-- A pointer that leads nowhere was followed.  What is computed behind that does not happen. -/
  ended : Bool
  initialized : List Uid
  active : List Uid

namespace Program

/-- `.and_then(..)`. -/
def andThen (result : Program × GxfResult) (next : Program → Program × GxfResult) :
    Program × GxfResult :=
  if result.2 = .GXF_SUCCESS then next result.1 else result

/-- `emplace_back(entity)` of a list of entities, of which the result is ignored. -/
def emplaceBack (eids : List Uid) (eid : Uid) : List Uid :=
  if eids.length < kMaxEntities then eids ++ [eid] else eids

def setRegistered (program : Program) (kind : ComponentKind)
    (change : Multiset Uid → Multiset Uid) : Program :=
  { program with
    registered := Function.update program.registered kind (change (program.registered kind)) }

/-- A pointer is followed.  The process ends unless it is valid. -/
def follow (program : Program) (valid : Bool) : Program :=
  { program with ended := program.ended || !valid }

/-- A loop that adds components: `addSystem`, `addRouter`, `addMonitor`, `addStatistics`. -/
def addHandles (env : Environment) (kind : ComponentKind) :
    List (Option Uid) → Program → Program × GxfResult
  | [], program => (program, .GXF_SUCCESS)
  | none :: _, program => (program, .GXF_FAILURE)
  | some component :: rest, program =>
      if env.add kind component ≠ .GXF_SUCCESS then (program, env.add kind component)
      else addHandles env kind rest (program.setRegistered kind (component ::ₘ ·))

/-- The components of a kind in an entity are added. -/
def addAll (env : Environment) (kind : ComponentKind) (eid : Uid) (program : Program) :
    Program × GxfResult :=
  match env.find kind eid with
  | .error code => (program, code.val)
  | .ok handles => addHandles env kind handles program

/-- A loop that removes components: `removeSystem`, `removeRouter`, `removeMonitor`,
`removeStatistics`. -/
def removeHandles (kind : ComponentKind) : List (Option Uid) → Program → Program × GxfResult
  | [], program => (program, .GXF_SUCCESS)
  | none :: _, program => (program, .GXF_FAILURE)
  | some component :: rest, program =>
      if component ∈ program.registered kind then
        removeHandles kind rest (program.setRegistered kind (·.erase component))
      else (program, .GXF_ENTITY_COMPONENT_NOT_FOUND)

def removeAll (env : Environment) (kind : ComponentKind) (eid : Uid) (program : Program) :
    Program × GxfResult :=
  match env.find kind eid with
  | .error code => (program, code.val)
  | .ok handles => removeHandles kind handles program

/-- A loop over components comes to a first that is good. -/
def reaches (env : Environment) (kind : ComponentKind) (eid : Uid) : Bool :=
  match env.find kind eid with
  | .ok (some _ :: _) => true
  | _ => false

def prepareHandles (env : Environment) : List (Option Uid) → GxfResult
  | [] => .GXF_SUCCESS
  | none :: _ => .GXF_FAILURE
  | some scheduler :: rest =>
      if env.prepare scheduler ≠ .GXF_SUCCESS then env.prepare scheduler
      else prepareHandles env rest

/-- The executor is offered to the schedulers in an entity, which is kept track of. -/
def prepareAll (env : Environment) (eid : Uid) (program : Program) : Program × GxfResult :=
  match env.find .Scheduler eid with
  | .error code => (program, code.val)
  | .ok handles =>
      let code := prepareHandles env handles
      if code ≠ .GXF_SUCCESS ∨ handles = [] then (program, code)
      else ({ program with schedulers := program.schedulers.insert eid }, .GXF_SUCCESS)

/-- `scheduleEntity(eid)`, when the entity has been taken from the unscheduled ones. -/
def attachEntity (env : Environment) (eid : Uid) (program : Program) : Program × GxfResult :=
  andThen (addAll env .System eid (program.follow (program.groups || !reaches env .System eid)))
    fun program =>
  andThen (prepareAll env eid program) fun program =>
  andThen (addAll env .Monitor eid program) fun program =>
  andThen (addAll env .JobStatistics eid
    (program.follow (program.statistics || !reaches env .JobStatistics eid))) fun program =>
    ({ program with scheduled := emplaceBack program.scheduled eid }.follow program.groups,
      env.schedule eid)

/-- `scheduleEntity(eid)`. -/
def scheduleEntity (env : Environment) (eid : Uid) (program : Program) : Program × GxfResult :=
  if program.state = .ORIGIN then (program, .GXF_INVALID_LIFECYCLE_STAGE)
  else if eid ∉ program.unscheduled then (program, .GXF_SUCCESS)
  else attachEntity env eid { program with unscheduled := program.unscheduled.erase eid }

/-- The loop of `unscheduleEntity` that looks for the entity. -/
def moveBack (env : Environment) (eid : Uid) (program : Program) : Program × GxfResult :=
  if eid ∈ program.scheduled then
    ({ program with
      scheduled := program.scheduled.erase eid
      unscheduled := emplaceBack program.unscheduled eid }.follow program.groups,
        env.unschedule eid)
  else (program, .GXF_SUCCESS)

/-- `unscheduleEntity(eid)`. -/
def unscheduleEntity (env : Environment) (eid : Uid) (program : Program) : Program × GxfResult :=
  andThen (moveBack env eid program) fun program =>
  andThen (removeAll env .JobStatistics eid
    (program.follow (program.statistics || !reaches env .JobStatistics eid))) fun program =>
  andThen (removeAll env .Monitor eid program) fun program =>
  andThen ({ program with schedulers := program.schedulers.erase eid }.follow program.groups,
    env.removeRoutes eid) fun program =>
  andThen (removeAll env .Router eid program) fun program =>
    removeAll env .System eid program

/-- `initialize(eid)` of the warden. -/
def initEntity (env : Environment) (eid : Uid) (program : Program) : Program × GxfResult :=
  if eid ∈ program.initialized then (program, .GXF_INVALID_LIFECYCLE_STAGE)
  else if env.init eid ≠ .GXF_SUCCESS then (program, env.init eid)
  else ({ program with initialized := eid :: program.initialized }, .GXF_SUCCESS)

/-- `deinitialize(eid)` of the warden. -/
def deinitEntity (env : Environment) (eid : Uid) (program : Program) : Program × GxfResult :=
  if eid ∈ program.initialized then
    ({ program with initialized := program.initialized.filter (· ≠ eid) }, env.deinit eid)
  else (program, .GXF_SUCCESS)

/-- `activate(context, eid)` of the executor. -/
def executorActivate (env : Environment) (eid : Uid) (program : Program) : Program × GxfResult :=
  match env.executorActivate eid with
  | .error code => (program, code.val)
  | .ok false => (program, .GXF_SUCCESS)
  | .ok true => ({ program with active := program.active.insert eid }, .GXF_SUCCESS)

/-- `deactivate(eid)` of the executor. -/
def executorDeactivate (eid : Uid) (program : Program) : Program :=
  { program with active := program.active.filter (· ≠ eid) }

/-- `GxfEntityActivate(eid)`. -/
def entityActivate (env : Environment) (eid : Uid) (program : Program) : Program × GxfResult :=
  andThen (initEntity env eid program) fun program =>
  andThen (executorActivate env eid program) fun program =>
    scheduleEntity env eid program

/-- `GxfEntityDeactivate(eid)`. -/
def entityDeactivate (env : Environment) (eid : Uid) (program : Program) : Program × GxfResult :=
  andThen (unscheduleEntity env eid program) fun program =>
    deinitEntity env eid (executorDeactivate eid program)

/-- The groups are new, or gone. -/
def setGroups (program : Program) (groups : Bool) : Program :=
  { (program.setRegistered .System fun _ => 0).setRegistered .Router fun _ => 0 with groups }

/-- `initialize(..)` of the executor. -/
def initializeExecutor (program : Program) : Program :=
  { program.setRegistered .JobStatistics fun _ => 0 with statistics := true }

/-- `resetProgram()`. -/
def resetProgram (program : Program) : Program :=
  { program.setGroups false with unscheduled := [], scheduled := [] }

/-- A loop that deactivates entities. -/
def sweep (env : Environment) : List Uid → Program → Program × GxfResult
  | [], program => (program, .GXF_SUCCESS)
  | eid :: rest, program =>
      andThen (entityDeactivate env eid program) fun program => sweep env rest program

/-- The copies of ids that `deactivate` makes: too many of them, or a failure on the way,
reset the program. -/
def sweepAll (env : Environment) (eids : List Uid) (program : Program) : Program × GxfResult :=
  if kMaxEntities < eids.length then (program.resetProgram, .GXF_EXCEEDING_PREALLOCATED_SIZE)
  else
    let (swept, code) := sweep env eids program
    if code ≠ .GXF_SUCCESS then (swept.resetProgram, code) else (swept, .GXF_SUCCESS)

/-- The ids of entities that are no schedulers, in the order of the two lists. -/
def graphEids (program : Program) : List Uid :=
  (program.unscheduled ++ program.scheduled).filter (· ∉ program.schedulers)

/-- `deactivate()`. -/
def deactivate (env : Environment) (program : Program) : Program × GxfResult :=
  if program.state = .ORIGIN then (program, .GXF_SUCCESS)
  else
    let leaving := { program with state := .DEINITALIZING }
    andThen (sweepAll env leaving.graphEids.reverse leaving) fun program =>
    andThen (sweepAll env (env.iterate program.schedulers) program) fun program =>
      ({ program.setGroups false with state := .ORIGIN }, .GXF_SUCCESS)

/-- The class of an entity by what it holds, in the order of the checks. -/
def classify (systems connections routers networkContexts : List (Option Uid)) : EntityClass :=
  if systems ≠ [] then .system
  else if routers ≠ [] then .router
  else if connections ≠ [] then .connection
  else if networkContexts ≠ [] then .networkContext
  else .graph

def classOf (env : Environment) (eid : Uid) : Except Failure EntityClass := do
  let systems ← env.find .System eid
  let connections ← env.find .Connection eid
  let routers ← env.find .Router eid
  let networkContexts ← env.find .NetworkContext eid
  return classify systems connections routers networkContexts

def sort (env : Environment) : List Uid → Except Failure (EntityClass → List Uid)
  | [] => .ok fun _ => []
  | eid :: rest => do
      let entityClass ← classOf env eid
      let sorted ← sort env rest
      return Function.update sorted entityClass (eid :: sorted entityClass)

/-- The loop that adds the routers of entities to the router group. -/
def addRouters (env : Environment) : List Uid → Program → Program × GxfResult
  | [], program => (program, .GXF_SUCCESS)
  | eid :: rest, program =>
      andThen (addAll env .Router eid program) fun program => addRouters env rest program

/-- `addRoutes(entities)`.  A failure answers with the result of the deactivation. -/
def addRoutes (env : Environment) : List Uid → Program → Program × GxfResult
  | [], program => (program, .GXF_SUCCESS)
  | eid :: rest, program =>
      if env.addRoutes eid ≠ .GXF_SUCCESS then deactivate env program
      else addRoutes env rest program

/-- `preActivateEntities(entities)`. -/
def preActivateEntities (env : Environment) : List Uid → Program → Program × GxfResult
  | [], program => (program, .GXF_SUCCESS)
  | eid :: rest, program =>
      if env.populate eid ≠ .GXF_SUCCESS then ((deactivate env program).1, env.populate eid)
      else preActivateEntities env rest program

/-- `activateEntities(entities)`. -/
def activateEntities (env : Environment) : List Uid → Program → Program × GxfResult
  | [], program => (program, .GXF_SUCCESS)
  | eid :: rest, program =>
      let (activated, code) := entityActivate env eid program
      if code ≠ .GXF_SUCCESS then ((deactivate env activated).1, code)
      else activateEntities env rest activated

/-- The part of `activate` behind the sorting. -/
def activateSorted (env : Environment) (sorted : EntityClass → List Uid) (program : Program) :
    Program × GxfResult :=
  match env.createGroups with
  | .error code => (program, code.val)
  | .ok (messageRouter, networkRouter) =>
      andThen (addHandles env .Router [some messageRouter, some networkRouter]
        (program.setGroups true)) fun program =>
      andThen (addRouters env (sorted .router) program) fun program =>
      andThen (addRoutes env program.unscheduled program) fun program =>
      andThen (preActivateEntities env (sorted .graph) program.initializeExecutor) fun program =>
      andThen (activateEntities env (sorted .system) program) fun program =>
      andThen (activateEntities env (sorted .router) program) fun program =>
      andThen (activateEntities env (sorted .connection) program) fun program =>
      andThen (activateEntities env (sorted .networkContext) program) fun program =>
      andThen (activateEntities env (sorted .graph) program) fun program =>
        ({ program with state := .ACTIVATED }, .GXF_SUCCESS)

/-- `activate()`. -/
def activate (env : Environment) (program : Program) : Program × GxfResult :=
  if env.typeId ≠ .GXF_SUCCESS then (program, env.typeId)
  else if program.state ≠ .ORIGIN then (program, .GXF_INVALID_EXECUTION_SEQUENCE)
  else
    let activating := { program with state := .ACTIVATING }
    match sort env program.unscheduled with
    | .error code => (activating, code.val)
    | .ok sorted => activateSorted env sorted activating

end Program

end Gxf.Std
