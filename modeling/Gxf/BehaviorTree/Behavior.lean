import Gxf.Std.EntityExecutor.EntityItem

/-!
# Behaviour trees

A behaviour is the codelet of an entity that has a scheduling term and a controller of its own.
A parent starts a child through the term of the child and polls the status that the controller of
the child gave to its last tick.  An entity of the tree is named by the way from it to the root: the
index among its siblings comes first.
-/

namespace Gxf.BehaviorTree

open Gxf.Core Gxf.Std Gxf.Lib

/-- A behaviour with its children.  A switch has an index that is valid: it is given by the children
before the desired one, that child, and those after it. -/
inductive Behavior where
  | Constant (constantStatus : Nat)
  | Sequence (children : List Behavior)
  | Selector (children : List Behavior)
  | Switch (before : List Behavior) (desired : Behavior) (after : List Behavior)

abbrev Path := List Nat

namespace Behavior

/-- The parameter `children`. -/
def children : Behavior → List Behavior
  | .Constant _ => []
  | .Sequence children | .Selector children => children
  | .Switch before desired after => before ++ desired :: after

/-- The behaviour of an entity of the tree. -/
def get? (tree : Behavior) : Path → Option Behavior
  | [] => some tree
  | index :: parent => (tree.get? parent).bind fun behavior => behavior.children[index]?

end Behavior

/-- `ConstantBehavior::CONSTANT_SUCCESS`. -/
def CONSTANT_SUCCESS : Nat := 0

/-- The scheduling term, the codelet, the controller and the executor's item of one entity.
`dropped` is set by the scheduler. -/
structure Node where
  item : EntityItem
  /-- `BTSchedulingTerm::scheduling_condition_type_`. -/
  condition : SchedulingConditionType
  executionCount : Nat
  currentChildId : Nat
  repeatCount : Nat
  dropped : Bool

/-- What is recorded of the behaviours. -/
inductive TreeEvent where
  | started (child : Path)
  | ticked (path : Path)
  deriving DecidableEq

/-- The entities of a tree.  `events` lists what happened, newest first. -/
structure World where
  nodes : Path → Node
  clock : Int
  events : List TreeEvent

namespace World

/-- A component of an entity changes. -/
def modify (world : World) (path : Path) (change : Node → Node) : World :=
  { world with nodes := Function.update world.nodes path (change (world.nodes path)) }

/-- `BTSchedulingTerm::set_condition(type)`. -/
def setCondition (world : World) (path : Path) (type : SchedulingConditionType) : World :=
  world.modify path fun node => { node with condition := type }

def setCurrentChildId (world : World) (path : Path) (childId : Nat) : World :=
  world.modify path fun node => { node with currentChildId := childId }

/-- `startChild(child_id)`. -/
def startChild (world : World) (path : Path) (childId : Nat) : World :=
  { world.setCondition (childId :: path) .READY with
    events := .started (childId :: path) :: world.events }

/-- `GetChildStatus(child_id)`. -/
def getChildStatus (world : World) (path : Path) (numChildren childId : Nat) : EntityState :=
  if childId ≥ numChildren then .GXF_BEHAVIOR_UNKNOWN
  else (world.nodes (childId :: path)).item.behaviorStatus

/-- `isFirstTick()`. -/
def isFirstTick (world : World) (path : Path) : Bool := (world.nodes path).executionCount == 1

end World

/-- `ConstantBehavior::tick()`. -/
def ConstantBehavior.tick (constantStatus : Nat) (path : Path) (world : World) :
    World × GxfResult :=
  if constantStatus = CONSTANT_SUCCESS then (world.setCondition path .NEVER, .GXF_SUCCESS)
  else (world.setCondition path .READY, .GXF_FAILURE)

/-- `SequenceBehavior::tick()`. -/
def SequenceBehavior.tick (numChildren : Nat) (path : Path) (world : World) : World × GxfResult :=
  if world.isFirstTick path then
    if numChildren = 0 then (world.setCondition path .NEVER, .GXF_SUCCESS)
    else ((world.setCurrentChildId path 0).startChild path 0, .GXF_NOT_FINISHED)
  else
    let currentChildId := (world.nodes path).currentChildId
    match world.getChildStatus path numChildren currentChildId with
    | .GXF_BEHAVIOR_SUCCESS =>
        let next := world.setCurrentChildId path (currentChildId + 1)
        if currentChildId + 1 ≥ numChildren then (next.setCondition path .NEVER, .GXF_SUCCESS)
        else (next.startChild path (currentChildId + 1), .GXF_NOT_FINISHED)
    | .GXF_BEHAVIOR_FAILURE => (world.setCondition path .NEVER, .GXF_FAILURE)
    | .GXF_BEHAVIOR_INIT | .GXF_BEHAVIOR_RUNNING =>
        (world.setCondition path .READY, .GXF_NOT_FINISHED)
    | .GXF_BEHAVIOR_UNKNOWN => (world.setCondition path .NEVER, .GXF_QUERY_NOT_FOUND)

/-- `SelectorBehavior::tick()`. -/
def SelectorBehavior.tick (numChildren : Nat) (path : Path) (world : World) : World × GxfResult :=
  if world.isFirstTick path then
    if numChildren = 0 then (world.setCondition path .NEVER, .GXF_FAILURE)
    else ((world.setCurrentChildId path 0).startChild path 0, .GXF_NOT_FINISHED)
  else
    let currentChildId := (world.nodes path).currentChildId
    match world.getChildStatus path numChildren currentChildId with
    | .GXF_BEHAVIOR_SUCCESS => (world.setCondition path .NEVER, .GXF_SUCCESS)
    | .GXF_BEHAVIOR_FAILURE =>
        let next := world.setCurrentChildId path (currentChildId + 1)
        if currentChildId + 1 ≥ numChildren then (next.setCondition path .NEVER, .GXF_FAILURE)
        else (next.startChild path (currentChildId + 1), .GXF_NOT_FINISHED)
    | .GXF_BEHAVIOR_INIT | .GXF_BEHAVIOR_RUNNING => (world, .GXF_NOT_FINISHED)
    | .GXF_BEHAVIOR_UNKNOWN => (world.setCondition path .NEVER, .GXF_QUERY_NOT_FOUND)

/-- `SwitchBehavior::tick()`. -/
def SwitchBehavior.tick (numChildren desiredBehavior : Nat) (path : Path) (world : World) :
    World × GxfResult :=
  if world.isFirstTick path then
    if numChildren = 0 then (world.setCondition path .NEVER, .GXF_SUCCESS)
    else ((world.setCurrentChildId path desiredBehavior).startChild path desiredBehavior,
      .GXF_NOT_FINISHED)
  else
    match world.getChildStatus path numChildren (world.nodes path).currentChildId with
    | .GXF_BEHAVIOR_SUCCESS => (world.setCondition path .NEVER, .GXF_SUCCESS)
    | .GXF_BEHAVIOR_FAILURE => (world.setCondition path .NEVER, .GXF_FAILURE)
    | .GXF_BEHAVIOR_INIT | .GXF_BEHAVIOR_RUNNING =>
        (world.setCondition path .READY, .GXF_NOT_FINISHED)
    | .GXF_BEHAVIOR_UNKNOWN => (world.setCondition path .NEVER, .GXF_QUERY_NOT_FOUND)

/-- `Codelet::tick()`. -/
def Behavior.tick (behavior : Behavior) (path : Path) (world : World) : World × GxfResult :=
  match behavior with
  | .Constant constantStatus => ConstantBehavior.tick constantStatus path world
  | .Sequence children => SequenceBehavior.tick children.length path world
  | .Selector children => SelectorBehavior.tick children.length path world
  | .Switch before _ after =>
      SwitchBehavior.tick (before.length + (after.length + 1)) before.length path world

namespace EntityCountFailureRepeatController

/-- `setBehaviorStatus(tick_result)`. -/
def setBehaviorStatus : GxfResult → EntityState
  | .GXF_SUCCESS => .GXF_BEHAVIOR_SUCCESS
  | .GXF_NOT_FINISHED => .GXF_BEHAVIOR_RUNNING
  | _ => .GXF_BEHAVIOR_FAILURE

/-- `control(eid, code)`, with the number of repetitions so far and the next one. -/
def control (maxRepeatCount : Nat) (returnBehaviorRunningIfFailureRepeat : Bool)
    (repeatCount : Nat) (code : GxfResult) : Nat × ControllerStatus :=
  match setBehaviorStatus code with
  | .GXF_BEHAVIOR_INIT => (repeatCount, ⟨.GXF_BEHAVIOR_INIT, .GXF_EXECUTE_FAILURE_REPEAT⟩)
  | .GXF_BEHAVIOR_FAILURE =>
      if repeatCount + 1 ≤ maxRepeatCount then
        (repeatCount + 1, ⟨if returnBehaviorRunningIfFailureRepeat then .GXF_BEHAVIOR_RUNNING
            else .GXF_BEHAVIOR_FAILURE, .GXF_EXECUTE_FAILURE_REPEAT⟩)
      else (repeatCount + 1, ⟨.GXF_BEHAVIOR_FAILURE, .GXF_EXECUTE_FAILURE_DEACTIVATE⟩)
  | status => (repeatCount, ⟨status, .GXF_EXECUTE_SUCCESS⟩)

end EntityCountFailureRepeatController

/-- `BTSchedulingTerm::check_abi(timestamp, type, target_timestamp)`. -/
def BTSchedulingTerm.checkAbi (condition : SchedulingConditionType) (timestamp : Int) :
    SchedulingCondition :=
  if condition = .NEVER ∨ condition = .READY then ⟨condition, timestamp⟩ else ⟨.WAIT, 0⟩

namespace World

/-- `Codelet::beforeTick(timestamp)`. -/
def beforeTick (world : World) (path : Path) : World :=
  { world.modify path fun node => { node with executionCount := node.executionCount + 1 } with
    events := .ticked path :: world.events }

/-- The controller of every entity never repeats. -/
def control (node : Node) (code : GxfResult) : Nat × ControllerStatus :=
  EntityCountFailureRepeatController.control 0 false node.repeatCount code

/-- How the components of an entity answer to the executor. -/
def environment (behavior : Behavior) (path : Path) (world : World) (timestamp : Int) :
    Environment where
  hasRouter := true
  startCode _ := .GXF_SUCCESS
  tickCode _ := (behavior.tick path (world.beforeTick path)).2
  stopCode _ := .GXF_SUCCESS
  syncInbox := .GXF_SUCCESS
  syncOutbox := .GXF_SUCCESS
  check _ _ := .ok (BTSchedulingTerm.checkAbi (world.nodes path).condition timestamp)
  combinerResult _ := ⟨.READY, 0⟩
  onExecute _ := .GXF_SUCCESS
  controllerLookup := .found
  control code := (control (world.nodes path) code).2

/-- What the components do when the executor calls them. -/
def react (behavior : Behavior) (path : Path) (world : World) : Callback → World
  | .start _ _ => world.modify path fun node => { node with executionCount := 0 }
  | .tick _ _ _ => (behavior.tick path (world.beforeTick path)).1
  | .control code _ =>
      world.modify path fun node => { node with repeatCount := (control node code).1 }
  | .stop _ _ | .onExecute _ _ _ | .syncInbox _ | .syncOutbox _ => world

/-- The answer says that the entity never executes again. -/
def isNever : Except GxfResult SchedulingCondition → Bool
  | .ok condition => decide (condition.type = .NEVER)
  | .error _ => false

/-- The scheduler executes an entity and drops it when the answer is `NEVER`. -/
def execute (behavior : Behavior) (path : Path) (world : World) : World :=
  let item := (world.nodes path).item
  let executed := item.execute (environment behavior path world world.clock) world.clock
  let reacted := (executed.1.callbacks.drop item.callbacks.length).foldl (react behavior path) world
  reacted.modify path fun node =>
    { node with item := executed.1, dropped := node.dropped || isNever executed.2 }

/-- The components of the entities, and what memory held at `last_execution_timestamp_`. -/
structure Parts where
  codelet : Path → Uid
  term : Path → Uid
  lastExecutionTimestamp : Path → Int

/-- The entities after their initialization. -/
def start (parts : Parts) (clock : Int) : World where
  nodes path :=
    { item := EntityItem.activate
        ⟨[parts.codelet path], [parts.term path], [], List.nodup_singleton _,
          List.nodup_singleton _⟩ (fun _ => .other) (parts.lastExecutionTimestamp path)
      condition := if path = [] then .READY else .WAIT
      executionCount := 0
      currentChildId := 0
      repeatCount := 0
      dropped := false }
  clock
  events := []

/-- An entity can be executed: its term is `READY`, and the scheduler has not dropped it. -/
def CanExecute (world : World) (path : Path) : Prop :=
  (world.nodes path).condition = .READY ∧ (world.nodes path).dropped = false

instance (world : World) (path : Path) : Decidable (world.CanExecute path) :=
  inferInstanceAs (Decidable (_ ∧ _))

/-- Some time later, the scheduler executes an entity if it can be executed. -/
def step (tree : Behavior) (world : World) (path : Path) (elapsed : Nat) : World :=
  let world := { world with clock := world.clock + elapsed }
  match tree.get? path with
  | none => world
  | some behavior => if world.CanExecute path then world.execute behavior path else world

def system (tree : Behavior) : System World (Path × Nat) Unit where
  step world op := (world.step tree op.1 op.2, ())

end World

end Gxf.BehaviorTree
