import Gxf.BehaviorTree.Behavior

/-!
# One execution of an entity of a behaviour tree

The first execution starts the codelet.  Later ones tick the behaviour, and the controller turns
the code of the tick into the status that the parent polls and into the answer to the scheduler.
-/

namespace Gxf.BehaviorTree

open Gxf.Core Gxf.Std Gxf.Lib EntityItem

namespace EntityCountFailureRepeatController
theorem setBehaviorStatus_failure {code : GxfResult} (notSuccess : code ≠ .GXF_SUCCESS)
    (notRunning : code ≠ .GXF_NOT_FINISHED) : setBehaviorStatus code = .GXF_BEHAVIOR_FAILURE := by
  unfold setBehaviorStatus
  split
  · exact absurd rfl notSuccess
  · exact absurd rfl notRunning
  · rfl
end EntityCountFailureRepeatController
open EntityCountFailureRepeatController (setBehaviorStatus setBehaviorStatus_failure)

/-- An item of an entity with one codelet and one term. -/
structure Plain (item : EntityItem) (codelet term : Uid) : Prop where
  codelets : item.codelets = [codelet]
  terms : item.terms = [term]
  combiners : item.combiners = []
  components : item.components = fun _ => .other

variable {item : EntityItem} {codelet term : Uid} {path : Path} {world : World}
  {behavior : Behavior}

def startedItem (item : EntityItem) (codelet : Uid) (timestamp : Int) : EntityItem :=
  { item with
    status := .GXF_ENTITY_STATUS_STARTED
    lastExecutionTimestamp := timestamp
    callbacks := item.callbacks ++ [.start codelet .GXF_SUCCESS] }

theorem execute_notStarted (plain : Plain item codelet term)
    (status : item.status = .GXF_ENTITY_STATUS_NOT_STARTED) :
    item.execute (world.environment behavior path world.clock) world.clock =
      (startedItem item codelet world.clock, .ok ⟨.READY, world.clock⟩) := by
  simp [startedItem, EntityItem.execute, World.environment, status, EntityItem.start,
    startCodelets, callCodelets, plain.codelets, record,
    setEntityStatus]

theorem check_ready (plain : Plain item codelet term)
    (ready : (world.nodes path).condition = .READY) :
    item.check (world.environment behavior path world.clock) world.clock =
      (item, .ok ⟨.READY, max 0 world.clock⟩) := by
  have kept : { item with terms := [term], combiners := [], components := fun _ => .other } =
      item := by
    rw [← plain.terms, ← plain.combiners, ← plain.components]
  simp [EntityItem.check, World.environment, plain.combiners, plain.terms,
    checkCombiners, checkTerms, plain.components, SchedulingTerm.check, ready,
    BTSchedulingTerm.checkAbi,
    SchedulingCondition.andCombine, kept]

def tickCallbacks (codelet term : Uid) (timestamp : Int) (code : GxfResult) : List Callback :=
  .syncInbox .GXF_SUCCESS :: .tick codelet timestamp code ::
    if code = .GXF_SUCCESS then [.onExecute term timestamp .GXF_SUCCESS, .syncOutbox .GXF_SUCCESS]
    else []

theorem tick_plain (plain : Plain item codelet term)
    (past : item.lastExecutionTimestamp ≤ world.clock) {code : GxfResult}
    (isCode : (behavior.tick path (world.beforeTick path)).2 = code) :
    (item.setEntityStatus .GXF_ENTITY_STATUS_TICK_PENDING).tick
        (world.environment behavior path world.clock) world.clock =
      ({ item with
          status :=
            if code = .GXF_SUCCESS then .GXF_ENTITY_STATUS_IDLE else .GXF_ENTITY_STATUS_TICKING
          lastExecutionTimestamp :=
            if code = .GXF_SUCCESS then world.clock else item.lastExecutionTimestamp
          callbacks := item.callbacks ++ tickCallbacks codelet term world.clock code }, code) := by
  by_cases success : code = .GXF_SUCCESS
  · subst success
    simp [setEntityStatus, tick, not_lt.mpr past, record,
      World.environment, tickTicking, tickCodelets, callCodelets,
      plain.codelets, isCode, executedTerms, plain.terms, plain.components,
      SchedulingTerm.onExecute, setComponent, flushOutbox, tickCallbacks]
  · simp [setEntityStatus, tick, not_lt.mpr past, record,
      World.environment, tickTicking, tickCodelets, callCodelets,
      plain.codelets, isCode, success, tickCallbacks]

/-- What the executor calls after a tick. -/
def closingCallbacks (codelet : Uid) (node : Node) (code : GxfResult) : List Callback :=
  .control code (World.control node code).2 ::
    if code = .GXF_SUCCESS ∨ code = .GXF_NOT_FINISHED then [] else [.stop codelet .GXF_SUCCESS]

theorem control_eq (node : Node) (code : GxfResult) : World.control node code =
      if code = .GXF_SUCCESS then (node.repeatCount, ⟨.GXF_BEHAVIOR_SUCCESS, .GXF_EXECUTE_SUCCESS⟩)
      else if code = .GXF_NOT_FINISHED then
        (node.repeatCount, ⟨.GXF_BEHAVIOR_RUNNING, .GXF_EXECUTE_SUCCESS⟩)
      else (node.repeatCount + 1, ⟨.GXF_BEHAVIOR_FAILURE, .GXF_EXECUTE_FAILURE_DEACTIVATE⟩) := by
  unfold World.control EntityCountFailureRepeatController.control
  by_cases success : code = .GXF_SUCCESS
  · rw [if_pos success, success]
    rfl
  · by_cases running : code = .GXF_NOT_FINISHED
    · rw [if_neg success, if_pos running, running]
      rfl
    · rw [if_neg success, if_neg running, setBehaviorStatus_failure success running]
      rfl

theorem findController_found {environment : Environment}
    (found : environment.controllerLookup = .found) :
    item.findController environment = .ok { item with hasController := true } := by
  unfold findController
  split
  · rw [← ‹item.hasController = true›]
  · rw [found]

def tickedItem (item : EntityItem) (codelet term : Uid) (node : Node) (timestamp : Int)
    (code : GxfResult) : EntityItem :=
  { item with
    status :=
      if code = .GXF_SUCCESS then .GXF_ENTITY_STATUS_IDLE
      else if code = .GXF_NOT_FINISHED then .GXF_ENTITY_STATUS_STARTED
      else .GXF_ENTITY_STATUS_NOT_STARTED
    lastExecutionTimestamp :=
      if code = .GXF_SUCCESS then timestamp else item.lastExecutionTimestamp
    behaviorStatus := setBehaviorStatus code
    hasController := true
    callbacks := item.callbacks ++
      (tickCallbacks codelet term timestamp code ++ closingCallbacks codelet node code) }

theorem execute_started (plain : Plain item codelet term)
    (status : item.status = .GXF_ENTITY_STATUS_STARTED)
    (past : item.lastExecutionTimestamp ≤ world.clock)
    (ready : (world.nodes path).condition = .READY) {code : GxfResult}
    (isCode : (behavior.tick path (world.beforeTick path)).2 = code) :
    item.execute (world.environment behavior path world.clock) world.clock =
      (tickedItem item codelet term (world.nodes path) world.clock code,
        .ok (if code = .GXF_NOT_FINISHED then ⟨.READY, world.clock⟩ else ⟨.NEVER, 0⟩)) := by
  have executed : item.execute (world.environment behavior path world.clock) world.clock =
      item.executeReady (world.environment behavior path world.clock) world.clock
        ⟨.READY, max 0 world.clock⟩ := by
    have router : (world.environment behavior path world.clock).hasRouter = true := rfl
    simp only [EntityItem.execute, router, status, check_ready plain ready,
      executeChecked, Bool.not_true, Bool.false_eq_true, if_false]
  have stops : (world.environment behavior path world.clock).stopCode = fun _ => .GXF_SUCCESS := rfl
  have controls : (world.environment behavior path world.clock).control code =
    (World.control (world.nodes path) code).2 := rfl
  rw [executed, executeReady, tick_plain plain past isCode, concludeTick,
    findController_found rfl]
  by_cases success : code = .GXF_SUCCESS
  · subst success
    simp [tickedItem, controlled, controls, control_eq, record,
      setBehaviorStatus, closingCallbacks]
  · by_cases running : code = .GXF_NOT_FINISHED
    · subst running
      simp [tickedItem, controlled, controls, control_eq, record,
        setBehaviorStatus, closingCallbacks, setEntityStatus]
    · have failure := setBehaviorStatus_failure success running
      simp [tickedItem, controlled, controls, control_eq, record,
        closingCallbacks, setEntityStatus, stop, stoppable,
        stopCodelets, plain.codelets, stops, success, running, failure]

theorem execute_eq {next : EntityItem} {answer : Except GxfResult SchedulingCondition}
    {calls : List Callback}
    (executed : (world.nodes path).item.execute (world.environment behavior path world.clock)
      world.clock = (next, answer))
    (isCalls : next.callbacks = (world.nodes path).item.callbacks ++ calls) :
    world.execute behavior path =
      (calls.foldl (World.react behavior path) world).modify path fun node =>
        { node with item := next, dropped := node.dropped || World.isNever answer } := by
  rw [World.execute, executed]
  dsimp only
  rw [isCalls, List.drop_left]

theorem execute_of_notStarted (plain : Plain (world.nodes path).item codelet term)
    (status : (world.nodes path).item.status = .GXF_ENTITY_STATUS_NOT_STARTED) :
    world.execute behavior path = world.modify path fun node =>
      { node with
        item := startedItem (world.nodes path).item codelet world.clock
        executionCount := 0 } := by
  rw [execute_eq (execute_notStarted plain status) rfl]
  simp [World.react, World.modify, World.isNever]

theorem foldl_tickCallbacks (behavior : Behavior) (path : Path) (world : World) (code : GxfResult) :
    (tickCallbacks codelet term world.clock code).foldl (World.react behavior path) world =
      (behavior.tick path (world.beforeTick path)).1 := by
  unfold tickCallbacks
  split <;> rfl

theorem foldl_closingCallbacks (behavior : Behavior) (path : Path) (world : World) (node : Node)
    (code : GxfResult) :
    (closingCallbacks codelet node code).foldl (World.react behavior path) world =
      world.modify path fun node => { node with repeatCount := (World.control node code).1 } := by
  unfold closingCallbacks
  split <;> rfl

theorem execute_of_started (plain : Plain (world.nodes path).item codelet term)
    (status : (world.nodes path).item.status = .GXF_ENTITY_STATUS_STARTED)
    (past : (world.nodes path).item.lastExecutionTimestamp ≤ world.clock)
    (ready : (world.nodes path).condition = .READY) {ticked : World} {code : GxfResult}
    (isTicked : behavior.tick path (world.beforeTick path) = (ticked, code)) :
    world.execute behavior path = ticked.modify path fun node =>
      { node with
        item := tickedItem (world.nodes path).item codelet term (world.nodes path) world.clock code
        repeatCount := (World.control node code).1
        dropped := node.dropped || code != .GXF_NOT_FINISHED } := by
  have executed := execute_started plain status past ready (congrArg Prod.snd isTicked)
  have never : World.isNever (.ok (if code = .GXF_NOT_FINISHED then
      (⟨.READY, world.clock⟩ : SchedulingCondition) else ⟨.NEVER, 0⟩)) =
      (code != .GXF_NOT_FINISHED) := by
    by_cases running : code = .GXF_NOT_FINISHED <;> simp [running, World.isNever]
  rw [execute_eq executed rfl, never, List.foldl_append, foldl_tickCallbacks,
    foldl_closingCallbacks, isTicked]
  simp [World.modify]

end Gxf.BehaviorTree
