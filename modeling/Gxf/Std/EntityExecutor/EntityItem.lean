import Mathlib.Data.List.Nodup
import Gxf.Lib.Run
import Gxf.Std.SchedulingTerms

/-!
# The items of the entity executor

An item starts, ticks and stops the codelets of one entity.  The definitions follow
`entity_executor.cpp`; statistics, profiling ranges and the timing fields of codelets are
left out.  An item also keeps the list of the calls it made to components, which none of
its functions reads.
-/

namespace Gxf.Std

open Gxf.Core Gxf.Lib

/-- `gxf_entity_status_t`. -/
inductive EntityStatus where
  | GXF_ENTITY_STATUS_NOT_STARTED
  | GXF_ENTITY_STATUS_START_PENDING
  | GXF_ENTITY_STATUS_STARTED
  | GXF_ENTITY_STATUS_TICK_PENDING
  | GXF_ENTITY_STATUS_TICKING
  | GXF_ENTITY_STATUS_IDLE
  | GXF_ENTITY_STATUS_STOP_PENDING
  deriving DecidableEq, Repr

/-- `entity_state_t`. -/
inductive EntityState where
  | GXF_BEHAVIOR_INIT
  | GXF_BEHAVIOR_SUCCESS
  | GXF_BEHAVIOR_RUNNING
  | GXF_BEHAVIOR_FAILURE
  | GXF_BEHAVIOR_UNKNOWN
  deriving DecidableEq, Repr

/-- `gxf_execution_status_t`, and any value besides. -/
inductive ExecutionStatus where
  | GXF_EXECUTE_SUCCESS
  | GXF_EXECUTE_FAILURE_REPEAT
  | GXF_EXECUTE_FAILURE_DEACTIVATE
  | GXF_EXECUTE_FAILURE
  | other
  deriving DecidableEq, Repr

/-- `gxf_controller_status_t`. -/
structure ControllerStatus where
  behaviorStatus : EntityState
  execStatus : ExecutionStatus
  deriving DecidableEq, Repr

/-- A call of the executor to a component, with the code it returned. -/
inductive Callback where
  | start (codelet : Uid) (code : GxfResult)
  | tick (codelet : Uid) (timestamp : Int) (code : GxfResult)
  | stop (codelet : Uid) (code : GxfResult)
  | onExecute (term : Uid) (timestamp : Int) (code : GxfResult)
  | syncInbox (code : GxfResult)
  | syncOutbox (code : GxfResult)
  | control (code : GxfResult) (status : ControllerStatus)
  deriving DecidableEq, Repr

/-- What the search for a controller finds. -/
inductive ControllerLookup where
  | absent
  | unusable
  | found
  deriving DecidableEq, Repr

/-- How the components answer during one call of the executor.  Terms of other kinds
answer by the list they are in (a combiner, or behind the last one the other terms) and
their position there. -/
structure Environment where
  hasRouter : Bool
  startCode : Uid → GxfResult
  tickCode : Uid → GxfResult
  stopCode : Uid → GxfResult
  syncInbox : GxfResult
  syncOutbox : GxfResult
  check : Nat → Nat → Except GxfResult SchedulingCondition
  /-- The uninitialized result of a combiner without terms. -/
  combinerResult : Nat → SchedulingCondition
  onExecute : Uid → GxfResult
  controllerLookup : ControllerLookup
  control : GxfResult → ControllerStatus

/-- The components of an entity that the executor looks for. -/
structure Entity where
  codelets : List Uid
  schedulingTerms : List Uid
  combiners : List SchedulingTermCombiner
  codelets_nodup : codelets.Nodup
  schedulingTerms_nodup : schedulingTerms.Nodup

/-- The fields of `EntityExecutor::EntityItem`. -/
structure EntityItem where
  codelets : List Uid
  codelets_nodup : codelets.Nodup
  terms : List Uid
  combiners : List SchedulingTermCombiner
  /-- The terms of the application. -/
  components : Uid → SchedulingTerm
  status : EntityStatus
  lastExecutionTimestamp : Int
  behaviorStatus : EntityState
  hasController : Bool
  callbacks : List Callback

namespace EntityItem

/-- The part of `activate` that collects the components: terms governed by a combiner are
removed from the other terms.  `lastExecutionTimestamp` is not initialized. -/
def activate (entity : Entity) (components : Uid → SchedulingTerm)
    (lastExecutionTimestamp : Int) : EntityItem where
  codelets := entity.codelets
  codelets_nodup := entity.codelets_nodup
  terms :=
    let termsInCombiners := entity.combiners.flatMap SchedulingTermCombiner.termList
    entity.schedulingTerms.filter (· ∉ termsInCombiners)
  combiners := entity.combiners
  components
  status := .GXF_ENTITY_STATUS_NOT_STARTED
  lastExecutionTimestamp
  behaviorStatus := .GXF_BEHAVIOR_INIT
  hasController := false
  callbacks := []

def record (item : EntityItem) (callback : Callback) : EntityItem :=
  { item with callbacks := item.callbacks ++ [callback] }

/-- A term has changed its state. -/
def setComponent (item : EntityItem) (term : Uid) (component : SchedulingTerm) : EntityItem :=
  { item with components := Function.update item.components term component }

/-- `setEntityStatus(next_state)`. -/
def setEntityStatus (item : EntityItem) (nextState : EntityStatus) : EntityItem :=
  { item with status := nextState }

/-- A loop over terms that checks each one and combines the results.  `combine` is also
given the position of a term. -/
def checkTerms (environment : Environment) (timestamp : Int) (list : Nat)
    (combine : Nat → SchedulingCondition → SchedulingCondition → SchedulingCondition) :
    (position : Nat) → List Uid → (Uid → SchedulingTerm) → SchedulingCondition →
      (Uid → SchedulingTerm) × Except GxfResult SchedulingCondition
  | _, [], components, combined => (components, .ok combined)
  | position, term :: rest, components, combined =>
      let checked := (components term).check timestamp (environment.check list position)
      let updated := Function.update components term checked.1
      match checked.2 with
      | .error code => (updated, .error code)
      | .ok result =>
          checkTerms environment timestamp list combine (position + 1) rest updated
            (combine position combined result)

def checkCombiners (environment : Environment) (timestamp : Int) :
    (index : Nat) → List SchedulingTermCombiner → (Uid → SchedulingTerm) →
      SchedulingCondition → (Uid → SchedulingTerm) × Except GxfResult SchedulingCondition
  | _, [], components, combined => (components, .ok combined)
  | index, combiner :: rest, components, combined =>
      let combine (position : Nat) (combined result : SchedulingCondition) :=
        if position = 0 then result else combiner.combine combined result
      let checked := checkTerms environment timestamp index combine 0 combiner.termList components
        (environment.combinerResult index)
      match checked.2 with
      | .error code => (checked.1, .error code)
      | .ok combinerResult =>
          checkCombiners environment timestamp (index + 1) rest checked.1
            (combined.andCombine combinerResult)

/-- `check(timestamp)`. -/
def check (item : EntityItem) (environment : Environment) (timestamp : Int) :
    EntityItem × Except GxfResult SchedulingCondition :=
  let combined := checkCombiners environment timestamp 0 item.combiners item.components ⟨.READY, 0⟩
  match combined.2 with
  | .error code => ({ item with components := combined.1 }, .error code)
  | .ok condition =>
      let checked := checkTerms environment timestamp item.combiners.length
        (fun _ => SchedulingCondition.andCombine) 0 item.terms combined.1 condition
      ({ item with components := checked.1 }, checked.2)

/-- A loop that calls one codelet after the other, up to the first one that fails. -/
def callCodelets (callback : Uid → GxfResult → Callback) (answer : Uid → GxfResult) :
    List Uid → EntityItem → EntityItem × GxfResult
  | [], item => (item, .GXF_SUCCESS)
  | codelet :: rest, item =>
      let code := answer codelet
      let called := item.record (callback codelet code)
      if code = .GXF_SUCCESS then callCodelets callback answer rest called else (called, code)

def startCodelets (environment : Environment) : List Uid → EntityItem → EntityItem × GxfResult :=
  callCodelets .start environment.startCode

/-- `start(timestamp)`. -/
def start (item : EntityItem) (environment : Environment) (timestamp : Int) :
    EntityItem × GxfResult :=
  if item.status ≠ .GXF_ENTITY_STATUS_NOT_STARTED then (item, .GXF_INVALID_LIFECYCLE_STAGE)
  else
    let started := startCodelets environment item.codelets
      (item.setEntityStatus .GXF_ENTITY_STATUS_START_PENDING)
    if started.2 = .GXF_SUCCESS then
      ({ started.1 with
          status := .GXF_ENTITY_STATUS_STARTED
          lastExecutionTimestamp := timestamp }, .GXF_SUCCESS)
    else started

def tickCodelets (environment : Environment) (timestamp : Int) :
    List Uid → EntityItem → EntityItem × GxfResult :=
  callCodelets (fun codelet code => .tick codelet timestamp code) environment.tickCode

def executedTerms (environment : Environment) (timestamp : Int) :
    List Uid → EntityItem → EntityItem × GxfResult
  | [], item => (item, .GXF_SUCCESS)
  | term :: rest, item =>
      let executed := (item.components term).onExecute timestamp (environment.onExecute term)
      let told := (item.record (.onExecute term timestamp executed.2)).setComponent term executed.1
      if executed.2 = .GXF_SUCCESS then executedTerms environment timestamp rest told
      else (told, executed.2)

/-- The end of a tick, from the flush of the output queues on. -/
def flushOutbox (item : EntityItem) (environment : Environment) (timestamp : Int) :
    EntityItem × GxfResult :=
  let flushed := item.record (.syncOutbox environment.syncOutbox)
  if environment.syncOutbox = .GXF_SUCCESS then
    ({ flushed with
        status := .GXF_ENTITY_STATUS_IDLE
        lastExecutionTimestamp := timestamp }, .GXF_SUCCESS)
  else (flushed, environment.syncOutbox)

/-- The middle of a tick, from the execution of the codelets on. -/
def tickTicking (item : EntityItem) (environment : Environment) (timestamp : Int) :
    EntityItem × GxfResult :=
  let ticked := tickCodelets environment timestamp item.codelets
    (item.setEntityStatus .GXF_ENTITY_STATUS_TICKING)
  if ticked.2 ≠ .GXF_SUCCESS then ticked
  else
    let executed := executedTerms environment timestamp ticked.1.terms ticked.1
    if executed.2 ≠ .GXF_SUCCESS then executed
    else executed.1.flushOutbox environment timestamp

/-- `tick(timestamp, router)`. -/
def tick (item : EntityItem) (environment : Environment) (timestamp : Int) :
    EntityItem × GxfResult :=
  if item.status ≠ .GXF_ENTITY_STATUS_TICK_PENDING then (item, .GXF_INVALID_LIFECYCLE_STAGE)
  else if timestamp < item.lastExecutionTimestamp then (item, .GXF_FAILURE)
  else
    let received := item.record (.syncInbox environment.syncInbox)
    if environment.syncInbox ≠ .GXF_SUCCESS then (received, environment.syncInbox)
    else received.tickTicking environment timestamp

/-- The loop that stops the codelets, with the first error so far. -/
def stopCodelets (environment : Environment) :
    List Uid → EntityItem → GxfResult → EntityItem × GxfResult
  | [], item, code => (item, code)
  | codelet :: rest, item, code =>
      let stopped := environment.stopCode codelet
      stopCodelets environment rest (item.record (.stop codelet stopped))
        (if code = .GXF_SUCCESS then stopped else code)

/-- The stages in which an entity can be stopped. -/
def stoppable : EntityStatus → Bool
  | .GXF_ENTITY_STATUS_STARTED | .GXF_ENTITY_STATUS_IDLE
  | .GXF_ENTITY_STATUS_TICK_PENDING | .GXF_ENTITY_STATUS_TICKING => true
  | .GXF_ENTITY_STATUS_NOT_STARTED | .GXF_ENTITY_STATUS_START_PENDING
  | .GXF_ENTITY_STATUS_STOP_PENDING => false

/-- `stop()`. -/
def stop (item : EntityItem) (environment : Environment) : EntityItem × GxfResult :=
  if !stoppable item.status then (item, .GXF_INVALID_LIFECYCLE_STAGE)
  else
    let stopped := stopCodelets environment item.codelets
      (item.setEntityStatus .GXF_ENTITY_STATUS_STOP_PENDING) .GXF_SUCCESS
    (stopped.1.setEntityStatus .GXF_ENTITY_STATUS_NOT_STARTED, stopped.2)

/-- The search for the controller, unless there is one. -/
def findController (item : EntityItem) (environment : Environment) : Except GxfResult EntityItem :=
  if item.hasController then .ok item
  else
    match environment.controllerLookup with
    | .absent => .ok item
    | .unusable => .error .GXF_FAILURE
    | .found => .ok { item with hasController := true }

/-- The termination policy of the controller, after a tick that returned `code`. -/
def controlled (item : EntityItem) (environment : Environment) (timestamp : Int)
    (code : GxfResult) : EntityItem × Except GxfResult SchedulingCondition :=
  let controllerStatus := environment.control code
  let item := { item.record (.control code controllerStatus) with
    behaviorStatus := controllerStatus.behaviorStatus }
  match controllerStatus.execStatus with
  | .GXF_EXECUTE_SUCCESS =>
      if controllerStatus.behaviorStatus = .GXF_BEHAVIOR_RUNNING then
        (item.setEntityStatus .GXF_ENTITY_STATUS_STARTED, .ok ⟨.READY, timestamp⟩)
      else (item, .ok ⟨.NEVER, 0⟩)
  | .GXF_EXECUTE_FAILURE_DEACTIVATE =>
      (((item.setEntityStatus .GXF_ENTITY_STATUS_STARTED).stop environment).1, .ok ⟨.NEVER, 0⟩)
  | .GXF_EXECUTE_FAILURE_REPEAT =>
      (item.setEntityStatus .GXF_ENTITY_STATUS_STARTED, .ok ⟨.READY, timestamp⟩)
  | .GXF_EXECUTE_FAILURE | .other => (item, .error .GXF_FAILURE)

/-- The termination policy, after a tick that returned `code`. -/
def concludeTick (item : EntityItem) (environment : Environment) (timestamp : Int)
    (condition : SchedulingCondition) (code : GxfResult) :
    EntityItem × Except GxfResult SchedulingCondition :=
  match item.findController environment with
  | .error failure => (item, .error failure)
  | .ok item =>
      if item.hasController then item.controlled environment timestamp code
      else if code ≠ .GXF_SUCCESS then ((item.stop environment).1, .error code)
      else (item, .ok condition)

def executeReady (item : EntityItem) (environment : Environment) (timestamp : Int)
    (condition : SchedulingCondition) : EntityItem × Except GxfResult SchedulingCondition :=
  let ticked := (item.setEntityStatus .GXF_ENTITY_STATUS_TICK_PENDING).tick environment timestamp
  ticked.1.concludeTick environment timestamp condition ticked.2

def executeChecked (item : EntityItem) (environment : Environment) (timestamp : Int)
    (condition : SchedulingCondition) : EntityItem × Except GxfResult SchedulingCondition :=
  match condition.type with
  | .WAIT_TIME =>
      if condition.targetTimestamp ≤ timestamp then
        item.executeReady environment timestamp ⟨.READY, condition.targetTimestamp⟩
      else (item, .ok ⟨.WAIT_TIME, condition.targetTimestamp⟩)
  | .READY => item.executeReady environment timestamp condition
  | .WAIT | .WAIT_EVENT => (item, .ok condition)
  | .NEVER =>
      let stopped := item.stop environment
      (stopped.1, if stopped.2 = .GXF_SUCCESS then .ok condition else .error stopped.2)

/-- `execute(timestamp, router, ticking_variation)`. -/
def execute (item : EntityItem) (environment : Environment) (timestamp : Int) :
    EntityItem × Except GxfResult SchedulingCondition :=
  if !environment.hasRouter then (item, .error .GXF_ARGUMENT_NULL)
  else
    match item.status with
    | .GXF_ENTITY_STATUS_START_PENDING | .GXF_ENTITY_STATUS_TICK_PENDING
    | .GXF_ENTITY_STATUS_TICKING | .GXF_ENTITY_STATUS_STOP_PENDING =>
        (item, .error .GXF_INVALID_EXECUTION_SEQUENCE)
    | .GXF_ENTITY_STATUS_NOT_STARTED =>
        let started := item.start environment timestamp
        (started.1,
          if started.2 = .GXF_SUCCESS then .ok ⟨.READY, timestamp⟩ else .error started.2)
    | .GXF_ENTITY_STATUS_STARTED | .GXF_ENTITY_STATUS_IDLE =>
        let checked := item.check environment timestamp
        match checked.2 with
        | .error code => ((checked.1.stop environment).1, .error code)
        | .ok condition => checked.1.executeChecked environment timestamp condition

/-- `deactivate()`. -/
def deactivate (item : EntityItem) (environment : Environment) : EntityItem × GxfResult :=
  if item.status = .GXF_ENTITY_STATUS_NOT_STARTED then (item, .GXF_SUCCESS)
  else item.stop environment

/-- The calls on an item. -/
inductive Op where
  | execute (environment : Environment) (timestamp : Int)
  | deactivate (environment : Environment)

def system : System EntityItem Op (Except GxfResult (Option SchedulingCondition)) where
  step item
    | .execute environment timestamp =>
        ((item.execute environment timestamp).1,
          (item.execute environment timestamp).2.map some)
    | .deactivate environment =>
        ((item.deactivate environment).1,
          if (item.deactivate environment).2 = .GXF_SUCCESS then .ok none
          else .error (item.deactivate environment).2)

end EntityItem

end Gxf.Std
