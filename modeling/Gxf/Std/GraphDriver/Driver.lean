import Gxf.Lib.Run
import Gxf.Std.GraphDriver.Parameters
import Mathlib.Data.Finset.Card

/-!
# The graph driver

Workers register with the segments they run.  When all segments are registered, a thread of the
driver sets the parameters of the workers, activates and runs them, and when all workers have
reported that they are done, it stops them.  Workers are named by their addresses.
-/

namespace Gxf.Std

open Gxf.Core Gxf.Lib
open ComponentParams (Text parseIpAddress)

/-- The services of a worker that the driver uses. -/
inductive WorkerService where
  | SetComponentParams
  | ActivateSegments
  | RunSegments
  | DeactivateSegments
  | DestroySegments
  | StopWorker
  deriving DecidableEq, Repr

/-- What becomes of a request of the driver. -/
inductive RequestOutcome where
  /-- It does not reach the worker. -/
  | lost
  /-- It reaches the worker, and the driver gets an error or no reply. -/
  | unanswered
  | answered
  deriving DecidableEq, Repr

/-- `GraphDriver::Event`. -/
inductive DriverEvent where
  | kResolveConnections
  | kExecuteWorkers
  | kDeactivateWorkers
  | kStopWorkers
  deriving DecidableEq, Repr

/-- Where the thread of the driver is, with the workers that its loop still has to visit. -/
inductive DriverThread (Worker : Type) where
  /-- Before the next event. -/
  | waiting
  | resolving (todo : List Worker)
  | activating (todo : List Worker)
  /-- It activated the segments of a worker and has not run them. -/
  | running (worker : Worker) (todo : List Worker)
  | deactivating (todo : List Worker)
  /-- It deactivated the segments of a worker and has not destroyed them. -/
  | destroying (worker : Worker) (todo : List Worker)
  | stopping (todo : List Worker)
  | exited
  deriving DecidableEq

/-- Workers whose segments are those of a driver, each with one worker.  The loops of the driver
visit the workers in some order. -/
structure Deployment (Worker Segment : Type) where
  segmentNames : Finset Segment
  segments : Worker → List Segment
  address : Worker → Text
  /-- The addresses of the receivers in a segment, by their names. -/
  ipPortAddressMap : Segment → List (Text × Text)
  /-- The segments of the sources and the receivers that are the targets. -/
  connections : List (Segment × Text)
  order : List Worker → List Worker
  nodup : ∀ worker, (segments worker).Nodup
  valid : ∀ worker, ∀ segment ∈ segments worker, segment ∈ segmentNames
  disjoint : ∀ {first second segment}, segment ∈ segments first → segment ∈ segments second →
    first = second
  covers : ∀ segment ∈ segmentNames, ∃ worker, segment ∈ segments worker
  perm : ∀ workers, (order workers).Perm workers

/-- `GraphDriver`.  `segmentIpAddress` has the latest address of a receiver first, and `sent` lists
the requests that reached a worker, oldest first. -/
structure GraphDriver (Worker Segment : Type) where
  requested : Finset Segment := ∅
  segmentIpAddress : List (Text × Text) := []
  workers : List (Worker × List Segment) := []
  completed : Finset Worker := ∅
  queue : List DriverEvent := []
  thread : DriverThread Worker := .waiting
  sent : List (Worker × WorkerService) := []

/-- The loop of `onRegisterGraphWorker` over the segments of a worker, which are recorded with the
addresses of their receivers.  What was inserted before an error stays. -/
def requestSegments {Segment : Type} [DecidableEq Segment] (segmentNames : Finset Segment)
    (ipPortAddressMap : Segment → List (Text × Text)) :
    Finset Segment × List (Text × Text) → List Segment →
      (Finset Segment × List (Text × Text)) × Except GxfResult Unit
  | recorded, [] => (recorded, .ok ())
  | recorded, name :: names =>
      if name ∉ segmentNames then (recorded, .error .GXF_ARGUMENT_INVALID)
      else if name ∈ recorded.1 then (recorded, .error .GXF_ARGUMENT_INVALID)
      else
        requestSegments segmentNames ipPortAddressMap
          (insert name recorded.1, (ipPortAddressMap name).reverse ++ recorded.2) names

namespace GraphDriver

variable {Worker Segment : Type} [DecidableEq Worker] [DecidableEq Segment]

/-- The workers that registered. -/
def known (driver : GraphDriver Worker Segment) : List Worker := driver.workers.map Prod.fst

/-- `workers_[address] = segment_names`. -/
def put (workers : List (Worker × List Segment)) (worker : Worker) (names : List Segment) :
    List (Worker × List Segment) :=
  workers.filter (fun entry => entry.1 ≠ worker) ++ [(worker, names)]

/-- `onRegisterGraphWorker(resource, payload)`. -/
def onRegisterGraphWorker (deployment : Deployment Worker Segment)
    (driver : GraphDriver Worker Segment) (worker : Worker) : GraphDriver Worker Segment :=
  let asked := requestSegments deployment.segmentNames deployment.ipPortAddressMap
    (driver.requested, driver.segmentIpAddress) (deployment.segments worker)
  let recorded := { driver with requested := asked.1.1, segmentIpAddress := asked.1.2 }
  match asked.2 with
  | .error _ => recorded
  | .ok _ =>
      { recorded with
        workers := put driver.workers worker (deployment.segments worker)
        queue :=
          if asked.1.1.card = deployment.segmentNames.card then
            driver.queue ++ [.kResolveConnections]
          else driver.queue }

/-- `onGraphWorkerComplete(resource, payload)`. -/
def onGraphWorkerComplete (driver : GraphDriver Worker Segment) (worker : Worker) :
    GraphDriver Worker Segment :=
  if worker ∉ driver.known then driver
  else
    let completed := insert worker driver.completed
    { driver with
      completed
      queue :=
        if completed.card = driver.workers.length then
          driver.queue ++ [.kDeactivateWorkers, .kStopWorkers]
        else driver.queue }

/-- A request is sent to a worker. -/
def send (driver : GraphDriver Worker Segment) (worker : Worker) (service : WorkerService)
    (outcome : RequestOutcome) : GraphDriver Worker Segment :=
  { driver with
    sent := if outcome = .lost then driver.sent else driver.sent ++ [(worker, service)] }

/-- Where the thread starts with an event. -/
def begin (workers : List Worker) : DriverEvent → DriverThread Worker
  | .kResolveConnections => .resolving workers
  | .kExecuteWorkers => .activating workers
  | .kDeactivateWorkers => .deactivating workers
  | .kStopWorkers => .stopping workers

/-- There are parameters to set in the segments of a worker. -/
def hasParams (connections : List (Segment × Text)) (segments : List Segment) : Bool :=
  connections.any fun connection => connection.1 ∈ segments

def segmentsOf (driver : GraphDriver Worker Segment) (worker : Worker) : List Segment :=
  (driver.workers.lookup worker).getD []

/-- The next step of the thread parses a text that is no address, and the exception ends it. -/
def throws (deployment : Deployment Worker Segment) (driver : GraphDriver Worker Segment) : Bool :=
  match driver.thread with
  | .resolving (worker :: _) =>
      (deployment.connections.any fun connection =>
        connection.1 ∈ driver.segmentsOf worker &&
          (parseIpAddress ((driver.segmentIpAddress.lookup connection.2).getD [])).isNone) ||
        (parseIpAddress (deployment.address worker)).isNone
  | .activating (worker :: _) | .deactivating (worker :: _) | .stopping (worker :: _) =>
      (parseIpAddress (deployment.address worker)).isNone
  | _ => false

/-- The next step of the thread: it takes an event, sends a request or ends a loop. -/
def proceed (deployment : Deployment Worker Segment) (driver : GraphDriver Worker Segment)
    (outcome : RequestOutcome) : GraphDriver Worker Segment :=
  match driver.thread with
  | .waiting =>
      match driver.queue with
      | [] => driver
      | event :: queue =>
          { driver with queue, thread := begin (deployment.order driver.known) event }
  | .resolving [] =>
      { driver with queue := driver.queue ++ [.kExecuteWorkers], thread := .waiting }
  | .resolving (worker :: todo) =>
      let asked :=
        if hasParams deployment.connections (driver.segmentsOf worker) then
          driver.send worker .SetComponentParams outcome
        else driver
      { asked with thread := .resolving todo }
  | .activating [] => { driver with thread := .waiting }
  | .activating (worker :: todo) =>
      { driver.send worker .ActivateSegments outcome with
        thread := if outcome = .answered then .running worker todo else .exited }
  | .running worker todo =>
      { driver.send worker .RunSegments outcome with
        thread := if outcome = .answered then .activating todo else .exited }
  | .deactivating [] => { driver with thread := .waiting }
  | .deactivating (worker :: todo) =>
      { driver.send worker .DeactivateSegments outcome with thread := .destroying worker todo }
  | .destroying worker todo =>
      { driver.send worker .DestroySegments outcome with thread := .deactivating todo }
  | .stopping [] => { driver with thread := .exited }
  | .stopping (worker :: todo) =>
      { driver.send worker .StopWorker outcome with thread := .stopping todo }
  | .exited => driver

/-- The next step of the thread, or its end. -/
def advance (deployment : Deployment Worker Segment) (driver : GraphDriver Worker Segment)
    (outcome : RequestOutcome) : GraphDriver Worker Segment :=
  if driver.throws deployment then { driver with thread := .exited }
  else driver.proceed deployment outcome

/-- The requests that a worker received, oldest first. -/
def received (driver : GraphDriver Worker Segment) (worker : Worker) : List WorkerService :=
  (driver.sent.filter fun entry => entry.1 = worker).map Prod.snd

end GraphDriver

/-- A driver and the workers that reported completion, with every report. -/
structure GraphCluster (Worker Segment : Type) where
  driver : GraphDriver Worker Segment := {}
  reports : List Worker := []

/-- The steps of the workers and of the driver. -/
inductive ClusterOp (Worker : Type) where
  /-- A registration of a worker arrives, for the first time or again. -/
  | register (worker : Worker)
  /-- A report of completion arrives. -/
  | complete (worker : Worker)
  /-- The thread of the driver takes its next step. -/
  | advance (outcome : RequestOutcome)
  deriving DecidableEq

namespace GraphCluster

variable {Worker Segment : Type} [DecidableEq Worker] [DecidableEq Segment]

/-- One step.  A worker reports completion at most once for every time that its segments were
run. -/
def step (deployment : Deployment Worker Segment) (cluster : GraphCluster Worker Segment) :
    ClusterOp Worker → GraphCluster Worker Segment
  | .register worker =>
      { cluster with
        driver := cluster.driver.onRegisterGraphWorker deployment worker }
  | .complete worker =>
      if cluster.reports.count worker < (cluster.driver.received worker).count .RunSegments then
        { driver := cluster.driver.onGraphWorkerComplete worker
          reports := worker :: cluster.reports }
      else cluster
  | .advance outcome => { cluster with driver := cluster.driver.advance deployment outcome }

def system (deployment : Deployment Worker Segment) :
    System (GraphCluster Worker Segment) (ClusterOp Worker) Unit where
  step cluster op := (cluster.step deployment op, ())

end GraphCluster

end Gxf.Std
