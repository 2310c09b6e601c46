import Gxf.Std.GraphDriver.Driver
import Mathlib.Algebra.GroupWithZero.Nat

/-!
# What the workers receive

Every worker should be configured, activated, run, deactivated, destroyed and stopped, each once
and in this order, nothing before all segments are registered and no end before all workers are
done.  This is so as long as no worker without segments appears once all segments are registered,
and the thread of the driver is not ended early: by an address that cannot be parsed, or by a
request to activate or to run segments that is not answered.
-/

namespace Gxf.Std

open Gxf.Core Gxf.Lib GraphCluster GraphDriver
open ComponentParams (Text parseIpAddress)

variable {Worker Segment : Type}

/-- All services, in the order in which a worker should be asked for them. -/
def WorkerService.all : List WorkerService :=
  [.SetComponentParams, .ActivateSegments, .RunSegments, .DeactivateSegments, .DestroySegments,
    .StopWorker]

/-- The first requests to a worker.  Parameters are set only if there are any. -/
def scriptTo (params : Bool) (length : Nat) : List WorkerService :=
  (WorkerService.all.take length).filter fun service =>
    service ≠ .SetComponentParams ∨ params = true

/-- All requests to a worker, in order. -/
def script (params : Bool) : List WorkerService := scriptTo params 6

/-- The requests that end with `RunSegments`. -/
def launchScript (params : Bool) : List WorkerService := scriptTo params 3

variable {length : Nat} {service : WorkerService}

theorem scriptTo_succ {params : Bool} (next : WorkerService.all[length]? = some service)
    (asked : service ≠ .SetComponentParams ∨ params = true) :
    scriptTo params (length + 1) = scriptTo params length ++ [service] := by
  have kept : decide (service ≠ .SetComponentParams ∨ params = true) = true :=
    decide_eq_true asked
  rw [scriptTo, List.take_add_one, next, List.filter_append]
  exact congrArg _ (List.filter_cons_of_pos kept)

theorem scriptTo_false_one : scriptTo false 1 = [] := rfl

theorem scriptTo_shorter (params : Bool) {shorter longer : Nat} (le : shorter ≤ longer) :
    scriptTo params shorter <+: scriptTo params longer :=
  (List.take_prefix_take_left le).filter _

theorem scriptTo_prefix_script (params : Bool) (length : Nat) :
    scriptTo params length <+: script params :=
  (List.take_prefix length WorkerService.all).filter _

theorem count_run_scriptTo (params : Bool) (length : Nat) :
    (scriptTo params length).count .RunSegments = if 3 ≤ length then 1 else 0 := by
  match length with
  | 0 | 1 | 2 | 3 | 4 | 5 => cases params <;> rfl
  | length + 6 =>
      have whole : WorkerService.all.take (length + 6) = WorkerService.all :=
        List.take_of_length_le (by simp [WorkerService.all])
      rw [scriptTo, whole, if_pos (by omega)]
      cases params <;> rfl

theorem length_of_mem_scriptTo {params : Bool}
    (ending : service = .DeactivateSegments ∨ service = .DestroySegments ∨ service = .StopWorker)
    (member : service ∈ scriptTo params length) : 3 < length := by
  by_contra short
  have early := (scriptTo_shorter params (Nat.le_of_not_lt short)).subset member
  rcases ending with rfl | rfl | rfl <;> cases params <;> revert early <;> decide

def Deployment.Registered (deployment : Deployment Worker Segment)
    (driver : GraphDriver Worker Segment) : Prop :=
  ∀ segment ∈ deployment.segmentNames, ∃ worker ∈ driver.known, segment ∈ deployment.segments worker

variable [DecidableEq Segment]

def Deployment.params (deployment : Deployment Worker Segment) (worker : Worker) : Bool :=
  hasParams deployment.connections (deployment.segments worker)

/-- The addresses of the workers, and those of the receivers that are targets, can be parsed. -/
structure Deployment.Readable (deployment : Deployment Worker Segment) : Prop where
  address : ∀ worker, (parseIpAddress (deployment.address worker)).isSome = true
  receivers : ∀ connection ∈ deployment.connections, ∀ segment, ∀ text,
    (connection.2, text) ∈ deployment.ipPortAddressMap segment → (parseIpAddress text).isSome = true

variable [DecidableEq Worker]

/-- Every worker is asked for each service at most once and in order, for none before all segments
are registered, and for none of the last three before all workers reported completion.  Once all
segments are registered, the thread of the driver gets every worker to run, and if all have
reported, to stop. -/
structure Served (deployment : Deployment Worker Segment)
    (cluster : GraphCluster Worker Segment) : Prop where
  ordered : ∀ worker, cluster.driver.received worker <+: script (deployment.params worker)
  registered : ∀ worker, cluster.driver.received worker ≠ [] →
    worker ∈ cluster.driver.known ∧ deployment.Registered cluster.driver
  ended : ∀ worker service, service ∈ cluster.driver.received worker →
    service = .DeactivateSegments ∨ service = .DestroySegments ∨ service = .StopWorker →
    ∀ other ∈ cluster.driver.known, other ∈ cluster.reports
  launched : deployment.Registered cluster.driver → ∃ steps,
    let later := (system deployment).run cluster (.replicate steps (.advance .answered))
    ∀ worker ∈ cluster.driver.known,
      launchScript (deployment.params worker) <+: later.driver.received worker ∧
      ((∀ other ∈ cluster.driver.known, other ∈ cluster.reports) →
        later.driver.received worker = script (deployment.params worker))

variable {names : Finset Segment}

variable {ipPortAddressMap : Segment → List (Text × Text)} {addresses : List (Text × Text)}
  {requested : Finset Segment}

omit [DecidableEq Worker] in
theorem requestSegments_of_fresh {asked : List Segment} (nodup : asked.Nodup)
    (valid : ∀ segment ∈ asked, segment ∈ names) (fresh : ∀ segment ∈ asked, segment ∉ requested) :
    ∃ recorded, requestSegments names ipPortAddressMap (requested, addresses) asked =
      ((requested ∪ asked.toFinset, recorded), .ok ()) := by
  induction asked generalizing requested addresses with
  | nil => exact ⟨addresses, by simp [requestSegments]⟩
  | cons segment asked ih =>
      obtain ⟨notLater, laterNodup⟩ := List.nodup_cons.mp nodup
      have inserted : ∀ later ∈ asked, later ∉ insert segment requested := by
        intro later member
        rw [Finset.mem_insert, not_or]
        exact ⟨ne_of_mem_of_not_mem member notLater, fresh later (.tail _ member)⟩
      obtain ⟨recorded, isRecorded⟩ :=
        ih laterNodup (fun later member => valid later (.tail _ member)) inserted
      refine ⟨recorded, ?_⟩
      rw [requestSegments, if_neg (not_not_intro (valid segment (.head _))),
        if_neg (fresh segment (.head _)), isRecorded]
      rw [List.toFinset_cons, Finset.insert_union, Finset.union_insert]

omit [DecidableEq Worker] in
theorem requestSegments_of_requested {segment : Segment} (asked : List Segment)
    (valid : segment ∈ names) (taken : segment ∈ requested) :
    requestSegments names ipPortAddressMap (requested, addresses) (segment :: asked) =
      ((requested, addresses), .error .GXF_ARGUMENT_INVALID) := by
  rw [requestSegments, if_neg (not_not_intro valid), if_pos taken]

omit [DecidableEq Worker] in
/-- Only addresses of the segments are recorded. -/
theorem requestSegments_addresses {asked : List Segment} {pair : Text × Text} :
    pair ∈ (requestSegments names ipPortAddressMap (requested, addresses) asked).1.2 →
      pair ∈ addresses ∨ ∃ segment, pair ∈ ipPortAddressMap segment := by
  induction asked generalizing requested addresses with
  | nil => exact .inl
  | cons segment asked ih =>
      rw [requestSegments]
      split
      · exact .inl
      split
      · exact .inl
      intro member
      obtain member | own := ih member
      · rw [List.mem_append, List.mem_reverse] at member
        exact member.symm.imp_right fun own => ⟨segment, own⟩
      · exact .inr own

namespace GraphDriver

variable {workers : List (Worker × List Segment)} {worker : Worker} {names : List Segment}

omit [DecidableEq Segment] in
theorem mem_put {entry : Worker × List Segment} (member : entry ∈ put workers worker names) :
    entry = (worker, names) ∨ entry ∈ workers := by
  rcases List.mem_append.mp member with kept | last
  · exact .inr (List.mem_of_mem_filter kept)
  · exact .inl (List.mem_singleton.mp last)

omit [DecidableEq Segment] in
theorem mem_map_put {other : Worker} : other ∈ (put workers worker names).map Prod.fst ↔
      other = worker ∨ other ∈ workers.map Prod.fst := by
  by_cases same : other = worker
  · simp [put, same]
  · simp [put, same]

omit [DecidableEq Segment] in
theorem put_nodup (worker : Worker) (names : List Segment) (nodup : (workers.map Prod.fst).Nodup) :
    ((put workers worker names).map Prod.fst).Nodup := by
  rw [put, List.map_append]
  refine List.Nodup.append (nodup.sublist (List.filter_sublist.map _))
    (List.nodup_singleton worker) ?_
  intro other kept last
  obtain ⟨entry, member, rfl⟩ := List.mem_map.mp kept
  exact absurd (List.mem_singleton.mp last) (by simpa using (List.mem_filter.mp member).2)

omit [DecidableEq Segment] in
theorem segmentsOf_eq {driver : GraphDriver Worker Segment} {segments : Worker → List Segment}
    (stored : ∀ entry ∈ driver.workers, entry.2 = segments entry.1)
    (known : worker ∈ driver.known) : driver.segmentsOf worker = segments worker := by
  obtain ⟨names, found⟩ : ∃ names, driver.workers.lookup worker = some names := by
    cases found : driver.workers.lookup worker with
    | some names => exact ⟨names, rfl⟩
    | none =>
        obtain ⟨entry, member, rfl⟩ := List.mem_map.mp known
        exact absurd (List.lookup_eq_none_iff.mp found entry member) (by simp)
  have member : (worker, names) ∈ driver.workers := by
    obtain ⟨before, after, eq, _⟩ := List.lookup_eq_some_iff.mp found
    simp [eq]
  rw [segmentsOf, found, Option.getD_some]
  exact stored _ member

omit [DecidableEq Segment] in
theorem received_send (driver : GraphDriver Worker Segment) (worker other : Worker)
    (service : WorkerService) {outcome : RequestOutcome} (reached : outcome ≠ .lost) :
    (driver.send worker service outcome).received other =
      if other = worker then driver.received other ++ [service] else driver.received other := by
  rw [send, if_neg reached]
  by_cases same : other = worker
  · subst same
    simp [received, List.filter_append]
  · simp [received, List.filter_append, same, Ne.symm same]

omit [DecidableEq Worker] [DecidableEq Segment] in
theorem prefix_send (driver : GraphDriver Worker Segment) (worker : Worker)
    (service : WorkerService) (outcome : RequestOutcome) :
    driver.sent <+: (driver.send worker service outcome).sent := by
  dsimp only [send]
  split
  · exact List.prefix_refl _
  · exact List.prefix_append _ _

end GraphDriver

/-! ## The places of the thread -/

/-- What is queued while the workers run. -/
inductive Ending (complete : Prop) : List DriverEvent → Prop
  | pending (notYet : ¬complete) : Ending complete []
  | due (done : complete) : Ending complete [.kDeactivateWorkers, .kStopWorkers]

/-- Where the thread may be, with the queue and the number of services that are behind a worker. -/
inductive DriverPlace (known : List Worker) (complete : Prop) :
    DriverThread Worker → List DriverEvent → (Worker → Nat) → Prop
  | resolve (notYet : ¬complete) :
      DriverPlace known complete .waiting [.kResolveConnections] (fun _ => 0)
  | resolving {todo : List Worker} (notYet : ¬complete) (nodup : todo.Nodup)
      (subset : todo ⊆ known) :
      DriverPlace known complete (.resolving todo) [] (fun worker => if worker ∈ todo then 0 else 1)
  | execute (notYet : ¬complete) :
      DriverPlace known complete .waiting [.kExecuteWorkers] (fun _ => 1)
  | activating {todo : List Worker} {queue : List DriverEvent} (nodup : todo.Nodup)
      (subset : todo ⊆ known) (ending : Ending complete queue) :
      DriverPlace known complete (.activating todo) queue
        (fun worker => if worker ∈ todo then 1 else 3)
  | running {current : Worker} {todo : List Worker} {queue : List DriverEvent}
      (nodup : (current :: todo).Nodup) (subset : current :: todo ⊆ known)
      (ending : Ending complete queue) :
      DriverPlace known complete (.running current todo) queue
        (fun worker => if worker = current then 2 else if worker ∈ todo then 1 else 3)
  | launched {queue : List DriverEvent} (ending : Ending complete queue) :
      DriverPlace known complete .waiting queue (fun _ => 3)
  | deactivating {todo : List Worker} (done : complete) (nodup : todo.Nodup)
      (subset : todo ⊆ known) :
      DriverPlace known complete (.deactivating todo) [.kStopWorkers]
        (fun worker => if worker ∈ todo then 3 else 5)
  | destroying {current : Worker} {todo : List Worker} (done : complete)
      (nodup : (current :: todo).Nodup) (subset : current :: todo ⊆ known) :
      DriverPlace known complete (.destroying current todo) [.kStopWorkers]
        (fun worker => if worker = current then 4 else if worker ∈ todo then 3 else 5)
  | stop (done : complete) : DriverPlace known complete .waiting [.kStopWorkers] (fun _ => 5)
  | stopping {todo : List Worker} (done : complete) (nodup : todo.Nodup) (subset : todo ⊆ known) :
      DriverPlace known complete (.stopping todo) [] (fun worker => if worker ∈ todo then 5 else 6)
  | exited (done : complete) : DriverPlace known complete .exited [] (fun _ => 6)

variable {known : List Worker} {thread : DriverThread Worker} {queue : List DriverEvent}
  {behind : Worker → Nat} {worker : Worker}

theorem DriverPlace.complete {complete : Prop}
    (place : DriverPlace known complete thread queue behind)
    (late : 3 < behind worker) : complete := by
  cases place with
  | resolve | execute | launched => exact absurd late (by simp)
  | resolving | activating => exact absurd late (by dsimp only; split <;> decide)
  | running => exact absurd late (by dsimp only; split <;> [decide; split <;> decide])
  | deactivating done | destroying done | stop done | stopping done | exited done => exact done

theorem DriverPlace.resting {complete : Prop}
    (place : DriverPlace known complete thread queue behind)
    (rest : thread = .waiting ∧ queue = [] ∨ thread = .exited) :
    (∀ worker, 3 ≤ behind worker) ∧ (complete → ∀ worker, behind worker = 6) := by
  cases place with
  | launched ending =>
      cases ending with
      | pending notYet => exact ⟨fun _ => le_rfl, fun done => absurd done notYet⟩
      | due => simp at rest
  | exited => exact ⟨fun _ => by simp, fun _ _ => rfl⟩
  | resolve | resolving | execute | activating | running | deactivating | destroying | stop
  | stopping => simp at rest

theorem DriverPlace.report {complete next : Prop} {queued : List DriverEvent}
    (place : DriverPlace known complete thread queue behind) (notYet : ¬complete)
    (ran : 3 ≤ behind worker) (ending : queue = [] → Ending next queued) :
    DriverPlace known next thread queued behind := by
  have pending : ∀ {queue}, Ending complete queue → queue = [] := by
    intro queue ending
    cases ending with
    | pending => rfl
    | due done => exact absurd done notYet
  cases place with
  | resolve | execute => exact absurd ran (by simp)
  | resolving => exact absurd ran (by dsimp only; split <;> decide)
  | activating nodup subset before => exact .activating nodup subset (ending (pending before))
  | running nodup subset before => exact .running nodup subset (ending (pending before))
  | launched before => exact .launched (ending (pending before))
  | deactivating done | destroying done | stop done | stopping done | exited done =>
      exact absurd done notYet

namespace GraphDriver

/-- All registered workers reported. -/
def Complete (driver : GraphDriver Worker Segment) : Prop :=
  ∀ worker ∈ driver.known, worker ∈ driver.completed

/-- Every registered worker received the script up to some service. -/
def ReceivedTo (deployment : Deployment Worker Segment) (driver : GraphDriver Worker Segment)
    (behind : Worker → Nat) : Prop :=
  ∀ worker, driver.received worker =
    if worker ∈ driver.known then scriptTo (deployment.params worker) (behind worker) else []

/-- The thread is at a place that fits what the workers received, or was ended there early, if it
may be. -/
def Placed (deployment : Deployment Worker Segment) (mayEnd : Prop)
    (driver : GraphDriver Worker Segment) : Prop :=
  ∃ thread queue behind, DriverPlace driver.known driver.Complete thread queue behind ∧
    (driver.thread = thread ∧ driver.queue = queue ∨ driver.thread = .exited ∧ mayEnd) ∧
    driver.ReceivedTo deployment behind

variable {deployment : Deployment Worker Segment} {driver next : GraphDriver Worker Segment}
  {behind later : Worker → Nat} {outcome : RequestOutcome} {mayEnd : Prop}

theorem ReceivedTo.same (received : driver.ReceivedTo deployment behind)
    (known : next.known = driver.known) (sent : next.sent = driver.sent)
    (agree : ∀ worker ∈ driver.known, scriptTo (deployment.params worker) (later worker) =
      scriptTo (deployment.params worker) (behind worker)) :
    next.ReceivedTo deployment later := by
  intro worker
  have kept : next.received worker = driver.received worker := by
    rw [GraphDriver.received, sent, GraphDriver.received]
  rw [kept, known, received worker]
  split
  · exact (agree worker ‹_›).symm
  · rfl

variable {current : Worker}

theorem ReceivedTo.sent {service : WorkerService}
    (received : driver.ReceivedTo deployment behind) (member : current ∈ driver.known)
    (known : next.known = driver.known)
    (reached : outcome ≠ .lost) (sent : next.sent = (driver.send current service outcome).sent)
    (here : scriptTo (deployment.params current) (later current) =
      scriptTo (deployment.params current) (behind current) ++ [service])
    (others : ∀ worker, worker ≠ current → later worker = behind worker) :
    next.ReceivedTo deployment later := by
  intro worker
  have grown : next.received worker = (driver.send current service outcome).received worker := by
    rw [GraphDriver.received, sent, GraphDriver.received]
  rw [grown, received_send _ _ _ _ reached, known, received worker]
  by_cases same : worker = current
  · subst same
    rw [if_pos rfl, if_pos member, if_pos member, here]
  · rw [if_neg same, others worker same]

theorem advance_keeps (deployment : Deployment Worker Segment)
    (driver : GraphDriver Worker Segment) (outcome : RequestOutcome) :
    (driver.advance deployment outcome).workers = driver.workers ∧
      (driver.advance deployment outcome).requested = driver.requested ∧
      (driver.advance deployment outcome).segmentIpAddress = driver.segmentIpAddress ∧
      (driver.advance deployment outcome).completed = driver.completed ∧
      driver.sent <+: (driver.advance deployment outcome).sent := by
  rw [advance]
  split
  · exact ⟨rfl, rfl, rfl, rfl, List.prefix_refl _⟩
  unfold proceed
  split
  · split <;> exact ⟨rfl, rfl, rfl, rfl, List.prefix_refl _⟩
  · exact ⟨rfl, rfl, rfl, rfl, List.prefix_refl _⟩
  · dsimp only
    split
    · exact ⟨rfl, rfl, rfl, rfl, prefix_send ..⟩
    · exact ⟨rfl, rfl, rfl, rfl, List.prefix_refl _⟩
  all_goals first
    | exact ⟨rfl, rfl, rfl, rfl, List.prefix_refl _⟩
    | exact ⟨rfl, rfl, rfl, rfl, prefix_send ..⟩

/-- Known addresses do not end the thread. -/
theorem throws_eq_false (readable : deployment.Readable)
    (addresses : ∀ pair ∈ driver.segmentIpAddress,
      ∃ segment, pair ∈ deployment.ipPortAddressMap segment) :
    driver.throws deployment = false := by
  have own : ∀ worker, (parseIpAddress (deployment.address worker)).isNone = false := by
    intro worker
    rw [Option.isNone_eq_false_iff]
    exact readable.address worker
  have receivers : (deployment.connections.any fun connection =>
      (parseIpAddress ((driver.segmentIpAddress.lookup connection.2).getD [])).isNone) = false := by
    refine List.any_eq_false.mpr fun connection member => ?_
    rw [Bool.not_eq_true, Option.isNone_eq_false_iff]
    cases found : driver.segmentIpAddress.lookup connection.2 with
    | none => rfl
    | some text =>
        obtain ⟨before, after, isList, -⟩ := List.lookup_eq_some_iff.mp found
        obtain ⟨segment, isOwn⟩ := addresses (connection.2, text) (by simp [isList])
        exact readable.receivers connection member segment text isOwn
  rw [throws]
  split
  · rw [own, Bool.or_false]
    refine List.any_eq_false.mpr fun connection member both => ?_
    exact List.any_eq_false.mp receivers connection member (Bool.and_eq_true_iff.mp both).2
  · exact own _
  · exact own _
  · exact own _
  · rfl

theorem ite_mem_cons {worker : Worker} {todo : List Worker} {before after : Nat}
    (ne : worker ≠ current) : (if worker ∈ current :: todo then before else after) =
      if worker ∈ todo then before else after := by
  simp [ne]

/-- The thread activates segments or runs them. -/
def Launching (driver : GraphDriver Worker Segment) : Prop :=
  (∃ todo, driver.thread = .activating todo) ∨ ∃ worker todo, driver.thread = .running worker todo

theorem Placed.advance (distinct : driver.known.Nodup)
    (stored : ∀ entry ∈ driver.workers, entry.2 = deployment.segments entry.1)
    (reached : outcome ≠ .lost)
    (goesOn : mayEnd ∨ driver.throws deployment = false ∧ (driver.Launching → outcome = .answered))
    (placed : driver.Placed deployment mayEnd) :
    (driver.advance deployment outcome).Placed deployment mayEnd := by
  obtain ⟨thread, queue, behind, place, ⟨rfl, rfl⟩ | ⟨exited, may⟩, received⟩ := placed
  swap
  · have stays : driver.advance deployment outcome = driver := by
      simp only [GraphDriver.advance, proceed, throws, exited, Bool.false_eq_true, if_false]
    rw [stays]
    exact ⟨thread, queue, behind, place, .inr ⟨exited, may⟩, received⟩
  cases throws : driver.throws deployment with
  | true =>
      have may : mayEnd := goesOn.resolve_right fun both => by simp [throws] at both
      rw [GraphDriver.advance, if_pos throws]
      exact ⟨_, _, behind, place, .inr ⟨rfl, may⟩, received.same rfl rfl fun _ _ => rfl⟩
  | false =>
  -- A launch that is not answered ends the thread, but the worker got the request.
  have launch : driver.Launching → ∀ thread : DriverThread Worker,
      (if outcome = .answered then thread else .exited) = thread ∨
        (if outcome = .answered then thread else .exited) = .exited ∧ mayEnd := by
    intro launching thread
    by_cases answered : outcome = .answered
    · exact .inl (if_pos answered)
    · exact .inr ⟨if_neg answered, goesOn.resolve_right fun both => answered (both.2 launching)⟩
  rw [GraphDriver.advance, throws, if_neg Bool.false_ne_true]
  have ordered : (deployment.order driver.known).Nodup :=
    (deployment.perm driver.known).nodup_iff.mpr distinct
  have among : deployment.order driver.known ⊆ driver.known := (deployment.perm driver.known).subset
  have start : ∀ {first last : Nat}, ∀ worker ∈ driver.known, scriptTo (deployment.params worker)
          (if worker ∈ deployment.order driver.known then first else last) =
        scriptTo (deployment.params worker) first := by
    intro first last worker member
    rw [if_pos ((deployment.perm driver.known).mem_iff.mpr member)]
  have own : ∀ worker ∈ driver.known,
      hasParams deployment.connections (driver.segmentsOf worker) = deployment.params worker := by
    intro worker member
    rw [segmentsOf_eq stored member, Deployment.params]
  obtain ⟨requested, addresses, workers, completed, queue, thread, sent⟩ := driver
  simp only at place
  cases place with
  | resolve notYet =>
      exact ⟨_, _, _, .resolving notYet ordered among, .inl ⟨rfl, rfl⟩, received.same rfl rfl start⟩
  | @resolving todo notYet nodup subset =>
      cases todo with
      | nil =>
          exact ⟨_, _, _, .execute notYet, .inl ⟨rfl, rfl⟩, received.same rfl rfl fun _ _ => by
            simp⟩
      | cons worker todo =>
          obtain ⟨notLater, rest⟩ := List.nodup_cons.mp nodup
          have member := subset (List.mem_cons_self ..)
          have onward := fun other later => subset (List.mem_cons_of_mem (a := other) worker later)
          simp only [proceed, own worker member]
          cases params : deployment.params worker with
          | true =>
              refine ⟨_, _, _, .resolving notYet rest onward,
                .inl ⟨rfl, rfl⟩, received.sent member rfl reached rfl ?_ fun _ ne =>
                (ite_mem_cons ne).symm⟩
              simp only [notLater, List.mem_cons_self, if_true, if_false]
              exact scriptTo_succ rfl (.inr params)
          | false =>
              refine ⟨_, _, _, .resolving notYet rest onward, .inl ⟨rfl, rfl⟩,
                received.same rfl rfl ?_⟩
              intro other _
              by_cases same : other = worker
              · subst same
                simp only [notLater, List.mem_cons_self, if_true, if_false, params]
                exact scriptTo_false_one
              · rw [ite_mem_cons same]
  | execute notYet =>
      exact ⟨_, _, _, .activating ordered among (.pending notYet), .inl ⟨rfl, rfl⟩,
        received.same rfl rfl start⟩
  | @activating todo _ nodup subset ending =>
      cases todo with
      | nil =>
          exact ⟨_, _, _, .launched ending, .inl ⟨rfl, rfl⟩, received.same rfl rfl fun _ _ => by
            simp⟩
      | cons worker todo =>
          have member := subset (List.mem_cons_self ..)
          refine ⟨_, _, _, .running nodup subset ending,
            (launch (.inl ⟨_, rfl⟩) _).imp_left fun same =>
            ⟨same, rfl⟩, received.sent member rfl reached rfl ?_ ?_⟩
          · simp only [List.mem_cons_self, if_true]
            exact scriptTo_succ rfl (.inl (by decide))
          · intro other ne
            rw [if_neg ne, ite_mem_cons ne]
  | @running current todo _ nodup subset ending =>
      obtain ⟨notLater, rest⟩ := List.nodup_cons.mp nodup
      have member := subset (List.mem_cons_self ..)
      refine ⟨_, _, _, .activating rest (fun _ later => subset (.tail _ later)) ending,
        (launch (.inr ⟨_, _, rfl⟩) _).imp_left fun same =>
        ⟨same, rfl⟩, received.sent member rfl reached rfl ?_ fun _ ne => (if_neg ne).symm⟩
      simp only [notLater, if_true, if_false]
      exact scriptTo_succ rfl (.inl (by decide))
  | launched ending =>
      cases ending with
      | pending notYet =>
          exact ⟨_, _, _, .launched (.pending notYet), .inl ⟨rfl, rfl⟩,
            received.same rfl rfl fun _ _ => rfl⟩
      | due done =>
          exact ⟨_, _, _, .deactivating done ordered among, .inl ⟨rfl, rfl⟩,
            received.same rfl rfl start⟩
  | @deactivating todo done nodup subset =>
      cases todo with
      | nil =>
          exact ⟨_, _, _, .stop done, .inl ⟨rfl, rfl⟩, received.same rfl rfl fun _ _ => by simp⟩
      | cons worker todo =>
          have member := subset (List.mem_cons_self ..)
          refine ⟨_, _, _, .destroying done nodup subset, .inl ⟨rfl, rfl⟩,
            received.sent member rfl reached rfl ?_ ?_⟩
          · simp only [List.mem_cons_self, if_true]
            exact scriptTo_succ rfl (.inl (by decide))
          · intro other ne
            rw [if_neg ne, ite_mem_cons ne]
  | @destroying current todo done nodup subset =>
      obtain ⟨notLater, rest⟩ := List.nodup_cons.mp nodup
      have member := subset (List.mem_cons_self ..)
      refine ⟨_, _, _, .deactivating done rest (fun _ later => subset (.tail _ later)),
        .inl ⟨rfl, rfl⟩, received.sent member rfl reached rfl ?_ fun _ ne => (if_neg ne).symm⟩
      simp only [notLater, if_true, if_false]
      exact scriptTo_succ rfl (.inl (by decide))
  | stop done =>
      exact ⟨_, _, _, .stopping done ordered among, .inl ⟨rfl, rfl⟩, received.same rfl rfl start⟩
  | @stopping todo done nodup subset =>
      cases todo with
      | nil =>
          exact ⟨_, _, _, .exited done, .inl ⟨rfl, rfl⟩, received.same rfl rfl fun _ _ => by simp⟩
      | cons worker todo =>
          obtain ⟨notLater, rest⟩ := List.nodup_cons.mp nodup
          have member := subset (List.mem_cons_self ..)
          refine ⟨_, _, _, .stopping done rest fun _ later => subset (.tail _ later),
            .inl ⟨rfl, rfl⟩, received.sent member rfl reached rfl ?_ fun _ ne =>
            (ite_mem_cons ne).symm⟩
          simp only [notLater, List.mem_cons_self, if_true, if_false]
          exact scriptTo_succ rfl (.inl (by decide))
  | exited done =>
      exact ⟨_, _, _, .exited done, .inl ⟨rfl, rfl⟩, received.same rfl rfl fun _ _ => rfl⟩

end GraphDriver

/-! ## Every run -/

/-- There is a worker, and all segments are registered. -/
def Deployment.Launched (deployment : Deployment Worker Segment)
    (driver : GraphDriver Worker Segment) : Prop :=
  driver.known ≠ [] ∧ deployment.Registered driver

/-- The cluster follows the protocol. -/
structure Follows (deployment : Deployment Worker Segment) (mayEnd : Prop)
    (cluster : GraphCluster Worker Segment) : Prop where
  distinct : cluster.driver.known.Nodup
  stored : ∀ entry ∈ cluster.driver.workers, entry.2 = deployment.segments entry.1
  requested : ∀ segment, segment ∈ cluster.driver.requested ↔
    ∃ worker ∈ cluster.driver.known, segment ∈ deployment.segments worker
  completed : ∀ worker, worker ∈ cluster.driver.completed ↔ worker ∈ cluster.reports
  once : cluster.reports.Nodup
  reported : ∀ worker ∈ cluster.reports, WorkerService.RunSegments ∈ cluster.driver.received worker
  waits : ¬deployment.Launched cluster.driver → cluster.driver.thread = .waiting ∧
    cluster.driver.queue = [] ∧ ∀ worker, cluster.driver.received worker = []
  addresses : ∀ pair ∈ cluster.driver.segmentIpAddress,
    ∃ segment, pair ∈ deployment.ipPortAddressMap segment
  placed : deployment.Launched cluster.driver → cluster.driver.Placed deployment mayEnd

/-- A worker without segments does not register once all segments are registered, and the requests
of the driver reach the workers. -/
def InTime (deployment : Deployment Worker Segment) (cluster : GraphCluster Worker Segment) :
    ClusterOp Worker → Prop
  | .register worker => deployment.Launched cluster.driver → deployment.segments worker ≠ []
  | .complete _ => True
  | .advance outcome => outcome ≠ .lost

/-- The requests to activate and to run segments are answered with success. -/
def Answered (cluster : GraphCluster Worker Segment) : ClusterOp Worker → Prop
  | .advance outcome => cluster.driver.Launching → outcome = .answered
  | _ => True

namespace Follows

variable {deployment : Deployment Worker Segment} {cluster : GraphCluster Worker Segment}
  {mayEnd : Prop}

theorem start : Follows deployment mayEnd ({} : GraphCluster Worker Segment) where
  distinct := List.nodup_nil
  stored := fun entry member => by cases member
  requested := fun segment => by simp [GraphDriver.known]
  completed := fun worker => by simp
  once := List.nodup_nil
  reported := fun worker member => by cases member
  waits := fun _ => ⟨rfl, rfl, fun _ => rfl⟩
  addresses := fun pair member => by cases member
  placed := fun launched => absurd rfl launched.1

omit [DecidableEq Segment] [DecidableEq Worker] in
theorem registered_iff {driver : GraphDriver Worker Segment}
    (requested : ∀ segment, segment ∈ driver.requested ↔
      ∃ worker ∈ driver.known, segment ∈ deployment.segments worker) :
    deployment.Registered driver ↔ driver.requested.card = deployment.segmentNames.card := by
  have subset : driver.requested ⊆ deployment.segmentNames := by
    intro segment member
    obtain ⟨worker, _, own⟩ := (requested segment).mp member
    exact deployment.valid worker segment own
  constructor
  · intro registered
    have superset : deployment.segmentNames ⊆ driver.requested :=
      fun segment member => (requested segment).mpr (registered segment member)
    rw [subset.antisymm superset]
  · intro cards segment member
    rw [← Finset.eq_of_subset_of_card_le subset cards.ge] at member
    exact (requested segment).mp member

section

variable (follows : Follows deployment mayEnd cluster)
include follows

theorem reports_eq_nil (early : ¬deployment.Launched cluster.driver) : cluster.reports = [] := by
  refine List.eq_nil_iff_forall_not_mem.mpr fun worker member => ?_
  have ran := follows.reported worker member
  rw [(follows.waits early).2.2 worker] at ran
  cases ran

theorem step_register_taken {segment : Segment} (own : segment ∈ deployment.segments worker)
    (taken : segment ∈ cluster.driver.requested) :
    cluster.step deployment (.register worker) = cluster := by
  obtain ⟨other, known, also⟩ := (follows.requested segment).mp taken
  cases deployment.disjoint own also
  cases segments : deployment.segments worker with
  | nil => rw [segments] at own; cases own
  | cons first rest =>
      have firstOwn : first ∈ deployment.segments worker := by simp [segments]
      have refused := @requestSegments_of_requested _ _ _ deployment.ipPortAddressMap
        cluster.driver.segmentIpAddress _ _ rest (deployment.valid worker first firstOwn)
        ((follows.requested first).mpr ⟨worker, known, firstOwn⟩)
      simp only [GraphCluster.step, onRegisterGraphWorker, segments, refused]

theorem register_fresh
    (fresh : ∀ segment ∈ deployment.segments worker, segment ∉ cluster.driver.requested)
    (early : ¬deployment.Launched cluster.driver) :
    Follows deployment mayEnd (cluster.step deployment (.register worker)) := by
  obtain ⟨resting, queue, nothing⟩ := follows.waits early
  have none := follows.reports_eq_nil early
  obtain ⟨recorded, asked⟩ := @requestSegments_of_fresh _ _ _ deployment.ipPortAddressMap
    cluster.driver.segmentIpAddress _ _ (deployment.nodup worker) (deployment.valid worker) fresh
  have step : cluster.step deployment (.register worker) =
      { cluster with driver :=
        { cluster.driver with
          requested := cluster.driver.requested ∪ (deployment.segments worker).toFinset
          segmentIpAddress := recorded
          workers := GraphDriver.put cluster.driver.workers worker (deployment.segments worker)
          queue :=
            if (cluster.driver.requested ∪ (deployment.segments worker).toFinset).card =
                deployment.segmentNames.card
            then [.kResolveConnections] else [] } } := by
    simp only [GraphCluster.step, onRegisterGraphWorker, asked, queue, List.nil_append]
  rw [step]
  have requested : ∀ segment,
      segment ∈ cluster.driver.requested ∪ (deployment.segments worker).toFinset ↔
        ∃ other ∈ (GraphDriver.put cluster.driver.workers worker
          (deployment.segments worker)).map Prod.fst, segment ∈ deployment.segments other := by
    intro segment
    rw [Finset.mem_union, follows.requested, List.mem_toFinset]
    constructor
    · rintro (⟨other, known, own⟩ | own)
      · exact ⟨other, mem_map_put.mpr (.inr known), own⟩
      · exact ⟨worker, mem_map_put.mpr (.inl rfl), own⟩
    · rintro ⟨other, known, own⟩
      rcases mem_map_put.mp known with rfl | before
      · exact .inr own
      · exact .inl ⟨other, before, own⟩
  have known : worker ∈ (GraphDriver.put cluster.driver.workers worker
      (deployment.segments worker)).map Prod.fst := mem_map_put.mpr (.inl rfl)
  constructor
  · exact put_nodup worker _ follows.distinct
  · intro entry member
    rcases mem_put member with rfl | before
    · rfl
    · exact follows.stored entry before
  · exact requested
  · exact follows.completed
  · exact follows.once
  · exact follows.reported
  · intro waiting
    refine ⟨resting, if_neg fun cards => waiting ⟨List.ne_nil_of_mem known, ?_⟩, nothing⟩
    exact (registered_iff requested).mpr cards
  · intro pair member
    have inside : pair ∈ recorded → pair ∈ cluster.driver.segmentIpAddress ∨
        ∃ segment, pair ∈ deployment.ipPortAddressMap segment := by
      have known := @requestSegments_addresses _ _ deployment.segmentNames
        deployment.ipPortAddressMap cluster.driver.segmentIpAddress cluster.driver.requested
        (deployment.segments worker) pair
      rwa [asked] at known
    exact (inside member).elim (follows.addresses pair) id
  · intro launched
    have cards := (registered_iff requested).mp launched.2
    have notYet : ∀ complete : Prop, (complete → worker ∈ cluster.driver.completed) →
        ¬complete := by
      intro complete reports done
      have reported := (follows.completed worker).mp (reports done)
      rw [none] at reported
      cases reported
    refine ⟨_, _, fun _ => 0, .resolve (notYet _ fun done => done worker known), .inl ⟨resting, ?_⟩,
      ?_⟩
    · exact if_pos cards
    · intro other
      exact (nothing other).trans (ite_self []).symm

theorem register (inTime : deployment.Launched cluster.driver → deployment.segments worker ≠ []) :
    Follows deployment mayEnd (cluster.step deployment (.register worker)) := by
  by_cases taken : ∃ segment ∈ deployment.segments worker, segment ∈ cluster.driver.requested
  · obtain ⟨segment, own, member⟩ := taken
    rw [follows.step_register_taken own member]
    exact follows
  · have fresh : ∀ segment ∈ deployment.segments worker, segment ∉ cluster.driver.requested :=
      fun segment own member => taken ⟨segment, own, member⟩
    refine follows.register_fresh fresh fun launched => ?_
    obtain ⟨segment, own⟩ := List.exists_mem_of_ne_nil _ (inTime launched)
    have known := launched.2 segment (deployment.valid worker segment own)
    exact fresh segment own ((follows.requested segment).mpr known)

end

omit [DecidableEq Segment] in
theorem complete_iff {workers : List (Worker × List Segment)} {completed : Finset Worker}
    (distinct : (workers.map Prod.fst).Nodup)
    (subset : ∀ worker ∈ completed, worker ∈ workers.map Prod.fst) :
    (∀ worker ∈ workers.map Prod.fst, worker ∈ completed) ↔ completed.card = workers.length := by
  have size : (workers.map Prod.fst).toFinset.card = workers.length := by
    rw [List.toFinset_card_of_nodup distinct, List.length_map]
  have included : completed ⊆ (workers.map Prod.fst).toFinset :=
    fun worker member => List.mem_toFinset.mpr (subset worker member)
  constructor
  · intro all
    have reverse : (workers.map Prod.fst).toFinset ⊆ completed :=
      fun worker member => all worker (List.mem_toFinset.mp member)
    rw [included.antisymm reverse, size]
  · intro cards worker member
    rw [Finset.eq_of_subset_of_card_le included (by rw [size, cards])]
    exact List.mem_toFinset.mpr member

theorem report (follows : Follows deployment mayEnd cluster) (due : cluster.reports.count worker <
      (cluster.driver.received worker).count .RunSegments) :
    Follows deployment mayEnd
      { driver := cluster.driver.onGraphWorkerComplete worker
        reports := worker :: cluster.reports } := by
  have launched : deployment.Launched cluster.driver := by
    by_contra early
    rw [(follows.waits early).2.2 worker] at due
    exact absurd due (Nat.not_lt_zero _)
  have ranReceived : WorkerService.RunSegments ∈ cluster.driver.received worker :=
    List.count_pos_iff.mp (Nat.zero_lt_of_lt due)
  obtain ⟨thread, queue, behind, place, here, received⟩ := follows.placed launched
  have known : worker ∈ cluster.driver.known := by
    by_contra stranger
    rw [received worker, if_neg stranger] at due
    exact absurd due (Nat.not_lt_zero _)
  rw [received worker, if_pos known, count_run_scriptTo] at due
  have ran : 3 ≤ behind worker := by
    by_contra before
    rw [if_neg before] at due
    exact absurd due (Nat.not_lt_zero _)
  have first : worker ∉ cluster.reports := by
    rw [if_pos ran, Nat.lt_one_iff] at due
    exact List.count_eq_zero.mp due
  have notYet : ¬cluster.driver.Complete :=
    fun done => first ((follows.completed worker).mp (done worker known))
  have step : cluster.driver.onGraphWorkerComplete worker =
      { cluster.driver with
        completed := insert worker cluster.driver.completed
        queue :=
          if (insert worker cluster.driver.completed).card = cluster.driver.workers.length then
            cluster.driver.queue ++ [.kDeactivateWorkers, .kStopWorkers]
          else cluster.driver.queue } := by
    rw [onGraphWorkerComplete, if_neg (not_not_intro known)]
  have completed : ∀ other, other ∈ insert worker cluster.driver.completed ↔
      other ∈ worker :: cluster.reports := by
    intro other
    rw [Finset.mem_insert, List.mem_cons, follows.completed]
  have subset : ∀ other ∈ insert worker cluster.driver.completed, other ∈ cluster.driver.known := by
    intro other member
    rcases Finset.mem_insert.mp member with rfl | before
    · exact known
    · have ranBefore := follows.reported other ((follows.completed other).mp before)
      by_contra stranger
      rw [received other, if_neg stranger] at ranBefore
      cases ranBefore
  rw [step]
  constructor
  · exact follows.distinct
  · exact follows.stored
  · exact follows.requested
  · exact completed
  · exact List.nodup_cons.mpr ⟨first, follows.once⟩
  · intro other member
    rcases List.mem_cons.mp member with rfl | before
    · exact ranReceived
    · exact follows.reported other before
  · exact fun early => absurd launched early
  · exact follows.addresses
  · intro _
    have ending : Ending (∀ other ∈ cluster.driver.known, other ∈ insert worker
        cluster.driver.completed)
        (if (insert worker cluster.driver.completed).card = cluster.driver.workers.length then
          [.kDeactivateWorkers, .kStopWorkers] else []) := by
      split
      · exact .due ((complete_iff follows.distinct subset).mpr ‹_›)
      · exact .pending fun done => ‹¬_› ((complete_iff follows.distinct subset).mp done)
    have kept := received.same rfl rfl fun _ _ => rfl
    obtain ⟨rfl, rfl⟩ | ended := here
    · refine ⟨_, _, behind, place.report notYet ran fun empty => ?_, .inl ⟨rfl, rfl⟩, kept⟩
      simp only [empty, List.nil_append]
      exact ending
    · exact ⟨_, _, behind, place.report notYet ran fun _ => ending, .inr ended, kept⟩

theorem advance (follows : Follows deployment mayEnd cluster)
    (readable : mayEnd ∨ deployment.Readable)
    {outcome : RequestOutcome} (reached : outcome ≠ .lost)
    (answered : mayEnd ∨ (cluster.driver.Launching → outcome = .answered)) :
    Follows deployment mayEnd (cluster.step deployment (.advance outcome)) := by
  by_cases launched : deployment.Launched cluster.driver
  · obtain ⟨workers, requested, addresses, completed, sent⟩ :=
      GraphDriver.advance_keeps deployment cluster.driver outcome
    have known : (cluster.driver.advance deployment outcome).known = cluster.driver.known :=
      congrArg (List.map Prod.fst) workers
    constructor
    · exact known.symm ▸ follows.distinct
    · exact workers.symm ▸ follows.stored
    · intro segment
      exact requested.symm ▸ known.symm ▸ follows.requested segment
    · exact completed.symm ▸ follows.completed
    · exact follows.once
    · intro worker member
      exact ((sent.filter _).map _).subset (follows.reported worker member)
    · have still : deployment.Launched (cluster.driver.advance deployment outcome) := by
        rw [Deployment.Launched, Deployment.Registered, known]
        exact launched
      exact fun early => absurd still early
    · exact addresses.symm ▸ follows.addresses
    · refine fun _ => (follows.placed launched).advance follows.distinct follows.stored reached ?_
      obtain may | isReadable := readable
      · exact .inl may
      · exact answered.imp_right fun launch =>
          ⟨throws_eq_false isReadable follows.addresses, launch⟩
  · obtain ⟨resting, queue, _⟩ := follows.waits launched
    have same : cluster.step deployment (.advance outcome) = cluster := by
      simp only [GraphCluster.step, GraphDriver.advance, proceed, throws, resting, queue,
        Bool.false_eq_true, if_false]
    rw [same]
    exact follows

theorem step (follows : Follows deployment mayEnd cluster) (readable : mayEnd ∨ deployment.Readable)
    (op : ClusterOp Worker) (inTime : InTime deployment cluster op)
    (answered : mayEnd ∨ Answered cluster op) :
    Follows deployment mayEnd (cluster.step deployment op) := by
  cases op with
  | register worker => exact follows.register inTime
  | complete worker =>
      by_cases due : cluster.reports.count worker <
          (cluster.driver.received worker).count .RunSegments
      · rw [GraphCluster.step, if_pos due]
        exact follows.report due
      · rw [GraphCluster.step, if_neg due]
        exact follows
  | advance outcome => exact follows.advance readable inTime answered

end Follows

/-- The thread has nothing to do, or is gone. -/
def GraphDriver.Resting (driver : GraphDriver Worker Segment) : Prop :=
  driver.thread = .waiting ∧ driver.queue = [] ∨ driver.thread = .exited

/-- The steps that an event takes at most, with those of the events it leads to. -/
def DriverEvent.cost (workers : Nat) : DriverEvent → Nat
  | .kResolveConnections => 3 * workers + 4
  | .kExecuteWorkers => 2 * workers + 2
  | .kDeactivateWorkers => 2 * workers + 2
  | .kStopWorkers => workers + 2

/-- The steps that are left of a loop. -/
def DriverThread.cost (workers : Nat) : DriverThread Worker → Nat
  | .waiting | .exited => 0
  | .resolving todo => todo.length + 2 * workers + 3
  | .activating todo | .deactivating todo => 2 * todo.length + 1
  | .running _ todo | .destroying _ todo => 2 * todo.length + 2
  | .stopping todo => todo.length + 1

/-- The steps that the thread has to take before it rests. -/
def GraphDriver.cost (driver : GraphDriver Worker Segment) : Nat :=
  driver.thread.cost driver.known.length +
    (driver.queue.map (DriverEvent.cost driver.known.length)).sum

theorem GraphDriver.cost_advance_lt (deployment : Deployment Worker Segment)
    {driver : GraphDriver Worker Segment} (busy : ¬driver.Resting) :
    (driver.advance deployment .answered).cost < driver.cost := by
  rw [GraphDriver.advance]
  split
  next ends =>
    have some : 0 < driver.thread.cost driver.known.length := by
      rw [throws] at ends
      split at ends <;> simp_all [DriverThread.cost]
    exact Nat.add_lt_add_right some _
  have length : (deployment.order (driver.workers.map Prod.fst)).length =
      driver.workers.length := by
    rw [(deployment.perm _).length_eq, List.length_map]
  obtain ⟨requested, addresses, workers, completed, queue, thread, sent⟩ := driver
  cases thread with
  | waiting =>
      cases queue with
      | nil => exact absurd (.inl ⟨rfl, rfl⟩) busy
      | cons event queue =>
          cases event <;>
            simp only [proceed, begin, cost, known, DriverThread.cost, DriverEvent.cost,
              List.length_map, List.map_cons, List.sum_cons, length] <;> omega
  | exited => exact absurd (.inr rfl) busy
  | resolving todo =>
      cases todo with
      | nil =>
          simp only [proceed, cost, known, DriverThread.cost, DriverEvent.cost, List.length_nil,
            List.map_append, List.map_cons, List.map_nil, List.sum_append, List.sum_cons,
            List.sum_nil]
          omega
      | cons worker todo =>
          simp only [proceed, cost, known, DriverThread.cost, List.length_cons]
          split <;> simp only [send] <;> omega
  | activating todo | deactivating todo | stopping todo =>
      cases todo <;>
        simp only [proceed, cost, known, send, if_true, DriverThread.cost, List.length_cons,
          List.length_nil] <;> omega
  | running worker todo | destroying worker todo =>
      simp only [proceed, cost, known, send, if_true, DriverThread.cost]
      omega

namespace Follows

variable {deployment : Deployment Worker Segment} {cluster : GraphCluster Worker Segment}

theorem exists_resting (follows : Follows deployment False cluster)
    (readable : deployment.Readable) : ∃ steps,
    let later := (system deployment).run cluster (.replicate steps (.advance .answered))
    Follows deployment False later ∧ later.driver.known = cluster.driver.known ∧
      later.reports = cluster.reports ∧ later.driver.Resting := by
  obtain ⟨steps, rest⟩ := @System.exists_replicate_run _ _ _ (system deployment)
    (fun cluster => cluster.driver.Resting) (fun cluster => cluster.driver.cost)
    (.advance .answered)
    (fun cluster busy => cost_advance_lt deployment busy) cluster
  have along : (system deployment).Along (fun _ op => op = .advance .answered) cluster
      (.replicate steps (.advance .answered)) :=
    System.along_of_mem cluster fun op member => List.eq_of_mem_replicate member
  obtain ⟨later, known, reports⟩ := @System.invariant_run _ _ _ (system deployment)
    (fun later => Follows deployment False later ∧ later.driver.known = cluster.driver.known ∧
      later.reports = cluster.reports) _
    (by
      rintro later op ⟨laterFollows, known, reports⟩ rfl
      refine ⟨laterFollows.advance (.inr readable) nofun (.inr fun _ => rfl), ?_, reports⟩
      rw [← known]
      exact congrArg (List.map Prod.fst)
        (GraphDriver.advance_keeps deployment later.driver _).1)
    cluster _ ⟨follows, rfl, rfl⟩ along
  exact ⟨steps, later, known, reports, rest⟩

theorem served (follows : Follows deployment False cluster) (readable : deployment.Readable) :
    Served deployment cluster := by
  by_cases launched : deployment.Launched cluster.driver
  · obtain ⟨thread, queue, behind, place, -, received⟩ := follows.placed launched
    constructor
    · intro worker
      rw [received worker]
      split
      · exact scriptTo_prefix_script _ _
      · exact List.nil_prefix
    · intro worker some
      refine ⟨?_, launched.2⟩
      by_contra stranger
      exact some ((received worker).trans (if_neg stranger))
    · intro worker service member ending other known
      rw [received worker] at member
      split at member
      · have late := length_of_mem_scriptTo ending member
        exact (follows.completed other).mp (place.complete late other known)
      · cases member
    · intro registered
      obtain ⟨steps, laterFollows, known, reports, rest⟩ := follows.exists_resting readable
      refine ⟨steps, fun worker member => ?_⟩
      have still : deployment.Launched ((system deployment).run cluster
          (.replicate steps (.advance .answered))).driver := by
        rw [Deployment.Launched, Deployment.Registered, known]
        exact launched
      obtain ⟨_, _, last, lastPlace, ⟨rfl, rfl⟩ | ⟨-, never⟩, lastReceived⟩ :=
        laterFollows.placed still
      swap
      · cases never
      rw [lastReceived worker, known, if_pos member]
      obtain ⟨ran, done⟩ := lastPlace.resting rest
      refine ⟨scriptTo_shorter _ (ran worker), fun all => ?_⟩
      rw [done (fun other otherKnown => ?_) worker, script]
      rw [laterFollows.completed, reports]
      exact all other (known ▸ otherKnown)
  · obtain ⟨_, _, nothing⟩ := follows.waits launched
    constructor
    · intro worker
      rw [nothing worker]
      exact List.nil_prefix
    · intro worker some
      exact absurd (nothing worker) some
    · intro worker service member
      rw [nothing worker] at member
      cases member
    · intro registered
      refine ⟨0, fun worker member => ?_⟩
      exact absurd ⟨List.ne_nil_of_mem member, registered⟩ launched

end Follows

omit [DecidableEq Segment] in
theorem DriverPlace.together {complete : Prop} {other : Worker}
    (place : DriverPlace known complete thread queue behind)
    (boundary : length = 1 ∨ length = 3 ∨ length = 5) (ahead : length < behind worker) :
    length ≤ behind other := by
  cases place with
  | resolve | execute | launched | stop | exited => exact ahead.le
  | resolving | activating | running | deactivating | destroying | stopping =>
      dsimp only at ahead ⊢
      split_ifs at ahead ⊢ <;> omega

end Gxf.Std
