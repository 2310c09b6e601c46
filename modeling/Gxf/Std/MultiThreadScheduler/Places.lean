import Gxf.Lib.Custody
import Gxf.Std.MultiThreadScheduler.Threads

/-!
# The places of an entity

An entity is in one of the lists or in the hands of a thread.  The module states what a step does
to the places, and that no step puts an entity at two of them, also while the scheduler stops.
-/

namespace Gxf.Std

open Gxf.Core Gxf.Lib TimedJobList

namespace MultiThreadRun

open MultiThreadScheduler

variable {heap : PriorityQueue (Item Uid) itemPriorityCmp}
variable {jobs : Option (TimedJobList Uid heap)} {events : Option (EventList Uid)}
variable {item : Item Uid} {eid other : Uid}

/-! ## Lists of jobs -/

/-- A job waits in a list. -/
def Queued (jobs : Option (TimedJobList Uid heap)) (eid : Uid) : Prop :=
  ∃ list ∈ jobs, eid ∈ list.waiting

/-- A job is in the lookup set of a list, which refuses it. -/
def Refused (jobs : Option (TimedJobList Uid heap)) (eid : Uid) : Prop :=
  ∃ list ∈ jobs, eid ∈ list.items

instance (jobs : Option (TimedJobList Uid heap)) (eid : Uid) : Decidable (Queued jobs eid) :=
  inferInstanceAs (Decidable (∃ list ∈ jobs, eid ∈ list.waiting))

/-- No job waits twice in a list, and all of them are in its lookup set. -/
structure Jobs (list : TimedJobList Uid heap) : Prop where
  nodup : list.waiting.Nodup
  looked : ∀ job ∈ list.waiting, job ∈ list.items

/-- The list is there. -/
def Kept (jobs : Option (TimedJobList Uid heap)) : Prop := ∃ list ∈ jobs, Jobs list

variable {list next : TimedJobList Uid heap}

@[simp] theorem queued_some : Queued (some list) eid ↔ eid ∈ list.waiting := by
  simp [Queued]

@[simp] theorem refused_some : Refused (some list) eid ↔ eid ∈ list.items := by
  simp [Refused]

theorem waiting_insert (new : item.job ∉ list.items) :
    (list.insert item).1.waiting = item.job ::ₘ list.waiting := by
  rw [TimedJobList.insert, if_neg new]
  simp [waiting, heap.contents_push]

theorem items_insert : (list.insert item).1.items = insert item.job list.items := by
  rw [TimedJobList.insert]
  split
  next known => exact (Finset.insert_eq_of_mem known).symm
  next => rfl

theorem insertJob_accepted (kept : Kept jobs) :
    (insertJob jobs item).2 = true ↔ ¬Refused jobs item.job := by
  obtain ⟨list, rfl, -⟩ := kept
  rw [refused_some, insertJob, Option.any_some, TimedJobList.insert]
  split
  next known => exact iff_of_false Bool.false_ne_true (not_not.mpr known)
  next new => exact iff_of_true rfl new

theorem insertJob_refused (kept : Kept jobs) (refused : Refused jobs item.job) :
    (insertJob jobs item).1 = jobs := by
  obtain ⟨list, rfl, -⟩ := kept
  rw [insertJob, Option.map_some, TimedJobList.insert, if_pos (refused_some.mp refused)]

theorem Kept.insertJob (kept : Kept jobs) : Kept (insertJob jobs item).1 := by
  by_cases refused : Refused jobs item.job
  · rw [insertJob_refused kept refused]
    exact kept
  · obtain ⟨list, rfl, nodup, looked⟩ := kept
    rw [refused_some] at refused
    refine ⟨_, rfl, ?_, fun job isWaiting => ?_⟩
    · rw [waiting_insert refused, Multiset.nodup_cons]
      exact ⟨mt (looked _) refused, nodup⟩
    · rw [waiting_insert refused, Multiset.mem_cons] at isWaiting
      rw [items_insert, Finset.mem_insert]
      exact isWaiting.imp_right (looked job)

theorem queued_insertJob (kept : Kept jobs) (new : ¬Refused jobs item.job) :
    Queued (insertJob jobs item).1 other ↔ other = item.job ∨ Queued jobs other := by
  obtain ⟨list, rfl, -⟩ := kept
  rw [refused_some] at new
  rw [queued_some, MultiThreadRun.insertJob, Option.map_some, queued_some, waiting_insert new,
    Multiset.mem_cons]

theorem refused_insertJob (kept : Kept jobs) :
    Refused (insertJob jobs item).1 other ↔ other = item.job ∨ Refused jobs other := by
  obtain ⟨list, rfl, -⟩ := kept
  rw [refused_some, MultiThreadRun.insertJob, Option.map_some, refused_some, items_insert,
    Finset.mem_insert]

theorem Jobs.congr (jobs : Jobs list)
    (sameItems : next.items = list.items) (sameWaiting : next.waiting = list.waiting) :
    Jobs next := by
  refine ⟨sameWaiting ▸ jobs.nodup, fun job isWaiting => ?_⟩
  rw [sameItems]
  exact jobs.looked job (sameWaiting ▸ isWaiting)

theorem Jobs.leave (jobs : Jobs list) (left : eid ::ₘ next.waiting = list.waiting)
    (items : ∀ job, job ∈ list.items → job ≠ eid → job ∈ next.items) :
    Jobs next ∧ ∀ job, job ∈ next.waiting ↔ job ∈ list.waiting ∧ job ≠ eid := by
  have nodup := jobs.nodup
  rw [← left, Multiset.nodup_cons] at nodup
  have others (job : Uid) : job ∈ next.waiting ↔ job ∈ list.waiting ∧ job ≠ eid := by
    rw [← left, Multiset.mem_cons]
    constructor
    · intro stays
      refine ⟨.inr stays, ?_⟩
      rintro rfl
      exact nodup.1 stays
    · rintro ⟨rfl | stays, different⟩
      · exact absurd rfl different
      · exact stays
  refine ⟨⟨nodup.2, fun job stays => ?_⟩, others⟩
  obtain ⟨isWaiting, different⟩ := (others job).mp stays
  exact items job (jobs.looked job isWaiting) different

/-- What `waitForJob` does to a list. -/
inductive Taken (jobs next : Option (TimedJobList Uid heap)) : Answer Uid → Prop where
  | handedOut (eid : Uid) (queued : Queued jobs eid)
      (waits : ∀ other, Queued next other ↔ Queued jobs other ∧ other ≠ eid)
      (looked : ∀ other, Refused next other ↔ Refused jobs other ∧ other ≠ eid) :
      Taken jobs next (.handedOut eid)
  | nothing (answer : Answer Uid) (none : ∀ eid, answer ≠ .handedOut eid)
      (waits : ∀ other, Queued next other ↔ Queued jobs other)
      (looked : ∀ other, Refused next other ↔ Refused jobs other) : Taken jobs next answer

theorem Kept.takeJob (kept : Kept jobs) (now : Int) :
    Kept (takeJob jobs now).1 ∧ Taken jobs (takeJob jobs now).1 (takeJob jobs now).2 := by
  obtain ⟨list, rfl, sound⟩ := kept
  obtain ⟨sameItems, sameWaiting⟩ := moveDue_same now (heap.contents list.queue).card list
  have moved := sound.congr sameItems sameWaiting
  simp only [MultiThreadRun.takeJob]
  obtain ⟨-, answer⟩ | ⟨duration, answer⟩ | ⟨pendingJob, rest, isPending, answer⟩ :=
    waitForJob_answer list now
  · rw [answer]
    exact ⟨⟨_, rfl, sound⟩, .nothing _ nofun (fun _ => Iff.rfl) fun _ => Iff.rfl⟩
  · rw [answer]
    refine ⟨⟨_, rfl, moved⟩, .nothing _ nofun (fun other => ?_) fun other => ?_⟩
    · rw [queued_some, queued_some, sameWaiting]
    · rw [refused_some, refused_some, sameItems]
  · rw [answer]
    have left : pendingJob.job ::ₘ ((list.moveDue now
        (heap.contents list.queue).card).1.takePending pendingJob rest).waiting =
          (list.moveDue now (heap.contents list.queue).card).1.waiting := by
      rw [waiting, waiting, isPending, List.map_cons, ← Multiset.cons_coe, Multiset.add_cons]
      rfl
    obtain ⟨next, others⟩ := moved.leave left fun job known different =>
      Finset.mem_erase.mpr ⟨different, known⟩
    refine ⟨⟨_, rfl, next⟩, .handedOut _ ?_ (fun other => ?_) fun other => ?_⟩
    · rw [queued_some, ← sameWaiting, ← left]
      exact Multiset.mem_cons_self _ _
    · rw [queued_some, queued_some, others, sameWaiting]
    · rw [refused_some, refused_some, takePending, Finset.mem_erase, sameItems]
      exact and_comm

/-- What `popFront` does to a list. -/
inductive Popped (jobs next : Option (TimedJobList Uid heap)) : Except GxfResult Uid → Prop where
  | ok (eid : Uid) (queued : Queued jobs eid)
      (waits : ∀ other, Queued next other ↔ Queued jobs other ∧ other ≠ eid)
      (looked : ∀ other, Refused next other → Refused jobs other) : Popped jobs next (.ok eid)
  | error (code : GxfResult) (same : next = jobs) : Popped jobs next (.error code)

theorem Kept.popJob (kept : Kept jobs) :
    Kept (popJob jobs).1 ∧ Popped jobs (popJob jobs).1 (popJob jobs).2 := by
  obtain ⟨⟨isRunning, queue, items, pending⟩, rfl, sound⟩ := kept
  simp only [MultiThreadRun.popJob]
  unfold popFront
  cases pending with
  | cons pendingJob rest =>
      have left : pendingJob.job ::ₘ waiting ⟨isRunning, queue, items, rest⟩ =
          waiting ⟨isRunning, queue, items, pendingJob :: rest⟩ := by
        rw [waiting, waiting, List.map_cons, ← Multiset.cons_coe, Multiset.add_cons]
      obtain ⟨next, others⟩ := sound.leave left fun _ known _ => known
      refine ⟨⟨_, rfl, next⟩, .ok _ ?_ (fun other => ?_) fun other known => ?_⟩
      · rw [queued_some, ← left]
        exact Multiset.mem_cons_self _ _
      · rw [queued_some, queued_some, others]
      · rw [refused_some] at known ⊢
        exact known
  | nil =>
      cases isTop : heap.top queue with
      | none => exact ⟨⟨_, rfl, sound⟩, .error _ rfl⟩
      | some result =>
          have left : result.job ::ₘ waiting ⟨isRunning, heap.pop queue, items.erase result.job,
              []⟩ =
              waiting ⟨isRunning, queue, items, []⟩ := by
            rw [waiting, waiting, ← heap.contents_pop queue result isTop, Multiset.map_cons,
              Multiset.cons_add]
          obtain ⟨next, others⟩ := sound.leave left fun job known different =>
            Finset.mem_erase.mpr ⟨different, known⟩
          refine ⟨⟨_, rfl, next⟩, .ok _ ?_ (fun other => ?_) fun other known => ?_⟩
          · rw [queued_some, ← left]
            exact Multiset.mem_cons_self _ _
          · rw [queued_some, queued_some, others]
          · exact refused_some.mpr (Finset.mem_of_mem_erase (refused_some.mp known))

theorem Kept.stop (kept : Kept jobs) :
    Kept (jobs.map fun list => { list with isRunning := false }) ∧
      (∀ other, Queued (jobs.map fun list => { list with isRunning := false }) other ↔
        Queued jobs other) ∧
      ∀ other, Refused (jobs.map fun list => { list with isRunning := false }) other ↔
        Refused jobs other := by
  obtain ⟨list, rfl, sound⟩ := kept
  refine ⟨⟨_, rfl, sound.congr rfl rfl⟩, fun other => ?_, fun other => ?_⟩
  · rw [Option.map_some, queued_some, queued_some]
    rfl
  · rw [Option.map_some, refused_some, refused_some]

def Stored (events : Option (EventList Uid)) (eid : Uid) : Prop := ∃ list ∈ events, eid ∈ list.list

instance (events : Option (EventList Uid)) (eid : Uid) : Decidable (Stored events eid) :=
  inferInstanceAs (Decidable (∃ list ∈ events, eid ∈ list.list))

@[simp] theorem stored_some {list : EventList Uid} : Stored (some list) eid ↔ eid ∈ list.list := by
  simp [Stored]

theorem listed_iff : listed events eid = true ↔ Stored events eid := by
  simp [listed, Stored, EventList.hasEvent, Option.any_eq_true]

theorem stored_pushEvent (present : events.isSome) :
    Stored (events.map (·.pushEvent eid)) other ↔ Stored events other ∨ other = eid := by
  obtain ⟨list, rfl⟩ := Option.isSome_iff_exists.mp present
  rw [Option.map_some, stored_some, stored_some, EventList.mem_pushEvent]

theorem stored_removeEvent :
    Stored (events.map (·.removeEvent eid)) other ↔ Stored events other ∧ other ≠ eid := by
  cases events with
  | none => simp [Stored]
  | some list => rw [Option.map_some, stored_some, stored_some, EventList.mem_removeEvent]

theorem not_stored_clear : ¬Stored (events.map fun _ => ⟨[]⟩) eid := by
  simp [Stored]

variable {run : MultiThreadRun heap} {condition : SchedulingCondition} {now : Int}

theorem update_new (fresh : eid ∉ run.scheduler.conditions) : run.update eid condition now =
      { run with
        scheduler :=
          { run.scheduler with
            conditions := run.scheduler.conditions.insert eid condition
            readyCount := run.scheduler.readyCount + 1
            checkJobs := (insertJob run.scheduler.checkJobs ⟨eid, now, kMaxSlipNs, 0⟩).1 } } := by
  rw [update, updateCondition, AList.lookup_eq_none.mpr fresh]
  rfl

theorem update_recorded (recorded : eid ∈ run.scheduler.conditions) :
    ∃ readyCount waitTimeCount waitEventCount waitCount, run.update eid condition now =
        { run with
          scheduler :=
            { run.scheduler with
              conditions :=
                if condition.type = .NEVER then run.scheduler.conditions.erase eid
                else run.scheduler.conditions.insert eid condition
              readyCount, waitTimeCount, waitEventCount, waitCount } } := by
  obtain ⟨previous, stored⟩ := Option.isSome_iff_exists.mp (AList.lookup_isSome.mpr recorded)
  rw [update, updateCondition, stored]
  simp only [recountAll_eq]
  by_cases never : condition.type = .NEVER
  · simp only [if_pos never]
    exact ⟨_, _, _, _, rfl⟩
  · simp only [if_neg never]
    exact ⟨_, _, _, _, rfl⟩

end MultiThreadRun

/-- The entity that the dispatcher still has to put somewhere. -/
def Verdict.held (verdict : Verdict) : Option Uid :=
  if verdict.condition.type = .NEVER then none else some verdict.eid

/-- The entity in the hands of the dispatcher. -/
def DispatcherThread.current : DispatcherThread → Option Uid
  | .holding eid | .requested eid _ | .evaluating eid _ => some eid
  | .judged verdict => some verdict.eid
  | .recorded verdict | .stopping verdict | .draining verdict | .rechecking verdict _
  | .rehanding verdict _ | .finishing verdict | .timing verdict | .placing verdict => verdict.held
  | .looping | .waiting | .exited => none

/-- The other entity that the dispatcher has in hand when it goes through the jobs that are
left. -/
def DispatcherThread.drained : DispatcherThread → Option Uid
  | .rechecking _ other | .rehanding _ other => some other
  | _ => none

/-- The dispatcher goes through the jobs that are left. -/
def DispatcherThread.drains : DispatcherThread → Bool
  | .draining _ | .rechecking .. | .rehanding .. | .finishing _ => true
  | _ => false

/-- The entity in the hands of a worker. -/
def WorkerThread.current : WorkerThread → Option Uid
  | .holding eid | .requested eid | .removing eid | .matching eid | .executing eid
  | .returning eid | .inserting eid => some eid
  | .waiting | .exited => none

/-- The entity in the hands of the thread that matches notifications. -/
def AsyncThread.current : AsyncThread → Option Uid
  | .removed eid _ | .handing eid _ => some eid
  | .checking | .exporting | .comparing _ | .found _ _ | .sleeping | .exited => none

/-- The places at which an entity can be. -/
inductive Place where
  | check
  | worker
  | event
  | dispatcher
  | drained
  | workerThread (worker : Nat)
  | eventThread
  deriving DecidableEq, Repr

namespace MultiThreadRun

open MultiThreadScheduler

variable {heap : PriorityQueue (Item Uid) itemPriorityCmp}
variable {run next : MultiThreadRun heap} {eid other : Uid} {place : Place}

/-- An entity is at a place. -/
def At (run : MultiThreadRun heap) : Place → Uid → Prop
  | .check, eid => Queued run.scheduler.checkJobs eid
  | .worker, eid => Queued run.scheduler.workerJobs eid
  | .event, eid => Stored run.scheduler.eventWaiting eid
  | .dispatcher, eid => run.dispatcher.current = some eid
  | .drained, eid => run.dispatcher.drained = some eid
  | .workerThread worker, eid => (run.workers worker).current = some eid
  | .eventThread, eid => run.async.current = some eid

/-- An entity goes to the list of jobs to check with the next steps of some thread. -/
inductive Returning (run : MultiThreadRun heap) (eid : Uid) : Prop where
  | event (parked : run.At .event eid)
  | dispatcher (here : run.At .dispatcher eid)
  | found (rest : List Uid) (isAt : run.async = .found eid rest)
  | eventThread (here : run.At .eventThread eid)
  | inserting (worker : Nat) (isAt : run.workers worker = .inserting eid)

/-- The lists of the scheduler are there, and the lookup set of the workers' jobs is exact. -/
structure Lists (run : MultiThreadRun heap) : Prop where
  check : Kept run.scheduler.checkJobs
  worker : Kept run.scheduler.workerJobs
  exact : ∀ eid, Refused run.scheduler.workerJobs eid → Queued run.scheduler.workerJobs eid
  event : run.scheduler.eventWaiting.isSome

/-- What holds in every state: an entity is at one place at most, and while the scheduler runs
the entities with a condition are somewhere. -/
structure Sound (run : MultiThreadRun heap) : Prop extends Lists run where
  custody : SoleCustody run.At (· ∈ run.scheduler.conditions)
    fun eid => run.running = true ∧ eid ∈ run.scheduler.conditions
  found : ∀ eid rest, run.async = .found eid rest →
    eid ∈ run.scheduler.conditions ∧ ∀ place, run.At place eid → place = .event
  /-- Only a scheduler that stops leaves jobs in a lookup set that wait no more, and these do
  not come back. -/
  stale : ∀ eid, Refused run.scheduler.checkJobs eid → ¬run.At .check eid →
    run.running = false ∧ ¬run.Returning eid
  drains : run.dispatcher.drains = true → run.running = false

/-! ## What a step does to the places -/

/-- No entity moves. -/
structure Stays (run next : MultiThreadRun heap) : Prop where
  same : ∀ place other, next.At place other ↔ run.At place other
  conditions : ∀ other, other ∈ next.scheduler.conditions ↔ other ∈ run.scheduler.conditions
  running : next.running = true → run.running = true
  found : ∀ other rest, next.async = .found other rest →
    run.async = .found other rest ∨ run.At .event other
  looked : ∀ other, Refused next.scheduler.checkJobs other → Refused run.scheduler.checkJobs other
  inserting : ∀ worker other, next.workers worker = .inserting other →
    run.workers worker = .inserting other ∨ run.running = true

/-- An entity moves from one place to another. -/
structure Moved (run next : MultiThreadRun heap) (source target : Place) (eid : Uid) : Prop where
  moves : ∀ place other, next.At place other ↔
    (place = target ∧ other = eid) ∨ run.At place other ∧ ¬(place = source ∧ other = eid)
  conditions : next.scheduler.conditions = run.scheduler.conditions
  running : next.running = run.running
  found : ∀ other rest, next.async = .found other rest →
    run.async = .found other rest ∧ source ≠ .event
  looked : ∀ other, Refused next.scheduler.checkJobs other →
    Refused run.scheduler.checkJobs other ∨ target = .check ∧ other = eid
  inserting : ∀ worker other, next.workers worker = .inserting other →
    run.workers worker = .inserting other

variable {source : Place}

theorem Sound.elsewhere (sound : Sound run) (here : run.At source eid)
    (different : place ≠ source) : ¬run.At place eid :=
  fun there => different (sound.custody.once there here)

theorem Sound.accepts (sound : Sound run) (returning : run.Returning eid)
    (elsewhere : ¬run.At .check eid) : ¬Refused run.scheduler.checkJobs eid :=
  fun refused => (sound.stale eid refused elsewhere).2 returning

theorem Sound.stay (sound : Sound run) (lists : Lists next) (stays : Stays run next)
    (drains : next.dispatcher.drains = true → next.running = false) : Sound next where
  toLists := lists
  custody := sound.custody.congr stays.same (fun other => (stays.conditions other).mpr)
    fun other isDue => ⟨stays.running isDue.1, (stays.conditions other).mp isDue.2⟩
  found eid rest isAt := by
    have event : eid ∈ run.scheduler.conditions ∧ ∀ place, run.At place eid → place = .event := by
      obtain before | parked := stays.found eid rest isAt
      · exact sound.found eid rest before
      · exact ⟨sound.custody.known parked, sound.custody.only parked⟩
    exact ⟨(stays.conditions eid).mpr event.1,
      fun place there => event.2 place ((stays.same place eid).mp there)⟩
  stale eid refused gone := by
    obtain ⟨stopped, notReturning⟩ := sound.stale eid (stays.looked eid refused)
      (mt (stays.same .check eid).mpr gone)
    refine ⟨Bool.eq_false_iff.mpr (mt stays.running (by simp [stopped])), fun returning => ?_⟩
    apply notReturning
    cases returning with
    | event parked => exact .event ((stays.same _ _).mp parked)
    | dispatcher here => exact .dispatcher ((stays.same _ _).mp here)
    | eventThread here => exact .eventThread ((stays.same _ _).mp here)
    | found rest isAt =>
        obtain before | parked := stays.found eid rest isAt
        · exact .found rest before
        · exact .event parked
    | inserting worker isAt =>
        obtain before | running := stays.inserting worker eid isAt
        · exact .inserting worker before
        · exact absurd running (by simp [stopped])
  drains := drains

theorem Moved.only {target : Place} (moved : Moved run next source target eid)
    (fromThere : ∀ place, run.At place eid → place = source) (there : next.At place eid) :
    place = target := by
  obtain ⟨isTarget, -⟩ | ⟨before, elsewhere⟩ := (moved.moves place eid).mp there
  · exact isTarget
  · exact absurd ⟨fromThere place before, rfl⟩ elsewhere

theorem Sound.move (sound : Sound run) (lists : Lists next) (source target : Place)
    (isLive : eid ∈ run.scheduler.conditions) (here : source ≠ .event → run.At source eid)
    (fromThere : ∀ place, run.At place eid → place = source)
    (moved : Moved run next source target eid)
    (left : source = .check →
      target = .drained ∧ run.running = false ∨ ¬Refused next.scheduler.checkJobs eid)
    (returns : target = .event ∨ target = .dispatcher ∨ target = .eventThread →
      source = .check ∨ run.Returning eid)
    (drains : next.dispatcher.drains = true → next.running = false) : Sound next where
  toLists := lists
  custody := by
    refine sound.custody.move isLive fromThere moved.moves (fun other known => ?_) fun other due =>
      ?_
    · rw [moved.conditions]
      exact known
    · rw [← moved.conditions, ← moved.running]
      exact due
  found other rest isAt := by
    obtain ⟨before, notEvent⟩ := moved.found other rest isAt
    obtain ⟨known, parked⟩ := sound.found other rest before
    refine ⟨moved.conditions ▸ known, fun place there => ?_⟩
    obtain ⟨-, rfl⟩ | ⟨there, -⟩ := (moved.moves place other).mp there
    · exact absurd (parked source (here notEvent)) notEvent
    · exact parked place there
  stale other refused gone := by
    have before : Refused run.scheduler.checkJobs other := by
      obtain before | inserted := moved.looked other refused
      · exact before
      · exact absurd ((moved.moves .check other).mpr (.inl ⟨inserted.1.symm, inserted.2⟩)) gone
    by_cases queued : run.At .check other
    · -- The entity has just been taken from the list.
      obtain ⟨isSource, rfl⟩ : Place.check = source ∧ other = eid := by
        by_contra stays
        exact gone ((moved.moves .check other).mpr (.inr ⟨queued, stays⟩))
      obtain ⟨rfl, stopped⟩ | accepted := left isSource.symm
      · refine ⟨moved.running.trans stopped, fun returning => ?_⟩
        subst isSource
        cases returning with
        | event parked => cases moved.only fromThere parked
        | dispatcher there | eventThread there => cases moved.only fromThere there
        | found rest isAt => cases (sound.found _ rest (moved.found _ rest isAt).1).2 .check queued
        | inserting worker isAt =>
            have there : run.At (.workerThread worker) other := by
              rw [At, moved.inserting worker _ isAt]
              rfl
            cases fromThere _ there
      · exact absurd refused accepted
    · obtain ⟨stopped, notReturning⟩ := sound.stale other before queued
      refine ⟨moved.running.trans stopped, fun returning => notReturning ?_⟩
      have came {place : Place} (back : place = .event ∨ place = .dispatcher ∨ place = .eventThread)
          (there : next.At place other) : run.At place other ∨ run.Returning other := by
        obtain ⟨rfl, rfl⟩ | ⟨there, -⟩ := (moved.moves place other).mp there
        · obtain rfl | returning := returns back
          · exact absurd (here nofun) queued
          · exact .inr returning
        · exact .inl there
      cases returning with
      | event parked => exact (came (.inl rfl) parked).elim .event id
      | dispatcher there => exact (came (.inr (.inl rfl)) there).elim .dispatcher id
      | eventThread there => exact (came (.inr (.inr rfl)) there).elim .eventThread id
      | found rest isAt => exact .found rest (moved.found other rest isAt).1
      | inserting worker isAt => exact .inserting worker (moved.inserting worker other isAt)
  drains := drains

theorem Returning.mono (returning : next.Returning eid)
    (same : ∀ place, place ≠ .check → next.At place eid → run.At place eid)
    (found : ∀ rest, next.async = .found eid rest → run.async = .found eid rest)
    (inserting : ∀ worker, next.workers worker = .inserting eid →
      run.workers worker = .inserting eid) : run.Returning eid := by
  cases returning with
  | event parked => exact .event (same .event nofun parked)
  | dispatcher here => exact .dispatcher (same .dispatcher nofun here)
  | found rest isAt => exact .found rest (found rest isAt)
  | eventThread here => exact .eventThread (same .eventThread nofun here)
  | inserting worker isAt => exact .inserting worker (inserting worker isAt)

theorem Sound.leave (sound : Sound run) (lists : Lists next)
    (here : run.At source eid) (inHand : source ≠ .event ∧ source ≠ .check)
    (leaves : ∀ place other, next.At place other ↔
      run.At place other ∧ ¬(place = source ∧ other = eid))
    (conditions : ∀ other, other ∈ next.scheduler.conditions ↔
      other ∈ run.scheduler.conditions ∧ other ≠ eid)
    (running : next.running = run.running) (async : next.async = run.async)
    (looked : next.scheduler.checkJobs = run.scheduler.checkJobs)
    (inserting : ∀ worker other, next.workers worker = .inserting other →
      run.workers worker = .inserting other)
    (drains : next.dispatcher.drains = true → next.running = false) : Sound next where
  toLists := lists
  custody := sound.custody.leave here leaves
    (fun other known different => (conditions other).mpr ⟨known, different⟩)
    fun other due => ⟨⟨running ▸ due.1, ((conditions other).mp due.2).1⟩,
      ((conditions other).mp due.2).2⟩
  found other rest isAt := by
    obtain ⟨known, parked⟩ := sound.found other rest (async ▸ isAt)
    refine ⟨(conditions other).mpr ⟨known, ?_⟩, fun place there => ?_⟩
    · rintro rfl
      exact inHand.1 (parked source here)
    · exact parked place ((leaves place other).mp there).1
  stale other refused gone := by
    rw [looked] at refused
    have before : ¬run.At .check other := fun queued =>
      gone ((leaves .check other).mpr ⟨queued, fun both => inHand.2 both.1.symm⟩)
    obtain ⟨stopped, notReturning⟩ := sound.stale other refused before
    refine ⟨running.trans stopped, fun returning => notReturning ?_⟩
    exact returning.mono (fun place _ there => ((leaves place other).mp there).1)
      (fun rest isAt => async ▸ isAt) fun worker => inserting worker other
  drains := drains

theorem Sound.lose (sound : Sound run) (lists : Lists next)
    (kept : ∀ place other, next.At place other → run.At place other)
    (conditions : ∀ other, other ∈ run.scheduler.conditions → other ∈ next.scheduler.conditions)
    (stopped : next.running = false)
    (found : ∀ other rest, next.async = .found other rest → run.async = .found other rest)
    (looked : ∀ other, Refused next.scheduler.checkJobs other →
      Refused run.scheduler.checkJobs other)
    (queued : ∀ other, run.At .check other → next.At .check other)
    (inserting : ∀ worker other, next.workers worker = .inserting other →
      run.workers worker = .inserting other) : Sound next where
  toLists := lists
  custody := sound.custody.thin kept conditions fun other due => by simp [stopped] at due
  found other rest isAt := by
    obtain ⟨known, parked⟩ := sound.found other rest (found other rest isAt)
    exact ⟨conditions other known, fun place there => parked place (kept place other there)⟩
  stale other refused gone := by
    refine ⟨stopped, fun returning => ?_⟩
    refine (sound.stale other (looked other refused) (mt (queued other) gone)).2 ?_
    exact returning.mono (fun place _ => kept place other) (found other) fun worker =>
      inserting worker other
  drains _ := stopped

theorem Sound.enter (sound : Sound run) (lists : Lists next)
    (fresh : eid ∉ run.scheduler.conditions)
    (enters : ∀ place other, next.At place other ↔
      (place = .check ∧ other = eid) ∨ run.At place other)
    (conditions : ∀ other, other ∈ next.scheduler.conditions ↔
      other = eid ∨ other ∈ run.scheduler.conditions)
    (running : next.running = run.running) (async : next.async = run.async)
    (workers : next.workers = run.workers) (dispatcher : next.dispatcher = run.dispatcher)
    (looked : ∀ other, Refused next.scheduler.checkJobs other →
      other = eid ∨ Refused run.scheduler.checkJobs other) : Sound next where
  toLists := lists
  custody := sound.custody.enter fresh enters ((conditions eid).mpr (.inl rfl))
    (fun other known => (conditions other).mpr (.inr known))
    fun other due => ((conditions other).mp due.2).imp_right fun known => ⟨running ▸ due.1, known⟩
  found other rest isAt := by
    obtain ⟨known, parked⟩ := sound.found other rest (async ▸ isAt)
    refine ⟨(conditions other).mpr (.inr known), fun place there => ?_⟩
    obtain ⟨-, rfl⟩ | there := (enters place other).mp there
    · exact absurd known fresh
    · exact parked place there
  stale other refused gone := by
    have before : ¬run.At .check other := fun there => gone ((enters .check other).mpr (.inr there))
    obtain rfl | refused := looked other refused
    · exact absurd ((enters .check other).mpr (.inl ⟨rfl, rfl⟩)) gone
    · obtain ⟨stopped, notReturning⟩ := sound.stale other refused before
      refine ⟨running.trans stopped, fun returning => notReturning ?_⟩
      refine returning.mono (fun place notCheck there => ?_) (fun rest isAt => async ▸ isAt)
        fun worker isAt => workers ▸ isAt
      exact ((enters place other).mp there).resolve_left fun both => notCheck both.1
  drains isDraining := running.trans (sound.drains (dispatcher ▸ isDraining))

end MultiThreadRun

end Gxf.Std
