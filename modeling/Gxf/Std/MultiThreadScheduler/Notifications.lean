import Gxf.Std.MultiThreadScheduler.Requests

/-!
# Notifications of the multi-thread scheduler

A notification that arrives after the evaluation of an entity stays in the list until the thread
that matches notifications has taken the entity from the waiting ones.
-/

namespace Gxf.Std

open Gxf.Core Gxf.Lib TimedJobList

/-- The entity that the dispatcher evaluates, or that it is going to let wait for an event. -/
def DispatcherThread.parks : DispatcherThread → Option Uid
  | .evaluating eid _ => some eid
  | .judged verdict | .recorded verdict | .stopping verdict | .draining verdict
  | .rechecking verdict _ | .rehanding verdict _ | .finishing verdict | .timing verdict
  | .placing verdict => if verdict.condition.type = .WAIT_EVENT then some verdict.eid else none
  | .looping | .waiting | .holding _ | .requested _ _ | .exited => none

/-- The notifications that a pass has not finished with. -/
def AsyncThread.remaining : AsyncThread → List Uid
  | .comparing notifications => notifications
  | .found eid rest => eid :: rest
  | .removed _ rest | .handing _ rest => rest
  | .checking | .exporting | .sleeping | .exited => []

namespace MultiThreadRun

open MultiThreadScheduler

variable {heap : PriorityQueue (Item Uid) itemPriorityCmp}
variable {run : MultiThreadRun heap} {eid : Uid}
variable {setting : Setting} {input : Input}

theorem DispatcherThread.current_of_parks {dispatcher : DispatcherThread}
    (parks : dispatcher.parks = some eid) : dispatcher.current = some eid := by
  have held {verdict : Verdict}
      (parks : (if verdict.condition.type = .WAIT_EVENT then some verdict.eid else none) =
      some eid) :
      verdict.held = some eid := by
    split at parks
    next waits =>
      rw [Verdict.held, if_neg (by simp [waits])]
      exact parks
    next => cases parks
  cases dispatcher with
  | evaluating other now => exact parks
  | judged verdict =>
      rw [DispatcherThread.parks] at parks
      split at parks
      next => exact parks
      next => cases parks
  | recorded _ | stopping _ | draining _ | rechecking _ _ | rehanding _ _ | finishing _ | timing _
  | placing _ => exact held parks
  | _ => cases parks

/-! ## What a step does to the lists of events -/

variable {op : Op}

theorem running_step (running : ((system setting).step run op).1.running = true) :
    run.running = true := by
  cases op with
  | schedule other lookup now =>
      simp only [system, scheduleAbi] at running
      (repeat' split at running) <;> exact running
  | unschedule other lookup =>
      simp only [system, unscheduleAbi] at running
      (repeat' split at running) <;> exact running
  | eventNotify other event =>
      simp only [system, eventNotifyAbi] at running
      split at running <;> exact running
  | stop => cases running
  | halt call =>
      simp only [system, halt] at running
      split at running <;> exact running
  | dispatch input =>
      simp only [system, dispatch] at running
      (repeat' split at running) <;>
        first
          | exact running
          | cases running
          | (simp only [place] at running; split at running <;> exact running)
  | work worker input =>
      simp only [system, work] at running
      (repeat' split at running) <;> first | exact running | cases running
  | matchEvents input =>
      simp only [system, matchEvents] at running
      (repeat' split at running) <;> exact running

theorem parks_step (parks : ((system setting).step run op).1.dispatcher.parks = some eid) :
    run.dispatcher.parks = some eid ∨ ((system setting).step run op).2 = .asked eid := by
  by_cases dispatches : ∃ input, op = .dispatch input
  · obtain ⟨input, rfl⟩ := dispatches
    cases isAt : run.dispatcher with
    | holding other =>
        simp only [system, dispatch, isAt] at parks ⊢
        split at parks
        next => cases parks
        next notListed =>
          split at parks
          next started =>
            rw [if_neg notListed, if_pos started]
            cases parks
            exact .inr rfl
          next => cases parks
    | placing verdict =>
        simp only [system, dispatch, isAt, place] at parks
        split at parks <;> cases parks
    | evaluating other now =>
        left
        simp only [system, dispatch, isAt] at parks
        split at parks
        next => cases parks
        next =>
          simp only [DispatcherThread.parks] at parks
          split at parks
          next => exact parks
          next => cases parks
    | waiting | exited | finishing _ =>
        simp only [system, dispatch, isAt] at parks
        (repeat' split at parks) <;> simp_all [DispatcherThread.parks]
    | _ =>
        simp only [system, dispatch, isAt] at parks ⊢
        (repeat' split at parks) <;> exact .inl parks
  · rw [(threads_step _).1 (not_exists.mp dispatches)] at parks
    exact .inl parks

/-- The entities that wait for an event after a step. -/
def waitingAfter (run : MultiThreadRun heap) : Op → Option (EventList Uid)
  | .dispatch _ =>
      match run.dispatcher with
      | .placing verdict =>
          if verdict.condition.type = .WAIT_EVENT then
            run.scheduler.eventWaiting.map (·.pushEvent verdict.eid)
          else run.scheduler.eventWaiting
      | _ => run.scheduler.eventWaiting
  | .matchEvents _ =>
      match run.async with
      | .found eid _ => run.scheduler.eventWaiting.map (·.removeEvent eid)
      | _ => run.scheduler.eventWaiting
  | .halt .eventWaiting =>
      if run.running then run.scheduler.eventWaiting
      else run.scheduler.eventWaiting.map fun _ => ⟨[]⟩
  | _ => run.scheduler.eventWaiting

def notifiedAfter (run : MultiThreadRun heap) : Op → Option (EventList Uid)
  | .eventNotify eid .GXF_EVENT_EXTERNAL => run.scheduler.eventNotified.map (·.pushEvent eid)
  | .matchEvents _ =>
      match run.async with
      | .removed eid _ => run.scheduler.eventNotified.map (·.removeEvent eid)
      | _ => run.scheduler.eventNotified
  | .halt .eventNotified =>
      if run.running then run.scheduler.eventNotified
      else run.scheduler.eventNotified.map fun _ => ⟨[]⟩
  | _ => run.scheduler.eventNotified

theorem update_events {condition : SchedulingCondition} {now : Int} :
    (run.update eid condition now).scheduler.eventWaiting = run.scheduler.eventWaiting ∧
      (run.update eid condition now).scheduler.eventNotified = run.scheduler.eventNotified := by
  simp only [update, updateCondition, recountAll_eq]
  split
  next => exact ⟨rfl, rfl⟩
  next => split <;> exact ⟨rfl, rfl⟩

theorem events_step (op : Op) :
    ((system setting).step run op).1.scheduler.eventWaiting = run.waitingAfter op ∧
      ((system setting).step run op).1.scheduler.eventNotified = run.notifiedAfter op := by
  cases op with
  | stop => exact ⟨rfl, rfl⟩
  | schedule other lookup now =>
      simp only [system, scheduleAbi, waitingAfter, notifiedAfter]
      repeat' split
      all_goals first | exact ⟨rfl, rfl⟩ | exact update_events
  | unschedule other lookup =>
      simp only [system, unscheduleAbi, waitingAfter, notifiedAfter]
      repeat' split
      all_goals exact ⟨rfl, rfl⟩
  | eventNotify other event => cases event <;> exact ⟨rfl, rfl⟩
  | halt call =>
      cases call <;> simp only [system, halt, waitingAfter, notifiedAfter] <;> split <;>
        exact ⟨rfl, rfl⟩
  | dispatch input =>
      cases isAt : run.dispatcher with
      | placing verdict =>
          simp only [system, dispatch, isAt, place, waitingAfter, notifiedAfter]
          cases verdict.condition.type <;> exact ⟨rfl, rfl⟩
      | judged verdict =>
          simp only [system, dispatch, isAt, waitingAfter, notifiedAfter]
          exact update_events
      | _ =>
          simp only [system, dispatch, isAt, waitingAfter, notifiedAfter]
          repeat' split
          all_goals first | exact ⟨rfl, rfl⟩ | exact ⟨trivial, trivial⟩
  | work worker input =>
      cases isAt : run.workers worker with
      | removing other =>
          simp only [system, work, isAt, waitingAfter, notifiedAfter]
          exact update_events
      | _ =>
          simp only [system, work, isAt, waitingAfter, notifiedAfter]
          repeat' split
          all_goals first | exact ⟨rfl, rfl⟩ | exact ⟨trivial, trivial⟩
  | matchEvents input =>
      cases isAt : run.async with
      | comparing notifications =>
          cases notifications <;>
            simp only [system, matchEvents, isAt, waitingAfter, notifiedAfter, and_self]
      | _ =>
          simp only [system, matchEvents, isAt, waitingAfter, notifiedAfter]
          repeat' split
          all_goals first | exact ⟨rfl, rfl⟩ | exact ⟨trivial, trivial⟩

variable {events : Option (EventList Uid)} {other : Uid}

theorem stored_push_of_stored
    (stored : Stored events eid) : Stored (events.map (·.pushEvent other)) eid := by
  cases events with
  | none => exact stored
  | some list => exact (stored_pushEvent rfl).mpr (.inl stored)

theorem eq_or_stored_of_push
    (stored : Stored (events.map (·.pushEvent other)) eid) : Stored events eid ∨ eid = other := by
  cases events with
  | none => exact .inl stored
  | some list => exact (stored_pushEvent rfl).mp stored

theorem event_step (parked : ((system setting).step run op).1.At .event eid) :
    run.At .event eid ∨ run.dispatcher.parks = some eid := by
  rw [At, (events_step _).1] at parked
  unfold waitingAfter at parked
  split at parked
  next =>
    split at parked
    next verdict isAt =>
      split at parked
      next waits =>
        refine (eq_or_stored_of_push parked).imp_right fun same => ?_
        rw [isAt, same]
        exact if_pos waits
      next => exact .inl parked
    next => exact .inl parked
  next =>
    split at parked
    next => exact .inl (stored_removeEvent.mp parked).1
    next => exact .inl parked
  next =>
    split at parked
    next => exact .inl parked
    next => exact absurd parked not_stored_clear
  next => exact .inl parked

theorem event_kept (running : run.running = true) (parked : run.At .event eid) :
    ((system setting).step run op).1.At .event eid ∨
      (∃ input, op = .matchEvents input) ∧ ∃ rest, run.async = .found eid rest := by
  rw [At, (events_step _).1]
  unfold waitingAfter
  split
  next =>
    left
    repeat' split
    all_goals first | exact parked | exact stored_push_of_stored parked
  next input =>
    split
    next other rest isAt =>
      by_cases same : eid = other
      · exact .inr ⟨⟨input, rfl⟩, rest, same ▸ isAt⟩
      · exact .inl (stored_removeEvent.mpr ⟨parked, same⟩)
    next => exact .inl parked
  next =>
    rw [if_pos running]
    exact .inl parked
  next => exact .inl parked

theorem notified_kept (running : run.running = true)
    (notified : Stored run.scheduler.eventNotified eid) :
    Stored ((system setting).step run op).1.scheduler.eventNotified eid ∨
      (∃ input, op = .matchEvents input) ∧ ∃ rest, run.async = .removed eid rest := by
  rw [(events_step _).2]
  unfold notifiedAfter
  split
  next => exact .inl (stored_push_of_stored notified)
  next input =>
    split
    next other rest isAt =>
      by_cases same : eid = other
      · exact .inr ⟨⟨input, rfl⟩, rest, same ▸ isAt⟩
      · exact .inl (stored_removeEvent.mpr ⟨notified, same⟩)
    next => exact .inl notified
  next =>
    rw [if_pos running]
    exact .inl notified
  next => exact .inl notified

theorem notified_present (op : Op) :
    ((system setting).step run op).1.scheduler.eventNotified.isSome =
      run.scheduler.eventNotified.isSome := by
  rw [(events_step _).2]
  unfold notifiedAfter
  repeat' split
  all_goals first | rfl | exact Option.isSome_map

/-- The entity that a call notifies of an external event. -/
def Op.notifies : Op → Option Uid
  | .eventNotify eid .GXF_EVENT_EXTERNAL => some eid
  | _ => none

/-- The entity about which the executor is asked. -/
def Report.asks : Report → Option Uid
  | .asked eid => some eid
  | _ => none

/-- The entities that were notified after their last evaluation began. -/
def freshen (fresh : List Uid) (op : Op) (report : Report) : List Uid :=
  op.notifies.toList ++ fresh.filter fun eid => report.asks ≠ some eid

/-- The threads with the entities that were notified. -/
def notified (setting : Setting) : System (MultiThreadRun heap × List Uid) Op Report :=
  (system setting).recorded freshen

/-- A notification that arrived after an evaluation is stored, as long as the entity is going to
wait or waits for its event. -/
structure Noticed (state : MultiThreadRun heap × List Uid) : Prop where
  sound : Sound state.1
  present : state.1.scheduler.eventNotified.isSome
  kept : state.1.running = true → ∀ eid ∈ state.2,
    state.1.At .event eid ∨ state.1.dispatcher.parks = some eid →
      Stored state.1.scheduler.eventNotified eid

theorem Noticed.step {state : MultiThreadRun heap × List Uid} (noticed : Noticed state) (op : Op) :
    Noticed ((notified setting).step state op).1 := by
  have sound : Sound ((notified setting).step state op).1.1 := noticed.sound.step op
  refine ⟨sound, (notified_present op).trans noticed.present, fun running eid isFresh waits => ?_⟩
  have before := running_step running
  obtain now | earlier := List.mem_append.mp isFresh
  · -- The notification has just arrived.
    cases op with
    | eventNotify other event =>
        cases event with
        | GXF_EVENT_EXTERNAL =>
            obtain rfl := List.mem_singleton.mp now
            exact (stored_pushEvent noticed.present).mpr (.inr rfl)
        | _ => cases now
    | _ => cases now
  · obtain ⟨earlier, notAsked⟩ := List.mem_filter.mp earlier
    rw [decide_eq_true_eq] at notAsked
    have waited : state.1.At .event eid ∨ state.1.dispatcher.parks = some eid := by
      obtain parked | parks := waits
      · exact event_step parked
      · exact .inr ((parks_step parks).resolve_right fun report =>
          notAsked (congrArg Report.asks report))
    obtain stays | ⟨⟨input, rfl⟩, rest, isAt⟩ :=
      @notified_kept _ _ _ setting op before (noticed.kept before eid earlier waited)
    · exact stays
    · -- A notification is removed only when the thread has the entity in hand.
      have inHand : state.1.At .eventThread eid := by
        rw [At, isAt]
        rfl
      obtain parked | parks := waited
      · exact absurd parked (noticed.sound.elsewhere inHand (by simp))
      · exact absurd (DispatcherThread.current_of_parks parks)
          (@Sound.elsewhere _ _ _ .dispatcher _ noticed.sound inHand (by simp))

/-! ## Matching -/

def handedBack (run : MultiThreadRun heap) (op : Op) : List Uid :=
  match op, run.async with
  | .matchEvents _, .handing eid _ => [eid]
  | _, _ => []

/-- An entity that waits is matched in the pass that begins or goes on. -/
inductive Underway (run : MultiThreadRun heap) (eid : Uid) : Prop where
  | exporting (isAt : run.async = .exporting) (parked : run.At .event eid)
      (notified : Stored run.scheduler.eventNotified eid)
  | comparing (remains : eid ∈ run.async.remaining) (parked : run.At .event eid)
  | taken (inHand : run.async.current = some eid)

/-- The other threads leave a pass as it is. -/
theorem Underway.step_other (underway : run.Underway eid) (running : run.running = true)
    (notMatch : ∀ input, op ≠ .matchEvents input) :
    ((system setting).step run op).1.Underway eid := by
  have same : ((system setting).step run op).1.async = run.async :=
    (threads_step op).2.2 notMatch
  have stays (parked : run.At .event eid) : ((system setting).step run op).1.At .event eid :=
    (event_kept running parked).resolve_right fun found => found.1.elim notMatch
  cases underway with
  | exporting isAt parked notified =>
      refine .exporting (same.trans isAt) (stays parked) ?_
      exact (notified_kept running notified).resolve_right fun removed => removed.1.elim notMatch
  | comparing remains parked => exact .comparing (same ▸ remains) (stays parked)
  | taken inHand => exact .taken (same ▸ inHand)

theorem Underway.step_match (underway : run.Underway eid) (running : run.running = true) :
    (run.matchEvents input).1.Underway eid ∨ eid ∈ run.handedBack (.matchEvents input) := by
  have stays (parked : run.At .event eid) (notFound : ∀ rest, run.async ≠ .found eid rest) :
      (run.matchEvents input).1.At .event eid :=
    (@event_kept _ _ _ ⟨fun _ => true, false, 0, 0⟩ (.matchEvents input) running
      parked).resolve_right fun found => found.2.elim notFound
  cases underway with
  | exporting isAt parked notified =>
      have parked := stays parked fun _ isFound => by cases isAt.symm.trans isFound
      obtain ⟨list, isList, member⟩ := notified
      rw [Option.mem_def] at isList
      refine .inl (.comparing ?_ parked)
      simpa only [matchEvents, isAt, isList, AsyncThread.remaining, Option.map_some,
        Option.getD_some, EventList.exportList] using member
  | comparing remains here =>
      cases isAt : run.async with
      | comparing notifications =>
          rw [isAt] at remains
          cases notifications with
          | nil => cases remains
          | cons other rest =>
              have parked := stays here fun _ isFound => by cases isAt.symm.trans isFound
              refine .inl (.comparing ?_ parked)
              simp only [matchEvents, isAt]
              split
              next => exact remains
              next notListed =>
                obtain rfl | later := List.mem_cons.mp remains
                · exact absurd (listed_iff.mpr here) notListed
                · exact later
      | found other rest =>
          rw [isAt] at remains
          by_cases same : eid = other
          · refine .inl (.taken ?_)
            simp only [matchEvents, isAt, same, AsyncThread.current]
          · have parked := stays here fun later isFound =>
                same (by cases isAt.symm.trans isFound; rfl)
            refine .inl (.comparing ?_ parked)
            simp only [matchEvents, isAt]
            exact (List.mem_cons.mp remains).resolve_left same
      | removed | handing =>
          rw [isAt] at remains
          have parked := stays here fun _ isFound => by cases isAt.symm.trans isFound
          refine .inl (.comparing ?_ parked)
          simp only [matchEvents, isAt]
          exact remains
      | _ =>
          rw [isAt] at remains
          cases remains
  | taken inHand =>
      cases isAt : run.async with
      | removed other rest =>
          rw [isAt] at inHand
          refine .inl (.taken ?_)
          simp only [matchEvents, isAt]
          exact inHand
      | handing other rest =>
          rw [isAt] at inHand
          cases inHand
          right
          simp only [handedBack, isAt, List.mem_singleton]
      | _ =>
          rw [isAt] at inHand
          cases inHand

theorem Underway.step (underway : run.Underway eid) (running : run.running = true) :
    ((system setting).step run op).1.Underway eid ∨ eid ∈ run.handedBack op := by
  by_cases matching : ∃ input, op = .matchEvents input
  · obtain ⟨input, rfl⟩ := matching
    exact underway.step_match running
  · exact .inl (underway.step_other running (not_exists.mp matching))

variable {ops : List Op}

theorem running_of_run (running : ((system setting).run run ops).running = true) :
    run.running = true := by
  induction ops generalizing run with
  | nil => exact running
  | cons op rest ih => exact running_step (ih running)

theorem Underway.pass (underway : run.Underway eid)
    (running : ((system setting).run run ops).running = true) :
    ((system setting).run run ops).Underway eid ∨
      eid ∈ (system setting).gather handedBack run ops := by
  induction ops generalizing run with
  | nil => exact .inl underway
  | cons op rest ih =>
      obtain still | handed := underway.step (@running_of_run _ _ setting (op :: rest) running)
      · exact (ih still running).imp_right (List.mem_append_right _)
      · exact .inr (List.mem_append_left _ handed)

theorem kept_until_matched (heap : PriorityQueue (Item Uid) itemPriorityCmp) (setting : Setting)
    (ops : List Op) :
    let state := (notified setting).run (start heap, []) ops
    state.1.running = true → ∀ eid ∈ state.2, state.1.At .event eid →
      Stored state.1.scheduler.eventNotified eid ∧
      (state.1.async = .exporting → ∀ pass, ((system setting).run state.1 pass).running = true →
        ((system setting).run state.1 pass).async = .sleeping →
          eid ∈ (system setting).gather handedBack state.1 pass) := by
  intro state running eid isFresh parked
  have noticed : Noticed state :=
    System.invariant_run_of_forall (fun _ op noticed => noticed.step op) ⟨Sound.start, rfl, nofun⟩
    ops
  have stored := noticed.kept running eid isFresh (.inl parked)
  refine ⟨stored, fun isAt pass stillRunning asleep => ?_⟩
  have underway : state.1.Underway eid := .exporting isAt parked stored
  refine (underway.pass stillRunning).resolve_left fun still => ?_
  cases still with
  | exporting isAt _ _ => cases isAt.symm.trans asleep
  | comparing remains _ =>
      rw [asleep] at remains
      cases remains
  | taken inHand =>
      rw [asleep] at inHand
      cases inHand

end MultiThreadRun

end Gxf.Std
