import Gxf.Std.GreedyScheduler.Scheduler

/-!
# Unscheduling is final

Once a call to unschedule an entity has returned, the entity is barred: its request is
pending, its mutex is gone, or it is nowhere to be taken from.  Every step of the loop
and of other threads keeps it barred, except a request that is dropped because the
entity is not active but new, or waiting for an event.
-/

namespace Gxf.Std.GreedyScheduler

open Gxf.Core Gxf.Lib

/-- The entity cannot be executed before it is scheduled again. -/
def Barred (eid : Uid) (scheduler : GreedyScheduler) : Prop :=
  eid ∈ scheduler.unscheduleEntities.list ∨ eid ∉ scheduler.entityMutexMap ∨
    eid ∉ scheduler.activeEntities ∧ eid ∉ scheduler.newEntities ∧ eid ∉ scheduler.eventWaiting.list

/-- A request for the entity is taken from the list only when the entity is active, or
neither new nor waiting for an event. -/
def Sound (eid : Uid) (scheduler : GreedyScheduler) : Event → Prop
  | .loop _ =>
      scheduler.phase = .unschedule → scheduler.unscheduleEntities.list.head? = some eid →
        eid ∈ scheduler.activeEntities ∨
          eid ∉ scheduler.newEntities ∧ eid ∉ scheduler.eventWaiting.list
  | _ => True

instance (eid : Uid) (scheduler : GreedyScheduler) :
    (event : Event) → Decidable (Sound eid scheduler event)
  | .loop _ => inferInstanceAs (Decidable (_ → _ → _ ∨ _ ∧ _))
  | .schedule _ _ | .unschedule _ _ | .eventNotify _ _ | .runAsync | .stop => isTrue trivial

theorem Barred.mono {eid : Uid} {before after : GreedyScheduler} (barred : Barred eid before)
    (requests : eid ∈ before.unscheduleEntities.list → eid ∈ after.unscheduleEntities.list)
    (mutexes : eid ∈ after.entityMutexMap → eid ∈ before.entityMutexMap)
    (active : eid ∈ after.activeEntities →
      eid ∈ before.activeEntities ∨ eid ∈ before.newEntities ∨ eid ∈ before.eventWaiting.list)
    (new : eid ∈ after.newEntities → eid ∈ before.newEntities)
    (waiting : eid ∈ after.eventWaiting.list →
      eid ∈ before.activeEntities ∨ eid ∈ before.eventWaiting.list) : Barred eid after := by
  cases barred with
  | inl pending => exact .inl (requests pending)
  | inr rest =>
      right
      cases rest with
      | inl noMutex => exact .inl fun present => noMutex (mutexes present)
      | inr nowhere =>
          obtain ⟨notActive, notNew, notWaiting⟩ := nowhere
          right
          refine ⟨fun present => ?_, fun present => notNew (new present), fun present => ?_⟩
          · obtain isActive | isNew | isWaiting := active present
            · exact notActive isActive
            · exact notNew isNew
            · exact notWaiting isWaiting
          · cases waiting present with
            | inl isActive => exact notActive isActive
            | inr isWaiting => exact notWaiting isWaiting

section Lists

variable {eid other : Uid} {active : List Uid}

theorem mem_emplaceBack {entities : List Uid} (room : emplaceBack active other = some entities) :
    eid ∈ entities ↔ eid ∈ active ∨ eid = other := by
  unfold emplaceBack at room
  split at room
  next =>
    cases room
    rw [List.mem_append, List.mem_singleton]
  next => cases room

theorem mem_absorbNew {newEntities : List Uid} (member : eid ∈ absorbNew active newEntities) :
    eid ∈ active ∨ eid ∈ newEntities := by
  induction newEntities generalizing active with
  | nil => exact .inl member
  | cons first rest ih =>
      rw [absorbNew, List.foldl_cons] at member
      cases ih member with
      | inr inRest => exact .inr (List.mem_cons_of_mem _ inRest)
      | inl inActive =>
          cases appended : emplaceBack active first with
          | none =>
              rw [appended] at inActive
              exact .inl inActive
          | some entities =>
              rw [appended, Option.getD_some, mem_emplaceBack appended] at inActive
              exact inActive.imp_right fun same => List.mem_cons.mpr (.inl same)

theorem mem_removeAll {toRemove : List Uid} (member : eid ∈ toRemove.foldl List.erase active) :
    eid ∈ active := by
  induction toRemove generalizing active with
  | nil => exact member
  | cons first rest ih => exact List.mem_of_mem_erase (ih member)

theorem eraseActive_subset (eid : Uid) (fuel position : Nat) (active : List Uid)
    (mutexes : Finset Uid) :
    (eraseActive eid fuel position active mutexes).1 ⊆ active ∧
      (eraseActive eid fuel position active mutexes).2.1 ⊆ mutexes := by
  induction fuel generalizing position active mutexes with
  | zero => exact ⟨List.Subset.refl _, Finset.Subset.refl _⟩
  | succ fuel ih =>
      rw [eraseActive]
      split
      next =>
        split
        next =>
          obtain ⟨fewer, fewerMutexes⟩ :=
            ih (position + 1) (active.eraseIdx position) (mutexes.erase eid)
          exact ⟨List.Subset.trans fewer (List.eraseIdx_subset ..),
            Finset.Subset.trans fewerMutexes (Finset.erase_subset ..)⟩
        next => exact ⟨List.eraseIdx_subset .., Finset.Subset.refl _⟩
      next => exact ih (position + 1) active mutexes

theorem eraseActive_mutex {fuel position : Nat} {mutexes : Finset Uid} {index : Nat}
    (behind : position ≤ index) (reached : index < position + fuel)
    (isActive : active[index]? = some eid) :
    eid ∉ (eraseActive eid fuel position active mutexes).2.1 := by
  induction fuel generalizing position mutexes with
  | zero => omega
  | succ fuel ih =>
      rw [eraseActive]
      split
      next =>
        split
        next =>
          intro present
          exact Finset.notMem_erase eid mutexes ((eraseActive_subset ..).2 present)
        next noMutex => exact noMutex
      next notHere =>
        have later : index ≠ position := fun same => notHere (same ▸ isActive)
        exact ih (by omega) (by omega)

end Lists

section Step

variable {eid : Uid} {setting : Setting} {scheduler : GreedyScheduler}

theorem applyCondition_fields (scheduler : GreedyScheduler) (position : Nat) (other : Uid)
    (condition : Except GxfResult SchedulingCondition) :
    let after := scheduler.applyCondition position other condition
    after.unscheduleEntities = scheduler.unscheduleEntities ∧
      after.entityMutexMap = scheduler.entityMutexMap ∧
      after.activeEntities = scheduler.activeEntities ∧
      after.newEntities = scheduler.newEntities ∧
      ∀ candidate ∈ after.eventWaiting.list,
        candidate ∈ scheduler.eventWaiting.list ∨ candidate = other := by
  intro after
  have unchanged : ∀ candidate ∈ scheduler.eventWaiting.list,
      candidate ∈ scheduler.eventWaiting.list ∨ candidate = other := fun _ => .inl
  have pushed : ∀ candidate ∈ (scheduler.eventWaiting.pushEvent other).list,
      candidate ∈ scheduler.eventWaiting.list ∨ candidate = other :=
    fun _ => EventList.mem_pushEvent.mp
  cases condition with
  | error code => exact ⟨rfl, rfl, rfl, rfl, unchanged⟩
  | ok condition =>
      obtain ⟨type, targetTimestamp⟩ := condition
      cases type with
      | READY | WAIT_TIME | WAIT => exact ⟨rfl, rfl, rfl, rfl, unchanged⟩
      | NEVER =>
          simp only [after, applyCondition]
          split
          next => exact ⟨rfl, rfl, rfl, rfl, unchanged⟩
          next => exact ⟨rfl, rfl, rfl, rfl, unchanged⟩
      | WAIT_EVENT =>
          simp only [after, applyCondition]
          split
          next => exact ⟨rfl, rfl, rfl, rfl, pushed⟩
          next => exact ⟨rfl, rfl, rfl, rfl, pushed⟩

section

variable (barred : Barred eid scheduler)
include barred

theorem barred_executeNext (position : Nat) (input : Input) :
    Barred eid (scheduler.executeNext position input).1 ∧
      (scheduler.executeNext position input).2 ≠ .executed eid := by
  rw [executeNext]
  cases found : scheduler.activeEntities[position]? with
  | none => exact ⟨barred.mono id id .inl id .inr, by simp⟩
  | some other =>
      have isActive : other ∈ scheduler.activeEntities := List.mem_of_getElem? found
      have applied : ∀ condition,
          Barred eid (scheduler.applyCondition position other condition) := by
        intro condition
        obtain ⟨requests, mutexes, active, new, waiting⟩ :=
          applyCondition_fields scheduler position other condition
        apply barred.mono
        · exact fun member => by rwa [requests]
        · exact fun member => by rwa [mutexes] at member
        · exact fun member => .inl (by rwa [active] at member)
        · exact fun member => by rwa [new] at member
        · intro member
          cases waiting eid member with
          | inl before => exact .inr before
          | inr same => exact .inl (same ▸ isActive)
      dsimp only
      split
      next => exact ⟨barred.mono id id .inl id .inr, by simp⟩
      next hasMutex =>
        split
        next => exact ⟨applied _, by simp⟩
        next notRequested =>
          refine ⟨applied _, ?_⟩
          rintro same
          cases same
          obtain pending | noMutex | ⟨notActive, -, -⟩ := barred
          · exact notRequested (decide_eq_true pending)
          · exact hasMutex noMutex
          · exact notActive isActive

theorem barred_processRequest (sound : scheduler.unscheduleEntities.list.head? = some eid →
      eid ∈ scheduler.activeEntities ∨
        eid ∉ scheduler.newEntities ∧ eid ∉ scheduler.eventWaiting.list) :
    Barred eid scheduler.processRequest.1 := by
  rw [processRequest]
  cases popped : scheduler.unscheduleEntities.popEvent with
  | none => exact barred.mono id id .inl id .inr
  | some request =>
      obtain ⟨other, rest⟩ := request
      have isList := EventList.popEvent_list popped
      obtain ⟨fewer, fewerMutexes⟩ := eraseActive_subset other
        scheduler.activeEntities.length 0 scheduler.activeEntities scheduler.entityMutexMap
      by_cases same : other = eid
      · -- the request itself: what bars the entity now is what was done for it
        subst same
        by_cases isActive : other ∈ scheduler.activeEntities
        · obtain ⟨index, found⟩ := List.mem_iff_getElem?.mp isActive
          have inside := (List.getElem?_eq_some_iff.mp found).choose
          exact .inr (.inl (eraseActive_mutex (Nat.zero_le _) (by omega) found))
        · have lost := sound (by rw [isList, List.head?_cons])
          obtain ⟨notNew, notWaiting⟩ := lost.resolve_left isActive
          exact .inr (.inr ⟨fun member => isActive (fewer member), notNew, notWaiting⟩)
      · have stillRequested : eid ∈ scheduler.unscheduleEntities.list → eid ∈ rest.list := by
          rw [isList, List.mem_cons]
          exact fun member => member.resolve_left (Ne.symm same)
        exact barred.mono stillRequested (fun member => fewerMutexes member)
          (fun member => .inl (fewer member)) id .inr

theorem barred_processNotification (notifications : List Uid) :
    Barred eid (scheduler.processNotification notifications).1 := by
  cases notifications with
  | nil => exact barred.mono id id .inl id .inr
  | cons other rest =>
      rw [processNotification]
      split
      next isWaiting =>
        have fewer : eid ∈ (scheduler.eventWaiting.removeEvent other).list →
            eid ∈ scheduler.activeEntities ∨ eid ∈ scheduler.eventWaiting.list :=
          fun member => .inr (EventList.mem_removeEvent.mp member).1
        dsimp only
        cases appended : emplaceBack scheduler.activeEntities other with
        | none => exact barred.mono id id .inl id fewer
        | some activeEntities =>
            refine barred.mono id id (fun member => ?_) id fewer
            cases (mem_emplaceBack appended).mp member with
            | inl before => exact .inl before
            | inr same => exact .inr (.inr (same ▸ of_decide_eq_true isWaiting))
      next => exact barred.mono id id .inl id .inr

theorem barred_advance (input : Input) (sound : Sound eid scheduler (.loop input)) :
    Barred eid (scheduler.advance setting input).1 ∧
      (scheduler.advance setting input).2 ≠ .executed eid := by
  have takenOver : eid ∈ absorbNew scheduler.activeEntities scheduler.newEntities →
      eid ∈ scheduler.activeEntities ∨ eid ∈ scheduler.newEntities ∨
        eid ∈ scheduler.eventWaiting.list :=
    fun member => (mem_absorbNew member).imp_right .inl
  cases phase : scheduler.phase with
  | idle | stopped | crashed => simpa [advance, phase] using barred
  | load =>
      simp only [advance, phase, loadEntities]
      split
      next => exact ⟨barred.mono id id takenOver (fun member => by cases member) .inr, by simp⟩
      next => exact ⟨barred.mono id id takenOver (fun member => by cases member) .inr, by simp⟩
  | check =>
      simp only [advance, phase, checkTermination]
      split_ifs
      all_goals exact ⟨barred.mono id id .inl id .inr, by simp⟩
  | absorb =>
      simp only [advance, phase, absorbEntities]
      exact ⟨barred.mono id id takenOver (fun member => by cases member) .inr, by simp⟩
  | execute position =>
      simp only [advance, phase]
      exact barred_executeNext barred position input
  | unschedule =>
      simp only [advance, phase]
      refine ⟨barred_processRequest barred (sound phase), ?_⟩
      rw [processRequest]
      split <;> simp
  | notify notifications =>
      simp only [advance, phase]
      refine ⟨barred_processNotification barred notifications, ?_⟩
      unfold processNotification
      split
      next => simp
      next =>
        split
        next => split <;> simp
        next => simp
  | remove =>
      simp only [advance, phase, removeEntities]
      exact ⟨barred.mono id id (fun member => .inl (mem_removeAll member)) id .inr, by simp⟩
  | finish =>
      simp only [advance, phase, finishIteration]
      split_ifs
      all_goals exact ⟨barred.mono id id .inl id .inr, by simp⟩
  | sleep =>
      simp only [advance, phase, wakeUp]
      split
      · exact ⟨barred.mono id id .inl id .inr, by simp⟩
      · exact ⟨barred, by simp⟩

theorem barred_step (event : Event)
    (notScheduled : ∀ lookup, event ≠ .schedule eid lookup) (sound : Sound eid scheduler event) :
    Barred eid ((system setting).step scheduler event).1 ∧
      ((system setting).step scheduler event).2 ≠ .executed eid := by
  cases event with
  | schedule other lookup =>
      have different : eid ≠ other := by
        rintro rfl
        exact notScheduled lookup rfl
      simp only [system, scheduleAbi]
      split
      · exact ⟨barred, by simp⟩
      split
      · exact ⟨barred, by simp⟩
      split
      · exact ⟨barred, by simp⟩
      split
      next => exact ⟨barred, by simp⟩
      next newEntities appended =>
        refine ⟨barred.mono id (fun member => ?_) .inl (fun member => ?_) .inr, by simp⟩
        · exact (Finset.mem_insert.mp member).resolve_left different
        · exact ((mem_emplaceBack appended).mp member).resolve_right different
  | unschedule other lookup =>
      simp only [system, unscheduleAbi]
      split
      · exact ⟨barred, by simp⟩
      split
      · exact ⟨barred, by simp⟩
      split
      · exact ⟨barred, by simp⟩
      · refine ⟨barred.mono (fun member => ?_) id .inl id .inr, by simp⟩
        exact EventList.mem_pushEvent.mpr (.inl member)
  | eventNotify other event =>
      simp only [system, eventNotifyAbi]
      split
      · exact ⟨barred, by simp⟩
      · exact ⟨barred.mono id id .inl id .inr, by simp⟩
  | runAsync =>
      simp only [system, runAsyncAbi]
      split
      all_goals exact ⟨barred.mono id id .inl id .inr, by simp⟩
  | stop => exact ⟨barred.mono id id .inl id .inr, by simp [system, stopAbi]⟩
  | loop input => exact barred_advance barred input sound

end

end Step

/-! ## Runs -/

variable {setting : Setting}

theorem advance_mutexes (setting : Setting) (scheduler : GreedyScheduler) (input : Input) :
    (scheduler.advance setting input).1.entityMutexMap ⊆ scheduler.entityMutexMap := by
  have unchanged : scheduler.entityMutexMap ⊆ scheduler.entityMutexMap := Finset.Subset.refl _
  cases phase : scheduler.phase with
  | idle | stopped | crashed | absorb | remove =>
      simp only [advance, phase, absorbEntities, removeEntities]
      exact unchanged
  | load =>
      simp only [advance, phase, loadEntities]
      split
      all_goals exact unchanged
  | check =>
      simp only [advance, phase, checkTermination]
      split_ifs
      all_goals exact unchanged
  | execute position =>
      simp only [advance, phase, executeNext]
      split
      next => exact unchanged
      next eid _ =>
        have applied : ∀ condition,
            (scheduler.applyCondition position eid condition).entityMutexMap ⊆
              scheduler.entityMutexMap := by
          intro condition
          obtain ⟨-, same, -⟩ := applyCondition_fields scheduler position eid condition
          exact same.subset
        split
        next => exact unchanged
        next =>
          split
          all_goals exact applied _
  | unschedule =>
      simp only [advance, phase, processRequest]
      split
      next => exact unchanged
      next => exact (eraseActive_subset ..).2
  | notify notifications =>
      simp only [advance, phase]
      unfold processNotification
      split
      next => exact unchanged
      next =>
        split
        next =>
          dsimp only
          split
          all_goals exact unchanged
        next => exact unchanged
  | finish =>
      simp only [advance, phase, finishIteration]
      split_ifs
      all_goals exact unchanged
  | sleep =>
      simp only [advance, phase, wakeUp]
      split
      all_goals exact unchanged

theorem mutexes_step (scheduler : GreedyScheduler) (event : Event)
    (haveCodelets : ∀ eid ∈ scheduler.entityMutexMap, setting.hasCodelets eid = true) :
    ∀ eid ∈ ((system setting).step scheduler event).1.entityMutexMap,
      setting.hasCodelets eid = true := by
  have same : ∀ {after : GreedyScheduler}, after.entityMutexMap ⊆ scheduler.entityMutexMap →
      ∀ eid ∈ after.entityMutexMap, setting.hasCodelets eid = true :=
    fun fewer eid member => haveCodelets eid (fewer member)
  cases event with
  | schedule eid lookup =>
      simp only [system, scheduleAbi]
      split
      · exact haveCodelets
      split
      next => exact haveCodelets
      next withCodelets =>
        split
        · exact haveCodelets
        split
        · exact haveCodelets
        · intro other member
          cases Finset.mem_insert.mp member with
          | inl same =>
              rw [same]
              simpa using withCodelets
          | inr before => exact haveCodelets other before
  | unschedule eid lookup =>
      simp only [system, unscheduleAbi]
      split
      · exact haveCodelets
      split_ifs
      all_goals exact haveCodelets
  | eventNotify eid event =>
      simp only [system, eventNotifyAbi]
      split
      all_goals exact haveCodelets
  | runAsync =>
      simp only [system, runAsyncAbi]
      split
      all_goals exact haveCodelets
  | stop => exact haveCodelets
  | loop input => exact same (advance_mutexes setting scheduler input)

theorem barred_unscheduleAbi {scheduler : GreedyScheduler} {eid : Uid}
    {lookup : Except GxfResult Unit}
    (haveCodelets : ∀ eid ∈ scheduler.entityMutexMap, setting.hasCodelets eid = true)
    (succeeded : (scheduler.unscheduleAbi setting eid lookup).2 = .returned (.ok ())) :
    Barred eid (scheduler.unscheduleAbi setting eid lookup).1 := by
  unfold unscheduleAbi at succeeded ⊢
  cases lookup with
  | error code => cases succeeded
  | ok found =>
      dsimp only
      split
      next noCodelets =>
        refine .inr (.inl fun present => ?_)
        rw [haveCodelets eid present] at noCodelets
        cases noCodelets
      next =>
        split
        next noMutex => exact .inr (.inl noMutex)
        next => exact .inl (EventList.mem_pushEvent.mpr (.inr rfl))

theorem barred_run {scheduler : GreedyScheduler} {eid : Uid} (barred : Barred eid scheduler)
    {events : List Event} (notScheduled : ∀ lookup, .schedule eid lookup ∉ events)
    (sound : (system setting).Along (Sound eid) scheduler events) :
    .executed eid ∉ (system setting).outputs scheduler events := by
  induction events generalizing scheduler with
  | nil => exact List.not_mem_nil
  | cons event rest ih =>
      obtain ⟨soundHere, soundLater⟩ := sound
      obtain ⟨stillBarred, notExecuted⟩ := barred_step barred event
        (fun lookup same => notScheduled lookup (same ▸ List.mem_cons_self ..)) soundHere
      rw [System.outputs_cons, List.mem_cons, not_or]
      exact ⟨Ne.symm notExecuted,
        ih stillBarred (fun lookup member => notScheduled lookup (List.mem_cons_of_mem _ member))
          soundLater⟩

/-- In every run, once a call to unschedule an entity has returned successfully, and the
entity is not scheduled again, it is never executed, provided that no request for it is
dropped. -/
theorem unschedule_final (setting : Setting) (before after : List Event) (eid : Uid)
    (lookup : Except GxfResult Unit)
    (succeeded : (((system setting).run init before).unscheduleAbi setting eid lookup).2 =
      .returned (.ok ()))
    (notScheduled : ∀ lookup, .schedule eid lookup ∉ after)
    (sound : (system setting).Along (Sound eid)
      ((system setting).run init (before ++ [.unschedule eid lookup])) after) :
    .executed eid ∉ (system setting).outputs
      ((system setting).run init (before ++ [.unschedule eid lookup])) after := by
  have haveCodelets : ∀ eid ∈ ((system setting).run init before).entityMutexMap,
      setting.hasCodelets eid = true :=
    System.invariant_run_of_forall mutexes_step (fun eid present => by cases present) before
  rw [System.run_append] at sound ⊢
  exact barred_run (barred_unscheduleAbi haveCodelets succeeded) notScheduled sound

/-- A step of the loop in which the executed entity, if any, reports a condition. -/
def turn (type : SchedulingConditionType) : Event := .loop ⟨0, .ok ⟨type, 0⟩, .GXF_SUCCESS⟩

/-- Steps of the loop in which every executed entity is ready. -/
def turns (count : Nat) : List Event := List.replicate count (turn .READY)

/-- An application of entities with codelets, without time limits. -/
def plain : Setting := ⟨fun _ => true, none, true, 0⟩

/-- Entities 1 and 2 are scheduled and run for one iteration, after which entity 1 is ready
again, or waits for an event. -/
def started (type : SchedulingConditionType) : List Event :=
  [.schedule 1 (.ok ()), .schedule 2 (.ok ()), .runAsync] ++ turns 3 ++ [turn type] ++ turns 6

theorem turns_not_schedule (eid : Uid) (lookup : Except GxfResult Unit) (count : Nat) :
    Event.schedule eid lookup ∉ turns count := by
  intro member
  cases List.eq_of_mem_replicate member

/-- An entity that is ready when it is unscheduled. -/
theorem unschedule_final_ready :
    (((system plain).run init (started .READY)).unscheduleAbi plain 1 (.ok ())).2 =
        .returned (.ok ()) ∧
      .executed 1 ∉ (system plain).outputs
        ((system plain).run init (started .READY ++ [.unschedule 1 (.ok ())])) (turns 20) :=
  ⟨by decide, unschedule_final plain (started .READY) (turns 20) 1 (.ok ()) (by decide)
    (fun lookup => turns_not_schedule 1 lookup 20) (by decide)⟩

/-- An entity that waits for an event when it is unscheduled is executed again, two
iterations later, when the event is notified.  So is an entity that is still new. -/
theorem unschedule_not_final :
    let waiting := started .WAIT_EVENT
    let new := [.schedule 2 (.ok ()), .runAsync] ++ turns 3 ++ [.schedule 1 (.ok ())]
    let unscheduled before := (system plain).run init (before ++ [.unschedule 1 (.ok ())])
    (((system plain).run init waiting).unscheduleAbi plain 1 (.ok ())).2 = .returned (.ok ()) ∧
      ((system plain).outputs (unscheduled waiting) (turns 17)).count .iterated = 2 ∧
      .executed 1 ∈ (system plain).outputs ((system plain).run (unscheduled waiting) (turns 17))
        (.eventNotify 1 .GXF_EVENT_EXTERNAL :: turns 13) ∧
      (((system plain).run init new).unscheduleAbi plain 1 (.ok ())).2 = .returned (.ok ()) ∧
      ((system plain).outputs (unscheduled new) (turns 16)).count .iterated = 2 ∧
      .executed 1 ∈ (system plain).outputs
        ((system plain).run (unscheduled new) (turns 16)) (turns 4) := by
  decide

end Gxf.Std.GreedyScheduler
