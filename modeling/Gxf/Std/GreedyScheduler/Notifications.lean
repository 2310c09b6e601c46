import Gxf.Std.GreedyScheduler.Scheduler

/-!
# Notifications of the greedy scheduler

An entity is evaluated before it is put on the waiting list, and a match removes it first from
the notifications and then from the waiting entities.  Here other threads see the states in
between.
-/

namespace Gxf.Std

open Gxf.Core Gxf.Lib EventList

namespace GreedyScheduler

/-- Where the loop is inside of a part. -/
inductive Within where
  | nowhere
  /-- Before the condition of an entity is looked at. -/
  | evaluated (eid : Uid) (condition : Except GxfResult SchedulingCondition)
  /-- Before the notifications of an entity that waits are removed. -/
  | found (eid : Uid)
  /-- Before the entity is removed from the waiting ones. -/
  | matched (eid : Uid)
  deriving DecidableEq

/-- The entity that is going to wait for an event. -/
def Within.parks : Within → Option Uid
  | .evaluated eid (.ok condition) => if condition.type = .WAIT_EVENT then some eid else none
  | _ => none

/-- The scheduler, and where its loop is inside of a part. -/
structure Matching where
  scheduler : GreedyScheduler
  within : Within

namespace Matching

/-- The evaluation of the active entity at a position. -/
def evaluate (scheduler : GreedyScheduler) (position : Nat) (input : Input) :
    Option (Within × Report) :=
  match scheduler.activeEntities[position]? with
  | none => none
  | some eid =>
      if eid ∉ scheduler.entityMutexMap then none
      else if scheduler.unscheduleEntities.hasEvent eid then
        some (.evaluated eid (.ok ⟨.NEVER, 0⟩), .progressed)
      else some (.evaluated eid input.condition, .executed eid)

/-- The last part of a match: the entity is removed from the waiting ones and becomes active. -/
def finishMatch (scheduler : GreedyScheduler) (notifications : List Uid) :
    GreedyScheduler × Report :=
  let answer := scheduler.processNotification notifications
  ({ answer.1 with eventNotified := scheduler.eventNotified }, answer.2)

/-- The next part of the loop.  An evaluation and a match take several steps. -/
def advance (setting : Setting) (state : Matching) (input : Input) : Matching × Report :=
  let whole := state.scheduler.advance setting input
  match state.within, state.scheduler.phase with
  | .evaluated eid condition, .execute position =>
      (⟨state.scheduler.applyCondition position eid condition, .nowhere⟩, .progressed)
  | .found eid, .notify _ =>
      (⟨{ state.scheduler with
          eventNotified := state.scheduler.eventNotified.removeEvent eid }, .matched eid⟩,
        .progressed)
  | .matched _, .notify notifications =>
      let answer := finishMatch state.scheduler notifications
      (⟨answer.1, .nowhere⟩, answer.2)
  | .nowhere, .execute position =>
      match evaluate state.scheduler position input with
      | some (within, report) => (⟨state.scheduler, within⟩, report)
      | none => (⟨whole.1, .nowhere⟩, whole.2)
  | .nowhere, .notify (eid :: _) =>
      if state.scheduler.eventWaiting.hasEvent eid then
        (⟨state.scheduler, .found eid⟩, .progressed)
      else (⟨whole.1, .nowhere⟩, whole.2)
  | _, _ => (⟨whole.1, .nowhere⟩, whole.2)

/-- The scheduler together with the threads that call it. -/
def system (setting : Setting) : System Matching Event Report where
  step state
    | .loop input => state.advance setting input
    | event =>
        let answer := (GreedyScheduler.system setting).step state.scheduler event
        (⟨answer.1, state.within⟩, answer.2)

def start : Matching := ⟨init, .nowhere⟩

variable {setting : Setting} {state : Matching} {scheduler : GreedyScheduler} {event : Event}
  {input : Input} {eid : Uid}

/-! ## Whole parts -/

/-- The loop is inside of a part only where it has come to. -/
def Begun (state : Matching) : Prop :=
  match state.within with
  | .nowhere => True
  | .evaluated _ _ => ∃ position, state.scheduler.phase = .execute position
  | .found eid | .matched eid =>
      eid ∈ state.scheduler.eventWaiting.list ∧ ∃ rest, state.scheduler.phase =
      .notify (eid :: rest)

/-- What the loop does with a state and an input. -/
inductive Advances (setting : Setting) (state : Matching) (input : Input) :
    Matching × Report → Prop where
  | judges (position : Nat) (within : Within) (report : Report)
      (outside : state.within = .nowhere) (isAt : state.scheduler.phase = .execute position)
      (judged : evaluate state.scheduler position input = some (within, report)) :
      Advances setting state input (⟨state.scheduler, within⟩, report)
  | applies (position : Nat) (eid : Uid) (condition : Except GxfResult SchedulingCondition)
      (inside : state.within = .evaluated eid condition)
      (isAt : state.scheduler.phase = .execute position) :
      Advances setting state input
        (⟨state.scheduler.applyCondition position eid condition, .nowhere⟩, .progressed)
  | finds (eid : Uid) (rest : List Uid) (outside : state.within = .nowhere)
      (isAt : state.scheduler.phase = .notify (eid :: rest))
      (waits : state.scheduler.eventWaiting.hasEvent eid = true) :
      Advances setting state input (⟨state.scheduler, .found eid⟩, .progressed)
  | removes (eid : Uid) (notifications : List Uid) (inside : state.within = .found eid)
      (isAt : state.scheduler.phase = .notify notifications) :
      Advances setting state input (⟨{ state.scheduler with
        eventNotified := state.scheduler.eventNotified.removeEvent eid }, .matched eid⟩,
        .progressed)
  | ends (eid : Uid) (notifications : List Uid) (inside : state.within = .matched eid)
      (isAt : state.scheduler.phase = .notify notifications) :
      Advances setting state input (⟨(finishMatch state.scheduler notifications).1, .nowhere⟩,
        (finishMatch state.scheduler notifications).2)
  | other (notJudged : ∀ position, state.scheduler.phase = .execute position →
        state.within = .nowhere → evaluate state.scheduler position input = none)
      (notFound : ∀ eid rest, state.scheduler.phase = .notify (eid :: rest) →
        state.within = .nowhere → state.scheduler.eventWaiting.hasEvent eid = false)
      (outside : Begun state → state.within = .nowhere) :
      Advances setting state input (⟨(state.scheduler.advance setting input).1, .nowhere⟩,
        (state.scheduler.advance setting input).2)

theorem advance_cases (setting : Setting) (state : Matching) (input : Input) :
    Advances setting state input (state.advance setting input) := by
  unfold advance
  dsimp only
  split
  next eid condition position inside isAt => exact .applies position eid condition inside isAt
  next eid notifications inside isAt => exact .removes eid notifications inside isAt
  next eid notifications inside isAt => exact .ends eid notifications inside isAt
  next position outside isAt =>
    split
    next within report judged => exact .judges position within report outside isAt judged
    next notJudged =>
      refine .other (fun other isOther _ => ?_) (fun _ _ isOther => ?_) fun _ => outside
      · cases isAt.symm.trans isOther
        exact notJudged
      · cases isAt.symm.trans isOther
  next eid rest outside isAt =>
    split
    next waits => exact .finds eid rest outside isAt waits
    next notWaiting =>
      refine .other (fun _ isOther => ?_) (fun other later isOther _ => ?_) fun _ => outside
      · cases isAt.symm.trans isOther
      · cases isAt.symm.trans isOther
        exact Bool.not_eq_true _ ▸ notWaiting
  next notApplies notRemoves notEnds notExecute notNotify =>
    refine .other (fun position isAt outside => absurd isAt (notExecute position outside))
      (fun eid rest isAt outside => absurd isAt (notNotify eid rest outside)) fun begun => ?_
    unfold Begun at begun
    cases inside : state.within with
    | nowhere => rfl
    | evaluated eid condition =>
        rw [inside] at begun
        obtain ⟨position, isAt⟩ := begun
        exact absurd isAt (notApplies eid condition position inside)
    | found eid =>
        rw [inside] at begun
        obtain ⟨-, rest, isAt⟩ := begun
        exact absurd isAt (notRemoves eid (eid :: rest) inside)
    | matched eid =>
        rw [inside] at begun
        obtain ⟨-, rest, isAt⟩ := begun
        exact absurd isAt (notEnds eid (eid :: rest) inside)

theorem call_within (notLoop : ∀ input, event ≠ .loop input) : (system setting).step state event =
      (⟨((GreedyScheduler.system setting).step state.scheduler event).1, state.within⟩,
        ((GreedyScheduler.system setting).step state.scheduler event).2) := by
  cases event with
  | loop input => exact absurd rfl (notLoop input)
  | _ => rfl

theorem call_kept (notLoop : ∀ input, event ≠ .loop input) :
    ((GreedyScheduler.system setting).step scheduler event).1.eventWaiting =
        scheduler.eventWaiting ∧
      (scheduler.phase ≠ .idle ∧ scheduler.phase ≠ .stopped →
        ((GreedyScheduler.system setting).step scheduler event).1.phase = scheduler.phase) := by
  cases event with
  | loop input => exact absurd rfl (notLoop input)
  | stop => exact ⟨rfl, fun _ => rfl⟩
  | runAsync =>
      simp only [GreedyScheduler.system, runAsyncAbi]
      split
      next isAt => exact ⟨rfl, fun others => absurd isAt others.1⟩
      next isAt => exact ⟨rfl, fun others => absurd isAt others.2⟩
      next => exact ⟨rfl, fun _ => rfl⟩
  | eventNotify eid kind =>
      simp only [GreedyScheduler.system, eventNotifyAbi]
      split <;> exact ⟨rfl, fun _ => rfl⟩
  | schedule eid lookup =>
      simp only [GreedyScheduler.system, scheduleAbi]
      (repeat' split) <;> exact ⟨rfl, fun _ => rfl⟩
  | unschedule eid lookup =>
      simp only [GreedyScheduler.system, unscheduleAbi]
      (repeat' split) <;> exact ⟨rfl, fun _ => rfl⟩

theorem Begun.step (begun : Begun state) (event : Event) :
    Begun ((system setting).step state event).1 := by
  by_cases isLoop : ∃ input, event = .loop input
  · obtain ⟨input, rfl⟩ := isLoop
    have advances : Advances setting state input ((system setting).step state (.loop input)) :=
      advance_cases setting state input
    revert advances
    generalize (system setting).step state (.loop input) = answer
    intro advances
    cases advances with
    | judges position within report outside isAt judged =>
        unfold evaluate at judged
        split at judged
        next => cases judged
        next =>
          (repeat' split at judged) <;> cases judged <;> exact ⟨position, isAt⟩
    | applies | ends | other => trivial
    | finds eid rest outside isAt waits => exact ⟨of_decide_eq_true waits, rest, isAt⟩
    | removes eid notifications inside isAt =>
        rw [Begun, inside] at begun
        exact begun
  · obtain ⟨sameWaiting, samePhase⟩ := @call_kept setting state.scheduler event
      (not_exists.mp isLoop)
    rw [call_within (not_exists.mp isLoop)]
    unfold Begun at begun ⊢
    dsimp only
    rw [sameWaiting]
    split
    next => trivial
    next inside =>
      rw [inside] at begun
      obtain ⟨position, isAt⟩ := begun
      exact ⟨position, (samePhase (by simp [isAt])).trans isAt⟩
    all_goals
      next inside =>
        rw [inside] at begun
        obtain ⟨waits, rest, isAt⟩ := begun
        exact ⟨waits, rest, (samePhase (by simp [isAt])).trans isAt⟩

theorem finishMatch_kept (notifications : List Uid) :
    (finishMatch scheduler notifications).1.unscheduleEntities = scheduler.unscheduleEntities ∧
      (finishMatch scheduler notifications).1.eventNotified = scheduler.eventNotified ∧
      (finishMatch scheduler notifications).1.stopping = scheduler.stopping ∧
      (finishMatch scheduler notifications).1.entityMutexMap = scheduler.entityMutexMap := by
  cases notifications with
  | nil => exact ⟨rfl, rfl, rfl, rfl⟩
  | cons eid rest =>
      unfold finishMatch processNotification
      dsimp only
      split
      next => cases emplaceBack scheduler.activeEntities eid <;> exact ⟨rfl, rfl, rfl, rfl⟩
      next => exact ⟨rfl, rfl, rfl, rfl⟩

theorem applyCondition_with (unscheduleEntities eventNotified : EventList Uid) (stopping : Bool)
    (newEntities : List Uid) (entityMutexMap : Finset Uid) (position : Nat)
    (condition : Except GxfResult SchedulingCondition) :
    { scheduler with
        unscheduleEntities, eventNotified, stopping, newEntities, entityMutexMap }.applyCondition
          position eid condition =
      { scheduler.applyCondition position eid condition with
        unscheduleEntities, eventNotified, stopping, newEntities, entityMutexMap } := by
  unfold applyCondition
  dsimp only
  split
  next => rfl
  next => split <;> first | rfl | (split <;> rfl)

theorem applyCondition_kept (position : Nat) (condition : Except GxfResult SchedulingCondition) :
    { scheduler.applyCondition position eid condition with
        unscheduleEntities := scheduler.unscheduleEntities
        eventNotified := scheduler.eventNotified
        stopping := scheduler.stopping
        newEntities := scheduler.newEntities
        entityMutexMap := scheduler.entityMutexMap } =
      scheduler.applyCondition position eid condition :=
  (applyCondition_with _ _ _ _ _ position condition).symm

/-! ## Notifications that arrive after the evaluation -/

/-- The entity that a call notifies of an external event. -/
def notifies : Event → Option Uid
  | .eventNotify eid .GXF_EVENT_EXTERNAL => some eid
  | _ => none

/-- The entities that were notified after the evaluation that let them wait. -/
def freshen (state : Matching) (fresh : List Uid) (event : Event) (report : Report) : List Uid :=
  (notifies event).toList ++ fresh.filter fun eid =>
    report ≠ .executed eid ∨ state.scheduler.eventWaiting.hasEvent eid

/-- The scheduler with the entities that were notified. -/
def noticed (setting : Setting) : System (Matching × List Uid) Event Report where
  step pair event :=
    let answer := (system setting).step pair.1 event
    ((answer.1, freshen pair.1 pair.2 event answer.2), answer.2)

/-- A notification is stored as long as its entity is going to wait or waits, except in the middle
of its match. -/
structure Noticed (pair : Matching × List Uid) : Prop where
  begun : Begun pair.1
  kept : ∀ eid ∈ pair.2, eid ∈ pair.1.scheduler.eventWaiting.list ∨ pair.1.within.parks = some eid →
      eid ∈ pair.1.scheduler.eventNotified.list ∨ pair.1.within = .matched eid

theorem applyCondition_waiting (position : Nat) (evaluated : Uid)
    (condition : Except GxfResult SchedulingCondition)
    (waits : eid ∈ (scheduler.applyCondition position evaluated condition).eventWaiting.list) :
    eid ∈ scheduler.eventWaiting.list ∨
      (Within.evaluated evaluated condition).parks = some eid := by
  unfold applyCondition at waits
  dsimp only at waits
  split at waits
  next => exact .inl waits
  next condition =>
    cases isType : condition.type with
    | WAIT_EVENT =>
        have pushed : eid ∈ (scheduler.eventWaiting.pushEvent evaluated).list := by
          rw [isType] at waits
          dsimp only at waits
          split at waits <;> exact waits
        refine (mem_pushEvent.mp pushed).imp_right fun same => ?_
        rw [Within.parks, if_pos isType, same]
    | _ =>
        left
        rw [isType] at waits
        dsimp only at waits
        first | exact waits | (split at waits <;> exact waits)

theorem parks_evaluate {position : Nat} {within : Within} {report : Report}
    (judged : evaluate scheduler position input = some (within, report))
    (parks : within.parks = some eid) : report = .executed eid := by
  unfold evaluate at judged
  split at judged
  next => cases judged
  next =>
    split at judged
    next => cases judged
    next =>
      split at judged
      next =>
        cases judged
        cases parks
      next =>
        obtain ⟨rfl, rfl⟩ := Prod.mk.inj (Option.some.inj judged)
        unfold Within.parks at parks
        split at parks
        next same =>
          obtain ⟨rfl, -⟩ := Within.evaluated.inj same
          split at parks
          next => rw [Option.some.inj parks]
          next => cases parks
        next => cases parks

theorem advance_events (notJudged : ∀ position, scheduler.phase = .execute position →
      evaluate scheduler position input = none)
    (notFound : ∀ eid rest, scheduler.phase = .notify (eid :: rest) →
      scheduler.eventWaiting.hasEvent eid = false) :
    (scheduler.advance setting input).1.eventWaiting = scheduler.eventWaiting ∧
      (scheduler.advance setting input).1.eventNotified = scheduler.eventNotified := by
  cases isAt : scheduler.phase with
  | execute position =>
      have none := notJudged position isAt
      unfold evaluate at none
      simp only [GreedyScheduler.advance, isAt, executeNext]
      split
      next => exact ⟨rfl, rfl⟩
      next eid isNext =>
        rw [isNext] at none
        dsimp only at none
        split
        next => exact ⟨rfl, rfl⟩
        next known =>
          rw [if_neg known] at none
          split at none <;> cases none
  | notify notifications =>
      cases notifications with
      | nil =>
          simp only [GreedyScheduler.advance, isAt, processNotification]
          exact ⟨trivial, trivial⟩
      | cons eid rest =>
          simp only [GreedyScheduler.advance, isAt, processNotification, notFound eid rest isAt]
          exact ⟨rfl, rfl⟩
  | idle | stopped | crashed =>
      simp only [GreedyScheduler.advance, isAt]
      exact ⟨trivial, trivial⟩
  | load =>
      simp only [GreedyScheduler.advance, isAt, loadEntities]
      split <;> exact ⟨rfl, rfl⟩
  | check =>
      simp only [GreedyScheduler.advance, isAt, checkTermination]
      (repeat' split) <;> exact ⟨rfl, rfl⟩
  | absorb | remove =>
      simp only [GreedyScheduler.advance, isAt]
      exact ⟨rfl, rfl⟩
  | unschedule =>
      simp only [GreedyScheduler.advance, isAt, processRequest]
      split <;> exact ⟨rfl, rfl⟩
  | finish =>
      simp only [GreedyScheduler.advance, isAt, finishIteration]
      (repeat' split) <;> exact ⟨rfl, rfl⟩
  | sleep =>
      simp only [GreedyScheduler.advance, isAt, wakeUp]
      split <;> exact ⟨rfl, rfl⟩

theorem call_notified (notLoop : ∀ input, event ≠ .loop input) :
    (∀ eid ∈ scheduler.eventNotified.list,
      eid ∈ ((GreedyScheduler.system setting).step scheduler event).1.eventNotified.list) ∧
    ∀ eid, notifies event = some eid →
      eid ∈ ((GreedyScheduler.system setting).step scheduler event).1.eventNotified.list := by
  cases event with
  | loop input => exact absurd rfl (notLoop input)
  | stop => exact ⟨fun _ => id, nofun⟩
  | runAsync =>
      simp only [GreedyScheduler.system, runAsyncAbi]
      split <;> exact ⟨fun _ => id, nofun⟩
  | eventNotify eid kind =>
      cases kind with
      | GXF_EVENT_EXTERNAL =>
          refine ⟨fun other notified => mem_pushEvent.mpr (.inl notified), ?_⟩
          rintro _ ⟨⟩
          exact mem_pushEvent.mpr (.inr rfl)
      | _ => exact ⟨fun _ => id, nofun⟩
  | schedule eid lookup =>
      simp only [GreedyScheduler.system, scheduleAbi]
      (repeat' split) <;> exact ⟨fun _ => id, nofun⟩
  | unschedule eid lookup =>
      simp only [GreedyScheduler.system, unscheduleAbi]
      (repeat' split) <;> exact ⟨fun _ => id, nofun⟩

theorem finishMatch_waiting {rest : List Uid} (waits : eid ∈ scheduler.eventWaiting.list) :
    (finishMatch scheduler (eid :: rest)).1.eventWaiting =
    scheduler.eventWaiting.removeEvent eid := by
  simp only [finishMatch, processNotification, hasEvent, decide_eq_true waits, if_true]
  split <;> rfl

theorem finishMatch_phase {rest : List Uid} (waits : eid ∈ scheduler.eventWaiting.list) :
    (finishMatch scheduler (eid :: rest)).1.phase =
      if (emplaceBack scheduler.activeEntities eid).isSome then .notify rest else .stopped := by
  simp only [finishMatch, processNotification, hasEvent, decide_eq_true waits, if_true]
  cases emplaceBack scheduler.activeEntities eid <;> rfl

theorem Noticed.step {pair : Matching × List Uid} (noticed : Noticed pair) (event : Event) :
    Noticed ((Matching.noticed setting).step pair event).1 := by
  obtain ⟨state, fresh⟩ := pair
  obtain ⟨begun, kept⟩ := noticed
  refine ⟨begun.step event, ?_⟩
  by_cases isLoop : ∃ input, event = .loop input
  · obtain ⟨input, rfl⟩ := isLoop
    have advances : Advances setting state input ((system setting).step state (.loop input)) :=
      advance_cases setting state input
    simp only [Matching.noticed]
    revert advances
    generalize (system setting).step state (.loop input) = answer
    intro advances eid isFresh waits
    obtain ⟨wasFresh, evaluated⟩ := List.mem_filter.mp isFresh
    rw [decide_eq_true_eq] at evaluated
    have kept := kept eid wasFresh
    cases advances with
    | judges position within report outside isAt judged =>
        have waited : eid ∈ state.scheduler.eventWaiting.list := by
          obtain before | parks := waits
          · exact before
          · have reported := parks_evaluate judged parks
            exact of_decide_eq_true (evaluated.resolve_left (not_not.mpr reported))
        exact .inl ((kept (.inl waited)).resolve_right (by simp [outside]))
    | applies position other condition inside isAt =>
        have waited := applyCondition_waiting position other condition (waits.resolve_right nofun)
        rw [← inside] at waited
        left
        dsimp only
        rw [← @applyCondition_kept state.scheduler other position condition]
        exact (kept waited).resolve_right (by simp [inside])
    | finds other rest outside isAt isWaiting =>
        exact .inl ((kept (waits.imp_right nofun)).resolve_right (by simp [outside]))
    | removes other notifications inside isAt =>
        by_cases same : eid = other
        · exact .inr (congrArg Within.matched same.symm)
        · refine .inl (mem_removeEvent.mpr ⟨?_, same⟩)
          exact (kept (waits.imp_right nofun)).resolve_right (by simp [inside])
    | ends other notifications inside isAt =>
        rw [Begun, inside] at begun
        obtain ⟨isWaiting, rest, isNext⟩ := begun
        cases isAt.symm.trans isNext
        left
        have waits := waits.resolve_right nofun
        dsimp only at waits ⊢
        rw [finishMatch_waiting isWaiting, mem_removeEvent] at waits
        rw [(finishMatch_kept _).2.1]
        refine (kept (.inl waits.1)).resolve_right fun same => waits.2 ?_
        cases same.symm.trans inside
        rfl
    | other notJudged notFound outside =>
        have outside := outside begun
        obtain ⟨waiting, notified⟩ := @advance_events setting state.scheduler input
          (fun position isAt => notJudged position isAt outside)
          fun other rest isAt => notFound other rest isAt outside
        left
        have waits := waits.resolve_right nofun
        dsimp only at waits ⊢
        rw [notified]
        rw [waiting] at waits
        exact (kept (.inl waits)).resolve_right (by simp [outside])
  · have isCall := not_exists.mp isLoop
    simp only [Matching.noticed, call_within isCall]
    intro eid isFresh waits
    obtain ⟨stored, brings⟩ := @call_notified setting state.scheduler event isCall
    rw [(@call_kept setting state.scheduler event isCall).1] at waits
    obtain now | earlier := List.mem_append.mp isFresh
    · exact .inl (brings eid (Option.mem_toList.mp now))
    · exact (kept eid (List.mem_filter.mp earlier).1 waits).imp_left (stored eid)

/-! ## Matching -/

/-- The entity that a step makes active again. -/
def handedBack (state : Matching) (event : Event) : List Uid :=
  match event, state.within with
  | .loop _, .matched eid =>
      if (emplaceBack state.scheduler.activeEntities eid).isSome then [eid] else []
  | _, _ => []

/-- An entity that waits is matched in the pass that begins or goes on, or the loop has ended. -/
inductive Underway (state : Matching) (eid : Uid) : Prop where
  | exporting (isAt : state.scheduler.phase = .unschedule)
      (waits : eid ∈ state.scheduler.eventWaiting.list)
      (notified : eid ∈ state.scheduler.eventNotified.list)
  | comparing (notifications : List Uid) (isAt : state.scheduler.phase = .notify notifications)
      (remains : eid ∈ notifications) (waits : eid ∈ state.scheduler.eventWaiting.list)
  | ended (isAt : state.scheduler.phase = .stopped ∨ state.scheduler.phase = .crashed)

theorem call_phase (notLoop : ∀ input, event ≠ .loop input) (notStart : event ≠ .runAsync) :
    ((GreedyScheduler.system setting).step scheduler event).1.phase = scheduler.phase := by
  cases event with
  | loop input => exact absurd rfl (notLoop input)
  | runAsync => exact absurd rfl notStart
  | stop => rfl
  | eventNotify eid kind =>
      simp only [GreedyScheduler.system, eventNotifyAbi]
      split <;> rfl
  | schedule eid lookup =>
      simp only [GreedyScheduler.system, scheduleAbi]
      (repeat' split) <;> rfl
  | unschedule eid lookup =>
      simp only [GreedyScheduler.system, unscheduleAbi]
      (repeat' split) <;> rfl

theorem Underway.step_call (underway : state.Underway eid) (notLoop : ∀ input, event ≠ .loop input)
    (notStart : event ≠ .runAsync) : ((system setting).step state event).1.Underway eid := by
  have samePhase := @call_phase setting state.scheduler event notLoop notStart
  have sameWaiting := (@call_kept setting state.scheduler event notLoop).1
  rw [call_within notLoop]
  cases underway with
  | exporting isAt waits notified =>
      exact .exporting (samePhase.trans isAt) (sameWaiting ▸ waits)
        ((call_notified notLoop).1 eid notified)
  | comparing notifications isAt remains waits =>
      exact .comparing notifications (samePhase.trans isAt) remains (sameWaiting ▸ waits)
  | ended isAt => exact .ended (isAt.imp samePhase.trans samePhase.trans)

theorem Underway.step_loop (underway : state.Underway eid) (begun : Begun state) :
    ((system setting).step state (.loop input)).1.Underway eid ∨
      eid ∈ state.handedBack (.loop input) := by
  have advances : Advances setting state input ((system setting).step state (.loop input)) :=
    advance_cases setting state input
  revert advances
  generalize (system setting).step state (.loop input) = answer
  intro advances
  cases underway with
  | exporting isAt waits notified =>
      left
      cases advances with
      | judges _ _ _ _ isOther => cases isAt.symm.trans isOther
      | applies _ _ _ _ isOther => cases isAt.symm.trans isOther
      | finds _ _ _ isOther => cases isAt.symm.trans isOther
      | removes _ _ _ isOther => cases isAt.symm.trans isOther
      | ends _ _ _ isOther => cases isAt.symm.trans isOther
      | other =>
          simp only [GreedyScheduler.advance, isAt, processRequest]
          split
          next => exact .comparing state.scheduler.eventNotified.exportList rfl notified waits
          next other requests _ =>
            cases (eraseActive other state.scheduler.activeEntities.length 0
              state.scheduler.activeEntities state.scheduler.entityMutexMap).2.2 with
            | true => exact .exporting rfl waits notified
            | false => exact .ended (.inr rfl)
  | comparing notifications isAt remains waits =>
      cases advances with
      | judges _ _ _ _ isOther | applies _ _ _ _ isOther => cases isAt.symm.trans isOther
      | finds | removes => exact .inl (.comparing notifications isAt remains waits)
      | ends other _ inside isOther =>
          rw [Begun, inside] at begun
          obtain ⟨isWaiting, rest, isNext⟩ := begun
          cases isAt.symm.trans isNext
          cases isAt.symm.trans isOther
          have phase := @finishMatch_phase _ _ rest isWaiting
          cases room : emplaceBack state.scheduler.activeEntities other with
          | none =>
              rw [room, Option.isSome_none, if_neg Bool.false_ne_true] at phase
              exact .inl (.ended (.inl phase))
          | some active =>
              rw [room, Option.isSome_some, if_pos rfl] at phase
              by_cases same : eid = other
              · right
                simp only [handedBack, inside, room, Option.isSome_some, if_true, same,
                  List.mem_singleton]
              · refine .inl (.comparing rest phase ((List.mem_cons.mp remains).resolve_left same)
                  ?_)
                rw [finishMatch_waiting isWaiting, mem_removeEvent]
                exact ⟨waits, same⟩
      | other _ notFound outside =>
          left
          cases notifications with
          | nil => cases remains
          | cons other rest =>
              have notWaiting := notFound other rest isAt (outside begun)
              obtain rfl | later := List.mem_cons.mp remains
              · exact absurd waits (of_decide_eq_false notWaiting)
              · simp only [GreedyScheduler.advance, isAt, processNotification, notWaiting]
                exact .comparing rest rfl later waits
  | ended isAt =>
      left
      cases advances with
      | judges _ _ _ _ isOther => simp [isOther] at isAt
      | applies _ _ _ _ isOther => simp [isOther] at isAt
      | finds _ _ _ isOther => simp [isOther] at isAt
      | removes _ _ _ isOther => simp [isOther] at isAt
      | ends _ _ _ isOther => simp [isOther] at isAt
      | other =>
          have same : state.scheduler.advance setting input = (state.scheduler, .blocked) := by
            obtain stopped | crashed := isAt
            · simp only [GreedyScheduler.advance, stopped]
            · simp only [GreedyScheduler.advance, crashed]
          rw [same]
          exact .ended isAt

theorem Underway.pass (events : List Event) (noStart : ∀ event ∈ events, event ≠ .runAsync)
    (underway : state.Underway eid) (begun : Begun state) :
    ((system setting).run state events).Underway eid ∨
      eid ∈ (system setting).gather handedBack state events := by
  induction events generalizing state with
  | nil => exact .inl underway
  | cons event rest ih =>
      obtain ⟨notStart, later⟩ := List.forall_mem_cons.mp noStart
      have next : ((system setting).step state event).1.Underway eid ∨
          eid ∈ state.handedBack event := by
        by_cases isLoop : ∃ input, event = .loop input
        · obtain ⟨input, rfl⟩ := isLoop
          exact underway.step_loop begun
        · exact .inl (underway.step_call (not_exists.mp isLoop) notStart)
      obtain still | handed := next
      · exact (ih later still (begun.step event)).imp_right (List.mem_append_right _)
      · exact .inr (List.mem_append_left _ handed)

theorem kept_until_matched (setting : Setting) (events : List Event) :
    let pair := (Matching.noticed setting).run (start, []) events
    ∀ eid ∈ pair.2, eid ∈ pair.1.scheduler.eventWaiting.list →
      (eid ∈ pair.1.scheduler.eventNotified.list ∨ pair.1.within = .matched eid) ∧
      (pair.1.scheduler.phase = .unschedule → ∀ pass, (∀ event ∈ pass, event ≠ .runAsync) →
        ((system setting).run pair.1 pass).scheduler.phase = .remove →
          eid ∈ (system setting).gather handedBack pair.1 pass) := by
  intro pair eid isFresh waits
  have noticed : Noticed pair :=
    System.invariant_run_of_forall (fun _ event noticed => noticed.step event)
      ⟨trivial, fun _ => nofun⟩ events
  have kept := noticed.kept eid isFresh (.inl waits)
  refine ⟨kept, fun isAt pass noStart isOver => ?_⟩
  have notMatched : pair.1.within ≠ .matched eid := by
    intro inside
    have begun := noticed.begun
    rw [Begun, inside] at begun
    obtain ⟨-, rest, isNext⟩ := begun
    cases isAt.symm.trans isNext
  have underway : pair.1.Underway eid := .exporting isAt waits (kept.resolve_right notMatched)
  refine (underway.pass pass noStart noticed.begun).resolve_left fun still => ?_
  cases still with
  | exporting isNext => cases isOver.symm.trans isNext
  | comparing _ isNext => cases isOver.symm.trans isNext
  | ended isNext =>
      rw [isOver] at isNext
      simp at isNext

end Matching

end GreedyScheduler

end Gxf.Std
