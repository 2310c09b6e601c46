import Gxf.Std.EpochScheduler.Scheduler

/-!
# Unscheduling

After `unschedule_abi(eid)` has succeeded, the epoch leaves the entity alone until it is
scheduled again.  The exception is an unscheduling between the copy of a condition and the
lock of the mutex of the entity: the epoch decides on the copy.
-/

namespace Gxf.Std.EpochScheduler

open Gxf.Core Gxf.Lib

/-- The entities that were unscheduled and not scheduled since, and those that were executed
since the epoch last began to go over the active entities. -/
structure Trail where
  unscheduled : List Uid
  executed : List Uid
  deriving DecidableEq, Repr

/-- What a report adds. -/
def Trail.observe (trail : Trail) : Report → Trail
  | .unscheduled eid code =>
      if code = .GXF_SUCCESS then { trail with unscheduled := eid :: trail.unscheduled } else trail
  | .scheduled eid _ => { trail with unscheduled := trail.unscheduled.filter (· ≠ eid) }
  | .passing => { trail with executed := [] }
  | .executed eid => { trail with executed := trail.executed ++ [eid] }
  | .blocked | .returned _ | .progressed => trail

/-- A report that neither ends a call of `schedule_abi` or `unschedule_abi` nor says that an
entity is executed. -/
def Report.isSilent : Report → Bool
  | .blocked | .passing | .returned _ | .progressed => true
  | .scheduled .. | .unscheduled .. | .executed _ => false

theorem observe_of_isSilent {trail : Trail} {report : Report} (silent : report.isSilent = true) :
    (trail.observe report).unscheduled = trail.unscheduled := by
  cases report with
  | blocked | passing | returned | progressed => rfl
  | scheduled | unscheduled | executed => cases silent

/-- The scheduler with a trail. -/
def observed (hasCodelets : Uid → Except GxfResult Bool) :
    System (EpochScheduler × Trail) Op Report :=
  (system hasCodelets).recorded fun trail _ => trail.observe

/-- A step leaves unscheduled entities alone: it does not execute one, and its stored
condition stays `NEVER`. -/
structure LeavesAlone (hasCodelets : Uid → Except GxfResult Bool)
    (state : EpochScheduler × Trail) (op : Op) : Prop where
  executed : ∀ eid, ((observed hasCodelets).step state op).2 = .executed eid →
    eid ∉ state.2.unscheduled
  condition : ∀ eid ∈ ((observed hasCodelets).step state op).1.2.unscheduled,
    ∀ condition ∈ ((observed hasCodelets).step state op).1.1.entityConditions eid,
      condition.type = .NEVER

/-- When the epoch locks the mutex of an entity of which it copied a condition other than
`NEVER`, the stored one is not `NEVER` either. -/
def Fresh (state : EpochScheduler × Trail) : Op → Prop
  | .epoch _ => ∀ index eid condition, state.1.phase = .enter index eid condition →
      condition.type ≠ .NEVER → (state.1.condition eid).type ≠ .NEVER
  | .schedule _ | .scheduleAgain _ | .unschedule _ | .unscheduleAgain _ | .eventNotify ..
  | .runAsync | .stop | .runEpoch _ => True

/-- Whether the epoch relies on the condition of an entity in a phase. -/
def Phase.relies : Phase → Bool
  | .enter .. | .executing .. => true
  | .idle | .head | .events _ | .notify .. | .copy _ | .sweep | .finish | .crashed => false

/-! ## The invariant -/

/-- The promises to callers of `unschedule_abi` are kept. -/
structure Promised (hasCodelets : Uid → Except GxfResult Bool) (scheduler : EpochScheduler)
    (unscheduled : List Uid) : Prop where
  never : ∀ eid ∈ unscheduled, ∀ condition ∈ scheduler.entityConditions eid, condition.type = .NEVER
  known : ∀ eid, (scheduler.entityConditions eid).isSome = true → hasCodelets eid = .ok true
  pending : ∀ eid ∈ scheduler.scheduling ++ scheduler.unscheduling, hasCodelets eid = .ok true
  /-- A copy that is out of date is one of an entity unscheduled since. -/
  entering : ∀ index eid condition, scheduler.phase = .enter index eid condition →
    (scheduler.entityConditions eid).isSome = true ∧
      (condition.type ≠ .NEVER → (scheduler.condition eid).type = .NEVER → eid ∈ unscheduled)
  executing : ∀ index eid, scheduler.phase = .executing index eid →
    (scheduler.entityConditions eid).isSome = true ∧ eid ∉ unscheduled

variable {hasCodelets : Uid → Except GxfResult Bool} {scheduler next : EpochScheduler}
  {unscheduled : List Uid} {eid : Uid}

theorem setCondition_self (scheduler : EpochScheduler) (eid : Uid)
    (condition : SchedulingCondition) :
    (scheduler.setCondition eid condition).entityConditions eid = some condition :=
  Function.update_self ..

theorem setCondition_of_ne (scheduler : EpochScheduler) {other : Uid} (different : other ≠ eid)
    (condition : SchedulingCondition) :
    (scheduler.setCondition eid condition).entityConditions other =
      scheduler.entityConditions other :=
  Function.update_of_ne different ..

theorem activate_fst (scheduler : EpochScheduler) (eid : Uid) :
    ∃ activeEntities, (scheduler.activate eid).1 = { scheduler with activeEntities } := by
  rw [activate]
  split
  next activeEntities _ => exact ⟨activeEntities, rfl⟩
  next => exact ⟨scheduler.activeEntities, rfl⟩

theorem condition_of_isSome (isSome : (scheduler.entityConditions eid).isSome = true) :
    scheduler.entityConditions eid = some (scheduler.condition eid) := by
  obtain ⟨condition, isCondition⟩ := Option.isSome_iff_exists.mp isSome
  rw [EpochScheduler.condition, isCondition]
  rfl

theorem isSome_of_type_ne (notNever : (scheduler.condition eid).type ≠ .NEVER) :
    (scheduler.entityConditions eid).isSome = true := by
  cases isCondition : scheduler.entityConditions eid with
  | none =>
      rw [EpochScheduler.condition, isCondition] at notNever
      exact absurd rfl notNever
  | some condition => rfl

namespace Promised

section

variable (promised : Promised hasCodelets scheduler unscheduled)
include promised

theorem of_same (conditions : next.entityConditions = scheduler.entityConditions)
    (phase : next.phase = scheduler.phase)
    (pending : ∀ eid ∈ next.scheduling ++ next.unscheduling, hasCodelets eid = .ok true) :
    Promised hasCodelets next unscheduled where
  never := conditions ▸ promised.never
  known := conditions ▸ promised.known
  pending := pending
  entering index eid condition isPhase := by
    rw [EpochScheduler.condition, conditions]
    exact promised.entering index eid condition (phase ▸ isPhase)
  executing index eid isPhase := by
    rw [conditions]
    exact promised.executing index eid (phase ▸ isPhase)

theorem scheduled (others : ∀ other, other ≠ eid →
      next.entityConditions other = scheduler.entityConditions other)
    (kept : (scheduler.entityConditions eid).isSome = true →
      (next.entityConditions eid).isSome = true)
    (isKnown : (next.entityConditions eid).isSome = true → hasCodelets eid = .ok true)
    (isScheduled : ∀ condition ∈ next.entityConditions eid, condition.type ≠ .NEVER)
    (phase : next.phase = scheduler.phase)
    (pending : ∀ eid ∈ next.scheduling ++ next.unscheduling, hasCodelets eid = .ok true) :
    Promised hasCodelets next (unscheduled.filter (· ≠ eid)) where
  never other member condition isCondition := by
    obtain ⟨before, different⟩ := List.mem_filter.mp member
    rw [others other (of_decide_eq_true different)] at isCondition
    exact promised.never other before condition isCondition
  known other isSome := by
    by_cases same : other = eid
    · exact same ▸ isKnown (same ▸ isSome)
    · exact promised.known other (others other same ▸ isSome)
  pending := pending
  entering index other condition isPhase := by
    obtain ⟨isSome, stale⟩ := promised.entering index other condition (phase ▸ isPhase)
    by_cases same : other = eid
    · subst same
      refine ⟨kept isSome, fun _ isNever => ?_⟩
      exact absurd isNever (isScheduled _ (condition_of_isSome (kept isSome)))
    · rw [EpochScheduler.condition, others other same]
      refine ⟨isSome, fun notNever isNever => List.mem_filter.mpr ?_⟩
      exact ⟨stale notNever isNever, decide_eq_true same⟩
  executing index other isPhase := by
    obtain ⟨isSome, notMember⟩ := promised.executing index other (phase ▸ isPhase)
    refine ⟨?_, fun member => notMember (List.mem_of_mem_filter member)⟩
    by_cases same : other = eid
    · exact same ▸ kept (same ▸ isSome)
    · exact (others other same).symm ▸ isSome

theorem unschedules (others : ∀ other, other ≠ eid →
      next.entityConditions other = scheduler.entityConditions other)
    (kept : (scheduler.entityConditions eid).isSome = true →
      (next.entityConditions eid).isSome = true)
    (isKnown : (next.entityConditions eid).isSome = true → hasCodelets eid = .ok true)
    (isNever : ∀ condition ∈ next.entityConditions eid, condition.type = .NEVER)
    (notExecuting : ∀ index, scheduler.phase ≠ .executing index eid)
    (phase : next.phase = scheduler.phase)
    (pending : ∀ eid ∈ next.scheduling ++ next.unscheduling, hasCodelets eid = .ok true) :
    Promised hasCodelets next (eid :: unscheduled) where
  never := by
    refine List.forall_mem_cons.mpr ⟨isNever, fun other member condition isCondition => ?_⟩
    by_cases same : other = eid
    · exact isNever condition (same ▸ isCondition)
    · exact promised.never other member condition (others other same ▸ isCondition)
  known other isSome := by
    by_cases same : other = eid
    · exact same ▸ isKnown (same ▸ isSome)
    · exact promised.known other (others other same ▸ isSome)
  pending := pending
  entering index other condition isPhase := by
    obtain ⟨isSome, stale⟩ := promised.entering index other condition (phase ▸ isPhase)
    by_cases same : other = eid
    · subst same
      exact ⟨kept isSome, fun _ _ => List.mem_cons_self ..⟩
    · rw [EpochScheduler.condition, others other same]
      exact ⟨isSome, fun notNever never => List.mem_cons_of_mem _ (stale notNever never)⟩
  executing index other isPhase := by
    obtain ⟨isSome, notMember⟩ := promised.executing index other (phase ▸ isPhase)
    have different : other ≠ eid := fun same =>
      notExecuting index (same ▸ (phase ▸ isPhase))
    rw [others other different, List.mem_cons]
    exact ⟨isSome, fun either => either.elim different notMember⟩

theorem epoch
    (conditions : ∀ other, next.entityConditions other = scheduler.entityConditions other ∨
      (scheduler.entityConditions other).isSome = true ∧ other ∉ unscheduled)
    (free : next.phase.relies = false)
    (scheduling : next.scheduling = scheduler.scheduling)
    (unscheduling : next.unscheduling = scheduler.unscheduling) :
    Promised hasCodelets next unscheduled where
  never other member condition isCondition := by
    rcases conditions other with same | ⟨_, notMember⟩
    · exact promised.never other member condition (same ▸ isCondition)
    · exact absurd member notMember
  known other isSome := by
    rcases conditions other with same | ⟨wasSome, _⟩
    · exact promised.known other (same ▸ isSome)
    · exact promised.known other wasSome
  pending := by
    rw [scheduling, unscheduling]
    exact promised.pending
  entering index eid condition isPhase := by
    rw [isPhase] at free
    cases free
  executing index eid isPhase := by
    rw [isPhase] at free
    cases free

theorem moves (conditions : next.entityConditions = scheduler.entityConditions)
    (free : next.phase.relies = false) (scheduling : next.scheduling = scheduler.scheduling)
    (unscheduling : next.unscheduling = scheduler.unscheduling) :
    Promised hasCodelets next unscheduled :=
  promised.epoch (fun other => .inl (congrFun conditions other)) free scheduling unscheduling

end

end Promised

/-! ## The steps of other threads -/

theorem Promised.eq_none (promised : Promised hasCodelets scheduler unscheduled)
    (noCodelets : hasCodelets eid ≠ .ok true) : scheduler.entityConditions eid = none := by
  cases isCondition : scheduler.entityConditions eid with
  | none => rfl
  | some condition => exact absurd (promised.known eid (isCondition ▸ rfl)) noCodelets

variable {trail : Trail}

section

variable (promised : Promised hasCodelets scheduler trail.unscheduled)
include promised

theorem promised_schedule (eid : Uid) : Promised hasCodelets (scheduler.schedule hasCodelets eid).1
      (trail.observe (scheduler.schedule hasCodelets eid).2).unscheduled := by
  have ignored (noCodelets : hasCodelets eid ≠ .ok true) :
      Promised hasCodelets scheduler (trail.unscheduled.filter (· ≠ eid)) := by
    refine promised.scheduled (fun _ _ => rfl) id (promised.known eid) ?_ rfl promised.pending
    rw [promised.eq_none noCodelets]
    exact fun condition isCondition => by cases isCondition
  rw [schedule]
  cases isKnown : hasCodelets eid with
  | error code => exact ignored (by simp [isKnown])
  | ok hasSome =>
      cases hasSome with
      | false => exact ignored (by simp [isKnown])
      | true =>
          cases isCondition : scheduler.entityConditions eid with
          | none =>
              obtain ⟨activeEntities, activated⟩ :=
                activate_fst (scheduler.setCondition eid ⟨.READY, 0⟩) eid
              simp only [activated]
              refine promised.scheduled
                (fun other different => setCondition_of_ne scheduler different _)
                (fun isSome => by simp [isCondition] at isSome) (fun _ => isKnown) ?_ rfl
                promised.pending
              intro condition isReady
              rw [setCondition_self] at isReady
              cases isReady
              simp
          | some condition =>
              refine promised.of_same rfl rfl ?_
              exact List.forall_mem_cons.mpr ⟨isKnown, promised.pending⟩

theorem promised_reschedule (isKnown : hasCodelets eid = .ok true) :
    Promised hasCodelets (scheduler.reschedule eid).1
      (trail.observe (scheduler.reschedule eid).2).unscheduled := by
  rw [reschedule]
  split
  next notNever =>
    refine promised.scheduled (fun _ _ => rfl) id (promised.known eid) ?_ rfl promised.pending
    intro condition isCondition
    rw [condition_of_isSome (isSome_of_type_ne notNever)] at isCondition
    cases isCondition
    exact notNever
  next =>
    obtain ⟨activeEntities, activated⟩ := activate_fst
      (scheduler.setCondition eid { scheduler.condition eid with type := .READY }) eid
    simp only [activated]
    refine promised.scheduled (fun other different => setCondition_of_ne scheduler different _)
      (fun _ => ?_) (fun _ => isKnown) ?_ rfl promised.pending
    · exact congrArg Option.isSome (setCondition_self scheduler eid _)
    · intro condition isReady
      rw [setCondition_self] at isReady
      cases isReady
      simp

theorem promised_scheduleAgain (eid : Uid) : Promised hasCodelets (scheduler.scheduleAgain eid).1
      (trail.observe (scheduler.scheduleAgain eid).2).unscheduled := by
  rw [scheduleAgain]
  split
  next => exact promised
  next notBlocked =>
    obtain ⟨isPending, _⟩ := not_or.mp notBlocked
    have isKnown : hasCodelets eid = .ok true :=
      promised.pending eid (List.mem_append_left _ (not_not.mp isPending))
    refine promised_reschedule (promised.of_same rfl rfl fun other member => ?_) isKnown
    refine promised.pending other (List.mem_append.mpr ?_)
    exact (List.mem_append.mp member).imp_left List.mem_of_mem_erase

theorem promised_unschedule (eid : Uid) :
    Promised hasCodelets (scheduler.unschedule hasCodelets eid).1
      (trail.observe (scheduler.unschedule hasCodelets eid).2).unscheduled := by
  have ignored (noCodelets : hasCodelets eid ≠ .ok true) :
      Promised hasCodelets scheduler (eid :: trail.unscheduled) := by
    have isNone : scheduler.entityConditions eid = none := promised.eq_none noCodelets
    refine promised.unschedules (fun _ _ => rfl) id (promised.known eid) ?_ ?_ rfl promised.pending
    · rw [isNone]
      exact fun condition isCondition => by cases isCondition
    · intro index isPhase
      have isSome := (promised.executing index eid isPhase).1
      rw [isNone] at isSome
      cases isSome
  rw [unschedule]
  cases isKnown : hasCodelets eid with
  | error code =>
      simp only [Trail.observe]
      split
      next => exact ignored (by simp [isKnown])
      next => exact promised
  | ok hasSome =>
      cases hasSome with
      | false => exact ignored (by simp [isKnown])
      | true =>
          cases isCondition : scheduler.entityConditions eid with
          | none => exact promised
          | some condition =>
              refine promised.of_same rfl rfl fun other member => ?_
              rcases List.mem_append.mp member with inScheduling | inUnscheduling
              · exact promised.pending other (List.mem_append_left _ inScheduling)
              · rcases List.mem_cons.mp inUnscheduling with same | isPending
                · exact same ▸ isKnown
                · exact promised.pending other (List.mem_append_right _ isPending)

theorem promised_unscheduleAgain (eid : Uid) :
    Promised hasCodelets (scheduler.unscheduleAgain eid).1
      (trail.observe (scheduler.unscheduleAgain eid).2).unscheduled := by
  rw [unscheduleAgain]
  split
  next => exact promised
  next notBlocked =>
    obtain ⟨isPending, notHeld⟩ := not_or.mp notBlocked
    have isKnown : hasCodelets eid = .ok true :=
      promised.pending eid (List.mem_append_right _ (not_not.mp isPending))
    have never := setCondition_self (scheduler.resumeUnscheduling eid) eid
      { scheduler.condition eid with type := .NEVER }
    refine promised.unschedules (fun other different => setCondition_of_ne _ different _)
      (fun _ => congrArg Option.isSome never) (fun _ => isKnown) ?_ ?_ rfl ?_
    · intro condition isCondition
      cases never.symm.trans isCondition
      rfl
    · intro index isPhase
      simp [holdsEntity, isPhase] at notHeld
    · intro other member
      refine promised.pending other (List.mem_append.mpr ?_)
      exact (List.mem_append.mp member).imp_right List.mem_of_mem_erase

end

/-! ## The steps of the epoch -/

theorem promised_leave (promised : Promised hasCodelets scheduler unscheduled)
    (result : GxfResult) : Promised hasCodelets (scheduler.leave result).1 unscheduled :=
  promised.moves rfl rfl rfl rfl

theorem promised_processEventRequest (promised : Promised hasCodelets scheduler unscheduled)
    (eid : Uid) (requests : List Uid) :
    Promised hasCodelets (scheduler.processEventRequest eid requests).1 unscheduled := by
  rw [processEventRequest]
  cases isCondition : scheduler.entityConditions eid with
  | none =>
      exact promised.moves rfl rfl rfl rfl
  | some condition =>
      simp only
      split
      next waits =>
        have notMember : eid ∉ unscheduled := by
          intro member
          have isNever := promised.never eid member condition isCondition
          rw [waits] at isNever
          cases isNever
        obtain ⟨activeEntities, activated⟩ := activate_fst
          (scheduler.setCondition eid { condition with type := .READY }) eid
        have conditions (other : Uid) :
            (scheduler.setCondition eid { condition with type := .READY }).entityConditions other =
              scheduler.entityConditions other ∨
            (scheduler.entityConditions other).isSome = true ∧ other ∉ unscheduled := by
          by_cases same : other = eid
          · exact .inr ⟨same ▸ isCondition ▸ rfl, same ▸ notMember⟩
          · exact .inl (setCondition_of_ne scheduler same _)
        rw [activated]
        split <;>
          exact promised.epoch conditions rfl rfl rfl
      next =>
        exact promised.moves rfl rfl rfl rfl

variable {index : Nat} {condition : SchedulingCondition}

section

variable (promised : Promised hasCodelets scheduler unscheduled)
include promised

theorem promised_concludeEntity (isPhase : scheduler.phase = .executing index eid)
    (executed : Except GxfResult SchedulingCondition) :
    Promised hasCodelets (scheduler.concludeEntity index eid executed).1 unscheduled := by
  cases executed with
  | error code => exact promised_leave promised code
  | ok condition =>
      have conditions (other : Uid) :
          (scheduler.setCondition eid condition).entityConditions other =
            scheduler.entityConditions other ∨
          (scheduler.entityConditions other).isSome = true ∧ other ∉ unscheduled := by
        by_cases same : other = eid
        · exact .inr (same ▸ promised.executing index eid isPhase)
        · exact .inl (setCondition_of_ne scheduler same _)
      rw [concludeEntity]
      cases condition.type <;>
        exact promised.epoch conditions rfl rfl rfl

theorem promised_copyCondition (index : Nat) :
    Promised hasCodelets (scheduler.copyCondition index).1 unscheduled := by
  rw [copyCondition]
  split
  next =>
    exact promised.moves rfl rfl rfl rfl
  next eid _ =>
    cases isCondition : scheduler.entityConditions eid with
    | none =>
        exact promised.moves rfl rfl rfl rfl
    | some condition =>
        have isSome : (scheduler.entityConditions eid).isSome = true := by
          rw [isCondition, Option.isSome_some]
        simp only
        refine ⟨promised.never, promised.known, promised.pending, ?_, ?_⟩
        · rintro _ _ _ ⟨⟩
          refine ⟨isSome, fun notNever isNever => ?_⟩
          have stored : scheduler.condition eid = condition := by
            rw [EpochScheduler.condition, isCondition, Option.getD_some]
          exact absurd (stored ▸ isNever) notNever
        · rintro _ _ ⟨⟩

/-- Locking the mutex of an entity whose stored condition is not `NEVER` either. -/
theorem promised_enterEntity (isPhase : scheduler.phase = .enter index eid condition)
    (fresh : condition.type ≠ .NEVER → eid ∉ unscheduled) :
    Promised hasCodelets (scheduler.enterEntity index eid condition).1 unscheduled := by
  rw [enterEntity]
  split
  next =>
    exact promised.moves rfl rfl rfl rfl
  next notNever =>
    refine ⟨promised.never, promised.known, promised.pending, ?_, ?_⟩
    · rintro _ _ _ ⟨⟩
    · rintro _ _ ⟨⟩
      exact ⟨(promised.entering index eid condition isPhase).1, fresh notNever⟩

end

theorem fresh_iff (promised : Promised hasCodelets scheduler trail.unscheduled)
    (isPhase : scheduler.phase = .enter index eid condition) (outside : Outside) :
    Fresh (scheduler, trail) (.epoch outside) ↔
      (condition.type ≠ .NEVER → eid ∉ trail.unscheduled) := by
  obtain ⟨isSome, stale⟩ := promised.entering index eid condition isPhase
  constructor
  · intro fresh notNever member
    exact fresh index eid condition isPhase notNever
      (promised.never eid member _ (condition_of_isSome isSome))
  · intro notMember _ _ _ isEnter notNever isNever
    rw [isPhase] at isEnter
    cases isEnter
    exact notMember notNever (stale notNever isNever)

/-- The epoch calls `executeEntity` under the mutex of the entity, and tells nothing about
calls of other threads. -/
theorem report_epoch (scheduler : EpochScheduler) (outside : Outside) :
    (scheduler.epoch outside).2.isSilent = true ∨
      ∃ index eid condition, scheduler.phase = .enter index eid condition ∧
        condition.type ≠ .NEVER ∧ (scheduler.epoch outside).2 = .executed eid := by
  rw [epoch]
  cases isPhase : scheduler.phase with
  | idle | crashed | sweep => exact .inl rfl
  | head =>
      simp only [loopHead]
      split_ifs <;> exact .inl rfl
  | events requests =>
      cases requests with
      | nil =>
          simp only [processEventRequests]
          split_ifs <;> exact .inl rfl
      | cons eid requests =>
          simp only [processEventRequests]
          split <;> exact .inl rfl
  | notify eid requests =>
      simp only [processEventRequest]
      split
      next => exact .inl rfl
      next => split_ifs <;> exact .inl rfl
  | copy index =>
      simp only [copyCondition]
      split
      next => exact .inl rfl
      next => split <;> exact .inl rfl
  | enter index eid condition =>
      simp only [enterEntity]
      split_ifs with isNever
      next => exact .inl rfl
      next => exact .inr ⟨index, eid, condition, rfl, isNever, rfl⟩
  | executing index eid =>
      cases outside.executed with
      | error code => exact .inl rfl
      | ok condition =>
          simp only [concludeEntity]
          cases condition.type <;> exact .inl rfl
  | finish =>
      simp only [finishPass]
      split_ifs <;> exact .inl rfl

theorem observe_epoch (scheduler : EpochScheduler) (trail : Trail) (outside : Outside) :
    (trail.observe (scheduler.epoch outside).2).unscheduled = trail.unscheduled := by
  rcases report_epoch scheduler outside with silent | ⟨_, _, _, _, _, executed⟩
  · exact observe_of_isSilent silent
  · rw [executed]
    rfl

theorem promised_epoch (promised : Promised hasCodelets scheduler trail.unscheduled)
    {outside : Outside} (fresh : Fresh (scheduler, trail) (.epoch outside)) :
    Promised hasCodelets (scheduler.epoch outside).1 trail.unscheduled := by
  rw [epoch]
  cases isPhase : scheduler.phase with
  | idle | crashed => exact promised
  | head =>
      simp only [loopHead]
      split_ifs <;>
        exact promised.moves rfl rfl rfl rfl
  | events requests =>
      cases requests with
      | nil =>
          simp only [processEventRequests]
          split_ifs <;>
            exact promised.moves rfl rfl rfl rfl
      | cons eid requests =>
          simp only [processEventRequests]
          split <;>
            exact promised.moves rfl rfl rfl rfl
  | notify eid requests => exact promised_processEventRequest promised eid requests
  | copy index => exact promised_copyCondition promised index
  | enter index eid condition =>
      exact promised_enterEntity promised isPhase ((fresh_iff promised isPhase outside).mp fresh)
  | executing index eid => exact promised_concludeEntity promised isPhase outside.executed
  | sweep =>
      exact promised.moves rfl rfl rfl rfl
  | finish =>
      simp only [finishPass]
      split_ifs <;>
        exact promised.moves rfl rfl rfl rfl

/-- What holds between the steps of a run. -/
def Reliable (hasCodelets : Uid → Except GxfResult Bool) (state : EpochScheduler × Trail) : Prop :=
  Promised hasCodelets state.1 state.2.unscheduled

variable {state : EpochScheduler × Trail} {op : Op}

theorem reliable_step (reliable : Reliable hasCodelets state) (fresh : Fresh state op) :
    Reliable hasCodelets ((observed hasCodelets).step state op).1 := by
  cases op with
  | schedule eid => exact promised_schedule reliable eid
  | scheduleAgain eid => exact promised_scheduleAgain reliable eid
  | unschedule eid => exact promised_unschedule reliable eid
  | unscheduleAgain eid => exact promised_unscheduleAgain reliable eid
  | eventNotify eid event =>
      change Promised hasCodelets (state.1.eventNotify eid event).1
        (state.2.observe (state.1.eventNotify eid event).2).unscheduled
      rw [eventNotify]
      split_ifs <;> exact reliable.of_same rfl rfl reliable.pending
  | runAsync =>
      change Promised hasCodelets state.1.runAsync.1
        (state.2.observe state.1.runAsync.2).unscheduled
      rw [runAsync]
      split_ifs <;> exact reliable.of_same rfl rfl reliable.pending
  | stop => exact reliable.of_same rfl rfl reliable.pending
  | runEpoch budgeted =>
      change Promised hasCodelets (state.1.runEpoch budgeted).1
        (state.2.observe (state.1.runEpoch budgeted).2).unscheduled
      rw [runEpoch]
      split_ifs
      next => exact reliable
      next => exact reliable.moves rfl rfl rfl rfl
  | epoch outside =>
      change Promised hasCodelets (state.1.epoch outside).1
        (state.2.observe (state.1.epoch outside).2).unscheduled
      rw [observe_epoch]
      exact promised_epoch reliable fresh

theorem enter_of_executed (executed : ((system hasCodelets).step scheduler op).2 = .executed eid) :
    ∃ outside index condition, op = .epoch outside ∧
      scheduler.phase = .enter index eid condition ∧ condition.type ≠ .NEVER := by
  cases op with
  | schedule other =>
      change (scheduler.schedule hasCodelets other).2 = _ at executed
      rw [schedule] at executed
      split at executed
      next => cases executed
      next => cases executed
      next => split at executed <;> cases executed
  | scheduleAgain other =>
      change (scheduler.scheduleAgain other).2 = _ at executed
      simp only [scheduleAgain, reschedule] at executed
      split_ifs at executed
  | unschedule other =>
      change (scheduler.unschedule hasCodelets other).2 = _ at executed
      rw [unschedule] at executed
      split at executed
      next => cases executed
      next => cases executed
      next => split at executed <;> cases executed
  | unscheduleAgain other =>
      change (scheduler.unscheduleAgain other).2 = _ at executed
      rw [unscheduleAgain] at executed
      split_ifs at executed
  | eventNotify other event =>
      change (scheduler.eventNotify other event).2 = _ at executed
      rw [eventNotify] at executed
      split_ifs at executed
  | runAsync =>
      change scheduler.runAsync.2 = _ at executed
      rw [runAsync] at executed
      split_ifs at executed
  | stop => cases executed
  | runEpoch budgeted =>
      change (scheduler.runEpoch budgeted).2 = _ at executed
      rw [runEpoch] at executed
      split_ifs at executed
  | epoch outside =>
      change (scheduler.epoch outside).2 = _ at executed
      rcases report_epoch scheduler outside with silent | ⟨index, _, condition, isPhase, notNever,
        same⟩
      · rw [executed] at silent
        cases silent
      · cases executed.symm.trans same
        exact ⟨outside, index, condition, rfl, isPhase, notNever⟩

theorem leavesAlone_iff (reliable : Reliable hasCodelets state) (op : Op) :
    LeavesAlone hasCodelets state op ↔ Fresh state op := by
  constructor
  · intro leavesAlone
    cases op with
    | epoch outside =>
        intro index eid condition isPhase
        refine (fresh_iff reliable isPhase outside).mpr (fun notNever => ?_) index eid condition
          isPhase
        apply leavesAlone.executed
        change (state.1.epoch outside).2 = _
        rw [epoch, isPhase]
        simp only [enterEntity, if_neg notNever]
    | _ => exact trivial
  · intro fresh
    refine ⟨fun eid executed => ?_, (reliable_step reliable fresh).never⟩
    obtain ⟨outside, index, condition, rfl, isPhase, notNever⟩ := enter_of_executed executed
    exact (fresh_iff reliable isPhase outside).mp fresh notNever

theorem reliable_init (hasCodelets : Uid → Except GxfResult Bool) :
    Reliable hasCodelets (init, ⟨[], []⟩) := by
  refine ⟨?_, ?_, ?_, ?_, ?_⟩
  · exact fun eid member => by cases member
  · exact fun eid isSome => by cases isSome
  · exact fun eid member => by cases member
  · rintro _ _ _ ⟨⟩
  · rintro _ _ ⟨⟩

/-- In every interleaving, the epoch leaves unscheduled entities alone exactly as long as
all its copies are fresh. -/
theorem run_leaves_alone_iff (hasCodelets : Uid → Except GxfResult Bool) (ops : List Op) :
    (observed hasCodelets).Along (LeavesAlone hasCodelets) (init, ⟨[], []⟩) ops ↔
      (observed hasCodelets).Along Fresh (init, ⟨[], []⟩) ops :=
  System.along_iff_guarded
    (fun state op (reliable : Reliable hasCodelets state) (fresh : Fresh state op) =>
      reliable_step reliable fresh)
    (fun _ op reliable => leavesAlone_iff reliable op) (reliable_init hasCodelets) ops

/-- Unscheduled between the copy of its condition and the lock of its mutex, an entity is
executed. -/
theorem unscheduled_is_executed :
    ¬(observed fun _ => .ok true).Along (LeavesAlone fun _ => .ok true) (init, ⟨[], []⟩)
      [.runAsync, .schedule 1, .runEpoch false, .epoch ⟨false, .ok ⟨.READY, 0⟩⟩,
        .epoch ⟨false, .ok ⟨.READY, 0⟩⟩, .epoch ⟨false, .ok ⟨.READY, 0⟩⟩, .unschedule 1,
        .unscheduleAgain 1, .epoch ⟨false, .ok ⟨.READY, 0⟩⟩] := by
  rintro ⟨-, -, -, -, -, -, -, -, last, -⟩
  exact last.executed 1 rfl (by decide)

end Gxf.Std.EpochScheduler
