import Mathlib.Data.List.Nodup
import Gxf.Std.EpochScheduler.Unschedule

/-!
# The active entities

When calls follow each other, the list of active entities holds, between two calls, the
entities that the epoch has to look at and perhaps some unscheduled ones, each once, and no
pass executes an entity twice.  Three things break this: an entity scheduled again before
the epoch removed it, a full list, and an error that ends a pass after an entity that had
to be removed.
-/

namespace Gxf.Std.EpochScheduler

open Gxf.Core Gxf.Lib

/-- The epoch looks at an entity with such a condition in every pass. -/
def polled : SchedulingConditionType → Bool
  | .READY | .WAIT | .WAIT_TIME => true
  | .NEVER | .WAIT_EVENT => false

/-- The active entities are those that are polled, and unscheduled ones that have not been
removed yet. -/
structure Consistent (scheduler : EpochScheduler) (unscheduled : List Uid) : Prop where
  nodup : scheduler.activeEntities.Nodup
  complete : ∀ eid, ∀ condition ∈ scheduler.entityConditions eid,
    polled condition.type = true → eid ∈ scheduler.activeEntities
  sound : ∀ eid ∈ scheduler.activeEntities, ∃ condition ∈ scheduler.entityConditions eid,
    polled condition.type = true ∨ condition.type = .NEVER ∧ eid ∈ unscheduled

/-- No call is under way. -/
def AtRest (scheduler : EpochScheduler) : Prop :=
  scheduler.phase = .idle ∧ scheduler.scheduling = [] ∧ scheduler.unscheduling = []

/-- A call begins when the one before has returned. -/
def Sequential (state : EpochScheduler × Trail) : Op → Prop
  | .schedule _ | .unschedule _ | .eventNotify .. | .runAsync | .runEpoch _ => AtRest state.1
  | .scheduleAgain _ | .unscheduleAgain _ | .stop | .epoch _ => True

/-- A step leaves consistent lists when it ends a call, and does not execute an entity twice
in a pass. -/
structure KeepsActive (hasCodelets : Uid → Except GxfResult Bool)
    (state : EpochScheduler × Trail) (op : Op) : Prop where
  consistent : AtRest ((observed hasCodelets).step state op).1.1 →
    Consistent ((observed hasCodelets).step state op).1.1
      ((observed hasCodelets).step state op).1.2.unscheduled
  once : ∀ eid, ((observed hasCodelets).step state op).2 = .executed eid → eid ∉ state.2.executed

/-- The conditions on a step: an entity that becomes active finds room and is not active
yet, and no entity had to be removed before an error that ends the pass. -/
def Orderly (hasCodelets : Uid → Except GxfResult Bool) (state : EpochScheduler × Trail) : Op → Prop
  | .schedule eid => hasCodelets eid = .ok true → state.1.entityConditions eid = none →
      state.1.activeEntities.length < kMaxEntities
  | .scheduleAgain eid => eid ∈ state.1.scheduling → (state.1.condition eid).type = .NEVER →
      (eid ∈ state.1.activeEntities ↔ kMaxEntities ≤ state.1.activeEntities.length)
  | .epoch outside =>
      (∀ eid requests condition, state.1.phase = .notify eid requests →
        state.1.entityConditions eid = some condition → condition.type = .WAIT_EVENT →
          state.1.activeEntities.length < kMaxEntities) ∧
      ∀ index eid code, state.1.phase = .executing index eid → outside.executed = .error code →
        ∀ other ∈ state.2.executed, polled (state.1.condition other).type = true
  | .unschedule _ | .unscheduleAgain _ | .eventNotify .. | .runAsync | .stop | .runEpoch _ => True

/-! ## During a pass -/

/-- An entity that has to be removed. -/
def gone (scheduler : EpochScheduler) (eid : Uid) : Bool := !polled (scheduler.condition eid).type

/-- The epoch has come to a position of the list. -/
structure Passing (scheduler : EpochScheduler) (unscheduled executed : List Uid) (index : Nat) :
    Prop where
  nodup : scheduler.activeEntities.Nodup
  complete : ∀ eid, ∀ condition ∈ scheduler.entityConditions eid,
    polled condition.type = true → eid ∈ scheduler.activeEntities
  known : ∀ eid ∈ scheduler.activeEntities, (scheduler.entityConditions eid).isSome = true
  inRange : index ≤ scheduler.activeEntities.length
  toRemove : scheduler.toRemoveIdx = (scheduler.activeEntities.take index).findIdxs scheduler.gone
  ahead : ∀ eid ∈ scheduler.activeEntities.drop index, ∃ condition ∈ scheduler.entityConditions eid,
      polled condition.type = true ∨ condition.type = .NEVER ∧ eid ∈ unscheduled
  behind : ∀ eid ∈ scheduler.activeEntities.take index, eid ∈ executed ∨
    ∃ condition ∈ scheduler.entityConditions eid, condition.type = .NEVER ∧ eid ∈ unscheduled
  executed : ∀ eid ∈ executed, eid ∈ scheduler.activeEntities.take index ∧ eid ∉ unscheduled

variable {hasCodelets : Uid → Except GxfResult Bool} {scheduler next : EpochScheduler}
  {unscheduled executed later : List Uid} {eid : Uid} {index : Nat}
  {condition : SchedulingCondition}

/-- The list around a position. -/
theorem split_active (isEid : scheduler.activeEntities[index]? = some eid) :
    scheduler.activeEntities.take (index + 1) = scheduler.activeEntities.take index ++ [eid] ∧
      scheduler.activeEntities.drop index = eid :: scheduler.activeEntities.drop (index + 1) := by
  obtain ⟨inRange, isEid⟩ := List.getElem?_eq_some_iff.mp isEid
  refine ⟨?_, ?_⟩
  · rw [List.take_succ_eq_append_getElem inRange, isEid]
  · rw [List.drop_eq_getElem_cons inRange, isEid]

theorem condition_of_some (isStored : scheduler.entityConditions eid = some condition) :
    scheduler.condition eid = condition := by
  rw [EpochScheduler.condition, isStored, Option.getD_some]

namespace Passing

section

variable (passing : Passing scheduler unscheduled executed index)
include passing

theorem of_same (active : next.activeEntities = scheduler.activeEntities)
    (conditions : next.entityConditions = scheduler.entityConditions)
    (toRemove : next.toRemoveIdx = scheduler.toRemoveIdx) :
    Passing next unscheduled executed index := by
  have sameGone : next.gone = scheduler.gone := by
    funext eid
    rw [gone, gone, EpochScheduler.condition, EpochScheduler.condition, conditions]
  constructor
  · exact active ▸ passing.nodup
  · rw [active, conditions]
    exact passing.complete
  · rw [active, conditions]
    exact passing.known
  · exact active ▸ passing.inRange
  · rw [toRemove, active, sameGone]
    exact passing.toRemove
  · rw [active, conditions]
    exact passing.ahead
  · rw [active, conditions]
    exact passing.behind
  · rw [active]
    exact passing.executed

theorem notMem (isEid : scheduler.activeEntities[index]? = some eid) :
    eid ∉ scheduler.activeEntities.take index ∧
      eid ∉ scheduler.activeEntities.drop (index + 1) := by
  have nodup := passing.nodup
  rw [← List.take_append_drop index scheduler.activeEntities, (split_active isEid).2] at nodup
  obtain ⟨_, back, apart⟩ := List.nodup_append.mp nodup
  exact ⟨fun member => apart eid member eid (List.mem_cons_self ..) rfl,
    (List.nodup_cons.mp back).1⟩

theorem advance (isEid : scheduler.activeEntities[index]? = some eid)
    (active : next.activeEntities = scheduler.activeEntities)
    (others : ∀ other, other ≠ eid →
      next.entityConditions other = scheduler.entityConditions other)
    (isStored : next.entityConditions eid = some condition)
    (toRemove : next.toRemoveIdx =
      scheduler.toRemoveIdx ++ if polled condition.type = true then [] else [index])
    (isLater : later = executed ++ [eid] ∧ eid ∉ unscheduled ∨
      later = executed ∧ condition.type = .NEVER ∧ eid ∈ unscheduled) :
    Passing next unscheduled later (index + 1) := by
  obtain ⟨front, back⟩ := split_active isEid
  obtain ⟨inRange, _⟩ := List.getElem?_eq_some_iff.mp isEid
  obtain ⟨notFront, notBack⟩ := passing.notMem isEid
  have otherGone (other : Uid) (different : other ≠ eid) :
      next.gone other = scheduler.gone other := by
    rw [gone, gone, EpochScheduler.condition, EpochScheduler.condition, others other different]
  constructor
  · exact active ▸ passing.nodup
  · intro other condition isCondition isPolled
    rw [active]
    by_cases same : other = eid
    · exact same ▸ List.mem_of_getElem? isEid
    · exact passing.complete other condition (others other same ▸ isCondition) isPolled
  · intro other member
    by_cases same : other = eid
    · rw [same, isStored, Option.isSome_some]
    · rw [others other same]
      exact passing.known other (active ▸ member)
  · rw [active]
    exact inRange
  · rw [toRemove, active, front, List.findIdxs_append, List.findIdxs_singleton, Nat.zero_add,
      List.length_take_of_le passing.inRange, passing.toRemove]
    have sameFront : (scheduler.activeEntities.take index).findIdxs scheduler.gone =
        (scheduler.activeEntities.take index).findIdxs next.gone :=
      findIdxs_congr 0 fun other member =>
        (otherGone other fun same => notFront (same ▸ member)).symm
    rw [sameFront]
    have isGone : next.gone eid = !polled condition.type := by
      rw [gone, condition_of_some isStored]
    rw [isGone]
    cases polled condition.type <;> rfl
  · intro other member
    rw [active] at member
    have different : other ≠ eid := fun same => notBack (same ▸ member)
    rw [others other different]
    exact passing.ahead other (back ▸ List.mem_cons_of_mem _ member)
  · intro other member
    rw [active, front] at member
    rcases List.mem_append.mp member with isBehind | isLast
    · have different : other ≠ eid := fun same => notFront (same ▸ isBehind)
      rw [others other different]
      rcases isLater with ⟨isLater, _⟩ | ⟨isLater, _⟩
      · rw [isLater]
        exact (passing.behind other isBehind).imp_left (List.mem_append_left _)
      · rw [isLater]
        exact passing.behind other isBehind
    · rw [List.mem_singleton.mp isLast]
      rcases isLater with ⟨isLater, _⟩ | ⟨isLater, isNever, isUnscheduled⟩
      · rw [isLater]
        exact .inl (List.mem_append_right _ (List.mem_singleton_self eid))
      · exact .inr ⟨condition, isStored, isNever, isUnscheduled⟩
  · intro other member
    rw [active, front]
    have old (isOld : other ∈ executed) :
        other ∈ scheduler.activeEntities.take index ++ [eid] ∧ other ∉ unscheduled :=
      (passing.executed other isOld).imp_left (List.mem_append_left _)
    rcases isLater with ⟨isLater, notUnscheduled⟩ | ⟨isLater, _⟩
    · rw [isLater] at member
      rcases List.mem_append.mp member with isOld | isLast
      · exact old isOld
      · rw [List.mem_singleton.mp isLast]
        exact ⟨List.mem_append_right _ (List.mem_singleton_self eid), notUnscheduled⟩
    · exact old (isLater ▸ member)

end

theorem sweeps (passing : Passing scheduler unscheduled executed scheduler.activeEntities.length) :
    (sweep scheduler.toRemoveIdx scheduler.activeEntities).Perm
      (scheduler.activeEntities.filter fun eid => polled (scheduler.condition eid).type) := by
  have swept := sweep_findIdxs scheduler.gone scheduler.activeEntities []
  rw [List.append_nil, List.append_nil] at swept
  have toRemove := passing.toRemove
  rw [List.take_length] at toRemove
  rw [toRemove]
  refine swept.trans (List.Perm.of_eq (List.filter_congr fun eid _ => ?_))
  rw [gone, Bool.not_not]

end Passing

/-- What holds in a phase when calls follow each other. -/
def Stage (scheduler : EpochScheduler) (trail : Trail) : Prop :=
  match scheduler.phase with
  | .idle | .head | .events _ | .finish => Consistent scheduler trail.unscheduled
  | .notify eid _ =>
      Consistent scheduler trail.unscheduled ∧ (scheduler.entityConditions eid).isSome = true
  | .copy index => Passing scheduler trail.unscheduled trail.executed index
  | .enter index eid condition =>
      Passing scheduler trail.unscheduled trail.executed index ∧
        scheduler.activeEntities[index]? = some eid ∧
          scheduler.entityConditions eid = some condition
  | .executing index eid =>
      ∃ earlier, trail.executed = earlier ++ [eid] ∧
        Passing scheduler trail.unscheduled earlier index ∧
          scheduler.activeEntities[index]? = some eid ∧ eid ∉ trail.unscheduled ∧
            polled (scheduler.condition eid).type = true
  | .sweep =>
      Passing scheduler trail.unscheduled trail.executed scheduler.activeEntities.length
  | .crashed => False

variable {trail : Trail}

theorem Consistent.of_same (consistent : Consistent scheduler unscheduled)
    (active : next.activeEntities = scheduler.activeEntities)
    (conditions : next.entityConditions = scheduler.entityConditions) :
    Consistent next unscheduled := by
  refine ⟨?_, ?_, ?_⟩
  · exact active ▸ consistent.nodup
  · rw [active, conditions]
    exact consistent.complete
  · rw [active, conditions]
    exact consistent.sound

theorem Consistent.passing (consistent : Consistent scheduler unscheduled)
    (active : next.activeEntities = scheduler.activeEntities)
    (conditions : next.entityConditions = scheduler.entityConditions)
    (toRemove : next.toRemoveIdx = []) : Passing next unscheduled [] 0 where
  nodup := active ▸ consistent.nodup
  complete := by
    rw [active, conditions]
    exact consistent.complete
  known eid member := by
    obtain ⟨condition, isStored, _⟩ := consistent.sound eid (active ▸ member)
    rw [conditions, isStored, Option.isSome_some]
  inRange := Nat.zero_le _
  toRemove := toRemove
  ahead := by
    rw [active, conditions]
    exact consistent.sound
  behind eid member := by cases member
  executed eid member := by cases member

theorem activate_of_lt (room : scheduler.activeEntities.length < kMaxEntities) (eid : Uid) :
    scheduler.activate eid =
      ({ scheduler with activeEntities := scheduler.activeEntities ++ [eid] }, .GXF_SUCCESS) := by
  rw [activate, pushBack, if_pos room]

theorem activate_of_le (full : kMaxEntities ≤ scheduler.activeEntities.length) (eid : Uid) :
    scheduler.activate eid = (scheduler, .GXF_FAILURE) := by
  rw [activate, pushBack, if_neg (Nat.not_lt.mpr full)]

theorem Consistent.activate (consistent : Consistent scheduler unscheduled)
    (notActive : eid ∉ scheduler.activeEntities) (isPolled : polled condition.type = true) :
    Consistent { scheduler.setCondition eid condition with
      activeEntities := scheduler.activeEntities ++ [eid] } unscheduled where
  nodup := List.nodup_append.mpr ⟨consistent.nodup, List.nodup_singleton eid,
    fun other member last isLast same => notActive (List.mem_singleton.mp isLast ▸ same ▸ member)⟩
  complete other stored isStored isPolled := by
    by_cases same : other = eid
    · exact List.mem_append_right _ (List.mem_singleton.mpr same)
    · change stored ∈ (scheduler.setCondition eid condition).entityConditions other at isStored
      rw [setCondition_of_ne scheduler same] at isStored
      exact List.mem_append_left _ (consistent.complete other stored isStored isPolled)
  sound other member := by
    change ∃ stored ∈ (scheduler.setCondition eid condition).entityConditions other, _
    by_cases same : other = eid
    · subst same
      exact ⟨condition, setCondition_self scheduler other condition, .inl isPolled⟩
    · rw [setCondition_of_ne scheduler same]
      refine consistent.sound other ((List.mem_append.mp member).resolve_right fun isLast => ?_)
      exact same (List.mem_singleton.mp isLast)

/-! ## Steps of an epoch -/

theorem pushToRemove_of_lt (room : scheduler.toRemoveIdx.length < kMaxEntities) (index : Nat) :
    (scheduler.pushToRemove index).toRemoveIdx = scheduler.toRemoveIdx ++ [index] := by
  rw [pushToRemove, pushBack, if_pos room, Option.getD_some]

theorem Passing.room (passing : Passing scheduler unscheduled executed index)
    (isEid : scheduler.activeEntities[index]? = some eid)
    (bounded : scheduler.activeEntities.length ≤ kMaxEntities) :
    scheduler.toRemoveIdx.length < kMaxEntities := by
  obtain ⟨inRange, _⟩ := List.getElem?_eq_some_iff.mp isEid
  rw [passing.toRemove, List.length_findIdxs]
  calc (scheduler.activeEntities.take index).countP scheduler.gone
      ≤ (scheduler.activeEntities.take index).length := List.countP_le_length
    _ = index := List.length_take_of_le passing.inRange
    _ < kMaxEntities := Nat.lt_of_lt_of_le inRange bounded

section

variable (consistent : Consistent scheduler trail.unscheduled)
include consistent

theorem stage_loopHead (outside : Outside) :
    Stage (scheduler.loopHead outside).1 (trail.observe (scheduler.loopHead outside).2) := by
  rw [loopHead]
  split_ifs <;> exact consistent.of_same rfl rfl

theorem stage_processEventRequests (requests : List Uid) :
    Stage (scheduler.processEventRequests requests).1
      (trail.observe (scheduler.processEventRequests requests).2) := by
  cases requests with
  | nil =>
      rw [processEventRequests]
      split_ifs
      next => exact consistent.of_same rfl rfl
      next => exact consistent.passing rfl rfl rfl
  | cons eid requests =>
      rw [processEventRequests]
      split
      next => exact consistent.of_same rfl rfl
      next condition isStored =>
        exact ⟨consistent.of_same rfl rfl, congrArg Option.isSome isStored⟩

theorem stage_processEventRequest (isSome : (scheduler.entityConditions eid).isSome = true)
    (room : ∀ condition, scheduler.entityConditions eid = some condition →
      condition.type = .WAIT_EVENT → scheduler.activeEntities.length < kMaxEntities)
    (requests : List Uid) :
    Stage (scheduler.processEventRequest eid requests).1
      (trail.observe (scheduler.processEventRequest eid requests).2) := by
  obtain ⟨condition, isStored⟩ := Option.isSome_iff_exists.mp isSome
  rw [processEventRequest, isStored]
  simp only
  by_cases waits : condition.type = .WAIT_EVENT
  · have notActive : eid ∉ scheduler.activeEntities := by
      intro member
      obtain ⟨stored, same, either⟩ := consistent.sound eid member
      cases isStored.symm.trans same
      rw [waits] at either
      rcases either with isPolled | ⟨isNever, _⟩
      · cases isPolled
      · cases isNever
    have hasRoom : (scheduler.setCondition eid
        { condition with type := .READY }).activeEntities.length < kMaxEntities :=
      room condition isStored waits
    rw [if_pos waits, activate_of_lt hasRoom, if_pos rfl]
    exact (consistent.activate notActive rfl).of_same rfl rfl
  · rw [if_neg waits]
    exact consistent.of_same rfl rfl

end

theorem stage_copyCondition (passing : Passing scheduler trail.unscheduled trail.executed index) :
    Stage (scheduler.copyCondition index).1 (trail.observe (scheduler.copyCondition index).2) := by
  rw [copyCondition]
  split
  next isNone =>
    have atEnd : index = scheduler.activeEntities.length :=
      Nat.le_antisymm passing.inRange (List.getElem?_eq_none_iff.mp isNone)
    rw [atEnd] at passing
    exact passing.of_same rfl rfl rfl
  next eid isEid =>
    have isSome := passing.known eid (List.mem_of_getElem? isEid)
    obtain ⟨condition, isStored⟩ := Option.isSome_iff_exists.mp isSome
    simp only [isStored]
    exact ⟨passing.of_same rfl rfl rfl, isEid, isStored⟩

theorem stage_enterEntity (passing : Passing scheduler trail.unscheduled trail.executed index)
    (isEid : scheduler.activeEntities[index]? = some eid)
    (isStored : scheduler.entityConditions eid = some condition)
    (bounded : scheduler.activeEntities.length ≤ kMaxEntities)
    (never : ∀ other ∈ trail.unscheduled, ∀ stored ∈ scheduler.entityConditions other,
      stored.type = .NEVER) :
    Stage (scheduler.enterEntity index eid condition).1
      (trail.observe (scheduler.enterEntity index eid condition).2) := by
  have member : eid ∈ scheduler.activeEntities.drop index := by
    rw [(split_active isEid).2]
    exact List.mem_cons_self ..
  obtain ⟨stored, same, either⟩ := passing.ahead eid member
  cases isStored.symm.trans same
  rw [enterEntity]
  split_ifs with isNever
  · have isUnscheduled : eid ∈ trail.unscheduled := by
      rcases either with isPolled | ⟨_, isUnscheduled⟩
      · rw [isNever] at isPolled
        cases isPolled
      · exact isUnscheduled
    refine passing.advance isEid rfl (fun _ _ => rfl) isStored ?_
      (.inr ⟨rfl, isNever, isUnscheduled⟩)
    rw [isNever]
    exact pushToRemove_of_lt (passing.room isEid bounded) index
  · refine ⟨trail.executed, rfl, passing.of_same rfl rfl rfl, isEid, fun isUnscheduled =>
      isNever (never eid isUnscheduled condition isStored), ?_⟩
    change polled (scheduler.condition eid).type = true
    rw [condition_of_some isStored]
    exact either.resolve_right fun both => isNever both.1

theorem stage_concludeEntity {earlier : List Uid} (isExecuted : trail.executed = earlier ++ [eid])
    (passing : Passing scheduler trail.unscheduled earlier index)
    (isEid : scheduler.activeEntities[index]? = some eid)
    (notUnscheduled : eid ∉ trail.unscheduled)
    (bounded : scheduler.activeEntities.length ≤ kMaxEntities)
    (condition : SchedulingCondition) :
    Stage (scheduler.concludeEntity index eid (.ok condition)).1
      (trail.observe (scheduler.concludeEntity index eid (.ok condition)).2) := by
  have others (other : Uid) (different : other ≠ eid) :=
    setCondition_of_ne scheduler different condition
  have isStored := setCondition_self scheduler eid condition
  have removes := pushToRemove_of_lt (passing.room isEid bounded) index
  have told : trail.executed = earlier ++ [eid] ∧ eid ∉ trail.unscheduled ∨
      trail.executed = earlier ∧ condition.type = .NEVER ∧ eid ∈ trail.unscheduled :=
    .inl ⟨isExecuted, notUnscheduled⟩
  rw [concludeEntity]
  cases isType : condition.type with
  | READY | WAIT_TIME | WAIT =>
      refine passing.advance isEid rfl others isStored ?_ told
      rw [isType]
      exact (List.append_nil _).symm
  | WAIT_EVENT | NEVER =>
      refine passing.advance isEid rfl others isStored ?_ told
      rw [isType]
      exact removes

theorem stage_sweepEntities (passing : Passing scheduler trail.unscheduled trail.executed
      scheduler.activeEntities.length) :
    Stage scheduler.sweepEntities.1 (trail.observe scheduler.sweepEntities.2) := by
  have swept := passing.sweeps
  have mem_iff (eid : Uid) : eid ∈ sweep scheduler.toRemoveIdx scheduler.activeEntities ↔
      eid ∈ scheduler.activeEntities ∧ polled (scheduler.condition eid).type = true := by
    rw [swept.mem_iff, List.mem_filter]
  constructor
  · exact swept.nodup_iff.mpr (passing.nodup.filter _)
  · intro eid condition isStored isPolled
    refine (mem_iff eid).mpr ⟨passing.complete eid condition isStored isPolled, ?_⟩
    have same : scheduler.condition eid = condition := condition_of_some isStored
    rw [same]
    exact isPolled
  · intro eid member
    obtain ⟨isActive, isPolled⟩ := (mem_iff eid).mp member
    obtain ⟨condition, isStored⟩ := Option.isSome_iff_exists.mp (passing.known eid isActive)
    rw [condition_of_some isStored] at isPolled
    exact ⟨condition, isStored, .inl isPolled⟩

theorem consistent_abort_iff {earlier : List Uid} (isExecuted : trail.executed = earlier ++ [eid])
    (passing : Passing scheduler trail.unscheduled earlier index)
    (isEid : scheduler.activeEntities[index]? = some eid)
    (notUnscheduled : eid ∉ trail.unscheduled) :
    Consistent scheduler trail.unscheduled ↔
      ∀ other ∈ trail.executed, polled (scheduler.condition other).type = true := by
  constructor
  · intro consistent other member
    have isActive : other ∈ scheduler.activeEntities ∧ other ∉ trail.unscheduled := by
      rw [isExecuted] at member
      rcases List.mem_append.mp member with isEarlier | isLast
      · exact (passing.executed other isEarlier).imp_left List.mem_of_mem_take
      · rw [List.mem_singleton.mp isLast]
        exact ⟨List.mem_of_getElem? isEid, notUnscheduled⟩
    obtain ⟨condition, isStored, either⟩ := consistent.sound other isActive.1
    rw [condition_of_some isStored]
    exact either.resolve_right fun both => isActive.2 both.2
  · intro allPolled
    refine ⟨passing.nodup, passing.complete, fun other isActive => ?_⟩
    rw [← List.take_append_drop index scheduler.activeEntities] at isActive
    rcases List.mem_append.mp isActive with isBehind | isAhead
    · rcases passing.behind other isBehind with isEarlier | ⟨condition, isStored, isNever⟩
      · have isPolled := allPolled other (isExecuted ▸ List.mem_append_left _ isEarlier)
        obtain ⟨condition, isStored⟩ := Option.isSome_iff_exists.mp
          (passing.known other (List.mem_of_mem_take isBehind))
        rw [condition_of_some isStored] at isPolled
        exact ⟨condition, isStored, .inl isPolled⟩
      · exact ⟨condition, isStored, .inr isNever⟩
    · exact passing.ahead other isAhead

/-! ## Steps of the calls -/

theorem Consistent.filter (consistent : Consistent scheduler unscheduled)
    (notNever : ∀ condition ∈ scheduler.entityConditions eid, condition.type ≠ .NEVER) :
    Consistent scheduler (unscheduled.filter (· ≠ eid)) := by
  refine ⟨consistent.nodup, consistent.complete, fun other member => ?_⟩
  obtain ⟨condition, isStored, either⟩ := consistent.sound other member
  refine ⟨condition, isStored, either.imp_right fun both => ⟨both.1, ?_⟩⟩
  have different : other ≠ eid := fun same => notNever condition (same ▸ isStored) both.1
  exact List.mem_filter.mpr ⟨both.2, decide_eq_true different⟩

theorem Consistent.setCondition (consistent : Consistent scheduler unscheduled)
    (member : polled condition.type = true → eid ∈ scheduler.activeEntities)
    (isKept : polled condition.type = true ∨ condition.type = .NEVER ∧ eid ∈ unscheduled) :
    Consistent (scheduler.setCondition eid condition) unscheduled := by
  refine ⟨consistent.nodup, fun other stored isStored isPolled => ?_, fun other isActive => ?_⟩
  · by_cases same : other = eid
    · subst same
      cases (setCondition_self scheduler other condition).symm.trans isStored
      exact member isPolled
    · rw [setCondition_of_ne scheduler same] at isStored
      exact consistent.complete other stored isStored isPolled
  · by_cases same : other = eid
    · subst same
      exact ⟨condition, setCondition_self scheduler other condition, isKept⟩
    · rw [setCondition_of_ne scheduler same]
      exact consistent.sound other isActive

theorem consistent_activate_iff (consistent : Consistent scheduler unscheduled) (eid : Uid)
    (isPolled : polled condition.type = true) :
    Consistent ((scheduler.setCondition eid condition).activate eid).1
        (unscheduled.filter (· ≠ eid)) ↔
      (eid ∈ scheduler.activeEntities ↔ kMaxEntities ≤ scheduler.activeEntities.length) := by
  have isStored := setCondition_self scheduler eid condition
  have notNever : ∀ stored ∈ (scheduler.setCondition eid condition).entityConditions eid,
      stored.type ≠ .NEVER := by
    intro stored same isNever
    cases isStored.symm.trans same
    rw [isNever] at isPolled
    cases isPolled
  by_cases room : scheduler.activeEntities.length < kMaxEntities
  · have activated := activate_of_lt
      (show (scheduler.setCondition eid condition).activeEntities.length < kMaxEntities from room)
      eid
    rw [activated, iff_false_right (Nat.not_le.mpr room)]
    constructor
    · intro next member
      exact (List.nodup_append.mp next.nodup).2.2 eid member eid (List.mem_singleton_self eid) rfl
    · exact fun notActive => (consistent.activate notActive isPolled).filter notNever
  · have full : kMaxEntities ≤ scheduler.activeEntities.length := Nat.not_lt.mp room
    have activated := activate_of_le
      (show kMaxEntities ≤ (scheduler.setCondition eid condition).activeEntities.length from full)
      eid
    rw [activated, iff_true_right full]
    constructor
    · exact fun next => next.complete eid condition isStored isPolled
    · exact fun member =>
        (consistent.setCondition (fun _ => member) (.inl isPolled)).filter notNever

/-- The bound of the list, and at most one call under way. -/
structure Attended (scheduler : EpochScheduler) : Prop where
  bounded : scheduler.activeEntities.length ≤ kMaxEntities
  single : scheduler.scheduling.length + scheduler.unscheduling.length ≤ 1
  pending : scheduler.phase = .idle ∨ scheduler.scheduling = [] ∧ scheduler.unscheduling = []

/-- What holds between the steps when calls follow each other. -/
structure Kept (hasCodelets : Uid → Except GxfResult Bool) (state : EpochScheduler × Trail) : Prop
    extends Attended state.1 where
  reliable : Reliable hasCodelets state
  stage : Stage state.1 state.2

variable {state : EpochScheduler × Trail} {op : Op}

theorem length_activate (scheduler : EpochScheduler) (eid : Uid)
    (bounded : scheduler.activeEntities.length ≤ kMaxEntities) :
    (scheduler.activate eid).1.activeEntities.length ≤ kMaxEntities := by
  by_cases room : scheduler.activeEntities.length < kMaxEntities
  · rw [activate_of_lt room]
    simp only [List.length_append, List.length_singleton]
    exact room
  · rw [activate_of_le (Nat.not_lt.mp room)]
    exact bounded

theorem Stage.of_same (stage : Stage scheduler trail) (phase : next.phase = scheduler.phase)
    (active : next.activeEntities = scheduler.activeEntities)
    (conditions : next.entityConditions = scheduler.entityConditions)
    (toRemove : next.toRemoveIdx = scheduler.toRemoveIdx) : Stage next trail := by
  rw [Stage] at stage ⊢
  rw [phase]
  cases isPhase : scheduler.phase with
  | idle | head | events | finish =>
      rw [isPhase] at stage
      exact stage.of_same active conditions
  | notify eid requests =>
      rw [isPhase] at stage
      simp only [conditions]
      exact ⟨stage.1.of_same active conditions, stage.2⟩
  | copy index =>
      rw [isPhase] at stage
      exact stage.of_same active conditions toRemove
  | enter index eid condition =>
      rw [isPhase] at stage
      simp only [active, conditions]
      exact ⟨stage.1.of_same active conditions toRemove, stage.2⟩
  | executing index eid =>
      rw [isPhase] at stage
      obtain ⟨earlier, isExecuted, passing, rest⟩ := stage
      refine ⟨earlier, isExecuted, passing.of_same active conditions toRemove, ?_⟩
      rw [active, EpochScheduler.condition, conditions]
      exact rest
  | sweep =>
      rw [isPhase] at stage
      simp only [active]
      exact stage.of_same active conditions toRemove
  | crashed =>
      rw [isPhase] at stage
      exact stage

theorem Stage.consistent (stage : Stage scheduler trail) (isIdle : scheduler.phase = .idle) :
    Consistent scheduler trail.unscheduled := by
  rw [Stage, isIdle] at stage
  exact stage

theorem stage_of_consistent (consistent : Consistent scheduler trail.unscheduled)
    (isIdle : scheduler.phase = .idle) : Stage scheduler trail := by
  rw [Stage, isIdle]
  exact consistent

theorem phase_activate (scheduler : EpochScheduler) (eid : Uid) :
    (scheduler.activate eid).1.phase = scheduler.phase ∧
      (scheduler.activate eid).1.scheduling = scheduler.scheduling ∧
        (scheduler.activate eid).1.unscheduling = scheduler.unscheduling := by
  obtain ⟨activeEntities, activated⟩ := activate_fst scheduler eid
  rw [activated]
  exact ⟨rfl, rfl, rfl⟩

theorem Kept.fresh (kept : Kept hasCodelets state) (op : Op) : Fresh state op := by
  cases op with
  | epoch outside =>
      intro index eid condition isPhase notNever
      have stage := kept.stage
      rw [Stage, isPhase] at stage
      rw [condition_of_some stage.2.2]
      exact notNever
  | _ => exact trivial

theorem Consistent.notMem (consistent : Consistent scheduler unscheduled)
    (isNone : scheduler.entityConditions eid = none) : eid ∉ scheduler.activeEntities := by
  intro member
  obtain ⟨condition, isStored, _⟩ := consistent.sound eid member
  cases isNone.symm.trans isStored

theorem stage_schedule (kept : Kept hasCodelets state) (isIdle : state.1.phase = .idle)
    (orderly : Orderly hasCodelets state (.schedule eid)) :
    Stage (state.1.schedule hasCodelets eid).1
      (state.2.observe (state.1.schedule hasCodelets eid).2) := by
  have consistent := kept.stage.consistent isIdle
  have ignored (noCodelets : hasCodelets eid ≠ .ok true) : Stage state.1 { state.2 with
        unscheduled := state.2.unscheduled.filter (· ≠ eid) } := by
    refine stage_of_consistent (consistent.filter ?_) isIdle
    rw [kept.reliable.eq_none noCodelets]
    exact fun condition isCondition => by cases isCondition
  rw [schedule]
  cases isKnown : hasCodelets eid with
  | error code => exact ignored (by simp [isKnown])
  | ok hasSome =>
      cases hasSome with
      | false => exact ignored (by simp [isKnown])
      | true =>
          cases isStored : state.1.entityConditions eid with
          | none =>
              refine stage_of_consistent ?_ ((phase_activate _ eid).1.trans isIdle)
              refine (consistent_activate_iff consistent eid rfl).mpr ?_
              exact iff_of_false (consistent.notMem isStored)
                (Nat.not_le.mpr (orderly isKnown isStored))
          | some condition => exact kept.stage.of_same rfl rfl rfl rfl

theorem stage_reschedule (consistent : Consistent scheduler trail.unscheduled)
    (isIdle : scheduler.phase = .idle)
    (orderly : (scheduler.condition eid).type = .NEVER →
      (eid ∈ scheduler.activeEntities ↔ kMaxEntities ≤ scheduler.activeEntities.length)) :
    Stage (scheduler.reschedule eid).1 (trail.observe (scheduler.reschedule eid).2) := by
  rw [reschedule]
  split_ifs with notNever
  · refine stage_of_consistent (consistent.filter ?_) isIdle
    intro condition isStored
    rw [condition_of_some isStored] at notNever
    exact notNever
  · refine stage_of_consistent ?_ ((phase_activate _ eid).1.trans isIdle)
    exact (consistent_activate_iff consistent eid rfl).mpr (orderly (not_not.mp notNever))

/-- Calls are resumed when no epoch is run. -/
theorem Kept.idle_of_pending (kept : Kept hasCodelets state)
    (isPending : eid ∈ state.1.scheduling ++ state.1.unscheduling) : state.1.phase = .idle := by
  refine kept.pending.resolve_right fun none => ?_
  rw [none.1, none.2] at isPending
  cases isPending

theorem stage_scheduleAgain (kept : Kept hasCodelets state)
    (orderly : Orderly hasCodelets state (.scheduleAgain eid)) :
    Stage (state.1.scheduleAgain eid).1 (state.2.observe (state.1.scheduleAgain eid).2) := by
  rw [scheduleAgain]
  split_ifs with blocked
  · exact kept.stage
  · have isPending : eid ∈ state.1.scheduling := not_not.mp (not_or.mp blocked).1
    have isIdle := kept.idle_of_pending (List.mem_append_left _ isPending)
    exact stage_reschedule ((kept.stage.consistent isIdle).of_same rfl rfl) isIdle
      (orderly isPending)

theorem Consistent.cons (consistent : Consistent scheduler unscheduled) (eid : Uid) :
    Consistent scheduler (eid :: unscheduled) := by
  refine ⟨consistent.nodup, consistent.complete, fun other member => ?_⟩
  obtain ⟨condition, isStored, either⟩ := consistent.sound other member
  exact ⟨condition, isStored,
    either.imp_right fun both => ⟨both.1, List.mem_cons_of_mem eid both.2⟩⟩

section

variable (kept : Kept hasCodelets state)
include kept

theorem stage_unschedule (isIdle : state.1.phase = .idle) (eid : Uid) :
    Stage (state.1.unschedule hasCodelets eid).1
      (state.2.observe (state.1.unschedule hasCodelets eid).2) := by
  have noted : Stage state.1 { state.2 with unscheduled := eid :: state.2.unscheduled } :=
    stage_of_consistent ((kept.stage.consistent isIdle).cons eid) isIdle
  rw [unschedule]
  cases hasCodelets eid with
  | error code =>
      simp only [Trail.observe]
      split_ifs
      next => exact noted
      next => exact kept.stage
  | ok hasSome =>
      cases hasSome with
      | false => exact noted
      | true =>
          cases state.1.entityConditions eid with
          | none => exact kept.stage
          | some condition => exact kept.stage.of_same rfl rfl rfl rfl

theorem stage_unscheduleAgain (eid : Uid) :
    Stage (state.1.unscheduleAgain eid).1 (state.2.observe (state.1.unscheduleAgain eid).2) := by
  rw [unscheduleAgain]
  split_ifs with blocked
  · exact kept.stage
  · have isPending : eid ∈ state.1.unscheduling := not_not.mp (not_or.mp blocked).1
    have isIdle := kept.idle_of_pending (List.mem_append_right _ isPending)
    refine stage_of_consistent ?_ isIdle
    refine (((kept.stage.consistent isIdle).cons eid).setCondition (fun isPolled => ?_)
      (.inr ⟨?_, List.mem_cons_self ..⟩)).of_same rfl rfl
    · cases isPolled
    · rfl

theorem stage_epoch {outside : Outside} (orderly : Orderly hasCodelets state (.epoch outside)) :
    Stage (state.1.epoch outside).1 (state.2.observe (state.1.epoch outside).2) := by
  have stage := kept.stage
  rw [Stage] at stage
  rw [epoch]
  cases isPhase : state.1.phase with
  | idle | crashed => exact kept.stage
  | head =>
      rw [isPhase] at stage
      exact stage_loopHead stage outside
  | events requests =>
      rw [isPhase] at stage
      exact stage_processEventRequests stage requests
  | notify eid requests =>
      rw [isPhase] at stage
      exact stage_processEventRequest stage.1 stage.2
        (fun condition => orderly.1 eid requests condition isPhase) requests
  | copy index =>
      rw [isPhase] at stage
      exact stage_copyCondition stage
  | enter index eid condition =>
      rw [isPhase] at stage
      exact stage_enterEntity stage.1 stage.2.1 stage.2.2 kept.bounded kept.reliable.never
  | executing index eid =>
      rw [isPhase] at stage
      obtain ⟨earlier, isExecuted, passing, isEid, notUnscheduled, _⟩ := stage
      cases isOutcome : outside.executed with
      | error code =>
          exact ((consistent_abort_iff isExecuted passing isEid notUnscheduled).mpr
            (orderly.2 index eid code isPhase isOutcome)).of_same rfl rfl
      | ok condition =>
          exact stage_concludeEntity isExecuted passing isEid notUnscheduled kept.bounded condition
  | sweep =>
      rw [isPhase] at stage
      exact stage_sweepEntities stage
  | finish =>
      rw [isPhase] at stage
      simp only [finishPass]
      split_ifs <;> exact stage.of_same rfl rfl

theorem stage_step (sequential : Sequential state op) (orderly : Orderly hasCodelets state op) :
    Stage ((observed hasCodelets).step state op).1.1
    ((observed hasCodelets).step state op).1.2 := by
  cases op with
  | schedule eid => exact stage_schedule kept sequential.1 orderly
  | scheduleAgain eid => exact stage_scheduleAgain kept orderly
  | unschedule eid => exact stage_unschedule kept sequential.1 eid
  | unscheduleAgain eid => exact stage_unscheduleAgain kept eid
  | eventNotify eid event =>
      change Stage (state.1.eventNotify eid event).1
        (state.2.observe (state.1.eventNotify eid event).2)
      rw [eventNotify]
      split_ifs <;> exact kept.stage.of_same rfl rfl rfl rfl
  | runAsync =>
      change Stage state.1.runAsync.1 (state.2.observe state.1.runAsync.2)
      rw [runAsync]
      split_ifs <;> exact kept.stage.of_same rfl rfl rfl rfl
  | stop => exact kept.stage.of_same rfl rfl rfl rfl
  | runEpoch budgeted =>
      change Stage (state.1.runEpoch budgeted).1 (state.2.observe (state.1.runEpoch budgeted).2)
      rw [runEpoch]
      split_ifs
      next => exact kept.stage
      next => exact (kept.stage.consistent sequential.1).of_same rfl rfl
  | epoch outside => exact stage_epoch kept orderly

end

/-! ## Calls and the length of the list -/

/-- What a step does to the calls under way and to the length of the list. -/
structure Frames (scheduler next : EpochScheduler) : Prop where
  scheduling : next.scheduling = scheduler.scheduling
  unscheduling : next.unscheduling = scheduler.unscheduling
  bounded : scheduler.activeEntities.length ≤ kMaxEntities →
    next.activeEntities.length ≤ kMaxEntities

theorem frames_activate (scheduler : EpochScheduler) (eid : Uid) :
    Frames scheduler (scheduler.activate eid).1 :=
  ⟨(phase_activate scheduler eid).2.1, (phase_activate scheduler eid).2.2,
    length_activate scheduler eid⟩

theorem frames_epoch (scheduler : EpochScheduler) (outside : Outside) :
    Frames scheduler (scheduler.epoch outside).1 := by
  rw [epoch]
  cases scheduler.phase with
  | idle | crashed => exact ⟨rfl, rfl, id⟩
  | head =>
      simp only [loopHead]
      split_ifs <;> exact ⟨rfl, rfl, id⟩
  | events requests =>
      cases requests with
      | nil =>
          simp only [processEventRequests]
          split_ifs <;> exact ⟨rfl, rfl, id⟩
      | cons eid requests =>
          simp only [processEventRequests]
          split <;> exact ⟨rfl, rfl, id⟩
  | notify eid requests =>
      simp only [processEventRequest]
      split
      next => exact ⟨rfl, rfl, id⟩
      next condition _ =>
        have activates := frames_activate
          (scheduler.setCondition eid { condition with type := .READY }) eid
        split_ifs
        next => exact ⟨activates.scheduling, activates.unscheduling, activates.bounded⟩
        next => exact ⟨activates.scheduling, activates.unscheduling, activates.bounded⟩
        next => exact ⟨rfl, rfl, id⟩
  | copy index =>
      simp only [copyCondition]
      split
      next => exact ⟨rfl, rfl, id⟩
      next => split <;> exact ⟨rfl, rfl, id⟩
  | enter index eid condition =>
      simp only [enterEntity]
      split_ifs <;> exact ⟨rfl, rfl, id⟩
  | executing index eid =>
      cases outside.executed with
      | error code => exact ⟨rfl, rfl, id⟩
      | ok condition =>
          simp only [concludeEntity]
          cases condition.type <;> exact ⟨rfl, rfl, id⟩
  | sweep =>
      exact ⟨rfl, rfl, fun bounded => Nat.le_trans (length_sweep_le _ _) bounded⟩
  | finish =>
      simp only [finishPass]
      split_ifs <;> exact ⟨rfl, rfl, id⟩

theorem Attended.of_frames (attended : Attended scheduler) (frames : Frames scheduler next)
    (phase : next.phase = scheduler.phase) : Attended next := by
  refine ⟨frames.bounded attended.bounded, ?_, ?_⟩
  · rw [frames.scheduling, frames.unscheduling]
    exact attended.single
  · rw [frames.scheduling, frames.unscheduling, phase]
    exact attended.pending

theorem attended_activate (attended : Attended scheduler) (eid : Uid)
    (condition : SchedulingCondition) :
    Attended ((scheduler.setCondition eid condition).activate eid).1 := by
  have frames := frames_activate (scheduler.setCondition eid condition) eid
  exact attended.of_frames ⟨frames.scheduling, frames.unscheduling, frames.bounded⟩
    (phase_activate (scheduler.setCondition eid condition) eid).1

/-- A call comes to its second section. -/
theorem Attended.begins (attended : Attended scheduler) (rest : AtRest scheduler)
    (phase : next.phase = scheduler.phase)
    (active : next.activeEntities = scheduler.activeEntities)
    (single : next.scheduling.length + next.unscheduling.length = 1) : Attended next :=
  ⟨active ▸ attended.bounded, Nat.le_of_eq single, .inl (phase.trans rest.1)⟩

/-- A call is in its second section. -/
theorem Attended.resumes (attended : Attended scheduler) (phase : next.phase = scheduler.phase)
    (active : next.activeEntities = scheduler.activeEntities)
    (isPending : eid ∈ scheduler.scheduling ++ scheduler.unscheduling)
    (fewer : next.scheduling.length + next.unscheduling.length ≤
      scheduler.scheduling.length + scheduler.unscheduling.length) : Attended next := by
  refine ⟨active ▸ attended.bounded, Nat.le_trans fewer attended.single, ?_⟩
  refine .inl (phase.trans (attended.pending.resolve_right fun none => ?_))
  rw [none.1, none.2] at isPending
  cases isPending

theorem attended_step (attended : Attended state.1) (sequential : Sequential state op) :
    Attended ((observed hasCodelets).step state op).1.1 := by
  cases op with
  | schedule eid =>
      change Attended (state.1.schedule hasCodelets eid).1
      rw [schedule]
      split
      next => exact attended
      next => exact attended
      next =>
        split
        next => exact attended_activate attended eid _
        next =>
          refine attended.begins sequential rfl rfl ?_
          simp [sequential.2.1, sequential.2.2]
  | scheduleAgain eid =>
      change Attended (state.1.scheduleAgain eid).1
      rw [scheduleAgain]
      split_ifs with blocked
      · exact attended
      · have isPending : eid ∈ state.1.scheduling := not_not.mp (not_or.mp blocked).1
        have resumed : Attended (state.1.resumeScheduling eid) :=
          attended.resumes rfl rfl (List.mem_append_left _ isPending)
            (Nat.add_le_add_right (List.erase_sublist.length_le) _)
        rw [reschedule]
        split_ifs
        · exact resumed
        · exact attended_activate resumed eid _
  | unschedule eid =>
      change Attended (state.1.unschedule hasCodelets eid).1
      rw [unschedule]
      split
      next => exact attended
      next => exact attended
      next =>
        split
        next => exact attended
        next =>
          refine attended.begins sequential rfl rfl ?_
          simp [sequential.2.1, sequential.2.2]
  | unscheduleAgain eid =>
      change Attended (state.1.unscheduleAgain eid).1
      rw [unscheduleAgain]
      split_ifs with blocked
      · exact attended
      · have isPending : eid ∈ state.1.unscheduling := not_not.mp (not_or.mp blocked).1
        exact attended.resumes rfl rfl (List.mem_append_right _ isPending)
          (Nat.add_le_add_left (List.erase_sublist.length_le) _)
  | eventNotify eid event =>
      change Attended (state.1.eventNotify eid event).1
      rw [eventNotify]
      split_ifs <;> exact attended.of_frames ⟨rfl, rfl, id⟩ rfl
  | runAsync =>
      change Attended state.1.runAsync.1
      rw [runAsync]
      split_ifs <;> exact attended.of_frames ⟨rfl, rfl, id⟩ rfl
  | stop => exact attended.of_frames ⟨rfl, rfl, id⟩ rfl
  | runEpoch budgeted =>
      change Attended (state.1.runEpoch budgeted).1
      rw [runEpoch]
      split_ifs
      · exact attended
      · exact ⟨attended.bounded, attended.single, .inr sequential.2⟩
  | epoch outside =>
      change Attended (state.1.epoch outside).1
      by_cases isIdle : state.1.phase = .idle
      · rw [epoch, isIdle]
        exact attended
      · have frames := frames_epoch state.1 outside
        obtain ⟨noScheduling, noUnscheduling⟩ := attended.pending.resolve_left isIdle
        refine ⟨frames.bounded attended.bounded, ?_, .inr ?_⟩
        · rw [frames.scheduling, frames.unscheduling]
          exact attended.single
        · rw [frames.scheduling, frames.unscheduling]
          exact ⟨noScheduling, noUnscheduling⟩

theorem kept_step (kept : Kept hasCodelets state) (sequential : Sequential state op)
    (orderly : Orderly hasCodelets state op) :
    Kept hasCodelets ((observed hasCodelets).step state op).1 where
  toAttended := attended_step kept.toAttended sequential
  reliable := reliable_step kept.reliable (kept.fresh op)
  stage := stage_step kept sequential orderly

/-! ## Runs -/

theorem KeepsActive.consistent_of_rest (keeps : KeepsActive hasCodelets state op)
    {report : Report} (isStep : (system hasCodelets).step state.1 op = (next, report))
    (rest : AtRest next) : Consistent next (state.2.observe report).unscheduled := by
  have consistent : AtRest ((system hasCodelets).step state.1 op).1 →
      Consistent ((system hasCodelets).step state.1 op).1
        (state.2.observe ((system hasCodelets).step state.1 op).2).unscheduled := keeps.consistent
  rw [isStep] at consistent
  exact consistent rest

theorem atRest_activate (rest : AtRest scheduler) (eid : Uid) (condition : SchedulingCondition) :
    AtRest ((scheduler.setCondition eid condition).activate eid).1 := by
  obtain ⟨phase, scheduling, unscheduling⟩ :=
    phase_activate (scheduler.setCondition eid condition) eid
  rw [AtRest, phase, scheduling, unscheduling]
  exact rest

/-- The only call under way is in its second section. -/
theorem Kept.atRest (kept : Kept hasCodelets state) (isPending : eid ∈ state.1.scheduling) :
    AtRest (state.1.resumeScheduling eid) := by
  have single := kept.single
  have positive := List.length_pos_of_mem isPending
  obtain ⟨only, isOnly⟩ := List.length_eq_one_iff.mp (show state.1.scheduling.length = 1 by omega)
  refine ⟨kept.idle_of_pending (List.mem_append_left _ isPending), ?_, ?_⟩
  · rw [isOnly] at isPending
    simp [resumeScheduling, isOnly, List.mem_singleton.mp isPending]
  · exact List.length_eq_zero_iff.mp (show state.1.unscheduling.length = 0 by omega)

theorem reschedule_of_never (isNever : (scheduler.condition eid).type = .NEVER) :
    scheduler.reschedule eid =
      (((scheduler.setCondition eid { scheduler.condition eid with type := .READY }).activate
        eid).1, .scheduled eid ((scheduler.setCondition eid
          { scheduler.condition eid with type := .READY }).activate eid).2) := by
  rw [reschedule, if_neg (not_not.mpr isNever)]

section

variable (kept : Kept hasCodelets state)
include kept

theorem orderly_of_schedule (rest : AtRest state.1)
    (keeps : KeepsActive hasCodelets state (.schedule eid)) :
    Orderly hasCodelets state (.schedule eid) := by
  intro isKnown isStored
  have consistent := kept.stage.consistent rest.1
  have isStep : (system hasCodelets).step state.1 (.schedule eid) =
      (((state.1.setCondition eid ⟨.READY, 0⟩).activate eid).1,
        .scheduled eid ((state.1.setCondition eid ⟨.READY, 0⟩).activate eid).2) := by
    change state.1.schedule hasCodelets eid = _
    simp only [schedule, isKnown, isStored]
  have added := (consistent_activate_iff consistent eid rfl).mp
    (keeps.consistent_of_rest isStep (atRest_activate rest eid _))
  exact Nat.not_le.mp (mt added.mpr (consistent.notMem isStored))

theorem orderly_of_scheduleAgain (keeps : KeepsActive hasCodelets state (.scheduleAgain eid)) :
    Orderly hasCodelets state (.scheduleAgain eid) := by
  intro isPending isNever
  have isIdle := kept.idle_of_pending (List.mem_append_left _ isPending)
  have rest := kept.atRest isPending
  have consistent : Consistent (state.1.resumeScheduling eid) state.2.unscheduled :=
    (kept.stage.consistent isIdle).of_same rfl rfl
  have notBlocked : ¬(eid ∉ state.1.scheduling ∨ state.1.holdsEntity eid = true) := by
    simp [isPending, holdsEntity, isIdle]
  have isStep : (system hasCodelets).step state.1 (.scheduleAgain eid) =
      (state.1.resumeScheduling eid).reschedule eid := by
    change state.1.scheduleAgain eid = _
    rw [scheduleAgain, if_neg notBlocked]
  have isAgain : ((state.1.resumeScheduling eid).condition eid).type = .NEVER := isNever
  rw [reschedule_of_never isAgain] at isStep
  exact (consistent_activate_iff consistent eid rfl).mp
    (keeps.consistent_of_rest isStep (atRest_activate rest eid _))

theorem orderly_of_epoch {outside : Outside}
    (keeps : KeepsActive hasCodelets state (.epoch outside)) :
    Orderly hasCodelets state (.epoch outside) := by
  have stage := kept.stage
  rw [Stage] at stage
  have noCalls (notIdle : state.1.phase ≠ .idle) := kept.pending.resolve_left notIdle
  constructor
  · intro eid requests condition isPhase isStored waits
    rw [isPhase] at stage
    refine Nat.not_le.mp fun full => ?_
    have isStep : (system hasCodelets).step state.1 (.epoch outside) =
        (state.1.setCondition eid { condition with type := .READY }).leave .GXF_FAILURE := by
      have isFull : kMaxEntities ≤
          (state.1.setCondition eid { condition with type := .READY }).activeEntities.length := full
      change state.1.epoch outside = _
      rw [epoch, isPhase]
      simp only [processEventRequest, isStored]
      rw [if_pos waits, activate_of_le isFull, if_neg (by simp)]
    have consistent := keeps.consistent_of_rest isStep ⟨rfl, noCalls (by rw [isPhase]; simp)⟩
    have isActive := consistent.complete eid _ (setCondition_self state.1 eid _) rfl
    obtain ⟨stored, same, either⟩ := stage.1.sound eid isActive
    cases isStored.symm.trans same
    rw [waits] at either
    rcases either with isPolled | ⟨isNever, _⟩
    · cases isPolled
    · cases isNever
  · intro index eid code isPhase isOutcome
    rw [isPhase] at stage
    obtain ⟨earlier, isExecuted, passing, isEid, notUnscheduled, _⟩ := stage
    have isStep : (system hasCodelets).step state.1 (.epoch outside) = state.1.leave code := by
      change state.1.epoch outside = _
      rw [epoch, isPhase]
      simp only [concludeEntity, isOutcome]
    have consistent := keeps.consistent_of_rest isStep ⟨rfl, noCalls (by rw [isPhase]; simp)⟩
    exact (consistent_abort_iff isExecuted passing isEid notUnscheduled).mp
      (consistent.of_same rfl rfl)

theorem keepsActive_iff (sequential : Sequential state op) :
    KeepsActive hasCodelets state op ↔ Orderly hasCodelets state op := by
  constructor
  · intro keeps
    cases op with
    | schedule eid => exact orderly_of_schedule kept sequential keeps
    | scheduleAgain eid => exact orderly_of_scheduleAgain kept keeps
    | epoch outside => exact orderly_of_epoch kept keeps
    | unschedule | unscheduleAgain | eventNotify | runAsync | stop | runEpoch => exact trivial
  · intro orderly
    constructor
    · exact fun rest => (kept_step kept sequential orderly).stage.consistent rest.1
    · intro eid executed
      obtain ⟨outside, index, condition, rfl, isPhase, _⟩ := enter_of_executed executed
      have stage := kept.stage
      rw [Stage, isPhase] at stage
      exact fun member => (stage.1.notMem stage.2.1).1 (stage.1.executed eid member).1

end

/-- When calls follow each other, the lists are kept exactly in the orderly runs. -/
theorem run_keeps_active_iff (hasCodelets : Uid → Except GxfResult Bool) (ops : List Op)
    (sequential : (observed hasCodelets).Along Sequential (init, ⟨[], []⟩) ops) :
    (observed hasCodelets).Along (KeepsActive hasCodelets) (init, ⟨[], []⟩) ops ↔
      (observed hasCodelets).Along (Orderly hasCodelets) (init, ⟨[], []⟩) ops := by
  have consistent : Consistent init [] := by
    refine ⟨List.nodup_nil, ?_, ?_⟩
    · exact fun eid condition isStored => by cases isStored
    · exact fun eid member => by cases member
  have initial : Kept hasCodelets (init, ⟨[], []⟩) :=
    ⟨⟨Nat.zero_le _, Nat.zero_le _, .inl rfl⟩, reliable_init hasCodelets,
      stage_of_consistent consistent rfl⟩
  have both := System.along_iff_guarded (fun state op (kept : Kept hasCodelets state)
      (guard : Sequential state op ∧ Orderly hasCodelets state op) =>
        kept_step kept guard.1 guard.2)
    (fun state op kept => and_congr_right (keepsActive_iff kept)) initial ops
  rw [System.along_and, System.along_and, and_iff_right sequential, and_iff_right sequential]
    at both
  exact both

/-- Two entities are scheduled and the first one is unscheduled. -/
theorem run_keeps_active_iff_schedule :
    (observed fun _ => .ok true).Along (KeepsActive fun _ => .ok true) (init, ⟨[], []⟩)
      [.schedule 1, .schedule 2, .unschedule 1, .unscheduleAgain 1] :=
  (run_keeps_active_iff (fun _ => .ok true)
    [.schedule 1, .schedule 2, .unschedule 1, .unscheduleAgain 1]
    ⟨⟨rfl, rfl, rfl⟩, ⟨rfl, rfl, rfl⟩, ⟨rfl, rfl, rfl⟩, trivial, trivial⟩).mpr
    ⟨fun _ => by decide, fun _ => by decide, trivial, trivial, trivial⟩

/-- An entity that is unscheduled and scheduled again before an epoch is active twice. -/
theorem rescheduled_twice :
    ¬(observed fun _ => .ok true).Along (KeepsActive fun _ => .ok true) (init, ⟨[], []⟩)
      [.schedule 1, .unschedule 1, .unscheduleAgain 1, .schedule 1, .scheduleAgain 1] := by
  rintro ⟨-, -, -, -, last, -⟩
  have nodup := (last.consistent ⟨rfl, rfl, rfl⟩).nodup
  exact absurd nodup (by decide)

end Gxf.Std.EpochScheduler
