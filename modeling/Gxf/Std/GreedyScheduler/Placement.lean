import Gxf.Std.GreedyScheduler.Unschedule

/-!
# The place of every entity

An entity that was scheduled and still has to be executed is, at the end of an iteration, in
one of three lists, once.  Within an iteration it can stand in two of them, and twice among
the active entities: the removals that are still to come make up for it.  New entities that
do not fit among the active ones are lost.
-/

namespace Gxf.Std.GreedyScheduler

open Gxf.Core Gxf.Lib System

/-- The phases out of which the thread does not return but after an error. -/
def Phase.isInside : Phase → Bool
  | .execute _ | .unschedule | .notify _ => true
  | .idle | .load | .check | .absorb | .remove | .finish | .sleep | .stopped | .crashed => false

/-- The phases in which the thread has ended. -/
def Phase.isOver : Phase → Bool
  | .stopped | .crashed => true
  | .idle | .load | .check | .absorb | .execute _ | .unschedule | .notify _ | .remove | .finish
  | .sleep => false

/-- The entities that were scheduled, those among them that were unscheduled since, those
that have answered `NEVER`, and whether an iteration was left out of its middle. -/
structure Trail where
  scheduled : List Uid
  unscheduled : List Uid
  never : List Uid
  interrupted : Bool
  deriving DecidableEq, Repr

/-- The entity that answers `NEVER` in a step of the loop. -/
def answeredNever (input : Input) : Report → List Uid
  | .executed eid =>
      match input.condition with
      | .ok condition => if condition.type = .NEVER then [eid] else []
      | .error _ => []
  | .blocked | .returned _ | .iterated | .progressed => []

/-- What a step adds. -/
def Trail.observe (setting : Setting) (trail : Trail) (before : GreedyScheduler) :
    Event → GreedyScheduler × Report → Trail
  | .schedule eid _, (_, .returned (.ok ())) =>
      if setting.hasCodelets eid then
        { trail with
          scheduled := eid :: trail.scheduled
          unscheduled := trail.unscheduled.filter (· ≠ eid) }
      else trail
  | .unschedule eid _, (_, .returned (.ok ())) =>
      { trail with unscheduled := eid :: trail.unscheduled }
  | .loop input, (after, report) =>
      { trail with
        never := answeredNever input report ++ trail.never
        interrupted := trail.interrupted || (before.phase.isInside && after.phase.isOver) }
  | _, _ => trail

/-- The scheduler with a trail. -/
def observed (setting : Setting) : System (GreedyScheduler × Trail) Event Report where
  step state event :=
    let answer := (system setting).step state.1 event
    ((answer.1, state.2.observe setting state.1 event answer), answer.2)

/-- Each entity that still has to be executed is in one of three lists, once, and the
entities that wait for an event are counted. -/
structure Accounted (scheduler : GreedyScheduler) (trail : Trail) : Prop where
  placed : ∀ eid ∈ trail.scheduled, eid ∉ trail.unscheduled → eid ∉ trail.never →
    scheduler.newEntities.count eid + scheduler.activeEntities.count eid +
      scheduler.eventWaiting.list.count eid = 1
  waiting : scheduler.countWaitEvent = scheduler.eventWaiting.list.length

/-- The entities are accounted for when a step ends an iteration. -/
def KeepsAccount (setting : Setting) (state : GreedyScheduler × Trail) (event : Event) : Prop :=
  (∃ input, event = .loop input) → state.1.phase = .finish ∨ state.1.phase = .sleep →
    Accounted ((observed setting).step state event).1.1 ((observed setting).step state event).1.2

def ScheduledOnce (state : GreedyScheduler × Trail) : Event → Prop
  | .schedule eid _ => eid ∉ state.2.scheduled
  | .unschedule .. | .eventNotify .. | .runAsync | .stop | .loop _ => True

/-- The conditions on a step: new entities fit among the active ones when they are taken
over, and the thread is not started again after it has left an iteration out of its
middle. -/
def Fits (state : GreedyScheduler × Trail) : Event → Prop
  | .loop _ => state.1.phase = .load ∨ state.1.phase = .absorb →
      state.1.activeEntities.length + state.1.newEntities.length ≤ kMaxEntities
  | .runAsync => state.1.phase = .stopped → state.2.interrupted = false
  | .schedule .. | .unschedule .. | .eventNotify .. | .stop => True

section Lists

variable {eid other : Uid} {active : List Uid}

theorem absorbNew_eq {newEntities : List Uid}
    (room : active.length + newEntities.length ≤ kMaxEntities) :
    absorbNew active newEntities = active ++ newEntities := by
  induction newEntities generalizing active with
  | nil => exact (List.append_nil active).symm
  | cons first rest ih =>
      rw [List.length_cons] at room
      have fits : active.length < kMaxEntities := by omega
      have later : (active ++ [first]).length + rest.length ≤ kMaxEntities := by
        rw [List.length_append, List.length_singleton]
        omega
      rw [absorbNew, List.foldl_cons, emplaceBack, if_pos fits, Option.getD_some]
      exact (ih later).trans (List.append_assoc ..)

theorem emplaceBack_eq {entities : List Uid} (room : emplaceBack active other = some entities) :
    entities = active ++ [other] := by
  unfold emplaceBack at room
  split at room
  next =>
    cases room
    rfl
  next => cases room

theorem count_removeAll (toRemove active : List Uid) (eid : Uid) :
    (toRemove.foldl List.erase active).count eid = active.count eid - toRemove.count eid := by
  induction toRemove generalizing active with
  | nil => rfl
  | cons first rest ih =>
      rw [List.foldl_cons, ih, List.count_erase, List.count_cons]
      omega

theorem count_eraseIdx (eid : Uid) {position : Nat} (isOther : active[position]? = some other) :
    (active.eraseIdx position).count eid + (if other == eid then 1 else 0) = active.count eid := by
  obtain ⟨inside, isOther⟩ := List.getElem?_eq_some_iff.mp isOther
  have parts : active = active.take position ++ other :: active.drop (position + 1) := by
    rw [← isOther, ← List.drop_eq_getElem_cons inside, List.take_append_drop]
  rw [List.eraseIdx_eq_take_drop_succ, List.count_append]
  rw [congrArg (List.count eid) parts, List.count_append, List.count_cons, Nat.add_assoc]

theorem length_filter_ne (isOnce : active.count eid = 1) :
    active.length = (active.filter (· ≠ eid)).length + 1 := by
  have others : active.countP (fun other => ¬decide (other ≠ eid) = true) = active.count eid := by
    refine List.countP_congr fun other _ => ?_
    rw [decide_eq_true_eq, decide_eq_true_eq, not_not, beq_iff_eq]
  rw [List.length_eq_countP_add_countP fun other => decide (other ≠ eid), others, isOnce,
    List.countP_eq_length_filter]

theorem count_eraseActive (eid other : Uid) (fuel position : Nat) (active : List Uid)
    (mutexes : Finset Uid) :
    (eraseActive other fuel position active mutexes).1.count eid ≤ active.count eid ∧ (eid ≠ other →
        (eraseActive other fuel position active mutexes).1.count eid = active.count eid) := by
  induction fuel generalizing position active mutexes with
  | zero => exact ⟨Nat.le_refl _, fun _ => rfl⟩
  | succ fuel ih =>
      rw [eraseActive]
      split
      next isOther =>
        have erased := count_eraseIdx eid isOther
        have fewer : (active.eraseIdx position).count eid ≤ active.count eid := by omega
        have same (different : eid ≠ other) :
            (active.eraseIdx position).count eid = active.count eid := by
          rw [if_neg fun isEid => different (eq_of_beq isEid).symm] at erased
          exact erased
        split
        next =>
          obtain ⟨fewest, keeps⟩ :=
            ih (position + 1) (active.eraseIdx position) (mutexes.erase other)
          exact ⟨Nat.le_trans fewest fewer,
            fun different => (keeps different).trans (same different)⟩
        next => exact ⟨fewer, same⟩
      next => exact ih (position + 1) active mutexes

end Lists

/-! ## Places -/

/-- Every entity has one place at most, once the removals to come are done, and every entity
that still has to be executed has one. -/
structure Placed (scheduled unscheduled never new active waiting removals : List Uid) : Prop where
  once : ∀ eid, new.count eid + waiting.count eid + (active.count eid - removals.count eid) ≤ 1
  kept : ∀ eid ∈ scheduled, eid ∉ unscheduled → eid ∉ never →
    new.count eid + waiting.count eid + active.count eid = 1 + removals.count eid ∧
      removals.count eid ≤ active.count eid
  known : ∀ eid, eid ∈ new ∨ eid ∈ active ∨ eid ∈ waiting ∨ eid ∈ removals → eid ∈ scheduled

namespace Placed

variable {scheduled unscheduled never new active waiting removals : List Uid} {eid : Uid}

theorem mono (placed : Placed scheduled unscheduled never new active waiting removals)
    {unscheduled' never' : List Uid} (moreUnscheduled : unscheduled ⊆ unscheduled')
    (moreNever : never ⊆ never') :
    Placed scheduled unscheduled' never' new active waiting removals where
  once := placed.once
  kept other isScheduled notUnscheduled notNever :=
    placed.kept other isScheduled (fun member => notUnscheduled (moreUnscheduled member))
      fun member => notNever (moreNever member)
  known := placed.known

theorem schedule (placed : Placed scheduled unscheduled never new active waiting removals)
    (fresh : eid ∉ scheduled) :
    Placed (eid :: scheduled) (unscheduled.filter (· ≠ eid)) never (new ++ [eid]) active waiting
      removals := by
  have nowhere := fun place => fresh (placed.known eid place)
  have notNew := List.count_eq_zero_of_not_mem fun member => nowhere (.inl member)
  have notActive := List.count_eq_zero_of_not_mem fun member => nowhere (.inr (.inl member))
  have notWaiting := List.count_eq_zero_of_not_mem fun member => nowhere (.inr (.inr (.inl member)))
  have notRemoved := List.count_eq_zero_of_not_mem fun member => nowhere (.inr (.inr (.inr member)))
  constructor
  · intro other
    rw [List.count_append]
    by_cases same : other = eid
    · rw [same, notNew, notWaiting, notActive, List.count_singleton_self]
      omega
    · rw [List.count_singleton, if_neg fun isEid => same (eq_of_beq isEid).symm]
      exact placed.once other
  · intro other isScheduled notUnscheduled notNever
    rw [List.count_append]
    by_cases same : other = eid
    · rw [same, notNew, notWaiting, notActive, notRemoved, List.count_singleton_self]
      omega
    · rw [List.count_singleton, if_neg fun isEid => same (eq_of_beq isEid).symm]
      refine placed.kept other ((List.mem_cons.mp isScheduled).resolve_left same)
        (fun member => notUnscheduled ?_) notNever
      exact List.mem_filter.mpr ⟨member, decide_eq_true same⟩
  · intro other place
    rw [List.mem_append, List.mem_singleton] at place
    by_cases same : other = eid
    · exact List.mem_cons.mpr (.inl same)
    · refine List.mem_cons_of_mem _ (placed.known other ?_)
      exact place.imp_left fun either => either.resolve_right same

theorem absorb (placed : Placed scheduled unscheduled never new active waiting []) :
    Placed scheduled unscheduled never [] (active ++ new) waiting [] := by
  constructor
  · intro other
    have once := placed.once other
    rw [List.count_nil, Nat.sub_zero] at once
    rw [List.count_append, List.count_nil, Nat.sub_zero]
    omega
  · intro other isScheduled notUnscheduled notNever
    have kept := placed.kept other isScheduled notUnscheduled notNever
    rw [List.count_append, List.count_nil]
    rw [List.count_nil] at kept
    omega
  · intro other place
    rw [List.mem_append] at place
    refine placed.known other ?_
    rcases place with isNew | (isActive | isNew) | isWaiting | isRemoved
    · cases isNew
    · exact .inr (.inl isActive)
    · exact .inl isNew
    · exact .inr (.inr (.inl isWaiting))
    · cases isRemoved

section

variable (placed : Placed scheduled unscheduled never new active waiting removals)
include placed

section

variable (isActive : active.count eid = 1)
include isActive

theorem alone (notRemoved : removals.count eid = 0) :
    new.count eid = 0 ∧ waiting.count eid = 0 := by
  have once := placed.once eid
  omega

theorem known_append {other : Uid}
    (place : other ∈ new ∨ other ∈ active ∨ other ∈ waiting ++ [eid] ∨
      other ∈ removals ++ [eid]) : other ∈ scheduled := by
  have isScheduled : eid ∈ scheduled :=
    placed.known eid (.inr (.inl (List.count_pos_iff.mp (by omega))))
  rw [List.mem_append, List.mem_append, List.mem_singleton] at place
  by_cases same : other = eid
  · exact same ▸ isScheduled
  · refine placed.known other ?_
    exact place.imp_right fun rest => rest.imp_right fun rest =>
      rest.imp (fun either => either.resolve_right same) fun either => either.resolve_right same

theorem wait (notRemoved : removals.count eid = 0) :
    Placed scheduled unscheduled never new active (waiting ++ [eid]) (removals ++ [eid]) := by
  obtain ⟨notNew, notWaiting⟩ := placed.alone isActive notRemoved
  constructor
  · intro other
    rw [List.count_append, List.count_append]
    by_cases same : other = eid
    · rw [same, notNew, notWaiting, isActive, notRemoved, List.count_singleton_self]
    · rw [List.count_singleton, if_neg fun isEid => same (eq_of_beq isEid).symm]
      exact placed.once other
  · intro other isScheduled notUnscheduled notNever
    rw [List.count_append, List.count_append]
    by_cases same : other = eid
    · rw [same, notNew, notWaiting, isActive, notRemoved, List.count_singleton_self]
      omega
    · rw [List.count_singleton, if_neg fun isEid => same (eq_of_beq isEid).symm]
      exact placed.kept other isScheduled notUnscheduled notNever
  · exact fun other place => placed.known_append isActive place

theorem leave (isDone : eid ∈ unscheduled ∨ eid ∈ never) :
    Placed scheduled unscheduled never new active waiting (removals ++ [eid]) := by
  constructor
  · intro other
    have once := placed.once other
    rw [List.count_append]
    omega
  · intro other isScheduled notUnscheduled notNever
    have different : ¬(eid == other) = true := fun isEid => by
      cases eq_of_beq isEid
      exact isDone.elim notUnscheduled notNever
    rw [List.count_append, List.count_singleton, if_neg different]
    exact placed.kept other isScheduled notUnscheduled notNever
  · intro other place
    exact placed.known_append isActive (place.imp_right fun rest => rest.imp_right fun rest =>
        rest.imp_left (List.mem_append_left _))

end

theorem erase (isUnscheduled : eid ∈ unscheduled) {fewer : List Uid}
    (counts : ∀ other, fewer.count other ≤ active.count other ∧
      (other ≠ eid → fewer.count other = active.count other)) :
    Placed scheduled unscheduled never new fewer waiting removals := by
  constructor
  · intro other
    have once := placed.once other
    have count := (counts other).1
    omega
  · intro other isScheduled notUnscheduled notNever
    have different : other ≠ eid := fun same => notUnscheduled (same ▸ isUnscheduled)
    rw [(counts other).2 different]
    exact placed.kept other isScheduled notUnscheduled notNever
  · intro other place
    refine placed.known other (place.imp_right fun rest => rest.imp_left fun isActive => ?_)
    exact List.count_pos_iff.mp (Nat.lt_of_lt_of_le (List.count_pos_iff.mpr isActive)
      (counts other).1)

theorem waits_once (isWaiting : eid ∈ waiting) : waiting.count eid = 1 := by
  have once := placed.once eid
  have present := List.count_pos_iff.mpr isWaiting
  omega

theorem notify (isWaiting : eid ∈ waiting) :
    Placed scheduled unscheduled never new (active ++ [eid]) (waiting.filter (· ≠ eid))
      removals := by
  have waits := placed.waits_once isWaiting
  have gone : (waiting.filter (· ≠ eid)).count eid = 0 := by
    refine List.count_eq_zero_of_not_mem fun member => ?_
    exact of_decide_eq_true (List.mem_filter.mp member).2 rfl
  have others (other : Uid) (different : other ≠ eid) :
      (waiting.filter (· ≠ eid)).count other = waiting.count other :=
    List.count_filter (decide_eq_true different)
  constructor
  · intro other
    have once := placed.once other
    rw [List.count_append]
    by_cases same : other = eid
    · rw [same] at once ⊢
      rw [gone, List.count_singleton_self]
      omega
    · rw [others other same, List.count_singleton, if_neg fun isEid => same (eq_of_beq isEid).symm]
      exact once
  · intro other isScheduled notUnscheduled notNever
    have kept := placed.kept other isScheduled notUnscheduled notNever
    rw [List.count_append]
    by_cases same : other = eid
    · rw [same] at kept ⊢
      rw [gone, List.count_singleton_self]
      omega
    · rw [others other same, List.count_singleton, if_neg fun isEid => same (eq_of_beq isEid).symm]
      exact kept
  · intro other place
    rw [List.mem_append, List.mem_singleton] at place
    by_cases same : other = eid
    · exact same ▸ placed.known eid (.inr (.inr (.inl isWaiting)))
    · refine placed.known other (place.imp_right fun rest => ?_)
      exact rest.imp (fun either => either.resolve_right same)
        fun rest => rest.imp_left fun member => (List.mem_filter.mp member).1

theorem remove :
    Placed scheduled unscheduled never new (removals.foldl List.erase active) waiting [] := by
  constructor
  · intro other
    rw [count_removeAll, List.count_nil, Nat.sub_zero]
    exact placed.once other
  · intro other isScheduled notUnscheduled notNever
    have kept := placed.kept other isScheduled notUnscheduled notNever
    rw [count_removeAll, List.count_nil]
    omega
  · intro other place
    refine placed.known other ?_
    rcases place with isNew | isActive | isWaiting | isRemoved
    · exact .inl isNew
    · exact .inr (.inl (mem_removeAll isActive))
    · exact .inr (.inr (.inl isWaiting))
    · cases isRemoved

end

end Placed

/-! ## The invariant -/

/-- The entities that the end of the iteration takes off the active ones. -/
def removals (scheduler : GreedyScheduler) : List Uid :=
  match scheduler.phase with
  | .execute _ | .unschedule | .notify _ | .remove => scheduler.toRemove
  | .idle | .load | .check | .absorb | .finish | .sleep | .stopped | .crashed => []

/-- The lists account for all entities. -/
structure Ledger (scheduler : GreedyScheduler) (scheduled unscheduled never : List Uid) : Prop where
  placed : Placed scheduled unscheduled never scheduler.newEntities scheduler.activeEntities
    scheduler.eventWaiting.list scheduler.removals
  waiting : scheduler.countWaitEvent = scheduler.eventWaiting.list.length
  requested : ∀ eid ∈ scheduler.unscheduleEntities.list, eid ∈ scheduled ∧ eid ∈ unscheduled
  mutexes : ∀ eid ∈ scheduler.entityMutexMap, eid ∈ scheduled
  executing : ∀ position, scheduler.phase = .execute position → scheduler.activeEntities.Nodup ∧
      scheduler.toRemove ⊆ scheduler.activeEntities.take position

variable {scheduler next : GreedyScheduler} {scheduled unscheduled never : List Uid}
  {setting : Setting} {input : Input}

namespace Ledger

section

variable (ledger : Ledger scheduler scheduled unscheduled never)
include ledger

/-- A step that leaves the lists as they are. -/
theorem of_same (new : next.newEntities = scheduler.newEntities)
    (active : next.activeEntities = scheduler.activeEntities)
    (waiting : next.eventWaiting = scheduler.eventWaiting)
    (count : next.countWaitEvent = scheduler.countWaitEvent)
    (requests : next.unscheduleEntities = scheduler.unscheduleEntities)
    (mutexes : next.entityMutexMap = scheduler.entityMutexMap)
    (removals : next.removals = scheduler.removals)
    (executing : ∀ position, next.phase = .execute position → scheduler.activeEntities.Nodup ∧
        next.toRemove ⊆ scheduler.activeEntities.take position) :
    Ledger next scheduled unscheduled never := by
  constructor
  · rw [new, active, waiting, removals]
    exact ledger.placed
  · rw [count, waiting]
    exact ledger.waiting
  · rw [requests]
    exact ledger.requested
  · rw [mutexes]
    exact ledger.mutexes
  · rw [active]
    exact executing

theorem takeOver
    (room : scheduler.activeEntities.length + scheduler.newEntities.length ≤ kMaxEntities)
    (before : scheduler.removals = []) (new : next.newEntities = [])
    (active : next.activeEntities = absorbNew scheduler.activeEntities scheduler.newEntities)
    (waiting : next.eventWaiting = scheduler.eventWaiting)
    (count : next.countWaitEvent = scheduler.countWaitEvent)
    (requests : next.unscheduleEntities = scheduler.unscheduleEntities)
    (mutexes : next.entityMutexMap = scheduler.entityMutexMap)
    (after : next.removals = [])
    (executing : ∀ position, next.phase = .execute position → next.toRemove = []) :
    Ledger next scheduled unscheduled never := by
  have placed := ledger.placed
  rw [before] at placed
  have absorbed := placed.absorb
  rw [absorbNew_eq room] at active
  constructor
  · rw [new, active, waiting, after]
    exact absorbed
  · rw [count, waiting]
    exact ledger.waiting
  · rw [requests]
    exact ledger.requested
  · rw [mutexes]
    exact ledger.mutexes
  · intro position isPhase
    rw [executing position isPhase, active]
    refine ⟨List.nodup_iff_count_le_one.mpr fun eid => ?_, List.nil_subset _⟩
    have once := absorbed.once eid
    rw [List.count_nil] at once
    omega

theorem applyCondition {position : Nat} {eid : Uid} (isPhase : scheduler.phase = .execute position)
    (isEid : scheduler.activeEntities[position]? = some eid)
    (condition : Except GxfResult SchedulingCondition)
    (isDone : ∀ found, condition = .ok found → found.type = .NEVER →
      eid ∈ unscheduled ∨ eid ∈ never) :
    (scheduler.applyCondition position eid condition).phase.isOver = true ∨
      Ledger (scheduler.applyCondition position eid condition) scheduled unscheduled never := by
  obtain ⟨nodup, behind⟩ := ledger.executing position isPhase
  obtain ⟨inside, atPosition⟩ := List.getElem?_eq_some_iff.mp isEid
  have isActive : scheduler.activeEntities.count eid = 1 :=
    List.count_eq_one_of_mem nodup (List.mem_of_getElem? isEid)
  have taken : scheduler.activeEntities.take (position + 1) =
      scheduler.activeEntities.take position ++ [eid] := by
    rw [List.take_succ_eq_append_getElem inside, atPosition]
  have notRemoved : scheduler.toRemove.count eid = 0 := by
    refine List.count_eq_zero_of_not_mem fun member => ?_
    have unique := nodup.sublist (List.take_sublist (position + 1) _)
    rw [taken] at unique
    exact (List.nodup_append.mp unique).2.2 eid (behind member) eid
      (List.mem_singleton_self eid) rfl
  have further : scheduler.toRemove ⊆ scheduler.activeEntities.take (position + 1) := by
    rw [taken]
    exact fun other member => List.mem_append_left _ (behind member)
  have furthest : scheduler.toRemove ++ [eid] ⊆ scheduler.activeEntities.take (position + 1) := by
    rw [taken]
    exact List.append_subset.mpr
      ⟨fun other member => List.mem_append_left _ (behind member), List.subset_append_right ..⟩
  have before : scheduler.removals = scheduler.toRemove := by
    rw [removals, isPhase]
  have placed := ledger.placed
  rw [before] at placed
  have goesOn (countReady : Int) (earliestTarget : Option Int) :
      Ledger { scheduler with phase := .execute (position + 1), countReady, earliestTarget }
        scheduled unscheduled never := by
    refine ledger.of_same rfl rfl rfl rfl rfl rfl before.symm fun later isLater => ?_
    cases isLater
    exact ⟨nodup, further⟩
  cases condition with
  | error code => exact .inl rfl
  | ok condition =>
      rw [GreedyScheduler.applyCondition]
      cases isType : condition.type with
      | READY | WAIT_TIME | WAIT => exact .inr (goesOn _ _)
      | NEVER =>
          dsimp only
          cases room : emplaceBack scheduler.toRemove eid with
          | none => exact .inl rfl
          | some toRemove =>
              cases emplaceBack_eq room
              refine .inr ⟨placed.leave isActive (isDone _ rfl isType), ledger.waiting,
                ledger.requested, ledger.mutexes, fun later isLater => ?_⟩
              cases isLater
              exact ⟨nodup, furthest⟩
      | WAIT_EVENT =>
          dsimp only
          cases room : emplaceBack scheduler.toRemove eid with
          | none => exact .inl rfl
          | some toRemove =>
              cases emplaceBack_eq room
              refine .inr ⟨placed.wait isActive notRemoved, ?_, ledger.requested, ledger.mutexes,
                fun later isLater => ?_⟩
              · change scheduler.countWaitEvent + 1 =
                  ((scheduler.eventWaiting.list ++ [eid]).length : Int)
                rw [ledger.waiting, List.length_append]
                rfl
              · cases isLater
                exact ⟨nodup, furthest⟩

theorem executeNext {position : Nat}
    (isPhase : scheduler.phase = .execute position) (input : Input) :
    (scheduler.executeNext position input).1.phase.isOver = true ∨
      Ledger (scheduler.executeNext position input).1 scheduled unscheduled
        (answeredNever input (scheduler.executeNext position input).2 ++ never) := by
  have before : scheduler.removals = scheduler.toRemove := by
    rw [removals, isPhase]
  rw [GreedyScheduler.executeNext]
  cases isEid : scheduler.activeEntities[position]? with
  | none =>
      exact .inr (ledger.of_same rfl rfl rfl rfl rfl rfl before.symm fun _ isLater => by
        cases isLater)
  | some eid =>
      dsimp only
      split
      next => exact .inl rfl
      next =>
        split
        next isRequested =>
          refine ledger.applyCondition isPhase isEid _ fun _ _ _ => .inl ?_
          exact (ledger.requested eid (of_decide_eq_true isRequested)).2
        next =>
          have grown : Ledger scheduler scheduled unscheduled
              (answeredNever input (.executed eid) ++ never) :=
            { ledger with
              placed := ledger.placed.mono (List.Subset.refl _) (List.subset_append_right ..) }
          refine grown.applyCondition isPhase isEid _ fun condition isCondition isNever => .inr ?_
          have answered : answeredNever input (.executed eid) = [eid] := by
            simp only [answeredNever, isCondition, isNever, if_true]
          rw [answered]
          exact List.mem_cons_self ..

theorem processRequest (isPhase : scheduler.phase = .unschedule) :
    scheduler.processRequest.1.phase.isOver = true ∨
      Ledger scheduler.processRequest.1 scheduled unscheduled never := by
  have before : scheduler.removals = scheduler.toRemove := by
    rw [removals, isPhase]
  rw [GreedyScheduler.processRequest]
  cases popped : scheduler.unscheduleEntities.popEvent with
  | none =>
      exact .inr (ledger.of_same rfl rfl rfl rfl rfl rfl before.symm fun _ isLater => by
        cases isLater)
  | some request =>
      obtain ⟨eid, rest⟩ := request
      have isList := EventList.popEvent_list popped
      have counts (other : Uid) := count_eraseActive other eid scheduler.activeEntities.length 0
        scheduler.activeEntities scheduler.entityMutexMap
      have fewer := (eraseActive_subset eid scheduler.activeEntities.length 0
        scheduler.activeEntities scheduler.entityMutexMap).2
      dsimp only
      cases erased : (eraseActive eid scheduler.activeEntities.length 0 scheduler.activeEntities
          scheduler.entityMutexMap).2.2 with
      | false => exact .inl rfl
      | true =>
          have isUnscheduled := (ledger.requested eid (isList ▸ List.mem_cons_self ..)).2
          have placed := ledger.placed.erase isUnscheduled counts
          rw [before] at placed
          exact .inr ⟨placed, ledger.waiting,
            fun other member => ledger.requested other (isList ▸ List.mem_cons_of_mem _ member),
            fun other member => ledger.mutexes other (fewer member),
            fun _ isLater => by cases isLater⟩

theorem processNotification {notifications : List Uid}
    (isPhase : scheduler.phase = .notify notifications) :
    (scheduler.processNotification notifications).1.phase.isOver = true ∨
      Ledger (scheduler.processNotification notifications).1 scheduled unscheduled never := by
  have before : scheduler.removals = scheduler.toRemove := by
    rw [removals, isPhase]
  cases notifications with
  | nil =>
      exact .inr (ledger.of_same rfl rfl rfl rfl rfl rfl before.symm fun _ isLater => by
        cases isLater)
  | cons eid rest =>
      rw [GreedyScheduler.processNotification]
      split
      next hasEvent =>
        have isWaiting : eid ∈ scheduler.eventWaiting.list := of_decide_eq_true hasEvent
        dsimp only
        cases room : emplaceBack scheduler.activeEntities eid with
        | none => exact .inl rfl
        | some activeEntities =>
            cases emplaceBack_eq room
            have placed := ledger.placed.notify isWaiting
            rw [before] at placed
            refine .inr ⟨placed, ?_, ledger.requested, ledger.mutexes,
              fun _ isLater => by cases isLater⟩
            change scheduler.countWaitEvent - 1 =
              ((scheduler.eventWaiting.list.filter (· ≠ eid)).length : Int)
            rw [ledger.waiting, length_filter_ne (ledger.placed.waits_once isWaiting)]
            omega
      next =>
        exact .inr (ledger.of_same rfl rfl rfl rfl rfl rfl before.symm fun _ isLater => by
          cases isLater)

theorem removeEntities (isPhase : scheduler.phase = .remove) :
    Ledger scheduler.removeEntities.1 scheduled unscheduled never := by
  have before : scheduler.removals = scheduler.toRemove := by
    rw [removals, isPhase]
  have placed := ledger.placed.remove
  rw [before] at placed
  exact ⟨placed, ledger.waiting, ledger.requested, ledger.mutexes,
    fun _ isLater => by cases isLater⟩

end

end Ledger

theorem processRequest_snd (scheduler : GreedyScheduler) :
    scheduler.processRequest.2 = .progressed := by
  rw [processRequest]
  split <;> rfl

theorem processNotification_snd (scheduler : GreedyScheduler) (notifications : List Uid) :
    (scheduler.processNotification notifications).2 = .progressed := by
  cases notifications with
  | nil => rfl
  | cons eid rest =>
      rw [processNotification]
      split
      next =>
        dsimp only
        split <;> rfl
      next => rfl

theorem Ledger.advance (ledger : Ledger scheduler scheduled unscheduled never)
    (setting : Setting) (input : Input)
    (fits : scheduler.phase = .load ∨ scheduler.phase = .absorb →
      scheduler.activeEntities.length + scheduler.newEntities.length ≤ kMaxEntities) :
    scheduler.phase.isInside = true ∧ (scheduler.advance setting input).1.phase.isOver = true ∨
      Ledger (scheduler.advance setting input).1 scheduled unscheduled
        (answeredNever input (scheduler.advance setting input).2 ++ never) := by
  cases isPhase : scheduler.phase with
  | idle | stopped | crashed =>
      simp only [GreedyScheduler.advance, isPhase]
      exact .inr ledger
  | load =>
      have before : scheduler.removals = [] := by
        rw [removals, isPhase]
      simp only [GreedyScheduler.advance, isPhase, loadEntities]
      split
      next =>
        exact .inr (ledger.takeOver (fits (.inl isPhase)) before rfl rfl rfl rfl rfl rfl rfl
          fun _ isLater => by cases isLater)
      next =>
        exact .inr (ledger.takeOver (fits (.inl isPhase)) before rfl rfl rfl rfl rfl rfl rfl
          fun _ isLater => by cases isLater)
  | check =>
      have before : scheduler.removals = [] := by
        rw [removals, isPhase]
      simp only [GreedyScheduler.advance, isPhase, checkTermination]
      split_ifs
      all_goals exact .inr (ledger.of_same rfl rfl rfl rfl rfl rfl before.symm
        fun _ isLater => by cases isLater)
  | absorb =>
      have before : scheduler.removals = [] := by
        rw [removals, isPhase]
      simp only [GreedyScheduler.advance, isPhase, absorbEntities]
      exact .inr (ledger.takeOver (fits (.inr isPhase)) before rfl rfl rfl rfl rfl rfl rfl
        fun _ _ => rfl)
  | execute position =>
      simp only [GreedyScheduler.advance, isPhase]
      exact (ledger.executeNext isPhase input).imp_left fun ended => ⟨rfl, ended⟩
  | unschedule =>
      simp only [GreedyScheduler.advance, isPhase, processRequest_snd]
      exact (ledger.processRequest isPhase).imp_left fun ended => ⟨rfl, ended⟩
  | notify notifications =>
      simp only [GreedyScheduler.advance, isPhase, processNotification_snd]
      exact (ledger.processNotification isPhase).imp_left fun ended => ⟨rfl, ended⟩
  | remove =>
      simp only [GreedyScheduler.advance, isPhase]
      exact .inr (ledger.removeEntities isPhase)
  | finish =>
      have before : scheduler.removals = [] := by
        rw [removals, isPhase]
      simp only [GreedyScheduler.advance, isPhase, finishIteration]
      split_ifs
      all_goals exact .inr (ledger.of_same rfl rfl rfl rfl rfl rfl before.symm
        fun _ isLater => by cases isLater)
  | sleep =>
      have before : scheduler.removals = [] := by
        rw [removals, isPhase]
      simp only [GreedyScheduler.advance, isPhase, wakeUp]
      split
      · exact .inr (ledger.of_same rfl rfl rfl rfl rfl rfl before.symm
          fun _ isLater => by cases isLater)
      · exact .inr ledger

/-! ## Runs -/

/-- The lists account for all entities, unless an iteration was left out of its middle and
the thread has ended. -/
def Kept (state : GreedyScheduler × Trail) : Prop :=
  state.2.interrupted = true ∧ state.1.phase.isOver = true ∨
    Ledger state.1 state.2.scheduled state.2.unscheduled state.2.never

variable {state : GreedyScheduler × Trail}

theorem kept_init : Kept (init, ⟨[], [], [], false⟩) := by
  refine .inr ⟨⟨?_, ?_, ?_⟩, rfl, ?_, ?_, ?_⟩
  · exact fun eid => Nat.zero_le _
  · exact fun eid member => by cases member
  · intro eid place
    rcases place with member | member | member | member <;> cases member
  · exact fun eid member => by cases member
  · exact fun eid member => absurd member (Finset.notMem_empty eid)
  · exact fun position isPhase => by cases isPhase

/-- Once the thread has ended, its steps change nothing. -/
theorem advance_of_isOver (isOver : scheduler.phase.isOver = true) :
    scheduler.advance setting input = (scheduler, .blocked) := by
  cases isPhase : scheduler.phase with
  | stopped | crashed => simp only [advance, isPhase]
  | idle | load | check | absorb | execute | unschedule | notify | remove | finish | sleep =>
      rw [isPhase] at isOver
      cases isOver

theorem kept_loop (kept : Kept state) (fits : Fits state (.loop input)) :
    Kept ((observed setting).step state (.loop input)).1 := by
  rcases kept with ⟨interrupted, isOver⟩ | ledger
  · simp only [observed, system, Trail.observe]
    rw [advance_of_isOver isOver]
    exact .inl ⟨by rw [interrupted, Bool.true_or], isOver⟩
  · rcases ledger.advance setting input fits with ⟨inside, ended⟩ | later
    · refine .inl ⟨?_, ended⟩
      change (state.2.interrupted || (state.1.phase.isInside && _)) = true
      rw [inside, Bool.true_and]
      exact Bool.or_eq_true_iff.mpr (.inr ended)
    · exact .inr later

theorem kept_schedule (kept : Kept state) {eid : Uid} (lookup : Except GxfResult Unit)
    (fresh : eid ∉ state.2.scheduled) :
    Kept ((observed setting).step state (.schedule eid lookup)).1 := by
  have unchanged : Kept (state.1, state.2) := kept
  simp only [observed, system, scheduleAbi]
  cases lookup with
  | error code => exact unchanged
  | ok found =>
      dsimp only
      split
      next noCodelets =>
        have notScheduled : ¬setting.hasCodelets eid = true := by
          rw [(Bool.not_eq_true' _).mp noCodelets]
          exact Bool.false_ne_true
        simp only [Trail.observe]
        rw [if_neg notScheduled]
        exact unchanged
      next withCodelets =>
        have hasCodelets : setting.hasCodelets eid = true := by
          rw [Bool.not_eq_true, Bool.not_eq_false'] at withCodelets
          exact withCodelets
        split
        next => exact unchanged
        next =>
          split
          next => exact unchanged
          next newEntities room =>
            cases emplaceBack_eq room
            simp only [Trail.observe]
            rw [if_pos hasCodelets]
            rcases kept with ended | ledger
            · exact .inl ended
            · have removalsEq : removals { state.1 with
                  newEntities := state.1.newEntities ++ [eid]
                  entityMutexMap := insert eid state.1.entityMutexMap } = state.1.removals := rfl
              refine .inr ⟨removalsEq ▸ ledger.placed.schedule fresh, ledger.waiting, ?_, ?_,
                ledger.executing⟩
              · intro other member
                obtain ⟨isScheduled, isUnscheduled⟩ := ledger.requested other member
                have different : other ≠ eid := fun same => fresh (same ▸ isScheduled)
                exact ⟨List.mem_cons_of_mem _ isScheduled,
                  List.mem_filter.mpr ⟨isUnscheduled, decide_eq_true different⟩⟩
              · intro other member
                rcases Finset.mem_insert.mp member with same | before
                · exact List.mem_cons.mpr (.inl same)
                · exact List.mem_cons_of_mem _ (ledger.mutexes other before)

theorem kept_unschedule (kept : Kept state) (eid : Uid) (lookup : Except GxfResult Unit) :
    Kept ((observed setting).step state (.unschedule eid lookup)).1 := by
  have unchanged : Kept (state.1, state.2) := kept
  have noted : Kept (state.1, { state.2 with unscheduled := eid :: state.2.unscheduled }) := by
    rcases kept with ended | ledger
    · exact .inl ended
    · exact .inr
        { ledger with
          placed := ledger.placed.mono (List.subset_cons_self ..) (List.Subset.refl _)
          requested := fun other member =>
            (ledger.requested other member).imp_right (List.mem_cons_of_mem _) }
  simp only [observed, system, unscheduleAbi]
  cases lookup with
  | error code => exact unchanged
  | ok found =>
      dsimp only
      split
      next => exact noted
      next =>
        split
        next => exact noted
        next hasMutex =>
          rcases noted with ended | ledger
          · exact .inl ended
          · refine .inr ⟨ledger.placed, ledger.waiting, ?_, ledger.mutexes, ledger.executing⟩
            intro other member
            rcases EventList.mem_pushEvent.mp member with before | same
            · exact ledger.requested other before
            · rw [same]
              exact ⟨ledger.mutexes eid (not_not.mp hasMutex), List.mem_cons_self ..⟩

theorem kept_runAsync (kept : Kept state) (fits : Fits state .runAsync) :
    Kept ((observed setting).step state .runAsync).1 := by
  have starts (isReady : state.1.phase = .idle ∨ state.1.phase = .stopped) :
      Kept ({ state.1 with phase := .load }, state.2) := by
    rcases kept with ⟨interrupted, isOver⟩ | ledger
    · rcases isReady with isIdle | isStopped
      · rw [isIdle] at isOver
        cases isOver
      · rw [fits isStopped] at interrupted
        cases interrupted
    · have before : state.1.removals = [] := by
        rw [removals]
        rcases isReady with isPhase | isPhase <;> rw [isPhase]
      exact .inr (ledger.of_same rfl rfl rfl rfl rfl rfl before.symm
        fun _ isLater => by cases isLater)
  simp only [observed, system, runAsyncAbi]
  split
  next isPhase => exact starts (.inl isPhase)
  next isPhase => exact starts (.inr isPhase)
  next => exact kept

theorem kept_step {event : Event} (kept : Kept state)
    (orderly : ScheduledOnce state event ∧ Fits state event) :
    Kept ((observed setting).step state event).1 := by
  cases event with
  | schedule eid lookup => exact kept_schedule kept lookup orderly.1
  | unschedule eid lookup => exact kept_unschedule kept eid lookup
  | eventNotify eid event =>
      simp only [observed, system, eventNotifyAbi]
      split
      next => exact kept
      next =>
        rcases kept with ended | ledger
        · exact .inl ended
        · exact .inr { ledger with }
  | runAsync => exact kept_runAsync kept orderly.2
  | stop =>
      rcases kept with ended | ledger
      · exact .inl ended
      · exact .inr { ledger with }
  | loop input => exact kept_loop kept orderly.2

theorem removals_of_end (setting : Setting) (input : Input)
    (isPhase : scheduler.phase = .finish ∨ scheduler.phase = .sleep) :
    (scheduler.advance setting input).1.removals = [] := by
  rcases isPhase with isPhase | isPhase
  · simp only [advance, isPhase, finishIteration]
    split_ifs <;> rfl
  · simp only [advance, isPhase, wakeUp]
    split
    · rfl
    · rw [removals, isPhase]

theorem Ledger.accounted {trail : Trail}
    (ledger : Ledger scheduler trail.scheduled trail.unscheduled trail.never)
    (none : scheduler.removals = []) : Accounted scheduler trail := by
  refine ⟨fun eid isScheduled notUnscheduled notNever => ?_, ledger.waiting⟩
  have kept := (ledger.placed.kept eid isScheduled notUnscheduled notNever).1
  rw [none, List.count_nil] at kept
  omega

theorem keepsAccount_of_kept {event : Event} (kept : Kept state) (fits : Fits state event) :
    KeepsAccount setting state event := by
  rintro ⟨input, rfl⟩ isPhase
  have notOver : state.1.phase.isOver = false := by
    rcases isPhase with isPhase | isPhase <;> rw [isPhase] <;> rfl
  have notInside : state.1.phase.isInside = false := by
    rcases isPhase with isPhase | isPhase <;> rw [isPhase] <;> rfl
  have ledger := kept.resolve_left fun ended => by
    rw [notOver] at ended
    cases ended.2
  have later := (ledger.advance setting input fits).resolve_left fun inside => by
    rw [notInside] at inside
    cases inside.1
  have accounted : Ledger ((observed setting).step state (.loop input)).1.1
      ((observed setting).step state (.loop input)).1.2.scheduled
      ((observed setting).step state (.loop input)).1.2.unscheduled
      ((observed setting).step state (.loop input)).1.2.never := later
  exact accounted.accounted (removals_of_end setting input isPhase)

/-- In a run in which entities are scheduled once, and in which there is room for them, every
entity has its place at the end of every iteration. -/
theorem run_accounted (setting : Setting) (events : List Event)
    (scheduledOnce : (observed setting).Along ScheduledOnce (init, ⟨[], [], [], false⟩) events)
    (fits : (observed setting).Along Fits (init, ⟨[], [], [], false⟩) events) :
    (observed setting).Along (KeepsAccount setting) (init, ⟨[], [], [], false⟩) events :=
  along_of_invariant (fun _ _ kept orderly => kept_step kept orderly)
    (fun _ _ kept orderly => keepsAccount_of_kept kept orderly.2) kept_init
    ((along_and ..).mpr ⟨scheduledOnce, fits⟩)

instance (state : GreedyScheduler × Trail) : (event : Event) → Decidable (ScheduledOnce state event)
  | .schedule eid _ => inferInstanceAs (Decidable (eid ∉ state.2.scheduled))
  | .unschedule .. | .eventNotify .. | .runAsync | .stop | .loop _ => isTrue trivial

instance (state : GreedyScheduler × Trail) : (event : Event) → Decidable (Fits state event)
  | .loop _ => inferInstanceAs (Decidable (_ → _ ≤ _))
  | .runAsync => inferInstanceAs (Decidable (_ → state.2.interrupted = false))
  | .schedule .. | .unschedule .. | .eventNotify .. | .stop => isTrue trivial

/-- An entity waits for an event, which is notified twice. -/
theorem run_accounted_notified : ((observed plain).Along ScheduledOnce (init, ⟨[], [], [], false⟩)
          (started .WAIT_EVENT ++ [.eventNotify 1 .GXF_EVENT_EXTERNAL,
            .eventNotify 1 .GXF_EVENT_EXTERNAL] ++ turns 12) ∧
        (observed plain).Along Fits (init, ⟨[], [], [], false⟩)
          (started .WAIT_EVENT ++ [.eventNotify 1 .GXF_EVENT_EXTERNAL,
            .eventNotify 1 .GXF_EVENT_EXTERNAL] ++ turns 12)) ∧
      (observed plain).Along (KeepsAccount plain) (init, ⟨[], [], [], false⟩)
        (started .WAIT_EVENT ++ [.eventNotify 1 .GXF_EVENT_EXTERNAL,
          .eventNotify 1 .GXF_EVENT_EXTERNAL] ++ turns 12) :=
  ⟨⟨by decide, by decide⟩, run_accounted plain _ (by decide) (by decide)⟩

/-! ## More entities than there is room for -/

section Overfull

variable {eid : Uid} {ids : List Uid} {trail : Trail}

theorem run_schedules (scheduler : GreedyScheduler) (trail : Trail)
    (free : scheduler.phase.holdsEntityMutex = false)
    (room : scheduler.newEntities.length + ids.length ≤ kMaxEntities)
    (nodup : ids.Nodup) (fresh : ∀ eid ∈ ids, eid ∉ trail.scheduled)
    (none : trail.unscheduled = []) :
    ∃ mutexes, scheduler.entityMutexMap ⊆ mutexes ∧ (∀ eid ∈ ids, eid ∈ mutexes) ∧
      (observed plain).Along ScheduledOnce (scheduler, trail)
          (ids.map fun eid => .schedule eid (.ok ())) ∧
        (observed plain).run (scheduler, trail) (ids.map fun eid => .schedule eid (.ok ())) =
          ({ scheduler with
              newEntities := scheduler.newEntities ++ ids
              entityMutexMap := mutexes },
            { trail with scheduled := ids.reverse ++ trail.scheduled }) := by
  induction ids generalizing scheduler trail with
  | nil =>
      refine ⟨scheduler.entityMutexMap, Finset.Subset.refl _, ?_, trivial, ?_⟩
      · exact fun eid member => absurd member List.not_mem_nil
      · rw [List.append_nil]
        rfl
  | cons first rest ih =>
      rw [List.length_cons] at room
      obtain ⟨notLater, nodup⟩ := List.nodup_cons.mp nodup
      have fits : scheduler.newEntities.length < kMaxEntities := by omega
      have step : ((observed plain).step (scheduler, trail) (.schedule first (.ok ()))).1 =
          ({ scheduler with
              newEntities := scheduler.newEntities ++ [first]
              entityMutexMap := insert first scheduler.entityMutexMap },
            { trail with scheduled := first :: trail.scheduled }) := by
        simp only [observed, system, scheduleAbi, plain, free, emplaceBack, fits, Trail.observe,
          none, Bool.not_true, Bool.false_eq_true, if_false, if_true, List.filter_nil]
      have later : ∀ eid ∈ rest, eid ∉ first :: trail.scheduled := by
        intro eid member isKnown
        rcases List.mem_cons.mp isKnown with same | before
        · exact notLater (same ▸ member)
        · exact fresh eid (List.mem_cons_of_mem _ member) before
      have roomLater : (scheduler.newEntities ++ [first]).length + rest.length ≤ kMaxEntities := by
        rw [List.length_append, List.length_singleton]
        omega
      obtain ⟨mutexes, more, haveMutex, once, run⟩ := ih
        { scheduler with
          newEntities := scheduler.newEntities ++ [first]
          entityMutexMap := insert first scheduler.entityMutexMap }
        { trail with scheduled := first :: trail.scheduled } free roomLater nodup later none
      refine ⟨mutexes, ?_, ?_, ?_, ?_⟩
      · exact Finset.Subset.trans (Finset.subset_insert ..) more
      · exact List.forall_mem_cons.mpr ⟨more (Finset.mem_insert_self ..), haveMutex⟩
      · refine ⟨fresh first (List.mem_cons_self ..), ?_⟩
        rw [step]
        exact once
      · rw [List.map_cons, run_cons, step, run, List.reverse_cons, List.append_assoc,
          List.append_assoc]
        rfl

theorem run_waiting (scheduler : GreedyScheduler) (trail : Trail) {position count : Nat}
    (isPhase : scheduler.phase = .execute position)
    (inside : position + count ≤ scheduler.activeEntities.length)
    (noRequests : scheduler.unscheduleEntities.list = [])
    (haveMutex : ∀ eid ∈ scheduler.activeEntities, eid ∈ scheduler.entityMutexMap) :
    (observed plain).run (scheduler, trail) (List.replicate count (turn .WAIT)) =
      ({ scheduler with phase := .execute (position + count) }, trail) := by
  induction count generalizing scheduler position with
  | zero =>
      rw [Nat.add_zero, ← isPhase]
      rfl
  | succ count ih =>
      have isInside : position < scheduler.activeEntities.length := by omega
      have isEid : scheduler.activeEntities[position]? = some scheduler.activeEntities[position] :=
        List.getElem?_eq_getElem isInside
      have hasMutex := haveMutex _ (List.getElem_mem isInside)
      have notRequested :
          scheduler.unscheduleEntities.hasEvent scheduler.activeEntities[position] = false := by
        rw [EventList.hasEvent, noRequests]
        rfl
      have step : ((observed plain).step (scheduler, trail) (turn .WAIT)).1 =
          ({ scheduler with phase := .execute (position + 1) }, trail) := by
        simp only [observed, system, turn, advance, isPhase, executeNext, isEid, hasMutex,
          notRequested, not_true_eq_false, Bool.false_eq_true, if_false, applyCondition,
          Trail.observe, answeredNever, reduceCtorEq, List.nil_append, Phase.isOver,
          Bool.and_false, Bool.or_false]
      have insideLater : position + 1 + count ≤ scheduler.activeEntities.length := by omega
      have run := ih { scheduler with phase := .execute (position + 1) } rfl insideLater noRequests
        haveMutex
      rw [List.replicate_succ, run_cons, step, run, Nat.add_assoc, Nat.add_comm 1]

theorem along_scheduledOnce (state : GreedyScheduler × Trail) {events : List Event}
    (none : ∀ event ∈ events, ∀ eid lookup, event ≠ .schedule eid lookup) :
    (observed plain).Along ScheduledOnce state events := by
  induction events generalizing state with
  | nil => trivial
  | cons event rest ih =>
      obtain ⟨here, later⟩ := List.forall_mem_cons.mp none
      refine ⟨?_, ih _ later⟩
      cases event with
      | schedule eid lookup => exact absurd rfl (here eid lookup)
      | unschedule | eventNotify | runAsync | stop | loop => exact trivial

/-- The scheduler is filled, loads its entities, is given one more, and runs for one
iteration, in which all entities wait. -/
def overfull (ids : List Uid) (eid : Uid) : List Event :=
  ids.map (fun eid => .schedule eid (.ok ())) ++ [.runAsync, turn .WAIT] ++
    [.schedule eid (.ok ())] ++ [turn .WAIT, turn .WAIT] ++
    List.replicate ids.length (turn .WAIT) ++
    [turn .WAIT, turn .WAIT, turn .WAIT, turn .WAIT] ++ [turn .WAIT]

theorem absorbNew_full (isFull : ids.length = kMaxEntities) : absorbNew ids [eid] = ids := by
  have full : ¬ids.length < kMaxEntities := by omega
  rw [absorbNew, List.foldl_cons, List.foldl_nil, emplaceBack, if_neg full]
  rfl

/-- A scheduler that runs, with so many active entities. -/
def filled (ids : List Uid) (mutexes : Finset Uid) : GreedyScheduler :=
  { init with
    phase := .check
    stopping := false
    activeEntities := ids
    entityMutexMap := mutexes }

theorem run_load (mutexes : Finset Uid) (notNil : ids ≠ []) (room : ids.length ≤ kMaxEntities) :
    (observed plain).run ({ init with newEntities := [] ++ ids, entityMutexMap := mutexes }, trail)
        [.runAsync, turn .WAIT] =
      (filled ids mutexes, trail) := by
  have fits : ([] : List Uid).length + ids.length ≤ kMaxEntities := by
    rw [List.length_nil, Nat.zero_add]
    exact room
  have absorbed : absorbNew [] ids = ids := absorbNew_eq fits
  simp only [run_cons, run_nil, observed, system, runAsyncAbi, init, turn, advance,
    loadEntities, filled, List.nil_append, absorbed, notNil, if_false, Trail.observe, answeredNever,
    Phase.isInside, Bool.false_and, Bool.or_false]

theorem run_absorb (mutexes more : Finset Uid) (isFull : ids.length = kMaxEntities) :
    (observed plain).run
        ({ filled ids mutexes with newEntities := [] ++ [eid], entityMutexMap := more }, trail)
        [turn .WAIT, turn .WAIT] =
      ({ filled ids more with phase := .execute 0 }, trail) := by
  simp only [run_cons, run_nil, observed, system, init, filled, turn, advance, plain,
    checkTermination, absorbEntities, absorbNew_full isFull, Bool.false_eq_true, if_false,
    Trail.observe, answeredNever, List.nil_append, Phase.isInside, Bool.false_and,
    Bool.or_false]

theorem run_end (mutexes : Finset Uid) : (observed plain).run
        ({ filled ids mutexes with phase := .execute (0 + ids.length) }, trail)
        [turn .WAIT, turn .WAIT, turn .WAIT, turn .WAIT] =
      ({ filled ids mutexes with phase := .finish }, trail) := by
  have atEnd : ids[0 + ids.length]? = none := by
    rw [Nat.zero_add]
    exact List.getElem?_eq_none (Nat.le_refl _)
  simp only [run_cons, run_nil, observed, system, init, filled, turn, advance,
    executeNext, atEnd, processRequest, EventList.popEvent, EventList.exportList,
    processNotification, removeEntities, List.foldl_nil, Trail.observe, answeredNever,
    List.nil_append, Phase.isOver, Bool.and_false, Bool.or_false]

theorem step_end (mutexes : Finset Uid) : ∃ phase lastNoStopTs,
      ((observed plain).step ({ filled ids mutexes with phase := .finish }, trail) (turn .WAIT)).1 =
        ({ filled ids mutexes with phase, lastNoStopTs }, trail) := by
  simp only [observed, system, turn, advance, finishIteration, Trail.observe, answeredNever,
    Phase.isInside, Bool.false_and, Bool.or_false]
  split_ifs <;> exact ⟨_, _, rfl⟩

theorem overfull_loses (isFull : ids.length = kMaxEntities) (nodup : ids.Nodup)
    (fresh : eid ∉ ids) :
    (observed plain).Along ScheduledOnce (init, ⟨[], [], [], false⟩) (overfull ids eid) ∧
      ¬(observed plain).Along (KeepsAccount plain) (init, ⟨[], [], [], false⟩)
        (overfull ids eid) := by
  have notNil : ids ≠ [] := by
    rintro rfl
    cases isFull
  have notScheduled : ∀ other ∈ [eid], other ∉ ids.reverse ++ [] := by
    intro other member isScheduled
    rw [List.append_nil, List.mem_reverse] at isScheduled
    exact fresh (List.mem_singleton.mp member ▸ isScheduled)
  obtain ⟨mutexes, -, haveMutex, once, scheduled⟩ := run_schedules init ⟨[], [], [], false⟩ rfl
    (Nat.le_of_eq ((Nat.zero_add _).trans isFull)) nodup (fun _ _ => List.not_mem_nil) rfl
  have loaded := run_append_eq scheduled (run_load mutexes notNil (Nat.le_of_eq isFull))
  have room : (0 : Nat) + 1 ≤ kMaxEntities := by decide
  obtain ⟨moreMutexes, more, -, onceMore, scheduledMore⟩ := run_schedules (filled ids mutexes)
    ⟨ids.reverse ++ [], [], [], false⟩ rfl (by exact room) (List.nodup_singleton eid)
    notScheduled rfl
  have waited := run_waiting { filled ids moreMutexes with phase := .execute 0 }
    ⟨[eid].reverse ++ (ids.reverse ++ []), [], [], false⟩ rfl (Nat.le_of_eq (Nat.zero_add _)) rfl
    fun other member => more (haveMutex other member)
  have reached : (observed plain).run (init, ⟨[], [], [], false⟩)
      (ids.map (fun eid => .schedule eid (.ok ())) ++ [.runAsync, turn .WAIT] ++
        [.schedule eid (.ok ())] ++ [turn .WAIT, turn .WAIT] ++
        List.replicate ids.length (turn .WAIT) ++
        [turn .WAIT, turn .WAIT, turn .WAIT, turn .WAIT]) =
      ({ filled ids moreMutexes with phase := .finish },
        ⟨[eid].reverse ++ (ids.reverse ++ []), [], [], false⟩) :=
    run_append_eq (run_append_eq (run_append_eq
      (run_append_eq loaded scheduledMore) (run_absorb mutexes moreMutexes isFull)) waited)
      (run_end moreMutexes)
  have turnSchedules (count : Nat) : ∀ event ∈ List.replicate count (turn .WAIT),
      ∀ eid lookup, event ≠ .schedule eid lookup := by
    rintro event member eid lookup rfl
    cases List.eq_of_mem_replicate member
  constructor
  · rw [overfull, along_append, along_append, along_append,
      along_append, along_append, along_append]
    refine ⟨⟨⟨⟨⟨⟨once, trivial, trivial, trivial⟩, ?_⟩, trivial, trivial, trivial⟩, ?_⟩, trivial,
      trivial, trivial, trivial, trivial⟩, trivial, trivial⟩
    · exact loaded ▸ onceMore
    · exact along_scheduledOnce _ (turnSchedules _)
  · intro along
    rw [overfull, along_append, reached] at along
    have accounted := along.2.1 ⟨_, rfl⟩ (.inl rfl)
    obtain ⟨phase, lastNoStopTs, ended⟩ := step_end moreMutexes
    rw [ended] at accounted
    have placed := accounted.placed eid (List.mem_cons_self ..) List.not_mem_nil List.not_mem_nil
    change 0 + ids.count eid + 0 = 1 at placed
    rw [List.count_eq_zero_of_not_mem fresh] at placed
    cases placed

/-- One entity more than there is room for. -/
theorem new_entity_lost : (observed plain).Along ScheduledOnce (init, ⟨[], [], [], false⟩)
        (overfull ((List.range kMaxEntities).map Int.ofNat) kMaxEntities) ∧
      ¬(observed plain).Along (KeepsAccount plain) (init, ⟨[], [], [], false⟩)
        (overfull ((List.range kMaxEntities).map Int.ofNat) kMaxEntities) := by
  apply overfull_loses
  · rw [List.length_map, List.length_range]
  · exact List.nodup_range.map fun _ _ same => Int.ofNat.inj same
  · intro member
    obtain ⟨id, inRange, same⟩ := List.mem_map.mp member
    have less := List.mem_range.mp inRange
    have equal : id = kMaxEntities := Int.ofNat.inj same
    omega

end Overfull

end Gxf.Std.GreedyScheduler
