import Gxf.Std.EntityExecutor.Lifecycle

/-!
# Stopping the codelets

After a deactivation no codelet is started, unless some codelets of the entity started and
a later one failed to: the entity stays in a stage that the executor does not stop.
-/

namespace Gxf.Std.EntityItem

open Gxf.Core Gxf.Lib

variable {item : EntityItem} {environment : Environment} {timestamp : Int}

/-- No codelet is started. -/
def AllStopped (item : EntityItem) : Prop :=
  ∀ codelet ∈ item.codelets, ¬running codelet item.callbacks

/-- When the entity starts, all codelets do or the first one fails. -/
def StartsWhole (item : EntityItem) : Op → Prop
  | .execute environment _ =>
      environment.hasRouter = true → item.status = .GXF_ENTITY_STATUS_NOT_STARTED →
        (∀ codelet ∈ item.codelets, environment.startCode codelet = .GXF_SUCCESS) ∨
          ∀ codelet ∈ item.codelets.head?, environment.startCode codelet ≠ .GXF_SUCCESS
  | .deactivate _ => True

/-- Between the calls of the executor; a codelet that failed to start was the first one. -/
structure Settled (item : EntityItem) : Prop where
  stage : Stage AnyOrder item
  pending : item.status = .GXF_ENTITY_STATUS_START_PENDING → AllStopped item

/-- Some codelets started and a later one did not. -/
structure Stuck (item : EntityItem) : Prop where
  status : item.status = .GXF_ENTITY_STATUS_START_PENDING
  started : ¬AllStopped item

theorem reached_of_head {answer : Uid → GxfResult} {codelets : List Uid}
    (fails : ∀ codelet ∈ codelets.head?, answer codelet ≠ .GXF_SUCCESS) :
    ∀ codelet ∈ reached answer codelets, answer codelet ≠ .GXF_SUCCESS := by
  cases codelets with
  | nil => exact fun codelet member => absurd member (List.not_mem_nil)
  | cons first rest =>
      have firstFails : answer first ≠ .GXF_SUCCESS := fails first rfl
      rw [reached, if_neg firstFails]
      exact List.forall_mem_singleton.mpr firstFails

theorem allStopped_fail (resting : Resting AnyOrder item.codelets item.callbacks)
    (answer : Uid → GxfResult) :
    (∀ codelet ∈ item.codelets, ¬running codelet (item.callbacks ++
        (reached answer item.codelets).map fun codelet => .start codelet (answer codelet))) ↔
      ∀ codelet ∈ item.codelets.head?, answer codelet ≠ .GXF_SUCCESS := by
  have isPrefix := isPrefix_reached answer item.codelets
  have running_iff (codelet : Uid) := running_append_starts answer codelet item.callbacks
    (item.codelets_nodup.sublist isPrefix.sublist)
  constructor
  · intro stopped codelet isHead succeeds
    have isReached : codelet ∈ reached answer item.codelets :=
      List.mem_of_mem_head? (head?_reached answer item.codelets ▸ isHead)
    exact stopped codelet (isPrefix.subset isReached)
      ((running_iff codelet).mpr (.inl ⟨isReached, succeeds⟩))
  · intro fails codelet member isRunning
    rcases (running_iff codelet).mp isRunning with ⟨isReached, succeeds⟩ | before
    · exact reached_of_head fails codelet isReached succeeds
    · exact resting.notRunning codelet member before

theorem not_pending_of_stoppable (stops : stoppable item.status = true) :
    item.status ≠ .GXF_ENTITY_STATUS_START_PENDING := by
  intro isPending
  rw [isPending] at stops
  cases stops

theorem not_pending_stop (stops : stoppable item.status = true) (environment : Environment) :
    (item.stop environment).1.status ≠ .GXF_ENTITY_STATUS_START_PENDING := by
  rw [stop_fst stops]
  simp

theorem not_pending_concludeTick (stops : stoppable item.status = true)
    (environment : Environment) (timestamp : Int) (condition : SchedulingCondition)
    (code : GxfResult) :
    (item.concludeTick environment timestamp condition code).1.status ≠
      .GXF_ENTITY_STATUS_START_PENDING := by
  rcases concludeTick_cases stops environment timestamp condition code with
    continues | ⟨middle, continues, isNext⟩
  · exact not_pending_of_stoppable continues.stops
  · rw [isNext]
    exact not_pending_stop continues.stops environment

theorem not_pending_executeReady (item : EntityItem) (environment : Environment)
    (timestamp : Int) (condition : SchedulingCondition) :
    (item.executeReady environment timestamp condition).1.status ≠
      .GXF_ENTITY_STATUS_START_PENDING := by
  rw [executeReady]
  rcases tick_cases item environment timestamp with ⟨_, continues⟩ | ⟨_, ticked⟩
  · exact not_pending_concludeTick continues.stops _ _ _ _
  · rw [ticked]
    exact not_pending_concludeTick (stoppable_tickTicking _ _ _) _ _ _ _

theorem start_of_pending {op : Op}
    (isPending : (system.step item op).1.status = .GXF_ENTITY_STATUS_START_PENDING) :
    Logs item [] (system.step item op).1 ∨
      ∃ environment timestamp, op = .execute environment timestamp ∧
        environment.hasRouter = true ∧ item.status = .GXF_ENTITY_STATUS_NOT_STARTED ∧
          (system.step item op).1 = (item.start environment timestamp).1 := by
  have unchanged : Logs item [] item := ⟨rfl, rfl, rfl, (List.append_nil _).symm⟩
  cases op with
  | deactivate environment =>
      refine .inl ?_
      change (item.deactivate environment).1.status = _ at isPending
      change Logs item [] (item.deactivate environment).1
      rw [deactivate] at isPending ⊢
      split at isPending
      next notStarted => exact (if_pos notStarted).symm ▸ unchanged
      next started =>
        rw [if_neg started]
        by_cases stops : stoppable item.status = true
        · exact absurd isPending (not_pending_stop stops environment)
        · rw [Bool.not_eq_true] at stops
          rw [stop, stops]
          exact unchanged
  | execute environment timestamp =>
      change (item.execute environment timestamp).1.status = _ at isPending
      have checks := check_logs item environment timestamp
      rcases execute_cases item environment timestamp with
        ⟨_, isNext | ⟨notStarted, hasRouter, isNext⟩ | ⟨stops, isNext | isNext⟩⟩ |
          ⟨_, _, ready, isNext⟩
      · exact .inl (isNext.symm ▸ unchanged)
      · exact .inr ⟨environment, timestamp, rfl, hasRouter, notStarted, isNext⟩
      · exact .inl (isNext.symm ▸ checks)
      · rw [isNext] at isPending
        exact absurd isPending (not_pending_stop (checks.status.symm ▸ stops) environment)
      · rw [isNext] at isPending
        exact absurd isPending (not_pending_executeReady _ _ _ _)

theorem settled_step (settled : Settled item) {op : Op} (startsWhole : StartsWhole item op) :
    Settled (system.step item op).1 := by
  have reflexive (earlier later : Int) (_ : earlier ≤ later) : AnyOrder earlier later := trivial
  refine ⟨stage_step reflexive settled.stage (inOrder_anyOrder item op), fun isPending => ?_⟩
  rcases start_of_pending isPending with same | ⟨environment, timestamp, rfl, router, stopped,
    isNext⟩
  · rw [same.status] at isPending
    rw [AllStopped, same.codelets, same.callbacks, List.append_nil]
    exact settled.pending isPending
  · have resting : Resting AnyOrder item.codelets item.callbacks := by
      have stage := settled.stage
      rw [Stage, stopped] at stage
      exact stage
    rw [isNext, start_fst stopped] at isPending ⊢
    by_cases succeed : ∀ codelet ∈ item.codelets, environment.startCode codelet = .GXF_SUCCESS
    · rw [if_pos succeed] at isPending
      cases isPending
    · rw [if_neg succeed]
      exact (allStopped_fail resting environment.startCode).mpr
        ((startsWhole router stopped).resolve_left succeed)

theorem stuck_of_partial (settled : Settled item) {op : Op} (startsPartly : ¬StartsWhole item op) :
    Stuck (system.step item op).1 := by
  cases op with
  | deactivate environment => exact absurd trivial startsPartly
  | execute environment timestamp =>
      simp only [StartsWhole, Classical.not_imp, not_or] at startsPartly
      obtain ⟨router, stopped, fails, started⟩ := startsPartly
      have resting : Resting AnyOrder item.codelets item.callbacks := by
        have stage := settled.stage
        rw [Stage, stopped] at stage
        exact stage
      have isNext : (system.step item (.execute environment timestamp)).1 =
          (item.start environment timestamp).1 := by
        change (item.execute environment timestamp).1 = _
        simp [execute, router, stopped]
      rw [isNext, start_fst stopped, if_neg fails]
      exact ⟨rfl, mt (allStopped_fail resting environment.startCode).mp started⟩

theorem stuck_step (stuck : Stuck item) (op : Op) : Stuck (system.step item op).1 := by
  have same : (system.step item op).1 = item := by
    cases op with
    | deactivate environment =>
        change (item.deactivate environment).1 = item
        simp [deactivate, stop, stoppable, stuck.status]
    | execute environment timestamp =>
        change (item.execute environment timestamp).1 = item
        rw [execute, stuck.status]
        split <;> rfl
  exact same.symm ▸ stuck

theorem Settled.allStopped (settled : Settled item) (environment : Environment) :
    AllStopped (item.deactivate environment).1 := by
  have stage := settled.stage
  by_cases stops : stoppable item.status = true
  · have started : item.status ≠ .GXF_ENTITY_STATUS_NOT_STARTED := by
      intro isStatus
      rw [isStatus] at stops
      cases stops
    rw [deactivate, if_neg started, stop_fst stops]
    exact ((stage.alive stops).stop item.codelets_nodup environment.stopCode).notRunning
  · have same : (item.deactivate environment).1 = item := by
      rw [deactivate]
      split
      next => rfl
      next => simp [stop, stops]
    rw [same]
    cases isStatus : item.status with
    | GXF_ENTITY_STATUS_NOT_STARTED =>
        rw [Stage, isStatus] at stage
        exact stage.notRunning
    | GXF_ENTITY_STATUS_START_PENDING => exact settled.pending isStatus
    | GXF_ENTITY_STATUS_STOP_PENDING =>
        rw [Stage, isStatus] at stage
        exact stage.elim
    | GXF_ENTITY_STATUS_STARTED | GXF_ENTITY_STATUS_IDLE | GXF_ENTITY_STATUS_TICK_PENDING
    | GXF_ENTITY_STATUS_TICKING =>
        rw [isStatus] at stops
        exact absurd rfl stops

theorem Stuck.not_allStopped (stuck : Stuck item) (environment : Environment) :
    ¬AllStopped (item.deactivate environment).1 := by
  have stopped := stuck_step stuck (.deactivate environment)
  exact stopped.started

variable (entity : Entity) (components : Uid → SchedulingTerm) (lastExecutionTimestamp : Int)

/-- After a deactivation all codelets are stopped, exactly in the runs in which no start
fails behind a codelet that did start. -/
theorem run_stopped_iff (ops : List Op) (environment : Environment) :
    (∀ codelet ∈ entity.codelets, ¬running codelet
        ((system.run (activate entity components lastExecutionTimestamp) ops).deactivate
          environment).1.callbacks) ↔
      system.Along StartsWhole (activate entity components lastExecutionTimestamp) ops := by
  let good (item : EntityItem) : Prop := AllStopped (item.deactivate environment).1
  have stopped_iff : good (system.run (activate entity components lastExecutionTimestamp) ops) ↔
      system.Along StartsWhole (activate entity components lastExecutionTimestamp) ops := by
    apply System.final_iff_guarded (fun _ _ settled startsWhole => settled_step settled startsWhole)
      (fun _ _ settled startsPartly => stuck_of_partial settled startsPartly)
      (fun _ op stuck => stuck_step stuck op) (fun _ settled => settled.allStopped environment)
      (fun _ stuck => stuck.not_allStopped environment)
    exact ⟨stage_activate entity components lastExecutionTimestamp, fun isPending => by
      cases isPending⟩
  have codelets := (grows_run (activate entity components lastExecutionTimestamp)
    (ops ++ [.deactivate environment])).codelets
  rw [System.run_append] at codelets
  change ((system.run (activate entity components lastExecutionTimestamp) ops).deactivate
    environment).1.codelets = entity.codelets at codelets
  rw [← stopped_iff, ← codelets]
  rfl

/-- The second of two codelets fails to start. -/
def startingFirst : Environment :=
  { repeating with startCode := fun codelet => if codelet = 1 then .GXF_SUCCESS else .GXF_FAILURE }

/-- A codelet started, the next one failed to, and the entity is deactivated. -/
theorem failed_start_keeps_codelet : ¬∀ codelet ∈ [1, 2], ¬running codelet
      ((system.run (activate ⟨[1, 2], [], [], by decide, by decide⟩ (fun _ => .other) 0)
        [.execute startingFirst 0]).deactivate startingFirst).1.callbacks := by
  decide

end Gxf.Std.EntityItem
