import Gxf.Std.EntityExecutor.Stages

/-!
# The life cycle of codelets

Over all executions and deactivations of an item, every codelet goes through rounds of a
start, ticks and a stop, and is only ticked when all codelets of the entity are started.
The times of the ticks of a round are in order as long as no tick is earlier than a tick
of the round that was not completed.
-/

namespace Gxf.Std.EntityItem

open Gxf.Core Gxf.Lib Lifecycle

variable {item next : EntityItem} {environment : Environment} {timestamp : Int}

/-! ## What a call of the executor does -/

/-- An item went on to another one by adding calls. -/
structure Grows (item next : EntityItem) : Prop where
  codelets : next.codelets = item.codelets
  callbacks : item.callbacks <+: next.callbacks

/-- A started item went on to another one, and called neither codelets nor terms. -/
structure Continues (item next : EntityItem) : Prop where
  codelets : next.codelets = item.codelets
  terms : next.terms = item.terms
  components : next.components = item.components
  lastExecutionTimestamp : next.lastExecutionTimestamp = item.lastExecutionTimestamp
  stops : stoppable next.status = true
  callbacks : ∃ extra, (∀ callback ∈ extra, callback.isPlain = true) ∧
    next.callbacks = item.callbacks ++ extra

theorem Grows.trans {last : EntityItem} (first : Grows item next) (second : Grows next last) :
    Grows item last :=
  ⟨second.codelets.trans first.codelets, first.callbacks.trans second.callbacks⟩

theorem Continues.grows (continues : Continues item next) : Grows item next := by
  obtain ⟨extra, _, isNext⟩ := continues.callbacks
  exact ⟨continues.codelets, extra, isNext.symm⟩

theorem Logs.grows {extra : List Callback} (logs : Logs item extra next) : Grows item next :=
  ⟨logs.codelets, extra, logs.callbacks.symm⟩

theorem check_logs (item : EntityItem) (environment : Environment) (timestamp : Int) :
    Logs item [] (item.check environment timestamp).1 := by
  rw [check]
  split <;> exact ⟨rfl, rfl, rfl, (List.append_nil _).symm⟩

theorem stop_fst (stops : stoppable item.status = true) : (item.stop environment).1 = { item with
      status := .GXF_ENTITY_STATUS_NOT_STARTED
      callbacks := item.callbacks ++
        item.codelets.map fun codelet => .stop codelet (environment.stopCode codelet) } := by
  simp only [stop, stops, stopCodelets_fst, setEntityStatus]
  rfl

theorem start_fst (notStarted : item.status = .GXF_ENTITY_STATUS_NOT_STARTED) :
    (item.start environment timestamp).1 =
      if ∀ codelet ∈ item.codelets, environment.startCode codelet = .GXF_SUCCESS then
        { item with
          status := .GXF_ENTITY_STATUS_STARTED
          lastExecutionTimestamp := timestamp
          callbacks := item.callbacks ++
            item.codelets.map fun codelet => .start codelet (environment.startCode codelet) }
      else
        { item with
          status := .GXF_ENTITY_STATUS_START_PENDING
          callbacks := item.callbacks ++ (reached environment.startCode item.codelets).map
            fun codelet => .start codelet (environment.startCode codelet) } := by
  have called := callCodelets_fst .start environment.startCode item.codelets
    (item.setEntityStatus .GXF_ENTITY_STATUS_START_PENDING)
  have succeeded := callCodelets_snd .start environment.startCode item.codelets
    (item.setEntityStatus .GXF_ENTITY_STATUS_START_PENDING)
  rw [start, if_neg (not_not.mpr notStarted), startCodelets]
  generalize callCodelets _ _ _ _ = started at called succeeded
  by_cases succeed : ∀ codelet ∈ item.codelets, environment.startCode codelet = .GXF_SUCCESS
  · rw [if_pos succeed]
    simp only [if_pos (succeeded.mpr succeed), called, reached_of_forall succeed]
    rfl
  · rw [if_neg succeed]
    simp only [if_neg (mt succeeded.mp succeed), called]
    rfl

/-- A condition lets the entity tick. -/
def IsDue (condition : SchedulingCondition) (timestamp : Int) : Prop :=
  condition.type = .READY ∨ condition.type = .WAIT_TIME ∧ condition.targetTimestamp ≤ timestamp

/-- An execution comes to a tick of the entity. -/
def Due (item : EntityItem) (environment : Environment) (timestamp : Int) : Prop :=
  environment.hasRouter = true ∧
    (item.status = .GXF_ENTITY_STATUS_STARTED ∨ item.status = .GXF_ENTITY_STATUS_IDLE) ∧
      ∃ condition, (item.check environment timestamp).2 = .ok condition ∧ IsDue condition timestamp

/-- A tick of the entity comes to its codelets. -/
def Reached (item : EntityItem) (environment : Environment) (timestamp : Int) : Prop :=
  item.lastExecutionTimestamp ≤ timestamp ∧ environment.syncInbox = .GXF_SUCCESS

theorem executeChecked_cases (item : EntityItem) (environment : Environment) (timestamp : Int)
    (condition : SchedulingCondition) :
    let next := (item.executeChecked environment timestamp condition).1
    ¬IsDue condition timestamp ∧ (next = item ∨ next = (item.stop environment).1) ∨
      IsDue condition timestamp ∧
        ∃ ready, next = (item.executeReady environment timestamp ready).1 := by
  intro next
  have isNext : next = (item.executeChecked environment timestamp condition).1 := rfl
  rw [executeChecked] at isNext
  cases isType : condition.type with
  | READY =>
      rw [isType] at isNext
      exact .inr ⟨.inl isType, condition, isNext⟩
  | WAIT_TIME =>
      simp only [isType] at isNext
      by_cases isDue : condition.targetTimestamp ≤ timestamp
      · rw [if_pos isDue] at isNext
        exact .inr ⟨.inr ⟨isType, isDue⟩, _, isNext⟩
      · rw [if_neg isDue] at isNext
        exact .inl ⟨by simp [IsDue, isType, isDue], .inl isNext⟩
  | WAIT | WAIT_EVENT =>
      rw [isType] at isNext
      exact .inl ⟨by simp [IsDue, isType], .inl isNext⟩
  | NEVER =>
      rw [isType] at isNext
      exact .inl ⟨by simp [IsDue, isType], .inr isNext⟩

/-- The item that calls its codelets in a tick. -/
def received (item : EntityItem) : EntityItem :=
  (item.setEntityStatus .GXF_ENTITY_STATUS_TICK_PENDING).record (.syncInbox .GXF_SUCCESS)

theorem continues_received : Continues item item.received :=
  ⟨rfl, rfl, rfl, rfl, rfl, _, List.forall_mem_singleton.mpr rfl, rfl⟩

theorem unfinished_received (item : EntityItem) :
    unfinished item.received.callbacks = unfinished item.callbacks :=
  unfinished_append_silent (List.forall_mem_singleton.mpr rfl) item.callbacks

theorem execute_cases (item : EntityItem) (environment : Environment) (timestamp : Int) :
    let checked := (item.check environment timestamp).1
    let next := (item.execute environment timestamp).1
    ¬item.Due environment timestamp ∧ (next = item ∨
          item.status = .GXF_ENTITY_STATUS_NOT_STARTED ∧ environment.hasRouter = true ∧
            next = (item.start environment timestamp).1 ∨
          stoppable item.status = true ∧ (next = checked ∨ next = (checked.stop environment).1)) ∨
      item.Due environment timestamp ∧ stoppable item.status = true ∧
        ∃ ready, next = (checked.executeReady environment timestamp ready).1 := by
  intro checked next
  have isNext : next = (item.execute environment timestamp).1 := rfl
  rw [execute] at isNext
  by_cases hasRouter : environment.hasRouter = true
  · rw [hasRouter] at isNext
    cases isStatus : item.status with
    | GXF_ENTITY_STATUS_START_PENDING | GXF_ENTITY_STATUS_TICK_PENDING
    | GXF_ENTITY_STATUS_TICKING | GXF_ENTITY_STATUS_STOP_PENDING =>
        rw [isStatus] at isNext
        exact .inl ⟨by simp [Due, isStatus], .inl isNext⟩
    | GXF_ENTITY_STATUS_NOT_STARTED =>
        rw [isStatus] at isNext
        exact .inl ⟨by simp [Due, isStatus], .inr (.inl ⟨rfl, hasRouter, isNext⟩)⟩
    | GXF_ENTITY_STATUS_STARTED | GXF_ENTITY_STATUS_IDLE =>
        simp only [isStatus] at isNext
        cases isChecked : (item.check environment timestamp).2 with
        | error code =>
            simp only [isChecked] at isNext
            exact .inl ⟨by simp [Due, isChecked], .inr (.inr ⟨rfl, .inr isNext⟩)⟩
        | ok condition =>
            simp only [isChecked] at isNext
            rcases executeChecked_cases checked environment timestamp condition with
              ⟨notDue, either⟩ | ⟨isDue, ready, executed⟩
            · refine .inl ⟨by simp [Due, isChecked, notDue], .inr (.inr ⟨rfl, ?_⟩)⟩
              rw [isNext]
              exact either
            · refine .inr ⟨⟨hasRouter, ?_, condition, isChecked, isDue⟩, rfl, ready, ?_⟩
              · simp [isStatus]
              · rw [isNext]
                exact executed
  · rw [Bool.not_eq_true] at hasRouter
    rw [hasRouter] at isNext
    exact .inl ⟨by simp [Due, hasRouter], .inl isNext⟩

theorem tick_cases (item : EntityItem) (environment : Environment) (timestamp : Int) :
    let pending := item.setEntityStatus .GXF_ENTITY_STATUS_TICK_PENDING
    ¬item.Reached environment timestamp ∧ Continues item (pending.tick environment timestamp).1 ∨
      item.Reached environment timestamp ∧
        pending.tick environment timestamp = item.received.tickTicking environment timestamp := by
  intro pending
  have isPending : pending.status = .GXF_ENTITY_STATUS_TICK_PENDING := rfl
  rw [tick, if_neg (not_not.mpr isPending)]
  by_cases tooEarly : timestamp < pending.lastExecutionTimestamp
  · rw [if_pos tooEarly]
    refine .inl ⟨fun reached => absurd reached.1 (not_le.mpr tooEarly), rfl, rfl, rfl, rfl, rfl,
      [], ?_⟩
    exact ⟨by simp, (List.append_nil _).symm⟩
  · rw [if_neg tooEarly]
    by_cases synced : environment.syncInbox = .GXF_SUCCESS
    · rw [synced]
      exact .inr ⟨⟨not_lt.mp tooEarly, synced⟩, rfl⟩
    · simp only [if_pos synced]
      refine .inl ⟨fun reached => synced reached.2, rfl, rfl, rfl, rfl, rfl, _, ?_, rfl⟩
      exact List.forall_mem_singleton.mpr rfl

theorem concludeTick_cases (stops : stoppable item.status = true) (environment : Environment)
    (timestamp : Int) (condition : SchedulingCondition) (code : GxfResult) :
    let next := (item.concludeTick environment timestamp condition code).1
    Continues item next ∨ ∃ middle, Continues item middle ∧ next = (middle.stop environment).1 := by
  intro next
  have isNext : next = (item.concludeTick environment timestamp condition code).1 := rfl
  have unchanged : Continues item item :=
    ⟨rfl, rfl, rfl, rfl, stops, [], by simp, (List.append_nil _).symm⟩
  have searched (found : EntityItem) (isFound : item.findController environment = .ok found) :
      Continues item found := by
    rw [findController] at isFound
    split at isFound
    next => exact Except.ok.inj isFound ▸ unchanged
    next =>
      split at isFound
      next => exact Except.ok.inj isFound ▸ unchanged
      next => cases isFound
      next =>
        cases isFound
        exact ⟨rfl, rfl, rfl, rfl, stops, [], by simp, (List.append_nil _).symm⟩
  rw [concludeTick] at isNext
  cases isFound : item.findController environment with
  | error failure =>
      rw [isFound] at isNext
      exact .inl (isNext ▸ unchanged)
  | ok found =>
      have continues := searched found isFound
      simp only [isFound] at isNext
      by_cases hasController : found.hasController = true
      · rw [if_pos hasController] at isNext
        obtain ⟨extra, arePlain, isExtra⟩ := continues.callbacks
        have told (status : EntityStatus) (isStoppable : stoppable status = true) :
            Continues item ({ found.record (.control code (environment.control code)) with
              behaviorStatus := (environment.control code).behaviorStatus }.setEntityStatus
                status) := by
          refine ⟨continues.codelets, continues.terms, continues.components,
            continues.lastExecutionTimestamp, isStoppable,
            extra ++ [.control code (environment.control code)], ?_, ?_⟩
          · exact List.forall_mem_append.mpr ⟨arePlain, List.forall_mem_singleton.mpr rfl⟩
          · rw [← List.append_assoc, ← isExtra]
            rfl
        rw [controlled] at isNext
        cases isStatus : (environment.control code).execStatus with
        | GXF_EXECUTE_SUCCESS =>
            simp only [isStatus] at isNext
            split at isNext
            next => exact .inl (isNext ▸ told _ rfl)
            next => exact .inl (isNext ▸ told found.status continues.stops)
        | GXF_EXECUTE_FAILURE_REPEAT =>
            simp only [isStatus] at isNext
            exact .inl (isNext ▸ told _ rfl)
        | GXF_EXECUTE_FAILURE_DEACTIVATE =>
            simp only [isStatus] at isNext
            exact .inr ⟨_, told _ rfl, isNext⟩
        | GXF_EXECUTE_FAILURE | other =>
            simp only [isStatus] at isNext
            exact .inl (isNext ▸ told found.status continues.stops)
      · rw [if_neg hasController] at isNext
        split at isNext
        next => exact .inr ⟨found, continues, isNext⟩
        next => exact .inl (isNext ▸ continues)

/-! ## One step -/

section Steps

variable {before : Int → Int → Prop} [DecidableRel before]

theorem grows_stop (item : EntityItem) (environment : Environment) :
    Grows item (item.stop environment).1 := by
  by_cases stops : stoppable item.status = true
  · rw [stop_fst stops]
    exact ⟨rfl, List.prefix_append _ _⟩
  · rw [Bool.not_eq_true] at stops
    rw [stop, stops]
    exact ⟨rfl, List.prefix_rfl⟩

theorem grows_start (notStarted : item.status = .GXF_ENTITY_STATUS_NOT_STARTED) :
    Grows item (item.start environment timestamp).1 := by
  rw [start_fst notStarted]
  split <;> exact ⟨rfl, List.prefix_append _ _⟩

theorem grows_tickTicking (item : EntityItem) (environment : Environment) (timestamp : Int) :
    Grows item (item.tickTicking environment timestamp).1 := by
  obtain ⟨codelets, either⟩ := tickTicking_cases item environment timestamp
  refine ⟨codelets, ?_⟩
  rcases either with ⟨_, _, extra, _, isNext⟩ | ⟨_, _, _, extra, _, isNext⟩
  · rw [isNext, List.append_assoc]
    exact List.prefix_append _ _
  · rw [isNext, List.append_assoc, List.append_assoc]
    exact List.prefix_append _ _

theorem Continues.alive (continues : Continues item next)
    (alive : Alive before item.codelets item.lastExecutionTimestamp item.callbacks) :
    Alive before next.codelets next.lastExecutionTimestamp next.callbacks := by
  obtain ⟨extra, arePlain, isNext⟩ := continues.callbacks
  rw [continues.codelets, continues.lastExecutionTimestamp, isNext]
  exact alive.append_quiet fun callback member => quiet_of_isPlain (arePlain callback member)

/-- A change of the terms only. -/
theorem Logs.stage (logs : Logs item [] next) (stage : Stage before item) : Stage before next := by
  have callbacks := logs.callbacks.trans (List.append_nil _)
  rw [Stage, logs.status, logs.codelets, logs.lastExecutionTimestamp, callbacks]
  exact stage

theorem Logs.alive (logs : Logs item [] next)
    (alive : Alive before item.codelets item.lastExecutionTimestamp item.callbacks) :
    Alive before next.codelets next.lastExecutionTimestamp next.callbacks := by
  rw [logs.codelets, logs.lastExecutionTimestamp, logs.callbacks, List.append_nil]
  exact alive

theorem stage_stop (stage : Stage before item) (environment : Environment) :
    Stage before (item.stop environment).1 := by
  by_cases stops : stoppable item.status = true
  · rw [stop_fst stops]
    exact (stage.alive stops).stop item.codelets_nodup environment.stopCode
  · rw [Bool.not_eq_true] at stops
    rw [stop, stops]
    exact stage

theorem stage_start (notStarted : item.status = .GXF_ENTITY_STATUS_NOT_STARTED)
    (stage : Stage before item) (environment : Environment) (timestamp : Int) :
    Stage before (item.start environment timestamp).1 := by
  have resting : Resting before item.codelets item.callbacks := by
    rw [Stage, notStarted] at stage
    exact stage
  rw [start_fst notStarted]
  split
  next succeed => exact resting.start item.codelets_nodup succeed timestamp
  next =>
    exact resting.fail (item.codelets_nodup.sublist (isPrefix_reached _ _).sublist)
      environment.startCode

theorem alive_tickTicking [IsTrans Int before]
    (reflexive : ∀ earlier later, earlier ≤ later → before earlier later)
    (alive : Alive before item.codelets item.lastExecutionTimestamp item.callbacks)
    (notEarlier : item.lastExecutionTimestamp ≤ timestamp)
    (inOrder : ∀ pending ∈ unfinished item.callbacks, before pending timestamp)
    (environment : Environment) :
    let next := (item.tickTicking environment timestamp).1
    stoppable next.status = true ∧
      Alive before next.codelets next.lastExecutionTimestamp next.callbacks := by
  intro next
  have nodup : (reached environment.tickCode item.codelets).Nodup :=
    item.codelets_nodup.sublist (isPrefix_reached _ _).sublist
  have ticked := alive.tick inOrder notEarlier nodup (head?_reached _ _) environment.tickCode
  obtain ⟨codelets, either⟩ := tickTicking_cases item environment timestamp
  rcases either with ⟨status, last, extra, areQuiet, isNext⟩ |
    ⟨status, last, all, extra, areQuiet, isNext⟩
  · rw [status, codelets, last, isNext]
    exact ⟨rfl, ticked.append_quiet areQuiet⟩
  · rw [status, codelets, last, isNext]
    refine ⟨rfl, (ticked.append_quiet areQuiet).complete reflexive fun codelet member => ?_⟩
    rw [observed_append_silent fun callback isExtra => (areQuiet callback isExtra).1]
    exact alive.phase_tick inOrder notEarlier nodup environment.tickCode member (all.symm ▸ member)

/-- The calls that a codelet observed are no history. -/
def Broken (before : Int → Int → Prop) [DecidableRel before] (item : EntityItem) : Prop :=
  ∃ codelet ∈ item.codelets, Lifecycle.phase before (observed codelet item.callbacks) = .broken

theorem Broken.of_grows (broken : Broken before item) (grows : Grows item next) :
    Broken before next := by
  obtain ⟨codelet, member, isBroken⟩ := broken
  obtain ⟨extra, isNext⟩ := grows.callbacks
  refine ⟨codelet, grows.codelets.symm ▸ member, ?_⟩
  rw [← isNext, observed_append, phase_append, isBroken, foldl_broken]

theorem broken_tickTicking
    (alive : Alive before item.codelets item.lastExecutionTimestamp item.callbacks)
    {pending : Int} (isPending : pending ∈ unfinished item.callbacks)
    (outOfOrder : ¬before pending timestamp) (environment : Environment) :
    Broken before (item.tickTicking environment timestamp).1 := by
  have nodup : (reached environment.tickCode item.codelets).Nodup :=
    item.codelets_nodup.sublist (isPrefix_reached _ _).sublist
  obtain ⟨codelet, member, isBroken⟩ := alive.broken_tick isPending outOfOrder nodup
    (head?_reached _ _) environment.tickCode
  obtain ⟨codelets, either⟩ := tickTicking_cases item environment timestamp
  refine ⟨codelet, codelets.symm ▸ member, ?_⟩
  rcases either with ⟨_, _, extra, _, isNext⟩ | ⟨_, _, _, extra, _, isNext⟩
  · rw [isNext, observed_append, phase_append, isBroken, foldl_broken]
  · rw [isNext, List.append_assoc, observed_append, phase_append, isBroken,
      foldl_broken]

theorem stage_concludeTick (stops : stoppable item.status = true)
    (alive : Alive before item.codelets item.lastExecutionTimestamp item.callbacks)
    (environment : Environment) (timestamp : Int) (condition : SchedulingCondition)
    (code : GxfResult) :
    Stage before (item.concludeTick environment timestamp condition code).1 := by
  rcases concludeTick_cases stops environment timestamp condition code with
    continues | ⟨middle, continues, isNext⟩
  · exact stage_of_alive continues.stops (continues.alive alive)
  · rw [isNext]
    exact stage_stop (stage_of_alive continues.stops (continues.alive alive)) environment

theorem grows_concludeTick (stops : stoppable item.status = true) (environment : Environment)
    (timestamp : Int) (condition : SchedulingCondition) (code : GxfResult) :
    Grows item (item.concludeTick environment timestamp condition code).1 := by
  rcases concludeTick_cases stops environment timestamp condition code with
    continues | ⟨middle, continues, isNext⟩
  · exact continues.grows
  · rw [isNext]
    exact continues.grows.trans (grows_stop middle environment)

theorem stoppable_tickTicking (item : EntityItem) (environment : Environment) (timestamp : Int) :
    stoppable (item.tickTicking environment timestamp).1.status = true := by
  rcases (tickTicking_cases item environment timestamp).2 with ⟨status, _⟩ | ⟨status, _⟩
  · rw [status]
    rfl
  · rw [status]
    rfl

theorem stage_executeReady [IsTrans Int before]
    (reflexive : ∀ earlier later, earlier ≤ later → before earlier later)
    (alive : Alive before item.codelets item.lastExecutionTimestamp item.callbacks)
    (inOrder : item.Reached environment timestamp →
      ∀ pending ∈ unfinished item.callbacks, before pending timestamp)
    (condition : SchedulingCondition) :
    Stage before (item.executeReady environment timestamp condition).1 := by
  rw [executeReady]
  rcases tick_cases item environment timestamp with ⟨_, continues⟩ | ⟨isReached, ticked⟩
  · exact stage_concludeTick continues.stops (continues.alive alive) _ _ _ _
  · rw [ticked]
    obtain ⟨stops, ticking⟩ := alive_tickTicking reflexive (continues_received.alive alive)
      isReached.1 (unfinished_received item ▸ inOrder isReached) environment
    exact stage_concludeTick stops ticking _ _ _ _

theorem grows_executeReady (item : EntityItem) (environment : Environment) (timestamp : Int)
    (condition : SchedulingCondition) :
    Grows item (item.executeReady environment timestamp condition).1 := by
  rw [executeReady]
  rcases tick_cases item environment timestamp with ⟨_, continues⟩ | ⟨_, ticked⟩
  · exact continues.grows.trans (grows_concludeTick continues.stops _ _ _ _)
  · rw [ticked]
    exact continues_received.grows.trans ((grows_tickTicking _ _ _).trans
      (grows_concludeTick (stoppable_tickTicking _ _ _) _ _ _ _))

theorem broken_executeReady
    (alive : Alive before item.codelets item.lastExecutionTimestamp item.callbacks)
    (isReached : item.Reached environment timestamp) {pending : Int}
    (isPending : pending ∈ unfinished item.callbacks) (outOfOrder : ¬before pending timestamp)
    (condition : SchedulingCondition) :
    Broken before (item.executeReady environment timestamp condition).1 := by
  rw [executeReady]
  rcases tick_cases item environment timestamp with ⟨notReached, _⟩ | ⟨_, ticked⟩
  · exact absurd isReached notReached
  · rw [ticked]
    exact (broken_tickTicking (continues_received.alive alive)
      ((unfinished_received item).symm ▸ isPending) outOfOrder environment).of_grows
        (grows_concludeTick (stoppable_tickTicking _ _ _) _ _ _ _)

/-- A call that ticks the codelets does not come before an earlier tick since the last stop
that was not completed. -/
def InOrder (before : Int → Int → Prop) (item : EntityItem) : Op → Prop
  | .execute environment timestamp =>
      item.Due environment timestamp ∧ item.Reached environment timestamp →
        ∀ pending ∈ unfinished item.callbacks, before pending timestamp
  | .deactivate _ => True

theorem grows_step (item : EntityItem) (op : Op) : Grows item (system.step item op).1 := by
  have unchanged : Grows item item := ⟨rfl, List.prefix_rfl⟩
  cases op with
  | deactivate environment =>
      change Grows item (item.deactivate environment).1
      rw [deactivate]
      split
      next => exact unchanged
      next => exact grows_stop item environment
  | execute environment timestamp =>
      have checks := (check_logs item environment timestamp).grows
      rcases execute_cases item environment timestamp with
        ⟨_, isNext | ⟨notStarted, _, isNext⟩ | ⟨_, isNext | isNext⟩⟩ | ⟨_, _, ready, isNext⟩ <;>
        change Grows item (item.execute environment timestamp).1 <;> rw [isNext]
      · exact unchanged
      · exact grows_start notStarted
      · exact checks
      · exact checks.trans (grows_stop _ environment)
      · exact checks.trans (grows_executeReady _ environment timestamp ready)

theorem stage_step [IsTrans Int before]
    (reflexive : ∀ earlier later, earlier ≤ later → before earlier later)
    (stage : Stage before item) {op : Op} (inOrder : InOrder before item op) :
    Stage before (system.step item op).1 := by
  cases op with
  | deactivate environment =>
      change Stage before (item.deactivate environment).1
      rw [deactivate]
      split
      next => exact stage
      next => exact stage_stop stage environment
  | execute environment timestamp =>
      have checks := check_logs item environment timestamp
      rcases execute_cases item environment timestamp with
        ⟨_, isNext | ⟨notStarted, _, isNext⟩ | ⟨stops, isNext | isNext⟩⟩ |
          ⟨due, stops, ready, isNext⟩ <;>
        change Stage before (item.execute environment timestamp).1 <;> rw [isNext]
      · exact stage
      · exact stage_start notStarted stage environment timestamp
      · exact checks.stage stage
      · exact stage_stop (checks.stage stage) environment
      · refine stage_executeReady reflexive (checks.alive (stage.alive stops)) ?_ ready
        intro isReached
        rw [checks.callbacks, List.append_nil]
        exact inOrder ⟨due, checks.lastExecutionTimestamp ▸ isReached.1, isReached.2⟩

theorem broken_step (stage : Stage before item) {op : Op} (outOfOrder : ¬InOrder before item op) :
    Broken before (system.step item op).1 := by
  cases op with
  | deactivate environment => exact absurd trivial outOfOrder
  | execute environment timestamp =>
      simp only [InOrder, Classical.not_imp, not_forall] at outOfOrder
      obtain ⟨⟨due, isReached⟩, pending, isPending, notBefore⟩ := outOfOrder
      have checks := check_logs item environment timestamp
      rcases execute_cases item environment timestamp with
        ⟨notDue, _⟩ | ⟨_, stops, ready, isNext⟩
      · exact absurd due notDue
      · change Broken before (item.execute environment timestamp).1
        rw [isNext]
        refine broken_executeReady (checks.alive (stage.alive stops)) ?_ ?_ notBefore ready
        · exact ⟨checks.lastExecutionTimestamp.symm ▸ isReached.1, isReached.2⟩
        · rw [checks.callbacks, List.append_nil]
          exact isPending

end Steps

/-- Every codelet observes a history, and is ticked when all codelets are started. -/
def Lawful (before : Int → Int → Prop) (codelets : List Uid) (callbacks : List Callback) : Prop :=
  (∀ codelet ∈ codelets, Lifecycle.IsHistory before (observed codelet callbacks)) ∧
    StartedFirst codelets [] callbacks

section Runs

variable {before : Int → Int → Prop} [DecidableRel before]

theorem Stage.lawful [IsTrans Int before] (stage : Stage before item) :
    Lawful before item.codelets item.callbacks := by
  have unbroken (codelet : Uid) (phase : Lifecycle.Phase Int) (isPhase : Lifecycle.phase before
      (observed codelet item.callbacks) = phase) (notBroken : phase ≠ .broken) :
      Lifecycle.IsHistory before (observed codelet item.callbacks) :=
    (isHistory_iff before _).mpr (isPhase ▸ notBroken)
  rw [Stage] at stage
  split at stage
  next =>
    exact ⟨fun codelet member => unbroken codelet _ (stage.phase codelet member) (by simp),
      stage.startedFirst⟩
  next =>
    exact ⟨fun codelet member => unbroken codelet _ rfl (stage.unbroken codelet member),
      stage.startedFirst⟩
  next => exact stage.elim
  all_goals
    refine ⟨fun codelet member => ?_, stage.startedFirst⟩
    obtain ⟨last, isPhase, _⟩ := stage.phase codelet member
    exact unbroken codelet _ isPhase (by simp)

theorem Broken.not_lawful [IsTrans Int before] (broken : Broken before item) :
    ¬Lawful before item.codelets item.callbacks := by
  obtain ⟨codelet, member, isBroken⟩ := broken
  exact fun lawful => (isHistory_iff before _).mp (lawful.1 codelet member) isBroken

theorem grows_run (item : EntityItem) (ops : List Op) : Grows item (system.run item ops) :=
  System.invariant_run_of_forall
    (fun state op (grows : Grows item state) => grows.trans (grows_step state op))
    ⟨rfl, List.prefix_rfl⟩ ops

theorem stage_activate (entity : Entity) (components : Uid → SchedulingTerm)
    (lastExecutionTimestamp : Int) :
    Stage before (activate entity components lastExecutionTimestamp) where
  startedFirst := trivial
  phase _ _ := rfl
  notRunning _ _ isRunning := by cases isRunning
  finished := rfl

end Runs

/-- No order of the ticks is asked for. -/
def AnyOrder (_ _ : Int) : Prop := True

instance : DecidableRel AnyOrder := fun _ _ => isTrue trivial

instance : IsTrans Int AnyOrder := ⟨fun _ _ _ _ _ => trivial⟩

theorem inOrder_anyOrder (item : EntityItem) (op : Op) : InOrder AnyOrder item op := by
  cases op with
  | execute => exact fun _ _ _ => trivial
  | deactivate => exact trivial

variable (entity : Entity) (components : Uid → SchedulingTerm) (lastExecutionTimestamp : Int)

theorem codelets_run (ops : List Op) :
    (system.run (activate entity components lastExecutionTimestamp) ops).codelets =
      entity.codelets :=
  (grows_run _ ops).codelets

/-- The times of the ticks are in order as well exactly in the runs in which no tick comes
before an earlier one that was not completed. -/
theorem run_lifecycle_iff (ops : List Op) : Lawful (· ≤ ·) entity.codelets
        (system.run (activate entity components lastExecutionTimestamp) ops).callbacks ↔
      system.Along (InOrder (· ≤ ·)) (activate entity components lastExecutionTimestamp) ops := by
  let good (item : EntityItem) : Prop := Lawful (· ≤ ·) item.codelets item.callbacks
  have lawful_iff : good (system.run (activate entity components lastExecutionTimestamp) ops) ↔
      system.Along (InOrder (· ≤ ·)) (activate entity components lastExecutionTimestamp) ops := by
    apply System.final_iff_guarded
      (fun _ _ stage inOrder => stage_step (fun _ _ => id) stage inOrder)
      (fun _ _ stage outOfOrder => broken_step stage outOfOrder)
      (fun item op broken => broken.of_grows (grows_step item op)) (fun _ => Stage.lawful)
      (fun _ => Broken.not_lawful)
    exact stage_activate entity components lastExecutionTimestamp
  rw [← lawful_iff, ← codelets_run entity components lastExecutionTimestamp ops]

/-- An entity with one codelet. -/
def single : Entity := ⟨[1], [], [], by decide, by decide⟩

/-- A tick fails and the controller asks for another one. -/
def repeating : Environment where
  hasRouter := true
  startCode _ := .GXF_SUCCESS
  tickCode _ := .GXF_FAILURE
  stopCode _ := .GXF_SUCCESS
  syncInbox := .GXF_SUCCESS
  syncOutbox := .GXF_SUCCESS
  check _ _ := .ok ⟨.READY, 0⟩
  combinerResult _ := ⟨.READY, 0⟩
  onExecute _ := .GXF_SUCCESS
  controllerLookup := .found
  control _ := ⟨.GXF_BEHAVIOR_RUNNING, .GXF_EXECUTE_FAILURE_REPEAT⟩

/-- A tick at time 10 that failed is followed by one at time 5. -/
theorem repeated_tick_goes_back :
    ¬Lawful (· ≤ ·) single.codelets (system.run (activate single (fun _ => .other) 0)
      [.execute repeating 0, .execute repeating 10, .execute repeating 5]).callbacks := by
  rintro ⟨history, _⟩
  exact (isHistory_iff (· ≤ ·) _).mp (history 1 (by decide)) (by decide)

end Gxf.Std.EntityItem
