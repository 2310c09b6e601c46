import Gxf.Std.EntityExecutor.Callbacks

/-!
# The stages of an entity

What the calls of an item say about its codelets depends on its status only: no codelet is
started, one failed to start, or all of them are started.
-/

namespace Gxf.Std.EntityItem

open Gxf.Core Gxf.Lib

variable {item : EntityItem} {environment : Environment} {timestamp : Int}

/-! ## What the functions do -/

/-- The codelets that a loop calls: all up to the first one that fails. -/
def reached (answer : Uid → GxfResult) : List Uid → List Uid
  | [] => []
  | codelet :: rest =>
      if answer codelet = .GXF_SUCCESS then codelet :: reached answer rest else [codelet]

theorem isPrefix_reached (answer : Uid → GxfResult) (codelets : List Uid) :
    reached answer codelets <+: codelets := by
  induction codelets with
  | nil => exact List.prefix_rfl
  | cons codelet rest ih =>
      rw [reached]
      split
      next => exact (List.prefix_cons_inj codelet).mpr ih
      next => exact ⟨rest, rfl⟩

theorem head?_reached (answer : Uid → GxfResult) (codelets : List Uid) :
    (reached answer codelets).head? = codelets.head? := by
  cases codelets with
  | nil => rfl
  | cons codelet rest =>
      rw [reached]
      split <;> rfl

theorem reached_of_forall {answer : Uid → GxfResult} {codelets : List Uid}
    (succeed : ∀ codelet ∈ codelets, answer codelet = .GXF_SUCCESS) :
    reached answer codelets = codelets := by
  induction codelets with
  | nil => rfl
  | cons codelet rest ih =>
      obtain ⟨here, later⟩ := List.forall_mem_cons.mp succeed
      rw [reached, if_pos here, ih later]

theorem callCodelets_fst (callback : Uid → GxfResult → Callback) (answer : Uid → GxfResult)
    (codelets : List Uid) (item : EntityItem) :
    (callCodelets callback answer codelets item).1 = { item with
      callbacks := item.callbacks ++
        (reached answer codelets).map fun codelet => callback codelet (answer codelet) } := by
  induction codelets generalizing item with
  | nil => simp [callCodelets, reached]
  | cons codelet rest ih =>
      rw [callCodelets, reached]
      split
      next => simp [ih, record]
      next => rfl

theorem callCodelets_snd (callback : Uid → GxfResult → Callback) (answer : Uid → GxfResult)
    (codelets : List Uid) (item : EntityItem) :
    (callCodelets callback answer codelets item).2 = .GXF_SUCCESS ↔
      ∀ codelet ∈ codelets, answer codelet = .GXF_SUCCESS := by
  induction codelets generalizing item with
  | nil => simp [callCodelets]
  | cons codelet rest ih =>
      rw [callCodelets, List.forall_mem_cons]
      split
      next succeeded => rw [ih, and_iff_right succeeded]
      next failed => exact iff_of_false failed fun all => failed all.1

theorem stopCodelets_fst (environment : Environment) (codelets : List Uid) (item : EntityItem)
    (code : GxfResult) :
    (stopCodelets environment codelets item code).1 = { item with
      callbacks := item.callbacks ++
        codelets.map fun codelet => .stop codelet (environment.stopCode codelet) } := by
  induction codelets generalizing item code with
  | nil => simp [stopCodelets]
  | cons codelet rest ih =>
      rw [stopCodelets, ih]
      simp [record]

/-- An item went on to another one by some calls, in the same stage of the life cycle. -/
structure Logs (item : EntityItem) (extra : List Callback) (next : EntityItem) : Prop where
  codelets : next.codelets = item.codelets
  status : next.status = item.status
  lastExecutionTimestamp : next.lastExecutionTimestamp = item.lastExecutionTimestamp
  callbacks : next.callbacks = item.callbacks ++ extra

theorem Logs.trans {middle next : EntityItem} {extra more : List Callback}
    (first : Logs item extra middle) (second : Logs middle more next) :
    Logs item (extra ++ more) next where
  codelets := second.codelets.trans first.codelets
  status := second.status.trans first.status
  lastExecutionTimestamp := second.lastExecutionTimestamp.trans first.lastExecutionTimestamp
  callbacks := by rw [second.callbacks, first.callbacks, List.append_assoc]

theorem executedTerms_logs (environment : Environment) (timestamp : Int) (terms : List Uid)
    (item : EntityItem) :
    ∃ extra, (∀ callback ∈ extra, Quiet callback) ∧
      Logs item extra (executedTerms environment timestamp terms item).1 := by
  induction terms generalizing item with
  | nil => exact ⟨[], by simp, rfl, rfl, rfl, (List.append_nil _).symm⟩
  | cons term rest ih =>
      have quiet (code : GxfResult) :
          ∀ callback ∈ [Callback.onExecute term timestamp code], Quiet callback :=
        List.forall_mem_singleton.mpr ⟨rfl, rfl⟩
      rw [executedTerms]
      generalize (item.components term).onExecute timestamp _ = executed
      have here : Logs item [.onExecute term timestamp executed.2]
          ((item.record (.onExecute term timestamp executed.2)).setComponent term executed.1) :=
        ⟨rfl, rfl, rfl, rfl⟩
      split
      next =>
        obtain ⟨extra, areQuiet, later⟩ := ih _
        exact ⟨_, List.forall_mem_append.mpr ⟨quiet _, areQuiet⟩, here.trans later⟩
      next => exact ⟨_, quiet _, here⟩

theorem tickTicking_cases (item : EntityItem) (environment : Environment) (timestamp : Int) :
    let ticks := (reached environment.tickCode item.codelets).map fun codelet =>
      Callback.tick codelet timestamp (environment.tickCode codelet)
    let next := (item.tickTicking environment timestamp).1
    next.codelets = item.codelets ∧
      ((next.status = .GXF_ENTITY_STATUS_TICKING ∧
          next.lastExecutionTimestamp = item.lastExecutionTimestamp ∧
          ∃ extra, (∀ callback ∈ extra, Quiet callback) ∧
            next.callbacks = item.callbacks ++ ticks ++ extra) ∨
        (next.status = .GXF_ENTITY_STATUS_IDLE ∧ next.lastExecutionTimestamp = timestamp ∧
          reached environment.tickCode item.codelets = item.codelets ∧
          ∃ extra, (∀ callback ∈ extra, Quiet callback) ∧
            next.callbacks = item.callbacks ++ ticks ++ extra ++
              [.syncOutbox .GXF_SUCCESS])) := by
  intro ticks next
  have isNext : next = (item.tickTicking environment timestamp).1 := rfl
  rw [tickTicking, tickCodelets] at isNext
  have called := callCodelets_fst
    (fun codelet code => .tick codelet timestamp code) environment.tickCode item.codelets
    (item.setEntityStatus .GXF_ENTITY_STATUS_TICKING)
  have succeeded := callCodelets_snd
    (fun codelet code => .tick codelet timestamp code) environment.tickCode item.codelets
    (item.setEntityStatus .GXF_ENTITY_STATUS_TICKING)
  generalize callCodelets _ _ _ _ = ticked at isNext called succeeded
  by_cases failed : ticked.2 ≠ .GXF_SUCCESS
  · simp only [if_pos failed] at isNext
    rw [isNext, called]
    exact ⟨rfl, .inl ⟨rfl, rfl, [], by simp, (List.append_nil _).symm⟩⟩
  · obtain ⟨extra, areQuiet, logs⟩ :=
      executedTerms_logs environment timestamp ticked.1.terms ticked.1
    simp only [if_neg failed] at isNext
    generalize executedTerms _ _ _ _ = executed at isNext logs
    rw [called] at logs
    by_cases untold : executed.2 ≠ .GXF_SUCCESS
    · rw [if_pos untold] at isNext
      rw [isNext]
      exact ⟨logs.codelets, .inl ⟨logs.status, logs.lastExecutionTimestamp, extra, areQuiet,
        logs.callbacks⟩⟩
    · rw [if_neg untold, flushOutbox] at isNext
      by_cases flushed : environment.syncOutbox = .GXF_SUCCESS
      · simp only [flushed] at isNext
        rw [isNext]
        refine ⟨logs.codelets, .inr ⟨rfl, rfl, ?_, extra, areQuiet, ?_⟩⟩
        · exact reached_of_forall (succeeded.mp (not_not.mp failed))
        · exact congrArg (· ++ [Callback.syncOutbox .GXF_SUCCESS]) logs.callbacks
      · simp only [if_neg flushed] at isNext
        rw [isNext]
        refine ⟨logs.codelets, .inl ⟨logs.status, logs.lastExecutionTimestamp,
          extra ++ [.syncOutbox environment.syncOutbox], ?_, ?_⟩⟩
        · have quiet : Quiet (.syncOutbox environment.syncOutbox) := ⟨rfl, if_neg flushed⟩
          exact List.forall_mem_append.mpr ⟨areQuiet, List.forall_mem_singleton.mpr quiet⟩
        · exact (congrArg (· ++ [Callback.syncOutbox environment.syncOutbox]) logs.callbacks).trans
            (List.append_assoc _ _ _)

section Stages

variable (before : Int → Int → Prop) [DecidableRel before]

/-- No codelet is started. -/
structure Resting (codelets : List Uid) (callbacks : List Callback) : Prop where
  startedFirst : StartedFirst codelets [] callbacks
  phase : ∀ codelet ∈ codelets, Lifecycle.phase before (observed codelet callbacks) = .stopped
  notRunning : ∀ codelet ∈ codelets, ¬running codelet callbacks
  finished : unfinished callbacks = none

/-- A codelet failed to start. -/
structure Pending (codelets : List Uid) (callbacks : List Callback) : Prop where
  startedFirst : StartedFirst codelets [] callbacks
  unbroken : ∀ codelet ∈ codelets, Lifecycle.phase before (observed codelet callbacks) ≠ .broken

/-- All codelets are started.  Their last ticks do not come after any time that neither
the last execution nor an unfinished tick comes after; the first codelet took part in an
unfinished tick. -/
structure Alive (codelets : List Uid) (lastExecutionTimestamp : Int)
    (callbacks : List Callback) : Prop where
  startedFirst : StartedFirst codelets [] callbacks
  running : ∀ codelet ∈ codelets, running codelet callbacks
  phase : ∀ codelet ∈ codelets, ∃ last,
    Lifecycle.phase before (observed codelet callbacks) = .running last ∧
      ∀ earlier ∈ last, ∀ timestamp, lastExecutionTimestamp ≤ timestamp →
        (∀ pending ∈ unfinished callbacks, before pending timestamp) → before earlier timestamp
  head : ∀ pending ∈ unfinished callbacks, ∃ codelet ∈ codelets.head?,
    Lifecycle.phase before (observed codelet callbacks) = .running (some pending)

/-- What holds of an item in each stage. -/
def Stage (item : EntityItem) : Prop :=
  match item.status with
  | .GXF_ENTITY_STATUS_NOT_STARTED => Resting before item.codelets item.callbacks
  | .GXF_ENTITY_STATUS_START_PENDING => Pending before item.codelets item.callbacks
  | .GXF_ENTITY_STATUS_STOP_PENDING => False
  | .GXF_ENTITY_STATUS_STARTED | .GXF_ENTITY_STATUS_IDLE | .GXF_ENTITY_STATUS_TICK_PENDING
  | .GXF_ENTITY_STATUS_TICKING =>
      Alive before item.codelets item.lastExecutionTimestamp item.callbacks

end Stages

variable {before : Int → Int → Prop} [DecidableRel before]
variable {codelets : List Uid} {lastExecutionTimestamp : Int} {callbacks extra : List Callback}

theorem stage_of_alive (stops : stoppable item.status = true)
    (alive : Alive before item.codelets item.lastExecutionTimestamp item.callbacks) :
    Stage before item := by
  rw [Stage]
  cases isStatus : item.status with
  | GXF_ENTITY_STATUS_NOT_STARTED | GXF_ENTITY_STATUS_START_PENDING
  | GXF_ENTITY_STATUS_STOP_PENDING =>
      rw [isStatus] at stops
      cases stops
  | GXF_ENTITY_STATUS_STARTED | GXF_ENTITY_STATUS_IDLE | GXF_ENTITY_STATUS_TICK_PENDING
  | GXF_ENTITY_STATUS_TICKING => exact alive

theorem Stage.alive (stage : Stage before item) (stops : stoppable item.status = true) :
    Alive before item.codelets item.lastExecutionTimestamp item.callbacks := by
  rw [Stage] at stage
  cases isStatus : item.status with
  | GXF_ENTITY_STATUS_NOT_STARTED | GXF_ENTITY_STATUS_START_PENDING
  | GXF_ENTITY_STATUS_STOP_PENDING =>
      rw [isStatus] at stops
      cases stops
  | GXF_ENTITY_STATUS_STARTED | GXF_ENTITY_STATUS_IDLE | GXF_ENTITY_STATUS_TICK_PENDING
  | GXF_ENTITY_STATUS_TICKING =>
      rw [isStatus] at stage
      exact stage

/-! ## From stage to stage -/

namespace Resting

section

variable (resting : Resting before codelets callbacks)
include resting

theorem phase_starts {started : List Uid}
    (nodup : started.Nodup) (answer : Uid → GxfResult) {codelet : Uid}
    (member : codelet ∈ codelets) :
    Lifecycle.phase before (observed codelet
        (callbacks ++ started.map fun other => .start other (answer other))) =
      if codelet ∈ started then .running none else .stopped := by
  rw [observed_append, Lifecycle.phase_append, resting.phase codelet member,
    observed_starts answer codelet nodup]
  split <;> rfl

theorem startedFirst_starts (started : List Uid) (answer : Uid → GxfResult) :
    StartedFirst codelets [] (callbacks ++ started.map fun other => .start other (answer other)) :=
  (startedFirst_append _ _ _ _).mpr ⟨resting.startedFirst,
    startedFirst_of_noTick (List.forall_mem_map.mpr fun _ _ => rfl)⟩

theorem start (nodup : codelets.Nodup)
    {answer : Uid → GxfResult} (succeed : ∀ codelet ∈ codelets, answer codelet = .GXF_SUCCESS)
    (timestamp : Int) :
    Alive before codelets timestamp
      (callbacks ++ codelets.map fun codelet => .start codelet (answer codelet)) where
  startedFirst := resting.startedFirst_starts codelets answer
  running codelet member := (running_append_starts answer codelet callbacks nodup).mpr
      (.inl ⟨member, succeed codelet member⟩)
  phase codelet member :=
    ⟨none, (resting.phase_starts nodup answer member).trans (if_pos member), by simp⟩
  head pending isPending := by
    cases codelets with
    | nil =>
        rw [List.map_nil, List.append_nil, resting.finished] at isPending
        cases isPending
    | cons first rest =>
        rw [unfinished_append_map callbacks (fun _ => rfl) (List.cons_ne_nil _ _)] at isPending
        cases isPending

theorem fail {started : List Uid} (nodup : started.Nodup) (answer : Uid → GxfResult) :
    Pending before codelets
      (callbacks ++ started.map fun codelet => .start codelet (answer codelet)) where
  startedFirst := resting.startedFirst_starts started answer
  unbroken codelet member := by
    rw [resting.phase_starts nodup answer member]
    split <;> simp

end

end Resting

namespace Alive

section

variable (alive : Alive before codelets lastExecutionTimestamp callbacks)
include alive

theorem append_quiet (quiet : ∀ callback ∈ extra, Quiet callback) :
    Alive before codelets lastExecutionTimestamp (callbacks ++ extra) := by
  have silent : ∀ callback ∈ extra, callback.event = none :=
    fun callback member => (quiet callback member).1
  have unnoted : ∀ callback ∈ extra, callback.note = none :=
    fun callback member => (quiet callback member).2
  constructor
  · exact (startedFirst_append _ _ _ _).mpr ⟨alive.startedFirst, startedFirst_of_noTick
      fun callback member => isTick_of_event_eq_none (silent callback member)⟩
  · intro codelet member
    exact (running_append_silent (fun callback isExtra =>
      mark_of_event_eq_none (silent callback isExtra) codelet) callbacks).mpr
        (alive.running codelet member)
  · intro codelet member
    rw [observed_append_silent silent, unfinished_append_silent unnoted]
    exact alive.phase codelet member
  · rw [unfinished_append_silent unnoted]
    intro pending isPending
    obtain ⟨codelet, isHead, isPhase⟩ := alive.head pending isPending
    exact ⟨codelet, isHead, by rw [observed_append_silent silent, isPhase]⟩

theorem phase_tick (inOrder : ∀ pending ∈ unfinished callbacks, before pending timestamp)
    (notEarlier : lastExecutionTimestamp ≤ timestamp) {ticked : List Uid} (nodup : ticked.Nodup)
    (answer : Uid → GxfResult) {codelet : Uid} (inCodelets : codelet ∈ codelets)
    (member : codelet ∈ ticked) :
    Lifecycle.phase before (observed codelet
        (callbacks ++ ticked.map fun other => .tick other timestamp (answer other))) =
      .running (some timestamp) := by
  obtain ⟨last, isPhase, ordered⟩ := alive.phase codelet inCodelets
  rw [observed_append, Lifecycle.phase_append, isPhase, observed_ticks answer codelet timestamp
    nodup, if_pos member]
  exact if_pos fun earlier isLast => ordered earlier isLast timestamp notEarlier inOrder

theorem tick [IsTrans Int before]
    (inOrder : ∀ pending ∈ unfinished callbacks, before pending timestamp)
    (notEarlier : lastExecutionTimestamp ≤ timestamp) {ticked : List Uid} (nodup : ticked.Nodup)
    (sameHead : ticked.head? = codelets.head?) (answer : Uid → GxfResult) :
    Alive before codelets lastExecutionTimestamp
      (callbacks ++ ticked.map fun codelet => .tick codelet timestamp (answer codelet)) := by
  by_cases noCodelet : ticked = []
  · rw [noCodelet, List.map_nil, List.append_nil]
    exact alive
  have noted : unfinished
      (callbacks ++ ticked.map fun codelet => .tick codelet timestamp (answer codelet)) =
      some timestamp := unfinished_append_map callbacks (fun _ => rfl) noCodelet
  constructor
  · exact (startedFirst_append _ _ _ _).mpr ⟨alive.startedFirst, startedFirst_of_running
      (fun callback member codelet _ => mark_ticks answer codelet timestamp callback member)
      alive.running⟩
  · intro codelet member
    exact (running_append_silent (mark_ticks answer codelet timestamp) callbacks).mpr
      (alive.running codelet member)
  · intro codelet member
    rw [noted]
    by_cases isTicked : codelet ∈ ticked
    · refine ⟨some timestamp, alive.phase_tick inOrder notEarlier nodup answer member isTicked, ?_⟩
      rintro _ ⟨⟩ later _ follows
      exact follows timestamp rfl
    · obtain ⟨last, isPhase, ordered⟩ := alive.phase codelet member
      refine ⟨last, ?_, fun earlier isLast later _ follows => ?_⟩
      · rw [observed_append, observed_ticks answer codelet timestamp nodup, if_neg isTicked,
          List.append_nil, isPhase]
      · exact IsTrans.trans _ _ _ (ordered earlier isLast timestamp notEarlier inOrder)
          (follows timestamp rfl)
  · rw [noted]
    rintro _ ⟨⟩
    obtain ⟨first, rest, isTicked⟩ := List.exists_cons_of_ne_nil noCodelet
    have isHead : codelets.head? = some first := by rw [← sameHead, isTicked, List.head?_cons]
    refine ⟨first, isHead, alive.phase_tick inOrder notEarlier nodup answer
      (List.mem_of_mem_head? isHead) ?_⟩
    rw [isTicked]
    exact List.mem_cons_self ..

theorem broken_tick {pending : Int} (isPending : pending ∈ unfinished callbacks)
    (outOfOrder : ¬before pending timestamp) {ticked : List Uid} (nodup : ticked.Nodup)
    (sameHead : ticked.head? = codelets.head?) (answer : Uid → GxfResult) :
    ∃ codelet ∈ codelets, Lifecycle.phase before (observed codelet
        (callbacks ++ ticked.map fun other => .tick other timestamp (answer other))) =
      .broken := by
  obtain ⟨codelet, isHead, isPhase⟩ := alive.head pending isPending
  refine ⟨codelet, List.mem_of_mem_head? isHead, ?_⟩
  rw [observed_append, Lifecycle.phase_append, isPhase, observed_ticks answer codelet timestamp
    nodup, if_pos (List.mem_of_mem_head? (sameHead.trans isHead))]
  exact if_neg fun all => outOfOrder (all pending rfl)

theorem complete (reflexive : ∀ earlier later, earlier ≤ later → before earlier later)
    (ticked : ∀ codelet ∈ codelets,
      Lifecycle.phase before (observed codelet callbacks) = .running (some timestamp)) :
    Alive before codelets timestamp (callbacks ++ [.syncOutbox .GXF_SUCCESS]) := by
  have silent : ∀ callback ∈ [Callback.syncOutbox .GXF_SUCCESS], callback.event = none :=
    List.forall_mem_singleton.mpr rfl
  constructor
  · exact (startedFirst_append _ _ _ _).mpr
      ⟨alive.startedFirst, startedFirst_of_noTick (List.forall_mem_singleton.mpr rfl)⟩
  · intro codelet member
    exact (running_append_silent (List.forall_mem_singleton.mpr rfl) callbacks).mpr
      (alive.running codelet member)
  · intro codelet member
    rw [observed_append_silent silent]
    refine ⟨some timestamp, ticked codelet member, ?_⟩
    rintro _ ⟨⟩ later notEarlier _
    exact reflexive timestamp later notEarlier
  · rw [unfinished_concat rfl]
    rintro _ ⟨⟩

theorem stop (nodup : codelets.Nodup) (answer : Uid → GxfResult) : Resting before codelets
      (callbacks ++ codelets.map fun codelet => .stop codelet (answer codelet)) where
  startedFirst := (startedFirst_append _ _ _ _).mpr ⟨alive.startedFirst,
    startedFirst_of_noTick (List.forall_mem_map.mpr fun _ _ => rfl)⟩
  phase codelet member := by
    obtain ⟨last, isPhase, _⟩ := alive.phase codelet member
    rw [observed_append, Lifecycle.phase_append, isPhase, observed_stops answer codelet nodup,
      if_pos member]
    rfl
  notRunning codelet member := not_running_append_stops answer callbacks nodup member
  finished := by
    cases codelets with
    | nil =>
        rw [List.map_nil, List.append_nil, Option.eq_none_iff_forall_not_mem]
        intro pending isPending
        obtain ⟨codelet, isHead, _⟩ := alive.head pending isPending
        cases isHead
    | cons first rest =>
        exact unfinished_append_map callbacks (fun _ => rfl) (List.cons_ne_nil _ _)

end

end Alive

end Gxf.Std.EntityItem
