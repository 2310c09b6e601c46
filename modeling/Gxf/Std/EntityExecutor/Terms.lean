import Gxf.Std.EntityExecutor.Lifecycle

/-!
# Telling the terms

A completed tick tells every scheduling term that no combiner governs once.  Such a term
bounds the number of completed ticks if it counts executions, and moves its target if it
waits for a period.  A term in a combiner is checked like all others, but never told.
-/

namespace Gxf.Std

open Gxf.Core Gxf.Lib

namespace Callback

/-- Whether a call told a term about an execution. -/
def tells (term : Uid) : Callback → Bool
  | .onExecute concerned _ _ => concerned = term
  | .start .. | .tick .. | .stop .. | .syncInbox _ | .syncOutbox _ | .control .. => false

def completes : Callback → Bool
  | .syncOutbox code => code = .GXF_SUCCESS
  | .start .. | .tick .. | .stop .. | .onExecute .. | .syncInbox _ | .control .. => false

end Callback

/-- How often a term was told about an execution. -/
def told (term : Uid) (callbacks : List Callback) : Nat := callbacks.countP (Callback.tells term)

/-- The number of completed ticks. -/
def completed (callbacks : List Callback) : Nat := callbacks.countP Callback.completes

theorem told_append (term : Uid) (callbacks extra : List Callback) :
    told term (callbacks ++ extra) = told term callbacks + told term extra :=
  List.countP_append

theorem completed_append (callbacks extra : List Callback) :
    completed (callbacks ++ extra) = completed callbacks + completed extra :=
  List.countP_append

variable {callbacks : List Callback}

theorem told_eq_zero {term : Uid}
    (none : ∀ callback ∈ callbacks, callback.tells term = false) : told term callbacks = 0 :=
  List.countP_eq_zero.mpr fun callback member => by simp [none callback member]

theorem completed_eq_zero
    (none : ∀ callback ∈ callbacks, callback.completes = false) : completed callbacks = 0 :=
  List.countP_eq_zero.mpr fun callback member => by simp [none callback member]

theorem told_map_onExecute (term : Uid) {terms : List Uid} (nodup : terms.Nodup) (timestamp : Int)
    (code : Uid → GxfResult) :
    told term (terms.map fun other => .onExecute other timestamp (code other)) =
      if term ∈ terms then 1 else 0 := by
  have counts : told term (terms.map fun other => .onExecute other timestamp (code other)) =
      terms.count term := by
    rw [told, List.countP_map, List.count_eq_countP]
    exact List.countP_congr fun other _ => by simp [Callback.tells]
  rw [counts, nodup.count]

/-! ## What a check says about terms -/

/-- A term lets its entity tick. -/
def SchedulingTerm.Allows (timestamp : Int) : SchedulingTerm → Prop
  | .count term => term.remaining ≠ 0
  | .periodic term => ∀ target ∈ term.nextTarget, target ≤ timestamp
  | .other => True

/-- A term as it was, except for what a check may change. -/
def SchedulingTerm.SameTask : SchedulingTerm → SchedulingTerm → Prop
  | .count term, next => ∃ later, next = .count later ∧ later.remaining = term.remaining
  | .periodic term, next => next = .periodic term
  | .other, next => next = .other

namespace SchedulingTerm

variable {term next last : SchedulingTerm} {timestamp : Int}

theorem SameTask.refl (term : SchedulingTerm) : SameTask term term := by
  cases term with
  | count term => exact ⟨term, rfl, rfl⟩
  | periodic | other => exact rfl

theorem SameTask.trans (first : SameTask term next) (second : SameTask next last) :
    SameTask term last := by
  cases term with
  | count term =>
      obtain ⟨later, rfl, same⟩ := first
      obtain ⟨latest, rfl, sameAgain⟩ := second
      exact ⟨latest, rfl, sameAgain.trans same⟩
  | periodic | other =>
      cases first
      exact second

theorem SameTask.allows (same : SameTask term next) (allows : term.Allows timestamp) :
    next.Allows timestamp := by
  cases term with
  | count term =>
      obtain ⟨later, rfl, remaining⟩ := same
      exact fun none => allows (remaining ▸ none)
  | periodic | other =>
      cases same
      exact allows

theorem sameTask_check (term : SchedulingTerm) (timestamp : Int)
    (answer : Except GxfResult SchedulingCondition) :
    SameTask term (term.check timestamp answer).1 := by
  cases term with
  | count term =>
      refine ⟨term.updateState, rfl, ?_⟩
      rw [CountSchedulingTerm.updateState]
      split <;> rfl
  | periodic | other => exact rfl

theorem allows_of_check {answer : Except GxfResult SchedulingCondition}
    {condition : SchedulingCondition} (isChecked : (term.check timestamp answer).2 = .ok condition)
    (isDue : EntityItem.IsDue condition timestamp) : term.Allows timestamp := by
  cases term with
  | count term =>
      intro exhausted
      have isNever := Except.ok.inj isChecked
      rw [CountSchedulingTerm.updateState, if_pos exhausted] at isNever
      rw [← isNever] at isDue
      rcases isDue with isReady | ⟨isWait, _⟩
      · cases isReady
      · cases isWait
  | periodic term =>
      intro target isTarget
      have isCondition := Except.ok.inj isChecked
      rw [PeriodicSchedulingTerm.checkAbi, isTarget] at isCondition
      rw [← isCondition] at isDue
      by_cases later : timestamp > target
      · exact le_of_lt later
      · simp only [if_neg later] at isDue
        rcases isDue with isReady | ⟨_, reached⟩
        · cases isReady
        · exact reached
  | other => trivial

end SchedulingTerm

theorem PeriodicSchedulingTerm.onExecute_advances (term : PeriodicSchedulingTerm)
    {timestamp : Int} (reached : ∀ target ∈ term.nextTarget, target ≤ timestamp)
    (exact : term.Exact timestamp) :
    ∃ next, (term.onExecute timestamp).nextTarget = some next ∧
      ∀ target ∈ term.nextTarget, target + term.recessPeriodNs ≤ next := by
  rw [exact.onExecute, exactTarget]
  refine ⟨_, rfl, fun target isTarget => ?_⟩
  have notEarlier : target ≤ timestamp := reached target isTarget
  have missed : 0 ≤ (timestamp - target).tdiv term.recessPeriodNs * term.recessPeriodNs :=
    Int.mul_nonneg (Int.tdiv_nonneg (Int.sub_nonneg_of_le notEarlier) (Int.natCast_nonneg _))
      (Int.natCast_nonneg _)
  rw [Option.mem_def.mp isTarget]
  cases term.policy with
  | kCatchUpMissedTicks => exact le_rfl
  | kMinTimeBetweenTicks => exact Int.add_le_add_right notEarlier _
  | kNoCatchUpMissedTicks =>
      simp only [Int.add_mul, Int.one_mul]
      omega

namespace EntityItem

variable {item next last : EntityItem} {environment : Environment} {timestamp : Int}

theorem isDue_of_andCombine {first second : SchedulingCondition}
    (isDue : IsDue (first.andCombine second) timestamp) :
    IsDue first timestamp ∧ IsDue second timestamp := by
  obtain ⟨firstType, firstTarget⟩ := first
  obtain ⟨secondType, secondTarget⟩ := second
  cases firstType <;> cases secondType <;>
    simp [IsDue, SchedulingCondition.andCombine] at isDue ⊢ <;> omega

theorem checkTerms_sameTask (environment : Environment) (timestamp : Int) (list position : Nat)
    (combine : Nat → SchedulingCondition → SchedulingCondition → SchedulingCondition)
    (terms : List Uid) (components : Uid → SchedulingTerm) (combined : SchedulingCondition)
    (term : Uid) :
    SchedulingTerm.SameTask (components term)
      ((checkTerms environment timestamp list combine position terms components combined).1
        term) := by
  induction terms generalizing position components combined with
  | nil => exact SchedulingTerm.SameTask.refl _
  | cons head rest ih =>
      have here : SchedulingTerm.SameTask (components term) (Function.update components head
          ((components head).check timestamp (environment.check list position)).1 term) := by
        by_cases same : term = head
        · subst same
          rw [Function.update_self]
          exact SchedulingTerm.sameTask_check _ _ _
        · rw [Function.update_of_ne same]
          exact SchedulingTerm.SameTask.refl _
      rw [checkTerms]
      split
      next => exact here
      next => exact here.trans (ih _ _ _)

theorem checkCombiners_sameTask (environment : Environment) (timestamp : Int) (index : Nat)
    (combiners : List SchedulingTermCombiner) (components : Uid → SchedulingTerm)
    (combined : SchedulingCondition) (term : Uid) :
    SchedulingTerm.SameTask (components term)
      ((checkCombiners environment timestamp index combiners components combined).1 term) := by
  induction combiners generalizing index components combined with
  | nil => exact SchedulingTerm.SameTask.refl _
  | cons combiner rest ih =>
      rw [checkCombiners]
      split
      next => exact checkTerms_sameTask _ _ _ _ _ _ _ _ _
      next => exact (checkTerms_sameTask _ _ _ _ _ _ _ _ _).trans (ih _ _ _)

theorem check_sameTask (item : EntityItem) (environment : Environment) (timestamp : Int)
    (term : Uid) :
    SchedulingTerm.SameTask (item.components term)
      ((item.check environment timestamp).1.components term) := by
  rw [check]
  split
  next => exact checkCombiners_sameTask _ _ _ _ _ _ _
  next =>
    exact (checkCombiners_sameTask _ _ _ _ _ _ _).trans (checkTerms_sameTask _ _ _ _ _ _ _ _ _)

variable {terms : List Uid} {condition : SchedulingCondition}

theorem allows_of_checkTerms {list position : Nat}
    {components : Uid → SchedulingTerm} {combined : SchedulingCondition}
    (isChecked : (checkTerms environment timestamp list (fun _ => SchedulingCondition.andCombine)
      position terms components combined).2 = .ok condition)
    (isDue : IsDue condition timestamp) (nodup : terms.Nodup) :
    IsDue combined timestamp ∧ ∀ term ∈ terms, (components term).Allows timestamp := by
  induction terms generalizing position components combined with
  | nil =>
      cases isChecked
      exact ⟨isDue, fun term member => by cases member⟩
  | cons head rest ih =>
      obtain ⟨fresh, others⟩ := List.nodup_cons.mp nodup
      rw [checkTerms] at isChecked
      split at isChecked
      next => cases isChecked
      next result isResult =>
        obtain ⟨both, allow⟩ := ih isChecked others
        obtain ⟨before, here⟩ := isDue_of_andCombine both
        refine ⟨before, List.forall_mem_cons.mpr ⟨?_, fun term member => ?_⟩⟩
        · exact SchedulingTerm.allows_of_check isResult here
        · have allows := allow term member
          have different : term ≠ head := fun same => fresh (same ▸ member)
          rwa [Function.update_of_ne different] at allows

theorem allows_of_check (isChecked : (item.check environment timestamp).2 = .ok condition)
    (isDue : IsDue condition timestamp) (nodup : item.terms.Nodup) :
    ∀ term ∈ item.terms,
      ((item.check environment timestamp).1.components term).Allows timestamp := by
  intro term member
  rw [check] at isChecked ⊢
  split at isChecked
  next => cases isChecked
  next =>
    have allows := (allows_of_checkTerms isChecked isDue nodup).2 term member
    exact (checkTerms_sameTask _ _ _ _ _ _ _ _ _).allows allows

/-! ## What a call of the executor tells -/

/-- An item went on to another one without telling terms or completing a tick. -/
structure Idles (item next : EntityItem) : Prop where
  terms : next.terms = item.terms
  component : ∀ term, SchedulingTerm.SameTask (item.components term) (next.components term)
  toldTerm : ∀ term, told term next.callbacks = told term item.callbacks
  completedTicks : completed next.callbacks = completed item.callbacks

/-- A tick told some terms about an execution, and all of them if it was completed. -/
structure Tells (item : EntityItem) (timestamp : Int) (called : List Uid) (next : EntityItem) :
    Prop where
  isPrefix : called <+: item.terms
  terms : next.terms = item.terms
  component : ∀ term, ∃ answer, next.components term =
    if term ∈ called then ((item.components term).onExecute timestamp answer).1
    else item.components term
  toldTerm : ∀ term, told term next.callbacks =
    told term item.callbacks + if term ∈ called then 1 else 0
  completedTicks : completed next.callbacks = completed item.callbacks ∨
    completed next.callbacks = completed item.callbacks + 1 ∧ called = item.terms

theorem executedTerms_fst (environment : Environment) (timestamp : Int)
    (nodup : terms.Nodup) (item : EntityItem) :
    ∃ called, called <+: terms ∧
      ((executedTerms environment timestamp terms item).2 = .GXF_SUCCESS → called = terms) ∧
      (executedTerms environment timestamp terms item).1 = { item with
        components := fun term => if term ∈ called then
          ((item.components term).onExecute timestamp (environment.onExecute term)).1
          else item.components term
        callbacks := item.callbacks ++ called.map fun term => .onExecute term timestamp
          ((item.components term).onExecute timestamp (environment.onExecute term)).2 } := by
  induction terms generalizing item with
  | nil => exact ⟨[], List.prefix_rfl, fun _ => rfl, by simp [executedTerms]⟩
  | cons head rest ih =>
      obtain ⟨fresh, others⟩ := List.nodup_cons.mp nodup
      let executed := (item.components head).onExecute timestamp (environment.onExecute head)
      let called := (item.record (.onExecute head timestamp executed.2)).setComponent head
        executed.1
      have components_head : called.components head = executed.1 := Function.update_self ..
      have components_other (term : Uid) (different : term ≠ head) :
          called.components term = item.components term := Function.update_of_ne different ..
      rw [executedTerms]
      by_cases succeeded : executed.2 = .GXF_SUCCESS
      · obtain ⟨later, isPrefix, all, isNext⟩ := ih others called
        have notLater : head ∉ later := fun member => fresh (isPrefix.subset member)
        refine ⟨head :: later, (List.prefix_cons_inj head).mpr isPrefix, ?_, ?_⟩
        · rw [if_pos succeeded]
          exact fun success => congrArg (head :: ·) (all success)
        · rw [if_pos succeeded]
          refine isNext.trans (congrArg₂ (fun components callbacks =>
            { item with components := components, callbacks := callbacks }) ?_ ?_)
          · funext term
            by_cases same : term = head
            · rw [same, if_neg notLater, if_pos (List.mem_cons_self ..), components_head]
            · simp only [List.mem_cons, same, false_or, components_other term same]
          · have sameCalls : later.map (fun term => Callback.onExecute term timestamp
                ((called.components term).onExecute timestamp (environment.onExecute term)).2) =
                later.map fun term => .onExecute term timestamp
                  ((item.components term).onExecute timestamp (environment.onExecute term)).2 :=
              List.map_congr_left fun term member => by
                have different : term ≠ head := fun same => notLater (same ▸ member)
                rw [components_other term different]
            rw [sameCalls, List.map_cons]
            exact List.append_assoc _ _ _
      · refine ⟨[head], ⟨rest, rfl⟩, ?_, ?_⟩
        · rw [if_neg succeeded]
          exact fun success => absurd success succeeded
        · rw [if_neg succeeded]
          refine congrArg₂ (fun components callbacks =>
            { item with components := components, callbacks := callbacks }) ?_ rfl
          funext term
          by_cases same : term = head
          · rw [same, if_pos (List.mem_singleton_self head)]
            exact components_head
          · rw [if_neg (mt List.mem_singleton.mp same)]
            exact components_other term same

theorem Idles.trans (first : Idles item next) (second : Idles next last) : Idles item last where
  terms := second.terms.trans first.terms
  component term := (first.component term).trans (second.component term)
  toldTerm term := (second.toldTerm term).trans (first.toldTerm term)
  completedTicks := second.completedTicks.trans first.completedTicks

theorem idles_of_append {extra : List Callback} (terms : next.terms = item.terms)
    (components : next.components = item.components)
    (silent : ∀ callback ∈ extra, callback.completes = false ∧ ∀ term, callback.tells term = false)
    (callbacks : next.callbacks = item.callbacks ++ extra) : Idles item next where
  terms := terms
  component term := components ▸ SchedulingTerm.SameTask.refl _
  toldTerm term := by
    rw [callbacks, told_append, told_eq_zero fun callback member => (silent callback member).2 term,
      Nat.add_zero]
  completedTicks := by
    rw [callbacks, completed_append,
      completed_eq_zero fun callback member => (silent callback member).1, Nat.add_zero]

theorem Idles.refl (item : EntityItem) : Idles item item :=
  idles_of_append rfl rfl (by simp) (List.append_nil _).symm

theorem Continues.idles (continues : Continues item next) : Idles item next := by
  obtain ⟨extra, arePlain, isNext⟩ := continues.callbacks
  refine idles_of_append continues.terms continues.components (fun callback member => ?_) isNext
  have plain := arePlain callback member
  cases callback with
  | syncInbox | control => exact ⟨rfl, fun _ => rfl⟩
  | start | tick | stop | onExecute | syncOutbox => cases plain

theorem idles_stop (item : EntityItem) (environment : Environment) :
    Idles item (item.stop environment).1 := by
  by_cases stops : stoppable item.status = true
  · rw [stop_fst stops]
    exact idles_of_append rfl rfl (List.forall_mem_map.mpr fun _ _ => ⟨rfl, fun _ => rfl⟩) rfl
  · rw [Bool.not_eq_true] at stops
    rw [stop, stops]
    exact Idles.refl item

theorem idles_start (notStarted : item.status = .GXF_ENTITY_STATUS_NOT_STARTED) :
    Idles item (item.start environment timestamp).1 := by
  rw [start_fst notStarted]
  split <;>
    exact idles_of_append rfl rfl (List.forall_mem_map.mpr fun _ _ => ⟨rfl, fun _ => rfl⟩) rfl

theorem idles_concludeTick (stops : stoppable item.status = true) (environment : Environment)
    (timestamp : Int) (condition : SchedulingCondition) (code : GxfResult) :
    Idles item (item.concludeTick environment timestamp condition code).1 := by
  rcases concludeTick_cases stops environment timestamp condition code with
    continues | ⟨middle, continues, isNext⟩
  · exact continues.idles
  · rw [isNext]
    exact continues.idles.trans (idles_stop middle environment)

theorem idles_check (item : EntityItem) (environment : Environment) (timestamp : Int) :
    Idles item (item.check environment timestamp).1 := by
  have logs := check_logs item environment timestamp
  have callbacks := logs.callbacks.trans (List.append_nil _)
  refine ⟨?_, check_sameTask item environment timestamp, fun _ => ?_, ?_⟩
  · rw [check]
    split <;> rfl
  · rw [callbacks]
  · rw [callbacks]

theorem Tells.refl (item : EntityItem) (timestamp : Int) : Tells item timestamp [] item where
  isPrefix := List.nil_prefix
  terms := rfl
  component term := ⟨.GXF_SUCCESS, (if_neg List.not_mem_nil).symm⟩
  toldTerm term := by rw [if_neg List.not_mem_nil, Nat.add_zero]
  completedTicks := .inl rfl

theorem tells_executedTerms (nodup : item.terms.Nodup) (environment : Environment)
    (timestamp : Int) :
    ∃ called, ((executedTerms environment timestamp item.terms item).2 = .GXF_SUCCESS →
        called = item.terms) ∧
      completed (executedTerms environment timestamp item.terms item).1.callbacks =
        completed item.callbacks ∧
      Tells item timestamp called (executedTerms environment timestamp item.terms item).1 := by
  obtain ⟨called, isPrefix, all, isNext⟩ := executedTerms_fst environment timestamp nodup item
  have sameCompleted : completed (executedTerms environment timestamp item.terms item).1.callbacks =
        completed item.callbacks := by
    rw [isNext, completed_append, completed_eq_zero (List.forall_mem_map.mpr fun _ _ => rfl),
      Nat.add_zero]
  refine ⟨called, all, sameCompleted, isPrefix, ?_, fun term => ⟨environment.onExecute term, ?_⟩,
    fun term => ?_, .inl sameCompleted⟩
  · rw [isNext]
  · rw [isNext]
  · rw [isNext, told_append, told_map_onExecute term (nodup.sublist isPrefix.sublist)]

theorem Tells.flushOutbox (tells : Tells item timestamp item.terms next)
    (sameCompleted : completed next.callbacks = completed item.callbacks)
    (environment : Environment) (later : Int) :
    Tells item timestamp item.terms (next.flushOutbox environment later).1 := by
  have isNext : (next.flushOutbox environment later).1.terms = next.terms ∧
      (next.flushOutbox environment later).1.components = next.components ∧
        (next.flushOutbox environment later).1.callbacks =
          next.callbacks ++ [.syncOutbox environment.syncOutbox] := by
    rw [EntityItem.flushOutbox]
    split <;> exact ⟨rfl, rfl, rfl⟩
  obtain ⟨terms, components, callbacks⟩ := isNext
  refine ⟨tells.isPrefix, terms.trans tells.terms, ?_, fun term => ?_, ?_⟩
  · rw [components]
    exact tells.component
  · rw [callbacks, told_append]
    exact tells.toldTerm term
  · rw [callbacks, completed_append, sameCompleted]
    by_cases flushed : environment.syncOutbox = .GXF_SUCCESS
    · exact .inr ⟨by simp [completed, Callback.completes, flushed], rfl⟩
    · exact .inl (by simp [completed, Callback.completes, flushed])

theorem tells_tickTicking (nodup : item.terms.Nodup) (environment : Environment) (timestamp : Int) :
    ∃ ticked called, Idles item ticked ∧ ticked.components = item.components ∧
      Tells ticked timestamp called (item.tickTicking environment timestamp).1 := by
  have isTicked := callCodelets_fst (fun codelet code => .tick codelet timestamp code)
    environment.tickCode item.codelets (item.setEntityStatus .GXF_ENTITY_STATUS_TICKING)
  rw [tickTicking, tickCodelets]
  generalize callCodelets _ _ _ _ = ticked at isTicked
  have components : ticked.1.components = item.components := by rw [isTicked]; rfl
  have ticks : Idles item ticked.1 := by
    rw [isTicked]
    exact idles_of_append rfl rfl (List.forall_mem_map.mpr fun _ _ => ⟨rfl, fun _ => rfl⟩) rfl
  refine ⟨ticked.1, ?_⟩
  by_cases failed : ticked.2 ≠ .GXF_SUCCESS
  · rw [if_pos failed]
    exact ⟨[], ticks, components, Tells.refl _ _⟩
  · rw [if_neg failed]
    obtain ⟨called, all, sameCompleted, tells⟩ :=
      tells_executedTerms (ticks.terms.symm ▸ nodup) environment timestamp
    by_cases untold : (executedTerms environment timestamp ticked.1.terms ticked.1).2 ≠ .GXF_SUCCESS
    · simp only [if_pos untold]
      exact ⟨called, ticks, components, tells⟩
    · simp only [if_neg untold]
      cases all (not_not.mp untold)
      exact ⟨_, ticks, components, tells.flushOutbox sameCompleted environment timestamp⟩

theorem step_tells (nodup : item.terms.Nodup) (op : Op) : Idles item (system.step item op).1 ∨
      ∃ checked ticked timestamp called, Idles item checked ∧
        (∀ term ∈ item.terms, (checked.components term).Allows timestamp) ∧
          Tells checked timestamp called ticked ∧ Idles ticked (system.step item op).1 := by
  cases op with
  | deactivate environment =>
      refine .inl ?_
      change Idles item (item.deactivate environment).1
      rw [deactivate]
      split
      next => exact Idles.refl item
      next => exact idles_stop item environment
  | execute environment timestamp =>
      have checks := idles_check item environment timestamp
      have isStep : (system.step item (.execute environment timestamp)).1 =
          (item.execute environment timestamp).1 := rfl
      rw [isStep]
      rcases execute_cases item environment timestamp with
        ⟨_, isNext | ⟨notStarted, _, isNext⟩ | ⟨_, isNext | isNext⟩⟩ | ⟨due, _, ready, isNext⟩ <;>
        rw [isNext]
      · exact .inl (Idles.refl item)
      · exact .inl (idles_start notStarted)
      · exact .inl checks
      · exact .inl (checks.trans (idles_stop _ environment))
      · obtain ⟨_, _, condition, isChecked, isDue⟩ := due
        have allow := allows_of_check isChecked isDue nodup
        rw [executeReady]
        rcases tick_cases (item.check environment timestamp).1 environment timestamp with
          ⟨_, continues⟩ | ⟨_, ticks⟩
        · exact .inl (checks.trans (continues.idles.trans
            (idles_concludeTick continues.stops _ _ _ _)))
        · rw [ticks]
          have received : Idles _ (item.check environment timestamp).1.received :=
            continues_received.idles
          obtain ⟨ticked, called, ticking, components, tells⟩ := tells_tickTicking
            ((received.terms.trans checks.terms).symm ▸ nodup) environment timestamp
          refine .inr ⟨ticked, _, timestamp, called, (checks.trans received).trans ticking, ?_,
            tells, idles_concludeTick (stoppable_tickTicking _ _ _) _ _ _ _⟩
          rw [components]
          exact allow

/-! ## Runs -/

/-- No combiner governs a scheduling term of the entity. -/
def Ungoverned (entity : Entity) : Prop :=
  ∀ term ∈ entity.schedulingTerms, ∀ combiner ∈ entity.combiners, term ∉ combiner.termList

/-- A completed tick has reached the scheduling terms of the entity: each one was told once,
terms that count have not been exceeded, and targets in time have moved unless they overflow. -/
structure Informed (entity : Entity) (components : Uid → SchedulingTerm)
    (item next : EntityItem) : Prop where
  once : ∀ term ∈ entity.schedulingTerms, told term next.callbacks = told term item.callbacks + 1
  counted : ∀ term ∈ entity.schedulingTerms, ∀ count : Int, 0 ≤ count →
    components term = .count (.init count) → completed next.callbacks ≤ count
  advanced : ∀ term ∈ entity.schedulingTerms, ∀ periodic,
    item.components term = .periodic periodic → ∃ timestamp,
      next.components term = .periodic (periodic.onExecute timestamp) ∧
        (periodic.Exact timestamp → ∃ target,
          (periodic.onExecute timestamp).nextTarget = some target ∧
          ∀ earlier ∈ periodic.nextTarget, earlier + periodic.recessPeriodNs ≤ target)

/-- What the terms outside of combiners remember of the completed ticks. -/
structure Accounts (entity : Entity) (components : Uid → SchedulingTerm) (item : EntityItem) :
    Prop where
  terms : item.terms = (activate entity components 0).terms
  count : ∀ term ∈ item.terms, ∀ count : Int, 0 ≤ count → components term = .count (.init count) →
      ∃ state, item.components term = .count state ∧ 0 ≤ state.remaining ∧
        completed item.callbacks + state.remaining ≤ count

section Runs

variable {entity : Entity} {components : Uid → SchedulingTerm}

theorem mem_terms_activate (term : Uid) : term ∈ (activate entity components 0).terms ↔
      term ∈ entity.schedulingTerms ∧ ∀ combiner ∈ entity.combiners, term ∉ combiner.termList := by
  simp [activate, List.mem_filter, List.mem_flatMap]

section

variable (accounts : Accounts entity components item)
include accounts

theorem Accounts.nodup : item.terms.Nodup := by
  rw [accounts.terms]
  exact entity.schedulingTerms_nodup.filter _

theorem Accounts.idles (idles : Idles item next) : Accounts entity components next := by
  refine ⟨idles.terms.trans accounts.terms, fun term member count nonneg isCount => ?_⟩
  obtain ⟨state, isState, remains, bounded⟩ :=
    accounts.count term (idles.terms ▸ member) count nonneg isCount
  have same := idles.component term
  rw [isState] at same
  obtain ⟨later, isLater, sameRemaining⟩ := same
  refine ⟨later, isLater, sameRemaining ▸ remains, ?_⟩
  rw [idles.completedTicks, sameRemaining]
  exact bounded

theorem Accounts.tells
    (allow : ∀ term ∈ item.terms, (item.components term).Allows timestamp) {called : List Uid}
    (tells : Tells item timestamp called next) : Accounts entity components next := by
  refine ⟨tells.terms.trans accounts.terms, fun term member count nonneg isCount => ?_⟩
  have isTerm : term ∈ item.terms := tells.terms ▸ member
  obtain ⟨state, isState, remains, bounded⟩ := accounts.count term isTerm count nonneg isCount
  obtain ⟨answer, isNext⟩ := tells.component term
  rw [isState] at isNext
  by_cases isCalled : term ∈ called
  · have allows := allow term isTerm
    rw [isState] at allows
    rw [if_pos isCalled] at isNext
    have positive : state.remaining ≠ 0 := allows
    refine ⟨state.onExecute timestamp, isNext, ?_, ?_⟩
    · change 0 ≤ state.remaining - 1
      omega
    · change completed next.callbacks + (state.remaining - 1) ≤ count
      rcases tells.completedTicks with same | ⟨more, _⟩
      · omega
      · omega
  · rw [if_neg isCalled] at isNext
    rcases tells.completedTicks with same | ⟨_, all⟩
    · exact ⟨state, isNext, remains, same ▸ bounded⟩
    · exact absurd (all ▸ isTerm) isCalled

theorem accounts_step (op : Op) : Accounts entity components (system.step item op).1 := by
  rcases step_tells accounts.nodup op with
    idles | ⟨checked, ticked, timestamp, called, before, allow, tells, after⟩
  · exact accounts.idles idles
  · exact ((accounts.idles before).tells (before.terms.symm ▸ allow) tells).idles after

theorem informed_iff (op : Op)
    (completes : completed item.callbacks < completed (system.step item op).1.callbacks) :
    Informed entity components item (system.step item op).1 ↔ Ungoverned entity := by
  have next := accounts_step accounts op
  rcases step_tells accounts.nodup op with
    idles | ⟨checked, ticked, timestamp, called, before, allow, tells, after⟩
  · exact absurd idles.completedTicks (Nat.ne_of_gt completes)
  have all : called = item.terms := by
    rcases tells.completedTicks with same | ⟨_, all⟩
    · rw [after.completedTicks, same, before.completedTicks] at completes
      exact absurd completes (lt_irrefl _)
    · exact all.trans before.terms
  subst all
  have toldTerm (term : Uid) : told term (system.step item op).1.callbacks =
      told term item.callbacks + if term ∈ item.terms then 1 else 0 := by
    rw [after.toldTerm, tells.toldTerm, before.toldTerm]
  constructor
  · intro informed term member
    have once := informed.once term member
    rw [toldTerm] at once
    by_cases isTerm : term ∈ item.terms
    · rw [accounts.terms] at isTerm
      exact ((mem_terms_activate term).mp isTerm).2
    · rw [if_neg isTerm] at once
      omega
  · intro ungoverned
    have isTerm (term : Uid) (member : term ∈ entity.schedulingTerms) : term ∈ item.terms := by
      rw [accounts.terms]
      exact (mem_terms_activate term).mpr ⟨member, ungoverned term member⟩
    constructor
    · intro term member
      rw [toldTerm, if_pos (isTerm term member)]
    · intro term member count nonneg isCount
      have stillTerm : term ∈ (system.step item op).1.terms := by
        rw [next.terms, ← accounts.terms]
        exact isTerm term member
      obtain ⟨state, _, remains, bounded⟩ := next.count term stillTerm count nonneg isCount
      omega
    · intro term member periodic isPeriodic
      have same := before.component term
      rw [isPeriodic] at same
      have isChecked : checked.components term = .periodic periodic := same
      have allows := allow term (isTerm term member)
      rw [isChecked] at allows
      obtain ⟨answer, isTold⟩ := tells.component term
      rw [if_pos (isTerm term member), isChecked] at isTold
      have last := after.component term
      rw [isTold] at last
      exact ⟨timestamp, last, periodic.onExecute_advances allows⟩

end

/-- In every run, a completed tick reaches all scheduling terms exactly when no combiner
governs one. -/
theorem run_informed_iff (entity : Entity) (components : Uid → SchedulingTerm)
    (lastExecutionTimestamp : Int) (ops : List Op) :
    system.Along (fun item op =>
        completed item.callbacks < completed (system.step item op).1.callbacks →
          (Informed entity components item (system.step item op).1 ↔ Ungoverned entity))
      (activate entity components lastExecutionTimestamp) ops := by
  have initial : Accounts entity components (activate entity components lastExecutionTimestamp) :=
    ⟨rfl, fun term _ count nonneg isCount =>
      ⟨.init count, isCount, nonneg, by simp [activate, completed, CountSchedulingTerm.init]⟩⟩
  exact System.along_of_invariant_of_forall
    (fun item op (accounts : Accounts entity components item) => accounts_step accounts op)
    (fun _ op accounts => informed_iff accounts op) initial ops

/-- An entity with a term that an Or combiner governs. -/
def governed : Entity :=
  { single with
    schedulingTerms := [2]
    combiners := [orSchedulingTermCombiner [2]]
    schedulingTerms_nodup := List.nodup_singleton 2 }

/-- Everything succeeds, and there is no controller. -/
def succeeding : Environment :=
  { repeating with tickCode := fun _ => .GXF_SUCCESS, controllerLookup := .absent }

/-- A term with count 1 in an Or combiner does not keep its entity from ticking twice. -/
theorem governed_count_exceeded : ¬system.Along (fun item op =>
        completed item.callbacks < completed (system.step item op).1.callbacks →
          Informed governed (fun _ => .count (.init 1)) item (system.step item op).1)
      (activate governed (fun _ => .count (.init 1)) 0)
      [.execute succeeding 0, .execute succeeding 1, .execute succeeding 2] := by
  rintro ⟨_, _, informed, _⟩
  have bounded := (informed (by decide)).counted 2 (by decide) 1 (by decide) rfl
  exact absurd bounded (by decide)

end Runs

end EntityItem

end Gxf.Std
