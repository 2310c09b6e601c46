import Gxf.Lib.Patience
import Gxf.Std.GreedyScheduler.Scheduler

/-!
# The patience of the greedy scheduler

At the end of an iteration without a ready entity the loop compares the time with the one of the
latest iteration that had one.  This time is kept when the loop sleeps until a target or for an
event, and from one run to the next.
-/

namespace Gxf.Std.GreedyScheduler

open Gxf.Core Gxf.Lib

/-- What the end of an iteration finds, unless no entity is left to schedule.  It is stuck if no
entity is ready and none waits for a later target or for an event. -/
def evaluation (scheduler : GreedyScheduler) : Option Evaluation :=
  if scheduler.activeEntities = [] ∧ scheduler.eventWaiting.empty then none
  else
    some
      { time := scheduler.now
        ready := decide (scheduler.countReady ≠ 0)
        stuck := decide (scheduler.countReady = 0) &&
          !scheduler.earliestTarget.any (· > scheduler.now) &&
          !decide (scheduler.countWaitEvent > 0) }

/-- A scheduler with the latest reading of its clock and the evaluations of the current run, latest
first. -/
structure Watched where
  scheduler : GreedyScheduler
  clock : Int
  evaluations : List Evaluation

/-- The evaluations after a step.  A run starts when the entities are loaded. -/
def Watched.observe (watched : Watched) : Event → List Evaluation
  | .loop _ =>
      match watched.scheduler.phase with
      | .load => []
      | .finish => watched.scheduler.evaluation.toList ++ watched.evaluations
      | _ => watched.evaluations
  | _ => watched.evaluations

def Watched.read (watched : Watched) : Event → Int
  | .loop input => input.now
  | _ => watched.clock

/-- The scheduler with its evaluations. -/
def watching (setting : Setting) : System Watched Event Report where
  step watched event :=
    let answer := (system setting).step watched.scheduler event
    (⟨answer.1, watched.read event, watched.observe event⟩, answer.2)

/-- The loop ends at the end of an iteration though there are entities left to schedule. -/
def StopsOnDeadlock (setting : Setting) (scheduler : GreedyScheduler) (event : Event) : Prop :=
  ∃ input, event = .loop input ∧ scheduler.phase = .finish ∧ scheduler.evaluation.isSome ∧
    (scheduler.advance setting input).1.phase = .stopped

/-- What is asked of a step: the loop stops on deadlock only after a timeout that is not negative,
and all evaluations of the run during the timeout were stuck. -/
def HasPatience (setting : Setting) (watched : Watched) (event : Event) : Prop :=
  StopsOnDeadlock setting watched.scheduler event → 0 ≤ setting.stopOnDeadlockTimeout ∧
      Patient watched.scheduler.start (setting.stopOnDeadlockTimeout * 1000000)
        watched.scheduler.now (watched.observe event)

/-- The clock does not go back. -/
def Forward (watched : Watched) : Event → Prop
  | .loop input => watched.clock ≤ input.now
  | _ => True

/-- Before an evaluation that is stuck, the latest one of the run that was not stuck found a ready
entity. -/
def Refreshed (watched : Watched) : Event → Prop
  | .loop _ =>
      watched.scheduler.phase = .finish → ∀ evaluation ∈ watched.scheduler.evaluation,
        evaluation.stuck = true → ∃ latest ∈ latestOther watched.evaluations, latest.ready = true
  | _ => True

instance (watched : Watched) : (event : Event) → Decidable (Forward watched event)
  | .loop _ => inferInstanceAs (Decidable (_ ≤ _))
  | .schedule .. | .unschedule .. | .eventNotify .. | .runAsync | .stop => isTrue trivial

instance (watched : Watched) : (event : Event) → Decidable (Refreshed watched event)
  | .loop _ =>
      inferInstanceAs (Decidable (_ → ∀ evaluation ∈ watched.scheduler.evaluation,
        evaluation.stuck = true → ∃ latest ∈ latestOther watched.evaluations, latest.ready = true))
  | .schedule .. | .unschedule .. | .eventNotify .. | .runAsync | .stop => isTrue trivial

/-- The phases between the head of the loop and the end of an iteration. -/
def Phase.iterates : Phase → Bool
  | .absorb | .execute _ | .unschedule | .notify _ | .remove | .finish => true
  | .idle | .load | .check | .sleep | .stopped | .crashed => false

def Phase.runs : Phase → Bool
  | .idle | .load | .stopped | .crashed => false
  | _ => true

/-! ## Steps -/

/-- A step that leaves the times of a run alone, and does not begin an iteration or a run. -/
structure SameTimes (scheduler next : GreedyScheduler) : Prop where
  start : next.start = scheduler.start
  now : next.now = scheduler.now
  lastNoStopTs : next.lastNoStopTs = scheduler.lastNoStopTs
  iterates : next.phase.iterates = true → scheduler.phase.iterates = true
  runs : next.phase.runs = true → scheduler.phase.runs = true

theorem SameTimes.refl (scheduler : GreedyScheduler) : SameTimes scheduler scheduler :=
  ⟨rfl, rfl, rfl, id, id⟩

theorem Phase.runs_of_iterates {phase : Phase} (iterates : phase.iterates = true) :
    phase.runs = true := by
  cases phase <;> first | rfl | cases iterates

section Steps

variable {setting : Setting} {scheduler next : GreedyScheduler} {input : Input}

theorem SameTimes.within (iterates : scheduler.phase.iterates = true)
    (start : next.start = scheduler.start) (now : next.now = scheduler.now)
    (lastNoStopTs : next.lastNoStopTs = scheduler.lastNoStopTs) : SameTimes scheduler next :=
  ⟨start, now, lastNoStopTs, fun _ => iterates, fun _ => Phase.runs_of_iterates iterates⟩

/-- A step that does not lead into a run. -/
theorem SameTimes.outside (idle : next.phase.runs = false) (start : next.start = scheduler.start)
    (now : next.now = scheduler.now) (lastNoStopTs : next.lastNoStopTs = scheduler.lastNoStopTs) :
    SameTimes scheduler next := by
  have notRuns : ¬next.phase.runs = true := Bool.eq_false_iff.mp idle
  exact ⟨start, now, lastNoStopTs,
    fun iterates => absurd (Phase.runs_of_iterates iterates) notRuns, fun runs =>
    absurd runs notRuns⟩

theorem sameTimes_applyCondition (position : Nat) (eid : Uid)
    (condition : Except GxfResult SchedulingCondition)
    (isAt : scheduler.phase = .execute position) :
    SameTimes scheduler (scheduler.applyCondition position eid condition) := by
  unfold applyCondition
  repeat' split
  all_goals exact .within (by rw [isAt]; rfl) rfl rfl rfl

theorem sameTimes_advance (load : scheduler.phase ≠ .load) (check : scheduler.phase ≠ .check)
    (finish : scheduler.phase ≠ .finish) :
    SameTimes scheduler (scheduler.advance setting input).1 := by
  cases isAt : scheduler.phase with
  | load => exact absurd isAt load
  | check => exact absurd isAt check
  | finish => exact absurd isAt finish
  | idle | stopped | crashed =>
      simp only [advance, isAt]
      exact .refl scheduler
  | execute position =>
      simp only [advance, isAt, executeNext]
      repeat' split
      · exact .within (by rw [isAt]; rfl) rfl rfl rfl
      · exact .within (by rw [isAt]; rfl) rfl rfl rfl
      · exact sameTimes_applyCondition position _ (.ok ⟨.NEVER, 0⟩) isAt
      · exact sameTimes_applyCondition position _ input.condition isAt
  | absorb | unschedule | notify | remove =>
      simp only [advance, isAt, absorbEntities, processRequest, processNotification, removeEntities]
      repeat' split
      all_goals exact .within (by rw [isAt]; rfl) rfl rfl rfl
  | sleep =>
      simp only [advance, isAt, wakeUp]
      split
      · exact ⟨rfl, rfl, rfl, fun iterates => absurd iterates Bool.false_ne_true,
          fun _ => by rw [isAt]; rfl⟩
      · exact .refl scheduler

theorem sameTimes_step {event : Event} (outside : ∀ input, event ≠ .loop input) :
    SameTimes scheduler ((system setting).step scheduler event).1 := by
  cases event with
  | loop input => exact absurd rfl (outside input)
  | runAsync =>
      simp only [system, runAsyncAbi]
      split
      · exact .outside rfl rfl rfl rfl
      · exact .outside rfl rfl rfl rfl
      · exact .refl scheduler
  | stop => exact ⟨rfl, rfl, rfl, id, id⟩
  | schedule | unschedule | eventNotify =>
      simp only [system, scheduleAbi, unscheduleAbi, eventNotifyAbi]
      repeat' split
      all_goals exact ⟨rfl, rfl, rfl, id, id⟩

/-- The head of the loop ends it or begins an iteration. -/
theorem checkTermination_cases (setting : Setting) (scheduler : GreedyScheduler) (input : Input) :
    (∃ code, (scheduler.checkTermination setting input).1 =
        { scheduler with threadErrorCode := code, phase := .stopped }) ∨
      (scheduler.checkTermination setting input).1 =
        { scheduler with
          now := input.now
          countReady := 0
          earliestTarget := none
          phase := .absorb } := by
  unfold checkTermination
  split
  · exact .inl ⟨scheduler.threadErrorCode, rfl⟩
  · dsimp only
    split
    · split
      · exact .inl ⟨input.deactivated, rfl⟩
      · exact .inr rfl
    · exact .inr rfl

theorem time_evaluation {found : Evaluation} (evaluated : scheduler.evaluation = some found) :
    found.time = scheduler.now := by
  rw [evaluation] at evaluated
  split at evaluated
  · cases evaluated
  · cases evaluated
    rfl

theorem stopOnDeadlockTimeout_stuck (lastNoStopTs timeout now : Int) :
    ∃ stops, stopOnDeadlockTimeout lastNoStopTs timeout now true = (stops, lastNoStopTs) ∧
      (stops = true → 0 ≤ timeout ∧ int64 (timeout * 1000000) ≤ int64 (now - lastNoStopTs)) := by
  rw [stopOnDeadlockTimeout]
  split
  next => exact ⟨false, rfl, fun stops => by cases stops⟩
  next notNegative =>
    have trend : ¬(!true) = true := Bool.false_ne_true
    rw [if_neg trend]
    split
    next => exact ⟨false, rfl, fun stops => by cases stops⟩
    next waited => exact ⟨true, rfl, fun _ => ⟨not_lt.mp notNegative, not_lt.mp waited⟩⟩

theorem finishIteration_eq {found : Evaluation} (evaluated : scheduler.evaluation = some found) :
    ∃ phase lastNoStopTs, (scheduler.finishIteration setting).1 =
        { scheduler with phase, lastNoStopTs } ∧ phase.iterates = false ∧
      (found.stuck = true ∧ lastNoStopTs = scheduler.lastNoStopTs ∧
          (phase = .stopped → 0 ≤ setting.stopOnDeadlockTimeout ∧
            int64 (setting.stopOnDeadlockTimeout * 1000000) ≤
              int64 (scheduler.now - scheduler.lastNoStopTs)) ∨
        found.stuck = false ∧ phase ≠ .stopped ∧
          (found.ready = true → lastNoStopTs = scheduler.now)) := by
  rw [evaluation] at evaluated
  split at evaluated
  · cases evaluated
  · rename_i entities
    cases evaluated
    rw [finishIteration, if_neg entities]
    by_cases none : scheduler.countReady = 0
    · rw [if_pos none]
      by_cases target : scheduler.earliestTarget.any (· > scheduler.now) = true
      · rw [if_pos target]
        exact ⟨_, _, rfl, rfl, .inr ⟨by simp [target], by decide, by simp [none]⟩⟩
      · rw [if_neg target]
        by_cases waiting : scheduler.countWaitEvent > 0
        · rw [if_pos waiting]
          exact ⟨_, _, rfl, rfl, .inr ⟨by simp [waiting], by decide, by simp [none]⟩⟩
        · rw [if_neg waiting]
          have stuck : (decide (scheduler.countReady = 0) &&
              !scheduler.earliestTarget.any (· > scheduler.now) &&
              !decide (scheduler.countWaitEvent > 0)) = true := by
            rw [decide_eq_true none, Bool.eq_false_iff.mpr target, decide_eq_false waiting]
            rfl
          by_cases enabled : setting.stopOnDeadlock = true
          · obtain ⟨stops, decides, waited⟩ := stopOnDeadlockTimeout_stuck scheduler.lastNoStopTs
              setting.stopOnDeadlockTimeout scheduler.now
            rw [if_pos enabled, decides]
            cases stops with
            | true => exact ⟨_, _, rfl, rfl, .inl ⟨stuck, rfl, fun _ => waited rfl⟩⟩
            | false => exact ⟨_, _, rfl, rfl, .inl ⟨stuck, rfl, fun stopped => by cases stopped⟩⟩
          · rw [if_neg enabled]
            exact ⟨_, _, rfl, rfl, .inl ⟨stuck, rfl, fun stopped => by cases stopped⟩⟩
    · rw [if_neg none]
      exact ⟨_, _, rfl, rfl, .inr ⟨by simp [none], by decide, fun _ => rfl⟩⟩

end Steps

/-! ## Runs -/

/-- What holds in every state of a run: the evaluations are in the order of time, and if the latest
one that was not stuck found a ready entity, then the time that is kept is not earlier than that one
and not in the future. -/
structure Timed (watched : Watched) : Prop where
  timely : Timely watched.scheduler.start watched.clock watched.evaluations
  running : watched.scheduler.phase.runs = true → watched.scheduler.start ≤ watched.clock
  iterating : watched.scheduler.phase.iterates = true → watched.scheduler.now ≤ watched.clock ∧
      watched.scheduler.start ≤ watched.scheduler.now ∧
      Timely watched.scheduler.start watched.scheduler.now watched.evaluations ∧
      ∀ latest ∈ latestOther watched.evaluations, latest.ready = true →
        watched.scheduler.lastNoStopTs ≤ watched.scheduler.now
  latest : ∀ latest ∈ latestOther watched.evaluations, latest.ready = true →
    latest.time ≤ watched.scheduler.lastNoStopTs ∧ watched.scheduler.lastNoStopTs ≤ watched.clock

section Timed

variable {setting : Setting} {watched : Watched}

theorem Timed.of_sameTimes (timed : Timed watched) {next : GreedyScheduler} {clock : Int}
    (same : SameTimes watched.scheduler next) (forward : watched.clock ≤ clock) :
    Timed ⟨next, clock, watched.evaluations⟩ where
  timely := by
    rw [same.start]
    exact timed.timely.later forward
  running runs := by
    rw [same.start]
    exact (timed.running (same.runs runs)).trans forward
  iterating iterates := by
    obtain ⟨before, started, timely, kept⟩ := timed.iterating (same.iterates iterates)
    rw [same.start, same.now, same.lastNoStopTs]
    exact ⟨before.trans forward, started, timely, kept⟩
  latest := by
    rw [same.lastNoStopTs]
    intro latest isLatest ready
    exact (timed.latest latest isLatest ready).imp_right fun past => past.trans forward

theorem timed_load (setting : Setting) (isAt : watched.scheduler.phase = .load) (input : Input) :
    Timed ((watching setting).step watched (.loop input)).1 := by
  simp only [watching, system, advance, Watched.observe, isAt, loadEntities]
  split
  · exact ⟨timely_nil _ _, fun runs => absurd runs Bool.false_ne_true,
      fun iterates => absurd iterates Bool.false_ne_true, by simp [latestOther]⟩
  · exact ⟨timely_nil _ _, fun _ => le_refl input.now,
      fun iterates => absurd iterates Bool.false_ne_true, by simp [latestOther]⟩

theorem Timed.check (timed : Timed watched) (isAt : watched.scheduler.phase = .check)
    (input : Input) (forward : watched.clock ≤ input.now) :
    Timed ((watching setting).step watched (.loop input)).1 := by
  have started : watched.scheduler.start ≤ input.now :=
    (timed.running (by rw [isAt]; rfl)).trans forward
  have timely := timed.timely.later forward
  have stops (code : GxfResult) : SameTimes watched.scheduler
        { watched.scheduler with threadErrorCode := code, phase := .stopped } :=
    .outside rfl rfl rfl rfl
  simp only [watching, system, advance, Watched.observe, isAt]
  rcases checkTermination_cases setting watched.scheduler input with ⟨code, ends⟩ | begins
  · rw [ends]
    exact timed.of_sameTimes (stops code) forward
  · rw [begins]
    have latest latest isLatest ready :=
      (timed.latest latest isLatest ready).imp_right fun past => past.trans forward
    exact ⟨timely, fun _ => started,
      fun _ => ⟨le_refl _, started, timely, fun found isLatest ready =>
        (latest found isLatest ready).2⟩, latest⟩

theorem Timed.finish (timed : Timed watched) (isAt : watched.scheduler.phase = .finish)
    (input : Input) (forward : watched.clock ≤ input.now) :
    Timed ((watching setting).step watched (.loop input)).1 := by
  obtain ⟨before, started, timely, -⟩ := timed.iterating (by rw [isAt]; rfl)
  simp only [watching, system, advance, Watched.observe, isAt]
  cases evaluated : watched.scheduler.evaluation with
  | none =>
      have entities : watched.scheduler.activeEntities = [] ∧
          watched.scheduler.eventWaiting.empty = true := by
        by_contra some
        rw [evaluation, if_neg some] at evaluated
        cases evaluated
      rw [finishIteration, if_pos entities]
      exact timed.of_sameTimes (.outside rfl rfl rfl rfl) forward
  | some found =>
      obtain ⟨phase, lastNoStopTs, ends, iterates, decides⟩ :=
        @finishIteration_eq setting watched.scheduler found evaluated
      have time := time_evaluation evaluated
      rw [← time] at before started timely
      rw [ends]
      refine ⟨(timely.cons started).later (before.trans forward), fun _ => ?_, fun still => ?_, ?_⟩
      · exact (started.trans before).trans forward
      · exact absurd (iterates.symm.trans still) Bool.false_ne_true
      · rcases decides with ⟨stuck, keeps, -⟩ | ⟨free, -, takes⟩
        · rw [Option.toList_some, List.singleton_append, latestOther_cons_stuck stuck, keeps]
          intro latest isLatest ready
          exact (timed.latest latest isLatest ready).imp_right fun past => past.trans forward
        · rw [Option.toList_some, List.singleton_append, latestOther_cons_free free]
          rintro latest isLatest ready
          cases isLatest
          rw [takes ready, ← time]
          exact ⟨le_refl _, before.trans forward⟩

theorem Timed.step (timed : Timed watched) (event : Event) (forward : Forward watched event) :
    Timed ((watching setting).step watched event).1 := by
  by_cases loops : ∃ input, event = .loop input
  · obtain ⟨input, rfl⟩ := loops
    by_cases load : watched.scheduler.phase = .load
    · exact timed_load setting load input
    by_cases check : watched.scheduler.phase = .check
    · exact timed.check check input forward
    by_cases finish : watched.scheduler.phase = .finish
    · exact timed.finish finish input forward
    have unobserved : watched.observe (.loop input) = watched.evaluations := by
      simp only [Watched.observe]
    have next := timed.of_sameTimes
      (@sameTimes_advance setting watched.scheduler input load check finish) forward
    rw [← unobserved] at next
    exact next
  · have outside : ∀ input, event ≠ .loop input := fun input same => loops ⟨input, same⟩
    have next := timed.of_sameTimes (@sameTimes_step setting watched.scheduler event outside)
      (le_refl _)
    cases event with
    | loop input => exact absurd rfl (outside input)
    | schedule | unschedule | eventNotify | runAsync | stop => exact next

theorem Timed.hasPatience (timed : Timed watched) {event : Event}
    (fits : setting.stopOnDeadlockTimeout * 1000000 < 2 ^ 63)
    (refreshed : 0 < setting.stopOnDeadlockTimeout → Refreshed watched event) :
    HasPatience setting watched event := by
  rintro ⟨input, rfl, isAt, evaluated, stopped⟩
  obtain ⟨found, evaluated⟩ := Option.isSome_iff_exists.mp evaluated
  obtain ⟨phase, lastNoStopTs, ends, -, decides⟩ :=
    @finishIteration_eq setting watched.scheduler found evaluated
  simp only [advance, isAt, ends] at stopped
  rcases decides with ⟨stuck, -, waited⟩ | ⟨-, goesOn, -⟩
  · obtain ⟨notNegative, waited⟩ := waited stopped
    obtain ⟨-, started, timely, kept⟩ := timed.iterating (by rw [isAt]; rfl)
    refine ⟨notNegative, ?_⟩
    simp only [Watched.observe, isAt, evaluated, Option.toList_some, List.singleton_append]
    apply Patient.cons _ stuck
    rcases Int.lt_or_eq_of_le notNegative with positive | none
    · obtain ⟨latest, isLatest, ready⟩ := refreshed positive isAt found evaluated stuck
      have before := (timed.latest latest isLatest ready).1
      have past := kept latest isLatest ready
      rw [int64_eq_self ⟨by omega, by omega⟩] at waited
      have elapsed := waited.trans (int64_le_self (by omega))
      exact timely.patient isLatest (by omega)
    · rw [← none, Int.zero_mul]
      exact timely.patient_zero started
  · exact absurd stopped goesOn

end Timed

theorem timed_init (clock : Int) : Timed ⟨init, clock, []⟩ where
  timely := timely_nil _ _
  running runs := absurd runs Bool.false_ne_true
  iterating iterates := absurd iterates Bool.false_ne_true
  latest := by simp [latestOther]

theorem hasPatience_run (setting : Setting)
    (fits : setting.stopOnDeadlockTimeout * 1000000 < 2 ^ 63) (clock : Int) (events : List Event)
    (forward : (watching setting).Along Forward ⟨init, clock, []⟩ events)
    (refreshed : 0 < setting.stopOnDeadlockTimeout →
      (watching setting).Along Refreshed ⟨init, clock, []⟩ events) :
    (watching setting).Along (HasPatience setting) ⟨init, clock, []⟩ events := by
  have guarded : (watching setting).Along (fun watched event =>
        Forward watched event ∧ (0 < setting.stopOnDeadlockTimeout → Refreshed watched event))
      ⟨init, clock, []⟩ events := by
    rw [System.along_and]
    exact ⟨forward, System.along_imp refreshed⟩
  exact System.along_of_invariant (fun watched event timed guard => timed.step event guard.1)
    (fun watched event timed guard => timed.hasPatience fits guard.2) (timed_init clock) guarded

end Gxf.Std.GreedyScheduler
