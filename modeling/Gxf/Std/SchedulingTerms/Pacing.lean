import Mathlib.Algebra.Order.Group.Unbundled.Int
import Mathlib.Data.List.Chain
import Gxf.Std.SchedulingTerms

/-!
# The pace of periodic entities

An entity whose only term is periodic is attempted at some timestamps, and executes when its
condition lets it.  Each policy bounds in its own way how close together the executions are, as long
as no target overflows.
-/

namespace Gxf.Std.PeriodicSchedulingTerm

/-- An execution and the target that it sets. -/
structure Execution where
  timestamp : Int
  nextTarget : Option Int
  deriving DecidableEq, Repr

/-- The entity executes: the condition is ready, or waits for a time that has come. -/
def executes (term : PeriodicSchedulingTerm) (timestamp : Int) : Bool :=
  let condition := term.checkAbi timestamp
  decide (condition.type = .READY) ||
    decide (condition.type = .WAIT_TIME ∧ condition.targetTimestamp ≤ timestamp)

/-- The executions among some attempts. -/
def executions : PeriodicSchedulingTerm → List Int → List Execution
  | _, [] => []
  | term, timestamp :: rest =>
      if term.executes timestamp then
        ⟨timestamp, (term.onExecute timestamp).nextTarget⟩ ::
          executions (term.onExecute timestamp) rest
      else executions term rest

/-- No target overflows that an execution among some attempts sets. -/
def ExactRun : PeriodicSchedulingTerm → List Int → Prop
  | _, [] => True
  | term, timestamp :: rest =>
      if term.executes timestamp then
        term.Exact timestamp ∧ ExactRun (term.onExecute timestamp) rest
      else ExactRun term rest

/-- The term after `initialize()`. -/
def init (policy : PeriodicSchedulingPolicy) (period : Nat) : PeriodicSchedulingTerm :=
  ⟨policy, period, none⟩

/-- `kMinTimeBetweenTicks`: consecutive executions are a period apart. -/
def Spaced (period : Nat) (executions : List Execution) : Prop :=
  executions.IsChain fun earlier later => earlier.timestamp + (period : Int) ≤ later.timestamp

/-- `kNoCatchUpMissedTicks`: a target is the next point of the grid behind its execution, and
each window of the grid sees one execution at most. -/
def OnGrid (period : Nat) (start : Int) (executions : List Execution) : Prop :=
  (∀ execution ∈ executions, ∃ target, execution.nextTarget = some target ∧
    (period : Int) ∣ target - start ∧ execution.timestamp < target ∧
      target ≤ execution.timestamp + period) ∧
  executions.Pairwise fun earlier later =>
    (earlier.timestamp - start) / period < (later.timestamp - start) / period

/-- `kCatchUpMissedTicks`: on the average there is one execution a period. -/
def CatchesUp (period : Nat) (start : Int) (executions : List Execution) : Prop :=
  (∀ moment, start ≤ moment →
    (executions.countP fun execution => decide (execution.timestamp ≤ moment) : Int) ≤
      (moment - start) / period + 1) ∧
  ∀ (index : Nat) (execution : Execution), executions[index]? = some execution →
    start + index * period ≤ execution.timestamp

/-- The promise of a policy for executions from a start on. -/
def Paced (policy : PeriodicSchedulingPolicy) (period : Nat) (start : Int)
    (executions : List Execution) : Prop :=
  match policy with
  | .kMinTimeBetweenTicks => Spaced period executions
  | .kNoCatchUpMissedTicks => OnGrid period start executions
  | .kCatchUpMissedTicks => CatchesUp period start executions

variable {policy : PeriodicSchedulingPolicy} {period : Nat} {target timestamp : Int}

theorem executes_init (policy : PeriodicSchedulingPolicy) (period : Nat) (timestamp : Int) :
    (init policy period).executes timestamp = true := rfl

theorem executes_iff :
    executes ⟨policy, period, some target⟩ timestamp = true ↔ target ≤ timestamp := by
  by_cases late : timestamp > target
  · simp only [executes, checkAbi, if_pos late]
    exact iff_of_true rfl (Int.le_of_lt late)
  · simp only [executes, checkAbi, if_neg late]
    simp

theorem executions_cons (rest : List Int) :
    executions ⟨policy, period, some target⟩ (timestamp :: rest) =
      if target ≤ timestamp then
        ⟨timestamp, (onExecute ⟨policy, period, some target⟩ timestamp).nextTarget⟩ ::
          executions (onExecute ⟨policy, period, some target⟩ timestamp) rest
      else executions ⟨policy, period, some target⟩ rest := by
  rw [executions]
  simp only [executes_iff]

theorem exactRun_cons (rest : List Int) :
    ExactRun ⟨policy, period, some target⟩ (timestamp :: rest) ↔
      if target ≤ timestamp then
        Exact ⟨policy, period, some target⟩ timestamp ∧
          ExactRun (onExecute ⟨policy, period, some target⟩ timestamp) rest
      else ExactRun ⟨policy, period, some target⟩ rest := by
  rw [ExactRun]
  simp only [executes_iff]

/-- The next target of `kNoCatchUpMissedTicks` is the first point of the grid in the future. -/
theorem onExecute_noCatchUp (positive : 1 ≤ period) (reached : target ≤ timestamp)
    (exact : Exact ⟨.kNoCatchUpMissedTicks, period, some target⟩ timestamp) :
    ∃ next, onExecute ⟨.kNoCatchUpMissedTicks, period, some target⟩ timestamp =
        ⟨.kNoCatchUpMissedTicks, period, some next⟩ ∧
      (period : Int) ∣ next - target ∧ timestamp < next ∧ next ≤ timestamp + period := by
  have below := Int.emod_lt_of_pos (timestamp - target) (by omega : (0 : Int) < period)
  have above := Int.emod_nonneg (timestamp - target) (by omega : (period : Int) ≠ 0)
  have division := Int.mul_ediv_add_emod (timestamp - target) period
  have product := Int.add_mul ((timestamp - target) / period) 1 period
  rw [Int.one_mul] at product
  rw [Int.mul_comm] at division
  refine ⟨target + ((timestamp - target) / period + 1) * period, ?_, ?_, by omega, by omega⟩
  · rw [exact.onExecute, exactTarget]
    dsimp only
    rw [Int.tdiv_eq_ediv_of_nonneg (by omega)]
  · rw [add_sub_cancel_left]
    exact Int.dvd_mul_left _ _

/-! ## Runs of attempts -/

theorem spaced_run {attempts : List Int} {execution : Execution}
    (exact : ExactRun ⟨.kMinTimeBetweenTicks, period, some target⟩ attempts)
    (isTarget : execution.timestamp + period = target) :
    Spaced period
      (execution :: executions ⟨.kMinTimeBetweenTicks, period, some target⟩ attempts) := by
  induction attempts generalizing execution target with
  | nil => exact List.isChain_singleton _
  | cons timestamp rest ih =>
      rw [exactRun_cons] at exact
      rw [executions_cons]
      split at exact
      next reached =>
        obtain ⟨here, later⟩ := exact
        rw [if_pos reached]
        rw [here.onExecute] at later ⊢
        exact List.isChain_cons_cons.mpr ⟨isTarget ▸ reached, ih later rfl⟩
      next early =>
        rw [if_neg early]
        exact ih exact isTarget

theorem onGrid_run {start : Int} (positive : 1 ≤ period) {attempts : List Int}
    (exact : ExactRun ⟨.kNoCatchUpMissedTicks, period, some target⟩ attempts)
    (isPoint : (period : Int) ∣ target - start) :
    OnGrid period start (executions ⟨.kNoCatchUpMissedTicks, period, some target⟩ attempts) ∧
      ∀ execution ∈ executions ⟨.kNoCatchUpMissedTicks, period, some target⟩ attempts,
        target ≤ execution.timestamp := by
  induction attempts generalizing target with
  | nil => exact ⟨⟨List.forall_mem_nil _, List.Pairwise.nil⟩, List.forall_mem_nil _⟩
  | cons timestamp rest ih =>
      rw [exactRun_cons] at exact
      rw [executions_cons]
      split at exact
      next reached =>
        obtain ⟨here, isLater⟩ := exact
        obtain ⟨next, isNext, isMultiple, behind, near⟩ :=
          onExecute_noCatchUp positive reached here
        have isNextPoint : (period : Int) ∣ next - start := by
          have sum := Int.dvd_add isMultiple isPoint
          rwa [sub_add_sub_cancel] at sum
        rw [isNext] at isLater
        obtain ⟨⟨later, apart⟩, after⟩ := ih isLater isNextPoint
        rw [if_pos reached, isNext]
        refine ⟨⟨List.forall_mem_cons.mpr ⟨⟨next, rfl, isNextPoint, behind, near⟩, later⟩,
          List.pairwise_cons.mpr ⟨fun execution member => ?_, apart⟩⟩,
          List.forall_mem_cons.mpr ⟨reached, fun execution member => ?_⟩⟩
        · -- the next target is the left end of a later window
          have reachedNext := after execution member
          obtain ⟨window, isWindow⟩ := isNextPoint
          have inWindow : window ≤ (execution.timestamp - start) / period := by
            rw [Int.le_ediv_iff_mul_le (by omega), Int.mul_comm]
            omega
          have before : (timestamp - start) / period < window := by
            rw [Int.ediv_lt_iff_lt_mul (by omega), Int.mul_comm]
            omega
          exact Int.lt_of_lt_of_le before inWindow
        · have reachedNext := after execution member
          omega
      next early =>
        rw [if_neg early]
        exact ih exact isPoint

theorem catchesUp_run {attempts : List Int}
    (exact : ExactRun ⟨.kCatchUpMissedTicks, period, some target⟩ attempts) :
    ∀ (index : Nat) (execution : Execution),
      (executions ⟨.kCatchUpMissedTicks, period, some target⟩ attempts)[index]? = some execution →
        target + index * period ≤ execution.timestamp := by
  induction attempts generalizing target with
  | nil => exact fun index execution isExecution => by cases isExecution
  | cons timestamp rest ih =>
      rw [exactRun_cons] at exact
      rw [executions_cons]
      split at exact
      next reached =>
        obtain ⟨here, isLater⟩ := exact
        rw [if_pos reached]
        rw [here.onExecute] at isLater ⊢
        intro index execution isExecution
        cases index with
        | zero =>
            cases isExecution
            simpa using reached
        | succ index =>
            have later : target + period + index * period ≤ execution.timestamp :=
              ih isLater index execution isExecution
            rw [Int.natCast_succ, Int.add_mul, Int.one_mul]
            omega
      next early =>
        rw [if_neg early]
        exact ih exact

theorem catchesUp_of_bound {start : Int} (positive : 1 ≤ period) {executions : List Execution}
    (bound : ∀ (index : Nat) (execution : Execution), executions[index]? = some execution →
      start + index * period ≤ execution.timestamp) : CatchesUp period start executions := by
  refine ⟨fun moment started => ?_, bound⟩
  obtain ⟨most, isMost⟩ : ∃ most : Nat, (moment - start) / period + 1 = most :=
    ⟨((moment - start) / period + 1).toNat, by
      have nonneg := Int.ediv_nonneg (by omega : 0 ≤ moment - start) (Int.natCast_nonneg period)
      omega⟩
  have none : (executions.drop most).countP
      (fun execution => decide (execution.timestamp ≤ moment)) = 0 := by
    refine List.countP_eq_zero.mpr fun execution member => ?_
    obtain ⟨offset, isExecution⟩ := List.mem_iff_getElem?.mp member
    rw [List.getElem?_drop] at isExecution
    have late := bound _ execution isExecution
    have past : (moment - start) / period < (most + offset : Nat) := by omega
    rw [Int.ediv_lt_iff_lt_mul (by omega)] at past
    simp only [decide_eq_true_eq]
    omega
  have few := List.countP_le_length (l := executions.take most) (p := fun execution =>
    decide (execution.timestamp ≤ moment))
  rw [isMost, ← List.take_append_drop most executions, List.countP_append, none]
  have short := List.length_take_le most executions
  omega

/-- Every policy keeps its promise along every sequence of attempts, of which the first one is the
first execution, as long as no target overflows. -/
theorem executions_paced (policy : PeriodicSchedulingPolicy) {period : Nat} (positive : 1 ≤ period)
    (start : Int) (attempts : List Int)
    (exact : ExactRun (init policy period) (start :: attempts)) :
    Paced policy period start (executions (init policy period) (start :: attempts)) := by
  rw [ExactRun, if_pos (executes_init policy period start)] at exact
  obtain ⟨here, isLater⟩ := exact
  have isNext : onExecute (init policy period) start = ⟨policy, period, some (start + period)⟩ :=
    here.onExecute
  rw [isNext] at isLater
  have first : executions (init policy period) (start :: attempts) =
      ⟨start, some (start + period)⟩ ::
        executions ⟨policy, period, some (start + period)⟩ attempts := by
    rw [executions, if_pos (executes_init policy period start), isNext]
  rw [first]
  cases policy with
  | kMinTimeBetweenTicks => exact spaced_run isLater rfl
  | kNoCatchUpMissedTicks =>
      have isPoint : (period : Int) ∣ start + period - start := ⟨1, by omega⟩
      obtain ⟨⟨later, apart⟩, after⟩ := onGrid_run positive isLater isPoint
      refine ⟨List.forall_mem_cons.mpr ⟨⟨_, rfl, isPoint, ?_, Int.le_refl _⟩, later⟩,
        List.pairwise_cons.mpr ⟨fun execution member => ?_, apart⟩⟩
      · have later : (0 : Int) < period := by omega
        exact Int.lt_add_of_pos_right start later
      · have reached := after execution member
        dsimp only
        rw [Int.sub_self, Int.zero_ediv, Int.lt_iff_add_one_le, Int.zero_add,
          Int.le_ediv_iff_mul_le (by omega), Int.one_mul]
        omega
  | kCatchUpMissedTicks =>
      refine catchesUp_of_bound positive fun index execution isExecution => ?_
      cases index with
      | zero =>
          cases isExecution
          simp
      | succ index =>
          have late := catchesUp_run isLater index execution isExecution
          rw [Int.natCast_succ, Int.add_mul, Int.one_mul]
          omega

/-- The header's example: late attempts with a period of 100. -/
theorem executions_paced_late : Paced .kNoCatchUpMissedTicks 100 0
      (executions (init .kNoCatchUpMissedTicks 100) [0, 250, 255, 305]) :=
  executions_paced .kNoCatchUpMissedTicks (by decide) 0 [250, 255, 305]
    (by simp [ExactRun, executes, checkAbi, init, onExecute, Exact, exactTarget,
      Lib.InInt64, Lib.int64])

/-- The first target overflows to a time long ago, and the second execution follows 1000 later. -/
theorem overflow_not_paced :
    ¬Paced .kMinTimeBetweenTicks 9223372036854774784 2000
      (executions (init .kMinTimeBetweenTicks 9223372036854774784) [2000, 3000]) := by
  have both : executions (init .kMinTimeBetweenTicks 9223372036854774784) [2000, 3000] =
      [⟨2000, some (-9223372036854774832)⟩, ⟨3000, some (-9223372036854773832)⟩] := by
    simp [executions, executes, checkAbi, init, onExecute, Lib.int64]
  rw [both]
  intro paced
  exact absurd (List.isChain_cons_cons.mp paced).1 (by decide)

end Gxf.Std.PeriodicSchedulingTerm
