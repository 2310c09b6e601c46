import Mathlib.Order.Lattice
import Gxf.Core.Result
import Gxf.Lib.SignedWord
import Gxf.Std.Entity
import Gxf.Std.SchedulingCondition

/-!
# Scheduling terms

A scheduling term says when its entity may execute, and is told about every execution.
Terms that count executions and terms that wait for a period are modelled as in
`scheduling_terms.cpp`, with times in signed words.  All other terms answer from outside.
-/

namespace Gxf.Std

open Gxf.Core Gxf.Lib

/-- The fields of a `CountSchedulingTerm`. -/
structure CountSchedulingTerm where
  remaining : Int
  currentState : SchedulingConditionType
  lastRunTimestamp : Int
  deriving DecidableEq, Repr

namespace CountSchedulingTerm

/-- `initialize()`, for a value of the parameter `count`. -/
def init (count : Int) : CountSchedulingTerm := ⟨count, .READY, 0⟩

/-- `update_state_abi(timestamp)`. -/
def updateState (term : CountSchedulingTerm) : CountSchedulingTerm :=
  if term.remaining = 0 then { term with currentState := .NEVER } else term

/-- `check_abi(timestamp, type, target_timestamp)`. -/
def checkAbi (term : CountSchedulingTerm) : SchedulingCondition :=
  ⟨term.currentState, term.lastRunTimestamp⟩

/-- `onExecute_abi(timestamp)`. -/
def onExecute (term : CountSchedulingTerm) (timestamp : Int) : CountSchedulingTerm where
  remaining := term.remaining - 1
  currentState := if term.remaining - 1 = 0 then .NEVER else term.currentState
  lastRunTimestamp := timestamp

end CountSchedulingTerm

/-- `PeriodicSchedulingPolicy`. -/
inductive PeriodicSchedulingPolicy where
  | kCatchUpMissedTicks
  | kMinTimeBetweenTicks
  | kNoCatchUpMissedTicks
  deriving DecidableEq, Repr

/-- The fields of a `PeriodicSchedulingTerm`.  The period is parsed from a positive number
and rounded towards zero. -/
structure PeriodicSchedulingTerm where
  policy : PeriodicSchedulingPolicy
  recessPeriodNs : Nat
  nextTarget : Option Int
  deriving DecidableEq, Repr

namespace PeriodicSchedulingTerm

/-- `check_abi(timestamp, type, target_timestamp)`. -/
def checkAbi (term : PeriodicSchedulingTerm) (timestamp : Int) : SchedulingCondition :=
  match term.nextTarget with
  | none => ⟨.READY, timestamp⟩
  | some target => ⟨if timestamp > target then .READY else .WAIT_TIME, target⟩

/-- `onExecute_abi(timestamp)`.  A word that overflows in the product does so in the sum. -/
def onExecute (term : PeriodicSchedulingTerm) (timestamp : Int) : PeriodicSchedulingTerm :=
  match term.nextTarget with
  | none => { term with nextTarget := some (int64 (timestamp + term.recessPeriodNs)) }
  | some target =>
      match term.policy with
      | .kCatchUpMissedTicks =>
          { term with nextTarget := some (int64 (target + term.recessPeriodNs)) }
      | .kMinTimeBetweenTicks =>
          { term with nextTarget := some (int64 (timestamp + term.recessPeriodNs)) }
      | .kNoCatchUpMissedTicks =>
          { term with
            nextTarget := some (int64 (target +
              ((int64 (timestamp - target)).tdiv term.recessPeriodNs + 1) * term.recessPeriodNs)) }

/-- The next target, in integers. -/
def exactTarget (term : PeriodicSchedulingTerm) (timestamp : Int) : Int :=
  match term.nextTarget with
  | none => timestamp + term.recessPeriodNs
  | some target =>
      match term.policy with
      | .kCatchUpMissedTicks => target + term.recessPeriodNs
      | .kMinTimeBetweenTicks => timestamp + term.recessPeriodNs
      | .kNoCatchUpMissedTicks =>
          target + ((timestamp - target).tdiv term.recessPeriodNs + 1) * term.recessPeriodNs

/-- The next target is computed without an overflow. -/
def Exact (term : PeriodicSchedulingTerm) (timestamp : Int) : Prop :=
  InInt64 (term.exactTarget timestamp) ∧
    (term.policy = .kNoCatchUpMissedTicks → ∀ target ∈ term.nextTarget,
    InInt64 (timestamp - target))

theorem Exact.onExecute {term : PeriodicSchedulingTerm} {timestamp : Int}
    (exact : term.Exact timestamp) : term.onExecute timestamp =
      { term with nextTarget := some (term.exactTarget timestamp) } := by
  obtain ⟨fits, difference⟩ := exact
  rw [PeriodicSchedulingTerm.onExecute, exactTarget] at *
  cases isTarget : term.nextTarget with
  | none =>
      simp only [isTarget] at fits ⊢
      rw [int64_eq_self fits]
  | some target =>
      cases policy : term.policy with
      | kCatchUpMissedTicks | kMinTimeBetweenTicks =>
          simp only [isTarget, policy] at fits ⊢
          rw [int64_eq_self fits]
      | kNoCatchUpMissedTicks =>
          simp only [isTarget, policy] at fits ⊢
          rw [int64_eq_self (difference policy target isTarget), int64_eq_self fits]

end PeriodicSchedulingTerm

/-- A term as the executor sees it. -/
inductive SchedulingTerm where
  | count (term : CountSchedulingTerm)
  | periodic (term : PeriodicSchedulingTerm)
  /-- A term whose answers come from outside. -/
  | other
  deriving DecidableEq, Repr

namespace SchedulingTerm

/-- `check(timestamp)`, where a term of another kind gives the answer `other`. -/
def check (term : SchedulingTerm) (timestamp : Int) (other : Except GxfResult SchedulingCondition) :
    SchedulingTerm × Except GxfResult SchedulingCondition :=
  match term with
  | .count term => (.count term.updateState, .ok term.updateState.checkAbi)
  | .periodic term => (.periodic term, .ok (term.checkAbi timestamp))
  | .other => (.other, other)

/-- `onExecute(timestamp)`, where a term of another kind returns the code `other`. -/
def onExecute (term : SchedulingTerm) (timestamp : Int) (other : GxfResult) :
    SchedulingTerm × GxfResult :=
  match term with
  | .count term => (.count (term.onExecute timestamp), .GXF_SUCCESS)
  | .periodic term => (.periodic (term.onExecute timestamp), .GXF_SUCCESS)
  | .other => (.other, other)

end SchedulingTerm

/-- A combiner: how it combines two conditions, and the terms it governs. -/
structure SchedulingTermCombiner where
  combine : SchedulingCondition → SchedulingCondition → SchedulingCondition
  termList : List Uid

/-- `OrSchedulingTermCombiner::combine(a, b)`. -/
def orCombine (a b : SchedulingCondition) : SchedulingCondition :=
  if a.type = .NEVER ∨ b.type = .NEVER then ⟨.NEVER, 0⟩
  else if a.type = .READY ∧ b.type = .READY then
    ⟨.READY, max a.targetTimestamp b.targetTimestamp⟩
  else if a.type = .READY then ⟨.READY, a.targetTimestamp⟩
  else if b.type = .READY then ⟨.READY, b.targetTimestamp⟩
  else if a.type = .WAIT_EVENT ∨ b.type = .WAIT_EVENT then ⟨.WAIT_EVENT, 0⟩
  else if a.type = .WAIT_TIME ∧ b.type = .WAIT_TIME then
    ⟨.WAIT_TIME, max a.targetTimestamp b.targetTimestamp⟩
  else if a.type = .WAIT_TIME then a
  else if b.type = .WAIT_TIME then b
  else ⟨.WAIT, 0⟩

/-- `OrSchedulingTermCombiner`. -/
def orSchedulingTermCombiner (termList : List Uid) : SchedulingTermCombiner := ⟨orCombine, termList⟩

end Gxf.Std
