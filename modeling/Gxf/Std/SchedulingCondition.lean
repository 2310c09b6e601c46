/-!
# Scheduling conditions

The verdict of a scheduling term, and of an entity as a whole.
-/

namespace Gxf.Std

/-- The type of a scheduling condition. -/
inductive SchedulingConditionType where
  | NEVER
  | READY
  | WAIT
  | WAIT_TIME
  | WAIT_EVENT
  deriving DecidableEq, Repr

/-- A condition with the timestamp that some types need. -/
structure SchedulingCondition where
  type : SchedulingConditionType
  targetTimestamp : Int
  deriving DecidableEq, Repr

namespace SchedulingCondition

/-- `AndCombine(a, b)`. -/
def andCombine (a b : SchedulingCondition) : SchedulingCondition :=
  if a.type = .NEVER ∨ b.type = .NEVER then ⟨.NEVER, 0⟩
  else if a.type = .WAIT_EVENT ∨ b.type = .WAIT_EVENT then ⟨.WAIT_EVENT, 0⟩
  else if a.type = .WAIT ∨ b.type = .WAIT then ⟨.WAIT, 0⟩
  else if a.type = .WAIT_TIME ∧ b.type = .WAIT_TIME then
    ⟨.WAIT_TIME, max a.targetTimestamp b.targetTimestamp⟩
  else if a.type = .WAIT_TIME then a
  else if b.type = .WAIT_TIME then b
  else ⟨.READY, max a.targetTimestamp b.targetTimestamp⟩

end SchedulingCondition

end Gxf.Std
