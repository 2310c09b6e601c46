import Mathlib.Tactic.Basic

/-!
# Procedures of an unsafe language

A procedure changes a state and ends with a result or with an error code.  It may also abort
the process, or evaluate an expression without a meaning, such as an index past an array.  The
module gives the rules by which procedures are composed.
-/

namespace Gxf.Lib

/-- How a computation ends. -/
inductive Outcome (Code Result : Type) where
  | undefined
  | aborted
  | error (code : Code)
  | ok (result : Result)

def Procedure (State Code Result : Type) := State → Outcome Code (Result × State)

namespace Procedure

variable {State Code Result Next : Type}

instance : Monad (Procedure State Code) where
  pure result := fun state => .ok (result, state)
  bind first continuation := fun state =>
    match first state with
    | .undefined => .undefined
    | .aborted => .aborted
    | .error code => .error code
    | .ok (result, next) => continuation result next

/-- A computation that does not look at the state. -/
def lift : Outcome Code Result → Procedure State Code Result
  | .undefined => fun _ => .undefined
  | .aborted => fun _ => .aborted
  | .error code => fun _ => .error code
  | .ok result => fun state => .ok (result, state)

/-- What a function answers that always returns. -/
def answer : Except Code Result → Procedure State Code Result
  | .error code => fun _ => .error code
  | .ok result => fun state => .ok (result, state)

variable {first : Procedure State Code Result}
  {continuation : Result → Procedure State Code Next} {state next : State} {result : Result}
  {code : Code}

@[simp] theorem pure_apply (result : Result) (state : State) :
    (pure result : Procedure State Code Result) state = .ok (result, state) := rfl

theorem bind_ok (ends : first state = .ok (result, next)) :
    (first >>= continuation) state = continuation result next := by
  simp only [bind, ends]

theorem bind_error (ends : first state = .error code) :
    (first >>= continuation) state = .error code := by
  simp only [bind, ends]

theorem bind_aborted (ends : first state = .aborted) :
    (first >>= continuation) state = .aborted := by
  simp only [bind, ends]

theorem bind_undefined (ends : first state = .undefined) :
    (first >>= continuation) state = .undefined := by
  simp only [bind, ends]

/-- The procedure neither aborts nor evaluates an expression without a meaning. -/
def Returns (procedure : Procedure State Code Result) : Prop :=
  ∀ state, (∃ code, procedure state = .error code) ∨ ∃ outcome, procedure state = .ok outcome

theorem Returns.pure (result : Result) : Returns (Pure.pure result : Procedure State Code Result) :=
  fun state => .inr ⟨(result, state), rfl⟩

theorem Returns.answer (result : Except Code Result) :
    Returns (answer result : Procedure State Code Result) := by
  intro state
  cases result with
  | error code => exact .inl ⟨code, rfl⟩
  | ok result => exact .inr ⟨(result, state), rfl⟩

theorem Returns.bind (begins : Returns first) (ends : ∀ result, Returns (continuation result)) :
    Returns (first >>= continuation) := by
  intro state
  obtain ⟨code, failed⟩ | ⟨⟨result, next⟩, done⟩ := begins state
  · exact .inl ⟨code, bind_error failed⟩
  · rw [bind_ok done]
    exact ends result next

end Procedure

end Gxf.Lib
