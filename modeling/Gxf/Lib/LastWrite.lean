import Gxf.Lib.Run

/-!
# Cells and their last writes

A cell of a state is a part of it that an operation either overwrites or leaves alone.  After
a list of operations it has the value of the last write.  What one member of a list has
written, and its undoing has reset, is not seen any more, if no other member writes the same
cell.
-/

namespace Gxf.Lib

variable {Op Value Member : Type*} {write : Op → Option Value} {start value : Value}
  {ops before after : List Op}

/-- The value of a cell after a list of operations. -/
def lastWrite (write : Op → Option Value) : Value → List Op → Value
  | value, [] => value
  | value, op :: rest => lastWrite write ((write op).getD value) rest

/-- No operation of a list writes the cell. -/
def Untouched (write : Op → Option Value) (ops : List Op) : Prop := ∀ op ∈ ops, write op = none

theorem lastWrite_append (write : Op → Option Value) (start : Value) (before after : List Op) :
    lastWrite write start (before ++ after) =
      lastWrite write (lastWrite write start before) after := by
  induction before generalizing start with
  | nil => rfl
  | cons op rest ih => exact ih _

theorem Untouched.lastWrite_eq (untouched : Untouched write ops) :
    lastWrite write start ops = start := by
  induction ops with
  | nil => rfl
  | cons op rest ih =>
      obtain ⟨first, others⟩ := List.forall_mem_cons.mp untouched
      rw [lastWrite, first]
      exact ih others

theorem Untouched.flatMap {add : Member → List Op} {members : List Member}
    (untouched : ∀ member ∈ members, Untouched write (add member)) :
    Untouched write (members.flatMap add) := by
  intro op isOp
  obtain ⟨member, isMember, isOp⟩ := List.mem_flatMap.mp isOp
  exact untouched member isMember op isOp

theorem lastWrite_of_forall (same : ∀ op ∈ ops, write op = none ∨ write op = some value) :
    lastWrite write value ops = value := by
  induction ops with
  | nil => rfl
  | cons op rest ih =>
      obtain ⟨first, others⟩ := List.forall_mem_cons.mp same
      rcases first with first | first
      · rw [lastWrite, first]
        exact ih others
      · rw [lastWrite, first]
        exact ih others

theorem lastWrite_of_mem (same : ∀ op ∈ ops, write op = none ∨ write op = some value) {op : Op}
    (member : op ∈ ops) (writes : write op ≠ none) : lastWrite write start ops = value := by
  induction ops generalizing start with
  | nil => cases member
  | cons first rest ih =>
      obtain ⟨here, others⟩ := List.forall_mem_cons.mp same
      rw [lastWrite]
      rcases here with none | some
      · rcases List.mem_cons.mp member with rfl | later
        · exact absurd none writes
        · exact ih others later
      · rw [some]
        exact lastWrite_of_forall others

theorem lastWrite_undo (add remove : Member → List Op) {before after : List Member}
    {member : Member}
    (alone : ¬ Untouched write (add member) →
      ∀ other ∈ before ++ after, Untouched write (add other))
    (resets : ∀ op ∈ remove member, write op = none ∨ write op = some start)
    (covers : Untouched write (add member) ↔ Untouched write (remove member)) :
    lastWrite write start ((before ++ member :: after).flatMap add ++ remove member) =
      lastWrite write start ((before ++ after).flatMap add) := by
  rw [lastWrite_append]
  by_cases untouched : Untouched write (add member)
  · rw [(covers.mp untouched).lastWrite_eq]
    simp only [List.flatMap_append, List.flatMap_cons, lastWrite_append, untouched.lastWrite_eq]
  · have others : Untouched write ((before ++ after).flatMap add) :=
      Untouched.flatMap (alone untouched)
    obtain ⟨op, isOp, writes⟩ : ∃ op ∈ remove member, write op ≠ none := by
      by_contra noWrite
      refine untouched (covers.mpr fun op isOp => ?_)
      exact not_not.mp fun writes => noWrite ⟨op, isOp, writes⟩
    rw [others.lastWrite_eq, lastWrite_of_mem resets isOp writes]

namespace System

variable {State Error : Type*} (system : System State Op (Except Error Unit))

/-- Operations one after the other, up to the first one that fails. -/
def perform : State → List Op → State × Except Error Unit
  | state, [] => (state, .ok ())
  | state, op :: rest =>
      match system.step state op with
      | (next, .error code) => (next, .error code)
      | (next, .ok ()) => perform next rest

variable {system}

variable {state : State}

theorem perform_cons_of_ok {op : Op} {rest : List Op}
    (success : (system.step state op).2 = .ok ()) :
    system.perform state (op :: rest) = system.perform (system.step state op).1 rest := by
  rw [perform]
  cases answer : system.step state op with
  | mk next result =>
      rw [answer] at success
      cases success
      rfl

theorem perform_of_forall
    (succeeds : ∀ op ∈ ops, ∀ state, (system.step state op).2 = .ok ()) (state : State) :
    (system.perform state ops).2 = .ok () := by
  induction ops generalizing state with
  | nil => rfl
  | cons op rest ih =>
      obtain ⟨first, others⟩ := List.forall_mem_cons.mp succeeds
      rw [perform_cons_of_ok (first state)]
      exact ih others _

theorem perform_append_of_ok (success : (system.perform state before).2 = .ok ()) :
    system.perform state (before ++ after) =
      system.perform (system.perform state before).1 after := by
  induction before generalizing state with
  | nil => rfl
  | cons op rest ih =>
      rw [List.cons_append, perform, perform]
      rw [perform] at success
      cases answer : system.step state op with
      | mk next result =>
          rw [answer] at success
          cases result with
          | error code => cases success
          | ok done => exact ih success

theorem read_perform (read : State → Value) (cell : ∀ state op, (system.step state op).2 = .ok () →
      read (system.step state op).1 = (write op).getD (read state))
    (success : (system.perform state ops).2 = .ok ()) :
    read (system.perform state ops).1 = lastWrite write (read state) ops := by
  induction ops generalizing state with
  | nil => rfl
  | cons op rest ih =>
      have here := cell state op
      rw [perform] at success ⊢
      cases answer : system.step state op with
      | mk next result =>
          rw [answer] at success here
          cases result with
          | error code => cases success
          | ok done =>
              rw [lastWrite, ← here rfl]
              exact ih success

end System

end Gxf.Lib
