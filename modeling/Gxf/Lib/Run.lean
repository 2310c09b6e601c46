import Mathlib.Data.List.Basic

/-!
# Runs of step functions

A system answers every operation with a next state and an output.  A run is a
list of operations, executed from left to right.  The module states the rules by
which facts about one step become facts about every run: preservation of an
invariant, agreement with a second system, and exactness of a guard.
-/

namespace Gxf.Lib

/-- A system that reacts to every operation in every state. -/
structure System (State Op Out : Type*) where
  step : State → Op → State × Out

namespace System

variable {State Op Out : Type*} (system : System State Op Out)

/-- The state reached by a list of operations. -/
def run : State → List Op → State
  | state, [] => state
  | state, op :: rest => run (system.step state op).1 rest

/-- The answers given along a list of operations, oldest first. -/
def outputs : State → List Op → List Out
  | _, [] => []
  | state, op :: rest =>
      (system.step state op).2 :: outputs (system.step state op).1 rest

/-- A property of a state and the operation issued there holds at every step of
a run. -/
def Along (property : State → Op → Prop) : State → List Op → Prop
  | _, [] => True
  | state, op :: rest =>
      property state op ∧ Along property (system.step state op).1 rest

/-- The entries contributed by the steps of a run, oldest first. -/
def gather {Entry : Type*} (entries : State → Op → List Entry) : State → List Op → List Entry
  | _, [] => []
  | state, op :: rest => entries state op ++ gather entries (system.step state op).1 rest

instance (property : State → Op → Prop) [∀ state op, Decidable (property state op)] :
    (state : State) → (ops : List Op) → Decidable (system.Along property state ops)
  | _, [] => isTrue trivial
  | state, op :: rest =>
      have : Decidable (system.Along property (system.step state op).1 rest) :=
        instDecidableAlong property (system.step state op).1 rest
      inferInstanceAs (Decidable (_ ∧ _))

variable {system}

@[simp] theorem run_nil (state : State) : system.run state [] = state := rfl

@[simp] theorem run_cons (state : State) (op : Op) (rest : List Op) :
    system.run state (op :: rest) = system.run (system.step state op).1 rest := rfl

@[simp] theorem outputs_cons (state : State) (op : Op) (rest : List Op) :
    system.outputs state (op :: rest) =
      (system.step state op).2 :: system.outputs (system.step state op).1 rest := rfl

@[simp] theorem along_nil (property : State → Op → Prop) (state : State) :
    system.Along property state [] := trivial

@[simp] theorem along_cons (property : State → Op → Prop) (state : State)
    (op : Op) (rest : List Op) :
    system.Along property state (op :: rest) ↔
      property state op ∧ system.Along property (system.step state op).1 rest :=
  Iff.rfl

theorem run_append (state : State) (before after : List Op) :
    system.run state (before ++ after) = system.run (system.run state before) after := by
  induction before generalizing state with
  | nil => rfl
  | cons op rest ih => exact ih (system.step state op).1

/-- Two runs, one after the other. -/
theorem run_append_eq {state middle last : State} {before after : List Op}
    (first : system.run state before = middle) (second : system.run middle after = last) :
    system.run state (before ++ after) = last := by
  rw [run_append, first, second]

theorem along_append (property : State → Op → Prop) (state : State) (before after : List Op) :
    system.Along property state (before ++ after) ↔ system.Along property state before ∧
        system.Along property (system.run state before) after := by
  induction before generalizing state with
  | nil => simp
  | cons op rest ih => simp [ih, and_assoc]

theorem along_and (left right : State → Op → Prop) (state : State) (ops : List Op) :
    system.Along (fun state op => left state op ∧ right state op) state ops ↔
      system.Along left state ops ∧ system.Along right state ops := by
  induction ops generalizing state with
  | nil => simp
  | cons op rest ih =>
      rw [along_cons, along_cons, along_cons, ih]
      exact and_and_and_comm

theorem along_of_forall {property : State → Op → Prop}
    (holds : ∀ state op, property state op) (state : State) (ops : List Op) :
    system.Along property state ops := by
  induction ops generalizing state with
  | nil => trivial
  | cons op rest ih => exact ⟨holds state op, ih _⟩

theorem along_imp {condition : Prop} {property : State → Op → Prop} {state : State} {ops : List Op}
    (holds : condition → system.Along property state ops) :
    system.Along (fun state op => condition → property state op) state ops := by
  by_cases isSo : condition
  · simpa only [isSo, forall_const] using holds isSo
  · exact along_of_forall (fun _ _ other => absurd other isSo) state ops

theorem along_of_mem {property : Op → Prop} (state : State) {ops : List Op}
    (holds : ∀ op ∈ ops, property op) : system.Along (fun _ op => property op) state ops := by
  induction ops generalizing state with
  | nil => trivial
  | cons op rest ih =>
      exact ⟨holds op (List.mem_cons_self ..),
        ih _ fun later member => holds later (List.mem_cons_of_mem op member)⟩

theorem outputs_of_forall {property : Out → Prop}
    (holds : ∀ state op, property (system.step state op).2) (state : State) (ops : List Op) :
    ∀ out ∈ system.outputs state ops, property out := by
  induction ops generalizing state with
  | nil => exact fun out member => by cases member
  | cons op rest ih => exact List.forall_mem_cons.mpr ⟨holds state op, ih _⟩

section Invariant

variable {Inv : State → Prop} {guard property : State → Op → Prop}

theorem invariant_run
    (preserved : ∀ state op, Inv state → guard state op → Inv (system.step state op).1)
    {state : State} {ops : List Op} (initial : Inv state)
    (guarded : system.Along guard state ops) : Inv (system.run state ops) := by
  induction ops generalizing state with
  | nil => exact initial
  | cons op rest ih =>
      exact ih (preserved state op initial guarded.1) guarded.2

theorem invariant_run_of_forall (preserved : ∀ state op, Inv state → Inv (system.step state op).1)
    {state : State} (initial : Inv state) (ops : List Op) :
    Inv (system.run state ops) :=
  invariant_run (fun state op inv (_ : True) => preserved state op inv) initial
    (along_of_forall (fun _ _ => trivial) state ops)

theorem along_of_invariant
    (preserved : ∀ state op, Inv state → guard state op → Inv (system.step state op).1)
    (implied : ∀ state op, Inv state → guard state op → property state op)
    {state : State} {ops : List Op} (initial : Inv state)
    (guarded : system.Along guard state ops) : system.Along property state ops := by
  induction ops generalizing state with
  | nil => trivial
  | cons op rest ih =>
      exact ⟨implied state op initial guarded.1,
        ih (preserved state op initial guarded.1) guarded.2⟩

theorem along_of_invariant_of_forall
    (preserved : ∀ state op, Inv state → Inv (system.step state op).1)
    (implied : ∀ state op, Inv state → property state op)
    {state : State} (initial : Inv state) (ops : List Op) :
    system.Along property state ops :=
  along_of_invariant (fun state op inv (_ : True) => preserved state op inv)
    (fun state op inv _ => implied state op inv) initial
    (along_of_forall (fun _ _ => trivial) state ops)

theorem along_iff_guarded
    (preserved : ∀ state op, Inv state → guard state op → Inv (system.step state op).1)
    (exact_step : ∀ state op, Inv state → (property state op ↔ guard state op))
    {state : State} (initial : Inv state) (ops : List Op) :
    system.Along property state ops ↔ system.Along guard state ops := by
  induction ops generalizing state with
  | nil => exact Iff.rfl
  | cons op rest ih =>
      rw [along_cons, along_cons, exact_step state op initial]
      constructor
      · rintro ⟨here, later⟩
        exact ⟨here, (ih (preserved state op initial here)).mp later⟩
      · rintro ⟨here, later⟩
        exact ⟨here, (ih (preserved state op initial here)).mpr later⟩

theorem final_iff_guarded {Bad Good : State → Prop}
    (preserved : ∀ state op, Inv state → guard state op → Inv (system.step state op).1)
    (breaks : ∀ state op, Inv state → ¬guard state op → Bad (system.step state op).1)
    (stays : ∀ state op, Bad state → Bad (system.step state op).1)
    (good : ∀ state, Inv state → Good state) (notGood : ∀ state, Bad state → ¬Good state)
    {state : State} (initial : Inv state) (ops : List Op) :
    Good (system.run state ops) ↔ system.Along guard state ops := by
  induction ops generalizing state with
  | nil => exact iff_of_true (good state initial) trivial
  | cons op rest ih =>
      by_cases guarded : guard state op
      · rw [run_cons, along_cons, and_iff_right guarded]
        exact ih (preserved state op initial guarded)
      · refine iff_of_false (notGood _ ?_) fun along => guarded along.1
        exact invariant_run_of_forall stays (breaks state op initial guarded) rest

theorem exists_replicate_run {Goal : State → Prop} {measure : State → Nat} {op : Op}
    (decreases : ∀ state, ¬Goal state → measure (system.step state op).1 < measure state)
    (state : State) : ∃ steps, Goal (system.run state (List.replicate steps op)) := by
  induction size : measure state using Nat.strongRecOn generalizing state with
  | ind size ih =>
      by_cases reached : Goal state
      · exact ⟨0, reached⟩
      · subst size
        obtain ⟨steps, goal⟩ := ih _ (decreases state reached) _ rfl
        exact ⟨steps + 1, goal⟩

end Invariant

theorem gather_conserved {Entry : Type*} {Inv : State → Prop} {guard : State → Op → Prop}
    {content : State → List Entry} {put taken : State → Op → List Entry}
    (preserved : ∀ state op, Inv state → guard state op → Inv (system.step state op).1)
    (conserved : ∀ state op, Inv state → guard state op →
      content state ++ put state op = taken state op ++ content (system.step state op).1)
    {state : State} {ops : List Op} (initial : Inv state)
    (guarded : system.Along guard state ops) :
    content state ++ system.gather put state ops =
      system.gather taken state ops ++ content (system.run state ops) := by
  induction ops generalizing state with
  | nil => simp [gather]
  | cons op rest ih =>
      have later := ih (preserved state op initial guarded.1) guarded.2
      calc content state ++ system.gather put state (op :: rest)
          = (content state ++ put state op) ++ system.gather put (system.step state op).1 rest := by
            rw [gather, List.append_assoc]
        _ = taken state op ++ (content (system.step state op).1 ++
              system.gather put (system.step state op).1 rest) := by
            rw [conserved state op initial guarded.1, List.append_assoc]
        _ = system.gather taken state (op :: rest) ++ content (system.run state (op :: rest)) := by
            rw [later, gather, run_cons, List.append_assoc]

theorem gather_sublist {Entry : Type*} {Inv : State → Prop}
    {content : State → List Entry} {put taken : State → Op → List Entry}
    (preserved : ∀ state op, Inv state → Inv (system.step state op).1)
    (lossy : ∀ state op, Inv state → (taken state op ++ content (system.step state op).1).Sublist
      (content state ++ put state op))
    {state : State} (initial : Inv state) (ops : List Op) :
    (system.gather taken state ops ++ content (system.run state ops)).Sublist
      (content state ++ system.gather put state ops) := by
  induction ops generalizing state with
  | nil => simp [gather]
  | cons op rest ih =>
      have later := (ih (preserved state op initial)).append_left (taken state op)
      have here := (lossy state op initial).append_right
        (system.gather put (system.step state op).1 rest)
      simp only [List.append_assoc] at later here
      simpa only [gather, run_cons, List.append_assoc] using later.trans here

theorem count_gather_conserved {Entry : Type*} [DecidableEq Entry]
    {stock : State → Entry → Nat} {put taken : State → Op → List Entry}
    (conserved : ∀ state op entry, (put state op).count entry + stock state entry =
      (taken state op).count entry + stock (system.step state op).1 entry)
    (state : State) (ops : List Op) (entry : Entry) :
    (system.gather put state ops).count entry + stock state entry =
      (system.gather taken state ops).count entry + stock (system.run state ops) entry := by
  induction ops generalizing state with
  | nil => rfl
  | cons op rest ih =>
      have here := conserved state op entry
      have later := ih (system.step state op).1
      simp only [gather, List.count_append, run_cons]
      omega

theorem count_gather_append {Entry : Type*} [DecidableEq Entry]
    (first second : State → Op → List Entry) (state : State) (ops : List Op) (entry : Entry) :
    (system.gather (fun state op => first state op ++ second state op) state ops).count entry =
      (system.gather first state ops).count entry +
        (system.gather second state ops).count entry := by
  induction ops generalizing state with
  | nil => rfl
  | cons op rest ih =>
      simp only [gather, List.count_append, ih]
      omega

theorem gather_eq_nil_iff {Entry : Type*} (entries : State → Op → List Entry) (state : State)
    (ops : List Op) :
    system.gather entries state ops = [] ↔
      system.Along (fun state op => entries state op = []) state ops := by
  induction ops generalizing state with
  | nil => exact iff_of_true rfl trivial
  | cons op rest ih => rw [gather, List.append_eq_nil_iff, along_cons, ih]

/-- The same system with a record of its answers kept next to the state.  The
record never influences a step. -/
def recorded {Record : Type*} (system : System State Op Out)
    (record : Record → Op → Out → Record) : System (State × Record) Op Out where
  step pair op :=
    let answer := system.step pair.1 op
    ((answer.1, record pair.2 op answer.2), answer.2)

theorem along_recorded {Record : Type*} (record : Record → Op → Out → Record)
    (guard : State → Op → Prop) (state : State) (kept : Record) (ops : List Op) :
    (system.recorded record).Along (fun pair op => guard pair.1 op) (state, kept) ops ↔
      system.Along guard state ops := by
  induction ops generalizing state kept with
  | nil => exact Iff.rfl
  | cons op rest ih => exact and_congr_right fun _ => ih _ _

section Refinement

variable {Spec : Type*} {abstract : System Spec Op Out}
variable {R : State → Spec → Prop} {guard : State → Op → Prop}

theorem simulation_run (simulates : ∀ state spec op, R state spec → guard state op →
      (system.step state op).2 = (abstract.step spec op).2 ∧
        R (system.step state op).1 (abstract.step spec op).1)
    {state : State} {spec : Spec} {ops : List Op} (initial : R state spec)
    (guarded : system.Along guard state ops) :
    system.outputs state ops = abstract.outputs spec ops ∧
      R (system.run state ops) (abstract.run spec ops) := by
  induction ops generalizing state spec with
  | nil => exact ⟨rfl, initial⟩
  | cons op rest ih =>
      obtain ⟨answer, related⟩ := simulates state spec op initial guarded.1
      obtain ⟨answers, final⟩ := ih related guarded.2
      exact ⟨by simp [answer, answers], final⟩

/-- Two systems driven by the same operations. -/
def lockstep (concrete : System State Op Out) (abstract : System Spec Op Out) :
    System (State × Spec) Op (Out × Out) where
  step pair op := (((concrete.step pair.1 op).1, (abstract.step pair.2 op).1),
      ((concrete.step pair.1 op).2, (abstract.step pair.2 op).2))

@[simp] theorem lockstep_step (concrete : System State Op Out)
    (abstract : System Spec Op Out) (pair : State × Spec) (op : Op) :
    ((concrete.lockstep abstract).step pair op).1 =
      ((concrete.step pair.1 op).1, (abstract.step pair.2 op).1) := rfl

theorem along_lockstep_left (concrete : System State Op Out)
    (abstract : System Spec Op Out) (state : State) (spec : Spec) (ops : List Op) :
    (concrete.lockstep abstract).Along (fun pair op => guard pair.1 op) (state, spec) ops ↔
      concrete.Along guard state ops := by
  induction ops generalizing state spec with
  | nil => exact Iff.rfl
  | cons op rest ih =>
      rw [along_cons, along_cons, lockstep_step, ih]

end Refinement

end System

end Gxf.Lib
