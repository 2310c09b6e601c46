import Mathlib.Data.List.Induction
import Mathlib.Order.Bounds.Basic
import Gxf.Std.SchedulingTerms

/-!
# Combined conditions

Both ways to combine conditions are commutative and associative.  A condition that combines terms
with fixed wake-up times waits for the last one of them, which is when all terms are ready.  The
first moment at which some term is ready is earlier, unless all of them wake up together.
-/

namespace Gxf.Std

namespace SchedulingCondition

instance : Std.Commutative andCombine where
  comm first second := by
    obtain ⟨firstType, firstTarget⟩ := first
    obtain ⟨secondType, secondTarget⟩ := second
    cases firstType <;> cases secondType <;> simp [andCombine, max_comm]

instance : Std.Associative andCombine where
  assoc first second third := by
    obtain ⟨firstType, firstTarget⟩ := first
    obtain ⟨secondType, secondTarget⟩ := second
    obtain ⟨thirdType, thirdTarget⟩ := third
    cases firstType <;> cases secondType <;> cases thirdType <;> simp [andCombine, max_assoc]

instance : Std.Commutative orCombine where
  comm first second := by
    obtain ⟨firstType, firstTarget⟩ := first
    obtain ⟨secondType, secondTarget⟩ := second
    cases firstType <;> cases secondType <;> simp [orCombine, max_comm]

instance : Std.Associative orCombine where
  assoc first second third := by
    obtain ⟨firstType, firstTarget⟩ := first
    obtain ⟨secondType, secondTarget⟩ := second
    obtain ⟨thirdType, thirdTarget⟩ := third
    cases firstType <;> cases secondType <;> cases thirdType <;> simp [orCombine, max_assoc]

end SchedulingCondition

/-! ## Waking up -/

/-- A term that waits for a time and is ready from then on. -/
structure TimedTerm where
  wakeUp : Int
  report : Int → SchedulingCondition
  waits : ∀ timestamp < wakeUp, report timestamp = ⟨.WAIT_TIME, wakeUp⟩
  ready : ∀ timestamp ≥ wakeUp, (report timestamp).type = .READY

namespace TimedTerm

/-- All terms of an entity, as `check` combines them. -/
def allOf (terms : List TimedTerm) (timestamp : Int) : SchedulingCondition :=
  (terms.map fun term => term.report timestamp).foldl SchedulingCondition.andCombine ⟨.READY, 0⟩

/-- The terms of an Or combiner, as `check` combines them. -/
def anyOf (first : TimedTerm) (rest : List TimedTerm) (timestamp : Int) : SchedulingCondition :=
  (rest.map fun term => term.report timestamp).foldl orCombine (first.report timestamp)

/-- Whenever the condition waits for a time, it is the first one at which it is ready. -/
def WakesInTime (condition : Int → SchedulingCondition) : Prop :=
  ∀ timestamp wakeUp, condition timestamp = ⟨.WAIT_TIME, wakeUp⟩ →
    IsLeast {moment | (condition moment).type = .READY} wakeUp

/-- All terms are ready, or the last one of them is waited for. -/
def AllWait (terms : List TimedTerm) (timestamp : Int) (condition : SchedulingCondition) : Prop :=
  (condition.type = .READY ∧ ∀ term ∈ terms, term.wakeUp ≤ timestamp) ∨
    ∃ last ∈ terms, condition = ⟨.WAIT_TIME, last.wakeUp⟩ ∧ timestamp < last.wakeUp ∧
      ∀ term ∈ terms, term.wakeUp ≤ last.wakeUp

/-- Some term is ready, or the last one of them is waited for. -/
def AnyWait (terms : List TimedTerm) (timestamp : Int) (condition : SchedulingCondition) : Prop :=
  (condition.type = .READY ∧ ∃ term ∈ terms, term.wakeUp ≤ timestamp) ∨
    ∃ last ∈ terms, condition = ⟨.WAIT_TIME, last.wakeUp⟩ ∧
      ∀ term ∈ terms, timestamp < term.wakeUp ∧ term.wakeUp ≤ last.wakeUp

variable {terms : List TimedTerm} {timestamp : Int} {condition : SchedulingCondition}

/-- One more term for `AndCombine`. -/
theorem AllWait.append (wait : AllWait terms timestamp condition) (term : TimedTerm) :
    AllWait (terms ++ [term]) timestamp (condition.andCombine (term.report timestamp)) := by
  have alone : ∀ {property : TimedTerm → Prop}, (∀ other ∈ terms ++ [term], property other) ↔
      (∀ other ∈ terms, property other) ∧ property term := by
    intro property
    rw [List.forall_mem_append, List.forall_mem_singleton]
  have here : term ∈ terms ++ [term] := List.mem_append_right _ (List.mem_singleton_self term)
  obtain ⟨type, target⟩ := condition
  by_cases isReady : term.wakeUp ≤ timestamp
  · have reported := term.ready timestamp isReady
    cases answer : term.report timestamp with
    | mk otherType otherTarget =>
        rw [answer] at reported
        cases reported
        obtain ⟨hasType, all⟩ | ⟨last, member, isLast, late, latest⟩ := wait
        · cases hasType
          exact .inl ⟨rfl, alone.mpr ⟨all, isReady⟩⟩
        · cases isLast
          refine .inr ⟨last, List.mem_append_left _ member, rfl, late, ?_⟩
          exact alone.mpr ⟨latest, by omega⟩
  · have reported := term.waits timestamp (Int.lt_of_not_ge isReady)
    rw [reported]
    obtain ⟨hasType, all⟩ | ⟨last, member, isLast, late, latest⟩ := wait
    · cases hasType
      refine .inr ⟨term, here, rfl, by omega, alone.mpr ⟨fun other member => ?_, Int.le_refl _⟩⟩
      have early := all other member
      omega
    · cases isLast
      by_cases later : last.wakeUp ≤ term.wakeUp
      · refine .inr ⟨term, here, ?_, by omega, alone.mpr ⟨fun other member => ?_, Int.le_refl _⟩⟩
        · simp [SchedulingCondition.andCombine, max_eq_right later]
        · exact (latest other member).trans later
      · refine .inr ⟨last, List.mem_append_left _ member, ?_, late, alone.mpr ⟨latest, by omega⟩⟩
        simp [SchedulingCondition.andCombine, max_eq_left (le_of_not_ge later)]

theorem AnyWait.append (wait : AnyWait terms timestamp condition) (term : TimedTerm) :
    AnyWait (terms ++ [term]) timestamp (orCombine condition (term.report timestamp)) := by
  have here : term ∈ terms ++ [term] := List.mem_append_right _ (List.mem_singleton_self term)
  obtain ⟨type, target⟩ := condition
  by_cases isReady : term.wakeUp ≤ timestamp
  · have reported := term.ready timestamp isReady
    cases answer : term.report timestamp with
    | mk otherType otherTarget =>
        rw [answer] at reported
        cases reported
        refine .inl ⟨?_, term, here, isReady⟩
        obtain ⟨hasType, _⟩ | ⟨last, _, isLast, _⟩ := wait
        · cases hasType
          rfl
        · cases isLast
          rfl
  · have reported := term.waits timestamp (Int.lt_of_not_ge isReady)
    rw [reported]
    obtain ⟨hasType, other, member, early⟩ | ⟨last, member, isLast, latest⟩ := wait
    · cases hasType
      exact .inl ⟨rfl, other, List.mem_append_left _ member, early⟩
    · cases isLast
      by_cases later : last.wakeUp ≤ term.wakeUp
      · refine .inr ⟨term, here, ?_, fun other among => ?_⟩
        · simp [orCombine, max_eq_right later]
        · obtain before | isTerm := List.mem_append.mp among
          · have bounds := latest other before
            omega
          · cases List.mem_singleton.mp isTerm
            omega
      · refine .inr ⟨last, List.mem_append_left _ member, ?_, fun other among => ?_⟩
        · simp [orCombine, max_eq_left (le_of_not_ge later)]
        · obtain before | isTerm := List.mem_append.mp among
          · exact latest other before
          · cases List.mem_singleton.mp isTerm
            omega

theorem allWait_allOf (terms : List TimedTerm) (timestamp : Int) :
    AllWait terms timestamp (allOf terms timestamp) := by
  induction terms using List.reverseRecOn with
  | nil => exact .inl ⟨rfl, fun term member => by cases member⟩
  | append_singleton terms term ih =>
      have extended := ih.append term
      rw [allOf, List.map_append, List.foldl_append]
      exact extended

theorem anyWait_anyOf (first : TimedTerm) (rest : List TimedTerm) (timestamp : Int) :
    AnyWait (first :: rest) timestamp (anyOf first rest timestamp) := by
  induction rest using List.reverseRecOn with
  | nil =>
      by_cases isReady : first.wakeUp ≤ timestamp
      · exact .inl ⟨first.ready timestamp isReady, first, List.mem_singleton_self first, isReady⟩
      · refine .inr ⟨first, List.mem_singleton_self first,
          first.waits timestamp (Int.lt_of_not_ge isReady), fun term member => ?_⟩
        cases List.mem_singleton.mp member
        omega
  | append_singleton rest term ih =>
      have extended := ih.append term
      rw [anyOf, List.map_append, List.foldl_append]
      exact extended

theorem allOf_ready_iff (terms : List TimedTerm) (timestamp : Int) :
    (allOf terms timestamp).type = .READY ↔ ∀ term ∈ terms, term.wakeUp ≤ timestamp := by
  obtain ⟨isReady, all⟩ | ⟨last, member, isLast, late, _⟩ := allWait_allOf terms timestamp
  · exact iff_of_true isReady all
  · rw [isLast]
    refine iff_of_false (fun never => by cases never) fun all => ?_
    have early := all last member
    omega

theorem anyOf_ready_iff (first : TimedTerm) (rest : List TimedTerm) (timestamp : Int) :
    (anyOf first rest timestamp).type = .READY ↔
      ∃ term ∈ first :: rest, term.wakeUp ≤ timestamp := by
  obtain ⟨isReady, some⟩ | ⟨last, _, isLast, latest⟩ := anyWait_anyOf first rest timestamp
  · exact iff_of_true isReady some
  · rw [isLast]
    refine iff_of_false (fun never => by cases never) ?_
    rintro ⟨term, member, early⟩
    have late := (latest term member).1
    omega

theorem wakesInTime_allOf (terms : List TimedTerm) : WakesInTime (allOf terms) := by
  intro timestamp wakeUp isWait
  obtain ⟨isReady, _⟩ | ⟨last, member, isLast, _, latest⟩ := allWait_allOf terms timestamp
  · rw [isWait] at isReady
    cases isReady
  · cases isWait.symm.trans isLast
    refine ⟨(allOf_ready_iff terms last.wakeUp).mpr latest, fun moment isReady => ?_⟩
    exact (allOf_ready_iff terms moment).mp isReady last member

theorem exists_before (terms : List TimedTerm) : ∃ early, ∀ term ∈ terms, early < term.wakeUp := by
  induction terms with
  | nil => exact ⟨0, fun term member => by cases member⟩
  | cons term terms ih =>
      obtain ⟨early, below⟩ := ih
      refine ⟨min early (term.wakeUp - 1), List.forall_mem_cons.mpr ⟨by omega, ?_⟩⟩
      intro other member
      have before := below other member
      omega

/-- The conjunction of any terms waits for the first time at which they are all ready.  The
disjunction does if and only if its terms all wake up at the same time. -/
theorem wakesInTime_iff (first : TimedTerm) (rest : List TimedTerm) :
    WakesInTime (allOf (first :: rest)) ∧
      (WakesInTime (anyOf first rest) ↔ ∀ term ∈ rest, term.wakeUp = first.wakeUp) := by
  refine ⟨wakesInTime_allOf _, ?_⟩
  have head : first ∈ first :: rest := List.mem_cons_self ..
  constructor
  · intro wakes
    -- below all wake-up times, every term still waits
    obtain ⟨early, below⟩ := exists_before (first :: rest)
    obtain ⟨isReady, _⟩ | ⟨last, _, isLast, latest⟩ := anyWait_anyOf first rest early
    · obtain ⟨term, member, late⟩ := (anyOf_ready_iff first rest early).mp isReady
      have before := below term member
      omega
    · have least := (wakes early last.wakeUp isLast).2
      have same : ∀ term ∈ first :: rest, term.wakeUp = last.wakeUp := by
        intro term member
        have isReady : (anyOf first rest term.wakeUp).type = .READY :=
          (anyOf_ready_iff first rest term.wakeUp).mpr ⟨term, member, Int.le_refl _⟩
        exact Int.le_antisymm (latest term member).2 (least isReady)
      exact fun term member => (same term (List.mem_cons_of_mem first member)).trans
        (same first head).symm
  · intro together timestamp wakeUp isWait
    have same : ∀ term ∈ first :: rest, term.wakeUp = first.wakeUp :=
      List.forall_mem_cons.mpr ⟨rfl, together⟩
    obtain ⟨isReady, _⟩ | ⟨last, member, isLast, _⟩ := anyWait_anyOf first rest timestamp
    · rw [isWait] at isReady
      cases isReady
    · cases isWait.symm.trans isLast
      refine ⟨(anyOf_ready_iff first rest _).mpr ⟨last, member, Int.le_refl _⟩, ?_⟩
      intro moment isReady
      obtain ⟨term, among, early⟩ := (anyOf_ready_iff first rest moment).mp isReady
      rw [same last member, ← same term among]
      exact early

/-- A term that is ready from a time on. -/
def wakingAt (wakeUp : Int) : TimedTerm where
  wakeUp
  report timestamp := if timestamp < wakeUp then ⟨.WAIT_TIME, wakeUp⟩ else ⟨.READY, wakeUp⟩
  waits _ early := if_pos early
  ready _ late := by rw [if_neg (Int.not_lt.mpr late)]

/-- Of two terms that wake up at 1 and at 2, the disjunction waits until 2 and is ready at 1. -/
theorem anyOf_oversleeps : anyOf (wakingAt 1) [wakingAt 2] 0 = ⟨.WAIT_TIME, 2⟩ ∧
      (anyOf (wakingAt 1) [wakingAt 2] 1).type = .READY ∧
      ¬WakesInTime (anyOf (wakingAt 1) [wakingAt 2]) := by
  have waits : anyOf (wakingAt 1) [wakingAt 2] 0 = ⟨.WAIT_TIME, 2⟩ := by decide
  have isReady : (anyOf (wakingAt 1) [wakingAt 2] 1).type = .READY := by decide
  refine ⟨waits, isReady, fun wakes => ?_⟩
  exact absurd ((wakes 0 2 waits).2 isReady) (by decide)

end TimedTerm

end Gxf.Std
