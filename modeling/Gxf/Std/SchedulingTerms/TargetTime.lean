import Gxf.Std.SchedulingTerms.Library

/-!
# Target times

A request for a target time waits until the next check locks it in, and an execution takes the lock
away.  Requests are compared with a locked target only.
-/

namespace Gxf.Std.TargetTimeSchedulingTerm

open Gxf.Core Gxf.Lib

/-- Whether `setNextTargetTime(target_timestamp)` accepts. -/
def accepts (term : TargetTimeSchedulingTerm) (targetTimestamp : Int) : Bool :=
  term.lockedTargetTimestamp.all fun locked => decide (locked ≤ targetTimestamp)

def newlyLocked (term : TargetTimeSchedulingTerm) : Option Int :=
  if term.lockedTargetTimestamp.isNone then term.targetTimestamp else none

/-- The calls of a term, by whoever requests targets and by the scheduler. -/
inductive Op where
  | setNextTargetTime (targetTimestamp : Int)
  | check (timestamp : Int)
  | onExecute (clock : Int)
  deriving DecidableEq, Repr

/-- What a call returns, and the target that it locks in. -/
inductive Answer where
  | set (result : GxfResult)
  | checked (condition : SchedulingCondition) (locked : Option Int)
  | executed
  deriving DecidableEq, Repr

def system : System TargetTimeSchedulingTerm Op Answer where
  step term op :=
    match op with
    | .setNextTargetTime target =>
        (term.setNextTargetTime target,
          .set (if term.accepts target then .GXF_SUCCESS else .GXF_FAILURE))
    | .check timestamp => (term.lock, .checked (term.lock.checkAbi timestamp) term.newlyLocked)
    | .onExecute clock => (term.onExecute clock, .executed)

def lockedIn (term : TargetTimeSchedulingTerm) : Op → List Int
  | .check _ => term.newlyLocked.toList
  | .setNextTargetTime _ | .onExecute _ => []

/-- The targets at which executions are released, oldest first. -/
def releases (term : TargetTimeSchedulingTerm) (ops : List Op) : List Int :=
  system.gather lockedIn term ops

/-- A request that is accepted while another target is locked is released later, or still waits at
the end. -/
def Kept (term : TargetTimeSchedulingTerm) (targetTimestamp : Int) (later : List Op) : Prop :=
  targetTimestamp ∈ term.releases later ∨
    (system.run term later).targetTimestamp = some targetTimestamp

instance (term : TargetTimeSchedulingTerm) (targetTimestamp : Int) (later : List Op) :
    Decidable (term.Kept targetTimestamp later) :=
  inferInstanceAs (Decidable (_ ∨ _))

def lastLocked (last : Option Int) (_ : Op) : Answer → Option Int
  | .checked _ (some locked) => some locked
  | .checked _ none | .set _ | .executed => last

/-- No request without a lock is earlier than the target that was locked in last. -/
def InOrder (pair : TargetTimeSchedulingTerm × Option Int) (op : Op) : Prop :=
  ∀ target last, op = .setNextTargetTime target → pair.1.lockedTargetTimestamp = none →
    pair.2 = some last → last ≤ target

/-- No request takes the place of one that waits. -/
def InTurn (term : TargetTimeSchedulingTerm) (op : Op) : Prop :=
  ∀ target waiting, op = .setNextTargetTime target → term.accepts target = true →
    term.targetTimestamp = some waiting → target = waiting

section Calls

variable {term : TargetTimeSchedulingTerm} {target : Int}

theorem setNextTargetTime_accepts (accepted : term.accepts target = true) :
    term.setNextTargetTime target = { term with targetTimestamp := some target } := by
  unfold accepts at accepted
  unfold setNextTargetTime
  cases isLocked : term.lockedTargetTimestamp with
  | none => rfl
  | some locked =>
      rw [isLocked] at accepted
      have inTime : locked ≤ target := of_decide_eq_true accepted
      exact if_neg (not_lt.mpr inTime)

theorem setNextTargetTime_rejects (rejected : term.accepts target = false) :
    term.setNextTargetTime target = term := by
  unfold accepts at rejected
  unfold setNextTargetTime
  cases isLocked : term.lockedTargetTimestamp with
  | none =>
      rw [isLocked] at rejected
      cases rejected
  | some locked =>
      rw [isLocked] at rejected
      have late : ¬locked ≤ target := of_decide_eq_false rejected
      exact if_pos (not_le.mp late)

theorem lock_of_none (notLocked : term.lockedTargetTimestamp = none) : term.lock =
      { term with lockedTargetTimestamp := term.targetTimestamp, targetTimestamp := none } := by
  obtain ⟨lastTimestamp, targetTimestamp, lockedTargetTimestamp⟩ := term
  cases notLocked
  cases targetTimestamp <;> rfl

theorem newlyLocked_of_none (notLocked : term.lockedTargetTimestamp = none) :
    term.newlyLocked = term.targetTimestamp := by
  rw [newlyLocked, notLocked]
  rfl

theorem lock_of_some {locked : Int} (isLocked : term.lockedTargetTimestamp = some locked) :
    term.lock = term := by
  rw [lock, isLocked]
  simp

end Calls

/-- The locked target was locked in last, and what waits is not earlier. -/
structure Ordered (term : TargetTimeSchedulingTerm) (last : Option Int) : Prop where
  locked : ∀ target, term.lockedTargetTimestamp = some target → last = some target
  waiting : ∀ target earlier, term.targetTimestamp = some target → last = some earlier →
    earlier ≤ target

variable {term : TargetTimeSchedulingTerm} {last : Option Int}

theorem Ordered.step (ordered : Ordered term last) {op : Op} (inOrder : InOrder (term, last) op) :
    Ordered (system.step term op).1 (lastLocked last op (system.step term op).2) ∧
      ∀ target ∈ lockedIn term op, lastLocked last op (system.step term op).2 = some target ∧
        ∀ earlier, last = some earlier → earlier ≤ target := by
  cases op with
  | setNextTargetTime target =>
      refine ⟨?_, List.forall_mem_nil _⟩
      dsimp only [system, lastLocked]
      cases accepted : term.accepts target with
      | false =>
          rw [setNextTargetTime_rejects accepted]
          exact ordered
      | true =>
          rw [setNextTargetTime_accepts accepted]
          refine ⟨ordered.locked, fun next earlier isNext isLast => ?_⟩
          cases isNext
          cases isLocked : term.lockedTargetTimestamp with
          | none => exact inOrder target earlier rfl isLocked isLast
          | some locked =>
              rw [accepts, isLocked] at accepted
              have same := (ordered.locked locked isLocked).symm.trans isLast
              cases same
              exact of_decide_eq_true accepted
  | check timestamp =>
      dsimp only [system, lockedIn]
      cases isLocked : term.lockedTargetTimestamp with
      | none =>
          rw [lock_of_none isLocked, newlyLocked_of_none isLocked]
          cases isWaiting : term.targetTimestamp with
          | none => exact ⟨⟨nofun, nofun⟩, List.forall_mem_nil _⟩
          | some target =>
              refine ⟨⟨fun _ same => same, nofun⟩, fun locked member => ?_⟩
              rw [List.mem_singleton.mp member]
              exact ⟨rfl, fun earlier isLast => ordered.waiting target earlier isWaiting isLast⟩
      | some locked =>
          rw [lock_of_some isLocked, newlyLocked, isLocked]
          exact ⟨ordered, List.forall_mem_nil _⟩
  | onExecute clock => exact ⟨⟨nofun, ordered.waiting⟩, List.forall_mem_nil _⟩

theorem Ordered.releases (ordered : Ordered term last) {ops : List Op}
    (inOrder : (system.recorded lastLocked).Along InOrder (term, last) ops) :
    (term.releases ops).Pairwise (· ≤ ·) ∧
      ∀ target ∈ term.releases ops, ∀ earlier, last = some earlier → earlier ≤ target := by
  induction ops generalizing term last with
  | nil => exact ⟨List.Pairwise.nil, List.forall_mem_nil _⟩
  | cons op ops ih =>
      obtain ⟨next, here⟩ := ordered.step inOrder.1
      obtain ⟨later, after⟩ := ih next inOrder.2
      have single : (lockedIn term op).Pairwise (· ≤ ·) := by
        cases op with
        | check timestamp =>
            rw [lockedIn]
            cases term.newlyLocked with
            | none => exact List.Pairwise.nil
            | some target => exact List.pairwise_singleton _ _
        | setNextTargetTime _ | onExecute _ => exact List.Pairwise.nil
      refine ⟨List.pairwise_append.mpr ⟨single, later, fun first isFirst target isLater => ?_⟩,
        fun target member earlier isLast => ?_⟩
      · exact after target isLater first (here first isFirst).1
      · rcases List.mem_append.mp member with isFirst | isLater
        · exact (here target isFirst).2 earlier isLast
        · -- a later release is not earlier than the last lock, which this step may have changed
          cases locks : lockedIn term op with
          | nil =>
              refine after target isLater earlier ?_
              cases op with
              | check timestamp =>
                  have none : term.newlyLocked = none := by
                    cases isNew : term.newlyLocked with
                    | none => rfl
                    | some _ =>
                        rw [lockedIn, isNew] at locks
                        cases locks
                  simp only [system, lastLocked, none]
                  exact isLast
              | setNextTargetTime _ | onExecute _ => exact isLast
          | cons first rest =>
              have isFirst : first ∈ lockedIn term op := locks ▸ List.mem_cons_self ..
              exact le_trans ((here first isFirst).2 earlier isLast)
                (after target isLater first (here first isFirst).1)

theorem kept_of_waiting {target : Int} {later : List Op}
    (waiting : term.targetTimestamp = some target) (inTurn : system.Along InTurn term later) :
    term.Kept target later := by
  induction later generalizing term with
  | nil => exact .inr waiting
  | cons op later ih =>
      have still (isNext : (system.step term op).1.targetTimestamp = some target) :
          term.Kept target (op :: later) :=
        (ih isNext inTurn.2).imp_left (List.mem_append_right _)
      cases op with
      | setNextTargetTime other =>
          apply still
          dsimp only [system]
          cases accepted : term.accepts other with
          | false => rw [setNextTargetTime_rejects accepted, waiting]
          | true =>
              rw [setNextTargetTime_accepts accepted, inTurn.1 other target rfl accepted waiting]
      | check timestamp =>
          cases isLocked : term.lockedTargetTimestamp with
          | none =>
              refine .inl (List.mem_append_left _ ?_)
              rw [lockedIn, newlyLocked_of_none isLocked, waiting]
              exact List.mem_singleton.mpr rfl
          | some locked =>
              apply still
              dsimp only [system]
              rw [lock_of_some isLocked, waiting]
      | onExecute clock => exact still waiting

/-- For every run of calls after `initialize()`: the releases do not decrease if no request without
a lock is earlier than the last release, and a request that is accepted while another target is
locked is never lost if no request takes its place. -/
theorem releases_of_requests (clock : Int) (ops : List Op) :
    ((system.recorded lastLocked).Along InOrder (init clock, none) ops →
        ((init clock).releases ops).Pairwise (· ≤ ·)) ∧
      ∀ before target later, ops = before ++ .setNextTargetTime target :: later →
        let term := system.run (init clock) before
        term.lockedTargetTimestamp.isSome = true → term.accepts target = true →
          system.Along InTurn (term.setNextTargetTime target) later →
            (term.setNextTargetTime target).Kept target later := by
  constructor
  · intro inOrder
    have ordered : Ordered (init clock) none := ⟨nofun, nofun⟩
    exact (ordered.releases inOrder).1
  · intro before target later _ term _ accepted inTurn
    refine kept_of_waiting ?_ inTurn
    rw [setNextTargetTime_accepts accepted]

/-- Requests during the executions. -/
theorem releases_of_requests_during_executions :
    let ops : List Op := [.check 0, .setNextTargetTime 20, .onExecute 1, .check 25]
    ((init 0).releases ops).Pairwise (· ≤ ·) ∧
      ((system.run (init 0) [.check 0]).setNextTargetTime 20).Kept 20
      [.onExecute 1, .check 25] := by
  intro ops
  refine ⟨(releases_of_requests 0 ops).1 ?_,
    (releases_of_requests 0 ops).2 [.check 0] 20 _ rfl rfl rfl ?_⟩
  · refine ⟨nofun, ?_, nofun, nofun, trivial⟩
    intro target last _ notLocked
    cases notLocked
  · exact ⟨nofun, nofun, trivial⟩

/-- A request between an execution and the next check goes back in time, and the second of two
requests takes the place of the first. -/
theorem request_without_lock_goes_back :
    ¬((init 10).releases [.check 10, .onExecute 11, .setNextTargetTime 5, .check 12]).Pairwise
        (· ≤ ·) ∧
      ¬((system.run (init 10) [.check 10]).setNextTargetTime 30).Kept 30
        [.setNextTargetTime 20, .onExecute 11, .check 20, .onExecute 20, .check 30] := by
  decide

end Gxf.Std.TargetTimeSchedulingTerm
