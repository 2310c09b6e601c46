import Gxf.Lib.Run

/-!
# The states of a program

Threads activate, run, interrupt, wait for and deactivate a program.  Some changes of its
state are compare-and-swap operations, others are plain stores after a call that may block.
A step is one access of the state or one call into the systems.
-/

namespace Gxf.Std.Program

open Gxf.Lib Function

/-- `Program::State`. -/
inductive State where
  | ORIGIN
  | ACTIVATING
  | ACTIVATED
  | STARTING
  | RUNNING
  | INTERRUPTING
  | DEINITALIZING
  deriving DecidableEq, Repr

/-- The transitions that the declaration of the states lists. -/
inductive Transition : State → State → Prop where
  | activate : Transition .ORIGIN .ACTIVATING
  | activated : Transition .ACTIVATING .ACTIVATED
  | runAsync : Transition .ACTIVATED .STARTING
  | running : Transition .STARTING .RUNNING
  | interrupt : Transition .RUNNING .INTERRUPTING
  | wait : Transition .RUNNING .ACTIVATED
  | waitInterrupted : Transition .INTERRUPTING .ACTIVATED
  | deactivate : Transition .ACTIVATED .DEINITALIZING
  | deactivated : Transition .DEINITALIZING .ORIGIN

/-- Who calls `deactivate`.  After a failure to add routes `activate` goes on behind it. -/
inductive Caller where
  | api
  | wait
  | runAsync
  | activate (resumes : Bool)
  deriving DecidableEq, Repr

/-- Where a thread is in a call. -/
inductive Position where
  | idle
  /-- In `activate`, behind the compare-and-swap. -/
  | activating
  /-- In `runAsync`, before the call into the systems. -/
  | starting
  /-- In `runAsync`, before the store. -/
  | started
  /-- In `interrupt`, before the call into the systems. -/
  | interrupting
  /-- In `wait`, before the call into the systems returns. -/
  | waiting
  /-- In `wait`, before the second load. -/
  | waited
  /-- In `wait`, before the compare-and-swap. -/
  | stopping (seen : State)
  /-- In `deactivate`, before the load. -/
  | deactivate (caller : Caller)
  /-- In `deactivate`, before the first store. -/
  | leaving (caller : Caller)
  /-- In `deactivate`, behind the first store. -/
  | deactivating (caller : Caller)
  deriving DecidableEq, Repr

/-- The functions of the interface. -/
inductive Function where
  | activate
  | runAsync
  | interrupt
  | wait
  | deactivate
  deriving DecidableEq, Repr

/-- How the next section of a call ends.  Only `activate` can return early or resume. -/
inductive Result where
  | success
  | failure
  | returnsEarly
  | resumes
  deriving DecidableEq, Repr

/-- The program under threads.  `entityMutex` is held in `activate`.  `ran` records that the
systems were started after the last activation, with no deactivation completed since. -/
structure Machine (Thread : Type) where
  state : State
  systemsRunning : Bool
  entityMutex : Option Thread
  position : Thread → Position
  ran : Bool

/-- A thread calls a function, a call goes on, or the systems finish or fail. -/
inductive MachineOp (Thread : Type) where
  | call (thread : Thread) (function : Function)
  | proceed (thread : Thread) (result : Result)
  | systemsEnd

namespace Machine

variable {Thread : Type} [DecidableEq Thread]

/-- A thread goes on to a position. -/
def go (machine : Machine Thread) (thread : Thread) (position : Position) : Machine Thread :=
  { machine with position := update machine.position thread position }

/-- A thread returns from its call, and releases the mutex if it has it. -/
def finish (machine : Machine Thread) (thread : Thread) : Machine Thread :=
  { machine.go thread .idle with
    entityMutex := if machine.entityMutex = some thread then none else machine.entityMutex }

def store (machine : Machine Thread) (state : State) : Machine Thread := { machine with state }

/-- The first access of a call. -/
def call (machine : Machine Thread) (thread : Thread) : Function → Machine Thread
  | .activate =>
      if machine.entityMutex ≠ none ∨ machine.state ≠ .ORIGIN then machine
      else { (machine.store .ACTIVATING).go thread .activating with entityMutex := some thread }
  | .runAsync =>
      if machine.state ≠ .ACTIVATED then machine
      else (machine.store .STARTING).go thread .starting
  | .interrupt =>
      if machine.state ≠ .RUNNING then machine
      else (machine.store .INTERRUPTING).go thread .interrupting
  | .wait =>
      match machine.state with
      | .STARTING => machine.go thread .waiting
      | .RUNNING => machine.go thread .waiting
      | .INTERRUPTING => machine.go thread .waiting
      | _ => machine
  | .deactivate => machine.go thread (.deactivate .api)

/-- What follows when `deactivate` returns to its caller, with success or not. -/
def returnTo (machine : Machine Thread) (thread : Thread) (success : Bool) : Caller → Machine Thread
  | .activate true => if success then machine.go thread .activating else machine.finish thread
  | _ => machine.finish thread

/-- The next section of a call. -/
def proceed (machine : Machine Thread) (thread : Thread) (result : Result) : Machine Thread :=
  match machine.position thread with
  | .idle => machine
  | .activating =>
      match result with
      | .success => { (machine.store .ACTIVATED).finish thread with ran := false }
      | .failure => machine.go thread (.deactivate (.activate false))
      | .returnsEarly => machine.finish thread
      | .resumes => machine.go thread (.deactivate (.activate true))
  | .starting =>
      if result = .success then
        { machine.go thread .started with systemsRunning := true, ran := true }
      else machine.go thread (.deactivate .runAsync)
  | .started => (machine.store .RUNNING).finish thread
  | .interrupting => machine.finish thread
  | .waiting =>
      if machine.systemsRunning then machine
      else if result = .success then machine.go thread .waited
      else machine.go thread (.deactivate .wait)
  | .waited =>
      match machine.state with
      | .RUNNING => machine.go thread (.stopping .RUNNING)
      | .INTERRUPTING => machine.go thread (.stopping .INTERRUPTING)
      | _ => machine.finish thread
  | .stopping seen =>
      if machine.state = seen then (machine.store .ACTIVATED).finish thread
      else machine.finish thread
  | .deactivate caller =>
      if machine.state = .ORIGIN then machine.returnTo thread true caller
      else machine.go thread (.leaving caller)
  | .leaving caller => (machine.store .DEINITALIZING).go thread (.deactivating caller)
  | .deactivating caller =>
      if result = .success then
        { (machine.store .ORIGIN).returnTo thread true caller with ran := false }
      else machine.returnTo thread false caller

def step (machine : Machine Thread) : MachineOp Thread → Machine Thread
  | .call thread function =>
      if machine.position thread ≠ .idle then machine else machine.call thread function
  | .proceed thread result => machine.proceed thread result
  | .systemsEnd => { machine with systemsRunning := false }

def interleavings (Thread : Type) [DecidableEq Thread] :
    System (Machine Thread) (MachineOp Thread) Unit where
  step machine op := (machine.step op, ())

/-- A program that is set up, with no thread in a call. -/
def initial (Thread : Type) : Machine Thread := ⟨.ORIGIN, false, none, fun _ => .idle, false⟩

/-- Every call has returned and the systems have ended. -/
def Quiescent (machine : Machine Thread) : Prop :=
  (∀ thread, machine.position thread = .idle) ∧ machine.systemsRunning = false

/-- A call of `wait` that no other thread interrupts, where the systems ended well or not. -/
def waitOps (thread : Thread) (result : Result) : List (MachineOp Thread) :=
  [.call thread .wait, .proceed thread result, .proceed thread .success,
    .proceed thread .success, .proceed thread .success]

/-- What a step promises: a change of the state is a listed transition, a running program
has started systems, and when everything has come to an end `wait` leaves the program
activated or in its origin. -/
structure Sound (machine : Machine Thread) (op : MachineOp Thread) : Prop where
  transition : (machine.step op).state ≠ machine.state →
    Transition machine.state (machine.step op).state
  running : (machine.step op).state = .RUNNING → (machine.step op).ran = true
  settles : (machine.step op).Quiescent → ∀ thread result,
    ((interleavings Thread).run (machine.step op) (waitOps thread result)).state = .ACTIVATED ∨
      ((interleavings Thread).run (machine.step op) (waitOps thread result)).state = .ORIGIN

/-- A deactivation stores its first state only where the program is activated, and comes to
its end, and no activation returns without a deactivation. -/
def Orderly (machine : Machine Thread) : MachineOp Thread → Prop
  | .proceed thread result =>
      match machine.position thread with
      | .activating => result ≠ .returnsEarly
      | .leaving _ => machine.state = .ACTIVATED
      | .deactivating _ => result = .success
      | _ => True
  | _ => True

end Machine

/-! ## Who may change the state -/

/-- A state in which one call is at work. -/
def State.isOwned : State → Bool
  | .ACTIVATING => true
  | .STARTING => true
  | .DEINITALIZING => true
  | _ => false

def Position.role : Position → Option State
  | .activating => some .ACTIVATING
  | .starting => some .STARTING
  | .started => some .STARTING
  | .deactivating _ => some .DEINITALIZING
  | .deactivate (.activate _) => some .ACTIVATING
  | .leaving (.activate _) => some .ACTIVATING
  | .deactivate .runAsync => some .STARTING
  | .leaving .runAsync => some .STARTING
  | _ => none

theorem Position.isOwned_of_role {position : Position} {state : State}
    (role : position.role = some state) : state.isOwned = true := by
  cases position with
  | activating | starting | started | deactivating => cases role; rfl
  | deactivate caller | leaving caller => cases caller <;> cases role <;> rfl
  | idle | interrupting | waiting | waited | stopping => cases role

/-- A thread stops only a running program, and it deactivates no program that it owned. -/
def Position.Proper : Position → Prop
  | .stopping seen => seen = .RUNNING ∨ seen = .INTERRUPTING
  | .deactivating caller => caller = .api ∨ caller = .wait
  | _ => True

namespace Machine

variable {Thread : Type} [DecidableEq Thread]

/-- The invariant of a run: an owned state has one owner, and a running program has started
systems. -/
structure Owned (machine : Machine Thread) : Prop where
  own : ∀ thread, ∀ state ∈ (machine.position thread).role, machine.state = state
  alone : ∀ thread other, (machine.position thread).role.isSome = true →
    (machine.position other).role.isSome = true → thread = other
  owner : machine.state.isOwned = true →
    ∃ thread, (machine.position thread).role = some machine.state
  started : ∀ thread, machine.position thread = .started → machine.ran = true
  running : machine.state = .RUNNING → machine.ran = true
  proper : ∀ thread, (machine.position thread).Proper

variable {machine next : Machine Thread} {thread : Thread} {position : Position}

/-- The thread owns the state, or nobody does. -/
def InCharge (machine : Machine Thread) (thread : Thread) : Prop :=
  (machine.position thread).role = some machine.state ∨ machine.state.isOwned = false

omit [DecidableEq Thread] in
theorem Owned.others (owned : Owned machine) (charge : machine.InCharge thread) {other : Thread}
    (different : other ≠ thread) : (machine.position other).role = none := by
  cases role : (machine.position other).role with
  | none => rfl
  | some state =>
      cases charge with
      | inl mine =>
          exact absurd (owned.alone other thread (by rw [role]; rfl) (by rw [mine]; rfl)) different
      | inr free =>
          rw [owned.own other state role, Position.isOwned_of_role role] at free
          cases free

theorem forall_position (property : Position → Prop)
    (moved : next.position = update machine.position thread position)
    (self : property position)
    (others : ∀ other, other ≠ thread → property (machine.position other)) (other : Thread) :
    property (next.position other) := by
  rw [moved]
  by_cases same : other = thread
  · rw [same, update_self]
    exact self
  · rw [update_of_ne same]
    exact others other same

theorem Owned.change (owned : Owned machine) (charge : machine.InCharge thread)
    (moved : next.position = update machine.position thread position)
    (role : position.role = if next.state.isOwned then some next.state else none)
    (started : position = .started → next.ran = true)
    (running : next.state = .RUNNING → next.ran = true)
    (proper : position.Proper) : Owned next := by
  have self : (next.position thread).role = position.role := by
    rw [moved, update_self]
  have others (other : Thread) (different : other ≠ thread) :
      (next.position other).role = none := by
    rw [moved, update_of_ne different]
    exact owned.others charge different
  have isThread {other : Thread} (isSome : (next.position other).role.isSome = true) :
      other = thread := by
    by_contra different
    rw [others other different] at isSome
    cases isSome
  constructor
  · intro other state isRole
    have same := isThread (by rw [isRole]; rfl)
    rw [same, self, role] at isRole
    split at isRole
    next => exact Option.some.inj isRole
    next => cases isRole
  · intro one two isOne isTwo
    rw [isThread isOne, isThread isTwo]
  · intro isOwned
    refine ⟨thread, ?_⟩
    rw [self, role, if_pos isOwned]
  · intro other isStarted
    have same := isThread (by rw [isStarted]; rfl)
    rw [same, moved, update_self] at isStarted
    exact started isStarted
  · exact running
  · exact forall_position Position.Proper moved proper fun other _ => owned.proper other

theorem Owned.quiet (owned : Owned machine) (state : next.state = machine.state)
    (ran : machine.ran = true → next.ran = true)
    (moved : next.position = update machine.position thread position)
    (role : position.role = (machine.position thread).role)
    (started : position = .started → next.ran = true)
    (proper : position.Proper) : Owned next := by
  have roles (other : Thread) : (next.position other).role = (machine.position other).role := by
    rw [moved]
    by_cases same : other = thread
    · rw [same, update_self, role]
    · rw [update_of_ne same]
  constructor
  · intro other found isRole
    rw [roles] at isRole
    rw [state]
    exact owned.own other found isRole
  · intro one two isOne isTwo
    rw [roles] at isOne isTwo
    exact owned.alone one two isOne isTwo
  · intro isOwned
    rw [state] at isOwned ⊢
    obtain ⟨other, isRole⟩ := owned.owner isOwned
    exact ⟨other, (roles other).trans isRole⟩
  · exact forall_position (fun position => position = .started → next.ran = true) moved started
      fun other _ isStarted => ran (owned.started other isStarted)
  · intro isRunning
    rw [state] at isRunning
    exact ran (owned.running isRunning)
  · exact forall_position Position.Proper moved proper fun other _ => owned.proper other

theorem Owned.finish (owned : Owned machine) (noRole : (machine.position thread).role = none) :
    Owned (machine.finish thread) :=
  owned.quiet rfl id rfl noRole.symm nofun trivial

theorem Owned.go (owned : Owned machine) (role : position.role = (machine.position thread).role)
    (started : position ≠ .started) (proper : position.Proper) :
    Owned (machine.go thread position) :=
  owned.quiet rfl id rfl role (absurd · started) proper

omit [DecidableEq Thread] in
theorem Owned.inCharge (owned : Owned machine) {state : State}
    (role : (machine.position thread).role = some state) : machine.InCharge thread := by
  left
  rw [role, owned.own thread state role]

omit [DecidableEq Thread] in
theorem inCharge_of_state {state : State} (found : machine.state = state)
    (free : state.isOwned = false) : machine.InCharge thread := by
  right
  rw [found, free]

theorem Owned.call (owned : Owned machine) (idle : machine.position thread = .idle)
    (function : Function) : Owned (machine.call thread function) := by
  have noRole : (machine.position thread).role = none := by
    rw [idle]
    rfl
  cases function with
  | activate =>
      rw [Machine.call]
      split
      next => exact owned
      next unlocked =>
        have isOrigin : machine.state = .ORIGIN := not_not.mp fun other => unlocked (.inr other)
        exact owned.change (inCharge_of_state isOrigin rfl) rfl rfl nofun nofun trivial
  | runAsync =>
      rw [Machine.call]
      split
      next => exact owned
      next isActivated =>
        exact owned.change (inCharge_of_state (not_not.mp isActivated) rfl) rfl rfl nofun nofun
          trivial
  | interrupt =>
      rw [Machine.call]
      split
      next => exact owned
      next isRunning =>
        exact owned.change (inCharge_of_state (not_not.mp isRunning) rfl) rfl rfl nofun nofun
          trivial
  | wait =>
      rw [Machine.call]
      split
      next => exact owned.go noRole.symm nofun trivial
      next => exact owned.go noRole.symm nofun trivial
      next => exact owned.go noRole.symm nofun trivial
      next => exact owned
  | deactivate => exact owned.go noRole.symm nofun trivial

omit [DecidableEq Thread] in
theorem Owned.caller_of_activated (owned : Owned machine) {caller : Caller}
    (at_ : machine.position thread = .leaving caller) (state : machine.state = .ACTIVATED) :
    caller = .api ∨ caller = .wait := by
  cases caller with
  | api => exact .inl rfl
  | wait => exact .inr rfl
  | runAsync =>
      have role := owned.own thread .STARTING (by rw [at_]; rfl)
      rw [state] at role
      cases role
  | activate =>
      have role := owned.own thread .ACTIVATING (by rw [at_]; rfl)
      rw [state] at role
      cases role

/-- The next section of a call keeps the invariant. -/
theorem Owned.proceed (owned : Owned machine) {result : Result}
    (orderly : machine.Orderly (.proceed thread result)) :
    Owned (machine.proceed thread result) := by
  rw [Machine.proceed.eq_def]
  cases isAt : machine.position thread with
  | idle => exact owned
  | activating =>
      have charge : machine.InCharge thread := owned.inCharge (by rw [isAt]; rfl)
      cases result with
      | success => exact owned.change charge rfl rfl nofun nofun trivial
      | failure | resumes => exact owned.go (by rw [isAt]; rfl) nofun trivial
      | returnsEarly =>
          rw [Orderly, isAt] at orderly
          exact absurd rfl orderly
  | starting =>
      dsimp only
      split
      next => exact owned.quiet rfl (fun _ => rfl) rfl (by rw [isAt]; rfl) (fun _ => rfl) trivial
      next => exact owned.go (by rw [isAt]; rfl) nofun trivial
  | started =>
      have charge : machine.InCharge thread := owned.inCharge (by rw [isAt]; rfl)
      exact owned.change charge rfl rfl nofun (fun _ => owned.started thread isAt) trivial
  | interrupting => exact owned.finish (by rw [isAt]; rfl)
  | waiting =>
      have noRole : (machine.position thread).role = none := by
        rw [isAt]
        rfl
      dsimp only
      split
      next => exact owned
      next =>
        split
        next => exact owned.go noRole.symm nofun trivial
        next => exact owned.go noRole.symm nofun trivial
  | waited =>
      have noRole : (machine.position thread).role = none := by
        rw [isAt]
        rfl
      dsimp only
      split
      next => exact owned.go noRole.symm nofun (.inl rfl)
      next => exact owned.go noRole.symm nofun (.inr rfl)
      next => exact owned.finish noRole
  | stopping seen =>
      dsimp only
      split
      next same =>
        have free : seen.isOwned = false := by
          have proper := owned.proper thread
          rw [isAt] at proper
          cases proper with
          | inl isRunning => rw [isRunning]; rfl
          | inr isInterrupting => rw [isInterrupting]; rfl
        exact owned.change (inCharge_of_state same free) rfl rfl nofun nofun trivial
      next => exact owned.finish (by rw [isAt]; rfl)
  | deactivate caller =>
      dsimp only
      split
      next isOrigin =>
        cases caller with
        | api | wait => exact owned.finish (by rw [isAt]; rfl)
        | runAsync =>
            have role := owned.own thread .STARTING (by rw [isAt]; rfl)
            rw [isOrigin] at role
            cases role
        | activate resumes =>
            have role := owned.own thread .ACTIVATING (by rw [isAt]; rfl)
            rw [isOrigin] at role
            cases role
      next => exact owned.go (by rw [isAt]; cases caller <;> rfl) nofun trivial
  | leaving caller =>
      rw [Orderly, isAt] at orderly
      exact owned.change (inCharge_of_state orderly rfl) rfl rfl nofun nofun
        (owned.caller_of_activated isAt orderly)
  | deactivating caller =>
      rw [Orderly, isAt] at orderly
      have charge : machine.InCharge thread := owned.inCharge (by rw [isAt]; rfl)
      have proper := owned.proper thread
      rw [isAt] at proper
      dsimp only
      rw [if_pos orderly]
      cases proper with
      | inl isApi =>
          rw [isApi]
          exact owned.change charge rfl rfl nofun nofun trivial
      | inr isWait =>
          rw [isWait]
          exact owned.change charge rfl rfl nofun nofun trivial

theorem Owned.step (owned : Owned machine) {op : MachineOp Thread} (orderly : machine.Orderly op) :
    Owned (machine.step op) := by
  cases op with
  | call thread function =>
      rw [Machine.step]
      split
      next => exact owned
      next isIdle => exact owned.call (not_not.mp isIdle) function
  | proceed thread result => exact owned.proceed orderly
  | systemsEnd =>
      exact ⟨owned.own, owned.alone, owned.owner, owned.started, owned.running, owned.proper⟩

omit [DecidableEq Thread] in
theorem owned_initial : Owned (initial Thread) := by
  constructor
  · exact fun _ _ => nofun
  · exact fun _ _ => nofun
  · exact nofun
  · exact fun _ => nofun
  · exact nofun
  · exact fun _ => trivial

theorem transition_call (machine : Machine Thread) (thread : Thread) (function : Function) :
    (machine.call thread function).state = machine.state ∨
      Transition machine.state (machine.call thread function).state := by
  cases function with
  | activate =>
      rw [Machine.call]
      split
      next => exact .inl rfl
      next unlocked =>
        have isOrigin : machine.state = .ORIGIN := not_not.mp fun other => unlocked (.inr other)
        right
        rw [isOrigin]
        exact .activate
  | runAsync =>
      rw [Machine.call]
      split
      next => exact .inl rfl
      next isActivated =>
        right
        rw [not_not.mp isActivated]
        exact .runAsync
  | interrupt =>
      rw [Machine.call]
      split
      next => exact .inl rfl
      next isRunning =>
        right
        rw [not_not.mp isRunning]
        exact .interrupt
  | wait =>
      rw [Machine.call]
      split
      next => exact .inl rfl
      next => exact .inl rfl
      next => exact .inl rfl
      next => exact .inl rfl
  | deactivate => exact .inl rfl

theorem Owned.transition_proceed (owned : Owned machine) {result : Result}
    (orderly : machine.Orderly (.proceed thread result)) :
    (machine.proceed thread result).state = machine.state ∨
      Transition machine.state (machine.proceed thread result).state := by
  rw [Machine.proceed.eq_def]
  cases isAt : machine.position thread with
  | idle | interrupting => exact .inl rfl
  | activating =>
      have isActivating : machine.state = .ACTIVATING := owned.own thread _ (by rw [isAt]; rfl)
      cases result with
      | success =>
          right
          rw [isActivating]
          exact .activated
      | failure | returnsEarly | resumes => exact .inl rfl
  | starting =>
      dsimp only
      split
      next => exact .inl rfl
      next => exact .inl rfl
  | started =>
      have isStarting : machine.state = .STARTING := owned.own thread _ (by rw [isAt]; rfl)
      right
      rw [isStarting]
      exact .running
  | waiting =>
      dsimp only
      split
      next => exact .inl rfl
      next =>
        split
        next => exact .inl rfl
        next => exact .inl rfl
  | waited =>
      dsimp only
      split
      next => exact .inl rfl
      next => exact .inl rfl
      next => exact .inl rfl
  | stopping seen =>
      dsimp only
      split
      next same =>
        have proper := owned.proper thread
        rw [isAt] at proper
        right
        rw [same]
        cases proper with
        | inl isRunning =>
            rw [isRunning]
            exact .wait
        | inr isInterrupting =>
            rw [isInterrupting]
            exact .waitInterrupted
      next => exact .inl rfl
  | deactivate caller =>
      dsimp only
      split
      next =>
        cases caller with
        | activate resumes => cases resumes <;> exact .inl rfl
        | _ => exact .inl rfl
      next => exact .inl rfl
  | leaving caller =>
      rw [Orderly, isAt] at orderly
      right
      rw [orderly]
      exact .deactivate
  | deactivating caller =>
      have isLeaving : machine.state = .DEINITALIZING := owned.own thread _ (by rw [isAt]; rfl)
      rw [Orderly, isAt] at orderly
      have proper := owned.proper thread
      rw [isAt] at proper
      dsimp only
      rw [if_pos orderly, isLeaving]
      right
      cases proper with
      | inl isApi =>
          rw [isApi]
          exact .deactivated
      | inr isWait =>
          rw [isWait]
          exact .deactivated

omit [DecidableEq Thread] in
theorem Owned.free_of_quiescent (owned : Owned machine) (quiescent : machine.Quiescent) :
    machine.state.isOwned = false := by
  cases isOwned : machine.state.isOwned with
  | false => rfl
  | true =>
      obtain ⟨thread, role⟩ := owned.owner isOwned
      rw [quiescent.1 thread] at role
      cases role

/-- A further `wait` ends a program that came to an end. -/
theorem Quiescent.settles (quiescent : machine.Quiescent) (free : machine.state.isOwned = false)
    (thread : Thread) (result : Result) :
    ((interleavings Thread).run machine (waitOps thread result)).state = .ACTIVATED ∨
      ((interleavings Thread).run machine (waitOps thread result)).state = .ORIGIN := by
  obtain ⟨state, systemsRunning, entityMutex, position, ran⟩ := machine
  have idle : position = fun _ => .idle := funext quiescent.1
  have ended : systemsRunning = false := quiescent.2
  subst idle ended
  cases state with
  | ORIGIN => right; cases result <;> rfl
  | ACTIVATED => left; cases result <;> rfl
  | RUNNING | INTERRUPTING =>
      cases result <;>
        simp [waitOps, interleavings, step, call, proceed, go, finish, store, returnTo]
  | ACTIVATING | STARTING | DEINITALIZING => cases free

theorem Owned.sound (owned : Owned machine) {op : MachineOp Thread} (orderly : machine.Orderly op) :
    machine.Sound op := by
  have after := owned.step orderly
  constructor
  · have kept : (machine.step op).state = machine.state ∨
        Transition machine.state (machine.step op).state := by
      cases op with
      | call thread function =>
          rw [Machine.step]
          split
          next => exact .inl rfl
          next => exact transition_call machine thread function
      | proceed thread result => exact owned.transition_proceed orderly
      | systemsEnd => exact .inl rfl
    exact kept.resolve_left
  · exact after.running
  · exact fun quiescent => quiescent.settles (after.free_of_quiescent quiescent)

/-- In every interleaving whose deactivations start from an activated program and come to
their end, and whose activations all roll back when they fail, the state follows the listed
transitions and can always be left. -/
theorem run_transitions (ops : List (MachineOp Thread))
    (orderly : (interleavings Thread).Along Orderly (initial Thread) ops) :
    (interleavings Thread).Along Sound (initial Thread) ops :=
  System.along_of_invariant (fun _ _ owned orderly => Owned.step owned orderly)
    (fun _ _ owned orderly => Owned.sound owned orderly) owned_initial orderly

/-- A whole cycle, in which one thread interrupts and another one waits. -/
theorem run_transitions_cycle : (interleavings Bool).Along Sound (initial Bool)
      [.call false .activate, .proceed false .success, .call false .runAsync,
        .proceed false .success, .proceed false .success, .call true .wait,
        .call false .interrupt, .proceed false .success, .systemsEnd, .proceed true .success,
        .proceed true .success, .proceed true .success, .call false .deactivate,
        .proceed false .success, .proceed false .success, .proceed false .success] :=
  run_transitions _ ⟨trivial, nofun, trivial, trivial, trivial, trivial, trivial, trivial, trivial,
    trivial, trivial, trivial, trivial, trivial, rfl, rfl, trivial⟩

/-- One thread starts the systems, another one deactivates the program before the first
stores its state. -/
def overtakenStart : List (MachineOp Bool) :=
  [.call false .activate, .proceed false .success, .call false .runAsync,
    .proceed false .success, .call true .deactivate, .proceed true .success,
    .proceed true .success, .proceed true .success, .proceed false .success]

/-- The program then counts as running with nothing activated. -/
theorem deactivated_while_starting :
    ¬ (interleavings Bool).Along Sound (initial Bool) overtakenStart ∧
      ((interleavings Bool).run (initial Bool) overtakenStart).state = .RUNNING ∧
      ((interleavings Bool).run (initial Bool) overtakenStart).ran = false := by
  refine ⟨?_, rfl, rfl⟩
  rintro ⟨-, -, -, -, -, -, -, -, sound, -⟩
  exact absurd (sound.running rfl) (by decide)

end Machine

end Gxf.Std.Program
