import Gxf.Lib.Run
import Gxf.Std.Entity
import Mathlib.Data.List.Perm.Basic

/-!
# The vault

A codelet that takes messages from a receiver, keeps them waiting and hands them out to
callers, which give them back later.  If too many messages would wait, the oldest ones are
dropped on request.
-/

namespace Gxf.Std

open Gxf.Lib

namespace Vault

/-- The parameters that decide what happens to messages. -/
structure Settings where
  maxWaitingCount : Nat
  dropWaiting : Bool
  enableCallback : Bool

/-- The codelet and the main stage of its receiver, oldest messages first. -/
structure State where
  source : List Uid := []
  entitiesWaiting : List Uid := []
  entitiesInVault : List Uid := []
  alive : Bool := true
  callback : Bool := false

/-- What a member function returns and does with messages. -/
structure Answer where
  /-- The ids returned by a store. -/
  returned : Option (List Uid) := none
  /-- Messages taken out of the receiver. -/
  received : List Uid := []
  /-- Messages erased from the waiting list. -/
  dropped : List Uid := []
  /-- Messages removed from the vault. -/
  freed : List Uid := []
  /-- The range that is erased lies in its list. -/
  inRange : Bool := true
  called : Bool := false
  notified : Bool := false

/-- The loop that moves messages until enough are waiting or none is left. -/
def receiveAll (maxWaitingCount : Nat) (waiting : List Uid) : List Uid → List Uid × List Uid
  | [] => (waiting, [])
  | message :: source =>
      if waiting.length < maxWaitingCount then
        receiveAll maxWaitingCount (waiting ++ [message]) source
      else (waiting, message :: source)

/-- `tick()` after room was made, of which `dropped` is the result. -/
def receive (settings : Settings) (state : State) (dropped : List Uid) : State × Answer :=
  let moved := receiveAll settings.maxWaitingCount state.entitiesWaiting state.source
  let exhausted := moved.1.length < settings.maxWaitingCount
  ({ state with entitiesWaiting := moved.1, source := moved.2 },
    { received := state.source.take (state.source.length - moved.2.length)
      dropped := dropped
      called := settings.enableCallback && moved.1 ≠ [] && state.callback
      notified := if settings.enableCallback then moved.1 ≠ [] else ¬exhausted })

/-- `tick()`.  Erasing more messages than are waiting is undefined; nothing is said about
the state after it. -/
def tick (settings : Settings) (state : State) : State × Answer :=
  let total := state.entitiesWaiting.length + state.source.length
  if settings.dropWaiting ∧ total > settings.maxWaitingCount then
    let rmvCount := total - settings.maxWaitingCount
    if rmvCount ≤ state.entitiesWaiting.length then
      receive settings { state with entitiesWaiting := state.entitiesWaiting.drop rmvCount }
        (state.entitiesWaiting.take rmvCount)
    else (state, { inRange := false })
  else receive settings state []

/-- `storeImpl(max_count)`. -/
def State.storeImpl (state : State) (maxCount : Nat) : State × Answer :=
  if state.alive then
    let count := min maxCount state.entitiesWaiting.length
    ({ state with
        entitiesInVault := state.entitiesInVault ++ state.entitiesWaiting.take count
        entitiesWaiting := state.entitiesWaiting.drop count },
      { returned := some (state.entitiesWaiting.take count) })
  else (state, { returned := some [] })

/-- The loop of `free(entities)`, with what it removed so far. -/
def freeAll : List Uid → List Uid × List Uid → List Uid × List Uid
  | [], pair => pair
  | uid :: rest, (inVault, freed) =>
      freeAll rest (inVault.filter (· ≠ uid), freed ++ inVault.filter (· = uid))

/-- What happens to a vault.  A blocking store is seen when it returns, and it does not
return before it may. -/
inductive Op where
  | arrive (messages : List Uid)
  | tick
  | store (maxCount : Nat)
  | storeBlocking (count : Nat)
  | storeBlockingFor (count : Nat) (durationNs : Int)
  | free (entities : List Uid)
  | setCallback
  | init
  | deinit

/-- One operation. -/
def step (settings : Settings) (state : State) : Op → State × Answer
  | .arrive messages => ({ state with source := state.source ++ messages }, {})
  | .tick => tick settings state
  | .store maxCount => state.storeImpl maxCount
  | .storeBlocking count =>
      if ¬state.alive ∨ count ≤ state.entitiesWaiting.length then state.storeImpl count
      else (state, {})
  | .storeBlockingFor count durationNs =>
      if durationNs < 0 then (state, { returned := some [] }) else state.storeImpl count
  | .free entities =>
      let done := freeAll entities (state.entitiesInVault, [])
      ({ state with entitiesInVault := done.1 }, { freed := done.2 })
  | .setCallback => ({ state with callback := true }, {})
  | .init => ({ state with alive := true }, {})
  | .deinit => ({ state with alive := false }, { notified := true })

/-! ## Where messages are -/

/-- The messages that came, were dropped and were freed so far, oldest first. -/
structure Ledger where
  received : List Uid := []
  dropped : List Uid := []
  freed : List Uid := []

def Ledger.record (ledger : Ledger) (_ : Op) (answer : Answer) : Ledger :=
  ⟨ledger.received ++ answer.received, ledger.dropped ++ answer.dropped,
    ledger.freed ++ answer.freed⟩

/-- A vault with a ledger of its messages. -/
def system (settings : Settings) : System (State × Ledger) Op Answer :=
  System.recorded ⟨step settings⟩ Ledger.record

/-- Every received message is waiting, in the vault, freed or dropped, and those waiting are
the last ones received, in the order they came. -/
structure Accounted (state : State × Ledger) : Prop where
  once : state.2.received.Perm (state.1.entitiesWaiting ++ state.1.entitiesInVault ++
    state.2.freed ++ state.2.dropped)
  inOrder : state.1.entitiesWaiting <:+ state.2.received

/-- The newest messages of a list, which is ordered from the oldest. -/
def newest (count : Nat) (messages : List Uid) : List Uid := messages.drop (messages.length - count)

/-- A step that conserves messages: it erases within the waiting list, stores the oldest
ones, and drops only where it has to. -/
structure Conserves (settings : Settings) (state : State × Ledger) (op : Op) : Prop where
  inRange : (step settings state.1 op).2.inRange
  accounted : Accounted ((system settings).step state op).1
  oldest : ∀ uids, (step settings state.1 op).2.returned = some uids →
    uids ++ (step settings state.1 op).1.entitiesWaiting = state.1.entitiesWaiting
  drops : settings.dropWaiting → op = .tick → (step settings state.1 op).1.entitiesWaiting =
        newest settings.maxWaitingCount (state.1.entitiesWaiting ++ state.1.source) ∧
      (step settings state.1 op).2.dropped ++ (step settings state.1 op).1.entitiesWaiting =
        state.1.entitiesWaiting ++ state.1.source
  keeps : settings.dropWaiting = false → (step settings state.1 op).2.dropped = []

/-- The condition on a tick: with dropping, no more messages come than may wait. -/
def Fits (settings : Settings) (state : State × Ledger) (op : Op) : Prop :=
  op = .tick → settings.dropWaiting → state.1.source.length ≤ settings.maxWaitingCount

theorem receiveAll_eq (maxWaitingCount : Nat) (waiting source : List Uid) :
    receiveAll maxWaitingCount waiting source =
      (waiting ++ source.take (maxWaitingCount - waiting.length),
        source.drop (maxWaitingCount - waiting.length)) := by
  induction source generalizing waiting with
  | nil => simp [receiveAll]
  | cons message source ih =>
      by_cases room : waiting.length < maxWaitingCount
      · obtain ⟨left, enough⟩ := Nat.exists_eq_succ_of_ne_zero (Nat.sub_ne_zero_of_lt room)
        have fewer : maxWaitingCount - (waiting ++ [message]).length = left := by
          rw [List.length_append, List.length_singleton]
          omega
        rw [receiveAll, if_pos room, ih, fewer, enough, List.take_succ_cons,
          List.drop_succ_cons, List.append_assoc, List.singleton_append]
      · rw [receiveAll, if_neg room, Nat.sub_eq_zero_of_le (Nat.not_lt.mp room), List.take_zero,
          List.drop_zero, List.append_nil]

variable {settings : Settings} {state : State} {dropped : List Uid}

theorem receive_spec (settings : Settings) (state : State) (dropped : List Uid) :
    let count := settings.maxWaitingCount - state.entitiesWaiting.length
    (receive settings state dropped).1 =
        { state with
          entitiesWaiting := state.entitiesWaiting ++ state.source.take count
          source := state.source.drop count } ∧
      (receive settings state dropped).2.received = state.source.take count ∧
      (receive settings state dropped).2.dropped = dropped ∧
      (receive settings state dropped).2.freed = [] ∧
      (receive settings state dropped).2.returned = none ∧
      (receive settings state dropped).2.inRange = true := by
  intro count
  have moved := receiveAll_eq settings.maxWaitingCount state.entitiesWaiting state.source
  refine ⟨by simp only [receive, moved, count], ?_, rfl, rfl, rfl, rfl⟩
  simp only [receive, moved, List.length_drop]
  rcases Nat.le_total count state.source.length with fewer | more
  · rw [Nat.sub_sub_self fewer]
  · rw [Nat.sub_eq_zero_of_le more, Nat.sub_zero, List.take_of_length_le more, List.take_length]

theorem freeAll_perm (entities : List Uid) (inVault freed : List Uid) :
    ((freeAll entities (inVault, freed)).1 ++ (freeAll entities (inVault, freed)).2).Perm
      (inVault ++ freed) := by
  induction entities generalizing inVault freed with
  | nil => exact List.Perm.refl _
  | cons uid rest ih =>
      have split : (inVault.filter (· ≠ uid) ++ inVault.filter (· = uid)).Perm inVault := by
        have swapped := List.filter_append_perm (fun other => decide (other ≠ uid)) inVault
        simpa using swapped
      have here := (split.append_right freed)
      rw [List.append_assoc] at here
      exact (ih _ _).trans ((List.perm_append_comm.append_left _).trans here)

namespace Accounted

variable {ledger : Ledger} {source : List Uid} {op : Op}

section

variable (accounted : Accounted (state, ledger))
include accounted

theorem flow {gone kept : List Uid}
    (waiting : state.entitiesWaiting = gone ++ kept) (received : List Uid) :
    (kept ++ received) <:+ ledger.received ++ received := by
  obtain ⟨front, all⟩ := accounted.inOrder
  refine ⟨front ++ gone, ?_⟩
  rw [← all, waiting, List.append_assoc, List.append_assoc, List.append_assoc]

theorem receive {kept : List Uid}
    (waiting : state.entitiesWaiting = dropped ++ kept) (settings : Settings) :
    let next := Vault.receive settings { state with entitiesWaiting := kept } dropped
    Accounted (next.1, ledger.record .tick next.2) := by
  intro next
  obtain ⟨moved, received, gone, freed, -, -⟩ :=
    receive_spec settings { state with entitiesWaiting := kept } dropped
  have once := List.perm_iff_count.mp accounted.once
  simp only [next, Ledger.record, moved, received, gone, freed]
  refine ⟨List.perm_iff_count.mpr fun uid => ?_, accounted.flow waiting _⟩
  have here := once uid
  simp only [waiting, List.count_append, List.append_nil] at here ⊢
  omega

theorem storeImpl (op : Op) (maxCount : Nat) :
    Accounted ((state.storeImpl maxCount).1, ledger.record op (state.storeImpl maxCount).2) := by
  by_cases alive : state.alive
  · simp only [State.storeImpl, if_pos alive, Ledger.record, List.append_nil]
    have waiting := (List.take_append_drop (min maxCount state.entitiesWaiting.length)
      state.entitiesWaiting).symm
    have once := List.perm_iff_count.mp accounted.once
    refine ⟨List.perm_iff_count.mpr fun uid => ?_, ?_⟩
    · have here := once uid
      have parts := congrArg (List.count uid) waiting
      simp only [List.count_append] at here parts ⊢
      omega
    · simpa only [List.append_nil] using accounted.flow waiting []
  · simp only [State.storeImpl, if_neg alive, Ledger.record, List.append_nil]
    exact accounted

theorem free (settings : Settings) (entities : List Uid) :
    Accounted ((step settings state (.free entities)).1,
      ledger.record (.free entities) (step settings state (.free entities)).2) := by
  have moved := List.perm_iff_count.mp (freeAll_perm entities state.entitiesInVault [])
  have once := List.perm_iff_count.mp accounted.once
  simp only [step, Ledger.record, List.append_nil]
  refine ⟨List.perm_iff_count.mpr fun uid => ?_, accounted.inOrder⟩
  have here := once uid
  have parts := moved uid
  simp only [List.count_append, List.append_nil] at here parts ⊢
  omega

theorem idle {next : State} {answer : Answer}
    (waiting : next.entitiesWaiting = state.entitiesWaiting)
    (inVault : next.entitiesInVault = state.entitiesInVault)
    (silent : answer.received = [] ∧ answer.dropped = [] ∧ answer.freed = []) (op : Op) :
    Accounted (next, ledger.record op answer) := by
  obtain ⟨received, dropped, freed⟩ := silent
  have same : ledger.record op answer = ledger := by
    rw [Ledger.record, received, dropped, freed, List.append_nil, List.append_nil, List.append_nil]
  rw [same]
  exact ⟨by rw [waiting, inVault]; exact accounted.once, by rw [waiting]; exact accounted.inOrder⟩

end

end Accounted

/-! ## Steps -/

theorem tick_of_fits (fits : settings.dropWaiting → state.source.length ≤
    settings.maxWaitingCount) :
    ∃ dropped kept, state.entitiesWaiting = dropped ++ kept ∧
      tick settings state = receive settings { state with entitiesWaiting := kept } dropped ∧
      (settings.dropWaiting = false → dropped = []) ∧
      (settings.dropWaiting → dropped.length =
        state.entitiesWaiting.length + state.source.length - settings.maxWaitingCount) := by
  by_cases exceeds : settings.dropWaiting ∧ state.entitiesWaiting.length + state.source.length >
      settings.maxWaitingCount
  · have within : state.entitiesWaiting.length + state.source.length - settings.maxWaitingCount ≤
        state.entitiesWaiting.length := by
      have room := fits exceeds.1
      omega
    refine ⟨_, _, (List.take_append_drop _ _).symm, ?_, ?_, fun _ => List.length_take_of_le within⟩
    · simp only [tick, if_pos exceeds, if_pos within]
    · intro noDrop
      rw [noDrop] at exceeds
      exact absurd exceeds.1 Bool.false_ne_true
  · refine ⟨[], state.entitiesWaiting, rfl, if_neg exceeds, fun _ => rfl, fun drops => ?_⟩
    have room := not_and.mp exceeds drops
    exact (Nat.sub_eq_zero_of_le (Nat.not_lt.mp room)).symm

theorem tick_of_not_fits (drops : settings.dropWaiting)
    (tooMany : settings.maxWaitingCount < state.source.length) :
    (tick settings state).2.inRange = false := by
  have exceeds : settings.dropWaiting ∧ state.entitiesWaiting.length + state.source.length >
      settings.maxWaitingCount := ⟨drops, by omega⟩
  have beyond : ¬state.entitiesWaiting.length + state.source.length - settings.maxWaitingCount ≤
      state.entitiesWaiting.length := by
    omega
  simp only [tick, if_pos exceeds, if_neg beyond]

variable {ledger : Ledger}

section

variable (accounted : Accounted (state, ledger))
include accounted

theorem conserves_tick
    (fits : settings.dropWaiting → state.source.length ≤ settings.maxWaitingCount) :
    Conserves settings (state, ledger) .tick := by
  obtain ⟨dropped, kept, waiting, ticked, noDrop, surplus⟩ := tick_of_fits fits
  obtain ⟨moved, received, gone, freed, returned, inRange⟩ :=
    receive_spec settings { state with entitiesWaiting := kept } dropped
  have stepped : step settings state .tick =
      receive settings { state with entitiesWaiting := kept } dropped := ticked
  constructor
  case inRange => rw [stepped, inRange]
  case accounted =>
    have after := accounted.receive waiting settings
    rw [← stepped] at after
    exact after
  case oldest =>
    intro uids stored
    rw [stepped, returned] at stored
    cases stored
  case drops =>
    intro drops _
    have room := fits drops
    have length := congrArg List.length waiting
    rw [List.length_append] at length
    have all : state.source.take (settings.maxWaitingCount - kept.length) = state.source := by
      apply List.take_of_length_le
      have dropLength := surplus drops
      omega
    have next : (step settings state .tick).1.entitiesWaiting = kept ++ state.source := by
      rw [stepped, moved]
      simp only [all]
    refine ⟨?_, ?_⟩
    · rw [next, newest, waiting, List.append_assoc]
      have dropLength := surplus drops
      have count : (dropped ++ (kept ++ state.source)).length - settings.maxWaitingCount =
          dropped.length := by
        simp only [List.length_append]
        omega
      rw [count, List.drop_left]
    · rw [next, stepped, gone, waiting, List.append_assoc]
  case keeps =>
    intro without
    rw [stepped, gone, noDrop without]

theorem conserves_store {op : Op} {maxCount : Nat}
    (stores : step settings state op = state.storeImpl maxCount) (other : op ≠ .tick) :
    Conserves settings (state, ledger) op := by
  have after := accounted.storeImpl op maxCount
  rw [← stores] at after
  have silent : (state.storeImpl maxCount).2.inRange = true ∧
      (state.storeImpl maxCount).2.dropped = [] := by
    rw [State.storeImpl]
    split <;> exact ⟨rfl, rfl⟩
  refine ⟨by rw [stores, silent.1], after, ?_, fun _ isTick => absurd isTick other,
    fun _ => by rw [stores, silent.2]⟩
  rw [stores, State.storeImpl]
  intro uids returned
  split at returned
  next alive =>
    cases returned
    rw [if_pos alive]
    exact List.take_append_drop _ _
  next stopped =>
    cases returned
    rw [if_neg stopped]
    rfl

theorem conserves_idle {op : Op}
    (waiting : (step settings state op).1.entitiesWaiting = state.entitiesWaiting)
    (inVault : (step settings state op).1.entitiesInVault = state.entitiesInVault)
    (answer : (step settings state op).2.received = [] ∧ (step settings state op).2.dropped = [] ∧
      (step settings state op).2.freed = [])
    (inRange : (step settings state op).2.inRange)
    (returned : ∀ uids, (step settings state op).2.returned = some uids → uids = [])
    (other : op ≠ .tick) : Conserves settings (state, ledger) op :=
  ⟨inRange, accounted.idle waiting inVault answer op,
    fun uids stored => by rw [returned uids stored, waiting]; rfl,
    fun _ isTick => absurd isTick other, fun _ => answer.2.1⟩

theorem conserves_of_ne_tick {op : Op}
    (other : op ≠ .tick) : Conserves settings (state, ledger) op := by
  have nothing : ∀ uids, (none : Option (List Uid)) = some uids → uids = [] :=
    fun uids stored => by cases stored
  cases op with
  | tick => exact absurd rfl other
  | store maxCount => exact conserves_store accounted rfl other
  | storeBlocking count =>
      by_cases returns : ¬state.alive ∨ count ≤ state.entitiesWaiting.length
      · exact conserves_store accounted (if_pos returns) other
      · have waits : step settings state (.storeBlocking count) = (state, {}) := if_neg returns
        refine conserves_idle accounted ?_ ?_ ?_ ?_ ?_ other
        all_goals rw [waits]
        · exact ⟨rfl, rfl, rfl⟩
        · exact nothing
  | storeBlockingFor count durationNs =>
      by_cases negative : durationNs < 0
      · have refuses : step settings state (.storeBlockingFor count durationNs) =
            (state, { returned := some [] }) := if_pos negative
        refine conserves_idle accounted ?_ ?_ ?_ ?_ ?_ other
        all_goals rw [refuses]
        · exact ⟨rfl, rfl, rfl⟩
        · exact fun uids stored => (Option.some.inj stored).symm
      · exact conserves_store accounted (if_neg negative) other
  | free entities =>
      refine ⟨rfl, accounted.free settings entities, ?_, fun _ isTick => absurd isTick other,
        fun _ => rfl⟩
      exact fun uids stored => absurd stored (by simp [step])
  | arrive | setCallback | init | deinit =>
      exact conserves_idle accounted rfl rfl ⟨rfl, rfl, rfl⟩ rfl nothing other

theorem conserves_iff (op : Op) :
    Conserves settings (state, ledger) op ↔ Fits settings (state, ledger) op := by
  constructor
  · rintro conserves rfl drops
    by_contra tooMany
    have outside := tick_of_not_fits drops (Nat.not_le.mp tooMany)
    exact absurd conserves.inRange (by rw [step, outside]; exact Bool.false_ne_true)
  · intro fits
    by_cases isTick : op = .tick
    · subst isTick
      exact conserves_tick accounted (fits rfl)
    · exact conserves_of_ne_tick accounted isTick

end

/-- Nothing has come yet. -/
def initial : State × Ledger := ({}, {})

/-- Messages are conserved in exactly the runs in which, with dropping, no tick finds more
messages in the source than may wait. -/
theorem run_conserves_iff (settings : Settings) (ops : List Op) :
    (system settings).Along (Conserves settings) initial ops ↔
      (system settings).Along (Fits settings) initial ops := by
  have accounted : Accounted initial := ⟨List.Perm.refl _, List.suffix_refl _⟩
  exact @System.along_iff_guarded _ _ _ (system settings) Accounted _ _
    (fun _ op accounted fits => ((conserves_iff accounted op).mpr fits).accounted)
    (fun _ op accounted => conserves_iff accounted op) _ accounted ops

/-- With room for one message and dropping, a tick that finds two messages and none waiting
erases one from the empty list. -/
theorem source_overflows :
    ¬∀ settings ops, (system settings).Along (Conserves settings) initial ops := by
  intro all
  have tick := (all ⟨1, true, false⟩ [.arrive [1, 2], .tick]).2.1
  exact absurd tick.inRange (by decide)

end Vault

end Gxf.Std
