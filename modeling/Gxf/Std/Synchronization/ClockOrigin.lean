import Gxf.Std.Synchronization.Streams

/-!
# The origin of the clock

If all acquisition times are shifted by one constant, then the codelet drops and publishes the
same messages, as long as the value 0 with which it starts to look for the latest time does
not decide, and no sum with the threshold leaves the range of the times.
-/

namespace Gxf.Std.Synchronization

open Gxf.Core Gxf.Lib

variable {n : Nat}

/-- A message whose times were read off a clock that is ahead by `shift`. -/
def Message.shift (shift : Int64) (message : Message) : Message :=
  { message with timestamps := message.timestamps.map (· + shift) }

def shiftAll (shift : Int64) (queues : Fin n → List Message) : Fin n → List Message :=
  fun i => (queues i).map (Message.shift shift)

def Op.shift (shift : Int64) : Op n → Op n
  | .arrive input message => .arrive input (message.shift shift)
  | .tick => .tick

def Flow.shift (shift : Int64) (flow : Flow n) : Flow n where
  queues := shiftAll shift flow.queues
  delivered := shiftAll shift flow.delivered
  dropped := shiftAll shift flow.dropped
  published := flow.published.map fun tuple i => (tuple i).map (Message.shift shift)

def Polled.shift (shift : Int64) (polled : Polled) : Polled where
  queue := polled.queue.map (Message.shift shift)
  dropped := polled.dropped.map (Message.shift shift)
  published := polled.published.map (Message.shift shift)
  corrupted := polled.corrupted

def Ticked.shift (shift : Int64) (ticked : Ticked n) : Ticked n where
  queues := shiftAll shift ticked.queues
  dropped := shiftAll shift ticked.dropped
  published i := (ticked.published i).map (Message.shift shift)
  result := ticked.result

/-- A number that is a time. -/
def Fits (value : Int) : Prop := -2 ^ 63 ≤ value ∧ value < 2 ^ 63

instance (value : Int) : Decidable (Fits value) := inferInstanceAs (Decidable (_ ∧ _))

/-- The times can be shifted, some input has an oldest message whose time is not negative,
before and after the shift, and the threshold can be added to the time of every oldest
message. -/
structure Anchored (threshold shift : Int64) (queues : Fin n → List Message) : Prop where
  fits : ∀ i, ∀ message ∈ queues i, Fits (message.time + shift.toInt)
  started : 0 < n → ∃ i oldest, (queues i).head? = some oldest ∧
    0 ≤ oldest.time ∧ 0 ≤ oldest.time + shift.toInt
  room : ∀ i oldest, (queues i).head? = some oldest → Fits (oldest.time + threshold.toInt.natAbs) ∧
      Fits (oldest.time + shift.toInt + threshold.toInt.natAbs)

/-- The clock's origin does not matter for a tick. -/
def Comparable (threshold shift : Int64) (flow : Flow n) (op : Op n) : Prop :=
  op = .tick → shift = 0 ∨ Unready flow.queues ∨ Anchored threshold shift flow.queues

/-- A tick drops and publishes the same messages in a second state. -/
def SameTick (threshold shift : Int64) (flow shifted : Flow n) : Prop :=
  ∀ i, (tick threshold shifted.queues).dropped i =
      ((tick threshold flow.queues).dropped i).map (Message.shift shift) ∧
    (tick threshold shifted.queues).published i =
      ((tick threshold flow.queues).published i).map (Message.shift shift)

/-! ## Times -/

variable {threshold shift latest shifted lower upper acqTime : Int64}
  {queues : Fin n → List Message}

theorem toInt_add_of_fits (fits : Fits (lower.toInt + upper.toInt)) :
    (lower + upper).toInt = lower.toInt + upper.toInt := by
  obtain ⟨low, high⟩ := fits
  rw [Int64.toInt_add]
  exact Int.bmod_eq_of_le (by omega) (by omega)

theorem toInt_sub_of_fits (fits : Fits (lower.toInt - upper.toInt)) :
    (lower - upper).toInt = lower.toInt - upper.toInt := by
  obtain ⟨low, high⟩ := fits
  rw [Int64.toInt_sub]
  exact Int.bmod_eq_of_le (by omega) (by omega)

/-- The ends of the window can be computed. -/
structure Clear (threshold lower upper : Int64) : Prop where
  above : Fits (lower.toInt + threshold.toInt)
  below : Fits (upper.toInt - threshold.toInt)

theorem Clear.inWindow_iff (clear : Clear threshold lower upper) :
    inWindow threshold lower upper acqTime = true ↔ acqTime.toInt ≤ lower.toInt + threshold.toInt ∧
        upper.toInt - threshold.toInt ≤ acqTime.toInt := by
  rw [inWindow, Bool.and_eq_true, decide_eq_true_eq, decide_eq_true_eq, ge_iff_le, ge_iff_le,
    Int64.le_iff_toInt_le, Int64.le_iff_toInt_le, toInt_add_of_fits clear.above,
    toInt_sub_of_fits clear.below]

theorem Clear.extend (clear : Clear threshold lower upper)
    (found : inWindow threshold lower upper acqTime = true) :
    Clear threshold (min lower acqTime) (max upper acqTime) := by
  obtain ⟨notAbove, notBelow⟩ := clear.inWindow_iff.mp found
  obtain ⟨above, below⟩ := clear
  have least := upper.le_toInt
  have greatest := lower.toInt_lt
  rw [Fits] at above below
  constructor
  · rw [Fits, toInt_min]
    omega
  · rw [Fits, toInt_max]
    omega

/-- Two windows, one of which is the other one after the shift. -/
structure Moved (threshold shift lower upper movedLower movedUpper : Int64) : Prop where
  clear : Clear threshold lower upper
  stillClear : Clear threshold movedLower movedUpper
  lower : movedLower.toInt = lower.toInt + shift.toInt
  upper : movedUpper.toInt = upper.toInt + shift.toInt

variable {movedLower movedUpper : Int64}

namespace Moved

variable (moved : Moved threshold shift lower upper movedLower movedUpper)

include moved

theorem inWindow_shift (fits : Fits (acqTime.toInt + shift.toInt)) :
    inWindow threshold movedLower movedUpper (acqTime + shift) =
      inWindow threshold lower upper acqTime := by
  rw [Bool.eq_iff_iff, moved.clear.inWindow_iff, moved.stillClear.inWindow_iff, moved.lower,
    moved.upper, toInt_add_of_fits fits]
  omega

theorem find_shift {times : List Int64} (fits : ∀ time ∈ times, Fits (time.toInt + shift.toInt)) :
    (times.map (· + shift)).find? (inWindow threshold movedLower movedUpper) =
      (times.find? (inWindow threshold lower upper)).map (· + shift) := by
  induction times with
  | nil => rfl
  | cons time rest ih =>
      obtain ⟨first, others⟩ := List.forall_mem_cons.mp fits
      rw [List.map_cons, List.find?_cons, List.find?_cons, moved.inWindow_shift first]
      split
      · rfl
      · exact ih others

theorem extend (fits : Fits (acqTime.toInt + shift.toInt))
    (found : inWindow threshold lower upper acqTime = true) :
    Moved threshold shift (min lower acqTime) (max upper acqTime)
      (min movedLower (acqTime + shift)) (max movedUpper (acqTime + shift)) where
  clear := moved.clear.extend found
  stillClear := moved.stillClear.extend (moved.inWindow_shift fits ▸ found)
  lower := by
    rw [toInt_min, toInt_min, toInt_add_of_fits fits, moved.lower]
    omega
  upper := by
    rw [toInt_max, toInt_max, toInt_add_of_fits fits, moved.upper]
    omega

end Moved

variable {acqTimes : List (List Int64)} {times : List Int64}

/-- As many inputs have a message near those found before. -/
theorem synchronized_shift
    (fits : ∀ times ∈ acqTimes, ∀ time ∈ times, Fits (time.toInt + shift.toInt))
    (moved : Moved threshold shift lower upper movedLower movedUpper) :
    synchronized threshold (acqTimes.map (List.map (· + shift))) movedLower movedUpper =
      synchronized threshold acqTimes lower upper := by
  induction acqTimes generalizing lower upper movedLower movedUpper with
  | nil => rfl
  | cons times rest ih =>
      obtain ⟨first, others⟩ := List.forall_mem_cons.mp fits
      rw [List.map_cons, synchronized, synchronized, moved.find_shift first]
      cases found : times.find? (inWindow threshold lower upper) with
      | none => exact ih others moved
      | some acqTime =>
          have passes := List.find?_some found
          have next := moved.extend (first acqTime (List.mem_of_find?_eq_some found)) passes
          exact congrArg (· + 1) (ih others next)

theorem latestOf_eq_iff (started : ∃ times ∈ acqTimes, 0 ≤ (times.getLastD 0).toInt) (value : Int) :
    (latestOf acqTimes).toInt = value ↔ (∀ times ∈ acqTimes, (times.getLastD 0).toInt ≤ value) ∧
        ∃ times ∈ acqTimes, (times.getLastD 0).toInt = value := by
  have nonneg : 0 ≤ (latestOf acqTimes).toInt := (foldl_later acqTimes 0).1
  have bound : ∀ times ∈ acqTimes, (times.getLastD 0).toInt ≤ (latestOf acqTimes).toInt :=
    (foldl_later acqTimes 0).2.1
  have attained : (latestOf acqTimes).toInt = 0 ∨
      ∃ times ∈ acqTimes, (latestOf acqTimes).toInt = (times.getLastD 0).toInt :=
    (foldl_later acqTimes 0).2.2
  constructor
  · rintro rfl
    refine ⟨bound, ?_⟩
    rcases attained with zero | ⟨times, member, same⟩
    · obtain ⟨times, member, notNegative⟩ := started
      exact ⟨times, member, Int.le_antisymm (bound times member) (zero ▸ notNegative)⟩
    · exact ⟨times, member, same.symm⟩
  · rintro ⟨below, times, member, rfl⟩
    refine Int.le_antisymm ?_ (bound times member)
    rcases attained with zero | ⟨other, among, same⟩
    · obtain ⟨first, isFirst, notNegative⟩ := started
      rw [zero]
      exact Int.le_trans notNegative (below first isFirst)
    · rw [same]
      exact below other among

theorem latestOf_shift (nonempty : ∀ times ∈ acqTimes, times ≠ [])
    (fits : ∀ times ∈ acqTimes, ∀ time ∈ times, Fits (time.toInt + shift.toInt))
    (started : ∃ times ∈ acqTimes, 0 ≤ (times.getLastD 0).toInt ∧
      0 ≤ (times.getLastD 0).toInt + shift.toInt) :
    (latestOf (acqTimes.map (List.map (· + shift)))).toInt =
      (latestOf acqTimes).toInt + shift.toInt := by
  have oldest (times : List Int64) (member : times ∈ acqTimes) :
      ((times.map (· + shift)).getLastD 0).toInt = (times.getLastD 0).toInt + shift.toInt := by
    have last := List.getLast?_eq_some_getLast (nonempty times member)
    rw [List.getLastD_eq_getLast?, List.getLastD_eq_getLast?, List.getLast?_map, last]
    exact toInt_add_of_fits (fits times member _ (List.getLast_mem _))
  obtain ⟨first, isFirst, notNegative, stillNotNegative⟩ := started
  obtain ⟨below, times, member, same⟩ := (latestOf_eq_iff ⟨first, isFirst, notNegative⟩ _).mp rfl
  have movedStarted : ∃ times ∈ acqTimes.map (List.map (· + shift)), 0 ≤ (times.getLastD 0).toInt :=
    ⟨_, List.mem_map_of_mem isFirst, by rw [oldest first isFirst]; exact stillNotNegative⟩
  refine (latestOf_eq_iff movedStarted _).mpr ⟨?_, _, List.mem_map_of_mem member, ?_⟩
  · rw [List.forall_mem_map]
    intro times member
    rw [oldest times member]
    exact Int.add_le_add_right (below times member) _
  · rw [oldest times member, same]

theorem readTimes_shift (shift : Int64) (messages : List Message) :
    readTimes (messages.map (Message.shift shift)) =
      (readTimes messages).map (List.map (· + shift)) := by
  induction messages with
  | nil => rfl
  | cons message older ih =>
      obtain ⟨eid, timestamps⟩ := message
      cases timestamps with
      | nil => rfl
      | cons acqtime rest =>
          rw [List.map_cons, readTimes, Message.shift, readTimes, ih]
          dsimp only [List.map_cons]
          cases readTimes older <;> rfl

theorem readAll_shift (shift : Int64) (queues : List (List Message)) :
    readAll (queues.map (List.map (Message.shift shift))) =
      (readAll queues).map (List.map (List.map (· + shift))) := by
  induction queues with
  | nil => rfl
  | cons queue rest ih =>
      rw [List.map_cons, readAll, readAll, ← List.map_reverse, readTimes_shift, ih]
      cases readTimes queue.reverse with
      | error code => rfl
      | ok times =>
          dsimp only [Except.map]
          cases readAll rest <;> rfl

theorem pollInput_shift (canSend : Bool)
    (moved : Moved threshold shift latest latest shifted shifted)
    (fits : ∀ time ∈ times, Fits (time.toInt + shift.toInt)) (queue : List Message) :
    pollInput threshold shifted canSend (times.map (· + shift)) (queue.map (Message.shift shift)) =
      (pollInput threshold latest canSend times queue).shift shift := by
  induction times generalizing queue with
  | nil => rfl
  | cons time newer ih =>
      obtain ⟨first, others⟩ := List.forall_mem_cons.mp fits
      have tooOld : time + shift < shifted - threshold ↔ time < latest - threshold := by
        rw [Int64.lt_iff_toInt_lt, Int64.lt_iff_toInt_lt, toInt_add_of_fits first,
          toInt_sub_of_fits moved.clear.below, toInt_sub_of_fits moved.stillClear.below,
          moved.upper]
        omega
      have notTooNew : time + shift ≤ shifted + threshold ↔ time ≤ latest + threshold := by
        rw [Int64.le_iff_toInt_le, Int64.le_iff_toInt_le, toInt_add_of_fits first,
          toInt_add_of_fits moved.clear.above, toInt_add_of_fits moved.stillClear.above,
          moved.lower]
        omega
      simp only [List.map_cons, pollInput, tooOld, notTooNew]
      split
      · rw [← List.map_tail, ih others]
        cases queue <;> rfl
      · split
        · cases queue <;> rfl
        · exact ih others queue

theorem pollAll_shift (fits : ∀ times ∈ acqTimes, ∀ time ∈ times, Fits (time.toInt + shift.toInt))
    (moved : Moved threshold shift (latestOf acqTimes) (latestOf acqTimes)
      (latestOf (acqTimes.map (List.map (· + shift))))
      (latestOf (acqTimes.map (List.map (· + shift))))) (queues : Fin n → List Message) :
    pollAll threshold (shiftAll shift queues) (acqTimes.map (List.map (· + shift))) =
      (pollAll threshold queues acqTimes).shift shift := by
  have polled (canSend : Bool) (i : Fin n) :
      pollInput threshold (latestOf (acqTimes.map (List.map (· + shift)))) canSend
          ((acqTimes.map (List.map (· + shift))).getD i []).reverse (shiftAll shift queues i) =
        (pollInput threshold (latestOf acqTimes) canSend (acqTimes.getD i []).reverse
          (queues i)).shift shift := by
    have mapped : (acqTimes.map (List.map (· + shift))).getD i [] =
        (acqTimes.getD i []).map (· + shift) := List.getD_map acqTimes [] (List.map (· + shift))
    rw [mapped, ← List.map_reverse]
    refine pollInput_shift canSend moved (fun time member => ?_) (queues i)
    have among := List.mem_reverse.mp member
    rw [List.getD_eq_getElem?_getD] at among
    cases found : acqTimes[i.val]? with
    | none =>
        rw [found] at among
        cases among
    | some times =>
        rw [found] at among
        exact fits times (List.mem_of_getElem? found) time among
  rw [pollAll, pollAll]
  simp only [synchronized_shift fits moved, polled]
  rw [Ticked.shift, Ticked.mk.injEq]
  refine ⟨funext fun i => ?_, funext fun i => ?_, funext fun i => ?_, rfl⟩
  · exact (apply_ite (List.map (Message.shift shift)) _ _ _).symm
  · rw [shiftAll, apply_ite (List.map (Message.shift shift))]
    rfl
  · rw [apply_ite (Option.map (Message.shift shift))]
    rfl

theorem pollAll_no_inputs {queues others : Fin 0 → List Message}
    (acqTimes otherTimes : List (List Int64)) :
    pollAll threshold others otherTimes = (pollAll threshold queues acqTimes).shift shift := by
  rw [pollAll, pollAll, Ticked.shift, Ticked.mk.injEq]
  refine ⟨funext fun input => input.elim0, funext fun input => input.elim0,
    funext fun input => input.elim0, ?_⟩
  rw [if_pos fun input => input.elim0, if_pos fun input => input.elim0]

theorem Message.shift_zero : Message.shift 0 = id := by
  funext message
  rw [Message.shift, funext Int64.add_zero]
  exact congrArg (Message.mk message.eid) (List.map_id _)

theorem shiftAll_zero (queues : Fin n → List Message) : shiftAll 0 queues = queues := by
  funext i
  rw [shiftAll, Message.shift_zero, List.map_id]

theorem Ticked.shift_zero (ticked : Ticked n) : ticked.shift 0 = ticked := by
  rw [Ticked.shift, shiftAll_zero, shiftAll_zero, Message.shift_zero]
  simp only [Option.map_id, id]

theorem timestamps_of_readTimes {messages : List Message}
    (read : readTimes messages = .ok times) : ∀ message ∈ messages, message.timestamps ≠ [] := by
  induction messages generalizing times with
  | nil => exact nofun
  | cons message older ih =>
      rw [readTimes] at read
      split at read
      next => cases read
      next stamps =>
        cases found : readTimes older with
        | error code =>
            rw [found] at read
            cases read
        | ok rest =>
            refine List.forall_mem_cons.mpr ⟨?_, ih found⟩
            rw [stamps]
            exact List.cons_ne_nil _ _

theorem timestamps_of_readAll {queues : List (List Message)}
    (read : readAll queues = .ok acqTimes) :
    ∀ queue ∈ queues, ∀ message ∈ queue, message.timestamps ≠ [] := by
  induction queues generalizing acqTimes with
  | nil => exact nofun
  | cons queue rest ih =>
      rw [readAll] at read
      split at read
      next => cases read
      next times here =>
        cases found : readAll rest with
        | error code =>
            rw [found] at read
            cases read
        | ok others =>
            refine List.forall_mem_cons.mpr ⟨fun message member => ?_, ih found⟩
            exact timestamps_of_readTimes here message (List.mem_reverse.mpr member)

theorem getLastD_timesOf {i : Fin n} {oldest : Message} (head : (queues i).head? = some oldest) :
    (((queues i).map Message.acqtime).reverse.getLastD 0).toInt = oldest.time := by
  rw [getLastD_times, head]
  rfl

theorem Anchored.fits_timesOf (anchored : Anchored threshold shift queues) :
    ∀ times ∈ timesOf queues, ∀ time ∈ times, Fits (time.toInt + shift.toInt) := by
  intro times isTimes time member
  obtain ⟨i, rfl⟩ := List.mem_ofFn.mp isTimes
  obtain ⟨message, among, rfl⟩ := List.mem_map.mp (List.mem_reverse.mp member)
  exact anchored.fits i message among

theorem Anchored.moved (anchored : Anchored threshold shift queues) (inputs : 0 < n)
    (ready : ∀ i, queues i ≠ []) :
    Moved threshold shift (latestOf (timesOf queues)) (latestOf (timesOf queues))
      (latestOf ((timesOf queues).map (List.map (· + shift))))
      (latestOf ((timesOf queues).map (List.map (· + shift)))) := by
  have nonempty : ∀ times ∈ timesOf queues, times ≠ [] := by
    intro times isTimes
    obtain ⟨i, rfl⟩ := List.mem_ofFn.mp isTimes
    exact fun none => ready i (List.map_eq_nil_iff.mp (List.reverse_eq_nil_iff.mp none))
  obtain ⟨first, start, isStart, notNegative, stillNotNegative⟩ := anchored.started inputs
  have started := getLastD_timesOf isStart
  have isFirst : ((queues first).map Message.acqtime).reverse ∈ timesOf queues :=
    List.mem_ofFn.mpr ⟨first, rfl⟩
  have shifts := latestOf_shift nonempty anchored.fits_timesOf
    ⟨_, isFirst, started ▸ notNegative, started ▸ stillNotNegative⟩
  obtain ⟨bound, times, isTimes, same⟩ :=
    (latestOf_eq_iff ⟨_, isFirst, started ▸ notNegative⟩ _).mp rfl
  obtain ⟨i, rfl⟩ := List.mem_ofFn.mp isTimes
  obtain ⟨oldest, rest, waiting⟩ := List.exists_cons_of_ne_nil (ready i)
  have head : (queues i).head? = some oldest := by
    rw [waiting]
    rfl
  rw [getLastD_timesOf head] at same
  have above := bound _ isFirst
  rw [started] at above
  obtain ⟨⟨-, room⟩, -, stillRoom⟩ := anchored.room i oldest head
  refine ⟨⟨⟨?_, ?_⟩, ⟨?_, ?_⟩⟩, ⟨⟨?_, ?_⟩, ⟨?_, ?_⟩⟩, shifts, shifts⟩
  all_goals try rw [shifts]
  all_goals omega

theorem tick_shift (comparable : shift = 0 ∨ Unready queues ∨ Anchored threshold shift queues) :
    tick threshold (shiftAll shift queues) = (tick threshold queues).shift shift := by
  rcases comparable with rfl | looked
  · rw [shiftAll_zero, Ticked.shift_zero]
  have empty : (∃ i, shiftAll shift queues i = []) ↔ ∃ i, queues i = [] :=
    exists_congr fun i => List.map_eq_nil_iff
  have read : readAll (List.ofFn (shiftAll shift queues)) =
      (readAll (List.ofFn queues)).map (List.map (List.map (· + shift))) := by
    rw [← readAll_shift, List.map_ofFn]
    rfl
  rw [tick, tick, if_congr empty rfl rfl]
  split_ifs with noMessage
  · rfl
  · rw [read]
    cases found : readAll (List.ofFn queues) with
    | error code => rfl
    | ok acqTimes =>
        dsimp only [Except.map]
        have times : acqTimes = timesOf queues := by
          rw [readAll_ok found, List.map_ofFn]
          rfl
        have bare : ¬ Unready queues := by
          rintro (none | ⟨i, message, member, isBare⟩)
          · exact noMessage none
          · exact timestamps_of_readAll found _ (List.mem_ofFn.mpr ⟨i, rfl⟩) message member isBare
        subst times
        have anchored := looked.resolve_left bare
        rcases Nat.eq_zero_or_pos n with rfl | inputs
        · exact pollAll_no_inputs _ _
        · exact pollAll_shift anchored.fits_timesOf
            (anchored.moved inputs (not_exists.mp noMessage)) queues

theorem shiftAll_push (queues : Fin n → List Message) (input : Fin n) (message : Message) :
    shiftAll shift (push queues input message) =
      push (shiftAll shift queues) input (message.shift shift) := by
  funext i
  by_cases same : i = input
  · subst same
    simp only [shiftAll, push, Function.update_self, List.map_append, List.map_cons, List.map_nil]
  · simp only [shiftAll, push, Function.update_of_ne same]

theorem step_shift {flow : Flow n} {op : Op n} (comparable : Comparable threshold shift flow op) :
    (flow.shift shift).step threshold (op.shift shift) = (flow.step threshold op).shift shift := by
  cases op with
  | arrive input message =>
      simp only [Flow.step, Flow.shift, Op.shift, shiftAll_push]
  | tick =>
      have ticked := tick_shift (comparable rfl)
      have published : (∃ i, ((tick threshold flow.queues).shift shift).published i ≠ none) ↔
          ∃ i, (tick threshold flow.queues).published i ≠ none :=
        exists_congr fun i => not_congr Option.map_eq_none_iff
      simp only [Flow.step, Flow.shift, Op.shift, ticked, Flow.mk.injEq, published]
      refine ⟨rfl, trivial, funext fun i => List.map_append.symm, ?_⟩
      split_ifs
      · rw [List.map_append]
        rfl
      · rfl

theorem run_shift (flow : Flow n) {ops : List (Op n)}
    (comparable : (system threshold).Along (Comparable threshold shift) flow ops) :
    (system threshold).run (flow.shift shift) (ops.map (Op.shift shift)) =
      ((system threshold).run flow ops).shift shift := by
  induction ops generalizing flow with
  | nil => rfl
  | cons op rest ih =>
      have next : ((system threshold).step (flow.shift shift) (op.shift shift)).1 =
          ((system threshold).step flow op).1.shift shift := step_shift comparable.1
      rw [List.map_cons, System.run_cons, System.run_cons, next]
      exact ih _ comparable.2

/-- If in every tick the start value does not decide, two runs whose times differ by a
constant drop and publish the same messages in every tick. -/
theorem ticks_shift (threshold shift : Int64) (flow : Flow n) (ops : List (Op n))
    (comparable : (system threshold).Along (Comparable threshold shift) flow ops)
    (before after : List (Op n)) (split : ops = before ++ .tick :: after) :
    SameTick threshold shift ((system threshold).run flow before)
      ((system threshold).run (flow.shift shift) (before.map (Op.shift shift))) := by
  subst split
  obtain ⟨earlier, here, -⟩ := (System.along_append _ _ _ _).mp comparable
  rw [run_shift flow earlier]
  have ticked : tick threshold (shiftAll shift ((system threshold).run flow before).queues) =
      (tick threshold ((system threshold).run flow before).queues).shift shift :=
    tick_shift (here rfl)
  intro i
  rw [Flow.shift, ticked]
  exact ⟨rfl, rfl⟩

/-- Two messages that arrive on two inputs. -/
def arriving (first second : Int64) : List (Op 2) :=
  [.arrive ⟨0, Nat.zero_lt_two⟩ (stamped 1 first), .arrive ⟨1, Nat.one_lt_two⟩ (stamped 2 second)]

/-- A clock that is 50 behind does not change what a tick publishes. -/
theorem ticks_shift_behind :
    (system 10).Along (Comparable 10 (-50)) ({} : Flow 2) (arriving 100 105 ++ [.tick]) ∧
      SameTick 10 (-50) ((system 10).run {} (arriving 100 105))
        ((system 10).run (Flow.shift (-50) {}) ((arriving 100 105).map (Op.shift (-50)))) := by
  have anchored : Anchored 10 (-50) ((system 10).run ({} : Flow 2) (arriving 100 105)).queues := by
    refine ⟨by decide, fun _ => ⟨0, stamped 1 100, rfl, by decide, by decide⟩,
      Fin.forall_fin_two.mpr ⟨?_, ?_⟩⟩
    · rintro oldest ⟨⟩
      decide
    · rintro oldest ⟨⟩
      decide
  have comparable : (system 10).Along (Comparable 10 (-50)) ({} : Flow 2)
      (arriving 100 105 ++ [.tick]) :=
    ⟨nofun, nofun, fun _ => .inr (.inr anchored), trivial⟩
  exact ⟨comparable, ticks_shift 10 (-50) {} _ comparable (arriving 100 105) [] rfl⟩

/-- Messages from before the start of the clock that belong together are dropped, because the
latest time is taken to be 0.  After the start they are published. -/
theorem early_messages_dropped :
    let flow := (system 0).run ({} : Flow 2) (arriving (-5) (-5))
    let shifted := (system 0).run ({} : Flow 2) ((arriving (-5) (-5)).map (Op.shift 5))
    (tick 0 flow.queues).dropped 0 = [stamped 1 (-5)] ∧
      (tick 0 shifted.queues).published 0 = some (stamped 1 0) ∧
      ¬ SameTick 0 5 flow shifted := by
  intro flow shifted
  have dropped : (tick 0 flow.queues).dropped 0 = [stamped 1 (-5)] := by decide
  have published : (tick 0 shifted.queues).published 0 = some (stamped 1 0) := by decide
  refine ⟨dropped, published, fun same => ?_⟩
  have none : (tick 0 flow.queues).published 0 = none := by decide
  have differs := (same 0).2
  rw [published, none] at differs
  cases differs

end Gxf.Std.Synchronization
