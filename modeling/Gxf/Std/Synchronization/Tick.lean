import Gxf.Core.Result
import Gxf.Std.Entity
import Mathlib.Algebra.Ring.Int.Defs
import Mathlib.Algebra.Ring.Nat
import Mathlib.Data.List.Forall2
import Mathlib.Data.List.GetD
import Mathlib.Data.List.OfFn
import Mathlib.Data.List.TakeWhile

/-!
# One tick of the synchronization codelet

The codelet has as many outputs as inputs.  A tick looks at the acquisition times of all
waiting messages, drops those that are too old, and publishes one message from every input
if it finds messages that belong together.  Times are signed 64-bit numbers, and sums of them
wrap around.
-/

namespace Gxf.Std.Synchronization

open Gxf.Core

/-- A message with the acquisition times of its timestamps. -/
structure Message where
  eid : Uid
  timestamps : List Int64
  deriving DecidableEq

/-- `acqtime` of the first timestamp. -/
def Message.acqtime (message : Message) : Int64 := message.timestamps.headD 0

/-- The first loop for one input, over its messages from the newest to the oldest. -/
def readTimes : List Message → Except GxfResult (List Int64)
  | [] => .ok []
  | message :: older =>
      match message.timestamps with
      | [] => .error .GXF_ENTITY_COMPONENT_NOT_FOUND
      | acqtime :: _ => (readTimes older).map (acqtime :: ·)

/-- The first loop over the inputs. -/
def readAll : List (List Message) → Except GxfResult (List (List Int64))
  | [] => .ok []
  | queue :: rest =>
      match readTimes queue.reverse with
      | .error code => .error code
      | .ok times => (readAll rest).map (times :: ·)

/-- The greatest among 0 and the times of the oldest messages, which come last. -/
def latestOf (acqTimes : List (List Int64)) : Int64 := acqTimes.foldl (fun latest timestamps =>
      if timestamps.getLastD 0 > latest then timestamps.getLastD 0 else latest) 0

/-- The comparison of a time with the window found so far. -/
def inWindow (threshold lower upper acqTime : Int64) : Bool :=
  lower + threshold ≥ acqTime && acqTime ≥ upper - threshold

/-- The loop that counts the inputs with a message near those found before. -/
def synchronized (threshold : Int64) : List (List Int64) → Int64 → Int64 → Nat
  | [], _, _ => 0
  | timestamps :: rest, lower, upper =>
      match timestamps.find? (inWindow threshold lower upper) with
      | some acqTime =>
          synchronized threshold rest (min lower acqTime) (max upper acqTime) + 1
      | none => synchronized threshold rest lower upper

/-- What polling an input leaves, drops and publishes. -/
structure Polled where
  queue : List Message
  dropped : List Message := []
  published : Option Message := none
  corrupted : Bool := false

/-- The last loop for one input, over the times from the oldest to the newest.  Each
`receive()` takes the oldest message of the queue. -/
def pollInput (threshold latest : Int64) (canSend : Bool) : List Int64 → List Message → Polled
  | [], queue => { queue := queue }
  | acqTime :: newer, queue =>
      if acqTime < latest - threshold then
        let polled := pollInput threshold latest canSend newer queue.tail
        { polled with dropped := queue.head?.toList ++ polled.dropped }
      else if canSend && acqTime ≤ latest + threshold then
        match queue with
        | [] => { queue := [], corrupted := true }
        | message :: rest => { queue := rest, published := some message }
      else pollInput threshold latest canSend newer queue

variable {n : Nat}

/-- The queues after a tick, with what it drops and publishes on each input. -/
structure Ticked (n : Nat) where
  queues : Fin n → List Message
  dropped : Fin n → List Message := fun _ => []
  published : Fin n → Option Message := fun _ => none
  result : GxfResult := .GXF_SUCCESS

/-- The part of `tick()` that polls the inputs.  It returns at the first corrupted one. -/
def pollAll (threshold : Int64) (queues : Fin n → List Message)
    (acqTimes : List (List Int64)) : Ticked n :=
  let latest := latestOf acqTimes
  let canSend := synchronized threshold acqTimes latest latest % 2 ^ 32 == n
  let polled (i : Fin n) :=
    pollInput threshold latest canSend (acqTimes.getD i []).reverse (queues i)
  let reached (i : Fin n) : Bool := decide (∀ j, j < i → (polled j).corrupted = false)
  { queues := fun i => if reached i then (polled i).queue else queues i
    dropped := fun i => if reached i then (polled i).dropped else []
    published := fun i => if reached i then (polled i).published else none
    result :=
      if ∀ i, (polled i).corrupted = false then .GXF_SUCCESS
      else .GXF_CONTRACT_MESSAGE_NOT_AVAILABLE }

/-- `tick()`, where messages wait oldest first. -/
def tick (threshold : Int64) (queues : Fin n → List Message) : Ticked n :=
  if ∃ i, queues i = [] then
    { queues := queues, result := .GXF_CONTRACT_MESSAGE_NOT_AVAILABLE }
  else
    match readAll (List.ofFn queues) with
    | .error code => { queues := queues, result := code }
    | .ok acqTimes => pollAll threshold queues acqTimes

def Message.time (message : Message) : Int := message.acqtime.toInt

variable {threshold latest lower upper acqTime : Int64}

theorem toInt_sub_of_nonneg (nonneg : 0 ≤ upper.toInt) (positive : 0 ≤ threshold.toInt) :
    (upper - threshold).toInt = upper.toInt - threshold.toInt := by
  have small := threshold.toInt_lt
  have bound := upper.toInt_lt
  rw [Int64.toInt_sub]
  exact Int.bmod_eq_of_le (by omega) (by omega)

theorem toInt_add_cases (nonneg : 0 ≤ lower.toInt + threshold.toInt) :
    (lower + threshold).toInt = lower.toInt + threshold.toInt ∧
        lower.toInt + threshold.toInt < 2 ^ 63 ∨
      (lower + threshold).toInt = lower.toInt + threshold.toInt - 2 ^ 64 := by
  have small := threshold.toInt_lt
  have bound := lower.toInt_lt
  rw [Int64.toInt_add]
  by_cases exact : lower.toInt + threshold.toInt < 2 ^ 63
  · exact .inl ⟨Int.bmod_eq_of_le (by omega) (by omega), exact⟩
  · refine .inr ?_
    rw [Int.bmod_def]
    omega

/-- The window around the times found so far: its ends are not farther apart than the
threshold allows. -/
structure Window (threshold lower upper : Int64) : Prop where
  positive : 0 ≤ threshold.toInt
  nonneg : 0 ≤ upper.toInt
  ordered : lower.toInt ≤ upper.toInt
  narrow : upper.toInt - threshold.toInt ≤ lower.toInt

theorem Window.found (window : Window threshold lower upper)
    (passes : inWindow threshold lower upper acqTime) :
    upper.toInt - threshold.toInt ≤ acqTime.toInt ∧ acqTime.toInt ≤ lower.toInt + threshold.toInt ∧
      lower.toInt + threshold.toInt < 2 ^ 63 := by
  obtain ⟨positive, nonneg, ordered, narrow⟩ := window
  rw [inWindow, Bool.and_eq_true, decide_eq_true_eq, decide_eq_true_eq, ge_iff_le, ge_iff_le,
    Int64.le_iff_toInt_le, Int64.le_iff_toInt_le, toInt_sub_of_nonneg nonneg positive] at passes
  have small := threshold.toInt_lt
  have sumNonneg : 0 ≤ lower.toInt + threshold.toInt := by omega
  obtain ⟨sum, exact⟩ | wrapped := toInt_add_cases sumNonneg
  · omega
  · omega

theorem toInt_min (first second : Int64) :
    (min first second).toInt = min first.toInt second.toInt := by
  have unfolded : min first second = if first ≤ second then first else second := rfl
  rw [unfolded, apply_ite Int64.toInt, Int.min_def]
  simp only [Int64.le_iff_toInt_le]

theorem toInt_max (first second : Int64) :
    (max first second).toInt = max first.toInt second.toInt := by
  have unfolded : max first second = if first ≤ second then second else first := rfl
  rw [unfolded, apply_ite Int64.toInt, Int.max_def]
  simp only [Int64.le_iff_toInt_le]

theorem Window.extend (window : Window threshold lower upper)
    (above : upper.toInt - threshold.toInt ≤ acqTime.toInt)
    (below : acqTime.toInt ≤ lower.toInt + threshold.toInt) :
    Window threshold (min lower acqTime) (max upper acqTime) := by
  obtain ⟨positive, nonneg, ordered, narrow⟩ := window
  constructor
  all_goals try rw [toInt_min]
  all_goals try rw [toInt_max]
  all_goals omega

theorem synchronized_le (threshold : Int64) (acqTimes : List (List Int64))
    (lower upper : Int64) : synchronized threshold acqTimes lower upper ≤ acqTimes.length := by
  induction acqTimes generalizing lower upper with
  | nil => exact Nat.le_refl _
  | cons timestamps rest ih =>
      rw [synchronized, List.length_cons]
      split
      next => exact Nat.succ_le_succ (ih _ _)
      next => exact Nat.le_succ_of_le (ih _ _)

/-- Two times are not farther apart than a bound. -/
def Near (bound first second : Int) : Prop :=
  first ≤ second + bound ∧ second ≤ first + bound

variable {acqTimes : List (List Int64)} {messages : List Message} {code : GxfResult}

theorem found_of_synchronized (window : Window threshold lower upper)
    (all : synchronized threshold acqTimes lower upper = acqTimes.length) :
    ∃ found : List Int64, List.Forall₂ (· ∈ ·) found acqTimes ∧
      (∀ acqTime ∈ found, upper.toInt - threshold.toInt ≤ acqTime.toInt ∧
        acqTime.toInt ≤ lower.toInt + threshold.toInt) ∧
      found.Pairwise (fun first second => Near threshold.toInt first.toInt second.toInt) ∧
      (acqTimes ≠ [] → lower.toInt + threshold.toInt < 2 ^ 63) := by
  induction acqTimes generalizing lower upper with
  | nil => exact ⟨[], .nil, fun _ member => (by cases member), List.Pairwise.nil,
      fun some => absurd rfl some⟩
  | cons timestamps rest ih =>
      rw [synchronized, List.length_cons] at all
      split at all
      next acqTime search =>
        have member := List.mem_of_find?_eq_some search
        obtain ⟨above, below, exact⟩ := window.found (List.find?_some search)
        obtain ⟨found, members, inside, near, -⟩ :=
          ih (window.extend above below) (Nat.succ.inj all)
        simp only [toInt_min, toInt_max] at inside
        refine ⟨acqTime :: found, .cons member members, ?_, ?_, fun _ => exact⟩
        · refine List.forall_mem_cons.mpr ⟨⟨above, below⟩, fun other among => ?_⟩
          have bounds := inside other among
          omega
        · refine List.pairwise_cons.mpr ⟨fun other among => ?_, near⟩
          have bounds := inside other among
          rw [Near]
          omega
      next =>
        have fewer := synchronized_le threshold rest lower upper
        omega

/-! ## What a tick reads -/

theorem later_spec (latest other : Int64) :
    (if other > latest then other else latest).toInt = max latest.toInt other.toInt := by
  rw [apply_ite Int64.toInt, Int.max_def]
  simp only [gt_iff_lt, Int64.lt_iff_toInt_lt]
  split <;> split <;> omega

theorem foldl_later (acqTimes : List (List Int64)) (start : Int64) :
    let latest := acqTimes.foldl (fun latest timestamps =>
      if timestamps.getLastD 0 > latest then timestamps.getLastD 0 else latest) start
    start.toInt ≤ latest.toInt ∧
      (∀ timestamps ∈ acqTimes, (timestamps.getLastD 0).toInt ≤ latest.toInt) ∧
      (latest.toInt = start.toInt ∨
        ∃ timestamps ∈ acqTimes, latest.toInt = (timestamps.getLastD 0).toInt) := by
  induction acqTimes generalizing start with
  | nil => exact ⟨Int.le_refl _, fun _ member => (by cases member), .inl rfl⟩
  | cons timestamps rest ih =>
      obtain ⟨above, all, attained⟩ :=
        ih (if timestamps.getLastD 0 > start then timestamps.getLastD 0 else start)
      rw [later_spec] at above attained
      simp only [List.foldl_cons]
      refine ⟨by omega, List.forall_mem_cons.mpr ⟨by omega, all⟩, ?_⟩
      obtain same | ⟨other, member, same⟩ := attained
      · rcases Int.le_total (timestamps.getLastD 0).toInt start.toInt with smaller | greater
        · exact .inl (by omega)
        · exact .inr ⟨timestamps, List.mem_cons_self .., by omega⟩
      · exact .inr ⟨other, List.mem_cons_of_mem _ member, same⟩

theorem readTimes_ok {times : List Int64}
    (read : readTimes messages = .ok times) : times = messages.map Message.acqtime := by
  induction messages generalizing times with
  | nil =>
      cases read
      rfl
  | cons message older ih =>
      rw [readTimes] at read
      split at read
      next => cases read
      next acqTime others stamps =>
        cases found : readTimes older with
        | error code =>
            rw [found] at read
            cases read
        | ok rest =>
            rw [found] at read
            cases read
            rw [List.map_cons, ih found, Message.acqtime, stamps]
            rfl

theorem readAll_ok {queues : List (List Message)} (read : readAll queues = .ok acqTimes) :
    acqTimes = queues.map fun queue => (queue.map Message.acqtime).reverse := by
  induction queues generalizing acqTimes with
  | nil =>
      cases read
      rfl
  | cons queue rest ih =>
      rw [readAll] at read
      split at read
      next => cases read
      next times here =>
        cases found : readAll rest with
        | error code =>
            rw [found] at read
            cases read
        | ok others =>
            rw [found] at read
            cases read
            rw [List.map_cons, ih found, readTimes_ok here, List.map_reverse]

theorem readTimes_error (failed : readTimes messages = .error code) :
    ∃ message ∈ messages, message.timestamps = [] := by
  induction messages with
  | nil => cases failed
  | cons message older ih =>
      rw [readTimes] at failed
      split at failed
      next bare => exact ⟨message, List.mem_cons_self .., bare⟩
      next =>
        cases found : readTimes older with
        | error other =>
            rw [found] at failed
            cases failed
            obtain ⟨earlier, member, bare⟩ := ih found
            exact ⟨earlier, List.mem_cons_of_mem _ member, bare⟩
        | ok rest =>
            rw [found] at failed
            cases failed

theorem readAll_error {queues : List (List Message)} (failed : readAll queues = .error code) :
    ∃ queue ∈ queues, ∃ message ∈ queue, message.timestamps = [] := by
  induction queues with
  | nil => cases failed
  | cons queue rest ih =>
      rw [readAll] at failed
      split at failed
      next here =>
        obtain ⟨message, member, bare⟩ := readTimes_error here
        exact ⟨queue, List.mem_cons_self .., message, List.mem_reverse.mp member, bare⟩
      next =>
        cases found : readAll rest with
        | error other =>
            rw [found] at failed
            cases failed
            obtain ⟨later, member, message⟩ := ih found
            exact ⟨later, List.mem_cons_of_mem _ member, message⟩
        | ok others =>
            rw [found] at failed
            cases failed

/-- The times of all inputs, from the newest to the oldest. -/
def timesOf (queues : Fin n → List Message) : List (List Int64) :=
  List.ofFn fun i => ((queues i).map Message.acqtime).reverse

/-- An input without a message, or a message without a timestamp. -/
def Unready (queues : Fin n → List Message) : Prop :=
  (∃ i, queues i = []) ∨ ∃ i, ∃ message ∈ queues i, message.timestamps = []

theorem tick_cases (threshold : Int64) (queues : Fin n → List Message) :
    (Unready queues ∧ ∃ code, tick threshold queues = { queues := queues, result := code }) ∨
      ((∀ i, queues i ≠ []) ∧
        tick threshold queues = pollAll threshold queues (timesOf queues)) := by
  rw [tick]
  split
  next empty => exact .inl ⟨.inl empty, _, rfl⟩
  next ready =>
    split
    next code failed =>
      obtain ⟨queue, among, message, member, bare⟩ := readAll_error failed
      obtain ⟨i, rfl⟩ := List.mem_ofFn.mp among
      exact .inl ⟨.inr ⟨i, message, member, bare⟩, _, rfl⟩
    next acqTimes read =>
      have times : acqTimes = timesOf queues := by
        rw [readAll_ok read, List.map_ofFn]
        rfl
      exact .inr ⟨not_exists.mp ready, by rw [times]⟩

/-! ## What a tick sends -/

/-- A message too old for the latest time. -/
def stale (threshold latest : Int64) (message : Message) : Bool :=
  message.acqtime < latest - threshold

/-- Messages wait in the order of their times. -/
def InOrder (queue : List Message) : Prop :=
  queue.Pairwise fun older newer => older.time ≤ newer.time

instance (queue : List Message) : Decidable (InOrder queue) :=
  inferInstanceAs (Decidable (List.Pairwise _ _))

/-- The first message is taken if there is one and it may be sent. -/
def takeFresh (maySend : Message → Bool) : List Message → List Message × Option Message
  | [] => ([], none)
  | message :: rest => if maySend message then (rest, some message) else (message :: rest, none)

variable {canSend : Bool} {queue : List Message}

theorem pollInput_cons (newer : List Int64) (waiting : List Message) :
    pollInput threshold latest canSend (acqTime :: newer) waiting =
      if acqTime < latest - threshold then
        { pollInput threshold latest canSend newer waiting.tail with
          dropped := waiting.head?.toList ++
            (pollInput threshold latest canSend newer waiting.tail).dropped }
      else if canSend && acqTime ≤ latest + threshold then
        match waiting with
        | [] => { queue := [], corrupted := true }
        | message :: rest => { queue := rest, published := some message }
      else pollInput threshold latest canSend newer waiting := by
  rw [pollInput.eq_def]

theorem pollInput_keep (fresh : ∀ message ∈ queue, stale threshold latest message = false)
    (late : ∀ message ∈ queue, (canSend && message.acqtime ≤ latest + threshold) = false)
    (waiting : List Message) :
    pollInput threshold latest canSend (queue.map Message.acqtime) waiting =
      { queue := waiting } := by
  induction queue with
  | nil => rfl
  | cons message rest ih =>
      have here := fresh message (List.mem_cons_self ..)
      have refused := late message (List.mem_cons_self ..)
      rw [stale, decide_eq_false_iff_not] at here
      rw [List.map_cons, pollInput_cons, if_neg here, refused]
      exact ih (fun other member => fresh other (List.mem_cons_of_mem _ member))
        fun other member => late other (List.mem_cons_of_mem _ member)

theorem pollInput_eq (inOrder : InOrder queue) :
    pollInput threshold latest canSend (queue.map Message.acqtime) queue =
      let taken := takeFresh (fun message => canSend && message.acqtime ≤ latest + threshold)
        (queue.dropWhile (stale threshold latest))
      { queue := taken.1
        dropped := queue.takeWhile (stale threshold latest)
        published := taken.2 } := by
  induction queue with
  | nil => rfl
  | cons message rest ih =>
      obtain ⟨first, later⟩ := List.pairwise_cons.mp inOrder
      by_cases old : stale threshold latest message
      · have before : message.acqtime < latest - threshold := of_decide_eq_true old
        rw [List.map_cons, pollInput_cons, if_pos before, List.dropWhile_cons_of_pos old,
          List.takeWhile_cons_of_pos old]
        simp only [List.tail_cons, List.head?_cons, Option.toList_some, ih later]
        rfl
      · have notBefore : ¬message.acqtime < latest - threshold :=
          fun before => old (decide_eq_true before)
        rw [List.dropWhile_cons_of_neg old, List.takeWhile_cons_of_neg old]
        by_cases send : canSend && message.acqtime ≤ latest + threshold
        · rw [List.map_cons, pollInput_cons, if_neg notBefore, if_pos send, takeFresh, if_pos send]
        · rw [takeFresh, if_neg send]
          refine pollInput_keep ?_ ?_ (message :: rest)
          · refine List.forall_mem_cons.mpr ⟨Bool.eq_false_iff.mpr old, fun other member => ?_⟩
            rw [stale, decide_eq_false_iff_not]
            rw [Int64.lt_iff_toInt_lt] at notBefore ⊢
            have after : message.acqtime.toInt ≤ other.acqtime.toInt := first other member
            omega
          · refine List.forall_mem_cons.mpr ⟨Bool.eq_false_iff.mpr send, fun other member => ?_⟩
            rw [Bool.and_eq_true, decide_eq_true_eq, not_and] at send
            rw [Bool.and_eq_false_imp]
            intro may
            have beyond := send may
            rw [decide_eq_false_iff_not]
            rw [Int64.le_iff_toInt_le] at beyond ⊢
            have after : message.acqtime.toInt ≤ other.acqtime.toInt := first other member
            omega

theorem stale_iff (nonneg : 0 ≤ latest.toInt) (positive : 0 ≤ threshold.toInt) (message : Message) :
    stale threshold latest message ↔ message.time < latest.toInt - threshold.toInt := by
  rw [stale, decide_eq_true_eq, Int64.lt_iff_toInt_lt, toInt_sub_of_nonneg nonneg positive]
  rfl

/-- The latest time is that of the oldest message of some input, or 0, and no input is
behind it. -/
structure Latest (queues : Fin n → List Message) (latest : Int64) : Prop where
  nonneg : 0 ≤ latest.toInt
  bound : ∀ i message, (queues i).head? = some message → message.time ≤ latest.toInt
  attained : latest.toInt = 0 ∨
    ∃ i message, (queues i).head? = some message ∧ latest.toInt = message.time

/-- The messages found on all inputs, near each other and near the latest time. -/
structure Found (threshold latest : Int64) (queues : Fin n → List Message)
    (found : Fin n → Message) : Prop where
  member : ∀ i, found i ∈ queues i
  inside : ∀ i, Near threshold.toInt (found i).time latest.toInt
  near : ∀ i j, Near threshold.toInt (found i).time (found j).time
  exact : ∀ _ : Fin n, latest.toInt + threshold.toInt < 2 ^ 63

variable {queues : Fin n → List Message}

theorem getLastD_times (queue : List Message) :
    ((queue.map Message.acqtime).reverse.getLastD 0).toInt =
      (queue.head?.map Message.time).getD 0 := by
  cases queue with
  | nil => rfl
  | cons message rest =>
      rw [List.map_cons, List.reverse_cons, List.getLastD_concat]
      rfl

theorem latest_latestOf (ready : ∀ i, queues i ≠ []) :
    Latest queues (latestOf (timesOf queues)) := by
  obtain ⟨nonneg, bound, attained⟩ := foldl_later (timesOf queues) 0
  refine ⟨nonneg, fun i message oldest => ?_, ?_⟩
  · have here := bound _ (List.mem_ofFn.mpr ⟨i, rfl⟩)
    rwa [getLastD_times, oldest] at here
  · refine attained.imp id ?_
    rintro ⟨timestamps, member, same⟩
    obtain ⟨i, rfl⟩ := List.mem_ofFn.mp member
    obtain ⟨message, rest, waiting⟩ := List.exists_cons_of_ne_nil (ready i)
    rw [getLastD_times, waiting] at same
    exact ⟨i, message, by rw [waiting]; rfl, same⟩

theorem found_of_canSend (positive : 0 ≤ threshold.toInt) (nonneg : 0 ≤ latest.toInt)
    (all : (synchronized threshold (timesOf queues) latest latest % 2 ^ 32 == n) = true) :
    ∃ found, Found threshold latest queues found := by
  have length : (timesOf queues).length = n := List.length_ofFn
  have atMost := synchronized_le threshold (timesOf queues) latest latest
  have counted : synchronized threshold (timesOf queues) latest latest =
      (timesOf queues).length := by
    have reduced := Nat.mod_le (synchronized threshold (timesOf queues) latest latest) (2 ^ 32)
    rw [beq_iff_eq] at all
    omega
  obtain ⟨found, members, inside, near, exact⟩ :=
    found_of_synchronized ⟨positive, nonneg, Int.le_refl _, by omega⟩ counted
  have size : found.length = n := members.length_eq.trans length
  have pick : ∀ i : Fin n, ∃ message ∈ queues i, message.acqtime = found.get ⟨i, by omega⟩ := by
    intro i
    have member := members.get (i := i) (by omega) (by omega)
    simp only [timesOf, List.get_ofFn, List.mem_reverse, List.mem_map] at member
    exact member
  choose chosen chosenMember chosenTime using pick
  have time : ∀ i, (chosen i).time = (found.get ⟨i, by omega⟩).toInt :=
    fun i => congrArg Int64.toInt (chosenTime i)
  refine ⟨chosen, chosenMember, fun i => ?_, fun i j => ?_, fun i => exact ?_⟩
  · have bounds := inside _ (List.get_mem found ⟨i, by omega⟩)
    rw [Near, time i]
    omega
  · rw [time i, time j]
    rcases lt_trichotomy i j with before | same | after
    · exact List.pairwise_iff_getElem.mp near i j _ _ before
    · subst same
      rw [Near]
      omega
    · exact (List.pairwise_iff_getElem.mp near j i _ _ after).symm
  · intro empty
    rw [empty] at length
    have positiveCount := i.pos
    exact absurd length (by rw [List.length_nil]; omega)

/-- The messages sent: on every input the first that is not stale, near the latest time. -/
structure Sent (threshold latest : Int64) (queues : Fin n → List Message)
    (sent : Fin n → Message) (rest : Fin n → List Message) : Prop where
  fresh : ∀ i, (queues i).dropWhile (stale threshold latest) = sent i :: rest i
  inside : ∀ i, Near threshold.toInt (sent i).time latest.toInt

theorem Sent.member {sent : Fin n → Message} {rest : Fin n → List Message}
    (sends : Sent threshold latest queues sent rest) (i : Fin n) : sent i ∈ queues i := by
  apply (List.dropWhile_sublist _).subset
  rw [sends.fresh i]
  exact List.mem_cons_self ..

theorem mem_dropWhile {message : Message} (member : message ∈ queue)
    (fresh : stale threshold latest message = false) :
    message ∈ queue.dropWhile (stale threshold latest) := by
  rw [← @List.takeWhile_append_dropWhile _ (stale threshold latest) queue] at member
  rcases List.mem_append.mp member with before | after
  · exact absurd (List.mem_takeWhile_imp before) (by rw [fresh]; exact Bool.false_ne_true)
  · exact after

theorem sent_of_found {found : Fin n → Message} (positive : 0 ≤ threshold.toInt)
    (nonneg : 0 ≤ latest.toInt) (inOrder : ∀ i, InOrder (queues i))
    (finds : Found threshold latest queues found) (i : Fin n) :
    ∃ message rest, (queues i).dropWhile (stale threshold latest) = message :: rest ∧
      Near threshold.toInt message.time latest.toInt ∧
      message.acqtime ≤ latest + threshold := by
  have inside := finds.inside i
  rw [Near] at inside
  have notStale : stale threshold latest (found i) = false := by
    rw [Bool.eq_false_iff, ne_eq, stale_iff nonneg positive]
    omega
  have present := mem_dropWhile (finds.member i) notStale
  obtain ⟨message, rest, fresh⟩ := List.exists_cons_of_ne_nil (List.ne_nil_of_mem present)
  have sorted : InOrder (message :: rest) := by
    rw [← fresh]
    exact (inOrder i).sublist (List.dropWhile_sublist _)
  have first : message.time ≤ (found i).time := by
    rw [fresh] at present
    rcases List.mem_cons.mp present with same | later
    · rw [same]
    · exact (List.pairwise_cons.mp sorted).1 _ later
  have headFresh : ¬stale threshold latest message := by
    have head := List.head?_dropWhile_not (stale threshold latest) (queues i)
    rw [fresh] at head
    exact Bool.eq_false_iff.mp (by simpa using head)
  rw [stale_iff nonneg positive] at headFresh
  have sum : (latest + threshold).toInt = latest.toInt + threshold.toInt := by
    have exact := finds.exact i
    rw [Int64.toInt_add]
    exact Int.bmod_eq_of_le (by omega) (by omega)
  refine ⟨message, rest, fresh, ⟨by omega, by omega⟩, ?_⟩
  rw [Int64.le_iff_toInt_le, sum]
  have here : message.acqtime.toInt ≤ (found i).time := first
  omega

theorem pollAll_eq (inOrder : ∀ i, InOrder (queues i)) : pollAll threshold queues (timesOf queues) =
      let latest := latestOf (timesOf queues)
      let canSend := synchronized threshold (timesOf queues) latest latest % 2 ^ 32 == n
      let taken i := takeFresh (fun message => canSend && message.acqtime ≤ latest + threshold)
        ((queues i).dropWhile (stale threshold latest))
      { queues := fun i => (taken i).1
        dropped := fun i => (queues i).takeWhile (stale threshold latest)
        published := fun i => (taken i).2 } := by
  have times : ∀ i : Fin n,
      ((timesOf queues).getD i []).reverse = (queues i).map Message.acqtime := by
    intro i
    have inside : i.val < (timesOf queues).length := by
      rw [timesOf, List.length_ofFn]
      exact i.isLt
    rw [List.getD_eq_getElem _ _ inside]
    simp only [timesOf, List.getElem_ofFn, List.reverse_reverse]
  simp only [pollAll, times, pollInput_eq (inOrder _)]
  simp

theorem tick_spec (positive : 0 ≤ threshold.toInt) (inOrder : ∀ i, InOrder (queues i)) :
    (Unready queues ∧ ∃ code, tick threshold queues = { queues := queues, result := code }) ∨
      ∃ latest, (∀ i, queues i ≠ []) ∧ Latest queues latest ∧
        (synchronized threshold (timesOf queues) latest latest % 2 ^ 32 ≠ n ∧
          tick threshold queues =
            { queues := fun i => (queues i).dropWhile (stale threshold latest)
              dropped := fun i => (queues i).takeWhile (stale threshold latest) } ∨
          ∃ found sent rest, Found threshold latest queues found ∧
            Sent threshold latest queues sent rest ∧
            tick threshold queues =
              { queues := rest
                dropped := fun i => (queues i).takeWhile (stale threshold latest)
                published := fun i => some (sent i) }) := by
  obtain unchanged | ⟨ready, polls⟩ := tick_cases threshold queues
  · exact .inl unchanged
  · have latest := latest_latestOf ready
    refine .inr ⟨latestOf (timesOf queues), ready, latest, ?_⟩
    rw [polls, pollAll_eq inOrder]
    by_cases all : synchronized threshold (timesOf queues) (latestOf (timesOf queues))
        (latestOf (timesOf queues)) % 2 ^ 32 == n
    · obtain ⟨found, finds⟩ := found_of_canSend positive latest.nonneg all
      choose sent rest fresh inside below using sent_of_found positive latest.nonneg inOrder finds
      refine .inr ⟨found, sent, rest, finds, ⟨fresh, inside⟩, ?_⟩
      have taken : ∀ i, takeFresh (fun message =>
          message.acqtime ≤ latestOf (timesOf queues) + threshold)
          ((queues i).dropWhile (stale threshold (latestOf (timesOf queues)))) =
            (rest i, some (sent i)) := by
        intro i
        rw [fresh i, takeFresh, if_pos (decide_eq_true (below i))]
      simp only [all, Bool.true_and, taken]
    · have kept : ∀ messages : List Message,
          takeFresh (fun _ => false) messages = (messages, none) := by
        intro messages
        cases messages <;> rfl
      refine .inl ⟨fun same => all (beq_iff_eq.mpr same), ?_⟩
      rw [Bool.not_eq_true] at all
      simp only [all, Bool.false_and, kept]

/-- The times of an input are farther apart than a gap. -/
def Spaced (gap : Int) (queue : List Message) : Prop :=
  queue.Pairwise fun older newer => older.time + gap < newer.time

instance (gap : Int) (queue : List Message) : Decidable (Spaced gap queue) :=
  inferInstanceAs (Decidable (List.Pairwise _ _))

theorem Spaced.eq_of_near {gap : Int} {first second : Message} (spaced : Spaced gap queue)
    (firstMember : first ∈ queue) (secondMember : second ∈ queue)
    (near : Near gap first.time second.time) : first = second := by
  obtain ⟨i, inside, rfl⟩ := List.getElem_of_mem firstMember
  obtain ⟨j, within, rfl⟩ := List.getElem_of_mem secondMember
  have apart := List.pairwise_iff_getElem.mp spaced
  rw [Near] at near
  rcases Nat.lt_trichotomy i j with before | same | after
  · have less := apart i j inside within before
    omega
  · subst same
    rfl
  · have less := apart j i within inside after
    omega

/-- A tick publishes nothing, or one message on every output.  Their times are at most two
thresholds apart, and at most one where every input keeps a gap of two thresholds. -/
theorem tick_sound (positive : 0 ≤ threshold.toInt) (inOrder : ∀ i, InOrder (queues i)) :
    (∀ i, (tick threshold queues).published i = none) ∨ ∃ sent : Fin n → Message,
        (∀ i, (tick threshold queues).published i = some (sent i)) ∧
        (∀ i j, Near (2 * threshold.toInt) (sent i).time (sent j).time) ∧
        ((∀ i, Spaced (2 * threshold.toInt) (queues i)) →
          ∀ i j, Near threshold.toInt (sent i).time (sent j).time) := by
  obtain ⟨-, code, unchanged⟩ | ⟨latest, -, -,
    ⟨-, drops⟩ | ⟨found, sent, rest, finds, sends, ticked⟩⟩ :=
    tick_spec positive inOrder
  · exact .inl fun i => by rw [unchanged]
  · exact .inl fun i => by rw [drops]
  · refine .inr ⟨sent, fun i => by rw [ticked], fun i j => ?_, fun spaced i j => ?_⟩
    · have first := sends.inside i
      have second := sends.inside j
      rw [Near] at first second ⊢
      omega
    · have same : ∀ k, sent k = found k := by
        intro k
        refine (spaced k).eq_of_near (sends.member k) (finds.member k) ?_
        have first := sends.inside k
        have second := finds.inside k
        rw [Near] at first second ⊢
        omega
      rw [same i, same j]
      exact finds.near i j

theorem synchronized_eq_length (window : Window threshold lower upper)
    (exact : upper.toInt + threshold.toInt < 2 ^ 63)
    (oldest : ∀ timestamps ∈ acqTimes, ∃ acqTime ∈ timestamps,
      upper.toInt - threshold.toInt ≤ acqTime.toInt ∧ acqTime.toInt ≤ upper.toInt ∧
        ∀ other ∈ timestamps, Near (2 * threshold.toInt) other.toInt acqTime.toInt →
          other = acqTime) :
    synchronized threshold acqTimes lower upper = acqTimes.length := by
  induction acqTimes generalizing lower upper with
  | nil => rfl
  | cons timestamps rest ih =>
      obtain ⟨⟨acqTime, member, above, below, only⟩, others⟩ := List.forall_mem_cons.mp oldest
      have positive := window.positive
      have nonneg := window.nonneg
      have ordered := window.ordered
      have narrow := window.narrow
      have sum : (lower + threshold).toInt = lower.toInt + threshold.toInt := by
        rw [Int64.toInt_add]
        exact Int.bmod_eq_of_le (by omega) (by omega)
      have passes : inWindow threshold lower upper acqTime := by
        rw [inWindow, Bool.and_eq_true, decide_eq_true_eq, decide_eq_true_eq, ge_iff_le,
          ge_iff_le, Int64.le_iff_toInt_le, Int64.le_iff_toInt_le,
          toInt_sub_of_nonneg window.nonneg positive, sum]
        omega
      have search : timestamps.find? (inWindow threshold lower upper) = some acqTime := by
        cases found : timestamps.find? (inWindow threshold lower upper) with
        | none => exact absurd passes (List.find?_eq_none.mp found acqTime member)
        | some other =>
            obtain ⟨atLeast, atMost, -⟩ := window.found (List.find?_some found)
            rw [only other (List.mem_of_find?_eq_some found) ⟨by omega, by omega⟩]
      have same : (max upper acqTime).toInt = upper.toInt := by
        rw [toInt_max]
        omega
      rw [synchronized, search, List.length_cons]
      refine congrArg Nat.succ (ih (window.extend above (by omega)) (by omega) ?_)
      rw [same]
      exact others

theorem tick_progress (positive : 0 ≤ threshold.toInt) (ready : ¬Unready queues)
    (spaced : ∀ i, Spaced (2 * threshold.toInt) (queues i))
    (exact : ∀ i, ∀ message ∈ queues i, message.time + threshold.toInt < 2 ^ 63)
    (some : Fin n) (few : n < 2 ^ 32) :
    ∃ i, ((tick threshold queues).queues i).length < (queues i).length := by
  have inOrder : ∀ i, InOrder (queues i) := fun i => (spaced i).imp fun gap => by omega
  obtain ⟨unready, -⟩ | ⟨latest, waiting, isLatest, ⟨notAll, drops⟩ |
      ⟨-, sent, rest, -, sends, ticked⟩⟩ := tick_spec positive inOrder
  · exact absurd unready ready
  · by_contra stuck
    refine notAll ?_
    have heads : ∀ i message, (queues i).head? = Option.some message →
        latest.toInt - threshold.toInt ≤ message.time := by
      intro i message head
      by_contra isStale
      obtain ⟨rest, queue⟩ := List.head?_eq_some_iff.mp head
      have old := (stale_iff isLatest.nonneg positive message).mpr (Int.not_le.mp isStale)
      refine stuck ⟨i, ?_⟩
      simp only [drops, queue, List.dropWhile_cons_of_pos old, List.length_cons]
      exact Nat.lt_succ_of_le (List.dropWhile_sublist _).length_le
    have attained : latest.toInt + threshold.toInt < 2 ^ 63 := by
      obtain zero | ⟨i, message, head, same⟩ := isLatest.attained
      · have bound := threshold.toInt_lt
        omega
      · rw [same]
        exact exact i message (List.mem_of_mem_head? head)
    have counted : synchronized threshold (timesOf queues) latest latest = n := by
      have length : (timesOf queues).length = n := List.length_ofFn
      rw [synchronized_eq_length
        ⟨positive, isLatest.nonneg, Int.le_refl _, by omega⟩ attained ?_, length]
      intro timestamps member
      obtain ⟨i, rfl⟩ := List.mem_ofFn.mp member
      obtain ⟨message, rest, queue⟩ := List.exists_cons_of_ne_nil (waiting i)
      have head : (queues i).head? = Option.some message := by rw [queue]; rfl
      have here : message ∈ queues i := List.mem_of_mem_head? head
      refine ⟨message.acqtime, List.mem_reverse.mpr (List.mem_map_of_mem here),
        heads i message head, isLatest.bound i message head, ?_⟩
      intro other among near
      obtain ⟨later, isLater, rfl⟩ := List.mem_map.mp (List.mem_reverse.mp among)
      rw [(spaced i).eq_of_near isLater here near]
    rw [counted, Nat.mod_eq_of_lt few]
  · refine ⟨some, ?_⟩
    have shorter := (@List.dropWhile_sublist _ (queues some) (stale threshold latest)).length_le
    rw [sends.fresh some, List.length_cons] at shorter
    rw [ticked]
    exact shorter

/-- A message with one timestamp. -/
def stamped (eid : Uid) (acqtime : Int64) : Message := ⟨eid, [acqtime]⟩

/-- Three inputs, the oldest messages of which are near each other, but for one that a later
message stands in for when the decision is made. -/
def crowded (i : Fin 3) : List Message :=
  match i with
  | 0 => [stamped 1 100]
  | 1 => [stamped 2 90, stamped 3 105]
  | 2 => [stamped 4 50, stamped 5 108]

/-- With a threshold of 10 the messages of times 100, 90 and 108 are published together. -/
theorem tick_unsound :
    ¬∀ (n : Nat) (threshold : Int64) (queues : Fin n → List Message), 0 ≤ threshold.toInt →
      (∀ i, InOrder (queues i)) →
      (∀ i, (tick threshold queues).published i = none) ∨
        ∃ sent : Fin n → Message, (∀ i, (tick threshold queues).published i = some (sent i)) ∧
          ∀ i j, Near threshold.toInt (sent i).time (sent j).time := by
  intro all
  have inOrder : ∀ i, InOrder (crowded i) := by decide
  have second : (tick 10 crowded).published 1 = some (stamped 2 90) := by decide
  have third : (tick 10 crowded).published 2 = some (stamped 5 108) := by decide
  obtain none | ⟨sent, published, near⟩ := all 3 10 crowded (by decide) inOrder
  · rw [none 1] at second
    cases second
  · rw [published 1] at second
    rw [published 2] at third
    have apart := near 1 2
    rw [Option.some.inj second, Option.some.inj third] at apart
    exact absurd apart.2 (by decide)

/-- Two inputs with a gap of more than two thresholds. -/
def aligned (i : Fin 2) : List Message :=
  match i with
  | 0 => [stamped 1 100, stamped 2 200]
  | 1 => [stamped 3 20, stamped 4 105]

theorem tick_sound_aligned :
    ∃ sent : Fin 2 → Message, (∀ i, (tick 10 aligned).published i = some (sent i)) ∧
      ∀ i j, Near 10 (sent i).time (sent j).time := by
  have inOrder : ∀ i, InOrder (aligned i) := by decide
  have spaced : ∀ i, Spaced (2 * (10 : Int64).toInt) (aligned i) := by decide
  have positive : 0 ≤ (10 : Int64).toInt := by decide
  obtain none | ⟨sent, published, -, near⟩ := tick_sound positive inOrder
  · exact absurd (none 0) (by decide)
  · exact ⟨sent, published, near spaced⟩

end Gxf.Std.Synchronization
