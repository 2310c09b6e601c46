import Mathlib.Data.Prod.Lex
import Mathlib.Data.Finset.Card
import Gxf.Core.Result
import Gxf.Lib.PriorityQueue
import Gxf.Lib.Run
import Gxf.Lib.SignedWord

/-!
# The timed job list

Jobs wait in a priority queue until their target time, move to a list of pending jobs
when they are due, and leave from there.  A lookup set refuses jobs that are still
waiting or pending.  Times are computed in signed words.
-/

namespace Gxf.Std

open Gxf.Core Gxf.Lib

namespace TimedJobList

/-- A job with additional information. -/
structure Item (Job : Type) where
  job : Job
  targetTime : Int
  slack : Int
  priority : Int
  deriving DecidableEq, Repr

variable {Job : Type}

/-- A small tolerance when executing jobs. -/
def kTimeFudge : Int := 1

/-- The sum of target time and slack, in a word. -/
def Item.deadline (item : Item Job) : Int := int64 (item.targetTime + item.slack)

/-- `ItemPriorityCmp`: whether `a` comes after `b`. -/
def itemPriorityCmp (a b : Item Job) : Bool :=
  let aTime := a.deadline
  let bTime := b.deadline
  if int64 (int64 (aTime - bTime)).natAbs < kTimeFudge ∧ a.priority ≠ b.priority then
    a.priority < b.priority
  else aTime > bTime

/-- Earlier deadlines come first, and then higher priorities. -/
def Item.urgency (item : Item Job) : Int ×ₗ Int := toLex (-item.deadline, item.priority)

end TimedJobList

open TimedJobList

/-- The fields of the list, over some implementation of its priority queue. -/
structure TimedJobList (Job : Type) (heap : PriorityQueue (Item Job) itemPriorityCmp) where
  isRunning : Bool
  queue : heap.Queue
  items : Finset Job
  pending : List (Item Job)

namespace TimedJobList

variable {Job : Type}

/-- No two deadlines are `2^63` apart.  The absolute value of such a difference is negative. -/
def Comparable (items : Multiset (Item Job)) : Prop :=
  ∀ left ∈ items, ∀ right ∈ items, left.deadline - right.deadline ≠ 9223372036854775808

theorem itemPriorityCmp_iff {left right : Item Job}
    (above : left.deadline - right.deadline ≠ 9223372036854775808)
    (below : right.deadline - left.deadline ≠ 9223372036854775808) :
    itemPriorityCmp left right = true ↔ left.urgency < right.urgency := by
  have fudge : kTimeFudge = 1 := rfl
  obtain ⟨leftLow, leftHigh⟩ := inInt64_int64 (left.targetTime + left.slack)
  obtain ⟨rightLow, rightHigh⟩ := inInt64_int64 (right.targetTime + right.slack)
  rw [← Item.deadline] at leftLow leftHigh rightLow rightHigh
  have close : int64 (int64 (left.deadline - right.deadline)).natAbs < kTimeFudge ↔
      left.deadline = right.deadline := by
    simp only [int64, fudge]
    omega
  rw [itemPriorityCmp, Item.urgency, Item.urgency, Prod.Lex.toLex_lt_toLex]
  dsimp only
  split
  next tie =>
    rw [decide_eq_true_eq]
    omega
  next distinct =>
    rw [decide_eq_true_eq]
    omega

/-- Jobs whose deadlines can be compared are ordered by urgency. -/
theorem Comparable.orders {items : Multiset (Item Job)} (comparable : Comparable items) :
    Orders itemPriorityCmp items := by
  have compare (left : Item Job) (inLeft : left ∈ items) (right : Item Job)
      (inRight : right ∈ items) :=
    itemPriorityCmp_iff (comparable left inLeft right inRight)
    (comparable right inRight left inLeft)
  constructor
  · intro item member
    rw [← Bool.not_eq_true, compare item member item member]
    exact lt_irrefl _
  · intro first inFirst second inSecond third inThird
    rw [compare first inFirst second inSecond, compare second inSecond third inThird,
      compare first inFirst third inThird]
    exact lt_trans
  · intro first inFirst second inSecond third inThird
    rw [compare first inFirst second inSecond, compare second inSecond third inThird,
      compare first inFirst third inThird]
    exact fun below => (lt_or_ge _ _).imp_right fun le => lt_of_le_of_lt le below

variable [DecidableEq Job] {heap : PriorityQueue (Item Job) itemPriorityCmp}

/-- A list without jobs. -/
def create (heap : PriorityQueue (Item Job) itemPriorityCmp) : TimedJobList Job heap :=
  ⟨false, heap.empty, ∅, []⟩

/-- What a call reports. -/
inductive Answer (Job : Type) where
  | done
  | inserted (accepted : Bool)
  | handedOut (job : Job)
  | waits (duration : Option Int)
  | stopped
  | failed (code : GxfResult)
  deriving DecidableEq, Repr

/-- `insert(job, target_time, slack, priority)`. -/
def insert (list : TimedJobList Job heap) (item : Item Job) : TimedJobList Job heap × Bool :=
  if item.job ∈ list.items then (list, false)
  else
    ({ list with
        items := Insert.insert item.job list.items
        queue := heap.push list.queue item }, true)

/-- The inner loop of `waitForJob`: due jobs become pending.  The second result is the
time to wait for the next job. -/
def moveDue (now : Int) : (fuel : Nat) → TimedJobList Job heap → TimedJobList Job heap × Int
  | 0, list => (list, 0)
  | fuel + 1, list =>
      match heap.top list.queue with
      | none => (list, 0)
      | some topItem =>
          let eta := int64 (topItem.targetTime - now)
          if eta ≤ kTimeFudge then
            moveDue now fuel { list with
              pending := list.pending ++ [topItem]
              queue := heap.pop list.queue }
          else (list, max (eta - kTimeFudge) 0)

/-- The first pending job is handed out and leaves the lookup set. -/
def takePending (list : TimedJobList Job heap) (pendingJob : Item Job)
    (rest : List (Item Job)) : TimedJobList Job heap :=
  { list with pending := rest, items := list.items.erase pendingJob.job }

/-- One turn of the loop of `waitForJob`, between two waits, with the clock at `now`. -/
def waitForJob (list : TimedJobList Job heap) (now : Int) : TimedJobList Job heap × Answer Job :=
  if !list.isRunning then (list, .stopped)
  else
    let (list, waitDuration) := list.moveDue now (heap.contents list.queue).card
    match list.pending with
    | pendingJob :: rest => (list.takePending pendingJob rest, .handedOut pendingJob.job)
    | [] => (list, .waits (if waitDuration > 0 then some waitDuration else none))

/-- `popFront()`. -/
def popFront (list : TimedJobList Job heap) : TimedJobList Job heap × Except GxfResult Job :=
  match list.pending with
  | pendingJob :: rest => ({ list with pending := rest }, .ok pendingJob.job)
  | [] =>
      match heap.top list.queue with
      | none => (list, .error .GXF_FAILURE)
      | some result =>
          ({ list with
              queue := heap.pop list.queue
              items := list.items.erase result.job }, .ok result.job)

/-- `size()`. -/
def size (list : TimedJobList Job heap) : Nat := list.items.card

/-- `empty()`. -/
def empty (list : TimedJobList Job heap) : Bool := heap.isEmpty list.queue && list.pending.isEmpty

/-- The calls on a list. -/
inductive Op (Job : Type) where
  | start
  | stop
  | insert (item : Item Job)
  | waitForJob (now : Int)
  | popFront
  deriving DecidableEq, Repr

def system : System (TimedJobList Job heap) (Op Job) (Answer Job) where
  step list
    | .start => ({ list with isRunning := true }, .done)
    | .stop => ({ list with isRunning := false }, .done)
    | .insert item => ((list.insert item).1, .inserted (list.insert item).2)
    | .waitForJob now => list.waitForJob now
    | .popFront =>
        (list.popFront.1,
          match list.popFront.2 with
          | .ok job => .handedOut job
          | .error code => .failed code)

/-! ## Waiting jobs -/

/-- The jobs in the queue or in the pending list. -/
def waiting (list : TimedJobList Job heap) : Multiset Job :=
  (heap.contents list.queue).map Item.job + (list.pending.map Item.job : List Job)

omit [DecidableEq Job] in
theorem waiting_create : (create heap).waiting = 0 := by
  simp [waiting, create, heap.contents_empty]

omit [DecidableEq Job] in
theorem empty_iff_waiting (list : TimedJobList Job heap) :
    list.empty = true ↔ list.waiting = 0 := by
  rw [empty, waiting, Bool.and_eq_true, heap.isEmpty_iff, List.isEmpty_iff,
    ← Multiset.card_eq_zero, ← Multiset.card_eq_zero, Multiset.card_add, Multiset.card_map,
    Multiset.coe_card, List.length_map, Nat.add_eq_zero_iff, List.length_eq_zero_iff]

/-- The lookup set has exactly the waiting jobs, each of which is present once. -/
structure Consistent (list : TimedJobList Job heap) : Prop where
  items_eq : ∀ job, job ∈ list.items ↔ job ∈ list.waiting
  nodup : list.waiting.Nodup

namespace Consistent

variable {list : TimedJobList Job heap}

omit [DecidableEq Job] in
theorem create : Consistent (create heap) := by
  refine ⟨fun job => ?_, by rw [waiting_create]; exact Multiset.nodup_zero⟩
  rw [waiting_create]
  exact iff_of_false (Finset.notMem_empty job) (Multiset.notMem_zero job)

variable {other : TimedJobList Job heap}

section

variable (consistent : Consistent list)
include consistent

omit [DecidableEq Job] in
theorem congr (sameItems : other.items = list.items) (sameWaiting : other.waiting = list.waiting) :
    Consistent other := by
  refine ⟨fun job => ?_, ?_⟩
  · rw [sameItems, sameWaiting]
    exact consistent.items_eq job
  · rw [sameWaiting]
    exact consistent.nodup

theorem leave {job : Job} (leftItems : other.items = list.items.erase job)
    (leftWaiting : job ::ₘ other.waiting = list.waiting) :
    Consistent other ∧ job ∉ other.waiting := by
  have nodup := consistent.nodup
  rw [← leftWaiting, Multiset.nodup_cons] at nodup
  refine ⟨⟨fun candidate => ?_, nodup.2⟩, nodup.1⟩
  rw [leftItems, Finset.mem_erase, consistent.items_eq, ← leftWaiting, Multiset.mem_cons]
  constructor
  · rintro ⟨different, same | stays⟩
    · exact absurd same different
    · exact stays
  · intro stays
    refine ⟨?_, .inr stays⟩
    rintro rfl
    exact nodup.1 stays

theorem takePending {pendingJob : Item Job}
    {rest : List (Item Job)} (isPending : list.pending = pendingJob :: rest) :
    Consistent (list.takePending pendingJob rest) ∧
      pendingJob.job ∉ (list.takePending pendingJob rest).waiting := by
  apply consistent.leave rfl
  rw [waiting, waiting, isPending, List.map_cons, ← Multiset.cons_coe, Multiset.add_cons]
  rfl

theorem insert (item : Item Job) : Consistent (list.insert item).1 := by
  rw [TimedJobList.insert]
  split
  next => exact consistent
  next new =>
    have joined : waiting { list with
        items := Insert.insert item.job list.items
        queue := heap.push list.queue item } = item.job ::ₘ list.waiting := by
      simp [waiting, heap.contents_push]
    refine ⟨fun job => ?_, ?_⟩
    · rw [joined, Multiset.mem_cons, Finset.mem_insert, consistent.items_eq]
    · rw [joined, Multiset.nodup_cons, ← consistent.items_eq]
      exact ⟨new, consistent.nodup⟩

theorem insert_refused_iff (item : Item Job) :
    (list.insert item).2 = false ↔ item.job ∈ list.waiting := by
  rw [← consistent.items_eq, TimedJobList.insert]
  split
  next queued => exact iff_of_true rfl queued
  next new => exact iff_of_false Bool.true_eq_false_eq_False new

end

omit [DecidableEq Job] in
theorem size_eq_zero_iff (consistent : Consistent list) : list.size = 0 ↔ list.empty = true := by
  rw [size, Finset.card_eq_zero, empty_iff_waiting, Finset.eq_empty_iff_forall_notMem,
    Multiset.eq_zero_iff_forall_notMem]
  simp only [consistent.items_eq]

end Consistent

omit [DecidableEq Job] in
theorem moveDue_same (now : Int) (fuel : Nat) (list : TimedJobList Job heap) :
    (list.moveDue now fuel).1.items = list.items ∧
      (list.moveDue now fuel).1.waiting = list.waiting := by
  induction fuel generalizing list with
  | zero => exact ⟨rfl, rfl⟩
  | succ fuel ih =>
      rw [moveDue]
      cases isTop : heap.top list.queue with
      | none => exact ⟨rfl, rfl⟩
      | some topItem =>
          dsimp only
          split
          next =>
            obtain ⟨sameItems, sameWaiting⟩ := ih { list with
              pending := list.pending ++ [topItem]
              queue := heap.pop list.queue }
            refine ⟨sameItems, sameWaiting.trans ?_⟩
            have popped := heap.contents_pop list.queue topItem isTop
            simp only [waiting, ← popped, Multiset.map_cons, List.map_append, List.map_cons,
              List.map_nil, ← Multiset.coe_add, Multiset.coe_singleton]
            rw [Multiset.cons_add, ← Multiset.singleton_add, ← Multiset.add_assoc,
              Multiset.add_comm]
          next => exact ⟨rfl, rfl⟩

theorem waitForJob_answer (list : TimedJobList Job heap) (now : Int) :
    (list.isRunning = false ∧ list.waitForJob now = (list, .stopped)) ∨
      (∃ duration, list.waitForJob now =
        ((list.moveDue now (heap.contents list.queue).card).1, .waits duration)) ∨
      ∃ pendingJob rest,
        (list.moveDue now (heap.contents list.queue).card).1.pending = pendingJob :: rest ∧
        list.waitForJob now =
          ((list.moveDue now (heap.contents list.queue).card).1.takePending pendingJob rest,
            .handedOut pendingJob.job) := by
  rw [waitForJob]
  cases running : list.isRunning with
  | false => exact .inl ⟨rfl, rfl⟩
  | true =>
      right
      cases someDue : (list.moveDue now (heap.contents list.queue).card).1.pending with
      | nil => exact .inl ⟨_, by simp [someDue]; rfl⟩
      | cons pendingJob rest => exact .inr ⟨pendingJob, rest, rfl, by simp [someDue]⟩

variable {list : TimedJobList Job heap}

theorem empty_waitForJob (isEmpty : list.empty = true) (now : Int) :
    (list.waitForJob now).1.empty = true := by
  obtain ⟨-, sameWaiting⟩ := moveDue_same now (heap.contents list.queue).card list
  rw [empty_iff_waiting] at isEmpty ⊢
  obtain ⟨-, answer⟩ | ⟨duration, answer⟩ | ⟨pendingJob, rest, isPending, -⟩ :=
    waitForJob_answer list now
  · rw [answer]
    exact isEmpty
  · rw [answer]
    exact sameWaiting.trans isEmpty
  · have noneWaiting := sameWaiting.trans isEmpty
    have listed : pendingJob.job ∈ (0 : Multiset Job) := by
      rw [← noneWaiting, waiting, isPending]
      simp
    exact absurd listed (Multiset.notMem_zero pendingJob.job)

theorem insert_of_refused {item : Item Job}
    (refused : (list.insert item).2 = false) : (list.insert item).1 = list := by
  rw [insert] at refused ⊢
  split
  next => rfl
  next fresh =>
    rw [if_neg fresh] at refused
    cases refused

/-- A call is correct when it leaves the containers in agreement, the two tests for
emptiness agree, inserts are refused exactly for waiting jobs, and a job that was handed
out can be inserted again. -/
def StepCorrect (list : TimedJobList Job heap) (op : Op Job) : Prop :=
  let next := (system.step list op).1
  Consistent next ∧ (next.size = 0 ↔ next.empty = true) ∧
    (∀ item, (next.insert item).2 = false ↔ item.job ∈ next.waiting) ∧
    ∀ job, (system.step list op).2 = .handedOut job →
      ∀ item, item.job = job → (next.insert item).2 = true

/-- `popFront` is called only when no job is pending. -/
def Sound (list : TimedJobList Job heap) : Op Job → Prop
  | .popFront => list.pending = []
  | _ => True

instance (list : TimedJobList Job heap) : (op : Op Job) → Decidable (Sound list op)
  | .popFront => inferInstanceAs (Decidable (_ = _))
  | .start | .stop | .insert _ | .waitForJob _ => isTrue trivial

theorem consistent_step (list : TimedJobList Job heap) (op : Op Job)
    (consistent : Consistent list) (sound : Sound list op) :
    Consistent (system.step list op).1 ∧ ∀ job, (system.step list op).2 = .handedOut job →
        job ∉ (system.step list op).1.waiting := by
  cases op with
  | start | stop => exact ⟨consistent.congr rfl rfl, fun job out => by cases out⟩
  | insert item => exact ⟨consistent.insert item, fun job out => by cases out⟩
  | waitForJob now =>
      obtain ⟨sameItems, sameWaiting⟩ := moveDue_same now (heap.contents list.queue).card list
      have moved := consistent.congr sameItems sameWaiting
      simp only [system]
      obtain ⟨-, answer⟩ | ⟨duration, answer⟩ | ⟨pendingJob, rest, isPending, answer⟩ :=
        waitForJob_answer list now
      · rw [answer]
        exact ⟨consistent, fun job out => by cases out⟩
      · rw [answer]
        exact ⟨moved, fun job out => by cases out⟩
      · rw [answer]
        obtain ⟨left, gone⟩ := moved.takePending isPending
        refine ⟨left, fun job out => ?_⟩
        cases out
        exact gone
  | popFront =>
      have nonePending : list.pending = [] := sound
      simp only [system, popFront, nonePending]
      cases isTop : heap.top list.queue with
      | none => exact ⟨consistent, fun job out => by cases out⟩
      | some result =>
          have popped := heap.contents_pop list.queue result isTop
          have leftWaiting : result.job ::ₘ waiting { list with
              queue := heap.pop list.queue
              items := list.items.erase result.job
              pending := [] } = list.waiting := by
            rw [waiting, waiting, ← popped, nonePending, Multiset.map_cons, Multiset.cons_add]
          obtain ⟨left, gone⟩ := consistent.leave rfl leftWaiting
          refine ⟨left, fun job out => ?_⟩
          cases out
          exact gone

/-- Taking a pending job with `popFront` leaves it in the lookup set. -/
theorem not_consistent_popFront (consistent : Consistent list)
    (unsound : list.pending ≠ []) : ¬Consistent (list.popFront).1 := by
  intro still
  cases isPending : list.pending with
  | nil => exact unsound isPending
  | cons pendingJob rest =>
      have gone := (consistent.takePending isPending).2
      have listed : pendingJob.job ∈ list.items := by
        rw [consistent.items_eq, waiting, isPending]
        simp
      simp only [popFront, isPending] at still
      exact gone ((still.items_eq pendingJob.job).mp listed)

theorem stepCorrect_iff (list : TimedJobList Job heap) (op : Op Job)
    (consistent : Consistent list) : StepCorrect list op ↔ Sound list op := by
  constructor
  · intro correct
    cases op with
    | popFront =>
        by_contra unsound
        exact not_consistent_popFront consistent unsound correct.1
    | _ => trivial
  · intro sound
    obtain ⟨next, gone⟩ := consistent_step list op consistent sound
    refine ⟨next, next.size_eq_zero_iff, next.insert_refused_iff, fun job out item isJob => ?_⟩
    have notWaiting := gone job out
    rw [← isJob, ← next.insert_refused_iff, Bool.not_eq_false] at notWaiting
    exact notWaiting

/-- For every priority queue and every sequence of calls: the containers agree after
every call, and jobs that were handed out can be inserted again, if and only if
`popFront` is only called when no job is pending. -/
theorem run_correct_iff (heap : PriorityQueue (Item Job) itemPriorityCmp) (ops : List (Op Job)) :
    system.Along StepCorrect (create heap) ops ↔ system.Along Sound (create heap) ops :=
  System.along_iff_guarded
    (fun list op consistent sound => (consistent_step list op consistent sound).1)
    stepCorrect_iff Consistent.create ops

/-- A priority queue for the comparison. -/
def listHeap (Job : Type) [DecidableEq Job] : PriorityQueue (Item Job) itemPriorityCmp :=
  PriorityQueue.ofList itemPriorityCmp

/-- Two jobs are due when the first one is delivered; the second one is then taken with
`popFront`.  It waits nowhere, but it cannot be inserted any more. -/
theorem popFront_loses :
    let list := system.run (create (listHeap Nat))
      [.start, .insert ⟨1, 0, 0, 0⟩, .insert ⟨2, 5, 0, 0⟩, .waitForJob 10]
    let taken := system.step list .popFront
    taken.2 = .handedOut 2 ∧ taken.1.empty = true ∧ taken.1.size = 1 ∧
      (taken.1.insert ⟨2, 20, 0, 0⟩).2 = false := by
  decide

end TimedJobList

end Gxf.Std
