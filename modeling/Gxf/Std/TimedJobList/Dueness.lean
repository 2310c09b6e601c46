import Gxf.Std.TimedJobList

/-!
# Due jobs

The queue is ordered by deadlines, the sums of target time and slack, but only the target time of
its top decides whether a job is due and how long a call waits.  A due job is overlooked behind a
top that is not due yet, or one whose remaining time does not fit into a word.
-/

namespace Gxf.Std.TimedJobList

open Gxf.Lib

variable {Job : Type} {heap : PriorityQueue (Item Job) itemPriorityCmp}

def queued (list : TimedJobList Job heap) : Multiset (Item Job) := heap.contents list.queue

/-- Jobs in the order of their deadlines, and with higher priorities first. -/
def InOrder (earlier later : Item Job) : Prop :=
  earlier.targetTime + earlier.slack < later.targetTime + later.slack ∨
    earlier.targetTime + earlier.slack = later.targetTime + later.slack ∧
      later.priority ≤ earlier.priority

/-- The time until a job is due, in a word. -/
def Item.eta (item : Item Job) (now : Int) : Int := int64 (item.targetTime - now)

/-- The deadlines of the queued jobs do not overflow, and can be compared. -/
structure Sane (items : Multiset (Item Job)) : Prop where
  fits : ∀ item ∈ items, InInt64 (item.targetTime + item.slack)
  comparable : Comparable items

theorem Sane.inOrder {items : Multiset (Item Job)} (sane : Sane items) {earlier later : Item Job}
    (first : earlier ∈ items) (second : later ∈ items)
    (notBefore : itemPriorityCmp earlier later = false) : InOrder earlier later := by
  have urgency : ¬earlier.urgency < later.urgency := by
    rw [← itemPriorityCmp_iff (sane.comparable _ first _ second) (sane.comparable _ second _ first),
      notBefore]
    exact Bool.false_ne_true
  rw [Item.urgency, Item.urgency, Prod.Lex.toLex_lt_toLex, Item.deadline, Item.deadline,
    int64_eq_self (sane.fits _ first), int64_eq_self (sane.fits _ second)] at urgency
  rw [InOrder]
  omega

theorem Sane.mono {items others : Multiset (Item Job)} (sane : Sane items)
    (subset : ∀ item ∈ others, item ∈ items) : Sane others :=
  ⟨fun item member => sane.fits item (subset item member), fun left inLeft right inRight =>
    sane.comparable left (subset left inLeft) right (subset right inRight)⟩

theorem mem_of_mem_pop {list : TimedJobList Job heap} {topItem item : Item Job}
    (isTop : heap.top list.queue = some topItem)
    (member : item ∈ heap.contents (heap.pop list.queue)) : item ∈ list.queued := by
  rw [queued, ← heap.contents_pop list.queue topItem isTop]
  exact Multiset.mem_cons_of_mem member

theorem moveDue_queued (now : Int) (fuel : Nat) (list : TimedJobList Job heap) :
    ∀ item ∈ (list.moveDue now fuel).1.queued, item ∈ list.queued := by
  induction fuel generalizing list with
  | zero => exact fun item member => member
  | succ fuel ih =>
      rw [moveDue]
      cases isTop : heap.top list.queue with
      | none => exact fun item member => member
      | some topItem =>
          dsimp only
          split
          next => exact fun item member => mem_of_mem_pop isTop (ih _ item member)
          next => exact fun item member => member

theorem moveDue_due (now : Int) (fuel : Nat) (list : TimedJobList Job heap) :
    ∃ due, (list.moveDue now fuel).1.pending = list.pending ++ due ∧
      (Sane list.queued → due.Pairwise InOrder) ∧
      ∀ item ∈ due, item ∈ list.queued ∧ item.eta now ≤ kTimeFudge := by
  induction fuel generalizing list with
  | zero => exact ⟨[], (List.append_nil _).symm, fun _ => List.Pairwise.nil, List.forall_mem_nil _⟩
  | succ fuel ih =>
      have unmoved : ∃ due, list.pending = list.pending ++ due ∧
          (Sane list.queued → due.Pairwise InOrder) ∧
          ∀ item ∈ due, item ∈ list.queued ∧ item.eta now ≤ kTimeFudge :=
        ⟨[], (List.append_nil _).symm, fun _ => List.Pairwise.nil, List.forall_mem_nil _⟩
      rw [moveDue]
      cases isTop : heap.top list.queue with
      | none => exact unmoved
      | some topItem =>
          dsimp only
          split
          next isDue =>
            obtain ⟨due, isPending, ordered, among⟩ := ih { list with
              pending := list.pending ++ [topItem]
              queue := heap.pop list.queue }
            have stillQueued : ∀ item ∈ heap.contents (heap.pop list.queue), item ∈ list.queued :=
              fun item member => mem_of_mem_pop isTop member
            have topQueued : topItem ∈ list.queued := by
              rw [queued, ← heap.contents_pop list.queue topItem isTop]
              exact Multiset.mem_cons_self _ _
            refine ⟨topItem :: due, ?_, fun sane => List.pairwise_cons.mpr
                ⟨fun item member => ?_, ordered (sane.mono stillQueued)⟩,
              List.forall_mem_cons.mpr ⟨⟨topQueued, isDue⟩, fun item member => ?_⟩⟩
            · rw [isPending, List.append_assoc]
              rfl
            · have later := stillQueued item (among item member).1
              exact sane.inOrder topQueued later (heap.top_greatest list.queue topItem
                sane.comparable.orders isTop item later)
            · exact ⟨stillQueued item (among item member).1, (among item member).2⟩
          next => exact unmoved

/-- Jobs that have target times in words wait, and no pending job is ahead of its time. -/
structure Timely (list : TimedJobList Job heap) (clock : Int) : Prop where
  nonneg : 0 ≤ clock
  fits : ∀ item ∈ list.queued, InInt64 item.targetTime
  due : ∀ item ∈ list.pending, item.targetTime - clock ≤ kTimeFudge

theorem Timely.moved {list : TimedJobList Job heap} {now clock : Int} (timely : Timely list clock)
    (forward : clock ≤ now) : Timely (list.moveDue now (heap.contents list.queue).card).1 now ∧
      ∀ item ∈ (list.moveDue now (heap.contents list.queue).card).1.pending,
        item ∈ list.queued ∨ item ∈ list.pending := by
  have fudge : kTimeFudge = 1 := rfl
  have nonneg := timely.nonneg
  obtain ⟨arrived, isPending, -, among⟩ := moveDue_due now (heap.contents list.queue).card list
  refine ⟨⟨nonneg.trans forward, fun item member =>
    timely.fits item (moveDue_queued now _ list item member), ?_⟩, ?_⟩
  · intro item moved
    rw [isPending, List.mem_append] at moved
    rcases moved with before | arrives
    · have := timely.due item before
      omega
    · obtain ⟨inQueue, isDue⟩ := among item arrives
      obtain ⟨-, high⟩ := timely.fits item inQueue
      rw [Item.eta, int64] at isDue
      omega
  · intro item moved
    rw [isPending, List.mem_append] at moved
    exact moved.symm.imp_left fun arrives => (among item arrives).1

variable [DecidableEq Job] {list : TimedJobList Job heap} {now : Int}

/-- A list with the latest clock reading. -/
def watched : System (TimedJobList Job heap × Int) (Op Job) (Answer Job) where
  step pair op :=
    (((system.step pair.1 op).1, match op with | .waitForJob now => now | _ => pair.2),
      (system.step pair.1 op).2)

/-- The clock does not go back, and target times are words. -/
def Forward (pair : TimedJobList Job heap × Int) (op : Op Job) : Prop :=
  (∀ now, op = .waitForJob now → pair.2 ≤ now) ∧
    ∀ item, op = .insert item → InInt64 item.targetTime

/-- The call waits for jobs, and hands out one that waits and is not ahead of its time. -/
def HandsOutDue (pair : TimedJobList Job heap × Int) (op : Op Job) : Prop :=
  ∀ now job, op = .waitForJob now → (pair.1.waitForJob now).2 = .handedOut job →
    ∃ item, (item ∈ pair.1.queued ∨ item ∈ pair.1.pending) ∧ item.job = job ∧
      item.targetTime - now ≤ kTimeFudge

theorem punctual_step {clock : Int} (timely : Timely list clock) (op : Op Job)
    (forward : Forward (list, clock) op) :
    let next := (watched.step (list, clock) op).1
    Timely next.1 next.2 := by
  cases op with
  | start | stop => exact ⟨timely.nonneg, timely.fits, timely.due⟩
  | insert item =>
      simp only [watched, system, insert]
      split
      · exact timely
      · refine ⟨timely.nonneg, fun other member => ?_, timely.due⟩
        rw [queued, heap.contents_push, Multiset.mem_cons] at member
        rcases member with rfl | before
        · exact forward.2 other rfl
        · exact timely.fits other before
  | waitForJob now =>
      obtain ⟨moved, -⟩ := timely.moved (forward.1 now rfl)
      dsimp only [watched, system]
      obtain ⟨-, answer⟩ | ⟨duration, answer⟩ | ⟨pendingJob, rest, isPending, answer⟩ :=
        waitForJob_answer list now
      · rw [answer]
        exact ⟨moved.nonneg, timely.fits, fun item member =>
          (Int.sub_le_sub_left (forward.1 now rfl) _).trans (timely.due item member)⟩
      · rw [answer]
        exact moved
      · rw [answer]
        exact ⟨moved.nonneg, moved.fits, fun item member =>
          moved.due item (isPending ▸ List.mem_cons_of_mem _ member)⟩
  | popFront =>
      dsimp only [watched, system, popFront]
      split
      next isPending =>
        exact ⟨timely.nonneg, timely.fits, fun item member =>
          timely.due item (isPending ▸ List.mem_cons_of_mem _ member)⟩
      next =>
        split
        next => exact timely
        next isTop =>
          exact ⟨timely.nonneg, fun item member => timely.fits item (mem_of_mem_pop isTop member),
            timely.due⟩

/-- With a clock that is not negative and does not go back, no call of `waitForJob` hands out a job
ahead of its time. -/
theorem run_punctual {clock : Int} (nonneg : 0 ≤ clock) (ops : List (Op Job))
    (forward : watched.Along Forward (create heap, clock) ops) :
    watched.Along HandsOutDue (create heap, clock) ops := by
  have start : Timely (create heap) clock := by
    refine ⟨nonneg, fun item member => ?_, List.forall_mem_nil _⟩
    rw [queued, create, heap.contents_empty] at member
    exact absurd member (Multiset.notMem_zero item)
  refine System.along_of_invariant
    (fun pair op (timely : Timely pair.1 pair.2) (isForward : Forward pair op) =>
      punctual_step timely op isForward) ?_ start forward
  rintro ⟨list, clock⟩ op timely isForward now job rfl handedOut
  obtain ⟨-, answer⟩ | ⟨duration, answer⟩ | ⟨pendingJob, rest, isPending, answer⟩ :=
    waitForJob_answer list now
  · cases (congrArg Prod.snd answer).symm.trans handedOut
  · cases (congrArg Prod.snd answer).symm.trans handedOut
  · cases (congrArg Prod.snd answer).symm.trans handedOut
    obtain ⟨moved, among⟩ := timely.moved (isForward.1 now rfl)
    have first := isPending ▸ List.mem_cons_self
    exact ⟨pendingJob, among pendingJob first, rfl, moved.due pendingJob first⟩

/-- A job with target time 100 is not handed out at 98, but at 99. -/
theorem run_punctual_tolerance : watched.Along HandsOutDue (create (listHeap Nat), 0)
    [.start, .insert ⟨1, 100, 0, 0⟩, .insert ⟨2, 5, 1000, 0⟩, .waitForJob 98, .waitForJob 99] :=
  run_punctual (by decide) _ ⟨⟨by rintro _ ⟨⟩, by rintro _ ⟨⟩⟩,
  ⟨by rintro _ ⟨⟩, by rintro _ ⟨⟩; decide⟩,
    ⟨by rintro _ ⟨⟩, by rintro _ ⟨⟩; decide⟩, ⟨by rintro _ ⟨⟩; decide, by rintro _ ⟨⟩⟩,
    ⟨by rintro _ ⟨⟩; decide, by rintro _ ⟨⟩⟩, trivial⟩

end Gxf.Std.TimedJobList
