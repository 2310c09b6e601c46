import Mathlib.Data.List.GetD
import Gxf.Std.StagingQueue.Queue

/-!
# The staging queue as a pair of lists

`Stages` is the purpose of the component: a main stage and a back stage, each a
list with the oldest item first.  `Holds` relates a ring to its stages, with every
slot outside the occupied window holding the null value, and each operation of the
ring is shown to follow its list counterpart.
-/

namespace Gxf.Std

open Gxf.Lib StagingQueueIterator

/-- The two stages of a queue, oldest item first. -/
structure Stages (T : Type) where
  main : List T
  back : List T
  deriving DecidableEq, Repr

namespace Stages

variable {T : Type}

/-- Append to the back stage; a full back stage drops its oldest item, or the
new one. -/
def push (capacity : Nat) (behavior : OverflowBehavior) (stages : Stages T) (item : T) :
    Stages T × Bool :=
  if stages.back.length = capacity then
    match behavior with
    | .kPop => ({ stages with back := stages.back.tail ++ [item] }, true)
    | .kReject => (stages, true)
    | .kFault => (stages, false)
  else ({ stages with back := stages.back ++ [item] }, true)

/-- Move the back stage behind the main stage and cut the result to the capacity:
the oldest items go, or the newest.  A faulting queue refuses and keeps both. -/
def sync (capacity : Nat) (behavior : OverflowBehavior) (stages : Stages T) : Stages T × Bool :=
  let all := stages.main ++ stages.back
  if all.length > capacity then
    match behavior with
    | .kPop => (⟨all.drop (all.length - capacity), []⟩, true)
    | .kReject => (⟨all.take capacity, []⟩, true)
    | .kFault => (stages, false)
  else (⟨all, []⟩, true)

/-- The list counterpart of a staging queue. -/
def system (capacity : Nat) (behavior : OverflowBehavior) (null : T) :
    System (Stages T) (StagingQueue.Op T) (StagingQueue.Out T) where
  step stages
    | .push item =>
        ((stages.push capacity behavior item).1,
          .flag (stages.push capacity behavior item).2)
    | .sync => ((stages.sync capacity behavior).1, .flag (stages.sync capacity behavior).2)
    | .pop => ({ stages with main := stages.main.tail }, .item (stages.main.headD null))
    | .popAll => ({ stages with main := [] }, .done)
    | .peek index => (stages, .item (stages.main.getD index null))
    | .peekBackstage index => (stages, .item (stages.back.getD index null))
    | .latest index => (stages, .item (stages.main.reverse.getD index null))
    | .iterate => (stages, .items (some stages.main))
    | .size => (stages, .count stages.main.length)
    | .backSize => (stages, .count stages.back.length)
    | .empty => (stages, .flag stages.main.isEmpty)

end Stages

namespace StagingQueue

variable {T : Type}

/-- A ring that holds the two stages. -/
structure Holds (capacity : Nat) (behavior : OverflowBehavior) (null : T)
    (queue : StagingQueue T) (stages : Stages T) : Prop where
  capacity_eq : queue.capacity = capacity
  behavior_eq : queue.overflowBehavior = behavior
  null_eq : queue.null = null
  length_eq : queue.items.length = 2 * capacity
  start_lt : queue.start < 2 * capacity
  main_eq : queue.numMainstage = stages.main.length
  back_eq : queue.numBackstage = stages.back.length
  main_le : stages.main.length ≤ capacity
  back_le : stages.back.length ≤ capacity
  window : queue.items.rotate queue.start = stages.main ++ stages.back ++
      List.replicate (2 * capacity - (stages.main.length + stages.back.length)) null

variable {view gone rest : List T} {offset : Nat}

theorem readAt_view {queue : StagingQueue T} (viewEq : queue.items.rotate queue.start = view)
    (inside : offset < queue.items.length) :
    queue.readAt (queue.start + offset) = view.getD offset queue.null := by
  rw [readAt, Ring.getD_mod _ _ _ _ inside, viewEq]

theorem writeAt_view {queue : StagingQueue T}
    (viewEq : queue.items.rotate queue.start = view) (item : T)
    (inside : offset < queue.items.length) :
    (queue.writeAt (queue.start + offset) item).items.rotate queue.start =
      view.set offset item := by
  rw [writeAt, Ring.rotate_set _ _ _ _ inside, viewEq]

@[simp] theorem length_writeAt (queue : StagingQueue T) (index : Nat) (item : T) :
    (queue.writeAt index item).items.length = queue.items.length := by
  simp [writeAt]

theorem length_view {queue : StagingQueue T} (viewEq : queue.items.rotate queue.start = view) :
    view.length = queue.items.length := by
  rw [← viewEq, List.length_rotate]

theorem clearFront_view {queue : StagingQueue T}
    (viewEq : queue.items.rotate queue.start = gone ++ rest) :
    queue.clearFront gone.length =
      { queue with
        items := (queue.clearFront gone.length).items
        start := queue.start + gone.length } ∧
    (queue.clearFront gone.length).items.length = queue.items.length ∧
    (queue.clearFront gone.length).items.rotate (queue.start + gone.length) =
      rest ++ List.replicate gone.length queue.null := by
  induction gone generalizing queue rest with
  | nil => simpa [clearFront] using viewEq
  | cons first gone ih =>
      have inside : 0 < queue.items.length := by
        rw [← length_view viewEq]
        simp
      have written := writeAt_view viewEq queue.null inside
      simp only [Nat.add_zero, List.cons_append, List.set_cons_zero] at written
      have advanced := Ring.rotate_succ written
      let next : StagingQueue T :=
        { queue.writeAt queue.start queue.null with start := queue.start + 1 }
      have nextView : next.items.rotate next.start = gone ++ (rest ++ [queue.null]) := by
        simpa [next, List.append_assoc] using advanced
      obtain ⟨fields, length, view⟩ := ih nextView
      simp only [clearFront, List.length_cons]
      refine ⟨?_, ?_, ?_⟩
      · rw [fields]
        simp [next, writeAt, Nat.add_comm, Nat.add_left_comm]
      · rw [length]
        simp [next]
      · have : next.start + gone.length = queue.start + (gone.length + 1) := by
          simp [next]
          omega
        rw [← this, view]
        simp [next, writeAt, List.replicate_succ]

theorem clearBack_view {queue : StagingQueue T} {kept : List T}
    (viewEq : queue.items.rotate queue.start = kept ++ gone ++ rest)
    (mainEq : queue.numMainstage = kept.length + gone.length) :
    queue.clearBack gone.length =
      { queue with
        items := (queue.clearBack gone.length).items
        numMainstage := kept.length } ∧
    (queue.clearBack gone.length).items.length = queue.items.length ∧
    (queue.clearBack gone.length).items.rotate queue.start =
      kept ++ List.replicate gone.length queue.null ++ rest := by
  induction gone using List.reverseRecOn generalizing queue rest with
  | nil =>
      simp only [List.length_nil, Nat.add_zero] at mainEq
      simpa [clearBack, ← mainEq] using viewEq
  | append_singleton gone last ih =>
      have inside : kept.length + gone.length < queue.items.length := by
        rw [← length_view viewEq]
        simp
      have written := writeAt_view viewEq queue.null inside
      let next : StagingQueue T :=
        { queue.writeAt (queue.start + (kept.length + gone.length)) queue.null with
          numMainstage := kept.length + gone.length }
      have nextView : next.items.rotate next.start = kept ++ gone ++ (queue.null :: rest) := by
        simp only [next]
        rw [show (queue.writeAt _ queue.null).start = queue.start from rfl, written]
        simp
      obtain ⟨fields, length, view⟩ := ih nextView rfl
      have unfolded : queue.clearBack (gone ++ [last]).length = next.clearBack gone.length := by
        have : queue.numMainstage - 1 = kept.length + gone.length := by
          simp at mainEq
          omega
        simp [clearBack, next, writeAt, this]
      rw [unfolded]
      refine ⟨?_, ?_, ?_⟩
      · rw [fields]
        simp [next, writeAt]
      · rw [length]
        simp [next]
      · have : next.items.rotate next.start = next.items.rotate queue.start := rfl
        rw [show queue.start = next.start from rfl, view]
        simp [next, writeAt, List.replicate_succ']

theorem shiftBackstage_view {queue : StagingQueue T} {before after : List T}
    {first : T} (viewEq : queue.items.rotate queue.start = before ++ first :: rest ++ after) :
    queue.shiftBackstage rest.length (queue.start + before.length + 1) =
      { queue with
        items := (queue.shiftBackstage rest.length (queue.start + before.length + 1)).items } ∧
    (queue.shiftBackstage rest.length
      (queue.start + before.length + 1)).items.length = queue.items.length ∧
    (queue.shiftBackstage rest.length (queue.start + before.length + 1)).items.rotate queue.start =
      before ++ rest ++ (first :: rest).getLast (by simp) :: after := by
  induction rest generalizing queue before first with
  | nil => simpa [shiftBackstage] using viewEq
  | cons second rest ih =>
      have lengthEq := length_view viewEq
      have inside : before.length + 1 < queue.items.length := by
        rw [← lengthEq]
        simp
      have read : queue.readAt (queue.start + before.length + 1) = second := by
        rw [Nat.add_assoc, readAt_view viewEq inside]
        simp [List.getD_eq_getElem?_getD]
      have written := writeAt_view viewEq second (Nat.lt_of_succ_lt inside)
      let next := queue.writeAt (queue.start + before.length) second
      have nextView : next.items.rotate next.start =
          (before ++ [second]) ++ second :: rest ++ after := by
        rw [show next.start = queue.start from rfl, written]
        simp
      obtain ⟨fields, length, view⟩ := ih nextView
      have unfolded : queue.shiftBackstage (second :: rest).length
          (queue.start + before.length + 1) =
          next.shiftBackstage rest.length (next.start + (before ++ [second]).length + 1) := by
        simp only [shiftBackstage, List.length_cons, read, Nat.add_sub_cancel, next,
          List.length_append, List.length_nil]
        rfl
      rw [unfolded]
      refine ⟨?_, ?_, ?_⟩
      · rw [fields]
        simp [next, writeAt]
      · rw [length]
        simp [next]
      · rw [show queue.start = next.start from rfl, view]
        simp

/-! ## Every operation follows the lists -/

variable {capacity : Nat} {behavior : OverflowBehavior} {null : T}
variable {queue : StagingQueue T} {stages : Stages T}

theorem holds_create (positive : 1 ≤ capacity) (fits : 2 * capacity < 2 ^ 64)
    (behavior : OverflowBehavior) (null : T) :
    Holds capacity behavior null (create capacity behavior null) ⟨[], []⟩ where
  capacity_eq := rfl
  behavior_eq := rfl
  null_eq := rfl
  length_eq := by rw [create, List.length_replicate, Nat.mod_eq_of_lt fits]
  start_lt := by
    change 0 < 2 * capacity
    omega
  main_eq := rfl
  back_eq := rfl
  main_le := Nat.zero_le _
  back_le := Nat.zero_le _
  window := by simpa [create] using fits

namespace Holds

theorem wrapStart {next : StagingQueue T} {after : Stages T}
    (capacity_eq : next.capacity = capacity) (behavior_eq : next.overflowBehavior = behavior)
    (null_eq : next.null = null) (length_eq : next.items.length = 2 * capacity)
    (positive : 1 ≤ capacity)
    (main_eq : next.numMainstage = after.main.length)
    (back_eq : next.numBackstage = after.back.length)
    (main_le : after.main.length ≤ capacity) (back_le : after.back.length ≤ capacity)
    (window : next.items.rotate next.start = after.main ++ after.back ++
        List.replicate (2 * capacity - (after.main.length + after.back.length)) null) :
    Holds capacity behavior null next.wrapStart after where
  capacity_eq := capacity_eq
  behavior_eq := behavior_eq
  null_eq := null_eq
  length_eq := length_eq
  start_lt := by
    simp only [StagingQueue.wrapStart, length_eq]
    exact Nat.mod_lt _ (by omega)
  main_eq := main_eq
  back_eq := back_eq
  main_le := main_le
  back_le := back_le
  window := by
    simpa only [StagingQueue.wrapStart, List.rotate_mod] using window

section

variable (holds : Holds capacity behavior null queue stages)
include holds

theorem positive : 1 ≤ capacity := by
  have := holds.start_lt
  omega

theorem wrapStart_self : queue.wrapStart = queue := by
  have : queue.start % queue.items.length = queue.start := by
    rw [holds.length_eq]
    exact Nat.mod_eq_of_lt holds.start_lt
  simp [StagingQueue.wrapStart, this]

/-- Slot `offset` after the start holds the corresponding entry of the stages,
and the null value outside the occupied window. -/
theorem readAt {offset : Nat} (inside : offset < 2 * capacity) :
    queue.readAt (queue.start + offset) = (stages.main ++ stages.back).getD offset null := by
  rw [readAt_view holds.window (by rw [holds.length_eq]; exact inside), holds.null_eq]
  by_cases occupied : offset < (stages.main ++ stages.back).length
  · simp only [List.getD_eq_getElem?_getD]
    rw [List.getElem?_append_left occupied]
  · have beyond := Nat.le_of_not_lt occupied
    rw [List.getD_eq_default _ _ beyond, List.getD_append_right _ _ _ _ beyond]
    simp [List.getD_eq_getElem?_getD, List.getElem?_replicate]
    split <;> rfl

theorem peek (index : Nat) : queue.peek index = stages.main.getD index null := by
  have bounds := holds.main_le
  rw [StagingQueue.peek, holds.main_eq, holds.null_eq]
  split
  next inside =>
    rw [holds.readAt (by omega), List.getD_append _ _ _ _ inside]
  next outside => rw [List.getD_eq_default _ _ (Nat.le_of_not_lt outside)]

theorem peekBackstage (index : Nat) : queue.peekBackstage index = stages.back.getD index null := by
  have mainBound := holds.main_le
  have backBound := holds.back_le
  rw [StagingQueue.peekBackstage, holds.back_eq, holds.null_eq, holds.main_eq]
  split
  next inside =>
    simp only [Nat.add_assoc]
    rw [holds.readAt (by omega), List.getD_append_right _ _ _ _ (by omega)]
    simp
  next outside => rw [List.getD_eq_default _ _ (Nat.le_of_not_lt outside)]

theorem latest (index : Nat) : queue.latest index = stages.main.reverse.getD index null := by
  have bounds := holds.main_le
  rw [StagingQueue.latest, holds.main_eq, holds.null_eq]
  split
  next inside =>
    have position : queue.start + stages.main.length - index - 1 =
        queue.start + (stages.main.length - 1 - index) := by omega
    rw [position, holds.readAt (by omega), List.getD_append _ _ _ _ (by omega)]
    simp only [List.getD_eq_getElem?_getD]
    rw [List.getElem?_reverse inside]
  next outside =>
    rw [List.getD_eq_default]
    simpa using Nat.le_of_not_lt outside

theorem walk (seen rest : List T) (split : stages.main = seen ++ rest) (fuel : Nat)
    (enough : rest.length ≤ fuel) :
    StagingQueueIterator.walk fuel
      ⟨queue.items, queue.items.length, queue.start + seen.length⟩ queue.endIterator =
        some rest := by
  induction rest generalizing seen fuel with
  | nil =>
      have : queue.start + seen.length = queue.start + queue.numMainstage := by
        rw [holds.main_eq, split]
        simp
      rw [StagingQueueIterator.walk.eq_def]
      simp [same, endIterator, this]
  | cons item rest ih =>
      have mainLength := congrArg List.length split
      simp only [List.length_append, List.length_cons] at mainLength
      have bounds := holds.main_le
      have notEnd : (⟨queue.items, queue.items.length, queue.start + seen.length⟩ :
          StagingQueueIterator T).same queue.endIterator = false := by
        simp only [same, endIterator, holds.main_eq,
          Bool.and_eq_false_iff, beq_eq_false_iff_ne]
        right
        omega
      cases fuel with
      | zero => simp at enough
      | succ fuel =>
          have inside : seen.length < queue.items.length := by
            rw [holds.length_eq]
            omega
          have read : queue.items[(queue.start + seen.length) % queue.items.length]? =
              some item := by
            have := List.getElem?_rotate inside (n := queue.start)
            rw [Nat.add_comm queue.start, ← this, holds.window, split]
            simp
          have later := ih (seen ++ [item]) (by simp [split]) fuel (by simpa using enough)
          rw [StagingQueueIterator.walk.eq_def]
          simp only [notEnd, Bool.false_eq_true, if_false]
          simp only [deref, read, next]
          simp only [List.length_append, List.length_cons, List.length_nil] at later
          simp only [Nat.add_assoc] at later ⊢
          simp [later]

theorem iterate :
    StagingQueueIterator.walk queue.items.length queue.beginIterator queue.endIterator =
      some stages.main := by
  apply holds.walk [] stages.main rfl
  rw [holds.length_eq]
  have := holds.main_le
  omega

theorem pop : queue.pop.2 = stages.main.headD null ∧
      Holds capacity behavior null queue.pop.1 { stages with main := stages.main.tail } := by
  cases mainEq : stages.main with
  | nil =>
      have empty : ¬queue.numMainstage > 0 := by simp [holds.main_eq, mainEq]
      have unchanged : ({ stages with main := [] } : Stages T) = stages := by
        cases stages
        simp_all
      simp only [StagingQueue.pop, empty, if_false, List.headD_nil, List.tail_nil,
        unchanged, holds.wrapStart_self]
      exact ⟨holds.null_eq, holds⟩
  | cons first rest =>
      have nonempty : queue.numMainstage > 0 := by simp [holds.main_eq, mainEq]
      have mainBound := holds.main_le
      have view := holds.window
      simp only [mainEq, List.cons_append, List.length_cons] at view mainBound
      have inside : 0 < queue.items.length := by
        rw [holds.length_eq]
        omega
      have read := readAt_view view inside
      have written := writeAt_view view null inside
      simp only [Nat.add_zero, List.getD_cons_zero, List.set_cons_zero] at read written
      have advanced := Ring.rotate_succ written
      simp only [StagingQueue.pop, nonempty, if_true, List.headD_cons, List.tail_cons]
      refine ⟨read, wrapStart holds.capacity_eq holds.behavior_eq holds.null_eq ?_
        holds.positive ?_ holds.back_eq ?_ holds.back_le ?_⟩
      · simp [holds.length_eq]
      · simp [holds.main_eq, mainEq]
      · simp only
        omega
      · have backBound := holds.back_le
        have one : 2 * capacity - (rest.length + stages.back.length) =
            2 * capacity - (rest.length + 1 + stages.back.length) + 1 := by omega
        simp only [holds.null_eq, advanced, one, List.replicate_succ', List.append_assoc]

theorem popAll : Holds capacity behavior null queue.popAll { stages with main := [] } := by
  have view := holds.window
  rw [List.append_assoc] at view
  obtain ⟨fields, length, cleared⟩ := clearFront_view view
  have popped : queue.popAll = ({ queue.clearFront stages.main.length with numMainstage := 0 } :
        StagingQueue T).wrapStart := by
    simp [StagingQueue.popAll, StagingQueue.wrapStart, holds.main_eq]
  have mainBound := holds.main_le
  have backBound := holds.back_le
  rw [popped]
  refine wrapStart ?_ ?_ ?_ ?_ holds.positive rfl ?_ (Nat.zero_le _) holds.back_le ?_
  · rw [fields]
    exact holds.capacity_eq
  · rw [fields]
    exact holds.behavior_eq
  · rw [fields]
    exact holds.null_eq
  · exact length.trans holds.length_eq
  · rw [fields]
    exact holds.back_eq
  · have start : (queue.clearFront stages.main.length).start =
        queue.start + stages.main.length := by rw [fields]
    have sum : 2 * capacity - (0 + stages.back.length) =
        2 * capacity - (stages.main.length + stages.back.length) + stages.main.length := by
      omega
    simp only [start, cleared, holds.null_eq, List.nil_append, List.length_nil, sum,
      List.append_assoc, List.replicate_append_replicate]

theorem push_room (item : T) (room : stages.back.length < capacity) : Holds capacity behavior null
      { queue.writeAt (queue.start + queue.numMainstage + queue.numBackstage) item with
        numBackstage := queue.numBackstage + 1 }
      { stages with back := stages.back ++ [item] } := by
  have mainBound := holds.main_le
  have index : queue.start + queue.numMainstage + queue.numBackstage =
      queue.start + (stages.main.length + stages.back.length) := by
    rw [holds.main_eq, holds.back_eq, Nat.add_assoc]
  have inside : stages.main.length + stages.back.length < queue.items.length := by
    rw [holds.length_eq]
    omega
  have written := writeAt_view holds.window item inside
  rw [index]
  refine ⟨holds.capacity_eq, holds.behavior_eq, holds.null_eq, ?_, holds.start_lt,
    holds.main_eq, ?_, mainBound, ?_, ?_⟩
  · simp [holds.length_eq]
  · simp [holds.back_eq]
  · simp only [List.length_append, List.length_cons, List.length_nil]
    omega
  · have one : 2 * capacity - (stages.main.length + stages.back.length) =
        2 * capacity - (stages.main.length + (stages.back.length + 1)) + 1 := by omega
    simp only [List.length_append, List.length_cons, List.length_nil, Nat.zero_add]
    rw [show ∀ index item, (queue.writeAt index item).start = queue.start from
      fun _ _ => rfl, written, one, List.replicate_succ]
    simp [List.append_assoc]

end

/-- Under `kPop` a full back stage moves over by one and drops its oldest item. -/
theorem push_pop (holds : Holds capacity .kPop null queue stages) (item : T)
    (full : stages.back.length = capacity) :
    (queue.push item).2 = true ∧ Holds capacity .kPop null (queue.push item).1
        { stages with back := stages.back.tail ++ [item] } := by
  have positive := holds.positive
  have mainBound := holds.main_le
  have counterFull : queue.numBackstage = queue.capacity := by
    rw [holds.back_eq, holds.capacity_eq, full]
  cases backEq : stages.back with
  | nil =>
      rw [backEq, List.length_nil] at full
      omega
  | cons first rest =>
      rw [backEq, List.length_cons] at full
      have view := holds.window
      rw [backEq] at view
      obtain ⟨fields, length, shifted⟩ := shiftBackstage_view view
      let moved := queue.shiftBackstage rest.length (queue.start + stages.main.length + 1)
      have movedStart : moved.start = queue.start := by
        simp only [moved]
        rw [fields]
      have movedLength : moved.items.length = 2 * capacity := length.trans holds.length_eq
      have movedView := (congrArg moved.items.rotate movedStart).trans shifted
      have inside : stages.main.length + rest.length < moved.items.length := by omega
      have written := writeAt_view movedView item inside
      have pushed : queue.push item =
          (moved.writeAt (moved.start + (stages.main.length + rest.length)) item, true) := by
        have turns : queue.start + stages.main.length + (rest.length + 1) -
            (queue.start + stages.main.length + 1) = rest.length := by omega
        have place : queue.start + stages.main.length + (rest.length + 1) - 1 =
            moved.start + (stages.main.length + rest.length) := by omega
        simp only [StagingQueue.push, counterFull, if_true, holds.behavior_eq]
        simp only [holds.main_eq, holds.capacity_eq, ← full, turns, place, moved]
      rw [pushed]
      refine ⟨rfl, ?_⟩
      have keeps : ∀ index value, (moved.writeAt index value).start = moved.start := fun _ _ => rfl
      refine ⟨?_, ?_, ?_, by simp [movedLength], ?_, ?_, ?_, mainBound, ?_, ?_⟩
      · simp only [writeAt, moved]
        rw [fields]
        exact holds.capacity_eq
      · simp only [writeAt, moved]
        rw [fields]
        exact holds.behavior_eq
      · simp only [writeAt, moved]
        rw [fields]
        exact holds.null_eq
      · rw [keeps, movedStart]
        exact holds.start_lt
      · simp only [writeAt, moved]
        rw [fields]
        exact holds.main_eq
      · simp only [writeAt, moved]
        rw [fields]
        simp [holds.back_eq, backEq]
      · simp only [List.tail_cons, List.length_append, List.length_cons, List.length_nil]
        omega
      · rw [keeps, written]
        simp [List.append_assoc]

section

variable (holds : Holds capacity behavior null queue stages)
include holds

theorem push (item : T) : (queue.push item).2 = (stages.push capacity behavior item).2 ∧
      Holds capacity behavior null (queue.push item).1 (stages.push capacity behavior item).1 := by
  by_cases full : stages.back.length = capacity
  · cases behavior with
    | kPop =>
        simp only [Stages.push, full, if_true]
        exact holds.push_pop item full
    | kReject =>
        have unchanged : queue.push item = (queue, true) := by
          simp [StagingQueue.push, holds.back_eq, holds.capacity_eq, full, holds.behavior_eq]
        simp only [Stages.push, full, if_true, unchanged]
        exact ⟨trivial, holds⟩
    | kFault =>
        have unchanged : queue.push item = (queue, false) := by
          simp [StagingQueue.push, holds.back_eq, holds.capacity_eq, full, holds.behavior_eq]
        simp only [Stages.push, full, if_true, unchanged]
        exact ⟨trivial, holds⟩
  · have room : stages.back.length < capacity := Nat.lt_of_le_of_ne holds.back_le full
    have counterRoom : ¬queue.numBackstage = queue.capacity := by
      rw [holds.back_eq, holds.capacity_eq]
      exact full
    simp only [Stages.push, full, StagingQueue.push, counterRoom, if_false]
    exact ⟨trivial, holds.push_room item room⟩

theorem mergeStages : queue.mergeStages.capacity = capacity ∧
      queue.mergeStages.overflowBehavior = behavior ∧ queue.mergeStages.null = null ∧
      queue.mergeStages.items.length = 2 * capacity ∧
      queue.mergeStages.numMainstage = stages.main.length + stages.back.length ∧
      queue.mergeStages.numBackstage = 0 ∧
      queue.mergeStages.items.rotate queue.mergeStages.start = stages.main ++ stages.back ++
          List.replicate (2 * capacity - (stages.main.length + stages.back.length)) null :=
  ⟨holds.capacity_eq, holds.behavior_eq, holds.null_eq, holds.length_eq,
    congrArg₂ (· + ·) holds.main_eq holds.back_eq, rfl, holds.window⟩

/-- Without overflow, `sync` joins the stages. -/
theorem sync_room (room : stages.main.length + stages.back.length ≤ capacity) :
    Holds capacity behavior null queue.mergeStages.wrapStart ⟨stages.main ++ stages.back, []⟩ := by
  obtain ⟨capacityEq, behaviorEq, nullEq, lengthEq, mainEq, backEq, window⟩ := holds.mergeStages
  refine wrapStart capacityEq behaviorEq nullEq lengthEq holds.positive ?_ backEq ?_
    (Nat.zero_le _) ?_
  · simpa using mainEq
  · simpa using room
  · simpa using window

end

variable {excess : Nat}

/-- Under `kPop` an overflowing `sync` clears the oldest items. -/
theorem sync_pop (holds : Holds capacity .kPop null queue stages)
    (overflow : stages.main.length + stages.back.length = capacity + excess) :
    Holds capacity .kPop null
      ({ queue.mergeStages.clearFront excess with numMainstage := capacity } :
        StagingQueue T).wrapStart
      ⟨(stages.main ++ stages.back).drop excess, []⟩ := by
  obtain ⟨capacityEq, behaviorEq, nullEq, lengthEq, mainEq, backEq, window⟩ := holds.mergeStages
  have mainBound := holds.main_le
  have backBound := holds.back_le
  have goneLength : ((stages.main ++ stages.back).take excess).length = excess := by
    simp only [List.length_take, List.length_append]
    omega
  rw [← List.take_append_drop excess (stages.main ++ stages.back), List.append_assoc] at window
  obtain ⟨fields, length, cleared⟩ := clearFront_view window
  rw [goneLength] at fields length cleared
  refine wrapStart ?_ ?_ ?_ (length.trans lengthEq) holds.positive ?_ ?_ ?_ (Nat.zero_le _) ?_
  · rw [fields, capacityEq]
  · rw [fields, behaviorEq]
  · rw [fields, nullEq]
  · simp only [List.length_drop, List.length_append]
    omega
  · rw [fields]
    exact backEq
  · simp only [List.length_drop, List.length_append]
    omega
  · have start : (queue.mergeStages.clearFront excess).start =
        queue.mergeStages.start + excess := by rw [fields]
    have keptLength : ((stages.main ++ stages.back).drop excess).length = capacity := by
      simp only [List.length_drop, List.length_append]
      omega
    have sum : 2 * capacity - (stages.main.length + stages.back.length) + excess =
        2 * capacity - (capacity + 0) := by omega
    rw [start, cleared, nullEq, List.append_assoc, List.replicate_append_replicate, sum, keptLength]
    simp

/-- Under `kReject` an overflowing `sync` clears the newest items. -/
theorem sync_reject (holds : Holds capacity .kReject null queue stages)
    (overflow : stages.main.length + stages.back.length = capacity + excess) :
    Holds capacity .kReject null (queue.mergeStages.clearBack excess).wrapStart
      ⟨(stages.main ++ stages.back).take capacity, []⟩ := by
  obtain ⟨capacityEq, behaviorEq, nullEq, lengthEq, mainEq, backEq, window⟩ := holds.mergeStages
  have mainBound := holds.main_le
  have backBound := holds.back_le
  have keptLength : ((stages.main ++ stages.back).take capacity).length = capacity := by
    simp only [List.length_take, List.length_append]
    omega
  have goneLength : ((stages.main ++ stages.back).drop capacity).length = excess := by
    simp only [List.length_drop, List.length_append]
    omega
  rw [← List.take_append_drop capacity (stages.main ++ stages.back)] at window
  have counted : queue.mergeStages.numMainstage =
      ((stages.main ++ stages.back).take capacity).length +
        ((stages.main ++ stages.back).drop capacity).length := by
    rw [mainEq, keptLength, goneLength, overflow]
  obtain ⟨fields, length, cleared⟩ := clearBack_view window counted
  rw [goneLength] at fields length cleared
  refine wrapStart ?_ ?_ ?_ (length.trans lengthEq) holds.positive ?_ ?_ ?_ (Nat.zero_le _) ?_
  · rw [fields, capacityEq]
  · rw [fields, behaviorEq]
  · rw [fields, nullEq]
  · rw [fields]
  · rw [fields]
    exact backEq
  · exact Nat.le_of_eq keptLength
  · have start : (queue.mergeStages.clearBack excess).start = queue.mergeStages.start := by
      rw [fields]
    have sum : excess + (2 * capacity - (stages.main.length + stages.back.length)) =
        2 * capacity - (capacity + 0) := by omega
    rw [start, cleared, nullEq, List.append_assoc, List.replicate_append_replicate, sum]
    simp only [List.append_nil, List.length_nil, keptLength]

/-- `sync` follows the lists, unless it overflows a faulting queue. -/
theorem sync (holds : Holds capacity behavior null queue stages)
    (guard : behavior = .kFault → stages.main.length + stages.back.length ≤ capacity) :
    queue.sync.2 = (stages.sync capacity behavior).2 ∧
      Holds capacity behavior null queue.sync.1 (stages.sync capacity behavior).1 := by
  obtain ⟨capacityEq, behaviorEq, -, -, mainEq, -, -⟩ := holds.mergeStages
  by_cases overflow : stages.main.length + stages.back.length > capacity
  · obtain ⟨excess, excessEq⟩ := Nat.exists_eq_add_of_lt overflow
    have total : stages.main.length + stages.back.length = capacity + (excess + 1) := excessEq
    have cut : stages.main.length + stages.back.length - capacity = excess + 1 := by omega
    cases behavior with
    | kPop =>
        have trimmed := holds.sync_pop total
        simp only [StagingQueue.sync, Stages.sync, List.length_append, capacityEq, behaviorEq,
          mainEq, overflow, if_true, cut]
        exact ⟨trivial, trimmed⟩
    | kReject =>
        have trimmed := holds.sync_reject total
        simp only [StagingQueue.sync, Stages.sync, List.length_append, capacityEq, behaviorEq,
          mainEq, overflow, if_true, cut]
        exact ⟨trivial, trimmed⟩
    | kFault =>
        have := guard rfl
        omega
  · simp only [StagingQueue.sync, Stages.sync, List.length_append, capacityEq, mainEq, overflow,
      if_false]
    exact ⟨trivial, holds.sync_room (Nat.le_of_not_lt overflow)⟩

/-- One step of the ring is one step of the lists, unless it is a `sync` that
overflows a faulting queue. -/
theorem step (holds : Holds capacity behavior null queue stages) (op : Op T)
    (guard : op = .sync → behavior = .kFault →
      queue.numMainstage + queue.numBackstage ≤ queue.capacity) :
    ((system T).step queue op).2 = ((Stages.system capacity behavior null).step stages op).2 ∧
      Holds capacity behavior null ((system T).step queue op).1
        ((Stages.system capacity behavior null).step stages op).1 := by
  cases op with
  | push item =>
      obtain ⟨answer, next⟩ := holds.push item
      exact ⟨congrArg Out.flag answer, next⟩
  | sync =>
      have stagesGuard : behavior = .kFault →
          stages.main.length + stages.back.length ≤ capacity := by
        intro fault
        have := guard rfl fault
        rwa [holds.main_eq, holds.back_eq, holds.capacity_eq] at this
      obtain ⟨answer, next⟩ := holds.sync stagesGuard
      exact ⟨congrArg Out.flag answer, next⟩
  | pop =>
      obtain ⟨answer, next⟩ := holds.pop
      exact ⟨congrArg Out.item answer, next⟩
  | popAll => exact ⟨rfl, holds.popAll⟩
  | peek index => exact ⟨congrArg Out.item (holds.peek index), holds⟩
  | peekBackstage index => exact ⟨congrArg Out.item (holds.peekBackstage index), holds⟩
  | latest index => exact ⟨congrArg Out.item (holds.latest index), holds⟩
  | iterate => exact ⟨congrArg Out.items holds.iterate, holds⟩
  | size => exact ⟨congrArg Out.count holds.main_eq, holds⟩
  | backSize => exact ⟨congrArg Out.count holds.back_eq, holds⟩
  | empty =>
      refine ⟨congrArg Out.flag ?_, holds⟩
      rw [StagingQueue.empty, holds.main_eq]
      cases stages.main <;> rfl

end Holds

end StagingQueue

end Gxf.Std
