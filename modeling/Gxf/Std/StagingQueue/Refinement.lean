import Gxf.Std.StagingQueue.Lists

/-!
# Runs of the staging queue

The step-by-step correspondence of ring and lists is carried to whole runs of a ring
that has twice as many slots as its capacity.  Under `kPop` and `kReject` every run
follows the lists.  Under `kFault` it does so along exactly the runs in which every
`sync` finds room for the back stage: the failing branch of `sync` returns after the
counters were merged.
-/

namespace Gxf.Std.StagingQueue

open Gxf.Lib

variable {T : Type}

/-- Every run of a popping or rejecting queue whose slots can be counted gives the
answers of the list pair and ends in a ring that holds it: the start is inside the
ring, the stages respect the capacity, and every slot outside the occupied window is
null. -/
theorem run_refines_stages {capacity : Nat} (positive : 1 ≤ capacity)
    (fits : 2 * capacity < 2 ^ 64) {behavior : OverflowBehavior}
    (overflows : behavior = .kPop ∨ behavior = .kReject)
    (null : T) (ops : List (Op T)) :
    let queue := (system T).run (create capacity behavior null) ops
    let stages := (Stages.system capacity behavior null).run ⟨[], []⟩ ops
    (system T).outputs (create capacity behavior null) ops =
        (Stages.system capacity behavior null).outputs ⟨[], []⟩ ops ∧
      stages.main.length ≤ capacity ∧ stages.back.length ≤ capacity ∧
      queue.items.length = 2 * capacity ∧ queue.start < 2 * capacity ∧
      (∀ offset < 2 * capacity, queue.readAt (queue.start + offset) =
          (stages.main ++ stages.back).getD offset null) := by
  have notFault : behavior ≠ .kFault := by
    rintro rfl
    simp at overflows
  have simulates : ∀ queue stages op, Holds capacity behavior null queue stages → True →
      ((system T).step queue op).2 = ((Stages.system capacity behavior null).step stages op).2 ∧
        Holds capacity behavior null ((system T).step queue op).1
          ((Stages.system capacity behavior null).step stages op).1 :=
    fun queue stages op holds _ =>
      holds.step op fun _ fault => absurd fault notFault
  obtain ⟨answers, holds⟩ := System.simulation_run simulates
    (holds_create positive fits behavior null) (System.along_of_forall (fun _ _ => trivial) _ ops)
  exact ⟨answers, holds.main_le, holds.back_le, holds.length_eq, holds.start_lt,
    fun offset inside => holds.readAt inside⟩

theorem run_refines_stages_pop :
    (1 ≤ 2 ∧ 2 * 2 < 2 ^ 64 ∧ (OverflowBehavior.kPop = .kPop ∨ OverflowBehavior.kPop = .kReject)) ∧
      (system Nat).outputs (create 2 .kPop 0) [.push 1, .push 2, .push 3, .sync, .pop, .iterate] =
        (Stages.system 2 .kPop 0).outputs ⟨[], []⟩
          [.push 1, .push 2, .push 3, .sync, .pop, .iterate] :=
  ⟨⟨by decide, by decide, .inl rfl⟩,
    (run_refines_stages (by decide) (by decide) (.inl rfl) 0
      [.push 1, .push 2, .push 3, .sync, .pop, .iterate]).1⟩

/-- A queue of capacity `2^63 + 1` has two slots, so the third item replaces the first one. -/
theorem wide_capacity_overwrites :
    (create (2 ^ 63 + 1) .kReject 0).items.length = 2 ∧
      (system Nat).outputs (create (2 ^ 63 + 1) .kReject 0)
          [.push 1, .push 2, .push 3, .peekBackstage 0] =
        [.flag true, .flag true, .flag true, .item 3] ∧
      (Stages.system (2 ^ 63 + 1) .kReject 0).outputs ⟨[], []⟩
          [.push 1, .push 2, .push 3, .peekBackstage 0] =
        [.flag true, .flag true, .flag true, .item 1] := by
  decide

/-! ## Failing operations -/

/-- The items of both stages, oldest first, as `peek` and `peek_backstage` read
them. -/
def stored (queue : StagingQueue T) : List T := (List.range queue.numMainstage).map queue.peek ++
    (List.range queue.numBackstage).map queue.peekBackstage

def accepted (queue : StagingQueue T) : Op T → List T
  | .push item => if (queue.push item).2 then [item] else []
  | _ => []

/-- The items removed from the main stage by one operation. -/
def removed (queue : StagingQueue T) : Op T → List T
  | .pop => (List.range (min 1 queue.numMainstage)).map queue.peek
  | .popAll => (List.range queue.numMainstage).map queue.peek
  | _ => []

/-- A run in which failed operations change nothing, the stages respect the
capacity, and every accepted item is removed or stored exactly once, in order. -/
structure Sound (initial : StagingQueue T) (ops : List (Op T)) : Prop where
  failed_keeps : (system T).Along (fun queue op => ((system T).step queue op).2 = .flag false →
      ((system T).step queue op).1 = queue) initial ops
  bounded : ∀ before after, ops = before ++ after →
    ((system T).run initial before).numMainstage ≤ initial.capacity ∧
      ((system T).run initial before).numBackstage ≤ initial.capacity
  conserved : ∀ before after, ops = before ++ after → (system T).gather accepted initial before =
      (system T).gather removed initial before ++ ((system T).run initial before).stored

/-- The back stage fits behind the main stage whenever `sync` is called. -/
def SyncFits (queue : StagingQueue T) : Op T → Prop
  | .sync => queue.numMainstage + queue.numBackstage ≤ queue.capacity
  | _ => True

instance (queue : StagingQueue T) : (op : Op T) → Decidable (SyncFits queue op)
  | .sync => inferInstanceAs (Decidable (_ ≤ _))
  | .push _ | .pop | .popAll | .peek _ | .peekBackstage _ | .latest _ | .iterate | .size
  | .backSize | .empty => isTrue trivial

theorem map_range_getD (items : List T) (null : T) :
    (List.range items.length).map (fun index => items.getD index null) = items := by
  apply List.ext_getElem
  · simp
  · intro index _ inside
    simp [inside]

namespace Holds

variable {capacity : Nat} {behavior : OverflowBehavior} {null : T}
variable {queue : StagingQueue T} {stages : Stages T}

theorem map_peek (holds : Holds capacity behavior null queue stages) :
    (List.range queue.numMainstage).map queue.peek = stages.main := by
  rw [holds.main_eq, funext holds.peek, map_range_getD]

theorem stored_eq (holds : Holds capacity behavior null queue stages) :
    queue.stored = stages.main ++ stages.back := by
  rw [stored, holds.map_peek, funext holds.peekBackstage, holds.back_eq, map_range_getD]

end Holds

/-- What a faulting queue satisfies as long as every `sync` fits. -/
def FaultInv (capacity : Nat) (null : T) (queue : StagingQueue T) : Prop :=
  ∃ stages, Holds capacity .kFault null queue stages

variable {capacity : Nat} {null : T} {queue : StagingQueue T}

theorem faultInv_step (op : Op T) (inv : FaultInv capacity null queue)
    (fits : SyncFits queue op) : FaultInv capacity null ((system T).step queue op).1 := by
  obtain ⟨stages, holds⟩ := inv
  exact ⟨_, (holds.step op fun isSync _ => by rwa [isSync] at fits).2⟩

theorem stored_step (op : Op T) (inv : FaultInv capacity null queue) (fits : SyncFits queue op) :
    queue.stored ++ queue.accepted op =
      queue.removed op ++ ((system T).step queue op).1.stored := by
  obtain ⟨stages, holds⟩ := inv
  have next := (holds.step op fun isSync _ => by rwa [isSync] at fits).2
  rw [holds.stored_eq, next.stored_eq]
  cases op with
  | push item =>
      simp only [accepted, removed, (holds.push item).1, Stages.system, Stages.push]
      split <;> simp
  | sync =>
      have room : queue.numMainstage + queue.numBackstage ≤ queue.capacity := fits
      rw [holds.main_eq, holds.back_eq, holds.capacity_eq] at room
      simp [accepted, removed, Stages.system, Stages.sync, Nat.not_lt.mpr room]
  | pop =>
      have front : (List.range (min 1 queue.numMainstage)).map queue.peek = stages.main.take 1 := by
        rw [funext holds.peek, holds.main_eq]
        cases stages.main <;> simp [List.range_succ]
      simp only [accepted, removed, front, Stages.system, List.append_nil]
      cases stages.main <;> simp
  | popAll => simp [accepted, removed, holds.map_peek, Stages.system]
  | peek | peekBackstage | latest | iterate | size | backSize | empty =>
      simp [accepted, removed, Stages.system]

/-- In a state of the invariant a failed operation changes nothing exactly when
it is not a `sync` that overflows. -/
theorem failed_keeps_iff (op : Op T) (inv : FaultInv capacity null queue) :
    (((system T).step queue op).2 = .flag false → ((system T).step queue op).1 = queue) ↔
      SyncFits queue op := by
  obtain ⟨stages, holds⟩ := inv
  cases op with
  | sync =>
      constructor
      · intro keeps
        by_contra (overflow : ¬queue.numMainstage + queue.numBackstage ≤ queue.capacity)
        have counters : queue.mergeStages.numMainstage > queue.mergeStages.capacity :=
          Nat.lt_of_not_le overflow
        have failed : queue.sync = (queue.mergeStages, false) := by
          have behaviorEq : queue.mergeStages.overflowBehavior = .kFault := holds.behavior_eq
          simp only [StagingQueue.sync, counters, if_true, behaviorEq]
        have kept := keeps (by simp [system, failed])
        simp only [system, failed] at kept
        have emptied : queue.numBackstage = 0 := by
          rw [← kept]
          rfl
        have mainBound := holds.main_le
        rw [holds.main_eq, holds.capacity_eq, emptied] at overflow
        omega
      · intro fits failed
        have merged : ¬queue.mergeStages.numMainstage > queue.mergeStages.capacity :=
          Nat.not_lt.mpr fits
        simp [system, StagingQueue.sync, merged] at failed
  | push item =>
      refine ⟨fun _ => trivial, fun _ failed => ?_⟩
      simp only [system, StagingQueue.push, holds.behavior_eq] at failed ⊢
      split at failed
      next full => simp [full]
      next room => simp at failed
  | pop | popAll => exact ⟨fun _ => trivial, fun _ failed => by simp [system] at failed⟩
  | peek | peekBackstage | latest | iterate | size | backSize | empty =>
      exact ⟨fun _ => trivial, fun _ _ => rfl⟩

/-- A faulting queue is sound along exactly the runs in which every `sync` finds
room for the back stage. -/
theorem fault_sound_iff {capacity : Nat} (positive : 1 ≤ capacity)
    (fits : 2 * capacity < 2 ^ 64) (null : T) (ops : List (Op T)) :
    Sound (create capacity .kFault null) ops ↔
      (system T).Along SyncFits (create capacity .kFault null) ops := by
  have initial : FaultInv capacity null (create capacity .kFault null) :=
    ⟨_, holds_create positive fits .kFault null⟩
  have preserved : ∀ queue op, FaultInv capacity null queue → SyncFits queue op →
      FaultInv capacity null ((system T).step queue op).1 :=
    fun _ op inv fits => faultInv_step op inv fits
  have exact_run := System.along_iff_guarded preserved
    (fun queue op inv => failed_keeps_iff op inv) initial ops
  constructor
  · intro sound
    exact exact_run.mp sound.failed_keeps
  · intro synced
    refine ⟨exact_run.mpr synced, ?_, ?_⟩
    · rintro before after rfl
      obtain ⟨stages, holds⟩ := System.invariant_run preserved initial
        ((System.along_append _ _ _ _).mp synced).1
      rw [holds.main_eq, holds.back_eq]
      exact ⟨holds.main_le, holds.back_le⟩
    · rintro before after rfl
      have conserved := System.gather_conserved preserved
        (fun queue op inv fits => stored_step op inv fits) initial
        ((System.along_append _ _ _ _).mp synced).1
      simpa [stored, create] using conserved

theorem fault_sound_once :
    1 ≤ 2 ∧ Sound (create 2 .kFault 0) [.push 1, .sync, .push 2, .sync, .pop, .push 3, .sync] :=
  ⟨by decide, (fault_sound_iff (by decide) (by decide) 0
    [.push 1, .sync, .push 2, .sync, .pop, .push 3, .sync]).mpr (by decide)⟩

/-- A main stage of one item and one more item in the back stage: the failing
`sync` counts both as main stage, and the next push overwrites the older one. -/
theorem fault_sync_unsound :
    ((system Nat).run (create 1 .kFault 0) [.push 1, .sync, .push 2]).sync.2 = false ∧
      ((system Nat).run (create 1 .kFault 0) [.push 1, .sync, .push 2, .sync]).numMainstage = 2 ∧
      ((system Nat).run (create 1 .kFault 0)
        [.push 1, .sync, .push 2, .sync, .push 3]).stored = [3, 2, 3] ∧
      ¬Sound (create 1 .kFault 0) [.push 1, .sync, .push 2, .sync, .push 3] := by
  refine ⟨by decide, by decide, by decide, fun sound => ?_⟩
  have bounded := sound.bounded [.push 1, .sync, .push 2, .sync] [.push 3] rfl
  exact absurd bounded.1 (by decide)

/-! ## What a lossy queue keeps -/

/-- The item that an operation brings. -/
def pushed (_ : StagingQueue T) : Op T → List T
  | .push item => [item]
  | _ => []

theorem Holds.lossy_step {behavior : OverflowBehavior} {stages : Stages T}
    (holds : Holds capacity behavior null queue stages) (lossy : behavior ≠ .kFault) (op : Op T) :
    (queue.removed op ++ ((system T).step queue op).1.stored).Sublist
      (queue.stored ++ queue.pushed op) := by
  have next := (holds.step op fun _ fault => absurd fault lossy).2
  rw [holds.stored_eq, next.stored_eq]
  cases op with
  | push item =>
      simp only [removed, pushed, Stages.system, Stages.push, List.nil_append, List.append_assoc]
      split
      · cases behavior with
        | kPop => exact ((List.tail_sublist _).append_right _).append_left _
        | kReject => exact (List.sublist_append_left _ _).append_left _
        | kFault => contradiction
      · exact List.Sublist.refl _
  | sync =>
      simp only [removed, pushed, Stages.system, Stages.sync, List.nil_append, List.append_nil]
      split
      · cases behavior with
        | kPop => simpa using List.drop_sublist _ (stages.main ++ stages.back)
        | kReject => simpa using List.take_sublist _ (stages.main ++ stages.back)
        | kFault => contradiction
      · simp
  | pop =>
      have front : queue.removed .pop = stages.main.take 1 := by
        rw [removed, funext holds.peek, holds.main_eq]
        cases stages.main <;> simp [List.range_succ]
      rw [front]
      cases main : stages.main <;> simp [pushed, Stages.system, main]
  | popAll => simp [pushed, removed, holds.map_peek, Stages.system]
  | peek | peekBackstage | latest | iterate | size | backSize | empty =>
      simp [pushed, removed, Stages.system]

/-- What a queue that pops or rejects hands out, and then what it still holds, is a part of what was
pushed: each item at most once, in the order of the pushes. -/
theorem lossy_run (positive : 1 ≤ capacity) (fits : 2 * capacity < 2 ^ 64)
    {behavior : OverflowBehavior} (lossy : behavior ≠ .kFault) (null : T) (ops : List (Op T)) :
    let initial := create capacity behavior null
    ((system T).gather removed initial ops ++ ((system T).run initial ops).stored).Sublist
      ((system T).gather pushed initial ops) :=
  System.gather_sublist
    (fun queue op (held : ∃ stages, Holds capacity behavior null queue stages) =>
      ⟨_, (held.choose_spec.step op fun _ fault => absurd fault lossy).2⟩)
    (fun _ op held => held.choose_spec.lossy_step lossy op)
    ⟨_, holds_create positive fits behavior null⟩ ops

theorem lossy_run_reject : 1 ≤ 1 ∧ ((system Nat).gather removed (create 1 .kReject 0)
      [.push 1, .sync, .push 2, .push 3] ++ ((system Nat).run (create 1 .kReject 0)
        [.push 1, .sync, .push 2, .push 3]).stored).Sublist [1, 2, 3] :=
  ⟨by decide, lossy_run (by decide) (by decide) (by decide) 0 [.push 1, .sync, .push 2, .push 3]⟩

end Gxf.Std.StagingQueue
