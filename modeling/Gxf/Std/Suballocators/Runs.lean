import Gxf.Std.Suballocators.Refinement

/-!
# Runs of the allocator

An allocated area starts without blocks, and every run of calls answers as first fit
does.
-/

namespace Gxf.Std.FirstFitAllocatorBase

open Gxf.Lib FirstFit Memory

variable {n depth : Nat} {tree : List Memory}

/-! ## Setting up -/

theorem growLayer_eq (n fuel layers : Nat) (small : 2 ^ layers < 2 * n)
    (enough : n ≤ 2 ^ (layers + fuel)) :
    ∃ depth, growLayer n (fuel + 1) (2 ^ layers) = some (2 ^ depth) ∧ n ≤ 2 ^ depth ∧
      2 ^ depth < 2 * n := by
  induction fuel generalizing layers with
  | zero =>
      rw [Nat.add_zero] at enough
      refine ⟨layers, ?_, enough, small⟩
      rw [growLayer, if_neg (by omega)]
  | succ fuel ih =>
      rw [growLayer]
      by_cases tooSmall : ((2 ^ layers : Nat) : Int) < n
      · rw [if_pos tooSmall, ← Nat.pow_succ]
        have next := Nat.pow_succ (n := 2) (m := layers)
        have same : layers + (fuel + 1) = layers + 1 + fuel := by omega
        exact ih (layers + 1) (by omega) (same ▸ enough)
      · rw [if_neg tooSmall]
        exact ⟨layers, rfl, by omega, small⟩

theorem fillLeaves_eq {count : Nat} (length : tree.length = 2 * 2 ^ depth)
    (le : count ≤ 2 ^ depth) :
    ∃ after, fillLeaves n (2 ^ depth) count tree = some after ∧ after.length = 2 * 2 ^ depth ∧
      ∀ cell < 2 ^ depth, nodeAt after (2 ^ depth + cell) =
        if 2 ^ depth - count ≤ cell then leafNode n depth ∅ (2 ^ depth + cell)
        else nodeAt tree (2 ^ depth + cell) := by
  induction count generalizing tree with
  | zero => exact ⟨tree, rfl, length, fun cell isCell => by rw [if_neg (by omega)]⟩
  | succ count ih =>
      have inside : Inside depth (2 ^ depth + (2 ^ depth - (count + 1))) :=
        Represents.leaf_inside (by omega)
      have leaf : (if ((2 ^ depth - (count + 1) : Nat) : Int) < n then ⟨1, 1, 1, 1⟩
          else ⟨0, 0, 0, 0⟩ : Memory) =
            leafNode n depth ∅ (2 ^ depth + (2 ^ depth - (count + 1))) := by
        rw [leafNode, if_neg (Finset.notMem_empty _)]
        simp only [Nat.cast_lt, Nat.add_lt_add_iff_left]
      have setLength : (tree.set (2 ^ depth + (2 ^ depth - (count + 1)))
          (leafNode n depth ∅ (2 ^ depth + (2 ^ depth - (count + 1))))).length = 2 * 2 ^ depth := by
        rw [List.length_set, length]
      obtain ⟨after, returned, afterLength, leaves⟩ := ih setLength (by omega)
      refine ⟨after, ?_, afterLength, fun cell isCell => ?_⟩
      · rw [fillLeaves, leaf, write_eq length inside]
        exact returned
      · rw [leaves cell isCell, nodeAt_set length inside]
        by_cases isHere : cell = 2 ^ depth - (count + 1)
        · rw [if_neg (by omega), if_pos (by omega), if_pos (by omega), isHere]
        · by_cases isLater : 2 ^ depth - count ≤ cell
          · rw [if_pos isLater, if_pos (by omega)]
          · rw [if_neg isLater, if_neg (by omega), if_neg (by omega)]

/-- The nodes behind an index are those of an area without blocks. -/
def Filled (n depth : Nat) (tree : List Memory) (idx : Nat) : Prop :=
  ∀ other, idx < other → Inside depth other →
    nodeAt tree other = expected n depth ∅ tree other ∧ (nodeAt tree other).max ≠ -1 ∧
      0 ≤ (nodeAt tree other).left ∧ 0 ≤ (nodeAt tree other).right ∧
      0 ≤ (nodeAt tree other).size

theorem fillNodes_eq {idx : Nat} (length : tree.length = 2 * 2 ^ depth) (inner : idx < 2 ^ depth)
    (filled : Filled n depth tree idx) :
    ∃ after, fillNodes idx tree = some after ∧ after.length = 2 * 2 ^ depth ∧
      Filled n depth after 0 := by
  induction idx generalizing tree with
  | zero => exact ⟨tree, rfl, length, filled⟩
  | succ idx ih =>
      have inside : Inside depth (idx + 1) := ⟨Nat.succ_pos idx, by omega⟩
      have leftInside : Inside depth (2 * (idx + 1)) := ⟨by omega, by omega⟩
      have rightInside : Inside depth (2 * (idx + 1) + 1) := ⟨by omega, by omega⟩
      obtain ⟨-, leftUnmarked, leftLeft, leftRight, leftSize⟩ :=
        filled (2 * (idx + 1)) (by omega) leftInside
      obtain ⟨-, rightUnmarked, rightLeft, rightRight, rightSize⟩ :=
        filled (2 * (idx + 1) + 1) (by omega) rightInside
      -- the new node says what its children say together
      have combined : ({ nodeAt tree (idx + 1) with
          size := (nodeAt tree (2 * (idx + 1))).size +
            (nodeAt tree (2 * (idx + 1) + 1)).size } : Memory).update
              (nodeAt tree (2 * (idx + 1))) (nodeAt tree (2 * (idx + 1) + 1)) =
                expected n depth ∅ tree (idx + 1) := by
        rw [update_eq_combine rfl, expected, if_neg (by omega), plainAt, plainAt,
          plain_of_unmarked leftUnmarked, plain_of_unmarked rightUnmarked]
        simp only [Finset.notMem_empty, if_false]
      have stored : ∀ other, nodeAt (tree.set (idx + 1) (expected n depth ∅ tree (idx + 1))) other =
          if other = idx + 1 then expected n depth ∅ tree (idx + 1) else nodeAt tree other :=
        nodeAt_set length inside
      have setLength : (tree.set (idx + 1) (expected n depth ∅ tree (idx + 1))).length =
          2 * 2 ^ depth := by
        rw [List.length_set, length]
      have next : Filled n depth (tree.set (idx + 1) (expected n depth ∅ tree (idx + 1))) idx := by
        intro other behind otherInside
        have sameExpected : expected n depth ∅
            (tree.set (idx + 1) (expected n depth ∅ tree (idx + 1))) other =
              expected n depth ∅ tree other := by
          have later : ∀ child, child ≠ idx + 1 → plainAt
              (tree.set (idx + 1) (expected n depth ∅ tree (idx + 1))) child =
                plainAt tree child := by
            intro child elsewhere
            rw [plainAt, stored, if_neg elsewhere, plainAt]
          exact expected_congr (fun _ => ⟨later _ (by omega), later _ (by omega)⟩) Iff.rfl
        rw [sameExpected, stored]
        by_cases isHere : other = idx + 1
        · rw [if_pos isHere, isHere, ← combined]
          refine ⟨rfl, update_unmarked (by omega), ?_, ?_, ?_⟩
          · rw [Memory.update]
            dsimp only
            split <;> omega
          · rw [Memory.update]
            dsimp only
            split <;> omega
          · rw [Memory.update]
            dsimp only
            omega
        · rw [if_neg isHere]
          exact filled other (by omega) otherInside
      obtain ⟨after, returned, afterLength, allFilled⟩ := ih setLength (by omega) next
      refine ⟨after, ?_, afterLength, allFilled⟩
      rw [fillNodes]
      simp only [read_eq length inside, read_eq length leftInside, read_eq length rightInside,
        Option.bind_eq_bind, Option.bind_some, combined, write_eq length inside]
      exact returned

theorem Filled.represents (filled : Filled n depth tree 0) (length : tree.length = 2 * 2 ^ depth)
    (room : n ≤ 2 ^ depth) : Represents depth tree ⟨n, []⟩ := by
  have plainly : ∀ idx, Inside depth idx → plainAt tree idx = nodeAt tree idx :=
    fun idx inside => plain_of_unmarked (filled idx inside.1 inside).2.1
  refine ⟨room, ⟨?_, ?_, List.Pairwise.nil⟩, ⟨length, ?_, ?_, ?_, ?_⟩, ?_⟩
  · exact fun block member => by cases member
  · exact fun block member => by cases member
  · intro idx inside
    obtain ⟨value, -, -, -, size⟩ := filled idx inside.1 inside
    rw [plainly idx inside]
    exact ⟨size, congrArg Memory.size value⟩
  · intro idx inside _
    rw [plainly idx inside]
    exact (filled idx inside.1 inside).1
  · intro idx inside
    obtain ⟨-, -, left, right, -⟩ := filled idx inside.1 inside
    exact ⟨left, right⟩
  · exact fun idx inside isMarked => absurd isMarked (filled idx inside.1 inside).2.1
  · intro cell isCell size
    have inside : Inside depth (2 ^ depth + cell) := Represents.leaf_inside isCell
    rw [blockAt, if_neg (filled _ inside.1 inside).2.1]
    refine iff_of_false (fun never => by cases never) ?_
    rintro ⟨block, member, -⟩
    cases member

theorem allocate_create (positive : 1 ≤ n) (small : n ≤ 2 ^ 29) (memory : Nat → Memory) :
    ∃ depth tree, create.allocate n (some memory) = some (⟨some tree, n, 2 ^ depth⟩, .ok ()) ∧
      2 ^ depth ≤ 2 ^ 29 ∧ Represents depth tree ⟨n, []⟩ := by
  obtain ⟨less, rfl⟩ : ∃ less, n = less + 1 := ⟨n - 1, by omega⟩
  have power : less < 2 ^ less := Nat.lt_two_pow_self
  obtain ⟨depth, grown, room, close⟩ := growLayer_eq (less + 1) less 0 (by omega)
    (by rw [Nat.zero_add]; omega)
  have shallow : 2 ^ depth ≤ 2 ^ 29 := by
    have below : 2 ^ depth < 2 ^ 30 := by omega
    have layers := (Nat.pow_lt_pow_iff_right (Nat.lt_succ_self 1)).mp below
    exact Nat.pow_le_pow_right (Nat.succ_pos 1) (by omega)
  have positive := Nat.two_pow_pos depth
  obtain ⟨leaves, filledLeaves, leavesLength, leafNodes⟩ := fillLeaves_eq (n := less + 1)
    (by rw [List.length_map, List.length_range, Nat.mul_comm] :
      ((List.range (2 ^ depth * 2)).map memory).length = 2 * 2 ^ depth) (Nat.le_refl _)
  have leavesFilled : Filled (less + 1) depth leaves (2 ^ depth - 1) := by
    intro other behind inside
    obtain ⟨cell, rfl⟩ : ∃ cell, other = 2 ^ depth + cell := ⟨other - 2 ^ depth, by omega⟩
    have isCell : cell < 2 ^ depth := by
      have bound := inside.2
      omega
    rw [leafNodes cell isCell, if_pos (by omega), expected, if_pos (Nat.le_add_right ..)]
    refine ⟨rfl, ?_⟩
    rw [leafNode, if_neg (Finset.notMem_empty _)]
    split
    all_goals decide
  obtain ⟨tree, filledNodes, treeLength, filled⟩ :=
    fillNodes_eq leavesLength (by omega) leavesFilled
  refine ⟨depth, tree, ?_, shallow, filled.represents treeLength room⟩
  have valid : ¬(((less + 1 : Nat) : Int) ≤ 0 ∨ ((less + 1 : Nat) : Int) ≥ 2 ^ 30) := by omega
  rw [Nat.pow_zero] at grown
  rw [allocate, create]
  simp only [Option.bind_eq_bind, Option.bind_some, Bool.false_eq_true, if_false, valid,
    Int.toNat_natCast, grown, filledLeaves, filledNodes]
  rfl

/-! ## Runs -/

theorem system_represents {area : FirstFit} (represents : Represents depth tree area) (op : Op)
    (sized : ∀ size, op = .acquire size → 1 ≤ size) :
    ∃ after, (system.step ⟨some tree, area.size, 2 ^ depth⟩ op).1 =
        ⟨some after, (FirstFit.system.step area op).1.size, 2 ^ depth⟩ ∧
      (system.step ⟨some tree, area.size, 2 ^ depth⟩ op).2 = (FirstFit.system.step area op).2 ∧
      Represents depth after (FirstFit.system.step area op).1 := by
  cases op with
  | acquire size =>
      have positive := sized size rfl
      obtain ⟨size, rfl⟩ := Int.eq_ofNat_of_zero_le (by omega : 0 ≤ size)
      obtain ⟨after, returned, sameSize, nowRepresents⟩ := represents.acquire (by omega : 0 < size)
      refine ⟨after, ?_, ?_, nowRepresents⟩
      · simp only [system, FirstFit.system, returned, Int.toNat_natCast, sameSize]
      · simp only [system, FirstFit.system, returned, Int.toNat_natCast]
  | release index =>
      obtain ⟨after, returned, sameSize, nowRepresents⟩ := represents.release index
      refine ⟨after, ?_, ?_, nowRepresents⟩
      · simp only [system, FirstFit.system, returned, sameSize]
      · simp only [system, FirstFit.system, returned]

/-- The allocator holds a tree that represents the area. -/
def Holds (depth : Nat) (allocator : FirstFitAllocatorBase) (area : FirstFit) : Prop :=
  ∃ tree, allocator = ⟨some tree, area.size, 2 ^ depth⟩ ∧ Represents depth tree area

theorem run_holds {allocator : FirstFitAllocatorBase} {area : FirstFit}
    (holds : Holds depth allocator area) (ops : List Op)
    (sizes : ∀ size, .acquire size ∈ ops → 1 ≤ size) :
    system.outputs allocator ops = FirstFit.system.outputs area ops ∧
      Holds depth (system.run allocator ops) (FirstFit.system.run area ops) := by
  have simulates : ∀ allocator area op, Holds depth allocator area →
      (∀ size, op = .acquire size → 1 ≤ size) →
        (system.step allocator op).2 = (FirstFit.system.step area op).2 ∧
          Holds depth (system.step allocator op).1 (FirstFit.system.step area op).1 := by
    rintro _ area op ⟨tree, rfl, represents⟩ sized
    obtain ⟨after, isAfter, sameAnswer, nowRepresents⟩ := system_represents represents op sized
    exact ⟨sameAnswer, after, isAfter, nowRepresents⟩
  exact System.simulation_run simulates holds
    (System.along_of_mem allocator fun op member size isAcquire => sizes size (isAcquire ▸ member))

namespace Represents

variable {area : FirstFit} {idx : Nat}

theorem size_le (represents : Represents depth tree area) (inside : Inside depth idx) :
    (plainAt tree idx).size ≤ area.size := by
  have sound := represents.sound
  induction idx using Nat.strongRecOn with
  | ind idx ih =>
      have ⟨positive, bound⟩ := inside
      by_cases isRoot : idx = 1
      · have value := sound.plainAt_eq (Nat.zero_add depth)
          (⟨Nat.le_refl 1, Nat.one_lt_two⟩ : Layer 0 1) fun _ _ => id
        rw [represents.flags_area] at value
        rw [isRoot, value, summary, List.length_map, List.length_range]
      · have parentSize := (sound.sized (idx / 2) ⟨by omega, by omega⟩).2
        have parentLe := ih (idx / 2) (by omega) ⟨by omega, by omega⟩
        have leftSize := (sound.sized (2 * (idx / 2)) ⟨by omega, by omega⟩).1
        have rightSize := (sound.sized (2 * (idx / 2) + 1) ⟨by omega, by omega⟩).1
        rw [expected_size, if_neg (by omega)] at parentSize
        by_cases isLeft : idx % 2 = 0
        · have here : 2 * (idx / 2) = idx := by omega
          rw [here] at parentSize rightSize
          omega
        · have here : 2 * (idx / 2) + 1 = idx := by omega
          rw [here] at parentSize rightSize
          omega

theorem within (represents : Represents depth tree area) (inside : Inside depth idx) :
    (0 ≤ (nodeAt tree idx).left ∧ (nodeAt tree idx).left ≤ (plainAt tree idx).size) ∧
      (0 ≤ (nodeAt tree idx).right ∧ (nodeAt tree idx).right ≤ (plainAt tree idx).size) ∧
      -1 ≤ (nodeAt tree idx).max ∧ (nodeAt tree idx).max ≤ (plainAt tree idx).size := by
  obtain ⟨layer, inLayer⟩ := Layer.exists_of_pos inside.1
  have above : layer < depth + 1 := by
    have bound := inside.2
    rw [← Nat.pow_succ'] at bound
    exact (Nat.pow_lt_pow_iff_right Nat.one_lt_two).mp (Nat.lt_of_le_of_lt inLayer.1 bound)
  have value := represents.sound.plainAt_eq (by omega : layer + (depth - layer) = depth) inLayer
    fun _ _ => id
  have isLeft := congrArg Memory.left value
  have isRight := congrArg Memory.right value
  rw [plainAt, plain_left] at isLeft
  rw [plainAt, plain_right] at isRight
  have leading := leadingRun_le (flags area.size depth (takenNodes depth area.blocks)
    (depth - layer) idx)
  have trailing := trailingRun_le (flags area.size depth (takenNodes depth area.blocks)
    (depth - layer) idx)
  have longest := longestRun_le (flags area.size depth (takenNodes depth area.blocks)
    (depth - layer) idx)
  rw [value]
  simp only [summary] at isLeft isRight ⊢
  refine ⟨by omega, by omega, ?_⟩
  by_cases isMarked : (nodeAt tree idx).max = -1
  · omega
  · rw [plainAt, plain_of_unmarked isMarked] at value
    have isMax := congrArg Memory.max value
    simp only [summary] at isMax
    omega

theorem bounded (represents : Represents depth tree area) (inside : Inside depth idx) :
    (0 ≤ (nodeAt tree idx).left ∧ (nodeAt tree idx).left ≤ area.size) ∧
      (0 ≤ (nodeAt tree idx).right ∧ (nodeAt tree idx).right ≤ area.size) ∧
      (-1 ≤ (nodeAt tree idx).max ∧ (nodeAt tree idx).max ≤ area.size) ∧
      0 ≤ (nodeAt tree idx).size ∧ (nodeAt tree idx).size ≤ area.size := by
  have sizeLe := represents.size_le inside
  obtain ⟨left, right, max⟩ := represents.within inside
  refine ⟨by omega, by omega, by omega, ?_⟩
  by_cases isMarked : (nodeAt tree idx).max = -1
  · have isLeaf := (represents.sound.marked idx inside isMarked).1
    obtain ⟨cell, rfl⟩ := Nat.exists_eq_add_of_le isLeaf
    have bound := inside.2
    obtain ⟨block, isBlock, -, isSize⟩ := (represents.stored cell (by omega) _).mp (if_pos isMarked)
    have inArea := represents.wellFormed.inside block isBlock
    omega
  · rw [plainAt, plain_of_unmarked isMarked] at left sizeLe
    omega

end Represents

theorem first_fit_answers (area : FirstFit) (ops : List Op) :
    ∀ answer ∈ FirstFit.system.outputs area ops,
      answer ≠ .fault ∧ answer ≠ .acquired (.error .kLogicError) ∧
        answer ≠ .released (.error .kLogicError) := by
  refine System.outputs_of_forall (fun area op => ?_) area ops
  cases op with
  | acquire size =>
      simp only [FirstFit.system, FirstFit.acquire]
      split <;> simp
  | release index =>
      simp only [FirstFit.system, FirstFit.release]
      split
      · simp
      split <;> simp

/-- After a successful allocation of up to `2 ^ 29` cells, every run of calls answers as
first fit does: blocks are taken at the lowest possible place and given back as they were
taken, they lie in the area and never overlap.  No logic error is ever reported, the tree
is never left and every loop ends. -/
theorem run_first_fit (positive : 1 ≤ n) (small : n ≤ 2 ^ 29) (memory : Nat → Memory)
    (ops : List Op) (sizes : ∀ size, .acquire size ∈ ops → 1 ≤ size) :
    ∃ allocator, create.allocate n (some memory) = some (allocator, .ok ()) ∧
      system.outputs allocator ops = FirstFit.system.outputs ⟨n, []⟩ ops ∧
      (FirstFit.system.run ⟨n, []⟩ ops).WellFormed ∧
      ∀ answer ∈ system.outputs allocator ops,
        answer ≠ .fault ∧ answer ≠ .acquired (.error .kLogicError) ∧
          answer ≠ .released (.error .kLogicError) := by
  obtain ⟨depth, tree, allocated, -, represents⟩ := allocate_create positive small memory
  obtain ⟨same, after, -, nowRepresents⟩ := run_holds ⟨tree, rfl, represents⟩ ops sizes
  refine ⟨_, allocated, same, nowRepresents.wellFormed, ?_⟩
  rw [same]
  exact first_fit_answers ⟨n, []⟩ ops

/-- A block is given back, and its cells are the first ones that fit the next block. -/
theorem run_first_fit_reuse :
    ∃ allocator, create.allocate 5 (some fun _ => ⟨0, 0, 0, 0⟩) = some (allocator, .ok ()) ∧
      system.outputs allocator [.acquire 2, .acquire 2, .release 0, .acquire 3, .acquire 1] =
        FirstFit.system.outputs ⟨5, []⟩
          [.acquire 2, .acquire 2, .release 0, .acquire 3, .acquire 1] := by
  obtain ⟨allocator, allocated, same, -⟩ := run_first_fit (by decide : 1 ≤ 5) (by decide)
    (fun _ => ⟨0, 0, 0, 0⟩) [.acquire 2, .acquire 2, .release 0, .acquire 3, .acquire 1]
    (by simp)
  exact ⟨allocator, allocated, same⟩

end Gxf.Std.FirstFitAllocatorBase
