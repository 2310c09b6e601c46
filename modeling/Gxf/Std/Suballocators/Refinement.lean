import Gxf.Std.Suballocators.FirstFit
import Gxf.Std.Suballocators.Search
import Gxf.Std.Suballocators.Update

/-!
# The allocator is first fit

The tree represents an area: its taken nodes are the covers of the blocks, and the leaf
at which a block starts stores the size of the block.  Every operation keeps this and
answers as the area does.
-/

namespace Gxf.Std.FirstFitAllocatorBase

open Gxf.Lib FirstFit

/-- The tree stores the blocks of an area. -/
structure Represents (depth : Nat) (tree : List Memory) (area : FirstFit) : Prop where
  room : area.size ≤ 2 ^ depth
  wellFormed : area.WellFormed
  sound : Sound area.size depth (takenNodes depth area.blocks) (fun _ => False) tree
  stored : ∀ cell < 2 ^ depth, ∀ size : Int, blockAt tree (2 ^ depth + cell) = some size ↔
    ∃ block ∈ area.blocks, block.start = cell ∧ block.size = size

namespace Represents

variable {depth : Nat} {tree : List Memory} {area : FirstFit}

theorem leaf_inside {cell : Nat} (isCell : cell < 2 ^ depth) : Inside depth (2 ^ depth + cell) :=
  ⟨Nat.lt_of_lt_of_le (Nat.two_pow_pos depth) (Nat.le_add_right ..), by omega⟩

section

variable (represents : Represents depth tree area)
include represents

theorem flags_area : flags area.size depth (takenNodes depth area.blocks) depth 1 =
      (List.range area.size).map area.isFree := by
  apply flags_root represents.room
  · exact fun node isTaken => (represents.wellFormed.taken_apart represents.room isTaken).1
  · intro cell inside
    have room := represents.room
    have above : (∃ node ∈ takenNodes depth area.blocks, Above node (2 ^ depth + cell)) ↔
        ∃ block ∈ area.blocks, block.Contains cell :=
      represents.wellFormed.taken_above_iff represents.room (by omega)
    rw [isFree_iff, and_iff_right inside]
    constructor
    · intro free node isTaken isAbove
      obtain ⟨block, isBlock, contains⟩ := above.mp ⟨node, isTaken, isAbove⟩
      exact free block isBlock contains
    · intro free block isBlock contains
      obtain ⟨node, isTaken, isAbove⟩ := above.mpr ⟨block, isBlock, contains⟩
      exact free node isTaken isAbove

theorem root_fits {size : Nat} (positive : 0 < size) : (size : Int) ≤ (nodeAt tree 1).max ↔
      size ≤ longestRun ((List.range area.size).map area.isFree) := by
  have inLayer : Layer 0 1 := ⟨Nat.le_refl 1, Nat.one_lt_two⟩
  have sound := represents.sound
  have powers := Nat.two_pow_pos depth
  rw [← represents.flags_area]
  by_cases isMarked : (nodeAt tree 1).max = -1
  · rw [isMarked]
    refine iff_of_false (by omega) fun fits => ?_
    obtain ⟨-, -, node, isTaken, isAbove⟩ := sound.marked 1 ⟨Nat.one_pos, by omega⟩ isMarked
    have nodePositive := (represents.wellFormed.taken_apart represents.room isTaken).1
    have isRoot : node = 1 := by
      have le := isAbove.le
      omega
    exact not_taken_of_fits positive fits (isRoot ▸ isTaken)
  · have value := sound.plainAt_eq (Nat.zero_add depth) inLayer fun _ _ => id
    rw [plainAt, Memory.plain_of_unmarked isMarked] at value
    rw [value, Memory.summary, Nat.cast_le]

theorem leaf_taken {block : Block} (isBlock : block ∈ area.blocks)
    (isTaken : 2 ^ depth + block.start ∈ takenNodes depth area.blocks) :
    ((2 ^ depth + block.start) % 2 = 1 ∨ block.size = 1) ∧
      ∃ rest, blockCover depth block = (2 ^ depth + block.start) :: rest := by
  obtain ⟨positive, inside⟩ := represents.wellFormed.cover_room represents.room isBlock
  have contains : block.Contains block.start := ⟨Nat.le_refl _, by omega⟩
  have member := represents.wellFormed.cover_of_above represents.room isBlock contains isTaken
    (by omega) (Above.refl _)
  obtain ⟨ends, rest, isCover⟩ :=
    cover_left (Nat.le_add_right ..) (blockCover_high positive inside) member
  exact ⟨by omega, rest, isCover⟩

theorem even_block (leaf : Nat) (isEven : leaf % 2 = 0)
    (isTaken : leaf ∈ takenNodes depth area.blocks) (size : Int)
    (isStored : blockAt tree leaf = some size) : size = 1 := by
  obtain ⟨owner, isOwner, member⟩ := mem_takenNodes.mp isTaken
  obtain ⟨ownerPositive, ownerInside⟩ := represents.wellFormed.cover_room represents.room isOwner
  obtain ⟨leafPositive, leafBound⟩ := blockCover_bounds ownerPositive ownerInside member
  rw [Nat.pow_succ] at leafBound
  have isMarked : (nodeAt tree leaf).max = -1 := by
    rw [blockAt] at isStored
    split at isStored
    next isMarked => exact isMarked
    next => cases isStored
  have isLeaf := (represents.sound.marked leaf ⟨leafPositive, by omega⟩ isMarked).1
  obtain ⟨cell, rfl⟩ := Nat.exists_eq_add_of_le isLeaf
  obtain ⟨block, isBlock, rfl, rfl⟩ := (represents.stored cell (by omega) size).mp isStored
  obtain ⟨isOdd | isSingle, -⟩ := represents.leaf_taken isBlock isTaken
  · omega
  · rw [isSingle, Nat.cast_one]

end

end Represents

/-! ## Updates of blocks -/

section Blocks

variable {depth : Nat} {tree : List Memory} {area : FirstFit} {block : Block}

/-- `update` sets the nodes that cover a block. -/
theorem update_eq (length : tree.length = 2 * 2 ^ depth) (positive : 0 < block.size)
    (inside : block.start + block.size ≤ 2 ^ depth) (free : Int) :
    update (2 ^ depth) tree block.start (block.start + block.size) free =
      (blockCover depth block).foldlM (setNode free) tree := by
  have left : ((block.start : Int) + (2 ^ depth : Nat)).toNat = 2 ^ depth + block.start := by omega
  have right : ((block.start : Int) + block.size + ((2 ^ depth : Nat) - 1)).toNat =
      2 ^ depth + block.start + block.size - 1 := by omega
  have enough : depth < tree.length := by
    have power := Nat.lt_two_pow_self (n := depth)
    omega
  rw [update, left, right, blockCover]
  exact updateLoop_eq (Nat.le_add_right ..) (blockCover_high positive inside) enough

namespace Represents

section

variable (represents : Represents depth tree area)
include represents

theorem take_cover (positive : 0 < block.size) (inside : block.start + block.size ≤ 2 ^ depth)
    (apart : ∀ other ∈ area.blocks, ∀ cell, ¬(block.Contains cell ∧ other.Contains cell)) :
    ∃ after, (blockCover depth block).foldlM (setNode 0) tree = some after ∧
      Sound area.size depth (takenNodes depth (block :: area.blocks)) (fun _ => False) after ∧
      ∀ leaf, 2 ^ depth ≤ leaf → blockAt after leaf = blockAt tree leaf := by
  have high := blockCover_high positive inside
  have sameTaken : takenNodes depth (block :: area.blocks) =
      takenNodes depth area.blocks ∪ (blockCover depth block).toFinset := by
    rw [takenNodes, List.flatMap_cons, List.toFinset_append, Finset.union_comm, takenNodes]
  rw [sameTaken]
  apply foldlM_take represents.sound (cover_nodup (Nat.le_add_right ..) high)
  · intro node member
    have bounds := blockCover_bounds positive inside member
    rw [Nat.pow_succ] at bounds
    exact ⟨bounds.1, by omega⟩
  · exact fun node member other otherMember =>
      cover_apart (Nat.le_add_right ..) high member otherMember
  · intro node isTaken
    refine ⟨(represents.wellFormed.taken_apart represents.room isTaken).1,
      fun other otherMember isAbove => ?_⟩
    obtain ⟨cell, isCell, aboveCell, contains⟩ := blockCover_cell positive inside otherMember
    obtain ⟨owner, isOwner, ownerContains⟩ := (represents.wellFormed.taken_above_iff
      represents.room isCell).mp ⟨node, isTaken, isAbove.trans aboveCell⟩
    exact apart owner isOwner cell ⟨contains, ownerContains⟩

theorem takeBlock (block : Block) (positive : 0 < block.size)
    (run : RunAt ((List.range area.size).map area.isFree) block.size block.start) :
    ∃ after, takeBlock (2 ^ depth) tree block.start block.size = some after ∧
      Represents depth after { area with blocks := block :: area.blocks } := by
  have wellFormed : WellFormed { area with blocks := block :: area.blocks } :=
    represents.wellFormed.acquire positive run
  have apart := (List.pairwise_cons.mp wellFormed.disjoint).1
  have inArea : block.start + block.size ≤ area.size :=
    wellFormed.inside block (List.mem_cons_self ..)
  have inside : block.start + block.size ≤ 2 ^ depth := Nat.le_trans inArea represents.room
  have startInside : Inside depth (2 ^ depth + block.start) := leaf_inside (by omega)
  have containsStart : block.Contains block.start := ⟨Nat.le_refl _, by omega⟩
  have otherStart : ∀ owner ∈ area.blocks, owner.start ≠ block.start := by
    intro owner isOwner sameStart
    have ownerPositive := represents.wellFormed.positive owner isOwner
    exact apart owner isOwner block.start ⟨containsStart, by omega, by omega⟩
  obtain ⟨middle, returned, middleSound, sameBlocks⟩ := represents.take_cover positive inside apart
  have unmarked : (nodeAt middle (2 ^ depth + block.start)).max ≠ -1 := by
    intro isMarked
    have isStored := sameBlocks (2 ^ depth + block.start) (Nat.le_add_right ..)
    rw [blockAt, if_pos isMarked] at isStored
    obtain ⟨owner, isOwner, sameStart, -⟩ :=
      (represents.stored block.start (by omega) _).mp isStored.symm
    exact otherStart owner isOwner sameStart
  have isTaken := (wellFormed.taken_above_iff represents.room (by omega)).mpr
    ⟨block, List.mem_cons_self .., containsStart⟩
  have sound := middleSound.mark startInside (Nat.le_add_right ..) (by omega) unmarked isTaken
    (by omega : 1 ≤ (block.size : Int))
  refine ⟨_, ?_, represents.room, wellFormed, sound, ?_⟩
  · have idx : (((2 ^ depth : Nat) : Int) + block.start).toNat = 2 ^ depth + block.start := by omega
    rw [FirstFitAllocatorBase.takeBlock, update_eq represents.sound.length positive inside,
      returned]
    simp only [idx, Option.bind_eq_bind, Option.bind_some, read_eq middleSound.length startInside]
    exact write_eq middleSound.length startInside
  · intro cell isCell size
    simp only [List.mem_cons, exists_eq_or_imp]
    by_cases isStart : cell = block.start
    · subst isStart
      rw [blockAt, nodeAt_set middleSound.length startInside, if_pos rfl, if_pos rfl,
        Option.some_inj, and_iff_right rfl]
      refine (or_iff_left ?_).symm
      rintro ⟨owner, isOwner, sameStart, -⟩
      exact otherStart owner isOwner sameStart
    · have elsewhere : 2 ^ depth + cell ≠ 2 ^ depth + block.start := by omega
      rw [or_iff_right fun both => isStart both.1.symm, ← represents.stored cell isCell size,
        ← sameBlocks _ (Nat.le_add_right ..), blockAt, blockAt,
        nodeAt_set middleSound.length startInside, if_neg elsewhere]

theorem give_cover (isBlock : block ∈ area.blocks) : ∃ after,
      (blockCover depth block).foldlM (setNode 1) (tree.set (2 ^ depth + block.start)
        { nodeAt tree (2 ^ depth + block.start) with size := 1, max := 1 }) = some after ∧
      Sound area.size depth
        (takenNodes depth (area.blocks.filter fun other => decide (other.start ≠ block.start)))
        (fun _ => False) after ∧
      ∀ cell < 2 ^ depth, blockAt after (2 ^ depth + cell) =
        if cell = block.start then none else blockAt tree (2 ^ depth + cell) := by
  have wellFormed := represents.wellFormed
  have inArea := wellFormed.inside block isBlock
  obtain ⟨positive, inside⟩ := wellFormed.cover_room represents.room isBlock
  have high := blockCover_high positive inside
  have startInside : Inside depth (2 ^ depth + block.start) := leaf_inside (by omega)
  have isMarked : (nodeAt tree (2 ^ depth + block.start)).max = -1 := by
    have isStored := (represents.stored block.start (by omega) block.size).mpr
      ⟨block, isBlock, rfl, rfl⟩
    rw [blockAt] at isStored
    split at isStored
    next isMarked => exact isMarked
    next => cases isStored
  have unmarked := represents.sound.unmark startInside (by omega) isMarked
  have blocksNow : ∀ cell < 2 ^ depth, blockAt (tree.set (2 ^ depth + block.start)
        { nodeAt tree (2 ^ depth + block.start) with size := 1, max := 1 }) (2 ^ depth + cell) =
          if cell = block.start then none else blockAt tree (2 ^ depth + cell) := by
    intro cell _
    rw [blockAt, nodeAt_set represents.sound.length startInside]
    by_cases isStart : cell = block.start
    · rw [isStart, if_pos rfl, if_pos rfl]
      rfl
    · have elsewhere : 2 ^ depth + cell ≠ 2 ^ depth + block.start := by omega
      rw [if_neg isStart, if_neg elsewhere, blockAt]
  rw [wellFormed.takenNodes_filter represents.room isBlock]
  obtain ⟨after, returned, sound, sameBlocks⟩ := foldlM_give (unmarked.mono fun other _ both => by
      obtain ⟨isTaken, isStale⟩ := both
      obtain ⟨-, rest, isCover⟩ := represents.leaf_taken isBlock isTaken
      have isHead : 2 ^ depth + block.start ∈ (blockCover depth block).head? := by
        rw [isCover]
        rfl
      exact ⟨2 ^ depth + block.start, isHead, isStale⟩)
    (cover_nodup (Nat.le_add_right ..) high)
    (fun node member => by
      have bounds := blockCover_bounds positive inside member
      rw [Nat.pow_succ] at bounds
      exact ⟨bounds.1, by omega⟩)
    (fun node member => mem_takenNodes.mpr ⟨block, isBlock, member⟩)
    (fun node isTaken => wellFormed.taken_apart represents.room isTaken)
    (fun node member leaf isLeaf isAbove => by
      by_cases inTree : leaf < 2 * 2 ^ depth
      · obtain ⟨cell, rfl⟩ := Nat.exists_eq_add_of_le isLeaf
        have isCell : cell < 2 ^ depth := by omega
        have contains := (blockCover_iff positive inside isCell).mp ⟨node, member, isAbove⟩
        rw [blocksNow cell isCell]
        split
        next => rfl
        next elsewhere =>
          apply Option.eq_none_iff_forall_not_mem.mpr
          intro size isStored
          obtain ⟨owner, isOwner, sameStart, -⟩ := (represents.stored cell isCell size).mp isStored
          have ownerPositive := wellFormed.positive owner isOwner
          have same := wellFormed.same_block isOwner isBlock ⟨by omega, by omega⟩ contains
          exact elsewhere (by rw [← sameStart, same])
      · have outside : (tree.set (2 ^ depth + block.start)
            { nodeAt tree (2 ^ depth + block.start) with size := 1, max := 1 }).length ≤ leaf := by
          rw [List.length_set, represents.sound.length]
          omega
        rw [blockAt, nodeAt, List.getD_eq_default _ _ outside]
        rfl)
  exact ⟨after, returned, sound, fun cell isCell =>
    (sameBlocks _ (Nat.le_add_right ..)).trans (blocksNow cell isCell)⟩

theorem search_start {size : Nat} (positive : 0 < size)
    (fits : size ≤ longestRun ((List.range area.size).map area.isFree)) :
    ∃ start : Nat, search size (2 ^ depth) tree tree.length 1 0 = some (.ok start) ∧
      FirstRun ((List.range area.size).map area.isFree) size start := by
  have length := represents.sound.length
  have powers := Nat.two_pow_pos depth
  have enough : depth < tree.length := by
    have power := Nat.lt_two_pow_self (n := depth)
    omega
  have parts : (List.range area.size).map area.isFree =
      [] ++ flags area.size depth (takenNodes depth area.blocks) depth 1 ++ [] := by
    rw [represents.flags_area, List.nil_append, List.append_nil]
  obtain ⟨start, found, first⟩ := search_first represents.sound represents.even_block positive
    (Nat.zero_add depth) ⟨Nat.le_refl 1, Nat.one_lt_two⟩ enough
    (fun node isTaken isAbove => by
      have nodePositive := (represents.wellFormed.taken_apart represents.room isTaken).1
      have le := isAbove.le
      omega)
    parts (fun earlier before => absurd before (Nat.not_lt_zero earlier))
    (represents.flags_area ▸ fits)
  rw [List.length_nil, Nat.cast_zero] at found
  exact ⟨start, found, first⟩

/-- `acquire` takes the first place where the block fits. -/
theorem acquire {size : Nat} (positive : 0 < size) :
    ∃ after, FirstFitAllocatorBase.acquire ⟨some tree, area.size, 2 ^ depth⟩ size =
        some (⟨some after, area.size, 2 ^ depth⟩, (area.acquire size).2) ∧
      (area.acquire size).1.size = area.size ∧ Represents depth after (area.acquire size).1 := by
  have length := represents.sound.length
  have powers := Nat.two_pow_pos depth
  have rootInside : Inside depth 1 := ⟨Nat.one_pos, by omega⟩
  have fitsIff := represents.root_fits positive
  rw [FirstFitAllocatorBase.acquire]
  simp only [read_eq length rootInside, Option.bind_eq_bind, Option.bind_some]
  by_cases fits : size ≤ longestRun ((List.range area.size).map area.isFree)
  · have notFull : ¬(nodeAt tree 1).max < size := by
      have isMax := fitsIff.mpr fits
      omega
    obtain ⟨start, found, first⟩ := represents.search_start positive fits
    obtain ⟨after, returned, nowRepresents⟩ := represents.takeBlock ⟨start, size⟩ positive first.1
    have returned : FirstFitAllocatorBase.takeBlock (2 ^ depth) tree start size = some after :=
      returned
    rw [acquire_some positive first]
    refine ⟨after, ?_, rfl, nowRepresents⟩
    rw [if_neg notFull]
    rw [found]
    simp only [returned, Option.bind_some]
    rfl
  · have isFull : (nodeAt tree 1).max < size := by
      have isMax := fitsIff.not.mpr fits
      omega
    rw [acquire_none (Nat.lt_of_not_le fits), if_pos isFull]
    exact ⟨tree, rfl, rfl, represents⟩

/-- `release` gives back the block that starts at the index. -/
theorem release (index : Int) :
    ∃ after, FirstFitAllocatorBase.release ⟨some tree, area.size, 2 ^ depth⟩ index =
        some (⟨some after, area.size, 2 ^ depth⟩, (area.release index).2) ∧
      (area.release index).1.size = area.size ∧ Represents depth after (area.release index).1 := by
  have length := represents.sound.length
  have room := represents.room
  rw [FirstFitAllocatorBase.release, FirstFit.release]
  by_cases outside : index < 0 ∨ index ≥ area.size
  · rw [if_pos outside, if_pos outside]
    exact ⟨tree, rfl, rfl, represents⟩
  rw [if_neg outside, if_neg outside]
  obtain ⟨cell, rfl⟩ := Int.eq_ofNat_of_zero_le (by omega : 0 ≤ index)
  have isCell : cell < 2 ^ depth := by omega
  have inside : Inside depth (2 ^ depth + cell) := leaf_inside isCell
  simp only [Int.toNat_natCast, Option.bind_eq_bind, Option.bind_some, read_eq length inside]
  by_cases isStart : area.blocks.any fun block => decide (block.start = cell)
  · obtain ⟨block, isBlock, startsHere⟩ := List.any_eq_true.mp isStart
    have sameStart := of_decide_eq_true startsHere
    subst sameStart
    obtain ⟨positive, blockInside⟩ := represents.wellFormed.cover_room room isBlock
    have isStored := (represents.stored block.start isCell block.size).mpr
      ⟨block, isBlock, rfl, rfl⟩
    have isMarked : (nodeAt tree (2 ^ depth + block.start)).max = -1 := by
      rw [blockAt] at isStored
      split at isStored
      next isMarked => exact isMarked
      next => cases isStored
    rw [blockAt, if_pos isMarked, Option.some_inj] at isStored
    obtain ⟨after, returned, sound, blocksNow⟩ := represents.give_cover isBlock
    rw [if_neg (not_not_intro isMarked), if_pos isStart]
    simp only [write_eq length inside, Option.bind_some]
    rw [isStored, update_eq (by rw [List.length_set, length]) positive blockInside, returned]
    refine ⟨after, rfl, trivial, room, represents.wellFormed.filter _, sound,
      fun cell isCell size => ?_⟩
    simp only [List.mem_filter, decide_eq_true_eq]
    rw [blocksNow cell isCell]
    split
    next isHere =>
      refine iff_of_false (fun never => by cases never) ?_
      rintro ⟨other, isKept, startsHere, -⟩
      exact isKept.2 (startsHere.trans isHere)
    next elsewhere =>
      rw [represents.stored cell isCell size]
      constructor
      · rintro ⟨other, isOther, startsHere, isSize⟩
        exact ⟨other, ⟨isOther, fun same => elsewhere (startsHere.symm.trans same)⟩, startsHere,
          isSize⟩
      · rintro ⟨other, ⟨isOther, -⟩, startsHere, isSize⟩
        exact ⟨other, isOther, startsHere, isSize⟩
  · have unmarked : (nodeAt tree (2 ^ depth + cell)).max ≠ -1 := by
      intro isMarked
      obtain ⟨block, isBlock, startsHere, -⟩ :=
        (represents.stored cell isCell _).mp (if_pos isMarked)
      exact isStart (List.any_eq_true.mpr ⟨block, isBlock, decide_eq_true startsHere⟩)
    rw [if_pos unmarked, if_neg isStart]
    exact ⟨tree, rfl, rfl, represents⟩

end

end Represents

end Blocks

end Gxf.Std.FirstFitAllocatorBase
