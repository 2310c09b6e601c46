import Mathlib.Data.Finset.SDiff
import Mathlib.Data.List.Pairwise
import Gxf.Lib.FreeRuns
import Gxf.Lib.RangeCover
import Gxf.Std.Suballocators.FirstFitAllocatorBase

/-!
# First fit, cell by cell

The purpose of the allocator: blocks of an area of cells, each in the first place where
it fits.  Its tree represents the blocks of an area by the nodes that cover them.
-/

namespace Gxf.Std

open Gxf.Lib FirstFitAllocatorBase

/-- A block of cells. -/
structure Block where
  start : Nat
  size : Nat
  deriving DecidableEq, Repr

def Block.Contains (block : Block) (cell : Nat) : Prop :=
  block.start ≤ cell ∧ cell < block.start + block.size

instance (block : Block) (cell : Nat) : Decidable (block.Contains cell) :=
  inferInstanceAs (Decidable (_ ∧ _))

/-- An area of cells with the blocks that are acquired. -/
structure FirstFit where
  size : Nat
  blocks : List Block
  deriving DecidableEq, Repr

namespace FirstFit

/-- A cell of the area that belongs to no block. -/
def isFree (area : FirstFit) (cell : Nat) : Bool :=
  decide (cell < area.size) && area.blocks.all fun block => decide (¬block.Contains cell)

/-- A block of the size could start at a cell. -/
def fits (area : FirstFit) (size start : Nat) : Bool :=
  (List.range size).all fun offset => area.isFree (start + offset)

/-- The first place where the block fits. -/
def acquire (area : FirstFit) (size : Nat) : FirstFit × Except Error Int :=
  match (List.range area.size).find? (area.fits size) with
  | none => (area, .error .kOutOfMemory)
  | some start => ({ area with blocks := ⟨start, size⟩ :: area.blocks }, .ok start)

/-- The block that starts at an index is given back. -/
def release (area : FirstFit) (index : Int) : FirstFit × Except Error Unit :=
  if index < 0 ∨ index ≥ area.size then (area, .error .kInvalidSize)
  else if area.blocks.any fun block => decide (block.start = index.toNat) then
    ({ area with
        blocks := area.blocks.filter fun block => decide (block.start ≠ index.toNat) }, .ok ())
  else (area, .error .kBlockNotAllocated)

def system : System FirstFit Op Answer where
  step area
    | .acquire size =>
        let (area, result) := area.acquire size.toNat
        (area, .acquired result)
    | .release index =>
        let (area, result) := area.release index
        (area, .released result)

/-- The blocks lie inside the area and do not overlap. -/
structure WellFormed (area : FirstFit) : Prop where
  positive : ∀ block ∈ area.blocks, 0 < block.size
  inside : ∀ block ∈ area.blocks, block.start + block.size ≤ area.size
  disjoint : area.blocks.Pairwise fun first second =>
    ∀ cell, ¬(first.Contains cell ∧ second.Contains cell)

variable {area : FirstFit} {size start cell : Nat}

theorem isFree_iff : area.isFree cell = true ↔
      cell < area.size ∧ ∀ block ∈ area.blocks, ¬block.Contains cell := by
  rw [isFree, Bool.and_eq_true, decide_eq_true_eq, List.all_eq_true]
  simp only [decide_eq_true_eq]

theorem fits_iff : area.fits size start = true ↔
    RunAt ((List.range area.size).map area.isFree) size start := by
  rw [fits, List.all_eq_true]
  have cellIff : ∀ offset, ((List.range area.size).map area.isFree)[start + offset]? = some true ↔
      area.isFree (start + offset) = true := by
    intro offset
    rw [List.getElem?_map]
    by_cases inside : start + offset < area.size
    · rw [List.getElem?_range inside, Option.map_some, Option.some_inj]
    · rw [List.getElem?_eq_none (by rw [List.length_range]; omega)]
      refine iff_of_false (fun never => by cases never) fun free => ?_
      exact inside (isFree_iff.mp free).1
  simp only [RunAt, cellIff, List.mem_range]

theorem acquire_none (noRun : longestRun ((List.range area.size).map area.isFree) < size) :
    area.acquire size = (area, .error .kOutOfMemory) := by
  have nothing : (List.range area.size).find? (area.fits size) = none := by
    rw [List.find?_eq_none]
    intro start _ fits
    exact not_runAt_of_longestRun_lt noRun (fits_iff.mp fits)
  rw [acquire, nothing]

theorem acquire_some (positive : 0 < size)
    (first : FirstRun ((List.range area.size).map area.isFree) size start) :
    area.acquire size = ({ area with blocks := ⟨start, size⟩ :: area.blocks }, .ok start) := by
  obtain ⟨run, noEarlier⟩ := first
  have inside := run.inside positive
  rw [List.length_map, List.length_range] at inside
  have found : (List.range area.size).find? (area.fits size) = some start := by
    rw [List.find?_range_eq_some]
    refine ⟨fits_iff.mpr run, List.mem_range.mpr (by omega), fun earlier before => ?_⟩
    rw [Bool.not_eq_true', ← Bool.not_eq_true, fits_iff]
    exact noEarlier earlier before
  rw [acquire, found]

namespace WellFormed

theorem same_block (wellFormed : WellFormed area) {first second : Block}
    (isFirst : first ∈ area.blocks) (isSecond : second ∈ area.blocks)
    (inFirst : first.Contains cell) (inSecond : second.Contains cell) : first = second := by
  by_contra different
  have symmetric : Std.Symm fun (first second : Block) =>
      ∀ cell, ¬(first.Contains cell ∧ second.Contains cell) :=
    ⟨fun _ _ apart cell both => apart cell both.symm⟩
  exact wellFormed.disjoint.forall isFirst isSecond different cell ⟨inFirst, inSecond⟩

theorem acquire (wellFormed : WellFormed area) (positive : 0 < size)
    (run : RunAt ((List.range area.size).map area.isFree) size start) :
    WellFormed { area with blocks := ⟨start, size⟩ :: area.blocks } := by
  have inside := run.inside positive
  rw [List.length_map, List.length_range] at inside
  have allFree := fits_iff.mpr run
  rw [fits, List.all_eq_true] at allFree
  refine ⟨?_, ?_, ?_⟩
  · exact List.forall_mem_cons.mpr ⟨positive, wellFormed.positive⟩
  · exact List.forall_mem_cons.mpr ⟨inside, wellFormed.inside⟩
  · refine List.pairwise_cons.mpr ⟨fun other isOther cell both => ?_, wellFormed.disjoint⟩
    obtain ⟨⟨low, high⟩, inOther⟩ := both
    dsimp only at low high
    have free := allFree (cell - start) (List.mem_range.mpr (by omega))
    have shifted : start + (cell - start) = cell := by omega
    rw [shifted] at free
    exact (isFree_iff.mp free).2 other isOther inOther

theorem filter (wellFormed : WellFormed area) (kept : Block → Bool) :
    WellFormed { area with blocks := area.blocks.filter kept } :=
  ⟨fun block member => wellFormed.positive block (List.mem_of_mem_filter member),
    fun block member => wellFormed.inside block (List.mem_of_mem_filter member),
    wellFormed.disjoint.filter kept⟩

end WellFormed

def blockCover (depth : Nat) (block : Block) : List Nat :=
  cover depth (2 ^ depth + block.start) (2 ^ depth + block.start + block.size - 1)

/-- The nodes that cover the blocks of an area. -/
def takenNodes (depth : Nat) (blocks : List Block) : Finset Nat :=
  (blocks.flatMap (blockCover depth)).toFinset

variable {depth node other : Nat} {block : Block}

theorem mem_takenNodes {blocks : List Block} :
    node ∈ takenNodes depth blocks ↔ ∃ block ∈ blocks, node ∈ blockCover depth block := by
  rw [takenNodes, List.mem_toFinset, List.mem_flatMap]

section Cover

variable (positive : 0 < block.size) (inside : block.start + block.size ≤ 2 ^ depth)

include positive inside

theorem blockCover_high : 2 ^ depth + block.start + block.size - 1 < 2 ^ (depth + 1) := by
  rw [Nat.pow_succ]
  omega

theorem blockCover_bounds (member : node ∈ blockCover depth block) :
    0 < node ∧ node < 2 ^ (depth + 1) :=
  cover_bounds (Nat.le_add_right ..) (blockCover_high positive inside) member

theorem blockCover_iff (isCell : cell < 2 ^ depth) :
    (∃ node ∈ blockCover depth block, Above node (2 ^ depth + cell)) ↔ block.Contains cell := by
  have inLayer : Layer depth (2 ^ depth + cell) :=
    ⟨Nat.le_add_right .., by rw [Nat.pow_succ]; omega⟩
  rw [blockCover, cover_iff (Nat.le_add_right ..) (blockCover_high positive inside) inLayer,
    Block.Contains]
  omega

theorem blockCover_cell (member : node ∈ blockCover depth block) :
    ∃ cell < 2 ^ depth, Above node (2 ^ depth + cell) ∧ block.Contains cell := by
  have bounds := blockCover_bounds positive inside member
  obtain ⟨leaf, ⟨low, high⟩, isAbove⟩ := exists_above bounds.1 bounds.2
  rw [Nat.pow_succ] at high
  obtain ⟨cell, rfl⟩ := Nat.exists_eq_add_of_le low
  exact ⟨cell, by omega, isAbove,
    (blockCover_iff positive inside (by omega)).mp ⟨node, member, isAbove⟩⟩

end Cover

namespace WellFormed

variable (wellFormed : WellFormed area) (room : area.size ≤ 2 ^ depth)

include wellFormed room

theorem cover_room (member : block ∈ area.blocks) :
    0 < block.size ∧ block.start + block.size ≤ 2 ^ depth :=
  ⟨wellFormed.positive block member, Nat.le_trans (wellFormed.inside block member) room⟩

theorem taken_above_iff (isCell : cell < 2 ^ depth) :
    (∃ node ∈ takenNodes depth area.blocks, Above node (2 ^ depth + cell)) ↔
      ∃ block ∈ area.blocks, block.Contains cell := by
  constructor
  · rintro ⟨node, isTaken, isAbove⟩
    obtain ⟨block, isBlock, member⟩ := mem_takenNodes.mp isTaken
    obtain ⟨positive, inside⟩ := wellFormed.cover_room room isBlock
    exact ⟨block, isBlock, (blockCover_iff positive inside isCell).mp ⟨node, member, isAbove⟩⟩
  · rintro ⟨block, isBlock, contains⟩
    obtain ⟨positive, inside⟩ := wellFormed.cover_room room isBlock
    obtain ⟨node, member, isAbove⟩ := (blockCover_iff positive inside isCell).mpr contains
    exact ⟨node, mem_takenNodes.mpr ⟨block, isBlock, member⟩, isAbove⟩

theorem cover_of_above (isBlock : block ∈ area.blocks) (contains : block.Contains cell)
    (isTaken : node ∈ takenNodes depth area.blocks) (isCell : cell < 2 ^ depth)
    (isAbove : Above node (2 ^ depth + cell)) : node ∈ blockCover depth block := by
  obtain ⟨owner, isOwner, member⟩ := mem_takenNodes.mp isTaken
  obtain ⟨positive, inside⟩ := wellFormed.cover_room room isOwner
  have inOwner := (blockCover_iff positive inside isCell).mp ⟨node, member, isAbove⟩
  rw [wellFormed.same_block isBlock isOwner contains inOwner]
  exact member

theorem taken_apart (isTaken : node ∈ takenNodes depth area.blocks) :
    0 < node ∧ ∀ other ∈ takenNodes depth area.blocks, Above node other → node = other := by
  obtain ⟨block, isBlock, member⟩ := mem_takenNodes.mp isTaken
  obtain ⟨positive, inside⟩ := wellFormed.cover_room room isBlock
  refine ⟨(blockCover_bounds positive inside member).1, fun other isOther isAbove => ?_⟩
  obtain ⟨otherBlock, isOtherBlock, otherMember⟩ := mem_takenNodes.mp isOther
  obtain ⟨otherPositive, otherInside⟩ := wellFormed.cover_room room isOtherBlock
  obtain ⟨cell, isCell, aboveCell, contains⟩ :=
    blockCover_cell otherPositive otherInside otherMember
  have sameBlock := wellFormed.cover_of_above room isOtherBlock contains isTaken isCell
    (isAbove.trans aboveCell)
  exact cover_apart (Nat.le_add_right ..) (blockCover_high otherPositive otherInside) sameBlock
    otherMember isAbove

omit room in
theorem same_start {first second : Block} (isFirst : first ∈ area.blocks)
    (isSecond : second ∈ area.blocks) (same : first.start = second.start) : first = second := by
  have firstPositive := wellFormed.positive first isFirst
  have secondPositive := wellFormed.positive second isSecond
  have inFirst : first.Contains first.start := ⟨by omega, by omega⟩
  exact wellFormed.same_block isFirst isSecond inFirst ⟨by omega, by omega⟩

theorem takenNodes_filter (isBlock : block ∈ area.blocks) :
    takenNodes depth (area.blocks.filter fun other => decide (other.start ≠ block.start)) =
      takenNodes depth area.blocks \ (blockCover depth block).toFinset := by
  obtain ⟨positive, inside⟩ := wellFormed.cover_room room isBlock
  ext node
  rw [Finset.mem_sdiff, List.mem_toFinset, mem_takenNodes, mem_takenNodes]
  constructor
  · rintro ⟨other, isKept, member⟩
    obtain ⟨isOther, different⟩ := List.mem_filter.mp isKept
    obtain ⟨otherPositive, otherInside⟩ := wellFormed.cover_room room isOther
    refine ⟨⟨other, isOther, member⟩, fun alsoHere => ?_⟩
    obtain ⟨cell, isCell, isAbove, contains⟩ := blockCover_cell otherPositive otherInside member
    have here := (blockCover_iff positive inside isCell).mp ⟨node, alsoHere, isAbove⟩
    have same := wellFormed.same_block isOther isBlock contains here
    exact of_decide_eq_true different (congrArg Block.start same)
  · rintro ⟨⟨other, isOther, member⟩, notHere⟩
    refine ⟨other, List.mem_filter.mpr ⟨isOther, decide_eq_true fun sameStart => ?_⟩, member⟩
    exact notHere (wellFormed.same_start isOther isBlock sameStart ▸ member)

end WellFormed

end FirstFit

end Gxf.Std
