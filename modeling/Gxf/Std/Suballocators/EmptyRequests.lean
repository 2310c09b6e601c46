import Gxf.Std.Suballocators.FirstFitAllocator

/-!
# Requests for no cells

`acquire` does not check its size.  A request for no cells, or for less, marks the first leaf as the
start of a block without taking a cell.  Callers hold what `acquire` answered them, and give it back
by its index.
-/

namespace Gxf.Std.FirstFitAllocatorBase

open Gxf.Lib FirstFit FirstFitAllocator

/-- What a caller holds: the index it was given and the size it asked for. -/
structure Extent where
  start : Int
  size : Int
  deriving DecidableEq, Repr

def Extent.Contains (extent : Extent) (cell : Int) : Prop :=
  extent.start ≤ cell ∧ cell < extent.start + extent.size

/-- The calls on an allocated area.  A release is that of what somebody holds, or thinks to hold. -/
inductive Call where
  | acquire (size : Int)
  | release (extent : Extent)
  deriving DecidableEq, Repr

def Call.op : Call → Op
  | .acquire size => .acquire size
  | .release extent => .release extent.start

def holds (held : List Extent) : Call → Answer → List Extent
  | .acquire size, .acquired (.ok index) => ⟨index, size⟩ :: held
  | .release extent, .released (.ok ()) => held.erase extent
  | _, _ => held

def holding : System (FirstFitAllocatorBase × List Extent) Call Answer where
  step state call :=
    let answer := system.step state.1 call.op
    ((answer.1, holds state.2 call answer.2), answer.2)

/-- Nobody gives back what another one holds. -/
def OwnRelease (held : List Extent) (extent : Extent) : Prop :=
  extent ∈ held ∨ ∀ other ∈ held, other.start ≠ extent.start

/-- Calls as callers should make them. -/
def Lawful (state : FirstFitAllocatorBase × List Extent) : Call → Prop
  | .acquire size => 1 ≤ size
  | .release extent => OwnRelease state.2 extent

/-- Calls that may also ask for no cells, or for less: in an area of a single cell, for exactly
none, or as long as nobody holds anything. -/
def Meets (state : FirstFitAllocatorBase × List Extent) : Call → Prop
  | .acquire size => 1 ≤ size ∨ state.1.size = 1 ∧ (size = 0 ∨ state.2 = [])
  | .release extent => OwnRelease state.2 extent

/-- A request gets no cell that is held.  What is held can be given back, and the next request for
as many cells then succeeds there or before. -/
def SafeCall (state : FirstFitAllocatorBase × List Extent) : Call → Prop
  | .acquire size =>
      (system.step state.1 (.acquire size)).2 ≠ .fault ∧
        ∀ index, (system.step state.1 (.acquire size)).2 = .acquired (.ok index) →
          ∀ extent ∈ state.2, ∀ cell,
            ¬(extent.Contains cell ∧ (⟨index, size⟩ : Extent).Contains cell)
  | .release extent =>
      extent ∈ state.2 → (system.step state.1 (.release extent.start)).2 = .released (.ok ()) ∧
          (1 ≤ extent.size → ∃ index ≤ extent.start,
            (system.step (system.step state.1 (.release extent.start)).1
              (.acquire extent.size)).2 = .acquired (.ok index))

/-- After the request, every lawful sequence of calls is safe in all its calls. -/
def Unharmed (state : FirstFitAllocatorBase × List Extent) (size : Int) : Prop :=
  ∀ calls, holding.Along Lawful (holding.step state (.acquire size)).1 calls →
    holding.Along SafeCall (holding.step state (.acquire size)).1 calls

section Area

variable {area : FirstFit} {size start : Nat}

theorem acquire_le (fits : area.fits size start = true) (inside : start < area.size) :
    ∃ first ≤ start, (area.acquire size).2 = .ok (first : Int) := by
  rw [FirstFit.acquire]
  cases found : (List.range area.size).find? (area.fits size) with
  | none =>
      rw [List.find?_eq_none] at found
      exact absurd fits (found start (List.mem_range.mpr inside))
  | some first =>
      rw [List.find?_range_eq_some] at found
      refine ⟨first, ?_, rfl⟩
      by_contra later
      have notFits := found.2.2 start (Nat.lt_of_not_le later)
      rw [fits] at notFits
      cases notFits

theorem fits_released (wellFormed : area.WellFormed) {block : Block}
    (isBlock : block ∈ area.blocks) :
    ({ area with
        blocks := area.blocks.filter fun other => decide (other.start ≠ block.start) } :
      FirstFit).fits block.size block.start = true := by
  rw [FirstFit.fits, List.all_eq_true]
  intro offset member
  have inBlock := List.mem_range.mp member
  have inside := wellFormed.inside block isBlock
  rw [isFree_iff]
  refine ⟨?_, fun other isOther contains => ?_⟩
  · dsimp only
    omega
  · obtain ⟨isOther, elsewhere⟩ := List.mem_filter.mp isOther
    have same := wellFormed.same_block isOther isBlock contains ⟨Nat.le_add_right .., by omega⟩
    rw [same] at elsewhere
    simp at elsewhere

end Area

/-- The tree represents what callers hold. -/
structure Clean (depth : Nat) (tree : List Memory) (area : FirstFit) (held : List Extent) :
    Prop where
  represents : Represents depth tree area
  single : area.size = 1 → depth = 0
  nodup : held.Nodup
  held_iff : ∀ extent, extent ∈ held ↔
    ∃ block ∈ area.blocks, extent = ⟨(block.start : Int), (block.size : Int)⟩

namespace Clean

variable {depth : Nat} {tree : List Memory} {area : FirstFit} {held : List Extent}

theorem acquire_cases (clean : Clean depth tree area held) {size : Int} (positive : 1 ≤ size) :
    ∃ after, (system.step ⟨some tree, area.size, 2 ^ depth⟩ (.acquire size) =
          (⟨some after, area.size, 2 ^ depth⟩, .acquired (.error .kOutOfMemory)) ∧
        Clean depth after area held) ∨
      ∃ start : Nat, system.step ⟨some tree, area.size, 2 ^ depth⟩ (.acquire size) =
          (⟨some after, area.size, 2 ^ depth⟩, .acquired (.ok start)) ∧
        (∀ extent ∈ held, ∀ cell,
          ¬(extent.Contains cell ∧ (⟨start, size⟩ : Extent).Contains cell)) ∧
        Clean depth after { area with blocks := ⟨start, size.toNat⟩ :: area.blocks }
          (⟨start, size⟩ :: held) := by
  obtain ⟨size, rfl⟩ := Int.eq_ofNat_of_zero_le (by omega : 0 ≤ size)
  obtain ⟨after, returned, sameSize, represents⟩ := clean.represents.acquire (by omega : 0 < size)
  have answered : system.step ⟨some tree, area.size, 2 ^ depth⟩ (.acquire size) =
      (⟨some after, area.size, 2 ^ depth⟩, .acquired (area.acquire size).2) := by
    simp only [system, returned]
  refine ⟨after, ?_⟩
  rw [answered, Int.toNat_natCast]
  cases found : (List.range area.size).find? (area.fits size) with
  | none =>
      left
      have refused : area.acquire size = (area, .error .kOutOfMemory) := by
        rw [FirstFit.acquire, found]
      rw [refused] at represents ⊢
      exact ⟨rfl, represents, clean.single, clean.nodup, clean.held_iff⟩
  | some start =>
      right
      have accepted : area.acquire size =
          ({ area with blocks := ⟨start, size⟩ :: area.blocks }, .ok (start : Int)) := by
        rw [FirstFit.acquire, found]
      rw [accepted] at represents ⊢
      have wellFormed := represents.wellFormed
      have apart : ∀ extent ∈ held, ∀ cell,
          ¬(extent.Contains cell ∧ (⟨start, size⟩ : Extent).Contains cell) := by
        rintro extent isHeld cell ⟨⟨low, high⟩, ⟨newLow, newHigh⟩⟩
        obtain ⟨block, isBlock, rfl⟩ := (clean.held_iff extent).mp isHeld
        dsimp only at low high newLow newHigh
        exact (List.pairwise_cons.mp wellFormed.disjoint).1 block isBlock cell.toNat
          ⟨⟨show start ≤ cell.toNat by omega, show cell.toNat < start + size by omega⟩,
            ⟨by omega, by omega⟩⟩
      refine ⟨start, rfl, apart, represents, clean.single, List.nodup_cons.mpr ⟨?_, clean.nodup⟩,
        fun extent => ?_⟩
      · intro isHeld
        refine apart _ isHeld start ⟨⟨Int.le_refl _, ?_⟩, ⟨Int.le_refl _, ?_⟩⟩ <;>
          dsimp only <;> omega
      · rw [List.mem_cons, clean.held_iff]
        simp only [List.mem_cons, exists_eq_or_imp]

theorem release_cases (clean : Clean depth tree area held) {extent : Extent}
    (own : OwnRelease held extent) :
    ∃ after, (extent ∈ held ∧
        system.step ⟨some tree, area.size, 2 ^ depth⟩ (.release extent.start) =
          (⟨some after, area.size, 2 ^ depth⟩, .released (.ok ())) ∧
        (∃ index ≤ extent.start, (system.step ⟨some after, area.size, 2 ^ depth⟩
          (.acquire extent.size)).2 = .acquired (.ok index)) ∧
        ∃ blocks, Clean depth after { area with blocks } (held.erase extent)) ∨
      extent ∉ held ∧
        (∃ code, system.step ⟨some tree, area.size, 2 ^ depth⟩ (.release extent.start) =
          (⟨some after, area.size, 2 ^ depth⟩, .released (.error code))) ∧
        Clean depth after area held := by
  obtain ⟨after, returned, sameSize, represents⟩ := clean.represents.release extent.start
  have answered : system.step ⟨some tree, area.size, 2 ^ depth⟩ (.release extent.start) =
      (⟨some after, area.size, 2 ^ depth⟩, .released (area.release extent.start).2) := by
    simp only [system, returned]
  have wellFormed := clean.represents.wellFormed
  refine ⟨after, ?_⟩
  rw [answered]
  by_cases isHeld : extent ∈ held
  · left
    obtain ⟨block, isBlock, isExtent⟩ := (clean.held_iff extent).mp isHeld
    have positive := wellFormed.positive block isBlock
    have inside := wellFormed.inside block isBlock
    have isRelease : area.release block.start = ({ area with
            blocks := area.blocks.filter fun other => decide (other.start ≠ block.start) },
          .ok ()) := by
      rw [FirstFit.release, if_neg (by omega), Int.toNat_natCast,
        if_pos (List.any_eq_true.mpr ⟨block, isBlock, decide_eq_true rfl⟩)]
    rw [isExtent] at represents ⊢
    rw [isRelease] at represents ⊢
    refine ⟨isExtent ▸ isHeld, rfl, ?_, _, represents, clean.single, clean.nodup.erase _,
      fun other => ?_⟩
    · obtain ⟨first, le, answer⟩ := acquire_le (fits_released wellFormed isBlock)
        (show block.start < area.size by omega)
      obtain ⟨later, again, -, -⟩ := represents.acquire positive
      refine ⟨first, by dsimp only; omega, ?_⟩
      simp only [system, again, answer]
    · rw [clean.nodup.mem_erase_iff, clean.held_iff]
      constructor
      · rintro ⟨different, kept, isKept, rfl⟩
        refine ⟨kept, List.mem_filter.mpr ⟨isKept, decide_eq_true fun same => different ?_⟩, rfl⟩
        rw [wellFormed.same_start isKept isBlock same]
      · rintro ⟨kept, isKept, rfl⟩
        obtain ⟨isKept, elsewhere⟩ := List.mem_filter.mp isKept
        refine ⟨fun same => ?_, kept, isKept, rfl⟩
        rw [Extent.mk.injEq, Nat.cast_inj] at same
        simp [same.1] at elsewhere
  · right
    have free := own.resolve_left isHeld
    have refused : ∃ code, area.release extent.start = (area, .error code) := by
      rw [FirstFit.release]
      by_cases outside : extent.start < 0 ∨ extent.start ≥ area.size
      · exact ⟨.kInvalidSize, if_pos outside⟩
      · rw [if_neg outside, if_neg]
        · exact ⟨.kBlockNotAllocated, rfl⟩
        · rw [List.any_eq_true]
          rintro ⟨block, isBlock, isStart⟩
          have sameStart := of_decide_eq_true isStart
          apply free _ ((clean.held_iff _).mpr ⟨block, isBlock, rfl⟩)
          dsimp only
          omega
    obtain ⟨code, isRelease⟩ := refused
    rw [isRelease] at represents ⊢
    exact ⟨isHeld, ⟨code, rfl⟩, represents, clean.single, clean.nodup, clean.held_iff⟩

end Clean

section Empty

variable {depth : Nat} {tree : List Memory} {n size : Int} {held : List Extent}

theorem update_empty (small : size ≤ 0) (free : Int) :
    update (2 ^ depth) tree 0 (0 + size) free = some tree := by
  have positive := Nat.two_pow_pos depth
  rw [update]
  unfold updateLoop
  exact if_neg (by omega)

section

variable (length : tree.length = 2 * 2 ^ depth)
include length

/-- An accepted request for no cells marks the first leaf. -/
theorem acquire_empty (small : size ≤ 0)
    (room : size ≤ (nodeAt tree 1).max) (start : size ≤ (nodeAt tree 1).left) :
    holding.step (⟨some tree, n, 2 ^ depth⟩, held) (.acquire size) =
      ((⟨some (tree.set (2 ^ depth) { nodeAt tree (2 ^ depth) with max := -1, size }), n,
        2 ^ depth⟩, ⟨0, size⟩ :: held), .acquired (.ok 0)) := by
  have positive := Nat.two_pow_pos depth
  have rootInside : Inside depth 1 := ⟨Nat.one_pos, by omega⟩
  have leafInside : Inside depth (2 ^ depth) := ⟨positive, by omega⟩
  obtain ⟨fuel, isFuel⟩ : ∃ fuel, tree.length = fuel + 1 := ⟨tree.length - 1, by omega⟩
  have found : search size (2 ^ depth) tree tree.length 1 0 = some (.ok 0) := by
    rw [isFuel, search, if_pos (by omega)]
    simp only [read_eq length rootInside, Option.bind_eq_bind, Option.bind_some, ge_iff_le, start,
      if_true]
    rfl
  have taken : takeBlock (2 ^ depth) tree 0 size =
      some (tree.set (2 ^ depth) { nodeAt tree (2 ^ depth) with max := -1, size }) := by
    have idx : (((2 ^ depth : Nat) : Int) + 0).toNat = 2 ^ depth := by omega
    rw [takeBlock, update_empty small]
    simp only [idx, Option.bind_eq_bind, Option.bind_some, read_eq length leafInside]
    exact write_eq length leafInside
  have accepted : FirstFitAllocatorBase.acquire ⟨some tree, n, 2 ^ depth⟩ size =
      some (⟨some (tree.set (2 ^ depth) { nodeAt tree (2 ^ depth) with max := -1, size }), n,
        2 ^ depth⟩, .ok 0) := by
    rw [FirstFitAllocatorBase.acquire]
    simp only [read_eq length rootInside, Option.bind_eq_bind, Option.bind_some,
      if_neg (Int.not_lt.mpr room), found, taken]
    rfl
  simp only [holding, Call.op, system, accepted, holds]

theorem release_empty (hasCells : 1 ≤ n)
    (isMarked : (nodeAt tree (2 ^ depth)).max = -1) (small : (nodeAt tree (2 ^ depth)).size ≤ 0) :
    system.step ⟨some tree, n, 2 ^ depth⟩ (.release 0) =
      (⟨some (tree.set (2 ^ depth) { nodeAt tree (2 ^ depth) with size := 1, max := 1 }), n,
        2 ^ depth⟩, .released (.ok ())) := by
  have positive := Nat.two_pow_pos depth
  have leafInside : Inside depth (2 ^ depth) := ⟨positive, by omega⟩
  have inside : ¬((0 : Int) < 0 ∨ 0 ≥ n) := by omega
  have released : FirstFitAllocatorBase.release ⟨some tree, n, 2 ^ depth⟩ 0 =
      some (⟨some (tree.set (2 ^ depth) { nodeAt tree (2 ^ depth) with size := 1, max := 1 }), n,
        2 ^ depth⟩, .ok ()) := by
    rw [FirstFitAllocatorBase.release, if_neg inside]
    simp only [Option.bind_eq_bind, Option.bind_some, Int.toNat_zero, Nat.add_zero,
      read_eq length leafInside, isMarked, ne_eq, not_true_eq_false, if_false,
      write_eq length leafInside, update_empty small]
    rfl
  simp only [system, released]

/-- A start without a mark is not given back. -/
theorem release_unmarked (hasCells : 1 ≤ n) (unmarked : (nodeAt tree (2 ^ depth)).max ≠ -1) :
    system.step ⟨some tree, n, 2 ^ depth⟩ (.release 0) =
      (⟨some tree, n, 2 ^ depth⟩, .released (.error .kBlockNotAllocated)) := by
  have positive := Nat.two_pow_pos depth
  have leafInside : Inside depth (2 ^ depth) := ⟨positive, by omega⟩
  have inside : ¬((0 : Int) < 0 ∨ 0 ≥ n) := by omega
  have refused : FirstFitAllocatorBase.release ⟨some tree, n, 2 ^ depth⟩ 0 =
      some (⟨some tree, n, 2 ^ depth⟩, .error .kBlockNotAllocated) := by
    rw [FirstFitAllocatorBase.release, if_neg inside]
    simp only [Option.bind_eq_bind, Option.bind_some, Int.toNat_zero, Nat.add_zero,
      read_eq length leafInside, ne_eq, unmarked, not_false_eq_true, if_true]
    rfl
  simp only [system, refused]

theorem harmed_at_start (hasCells : 1 ≤ n) (small : size ≤ 0) (room : size ≤ (nodeAt tree 1).max)
    (start : size ≤ (nodeAt tree 1).left) {extent : Extent} (isHeld : extent ∈ held)
    (isStart : extent.start = 0) : ¬Unharmed (⟨some tree, n, 2 ^ depth⟩, held) size := by
  intro unharmed
  have positive := Nat.two_pow_pos depth
  have leafInside : Inside depth (2 ^ depth) := ⟨positive, by omega⟩
  let marked := tree.set (2 ^ depth) { nodeAt tree (2 ^ depth) with max := -1, size }
  let unmarked := marked.set (2 ^ depth) { nodeAt marked (2 ^ depth) with size := 1, max := 1 }
  have accepted : holding.step (⟨some tree, n, 2 ^ depth⟩, held) (.acquire size) =
      ((⟨some marked, n, 2 ^ depth⟩, ⟨0, size⟩ :: held), .acquired (.ok 0)) :=
    acquire_empty length small room start
  have markedLength : marked.length = 2 * 2 ^ depth := by rw [List.length_set, length]
  have isMarked : nodeAt marked (2 ^ depth) = { nodeAt tree (2 ^ depth) with max := -1, size } := by
    rw [nodeAt_set length leafInside, if_pos rfl]
  have isUnmarked : (nodeAt unmarked (2 ^ depth)).max ≠ -1 := by
    rw [nodeAt_set markedLength leafInside, if_pos rfl]
    show (1 : Int) ≠ -1
    decide
  have released := release_empty (n := n) markedLength hasCells (by rw [isMarked])
    (by rw [isMarked]; exact small)
  have stepped : holding.step (⟨some marked, n, 2 ^ depth⟩, ⟨0, size⟩ :: held)
      (.release ⟨0, size⟩) = ((⟨some unmarked, n, 2 ^ depth⟩, held), .released (.ok ())) := by
    simp only [holding, Call.op, released, holds, List.erase_cons_head]
    rfl
  have safe := unharmed [.release ⟨0, size⟩, .release extent]
  rw [accepted] at safe
  simp only [System.along_cons, stepped, System.along_nil, and_true] at safe
  have second := (safe ⟨.inl List.mem_cons_self, .inl isHeld⟩).2 isHeld
  have refused := release_unmarked (n := n) (by rw [List.length_set, markedLength] :
    unmarked.length = 2 * 2 ^ depth) hasCells isUnmarked
  rw [isStart, refused] at second
  cases second.1

end

end Empty

/-! ## The way from the first leaf to the root -/

section Spine

variable {depth : Nat} {tree : List Memory} {n size : Int}

/-- Right children never claim less than no cells. -/
def RightsCount (depth : Nat) (tree : List Memory) : Prop :=
  ∀ idx, Inside depth idx → idx % 2 = 1 → 1 < idx → 0 ≤ (nodeAt tree idx).left

def StartsFree (node : Memory) : Prop := 1 ≤ node.left ∧ 1 ≤ node.max

theorem RightsCount.set (counts : RightsCount depth tree) (length : tree.length = 2 * 2 ^ depth)
    {idx : Nat} (inside : Inside depth idx) (isLeft : idx % 2 = 0 ∨ idx = 1) (node : Memory) :
    RightsCount depth (tree.set idx node) := by
  intro other otherInside isRight later
  rw [nodeAt_set length inside, if_neg (by omega)]
  exact counts other otherInside isRight later

theorem StartsFree.update {node leftChild rightChild : Memory} (free : StartsFree leftChild)
    (counts : 0 ≤ rightChild.left) : StartsFree (node.update leftChild rightChild) := by
  obtain ⟨left, max⟩ := free
  constructor
  · rw [Memory.update]
    dsimp only
    split <;> omega
  · exact le_trans max (le_trans (le_max_right _ _) (le_max_right _ _))

variable {layer fuel : Nat}

section

variable (length : tree.length = 2 * 2 ^ depth)
include length

theorem propagateLoop_round
    (inner : layer < depth) (enough : layer < fuel) (counts : RightsCount depth tree) :
    ∃ after, propagateLoop fuel tree (2 ^ layer) = propagateLoop (fuel - 1) after (2 ^ layer / 2) ∧
        after.length = 2 * 2 ^ depth ∧ RightsCount depth after ∧
        nodeAt after (2 ^ depth) = nodeAt tree (2 ^ depth) ∧
        (StartsFree (nodeAt tree (2 ^ (layer + 1))) → StartsFree (nodeAt after (2 ^ layer))) := by
  obtain ⟨fuel, rfl⟩ : ∃ less, fuel = less + 1 := ⟨fuel - 1, by omega⟩
  have positive := Nat.two_pow_pos layer
  have below : 2 ^ layer < 2 ^ depth := Nat.pow_lt_pow_right Nat.one_lt_two inner
  have doubled : 2 ^ (layer + 1) = 2 * 2 ^ layer := by rw [Nat.pow_succ, Nat.mul_comm]
  have inside : Inside depth (2 ^ layer) := ⟨positive, by omega⟩
  have leftInside : Inside depth (2 * 2 ^ layer) := ⟨by omega, by omega⟩
  have rightInside : Inside depth (2 * 2 ^ layer + 1) := ⟨by omega, by omega⟩
  have isLeft : 2 ^ layer % 2 = 0 ∨ 2 ^ layer = 1 := by
    cases layer with
    | zero => exact .inr rfl
    | succ layer => exact .inl (by rw [Nat.pow_succ, Nat.mul_mod_left])
  refine ⟨tree.set (2 ^ layer) ((nodeAt tree (2 ^ layer)).update (nodeAt tree (2 * 2 ^ layer))
    (nodeAt tree (2 * 2 ^ layer + 1))), ?_, by rw [List.length_set, length],
    counts.set length inside isLeft _, ?_, fun free => ?_⟩
  · rw [propagateLoop, if_pos positive]
    simp only [read_eq length inside, read_eq length leftInside, read_eq length rightInside,
      write_eq length inside, Option.bind_eq_bind, Option.bind_some, Nat.add_sub_cancel]
  · rw [nodeAt_set length inside, if_neg (Nat.ne_of_gt below)]
  · rw [doubled] at free
    rw [nodeAt_set length inside, if_pos rfl]
    exact free.update (counts _ rightInside (by omega) (by omega))

/-- From a node on the way, `propagateToRoot` goes on to the root and changes no right child. -/
theorem propagateLoop_spine
    (inner : layer < depth) (enough : layer < fuel) (counts : RightsCount depth tree) :
    ∃ after, propagateLoop fuel tree (2 ^ layer) = some after ∧ after.length = 2 * 2 ^ depth ∧
      RightsCount depth after ∧ nodeAt after (2 ^ depth) = nodeAt tree (2 ^ depth) ∧
      (StartsFree (nodeAt tree (2 ^ (layer + 1))) → StartsFree (nodeAt after 1)) := by
  induction layer generalizing tree fuel with
  | zero =>
      obtain ⟨after, round, afterLength, afterCounts, sameLeaf, free⟩ :=
        propagateLoop_round length inner enough counts
      refine ⟨after, ?_, afterLength, afterCounts, sameLeaf, free⟩
      rw [round]
      unfold propagateLoop
      rfl
  | succ layer ih =>
      obtain ⟨middle, round, middleLength, middleCounts, middleLeaf, middleFree⟩ :=
        propagateLoop_round length inner enough counts
      obtain ⟨after, returned, afterLength, afterCounts, sameLeaf, free⟩ :=
        @ih middle (fuel - 1) middleLength (by omega) (by omega) middleCounts
      refine ⟨after, ?_, afterLength, afterCounts, sameLeaf.trans middleLeaf,
        fun below => free (middleFree below)⟩
      rw [round, show 2 ^ (layer + 1) / 2 = 2 ^ layer by rw [Nat.pow_succ]; omega, returned]

theorem update_first (several : 0 < depth) (counts : RightsCount depth tree) (free : Int) :
    ∃ after, update (2 ^ depth) tree 0 (0 + 1) free = some after ∧
      after.length = 2 * 2 ^ depth ∧ RightsCount depth after ∧
      nodeAt after (2 ^ depth) = (nodeAt tree (2 ^ depth)).set free ∧
      (StartsFree ((nodeAt tree (2 ^ depth)).set free) → StartsFree (nodeAt after 1)) := by
  obtain ⟨layer, rfl⟩ : ∃ layer, depth = layer + 1 := ⟨depth - 1, by omega⟩
  have positive := Nat.two_pow_pos layer
  have doubled : 2 ^ (layer + 1) = 2 * 2 ^ layer := by rw [Nat.pow_succ, Nat.mul_comm]
  have inside : Inside (layer + 1) (2 ^ (layer + 1)) := ⟨by omega, by omega⟩
  have power : layer + 1 < 2 ^ (layer + 1) := Nat.lt_two_pow_self
  let leaf := (nodeAt tree (2 ^ (layer + 1))).set free
  have setLength : (tree.set (2 ^ (layer + 1)) leaf).length = 2 * 2 ^ (layer + 1) := by
    rw [List.length_set, length]
  have stored : nodeAt (tree.set (2 ^ (layer + 1)) leaf) (2 ^ (layer + 1)) = leaf := by
    rw [nodeAt_set length inside, if_pos rfl]
  obtain ⟨after, returned, afterLength, afterCounts, sameLeaf, startsFree⟩ :=
    propagateLoop_spine setLength (Nat.lt_succ_self layer)
      (by rw [setLength]; omega : layer < (tree.set (2 ^ (layer + 1)) leaf).length)
      (counts.set length inside (.inl (by omega)) leaf)
  rw [stored] at sameLeaf startsFree
  refine ⟨after, ?_, afterLength, afterCounts, sameLeaf, startsFree⟩
  have setFirst : setNode free tree (2 ^ (layer + 1)) = some after := by
    rw [setNode]
    simp only [read_eq length inside, write_eq length inside, Option.bind_eq_bind,
      Option.bind_some, propagateToRoot]
    rw [show 2 ^ (layer + 1) / 2 = 2 ^ layer by omega]
    exact returned
  obtain ⟨fuel, isFuel⟩ : ∃ fuel, tree.length = fuel + 2 := ⟨tree.length - 2, by omega⟩
  have left : ((0 : Int) + (2 ^ (layer + 1) : Nat)).toNat = 2 ^ (layer + 1) := by omega
  have right : ((0 : Int) + 1 + ((2 ^ (layer + 1) : Nat) - 1)).toNat = 2 ^ (layer + 1) := by omega
  rw [update, left, right, isFuel, updateLoop_succ (Nat.le_refl _), if_neg (by omega),
    if_neg (by omega), List.nil_append, List.foldlM_cons, setFirst, Option.bind_eq_bind,
    Option.bind_some, List.foldlM_nil, Option.pure_def, Option.bind_some, updateLoop,
    if_neg (by omega)]

theorem acquire_first (several : 0 < depth)
    (counts : RightsCount depth tree) (free : StartsFree (nodeAt tree 1)) :
    ∃ after, system.step ⟨some tree, n, 2 ^ depth⟩ (.acquire 1) =
        (⟨some after, n, 2 ^ depth⟩, .acquired (.ok 0)) ∧
      after.length = 2 * 2 ^ depth ∧ RightsCount depth after ∧
      (nodeAt after (2 ^ depth)).max = -1 ∧ (nodeAt after (2 ^ depth)).size = 1 := by
  have positive := Nat.two_pow_pos depth
  have rootInside : Inside depth 1 := ⟨Nat.one_pos, by omega⟩
  have leafInside : Inside depth (2 ^ depth) := ⟨positive, by omega⟩
  have isLeft : 2 ^ depth % 2 = 0 := by
    obtain ⟨layer, rfl⟩ : ∃ layer, depth = layer + 1 := ⟨depth - 1, by omega⟩
    rw [Nat.pow_succ, Nat.mul_mod_left]
  obtain ⟨fuel, isFuel⟩ : ∃ fuel, tree.length = fuel + 1 := ⟨tree.length - 1, by omega⟩
  have found : search 1 (2 ^ depth) tree tree.length 1 0 = some (.ok 0) := by
    rw [isFuel, search, if_pos (by omega)]
    simp only [read_eq length rootInside, Option.bind_eq_bind, Option.bind_some, ge_iff_le, free.1,
      if_true]
    rfl
  obtain ⟨middle, returned, middleLength, middleCounts, -, -⟩ :=
    update_first length several counts 0
  have taken : takeBlock (2 ^ depth) tree 0 1 =
      some (middle.set (2 ^ depth) { nodeAt middle (2 ^ depth) with max := -1, size := 1 }) := by
    have idx : (((2 ^ depth : Nat) : Int) + 0).toNat = 2 ^ depth := by omega
    rw [takeBlock, returned]
    simp only [idx, Option.bind_eq_bind, Option.bind_some, read_eq middleLength leafInside]
    exact write_eq middleLength leafInside
  have stored : nodeAt (middle.set (2 ^ depth)
      { nodeAt middle (2 ^ depth) with max := -1, size := 1 }) (2 ^ depth) =
        { nodeAt middle (2 ^ depth) with max := -1, size := 1 } := by
    rw [nodeAt_set middleLength leafInside, if_pos rfl]
  refine ⟨middle.set (2 ^ depth) { nodeAt middle (2 ^ depth) with max := -1, size := 1 }, ?_,
    by rw [List.length_set, middleLength],
    middleCounts.set middleLength leafInside (.inl isLeft) _, by rw [stored], by rw [stored]⟩
  have accepted : FirstFitAllocatorBase.acquire ⟨some tree, n, 2 ^ depth⟩ 1 =
      some (⟨some (middle.set (2 ^ depth)
        { nodeAt middle (2 ^ depth) with max := -1, size := 1 }), n, 2 ^ depth⟩, .ok 0) := by
    rw [FirstFitAllocatorBase.acquire]
    simp only [read_eq length rootInside, Option.bind_eq_bind, Option.bind_some,
      if_neg (Int.not_lt.mpr free.2), found, taken]
    rfl
  simp only [system, accepted]

theorem release_first (several : 0 < depth) (hasCells : 1 ≤ n) (counts : RightsCount depth tree)
    (isMarked : (nodeAt tree (2 ^ depth)).max = -1) (single : (nodeAt tree (2 ^ depth)).size = 1) :
    ∃ after, system.step ⟨some tree, n, 2 ^ depth⟩ (.release 0) =
        (⟨some after, n, 2 ^ depth⟩, .released (.ok ())) ∧
      after.length = 2 * 2 ^ depth ∧ RightsCount depth after ∧ StartsFree (nodeAt after 1) := by
  have positive := Nat.two_pow_pos depth
  have leafInside : Inside depth (2 ^ depth) := ⟨positive, by omega⟩
  have isLeft : 2 ^ depth % 2 = 0 := by
    obtain ⟨layer, rfl⟩ : ∃ layer, depth = layer + 1 := ⟨depth - 1, by omega⟩
    rw [Nat.pow_succ, Nat.mul_mod_left]
  have inside : ¬((0 : Int) < 0 ∨ 0 ≥ n) := by omega
  let unmarked := tree.set (2 ^ depth) { nodeAt tree (2 ^ depth) with size := 1, max := 1 }
  have unmarkedLength : unmarked.length = 2 * 2 ^ depth := by rw [List.length_set, length]
  have stored : nodeAt unmarked (2 ^ depth) =
      { nodeAt tree (2 ^ depth) with size := 1, max := 1 } := by
    rw [nodeAt_set length leafInside, if_pos rfl]
  obtain ⟨after, returned, afterLength, afterCounts, -, startsFree⟩ :=
    update_first unmarkedLength several (counts.set length leafInside (.inl isLeft) _) 1
  refine ⟨after, ?_, afterLength, afterCounts, startsFree ?_⟩
  · have released : FirstFitAllocatorBase.release ⟨some tree, n, 2 ^ depth⟩ 0 =
        some (⟨some after, n, 2 ^ depth⟩, .ok ()) := by
      rw [FirstFitAllocatorBase.release, if_neg inside]
      simp only [Option.bind_eq_bind, Option.bind_some, Int.toNat_zero, Nat.add_zero,
        read_eq length leafInside, isMarked, ne_eq, not_true_eq_false, if_false, single,
        write_eq length leafInside]
      rw [returned]
      rfl
    simp only [system, released]
  · rw [stored]
    exact ⟨Int.le_refl 1, Int.le_refl 1⟩

theorem harmed_at_free {held : List Extent}
    (several : 0 < depth) (hasCells : 1 ≤ n) (small : size ≤ 0) (counts : RightsCount depth tree)
    (free : StartsFree (nodeAt tree 1)) : ¬Unharmed (⟨some tree, n, 2 ^ depth⟩, held) size := by
  intro unharmed
  have positive := Nat.two_pow_pos depth
  have leafInside : Inside depth (2 ^ depth) := ⟨positive, by omega⟩
  have power : depth < 2 ^ depth := Nat.lt_two_pow_self
  have isLeft : 2 ^ depth % 2 = 0 := by
    obtain ⟨layer, rfl⟩ : ∃ layer, depth = layer + 1 := ⟨depth - 1, by omega⟩
    rw [Nat.pow_succ, Nat.mul_mod_left]
  let marked := tree.set (2 ^ depth) { nodeAt tree (2 ^ depth) with max := -1, size }
  have accepted : holding.step (⟨some tree, n, 2 ^ depth⟩, held) (.acquire size) =
      ((⟨some marked, n, 2 ^ depth⟩, ⟨0, size⟩ :: held), .acquired (.ok 0)) :=
    acquire_empty length small (le_trans small (le_trans Int.one_nonneg free.2))
      (le_trans small (le_trans Int.one_nonneg free.1))
  have markedLength : marked.length = 2 * 2 ^ depth := by rw [List.length_set, length]
  have sameRoot : nodeAt marked 1 = nodeAt tree 1 := by
    rw [nodeAt_set length leafInside, if_neg (by omega)]
  obtain ⟨taken, isTaken, takenLength, takenCounts, isMarked, single⟩ :=
    acquire_first (n := n) markedLength several (counts.set length leafInside (.inl isLeft) _)
      (sameRoot.symm ▸ free)
  obtain ⟨given, isGiven, givenLength, givenCounts, freeAgain⟩ :=
    release_first (n := n) takenLength several hasCells takenCounts isMarked single
  obtain ⟨last, again, -⟩ := acquire_first (n := n) givenLength several givenCounts freeAgain
  have different : (⟨0, 1⟩ : Extent) ≠ ⟨0, size⟩ := by
    rw [Ne, Extent.mk.injEq]
    omega
  have safe := unharmed [.acquire 1, .release ⟨0, size⟩, .acquire 1]
  rw [accepted] at safe
  simp only [System.along_cons, System.along_nil, and_true, holding, Call.op, isTaken, isGiven,
    holds] at safe
  have third := (safe ⟨Int.le_refl 1, .inl (List.mem_cons_of_mem _ List.mem_cons_self),
    Int.le_refl 1⟩).2.2
  refine third.2 0 (congrArg Prod.snd again) ⟨0, 1⟩ ?_ 0 ⟨⟨Int.le_refl 0, ?_⟩, Int.le_refl 0, ?_⟩
  · exact (List.mem_erase_of_ne different).mpr List.mem_cons_self
  · exact Int.one_pos
  · exact Int.one_pos

end

end Spine

/-! ## Runs -/

section Runs

variable {n depth : Nat} {tree : List Memory} {area : FirstFit} {held : List Extent} {size : Int}

/-- The only cell of an area is marked, and somebody holds no cells. -/
structure MarkedCell (tree : List Memory) (held : List Extent) (size : Int) : Prop where
  length : tree.length = 2
  node_eq : nodeAt tree 1 = ⟨1, 1, -1, size⟩
  small : size ≤ 0
  held_eq : held = [⟨0, size⟩]

/-- The allocators of runs, with what callers hold. -/
inductive Tracks (n : Nat) : FirstFitAllocatorBase × List Extent → Prop where
  | clean {depth : Nat} {tree : List Memory} {area : FirstFit} {held : List Extent}
      (clean : Clean depth tree area held) (size_eq : area.size = n) :
      Tracks n (⟨some tree, n, 2 ^ depth⟩, held)
  | marked {tree : List Memory} {held : List Extent} {size : Int}
      (marked : MarkedCell tree held size) (single : n = 1) : Tracks n (⟨some tree, 1, 1⟩, held)

theorem acquire_marked (length : tree.length = 2 * 2 ^ depth) (isMarked : (nodeAt tree 1).max = -1)
    (notNegative : 0 ≤ size) :
    holding.step (⟨some tree, n, 2 ^ depth⟩, held) (.acquire size) =
      ((⟨some tree, n, 2 ^ depth⟩, held), .acquired (.error .kOutOfMemory)) := by
  have positive := Nat.two_pow_pos depth
  have rootInside : Inside depth 1 := ⟨Nat.one_pos, by omega⟩
  have refused : FirstFitAllocatorBase.acquire ⟨some tree, n, 2 ^ depth⟩ size =
      some (⟨some tree, n, 2 ^ depth⟩, .error .kOutOfMemory) := by
    rw [FirstFitAllocatorBase.acquire]
    simp only [read_eq length rootInside, Option.bind_eq_bind, Option.bind_some, isMarked,
      if_pos (show (-1 : Int) < size by omega)]
    rfl
  simp only [holding, Call.op, system, refused, holds]

variable {state : FirstFitAllocatorBase × List Extent} {before allocator : FirstFitAllocatorBase}
  {count : Int} {memory : Option (Nat → Memory)}

theorem safe_refused {code : Error}
    (refused : holding.step state (.acquire size) = (state, .acquired (.error code))) :
    SafeCall state (.acquire size) := by
  have answered : (system.step state.1 (.acquire size)).2 = .acquired (.error code) :=
    congrArg Prod.snd refused
  rw [SafeCall, answered]
  exact ⟨fun never => (by cases never), fun index never => (by cases never)⟩

theorem Clean.single_free (clean : Clean depth tree area []) (single : area.size = 1) :
    nodeAt tree 1 = ⟨1, 1, 1, 1⟩ := by
  have isRoot := clean.single single
  subst isRoot
  have sound := clean.represents.sound
  have inside : Inside 0 1 := ⟨Nat.one_pos, Nat.one_lt_two⟩
  have noBlocks : area.blocks = [] := by
    apply List.eq_nil_iff_forall_not_mem.mpr
    intro block isBlock
    exact List.not_mem_nil ((clean.held_iff _).mpr ⟨block, isBlock, rfl⟩)
  have noneTaken : takenNodes 0 area.blocks = ∅ := by
    rw [noBlocks]
    rfl
  rw [noneTaken, single] at sound
  have unmarked : (nodeAt tree 1).max ≠ -1 := by
    intro isMarked
    obtain ⟨-, -, node, isTaken, -⟩ := sound.marked 1 inside isMarked
    exact Finset.notMem_empty node isTaken
  have value := sound.agrees 1 inside id
  rwa [plainAt, Memory.plain_of_unmarked unmarked] at value

theorem Clean.single_held (clean : Clean depth tree area held) (single : area.size = 1)
    (isHeld : held ≠ []) : (nodeAt tree 1).max = -1 ∧ ∃ extent ∈ held, extent.start = 0 := by
  have isRoot := clean.single single
  subst isRoot
  obtain ⟨extent, isHeld⟩ := List.exists_mem_of_ne_nil held isHeld
  obtain ⟨block, isBlock, isExtent⟩ := (clean.held_iff extent).mp isHeld
  have positive := clean.represents.wellFormed.positive block isBlock
  have inside := clean.represents.wellFormed.inside block isBlock
  have isStart : block.start = 0 := by omega
  refine ⟨?_, extent, isHeld, by rw [isExtent, isStart]; rfl⟩
  have isStored := (clean.represents.stored 0 Nat.one_pos block.size).mpr
    ⟨block, isBlock, isStart, rfl⟩
  rw [blockAt] at isStored
  split at isStored
  next isMarked => exact isMarked
  next => cases isStored

theorem clean_single (length : tree.length = 2) (isFree : nodeAt tree 1 = ⟨1, 1, 1, 1⟩) :
    Clean 0 tree ⟨1, []⟩ [] := by
  have filled : Filled 1 0 tree 0 := by
    intro other positive inside
    have isRoot : other = 1 := by
      have bound := inside.2
      omega
    rw [isRoot, isFree]
    exact ⟨rfl, by decide, by decide, by decide, by decide⟩
  refine ⟨filled.represents length (Nat.le_refl 1), fun _ => rfl, List.nodup_nil,
    fun extent => iff_of_false List.not_mem_nil ?_⟩
  rintro ⟨block, isBlock, -⟩
  cases isBlock

theorem Clean.startsFree (clean : Clean depth tree area held) (hasCells : 1 ≤ area.size)
    (free : ¬∃ extent ∈ held, extent.start = 0) : StartsFree (nodeAt tree 1) := by
  have firstFree : area.isFree 0 = true := by
    rw [isFree_iff]
    refine ⟨hasCells, fun block isBlock contains => free ?_⟩
    have isStart : block.start = 0 := Nat.le_zero.mp contains.1
    exact ⟨_, (clean.held_iff _).mpr ⟨block, isBlock, rfl⟩, by rw [isStart]; rfl⟩
  have first : RunAt ((List.range area.size).map area.isFree) 1 0 := by
    intro offset isFirst
    rw [Nat.lt_one_iff.mp isFirst, Nat.zero_add, List.getElem?_map,
      List.getElem?_range hasCells, Option.map_some, firstFree]
  have leading := le_leadingRun_iff.mpr first
  have value := clean.represents.sound.plainAt_eq (Nat.zero_add depth)
    (⟨Nat.le_refl 1, Nat.one_lt_two⟩ : Layer 0 1) fun _ _ => id
  rw [clean.represents.flags_area] at value
  constructor
  · have isLeft := congrArg Memory.left value
    rw [plainAt, Memory.plain_left] at isLeft
    rw [isLeft]
    exact Int.ofNat_le.mpr leading
  · exact (clean.represents.root_fits Nat.one_pos).mpr
      ((le_longestRun_iff Nat.one_pos).mpr ⟨0, first⟩)

theorem tracks_step (call : Call) (tracks : Tracks n state) (meets : Meets state call) :
    SafeCall state call ∧ Tracks n (holding.step state call).1 := by
  cases tracks with
  | @clean depth tree area held clean size_eq =>
      subst size_eq
      have length := clean.represents.sound.length
      cases call with
      | acquire size =>
          by_cases positive : 1 ≤ size
          · obtain ⟨after, ⟨refused, afterClean⟩ | ⟨start, accepted, apart, afterClean⟩⟩ :=
              clean.acquire_cases positive
            · simp only [SafeCall, holding, Call.op, refused, holds]
              exact ⟨⟨fun never => (by cases never), fun index never => (by cases never)⟩,
                .clean afterClean rfl⟩
            · simp only [SafeCall, holding, Call.op, accepted, holds]
              refine ⟨⟨fun never => (by cases never), ?_⟩, .clean afterClean rfl⟩
              rintro index ⟨⟩
              exact apart
          obtain ⟨isSingle, noneOrFree⟩ := meets.resolve_left positive
          have single : area.size = 1 := Int.ofNat_inj.mp isSingle
          have isRoot := clean.single single
          clear isSingle
          subst isRoot
          by_cases noHolder : held = []
          · subst noHolder
            have isFree := clean.single_free single
            have accepted : holding.step (⟨some tree, area.size, 2 ^ 0⟩, []) (.acquire size) =
                ((⟨some (tree.set 1 ⟨1, 1, -1, size⟩), area.size, 2 ^ 0⟩, [⟨0, size⟩]),
                  .acquired (.ok 0)) := by
              rw [acquire_empty length (by omega) (by rw [isFree]; dsimp only; omega)
                (by rw [isFree]; dsimp only; omega), Nat.pow_zero, isFree]
            refine ⟨⟨?_, fun index _ extent isHeld => absurd isHeld List.not_mem_nil⟩, ?_⟩
            · have answered : (system.step ⟨some tree, area.size, 2 ^ 0⟩ (.acquire size)).2 =
                  .acquired (.ok 0) := congrArg Prod.snd accepted
              rw [answered]
              exact fun never => (by cases never)
            · rw [accepted, single]
              refine .marked ⟨?_, ?_, by omega, rfl⟩ rfl
              · rw [List.length_set]
                exact length
              · rw [nodeAt_set length ⟨Nat.one_pos, Nat.one_lt_two⟩, if_pos rfl]
          · have isZero : size = 0 := noneOrFree.resolve_right noHolder
            have refused : holding.step (⟨some tree, area.size, 2 ^ 0⟩, held) (.acquire size) =
                ((⟨some tree, area.size, 2 ^ 0⟩, held), .acquired (.error .kOutOfMemory)) :=
              acquire_marked length (clean.single_held single noHolder).1 (Int.le_of_eq isZero.symm)
            exact ⟨safe_refused refused, by rw [refused]; exact .clean clean rfl⟩
      | release extent =>
          obtain ⟨after, ⟨isHeld, released, again, blocks, afterClean⟩ |
              ⟨notHeld, ⟨code, refused⟩, afterClean⟩⟩ := clean.release_cases meets
          · simp only [SafeCall, holding, Call.op, released, holds]
            exact ⟨fun _ => ⟨trivial, fun _ => again⟩, .clean afterClean rfl⟩
          · simp only [SafeCall, holding, Call.op, refused, holds]
            exact ⟨fun isHeld => absurd isHeld notHeld, .clean afterClean rfl⟩
  | @marked tree held size marked single =>
      obtain ⟨length, isNode, small, isHeld⟩ := marked
      subst single isHeld
      cases call with
      | acquire request =>
          have notNegative : 0 ≤ request := by
            rcases meets with positive | ⟨-, isZero | noHolder⟩
            · exact Int.le_of_lt positive
            · exact Int.le_of_eq isZero.symm
            · cases noHolder
          have refused : holding.step (⟨some tree, 1, 2 ^ 0⟩, [⟨0, size⟩]) (.acquire request) =
              ((⟨some tree, 1, 2 ^ 0⟩, [⟨0, size⟩]), .acquired (.error .kOutOfMemory)) :=
            acquire_marked length (by rw [isNode]) notNegative
          exact ⟨safe_refused refused, refused ▸ .marked ⟨length, isNode, small, rfl⟩ rfl⟩
      | release extent =>
          by_cases isHolder : extent = ⟨0, size⟩
          · have released : system.step ⟨some tree, 1, 2 ^ 0⟩ (.release 0) =
                (⟨some (tree.set 1 ⟨1, 1, 1, 1⟩), 1, 2 ^ 0⟩, .released (.ok ())) := by
              rw [release_empty length (Int.le_refl 1) (by rw [Nat.pow_zero, isNode])
                (by rw [Nat.pow_zero, isNode]; exact small), Nat.pow_zero, isNode]
            rw [Nat.pow_zero] at released
            have nowFree : Clean 0 (tree.set 1 ⟨1, 1, 1, 1⟩) ⟨1, []⟩ [] := by
              apply clean_single
              · rw [List.length_set, length]
              · have inside : Inside 0 1 := ⟨Nat.one_pos, Nat.one_lt_two⟩
                rw [nodeAt_set length inside, if_pos rfl]
            rw [isHolder]
            simp only [SafeCall, holding, Call.op, released, holds, List.erase_cons_head]
            exact ⟨fun _ => ⟨trivial, fun positive => absurd positive (by omega)⟩,
              .clean nowFree rfl⟩
          · have notHeld : extent ∉ [⟨0, size⟩] := fun isHeld =>
              isHolder (List.mem_singleton.mp isHeld)
            have elsewhere : extent.start ≠ 0 := fun isStart =>
              meets.resolve_left notHeld ⟨0, size⟩ List.mem_cons_self isStart.symm
            have refused : system.step ⟨some tree, 1, 1⟩ (.release extent.start) =
                (⟨some tree, 1, 1⟩, .released (.error .kInvalidSize)) := by
              have isRelease : FirstFitAllocatorBase.release ⟨some tree, 1, 1⟩ extent.start =
                  some (⟨some tree, 1, 1⟩, .error .kInvalidSize) := by
                rw [FirstFitAllocatorBase.release, if_pos (by dsimp only; omega)]
                rfl
              simp only [system, isRelease]
            simp only [SafeCall, holding, Call.op, refused, holds]
            exact ⟨fun isHeld => absurd isHeld notHeld, .marked ⟨length, isNode, small, rfl⟩ rfl⟩

theorem Tracks.unharmed_iff (hasCells : 1 ≤ n) (tracks : Tracks n state) (small : size ≤ 0) :
    Unharmed state size ↔ n = 1 ∧ (size = 0 ∨ state.2 = []) := by
  constructor
  · intro unharmed
    by_contra harmful
    cases tracks with
    | @clean depth tree area held clean size_eq =>
        subst size_eq
        have sound := clean.represents.sound
        have powers := Nat.two_pow_pos depth
        have rootInside : Inside depth 1 := ⟨Nat.one_pos, by omega⟩
        have cells : (1 : Int) ≤ area.size := by omega
        have left := (sound.notNegative 1 rootInside).1
        by_cases single : area.size = 1
        · have isRoot := clean.single single
          subst isRoot
          obtain ⟨notZero, isHeld⟩ : size ≠ 0 ∧ held ≠ [] := by
            rwa [and_iff_right single, not_or] at harmful
          obtain ⟨isMarked, extent, isExtent, isStart⟩ := clean.single_held single isHeld
          exact harmed_at_start sound.length cells small (by omega) (by omega) isExtent isStart
            unharmed
        have several : 0 < depth := by
          by_contra none
          have room := clean.represents.room
          rw [Nat.eq_zero_of_not_pos none, Nat.pow_zero] at room
          omega
        have unmarked : (nodeAt tree 1).max ≠ -1 := by
          intro isMarked
          have isLeaf := (sound.marked 1 rootInside isMarked).1
          have power : depth < 2 ^ depth := Nat.lt_two_pow_self
          omega
        have bounds := (clean.represents.bounded rootInside).2.2.1.1
        by_cases taken : ∃ extent ∈ held, extent.start = 0
        · obtain ⟨extent, isExtent, isStart⟩ := taken
          exact harmed_at_start sound.length cells small (by omega) (by omega) isExtent isStart
            unharmed
        · exact harmed_at_free sound.length several cells small
            (fun idx inside _ _ => (sound.notNegative idx inside).1)
            (clean.startsFree hasCells taken) unharmed
    | @marked tree held request marked single =>
        obtain ⟨length, isNode, -, isHeld⟩ := marked
        subst single isHeld
        have notZero : size ≠ 0 := fun isZero => harmful ⟨rfl, .inl isZero⟩
        have harmed : ¬Unharmed (⟨some tree, 1, 2 ^ 0⟩, [⟨0, request⟩]) size :=
          harmed_at_start length (Int.le_refl 1) small (by rw [isNode]; dsimp only; omega)
            (by rw [isNode]; dsimp only; omega) List.mem_cons_self rfl
        exact harmed unharmed
  · rintro ⟨single, harmless⟩ calls lawful
    have meets : Meets state (.acquire size) := by
      refine .inr ⟨?_, harmless⟩
      cases tracks with
      | clean clean size_eq => exact Int.ofNat_inj.mpr single
      | marked marked single => rfl
    have lawfulMeets : ∀ (state : FirstFitAllocatorBase × List Extent) (call : Call),
        Lawful state call → Meets state call := by
      intro state call lawful
      cases call with
      | acquire size => exact .inl lawful
      | release extent => exact lawful
    have preserved : ∀ (state : FirstFitAllocatorBase × List Extent) (call : Call),
        Tracks n state → Lawful state call → Tracks n (holding.step state call).1 :=
      fun state call tracks lawful => (tracks_step call tracks (lawfulMeets state call lawful)).2
    exact System.along_of_invariant preserved
      (fun state call tracks lawful => (tracks_step call tracks (lawfulMeets state call lawful)).1)
      (tracks_step _ tracks meets).2 lawful

theorem allocate_ok (allocated : before.allocate count memory = some (allocator, .ok ())) :
    1 ≤ count ∧ ∃ storage, memory = some storage ∧
      create.allocate count (some storage) = some (allocator, .ok ()) := by
  have valid : ¬(count ≤ 0 ∨ count ≥ 2 ^ 30) := by
    intro invalid
    simp only [allocate, invalid, if_true] at allocated
    cases hasTree : before.tree with
    | none =>
        rw [hasTree] at allocated
        cases allocated
    | some tree =>
        rw [hasTree] at allocated
        obtain ⟨root, -, allocated⟩ := Option.bind_eq_some_iff.mp allocated
        obtain ⟨inUse, -, allocated⟩ := Option.bind_eq_some_iff.mp allocated
        cases inUse <;> cases allocated
  have fresh : create.allocate count memory = some (allocator, .ok ()) := by
    simp only [allocate, valid, if_false] at allocated ⊢
    cases hasTree : before.tree with
    | none =>
        rw [hasTree] at allocated
        exact allocated
    | some tree =>
        rw [hasTree] at allocated
        obtain ⟨root, -, allocated⟩ := Option.bind_eq_some_iff.mp allocated
        obtain ⟨inUse, -, allocated⟩ := Option.bind_eq_some_iff.mp allocated
        cases inUse with
        | true => cases allocated
        | false => exact allocated
  refine ⟨by omega, ?_⟩
  cases memory with
  | some storage => exact ⟨storage, rfl, fresh⟩
  | none =>
      obtain ⟨after, code, failed⟩ := base_allocate_error
        (rfl : create.tree = none) (.inr (.inr rfl) : count ≤ 0 ∨ 2 ^ 30 ≤ count ∨ none = none)
      rw [fresh] at failed
      cases failed

/-- A new area is clean. -/
theorem tracks_allocated (allocated : before.allocate count memory = some (allocator, .ok ()))
    (fits : count ≤ 2 ^ 29) : ∃ n : Nat, count = n ∧ 1 ≤ n ∧ Tracks n (allocator, []) := by
  obtain ⟨positive, storage, -, fresh⟩ := allocate_ok allocated
  obtain ⟨n, rfl⟩ := Int.eq_ofNat_of_zero_le (by omega : 0 ≤ count)
  obtain ⟨depth, tree, isAllocated, -, represents⟩ :=
    allocate_create (by omega : 1 ≤ n) (by omega) storage
  rw [fresh, Option.some.injEq, Prod.mk.injEq] at isAllocated
  refine ⟨n, rfl, by omega, ?_⟩
  have clean : Clean depth tree ⟨n, []⟩ [] := by
    refine ⟨represents, fun single => ?_, List.nodup_nil,
      fun extent => iff_of_false List.not_mem_nil ?_⟩
    · have single : n = 1 := single
      subst single
      have layer : (create.allocate 1 (some storage)).map
          (fun result => result.1.lastLayerFirstIndex) = some 1 := rfl
      have sameLayer := congrArg (Option.map fun result => result.1.lastLayerFirstIndex) fresh
      rw [Nat.cast_one, layer, isAllocated.1] at sameLayer
      have isOne : 1 = 2 ^ depth := Option.some.inj sameLayer
      exact (Nat.pow_eq_one.mp isOne.symm).resolve_left (by decide)
    · rintro ⟨block, isBlock, -⟩
      cases isBlock
  rw [isAllocated.1]
  exact .clean clean rfl

theorem getNumberOfChunks_nonpositive {chunkSize : Int} (small : size ≤ 0) (low : -2 ^ 31 ≤ size)
    (positive : 0 < chunkSize) (high : chunkSize < 2 ^ 31) :
    ∃ numberOfChunks ≤ 0,
      getNumberOfChunks chunkSize size = some numberOfChunks := by
  have plain : wrapInt32 (size + chunkSize - 1) = size + chunkSize - 1 :=
    Int.bmod_eq_of_le_mul_two (by omega) (by omega)
  have divisible : ¬(chunkSize = 0 ∨ size + chunkSize - 1 = -2 ^ 31 ∧ chunkSize = -1) := by omega
  refine ⟨(size + chunkSize - 1).tdiv chunkSize, ?_, ?_⟩
  · rcases Int.lt_or_le (size + chunkSize - 1) 0 with negative | notNegative
    · have opposite : 0 ≤ (-(size + chunkSize - 1)).tdiv chunkSize :=
        Int.tdiv_nonneg (by omega) (Int.le_of_lt positive)
      rw [Int.neg_tdiv] at opposite
      omega
    · exact Int.le_of_eq (Int.tdiv_eq_zero_of_lt notNegative (by omega))
  · rw [getNumberOfChunks, plain, divideInt32, if_neg divisible]

/-- For every area, every run of calls and every request for no cells or less, where only harmless
ones came before: everybody is left unharmed if and only if the area has a single cell and the
request is for exactly no cells, or nobody holds anything.  Through the chunks of a buffer, such a
request is again one for no cells or less. -/
theorem unharmed_iff_single {before allocator : FirstFitAllocatorBase} {count : Int}
    {memory : Option (Nat → Memory)}
    (allocated : before.allocate count memory = some (allocator, .ok ()))
    (fits : count ≤ 2 ^ 29) (calls : List Call)
    (meets : holding.Along Meets (allocator, []) calls) (size : Int) (small : size ≤ 0) :
    let state := holding.run (allocator, []) calls
    (Unharmed state size ↔ count = 1 ∧ (size = 0 ∨ state.2 = [])) ∧
      ∀ chunkSize, 0 < chunkSize → chunkSize < 2 ^ 31 → -2 ^ 31 ≤ size → ∃ numberOfChunks ≤ 0,
          getNumberOfChunks chunkSize size = some numberOfChunks ∧
          (Unharmed state numberOfChunks ↔ count = 1 ∧ (numberOfChunks = 0 ∨ state.2 = [])) := by
  obtain ⟨n, rfl, hasCells, start⟩ := tracks_allocated allocated fits
  have preserved : ∀ (state : FirstFitAllocatorBase × List Extent) (call : Call),
      Tracks n state → Meets state call → Tracks n (holding.step state call).1 :=
    fun _ call tracks meets => (tracks_step call tracks meets).2
  have tracks : Tracks n (holding.run (allocator, []) calls) :=
    System.invariant_run preserved start meets
  have exact : ∀ size ≤ 0, (Unharmed (holding.run (allocator, []) calls) size ↔
      (n : Int) = 1 ∧ (size = 0 ∨ (holding.run (allocator, []) calls).2 = [])) := by
    intro size small
    rw [tracks.unharmed_iff hasCells small, Nat.cast_eq_one]
  refine ⟨exact size small, fun chunkSize positive high low => ?_⟩
  obtain ⟨numberOfChunks, nonpositive, isNumber⟩ :=
    getNumberOfChunks_nonpositive small low positive high
  exact ⟨numberOfChunks, nonpositive, isNumber, exact numberOfChunks nonpositive⟩

/-- An area of one cell, where somebody asked for no cells and gave them back. -/
theorem unharmed_iff_single_asked :
    let allocator : FirstFitAllocatorBase := ⟨some [⟨0, 0, 0, 0⟩, ⟨1, 1, 1, 1⟩], 1, 1⟩
    let calls : List Call := [.acquire 0, .release ⟨0, 0⟩]
    let state := holding.run (allocator, []) calls
    create.allocate 1 (some fun _ => ⟨0, 0, 0, 0⟩) = some (allocator, .ok ()) ∧
      (1 : Int) ≤ 2 ^ 29 ∧ holding.Along Meets (allocator, []) calls ∧ (-1 : Int) ≤ 0 ∧
      (Unharmed state (-1) ↔ (1 : Int) = 1 ∧ ((-1 : Int) = 0 ∨ state.2 = [])) ∧
      ∀ chunkSize, 0 < chunkSize → chunkSize < 2 ^ 31 → -2 ^ 31 ≤ (-1 : Int) → ∃ numberOfChunks ≤ 0,
          getNumberOfChunks chunkSize (-1) = some numberOfChunks ∧
          (Unharmed state numberOfChunks ↔
            (1 : Int) = 1 ∧ (numberOfChunks = 0 ∨ state.2 = [])) := by
  intro allocator calls state
  have allocated : create.allocate 1 (some fun _ => ⟨0, 0, 0, 0⟩) = some (allocator, .ok ()) := by
    decide
  have meets : holding.Along Meets (allocator, []) calls :=
    ⟨.inr ⟨rfl, .inl rfl⟩, .inl (by decide), trivial⟩
  exact ⟨allocated, by decide, meets, by decide,
    unharmed_iff_single allocated (by decide) calls meets (-1) (by decide)⟩

/-- In an area of two cells, the first one is held.  A request for no cells gets the same index.
Once that is given back, the first one is no longer known. -/
theorem empty_request_frees_held :
    let allocator : FirstFitAllocatorBase :=
      ⟨some [⟨0, 0, 0, 0⟩, ⟨2, 2, 2, 2⟩, ⟨1, 1, 1, 1⟩, ⟨1, 1, 1, 1⟩], 2, 2⟩
    create.allocate 2 (some fun _ => ⟨0, 0, 0, 0⟩) = some (allocator, .ok ()) ∧
      holding.outputs (allocator, []) [.acquire 1, .acquire 0, .release ⟨0, 0⟩, .release ⟨0, 1⟩] =
        [.acquired (.ok 0), .acquired (.ok 0), .released (.ok ()),
          .released (.error .kBlockNotAllocated)] ∧
      ¬Unharmed (holding.run (allocator, []) [.acquire 1]) 0 := by
  intro allocator
  refine ⟨by decide, by decide, fun unharmed => ?_⟩
  have safe := unharmed [.release ⟨0, 0⟩, .release ⟨0, 1⟩]
    ⟨.inl (by decide), .inl (by decide), trivial⟩
  exact absurd (safe.2.1 (by decide)).1 (by decide)

end Runs

end Gxf.Std.FirstFitAllocatorBase
