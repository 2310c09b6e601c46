import Mathlib.Algebra.Order.Ring.Int
import Mathlib.Data.Finset.Basic
import Mathlib.Data.Nat.Cast.Order.Ring
import Gxf.Lib.FreeRuns
import Gxf.Lib.InversePair
import Gxf.Lib.RangeCover
import Gxf.Std.Suballocators.FirstFitAllocatorBase

/-!
# What the nodes of the tree say

Some nodes are taken: the covers of the blocks.  A node that is not taken combines what
its children say, and a taken node says that nothing is free; below it, the tree still
says what it said before.  A leaf at which a block starts also stores the size of the
block.
-/

namespace Gxf.Std.FirstFitAllocatorBase

open Gxf.Lib Memory

namespace Memory

/-- What a node says about a list of cells. -/
def summary (cells : List Bool) : Memory :=
  ⟨leadingRun cells, trailingRun cells, longestRun cells, cells.length⟩

/-- What the parent of two nodes says. -/
def combine (leftChild rightChild : Memory) : Memory :=
  update ⟨0, 0, 0, leftChild.size + rightChild.size⟩ leftChild rightChild

/-- A node without the size of the block that starts there. -/
def plain (node : Memory) : Memory :=
  if node.max = -1 then ⟨node.left, node.right, node.left, 1⟩ else node

variable {node leftChild rightChild : Memory}

theorem update_eq_combine (sized : node.size = leftChild.size + rightChild.size) :
    node.update leftChild rightChild = combine leftChild rightChild := by
  simp only [combine, update, sized]

theorem combine_summary (left right : List Bool) :
    combine (summary left) (summary right) = summary (left ++ right) := by
  rw [combine, update, summary, summary, summary, leadingRun_append, trailingRun_append,
    longestRun_append, List.length_append]
  simp only [Nat.cast_ite, Nat.cast_add, Nat.cast_max, Nat.cast_inj]

theorem summary_free {cells : List Bool} (allFree : ∀ cell ∈ cells, cell = true) :
    summary cells = ⟨cells.length, cells.length, cells.length, cells.length⟩ := by
  have leading := leadingRun_eq_length_iff.mpr allFree
  have trailing : trailingRun cells = cells.length := by
    rw [trailingRun, ← List.length_reverse]
    exact leadingRun_eq_length_iff.mpr fun cell member => allFree cell (List.mem_reverse.mp member)
  have longest : longestRun cells = cells.length := Nat.le_antisymm (longestRun_le cells)
      (Nat.le_trans (Nat.le_of_eq trailing.symm) (trailingRun_le_longestRun cells))
  rw [summary, leading, trailing, longest]

theorem plain_of_unmarked (unmarked : node.max ≠ -1) : node.plain = node := if_neg unmarked

@[simp] theorem plain_left : node.plain.left = node.left := by
  rw [plain]
  split <;> rfl

@[simp] theorem plain_right : node.plain.right = node.right := by
  rw [plain]
  split <;> rfl

theorem set_plain (free : Int) (notNegative : 0 ≤ node.size * free) :
    (node.set free).plain = node.set free := by
  apply plain_of_unmarked
  have isMax : (node.set free).max = node.size * free := rfl
  omega

theorem update_plain (leftTaken : leftChild.max = -1 →
      leftChild.left = 0 ∧ leftChild.right = 0 ∧ 1 ≤ leftChild.size)
    (rightTaken : rightChild.max = -1 →
      rightChild.left = 0 ∧ rightChild.right = 0 ∧ 1 ≤ rightChild.size)
    (notNegative : 0 ≤ rightChild.left + leftChild.right) :
    node.update leftChild rightChild = node.update leftChild.plain rightChild.plain := by
  have test : ∀ {child : Memory} {free : Int}, (child.max = -1 → free = 0 ∧ 1 ≤ child.size) →
      ∀ across : Int, (if child.size = free then child.size + across else free) =
        if child.plain.size = free then child.plain.size + across else free := by
    intro child free taken across
    by_cases marked : child.max = -1
    · obtain ⟨isZero, positive⟩ := taken marked
      rw [plain, if_pos marked, if_neg (by omega), if_neg (by simp [isZero])]
    · rw [plain_of_unmarked marked]
  have longest : ∀ {child : Memory}, (child.max = -1 → child.left = 0) →
      ∀ across : Int, 0 ≤ across → Max.max across child.max = Max.max across child.plain.max := by
    intro child taken across notNegative
    by_cases marked : child.max = -1
    · have isZero : child.plain.max = 0 := by rw [plain, if_pos marked, taken marked]
      omega
    · rw [plain_of_unmarked marked]
  have leftLongest := longest (fun marked => (leftTaken marked).1) _ notNegative
  have rightLongest := longest (fun marked => (rightTaken marked).1) _ notNegative
  simp only [update, plain_left, plain_right, mk.injEq, and_true]
  refine ⟨test (fun marked => ⟨(leftTaken marked).1, (leftTaken marked).2.2⟩) _,
    test (fun marked => (rightTaken marked).2) _, ?_⟩
  rw [← max_assoc, rightLongest, max_right_comm, leftLongest, max_right_comm, max_assoc]

theorem update_unmarked (notNegative : 0 ≤ rightChild.left + leftChild.right) :
    (node.update leftChild rightChild).max ≠ -1 := by
  have isMax : rightChild.left + leftChild.right ≤ (node.update leftChild rightChild).max :=
    le_max_left _ _
  omega

end Memory

/-! ## Stored nodes -/

/-- The node stored at an index. -/
def nodeAt (tree : List Memory) (idx : Nat) : Memory := tree.getD idx ⟨0, 0, 0, 0⟩

/-- The node stored at an index, without the size of a block. -/
def plainAt (tree : List Memory) (idx : Nat) : Memory := (nodeAt tree idx).plain

/-- The size of the block that starts at a leaf. -/
def blockAt (tree : List Memory) (leaf : Nat) : Option Int :=
  if (nodeAt tree leaf).max = -1 then some (nodeAt tree leaf).size else none

/-- The indices of a tree with `depth` layers above its leaves. -/
def Inside (depth idx : Nat) : Prop := 0 < idx ∧ idx < 2 * 2 ^ depth

variable {n depth idx : Nat} {taken : Finset Nat} {tree : List Memory} {node : Memory}

theorem read_eq (length : tree.length = 2 * 2 ^ depth) (inside : Inside depth idx) :
    read tree idx = some (nodeAt tree idx) := by
  have bound : idx < tree.length := length ▸ inside.2
  rw [read, if_pos inside.1, nodeAt, List.getD_eq_getElem?_getD, List.getElem?_eq_getElem bound,
    Option.getD_some]

theorem write_eq (length : tree.length = 2 * 2 ^ depth) (inside : Inside depth idx) :
    write tree idx node = some (tree.set idx node) :=
  if_pos ⟨inside.1, length ▸ inside.2⟩

theorem nodeAt_set (length : tree.length = 2 * 2 ^ depth) (inside : Inside depth idx)
    (other : Nat) :
    nodeAt (tree.set idx node) other = if other = idx then node else nodeAt tree other :=
  getD_set (length ▸ inside.2) ..

/-- What a leaf says about its cell, if it has one. -/
def leafNode (n depth : Nat) (taken : Finset Nat) (leaf : Nat) : Memory :=
  if leaf < 2 ^ depth + n then if leaf ∈ taken then ⟨0, 0, 0, 1⟩ else ⟨1, 1, 1, 1⟩
  else ⟨0, 0, 0, 0⟩

/-- What a node says, given its children. -/
def expected (n depth : Nat) (taken : Finset Nat) (tree : List Memory) (idx : Nat) : Memory :=
  if 2 ^ depth ≤ idx then leafNode n depth taken idx
  else
    let node := combine (plainAt tree (2 * idx)) (plainAt tree (2 * idx + 1))
    if idx ∈ taken then node.set 0 else node

/-- The tree of `n` cells says what it should, except for nodes that are stale. -/
structure Sound (n depth : Nat) (taken : Finset Nat) (stale : Nat → Prop)
    (tree : List Memory) : Prop where
  length : tree.length = 2 * 2 ^ depth
  sized : ∀ idx, Inside depth idx → 0 ≤ (plainAt tree idx).size ∧
      (plainAt tree idx).size = (expected n depth taken tree idx).size
  agrees : ∀ idx, Inside depth idx → ¬stale idx → plainAt tree idx = expected n depth taken tree idx
  notNegative : ∀ idx, Inside depth idx → 0 ≤ (nodeAt tree idx).left ∧ 0 ≤ (nodeAt tree idx).right
  marked : ∀ idx, Inside depth idx → (nodeAt tree idx).max = -1 →
    2 ^ depth ≤ idx ∧ 1 ≤ (nodeAt tree idx).size ∧ ∃ node ∈ taken, Above node idx

theorem expected_size : (expected n depth taken tree idx).size =
      if 2 ^ depth ≤ idx then if idx < 2 ^ depth + n then 1 else 0
      else (plainAt tree (2 * idx)).size + (plainAt tree (2 * idx + 1)).size := by
  rw [expected]
  split
  next =>
    rw [leafNode]
    split
    next => split <;> rfl
    next => rfl
  next =>
    dsimp only
    split <;> rfl

/-- What a node should say depends on its children only. -/
theorem expected_congr {other : List Memory} {after : Finset Nat}
    (same : idx < 2 ^ depth → plainAt other (2 * idx) = plainAt tree (2 * idx) ∧
      plainAt other (2 * idx + 1) = plainAt tree (2 * idx + 1))
    (sameTaken : idx ∈ after ↔ idx ∈ taken) :
    expected n depth after other idx = expected n depth taken tree idx := by
  rw [expected, expected]
  split
  next =>
    rw [leafNode, leafNode]
    simp only [sameTaken]
  next inner =>
    obtain ⟨sameLeft, sameRight⟩ := same (Nat.lt_of_not_le inner)
    simp only [sameLeft, sameRight, sameTaken]

namespace Sound

variable {stale : Nat → Prop}

theorem mono {more : Nat → Prop} (sound : Sound n depth taken stale tree)
    (fewer : ∀ idx, Inside depth idx → stale idx → more idx) :
    Sound n depth taken more tree :=
  ⟨sound.length, sound.sized,
    fun idx inside fresh => sound.agrees idx inside fun isStale => fresh (fewer idx inside isStale),
    sound.notNegative, sound.marked⟩

theorem set {after : Finset Nat} {more : Nat → Prop} (sound : Sound n depth taken stale tree)
    (inside : Inside depth idx) (node : Memory)
    (sameSize : node.plain.size = (plainAt tree idx).size)
    (notNegative : 0 ≤ node.left ∧ 0 ≤ node.right)
    (sameTaken : ∀ other, other ≠ idx → (other ∈ after ↔ other ∈ taken))
    (marks : node.max = -1 → 2 ^ depth ≤ idx ∧ 1 ≤ node.size ∧ ∃ node ∈ after, Above node idx)
    (otherMarks : ∀ leaf, 2 ^ depth ≤ leaf → leaf ≠ idx → (nodeAt tree leaf).max = -1 →
      (∃ node ∈ taken, Above node leaf) → ∃ node ∈ after, Above node leaf)
    (here : ¬more idx → node.plain = expected n depth after tree idx)
    (others : ∀ other, ¬more other → other ≠ idx →
      ¬stale other ∧ (other = idx / 2 → node.plain = plainAt tree idx)) :
    Sound n depth after more (tree.set idx node) := by
  have stored : ∀ other, nodeAt (tree.set idx node) other =
      if other = idx then node else nodeAt tree other := nodeAt_set sound.length inside
  have storedPlain : ∀ other, plainAt (tree.set idx node) other =
      if other = idx then node.plain else plainAt tree other := by
    intro other
    rw [plainAt, stored]
    split <;> rfl
  have sizes : ∀ other, (plainAt (tree.set idx node) other).size = (plainAt tree other).size := by
    intro other
    rw [storedPlain]
    split
    next isHere => rw [isHere, sameSize]
    next => rfl
  have positive := inside.1
  refine ⟨?_, ?_, ?_, ?_, ?_⟩
  · rw [List.length_set, sound.length]
  · intro other otherInside
    have before := sound.sized other otherInside
    rw [expected_size] at before ⊢
    rw [sizes, sizes, sizes]
    exact before
  · intro other otherInside fresh
    rw [storedPlain]
    split
    next isHere =>
      subst isHere
      rw [here fresh]
      apply (expected_congr (fun _ => ?_) Iff.rfl).symm
      rw [storedPlain, storedPlain, if_neg (by omega), if_neg (by omega)]
      exact ⟨rfl, rfl⟩
    next elsewhere =>
      obtain ⟨wasFresh, parent⟩ := others other fresh elsewhere
      rw [sound.agrees other otherInside wasFresh]
      apply (expected_congr (fun _ => ?_) (sameTaken other elsewhere)).symm
      have unchanged : ∀ child, child / 2 = other →
          plainAt (tree.set idx node) child = plainAt tree child := by
        intro child isChild
        rw [storedPlain]
        split
        next isHere =>
          subst isHere
          exact parent isChild.symm
        next => rfl
      exact ⟨unchanged _ (by omega), unchanged _ (by omega)⟩
  · intro other otherInside
    rw [stored]
    split
    next => exact notNegative
    next => exact sound.notNegative other otherInside
  · intro other otherInside
    rw [stored]
    split
    next isHere =>
      subst isHere
      exact marks
    next elsewhere =>
      intro isMarked
      obtain ⟨isLeaf, positive, below⟩ := sound.marked other otherInside isMarked
      exact ⟨isLeaf, positive, otherMarks other isLeaf elsewhere isMarked below⟩

theorem mark (sound : Sound n depth taken (fun _ => False) tree) (inside : Inside depth idx)
    (isLeaf : 2 ^ depth ≤ idx) (isCell : idx < 2 ^ depth + n)
    (unmarked : (nodeAt tree idx).max ≠ -1) (isTaken : ∃ node ∈ taken, Above node idx)
    {size : Int} (positive : 1 ≤ size) :
    Sound n depth taken (fun _ => False)
      (tree.set idx { nodeAt tree idx with max := -1, size }) := by
  have value := sound.agrees idx inside id
  have leafValue := value
  rw [plainAt, plain_of_unmarked unmarked, expected, if_pos isLeaf, leafNode,
    if_pos isCell] at leafValue
  have samePlain : ({ nodeAt tree idx with max := -1, size } : Memory).plain =
      plainAt tree idx := by
    rw [plainAt, plain_of_unmarked unmarked, plain, if_pos rfl, leafValue]
    split <;> rfl
  apply sound.set inside
  · rw [samePlain]
  · exact sound.notNegative idx inside
  · exact fun _ _ => Iff.rfl
  · exact fun _ => ⟨isLeaf, positive, isTaken⟩
  · exact fun _ _ _ _ below => below
  · exact fun _ => samePlain.trans value
  · exact fun _ _ _ => ⟨id, fun _ => samePlain⟩

theorem unmark (sound : Sound n depth taken (fun _ => False) tree) (inside : Inside depth idx)
    (isCell : idx < 2 ^ depth + n) (isMarked : (nodeAt tree idx).max = -1) :
    Sound n depth taken (fun other => idx ∈ taken ∧ (other = idx ∨ other = idx / 2))
      (tree.set idx { nodeAt tree idx with size := 1, max := 1 }) := by
  have isLeaf := (sound.marked idx inside isMarked).1
  have value := sound.agrees idx inside id
  have nowUnmarked : ({ nodeAt tree idx with size := 1, max := 1 } : Memory).max ≠ -1 :=
    fun isMarked => absurd (show (1 : Int) = -1 from isMarked) (by decide)
  have nowPlain := plain_of_unmarked nowUnmarked
  have samePlain : idx ∉ taken →
      ({ nodeAt tree idx with size := 1, max := 1 } : Memory).plain = plainAt tree idx := by
    intro notTaken
    have leafValue := value
    rw [expected, if_pos isLeaf, leafNode, if_pos isCell, if_neg notTaken] at leafValue
    have isLeft : (nodeAt tree idx).left = 1 := by
      rw [← plain_left]
      exact congrArg left leafValue
    have isRight : (nodeAt tree idx).right = 1 := by
      rw [← plain_right]
      exact congrArg right leafValue
    rw [nowPlain, leafValue]
    simp only [isLeft, isRight]
  apply sound.set inside
  · rw [nowPlain, plainAt, plain, if_pos isMarked]
  · exact sound.notNegative idx inside
  · exact fun _ _ => Iff.rfl
  · exact fun isMarked => absurd isMarked nowUnmarked
  · exact fun _ _ _ _ below => below
  · exact fun fresh => (samePlain fun isTaken => fresh ⟨isTaken, .inl rfl⟩).trans value
  · exact fun other fresh _ => ⟨id, fun isParent =>
      samePlain fun isTaken => fresh ⟨isTaken, .inr isParent⟩⟩

theorem child_taken (sound : Sound n depth taken (· = idx) tree) (positive : 0 < idx)
    (inner : idx < 2 ^ depth) (free : ∀ node ∈ taken, ¬Above node idx) {child : Nat}
    (isChild : child / 2 = idx) (isMarked : (nodeAt tree child).max = -1) :
    child ∈ taken ∧ (nodeAt tree child).left = 0 ∧ (nodeAt tree child).right = 0 ∧
      1 ≤ (nodeAt tree child).size := by
  have inside : Inside depth child := ⟨by omega, by omega⟩
  obtain ⟨isLeaf, sizePositive, node, member, isAbove⟩ := sound.marked child inside isMarked
  obtain same | aboveParent := Above.iff_half.mp isAbove
  · subst same
    have value := sound.agrees child inside (by omega)
    rw [expected, if_pos isLeaf, leafNode, if_pos member] at value
    have isLeft : (plainAt tree child).left = 0 := by
      rw [value]
      split <;> rfl
    have isRight : (plainAt tree child).right = 0 := by
      rw [value]
      split <;> rfl
    rw [plainAt, plain_left] at isLeft
    rw [plainAt, plain_right] at isRight
    exact ⟨member, isLeft, isRight, sizePositive⟩
  · rw [isChild] at aboveParent
    exact absurd aboveParent (free node member)

theorem unmarked_inner (sound : Sound n depth taken stale tree) (positive : 0 < idx)
    (inner : idx < 2 ^ depth) : (nodeAt tree idx).max ≠ -1 := by
  intro isMarked
  obtain ⟨isLeaf, -⟩ := sound.marked idx ⟨positive, by omega⟩ isMarked
  omega

/-- One round of `propagateToRoot` makes a node fresh and its parent stale. -/
theorem recompute (sound : Sound n depth taken (· = idx) tree) (positive : 0 < idx)
    (inner : idx < 2 ^ depth) (free : ∀ node ∈ taken, ¬Above node idx) :
    Sound n depth taken (· = idx / 2) (tree.set idx
      ((nodeAt tree idx).update (nodeAt tree (2 * idx)) (nodeAt tree (2 * idx + 1)))) := by
  have inside : Inside depth idx := ⟨positive, by omega⟩
  obtain ⟨leftLeft, leftRight⟩ := sound.notNegative (2 * idx) ⟨by omega, by omega⟩
  obtain ⟨rightLeft, rightRight⟩ := sound.notNegative (2 * idx + 1) ⟨by omega, by omega⟩
  have across : 0 ≤ (nodeAt tree (2 * idx + 1)).left + (nodeAt tree (2 * idx)).right := by omega
  have unmarked : ((nodeAt tree idx).update (nodeAt tree (2 * idx))
      (nodeAt tree (2 * idx + 1))).max ≠ -1 := update_unmarked across
  have oldUnmarked := sound.unmarked_inner positive inner
  have notTaken : idx ∉ taken := fun member => free idx member (Above.refl idx)
  have sized : (nodeAt tree idx).size =
      (plainAt tree (2 * idx)).size + (plainAt tree (2 * idx + 1)).size := by
    have size := (sound.sized idx inside).2
    rw [expected_size, if_neg (by omega), plainAt, plain_of_unmarked oldUnmarked] at size
    exact size
  have combined : (nodeAt tree idx).update (nodeAt tree (2 * idx)) (nodeAt tree (2 * idx + 1)) =
      combine (plainAt tree (2 * idx)) (plainAt tree (2 * idx + 1)) := by
    rw [update_plain
      (fun isMarked => (sound.child_taken positive inner free (by omega) isMarked).2)
      (fun isMarked => (sound.child_taken positive inner free (by omega) isMarked).2) across]
    exact update_eq_combine sized
  apply sound.set inside
  · rw [plain_of_unmarked unmarked, plainAt, plain_of_unmarked oldUnmarked]
    rfl
  · constructor
    · rw [Memory.update]
      dsimp only
      split <;> omega
    · rw [Memory.update]
      dsimp only
      split <;> omega
  · exact fun other _ => Iff.rfl
  · exact fun isMarked => absurd isMarked unmarked
  · exact fun leaf _ _ _ below => below
  · intro _
    rw [plain_of_unmarked unmarked, combined, expected, if_neg (by omega)]
    simp only [if_neg notTaken]
  · exact fun other notParent elsewhere => ⟨elsewhere, fun isParent => absurd isParent notParent⟩

end Sound

/-- `propagateToRoot` makes the way to the root fresh and leaves the leaves alone. -/
theorem propagateLoop_sound {fuel : Nat} (sound : Sound n depth taken (· = idx) tree)
    (enough : idx ≤ fuel) (inner : idx < 2 ^ depth)
    (free : ∀ node ∈ taken, 0 < node ∧ ¬Above node idx) :
    ∃ after, propagateLoop fuel tree idx = some after ∧ Sound n depth taken (fun _ => False) after ∧
      ∀ leaf, 2 ^ depth ≤ leaf → nodeAt after leaf = nodeAt tree leaf := by
  induction fuel generalizing tree idx with
  | zero =>
      have isRoot : idx = 0 := by omega
      subst isRoot
      refine ⟨tree, rfl, sound.mono fun idx inside isZero => ?_, fun leaf _ => rfl⟩
      exact absurd isZero (by have := inside.1; omega)
  | succ fuel ih =>
      rw [propagateLoop]
      split
      next positive =>
        have length := sound.length
        have inside : Inside depth idx := ⟨positive, by omega⟩
        have leftInside : Inside depth (2 * idx) := ⟨by omega, by omega⟩
        have rightInside : Inside depth (2 * idx + 1) := ⟨by omega, by omega⟩
        simp only [read_eq length inside, read_eq length leftInside, read_eq length rightInside,
          write_eq length inside, Option.bind_eq_bind, Option.bind_some]
        have recomputed := sound.recompute positive inner fun node member => (free node member).2
        obtain ⟨after, returned, fresh, sameLeaves⟩ := ih recomputed (by omega) (by omega)
          fun node member => ⟨(free node member).1, fun isAbove =>
            (free node member).2 (isAbove.trans (Above.half idx))⟩
        refine ⟨after, returned, fresh, fun leaf isLeaf => ?_⟩
        rw [sameLeaves leaf isLeaf, nodeAt_set length inside, if_neg (by omega)]
      next isRoot =>
        refine ⟨tree, rfl, sound.mono fun other inside isHere => ?_, fun leaf _ => rfl⟩
        exact absurd isHere (by have := inside.1; omega)

theorem setNode_sound {free : Int} {after : Finset Nat}
    (sound : Sound n depth taken (fun other => other = idx ∨ other = idx / 2) tree)
    (inside : Inside depth idx) (unmarked : (nodeAt tree idx).max ≠ -1)
    (notNegative : 0 ≤ (nodeAt tree idx).size * free)
    (sameTaken : ∀ other, other ≠ idx → (other ∈ after ↔ other ∈ taken))
    (otherMarks : ∀ leaf, 2 ^ depth ≤ leaf → leaf ≠ idx → (nodeAt tree leaf).max = -1 →
      (∃ node ∈ taken, Above node leaf) → ∃ node ∈ after, Above node leaf)
    (here : (nodeAt tree idx).set free = expected n depth after tree idx)
    (upper : ∀ node ∈ after, 0 < node ∧ ¬Above node (idx / 2)) :
    ∃ result, setNode free tree idx = some result ∧ Sound n depth after (fun _ => False) result ∧
      ∀ leaf, 2 ^ depth ≤ leaf → blockAt result leaf = blockAt tree leaf := by
  have length := sound.length
  have nowPlain : ((nodeAt tree idx).set free).plain = (nodeAt tree idx).set free :=
    set_plain free notNegative
  have nowUnmarked : ((nodeAt tree idx).set free).max ≠ -1 := by
    have isMax : ((nodeAt tree idx).set free).max = (nodeAt tree idx).size * free := rfl
    omega
  have stored : Sound n depth after (· = idx / 2) (tree.set idx ((nodeAt tree idx).set free)) := by
    apply sound.set inside
    · rw [nowPlain, plainAt, plain_of_unmarked unmarked]
      rfl
    · exact ⟨notNegative, notNegative⟩
    · exact sameTaken
    · exact fun isMarked => absurd isMarked nowUnmarked
    · exact otherMarks
    · exact fun _ => nowPlain.trans here
    · exact fun other notParent elsewhere =>
        ⟨fun isStale => isStale.elim elsewhere notParent, fun isParent => absurd isParent notParent⟩
  have enough : idx / 2 ≤ (tree.set idx ((nodeAt tree idx).set free)).length := by
    rw [stored.length]
    have bound := inside.2
    omega
  obtain ⟨result, returned, fresh, sameLeaves⟩ := propagateLoop_sound stored enough
    (by have bound := inside.2; omega) upper
  refine ⟨result, ?_, fresh, fun leaf isLeaf => ?_⟩
  · simp only [setNode, read_eq length inside, write_eq length inside, propagateToRoot,
      Option.bind_eq_bind, Option.bind_some]
    exact returned
  · rw [blockAt, sameLeaves leaf isLeaf, nodeAt_set length inside, blockAt]
    split
    next isHere =>
      subst isHere
      rw [if_neg unmarked]
    next => rfl

theorem setNode_take (sound : Sound n depth taken (fun _ => False) tree)
    (inside : Inside depth idx) (free : ∀ node ∈ taken, 0 < node ∧ ¬Above node idx) :
    ∃ result, setNode 0 tree idx = some result ∧
      Sound n depth (insert idx taken) (fun _ => False) result ∧
      ∀ leaf, 2 ^ depth ≤ leaf → blockAt result leaf = blockAt tree leaf := by
  have positive := inside.1
  have notTaken : idx ∉ taken := fun member => (free idx member).2 (Above.refl idx)
  have unmarked : (nodeAt tree idx).max ≠ -1 := by
    intro isMarked
    obtain ⟨-, -, node, member, isAbove⟩ := sound.marked idx inside isMarked
    exact (free node member).2 isAbove
  apply setNode_sound (sound.mono fun _ _ never => never.elim) inside unmarked
  · rw [Int.mul_zero]
  · intro other elsewhere
    rw [Finset.mem_insert, or_iff_right elsewhere]
  · exact fun leaf _ _ _ ⟨node, member, isAbove⟩ =>
      ⟨node, Finset.mem_insert_of_mem member, isAbove⟩
  · have before := sound.agrees idx inside id
    rw [plainAt, plain_of_unmarked unmarked, expected] at before
    by_cases isLeaf : 2 ^ depth ≤ idx
    · rw [if_pos isLeaf, leafNode, if_neg notTaken] at before
      rw [before, expected, if_pos isLeaf, leafNode, if_pos (Finset.mem_insert_self idx taken)]
      split <;> rfl
    · rw [if_neg isLeaf, if_neg notTaken] at before
      rw [before, expected, if_neg isLeaf, if_pos (Finset.mem_insert_self idx taken)]
  · intro node member
    obtain rfl | wasTaken := Finset.mem_insert.mp member
    · refine ⟨positive, fun isAbove => ?_⟩
      have le := isAbove.le
      omega
    · exact ⟨(free node wasTaken).1, fun isAbove =>
        (free node wasTaken).2 (isAbove.trans (Above.half idx))⟩

/-! ## The cells below a node -/

/-- The cells below a node, as far as the taken nodes up to it tell. -/
def flags (n depth : Nat) (taken : Finset Nat) : (height idx : Nat) → List Bool
  | 0, idx => if idx < 2 ^ depth + n then [decide (idx ∉ taken)] else []
  | height + 1, idx =>
      let cells := flags n depth taken height (2 * idx) ++ flags n depth taken height (2 * idx + 1)
      if idx ∈ taken then cells.map fun _ => false else cells

theorem flags_free {height : Nat} (free : ∀ node ∈ taken, ¬Above idx node) :
    ∀ cell ∈ flags n depth taken height idx, cell = true := by
  have notTaken : idx ∉ taken := fun member => free idx member (Above.refl idx)
  induction height generalizing idx with
  | zero =>
      intro cell member
      rw [flags] at member
      split at member
      next =>
        rw [List.mem_singleton.mp member]
        exact decide_eq_true notTaken
      next => cases member
  | succ height ih =>
      have below : ∀ child, child / 2 = idx →
          ∀ cell ∈ flags n depth taken height child, cell = true := by
        intro child isChild
        have upper : Above idx child := isChild ▸ Above.half child
        apply ih
        · exact fun node member isAbove => free node member (upper.trans isAbove)
        · exact fun member => free child member upper
      intro cell member
      rw [flags, if_neg notTaken] at member
      obtain inLeft | inRight := List.mem_append.mp member
      · exact below _ (by omega) cell inLeft
      · exact below _ (by omega) cell inRight

theorem Memory.summary_taken (cells : List Bool) :
    summary (cells.map fun _ => false) = (summary cells).set 0 := by
  rw [summary, leadingRun_false, trailingRun, ← List.map_reverse, leadingRun_false,
    longestRun_false, Memory.set, summary, List.length_map]
  simp

theorem Sound.plainAt_eq {stale : Nat → Prop} (sound : Sound n depth taken stale tree)
    {height layer : Nat} (layers : layer + height = depth) (inLayer : Layer layer idx)
    (fresh : ∀ node, Above idx node → ¬stale node) :
    plainAt tree idx = summary (flags n depth taken height idx) := by
  have positive := inLayer.positive
  induction height generalizing layer idx with
  | zero =>
      obtain ⟨low, high⟩ := inLayer
      have isLast : layer = depth := by omega
      subst isLast
      rw [Nat.pow_succ] at high
      rw [sound.agrees idx ⟨positive, by omega⟩ (fresh idx (Above.refl idx)), expected, if_pos low,
        leafNode, flags]
      split
      next =>
        split
        next isTaken =>
          rw [decide_eq_false (not_not_intro isTaken)]
          rfl
        next notTaken =>
          rw [decide_eq_true notTaken]
          rfl
      next => rfl
  | succ height ih =>
      have ⟨low, high⟩ := inLayer
      have inner : idx < 2 ^ depth :=
        Nat.lt_of_lt_of_le high (Nat.pow_le_pow_right (by omega) (by omega))
      have child : ∀ child, child / 2 = idx → Layer (layer + 1) child →
          plainAt tree child = summary (flags n depth taken height child) :=
        fun child isChild inLayer => ih (by omega) inLayer
          (fun node isAbove => fresh node ((isChild ▸ Above.half child).trans isAbove))
          inLayer.positive
      rw [sound.agrees idx ⟨positive, by omega⟩ (fresh idx (Above.refl idx)), expected,
        if_neg (by omega), child _ (by omega) inLayer.double,
        child _ (by omega) inLayer.double_succ, combine_summary, flags]
      dsimp only
      split
      next => rw [summary_taken]
      next => rfl

theorem setNode_give (sound : Sound n depth taken (fun other => other = idx ∨ other = idx / 2) tree)
    (inside : Inside depth idx) (isTaken : idx ∈ taken)
    (apart : ∀ node ∈ taken, 0 < node ∧ ∀ other ∈ taken, Above node other → node = other)
    (noBlock : ∀ leaf, 2 ^ depth ≤ leaf → Above idx leaf → blockAt tree leaf = none) :
    ∃ result, setNode 1 tree idx = some result ∧
      Sound n depth (taken.erase idx) (fun _ => False) result ∧
      ∀ leaf, 2 ^ depth ≤ leaf → blockAt result leaf = blockAt tree leaf := by
  have positive := inside.1
  have unmarkedBelow : ∀ leaf, 2 ^ depth ≤ leaf → Above idx leaf → (nodeAt tree leaf).max ≠ -1 := by
    intro leaf isLeaf isAbove isMarked
    have none := noBlock leaf isLeaf isAbove
    rw [blockAt, if_pos isMarked] at none
    cases none
  have unmarked : (nodeAt tree idx).max ≠ -1 := fun isMarked =>
    unmarkedBelow idx (sound.marked idx inside isMarked).1 (Above.refl idx) isMarked
  obtain ⟨notNegative, size⟩ := sound.sized idx inside
  have notTaken : idx ∉ taken.erase idx := Finset.notMem_erase idx taken
  rw [expected_size, plainAt, plain_of_unmarked unmarked] at size
  rw [plainAt, plain_of_unmarked unmarked] at notNegative
  apply setNode_sound sound inside unmarked
  · rw [Int.mul_one]
    exact notNegative
  · intro other elsewhere
    rw [Finset.mem_erase, and_iff_right elsewhere]
  · intro leaf isLeaf _ isMarked ⟨node, member, isAbove⟩
    refine ⟨node, Finset.mem_erase.mpr ⟨?_, member⟩, isAbove⟩
    rintro rfl
    exact unmarkedBelow leaf isLeaf isAbove isMarked
  · rw [expected, Memory.set, Int.mul_one, size]
    by_cases isLeaf : 2 ^ depth ≤ idx
    · rw [if_pos isLeaf, if_pos isLeaf, leafNode, if_neg notTaken]
      split <;> rfl
    · -- everything below the node is free, so its children add up to a free node
      obtain ⟨layer, inLayer⟩ := Layer.exists_of_pos positive
      have above : layer < depth :=
        (Nat.pow_lt_pow_iff_right (by omega)).mp (Nat.lt_of_le_of_lt inLayer.1 (by omega))
      obtain ⟨height, heights⟩ := Nat.exists_eq_add_of_lt above
      have child : ∀ child, child / 2 = idx → Layer (layer + 1) child →
          ∃ cells : List Bool, (∀ cell ∈ cells, cell = true) ∧
            plainAt tree child = summary cells := by
        intro child isChild inLayer
        have upper : Above idx child := isChild ▸ Above.half child
        refine ⟨flags n depth taken height child, flags_free ?_, sound.plainAt_eq (by omega)
          inLayer ?_⟩
        · intro node member isAbove
          have same := (apart idx isTaken).2 node member (upper.trans isAbove)
          have le := isAbove.le
          omega
        · intro node isAbove isStale
          have le := isAbove.le
          omega
      obtain ⟨leftCells, leftFree, isLeft⟩ := child (2 * idx) (by omega) inLayer.double
      obtain ⟨rightCells, rightFree, isRight⟩ := child (2 * idx + 1) (by omega) inLayer.double_succ
      have allFree : ∀ cell ∈ leftCells ++ rightCells, cell = true := fun cell member =>
        (List.mem_append.mp member).elim (leftFree cell) (rightFree cell)
      rw [if_neg isLeaf, if_neg isLeaf, isLeft, isRight, combine_summary,
        summary_free allFree, List.length_append]
      simp only [notTaken, if_false, summary, Nat.cast_add]
  · intro node member
    obtain ⟨elsewhere, isTakenNode⟩ := Finset.mem_erase.mp member
    refine ⟨(apart node isTakenNode).1, fun isAbove => elsewhere ?_⟩
    exact (apart node isTakenNode).2 idx isTaken (isAbove.trans (Above.half idx))

end Gxf.Std.FirstFitAllocatorBase
