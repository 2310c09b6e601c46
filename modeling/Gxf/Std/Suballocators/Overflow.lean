import Gxf.Std.Suballocators.EmptyRequests

/-!
# The 32-bit values of the first fit allocator

The sums, differences and products that the calls evaluate, in order.  Halves are left out, which
always fit.  Where a call would leave the tree, the list ends.
-/

namespace Gxf.Std.FirstFitAllocatorBase

open Gxf.Lib FirstFit

/-- The value of a 32-bit expression does not overflow. -/
def Fits (value : Int) : Prop := -2 ^ 31 ≤ value ∧ value < 2 ^ 31

/-- Values of `Memory::update(left_child, right_child)`. -/
def Memory.updateValues (leftChild rightChild : Memory) : List Int :=
  (if leftChild.size = leftChild.left then [leftChild.size + rightChild.left] else []) ++
    (if rightChild.size = rightChild.right then [rightChild.size + leftChild.right] else []) ++
    [rightChild.left + leftChild.right]

/-- Values of `Memory::set(free)`. -/
def Memory.setValues (node : Memory) (free : Int) : List Int :=
  [node.size * free, node.size * free, node.size * free]

/-- Values of the loop of `propagateToRoot(idx)`. -/
def propagateValues : (fuel : Nat) → List Memory → (idx : Nat) → List Int
  | fuel, tree, idx =>
      if 0 < idx then
        match fuel with
        | 0 => []
        | fuel + 1 =>
            let leftChild := nodeAt tree (2 * idx)
            let rightChild := nodeAt tree (2 * idx + 1)
            [2 * (idx : Int), 2 * (idx : Int) + 1] ++ Memory.updateValues leftChild rightChild ++
              propagateValues fuel
                (tree.set idx ((nodeAt tree idx).update leftChild rightChild)) (idx / 2)
      else []

/-- Values of `ptr[idx].set(free); propagateToRoot(idx / 2)`. -/
def setNodeValues (free : Int) (tree : List Memory) (idx : Nat) : List Int :=
  (nodeAt tree idx).setValues free ++
    propagateValues tree.length (tree.set idx ((nodeAt tree idx).set free)) (idx / 2)

/-- Values of the loop of `update(left, right, free)`. -/
def updateLoopValues (free : Int) : (fuel : Nat) → List Memory → (left right : Nat) → List Int
  | fuel, tree, left, right =>
      if left ≤ right then
        match fuel with
        | 0 => []
        | fuel + 1 =>
            (if left % 2 = 1 then setNodeValues free tree left ++ [(left : Int) + 1] else []) ++
              (if left % 2 = 1 then setNode free tree left else some tree).elim [] fun tree =>
                (if right % 2 = 1 then [] else setNodeValues free tree right ++ [(right : Int) - 1])
                  ++ (if right % 2 = 1 then some tree else setNode free tree right).elim []
                    fun tree =>
                      updateLoopValues free fuel tree
                        (if left % 2 = 1 then (left + 1) / 2 else left / 2)
                        (if right % 2 = 1 then right / 2 else (right - 1) / 2)
      else []

/-- Values of `update(left, right, free)`. -/
def updateValues (lastLayerFirstIndex : Nat) (tree : List Memory) (left right free : Int) :
    List Int :=
  [left + lastLayerFirstIndex, lastLayerFirstIndex - 1, right + (lastLayerFirstIndex - 1)] ++
    updateLoopValues free tree.length tree (left + lastLayerFirstIndex).toNat
      (right + (lastLayerFirstIndex - 1)).toNat

/-- Values of the loop of `acquire(size)`, up to where the block starts. -/
def searchValues (size : Int) (lastLayerFirstIndex : Nat) (tree : List Memory) :
    (fuel : Nat) → (idx : Nat) → (index : Int) → List Int
  | fuel, idx, index =>
      [2 * (lastLayerFirstIndex : Int)] ++
        if idx < 2 * lastLayerFirstIndex then
          match fuel with
          | 0 => []
          | fuel + 1 =>
              let leftChild := nodeAt tree (2 * idx)
              let rightChild := nodeAt tree (2 * idx + 1)
              if (nodeAt tree idx).left ≥ size then []
              else if tree.length ≤ 2 * idx then [2 * (idx : Int)]
              else if leftChild.max ≥ size then
                [2 * (idx : Int), 2 * (idx : Int)] ++
                  searchValues size lastLayerFirstIndex tree fuel (2 * idx) index
              else
                [2 * (idx : Int), 2 * (idx : Int), 2 * (idx : Int) + 1,
                    leftChild.right + rightChild.left] ++
                  if leftChild.right + rightChild.left ≥ size then
                    [leftChild.size - leftChild.right, index + (leftChild.size - leftChild.right)]
                  else
                    [index + leftChild.size, 2 * (idx : Int) + 1] ++
                      searchValues size lastLayerFirstIndex tree fuel (2 * idx + 1)
                        (index + leftChild.size)
        else []

/-- How many cells there are below each node. -/
structure Cells (n depth : Nat) (cells : Nat → Int) : Prop where
  notNegative : ∀ idx, Inside depth idx → 0 ≤ cells idx
  le : ∀ idx, Inside depth idx → cells idx ≤ n
  children : ∀ idx, 0 < idx → idx < 2 ^ depth → cells idx = cells (2 * idx) + cells (2 * idx + 1)

/-- No node claims more cells than there are below it.  Only the marked leaves have other sizes. -/
structure Bounded (n depth : Nat) (cells : Nat → Int) (tree : List Memory) : Prop where
  length : tree.length = 2 * 2 ^ depth
  bounds : ∀ idx, Inside depth idx →
    (0 ≤ (nodeAt tree idx).left ∧ (nodeAt tree idx).left ≤ cells idx) ∧
      (0 ≤ (nodeAt tree idx).right ∧ (nodeAt tree idx).right ≤ cells idx) ∧
      -1 ≤ (nodeAt tree idx).max ∧ (nodeAt tree idx).max ≤ cells idx
  size : ∀ idx, Inside depth idx → (nodeAt tree idx).size = cells idx ∨
    2 ^ depth ≤ idx ∧ 0 ≤ (nodeAt tree idx).size ∧ (nodeAt tree idx).size ≤ n

section Bounds

variable {n depth idx : Nat} {cells : Nat → Int} {tree : List Memory} {free : Int}

/-- The two children of a node. -/
theorem Cells.below (isCells : Cells n depth cells) (positive : 0 < idx) (inner : idx < 2 ^ depth) :
    Inside depth (2 * idx) ∧ Inside depth (2 * idx + 1) ∧
      cells idx = cells (2 * idx) + cells (2 * idx + 1) ∧ 0 ≤ cells (2 * idx) ∧
      0 ≤ cells (2 * idx + 1) ∧ cells idx ≤ n := by
  have leftInside : Inside depth (2 * idx) := ⟨by omega, by omega⟩
  have rightInside : Inside depth (2 * idx + 1) := ⟨by omega, by omega⟩
  exact ⟨leftInside, rightInside, isCells.children idx positive inner,
    isCells.notNegative _ leftInside, isCells.notNegative _ rightInside,
    isCells.le idx ⟨positive, by omega⟩⟩

namespace Bounded

section

variable (bounded : Bounded n depth cells tree)
include bounded

theorem set (inside : Inside depth idx) {node : Memory}
    (left : 0 ≤ node.left ∧ node.left ≤ cells idx) (right : 0 ≤ node.right ∧ node.right ≤ cells idx)
    (max : -1 ≤ node.max ∧ node.max ≤ cells idx)
    (size : node.size = cells idx ∨ 2 ^ depth ≤ idx ∧ 0 ≤ node.size ∧ node.size ≤ n) :
    Bounded n depth cells (tree.set idx node) := by
  refine ⟨by rw [List.length_set, bounded.length], fun other otherInside => ?_,
    fun other otherInside => ?_⟩ <;>
    rw [nodeAt_set bounded.length inside] <;> split
  next isHere => exact isHere ▸ ⟨left, right, max⟩
  next => exact bounded.bounds other otherInside
  next isHere => exact isHere ▸ size
  next => exact bounded.size other otherInside

theorem update (isCells : Cells n depth cells) (positive : 0 < idx) (inner : idx < 2 ^ depth) :
    Bounded n depth cells (tree.set idx
      ((nodeAt tree idx).update (nodeAt tree (2 * idx)) (nodeAt tree (2 * idx + 1)))) := by
  obtain ⟨leftInside, rightInside, sum, -, -, -⟩ := isCells.below positive inner
  obtain ⟨⟨leftLow, leftHigh⟩, ⟨leftRightLow, leftRightHigh⟩, leftMaxLow, leftMaxHigh⟩ :=
    bounded.bounds _ leftInside
  obtain ⟨⟨rightLow, rightHigh⟩, ⟨rightRightLow, rightRightHigh⟩, rightMaxLow, rightMaxHigh⟩ :=
    bounded.bounds _ rightInside
  have inside : Inside depth idx := ⟨positive, by omega⟩
  apply bounded.set inside
  · rw [Memory.update]
    dsimp only
    split <;> omega
  · rw [Memory.update]
    dsimp only
    split <;> omega
  · rw [Memory.update]
    dsimp only
    omega
  · exact bounded.size idx inside

theorem updateValues_fit (isCells : Cells n depth cells)
    (small : n ≤ 2 ^ 29) (positive : 0 < idx) (inner : idx < 2 ^ depth) :
    ∀ value ∈ Memory.updateValues (nodeAt tree (2 * idx)) (nodeAt tree (2 * idx + 1)),
      Fits value := by
  obtain ⟨leftInside, rightInside, sum, leftCells, rightCells, le⟩ := isCells.below positive inner
  have left := bounded.bounds _ leftInside
  have right := bounded.bounds _ rightInside
  intro value member
  rw [Memory.updateValues, List.mem_append, List.mem_append, List.mem_singleton] at member
  rw [Fits]
  rcases member with (isLeft | isRight) | isMax
  · split at isLeft
    next whole =>
      rw [List.mem_singleton] at isLeft
      omega
    next => cases isLeft
  · split at isRight
    next whole =>
      rw [List.mem_singleton] at isRight
      omega
    next => cases isRight
  · omega

theorem propagate (isCells : Cells n depth cells)
    (small : n ≤ 2 ^ 29) (shallow : 2 ^ depth ≤ 2 ^ 29) {fuel : Nat} (inner : idx < 2 ^ depth) :
    (∀ value ∈ propagateValues fuel tree idx, Fits value) ∧
      ∀ after, propagateLoop fuel tree idx = some after → Bounded n depth cells after ∧
        ∀ leaf, 2 ^ depth ≤ leaf → nodeAt after leaf = nodeAt tree leaf := by
  induction fuel generalizing tree idx with
  | zero =>
      rw [propagateValues, propagateLoop]
      by_cases positive : 0 < idx
      · rw [if_pos positive, if_pos positive]
        exact ⟨List.forall_mem_nil _, fun after never => by cases never⟩
      · rw [if_neg positive, if_neg positive]
        refine ⟨List.forall_mem_nil _, ?_⟩
        rintro _ ⟨⟩
        exact ⟨bounded, fun leaf _ => rfl⟩
  | succ fuel ih =>
      rw [propagateValues, propagateLoop]
      by_cases positive : 0 < idx
      · obtain ⟨leftInside, rightInside, -⟩ := isCells.below positive inner
        have inside : Inside depth idx := ⟨positive, by omega⟩
        obtain ⟨later, kept⟩ := ih (bounded.update isCells positive inner)
          (by omega : idx / 2 < 2 ^ depth)
        rw [if_pos positive, if_pos positive]
        simp only [read_eq bounded.length inside, read_eq bounded.length leftInside,
          read_eq bounded.length rightInside, write_eq bounded.length inside, Option.bind_eq_bind,
          Option.bind_some]
        constructor
        · refine List.forall_mem_append.mpr ⟨List.forall_mem_append.mpr ⟨?_,
            bounded.updateValues_fit isCells small positive inner⟩, later⟩
          exact List.forall_mem_cons.mpr ⟨⟨by omega, by omega⟩,
            List.forall_mem_singleton.mpr ⟨by omega, by omega⟩⟩
        · intro after returned
          obtain ⟨afterBounded, sameLeaves⟩ := kept after returned
          refine ⟨afterBounded, fun leaf isLeaf => ?_⟩
          rw [sameLeaves leaf isLeaf, nodeAt_set bounded.length inside, if_neg (by omega)]
      · rw [if_neg positive, if_neg positive]
        refine ⟨List.forall_mem_nil _, ?_⟩
        rintro _ ⟨⟩
        exact ⟨bounded, fun leaf _ => rfl⟩

theorem size_eq (positive : 0 < idx)
    (inner : idx < 2 ^ depth) : (nodeAt tree idx).size = cells idx :=
  (bounded.size idx ⟨positive, by omega⟩).resolve_right fun isLeaf => by omega

theorem setNode (isCells : Cells n depth cells)
    (small : n ≤ 2 ^ 29) (shallow : 2 ^ depth ≤ 2 ^ 29) (isFree : free = 0 ∨ free = 1)
    (inside : Inside depth idx) (size : (nodeAt tree idx).size = cells idx) :
    (∀ value ∈ setNodeValues free tree idx, Fits value) ∧
      ∀ after, setNode free tree idx = some after → Bounded n depth cells after ∧
        ∀ leaf, 2 ^ depth ≤ leaf → leaf ≠ idx → nodeAt after leaf = nodeAt tree leaf := by
  have notNegative := isCells.notNegative idx inside
  have le := isCells.le idx inside
  have product : 0 ≤ (nodeAt tree idx).size * free ∧ (nodeAt tree idx).size * free ≤ cells idx := by
    rcases isFree with rfl | rfl <;> omega
  have stored : Bounded n depth cells (tree.set idx ((nodeAt tree idx).set free)) :=
    bounded.set inside product product ⟨Int.le_trans (by decide) product.1, product.2⟩ (.inl size)
  have above : idx / 2 < 2 ^ depth := by
    have bound := inside.2
    omega
  obtain ⟨wayFits, kept⟩ := @propagate _ _ (idx / 2) _ _ stored isCells small shallow tree.length
    above
  constructor
  · refine List.forall_mem_append.mpr ⟨fun value member => ?_, wayFits⟩
    rw [Memory.setValues] at member
    have isProduct : value = (nodeAt tree idx).size * free := by simpa using member
    rw [isProduct, Fits]
    omega
  · intro after returned
    rw [FirstFitAllocatorBase.setNode] at returned
    simp only [read_eq bounded.length inside, write_eq bounded.length inside, Option.bind_eq_bind,
      Option.bind_some, propagateToRoot, List.length_set] at returned
    obtain ⟨afterBounded, sameLeaves⟩ := kept after returned
    refine ⟨afterBounded, fun leaf isLeaf elsewhere => ?_⟩
    rw [sameLeaves leaf isLeaf, nodeAt_set bounded.length inside, if_neg elsewhere]

theorem updateLoop (isCells : Cells n depth cells)
    (small : n ≤ 2 ^ 29) (shallow : 2 ^ depth ≤ 2 ^ 29) (isFree : free = 0 ∨ free = 1)
    {fuel left right : Nat} (low : 0 < left) (high : right < 2 * 2 ^ depth)
    (unmarked : ∀ idx, left ≤ idx → idx ≤ right → (nodeAt tree idx).size = cells idx) :
    ∀ value ∈ updateLoopValues free fuel tree left right, Fits value := by
  induction fuel generalizing tree left right with
  | zero =>
      rw [updateLoopValues]
      split <;> exact List.forall_mem_nil _
  | succ fuel ih =>
      rw [updateLoopValues]
      split
      next nonempty =>
        have leftFits : ∀ value ∈ (if left % 2 = 1 then
            setNodeValues free tree left ++ [(left : Int) + 1] else []), Fits value := by
          split
          next =>
            refine List.forall_mem_append.mpr ⟨(bounded.setNode isCells small shallow isFree
              ⟨low, by omega⟩ (unmarked left (Nat.le_refl _) nonempty)).1, ?_⟩
            exact List.forall_mem_singleton.mpr ⟨by omega, by omega⟩
          next => exact List.forall_mem_nil _
        have leftKept : ∀ middle, (if left % 2 = 1 then FirstFitAllocatorBase.setNode free tree left
            else some tree) = some middle → Bounded n depth cells middle ∧
              ∀ leaf, 2 ^ depth ≤ leaf → leaf % 2 = 0 → nodeAt middle leaf = nodeAt tree leaf := by
          intro middle returned
          split at returned
          next isOdd =>
            obtain ⟨middleBounded, same⟩ := (bounded.setNode isCells small shallow isFree
              ⟨low, by omega⟩ (unmarked left (Nat.le_refl _) nonempty)).2 middle returned
            exact ⟨middleBounded, fun leaf isLeaf isEven => same leaf isLeaf (by omega)⟩
          next =>
            cases returned
            exact ⟨bounded, fun leaf _ _ => rfl⟩
        refine List.forall_mem_append.mpr ⟨leftFits, ?_⟩
        cases returned : (if left % 2 = 1 then FirstFitAllocatorBase.setNode free tree left
            else some tree) with
        | none => exact List.forall_mem_nil _
        | some middle =>
            obtain ⟨middleBounded, same⟩ := leftKept middle returned
            have rightUnmarked : right % 2 = 0 → (nodeAt middle right).size = cells right := by
              intro isEven
              by_cases isLeaf : 2 ^ depth ≤ right
              · rw [same right isLeaf isEven]
                exact unmarked right nonempty (Nat.le_refl _)
              · exact middleBounded.size_eq (by omega) (by omega)
            rw [Option.elim_some]
            refine List.forall_mem_append.mpr ⟨?_, ?_⟩
            · split
              next => exact List.forall_mem_nil _
              next isEven =>
                refine List.forall_mem_append.mpr ⟨(middleBounded.setNode isCells small shallow
                  isFree ⟨by omega, high⟩ (rightUnmarked (by omega))).1, ?_⟩
                exact List.forall_mem_singleton.mpr ⟨by omega, by omega⟩
            · have lastBounded : ∀ last, (if right % 2 = 1 then some middle else
                  FirstFitAllocatorBase.setNode free middle right) = some last →
                    Bounded n depth cells last := by
                intro last returned
                split at returned
                next =>
                  cases returned
                  exact middleBounded
                next isEven =>
                  exact ((middleBounded.setNode isCells small shallow isFree ⟨by omega, high⟩
                    (rightUnmarked (by omega))).2 last returned).1
              cases returned : (if right % 2 = 1 then some middle else
                  FirstFitAllocatorBase.setNode free middle right) with
              | none => exact List.forall_mem_nil _
              | some last =>
                  -- one layer up there are no marks
                  refine ih (lastBounded last returned) (by split <;> omega) (by split <;> omega) ?_
                  intro idx above below
                  refine (lastBounded last returned).size_eq ?_ ?_
                  · split at above <;> omega
                  · split at below <;> omega
      next => exact List.forall_mem_nil _

end

end Bounded

end Bounds

/-! ## Calls -/

section Calls

variable {n depth idx : Nat} {cells : Nat → Int} {tree : List Memory} {area : FirstFit}
  {size free : Int}

theorem Bounded.search (bounded : Bounded n depth cells tree) (isCells : Cells n depth cells)
    (small : n ≤ 2 ^ 29) (shallow : 2 ^ depth ≤ 2 ^ 29) {fuel : Nat} {index : Int}
    (inside : Inside depth idx) (notNegative : 0 ≤ index)
    (room : if 2 ^ depth ≤ idx then index ≤ 2 * n else index + cells idx ≤ n) :
    ∀ value ∈ searchValues size (2 ^ depth) tree fuel idx index, Fits value := by
  have powers := Nat.two_pow_pos depth
  have ends : Fits (2 * ((2 ^ depth : Nat) : Int)) := ⟨by omega, by omega⟩
  have bound := inside.2
  have positive := inside.1
  induction fuel generalizing idx index with
  | zero =>
      rw [searchValues, if_pos bound]
      exact List.forall_mem_singleton.mpr ends
  | succ fuel ih =>
      rw [searchValues, if_pos bound]
      refine List.forall_mem_append.mpr ⟨List.forall_mem_singleton.mpr ends, ?_⟩
      have double : Fits (2 * (idx : Int)) := ⟨by omega, by omega⟩
      have doubleSucc : Fits (2 * (idx : Int) + 1) := ⟨by omega, by omega⟩
      dsimp only
      split
      next => exact List.forall_mem_nil _
      split
      next => exact List.forall_mem_singleton.mpr double
      next inTree =>
      rw [bounded.length] at inTree
      have inner : idx < 2 ^ depth := by omega
      rw [if_neg (by omega)] at room
      obtain ⟨leftInside, rightInside, sum, leftCells, rightCells, le⟩ :=
        isCells.below positive inner
      have left := bounded.bounds _ leftInside
      have right := bounded.bounds _ rightInside
      have leftSize : 0 ≤ (nodeAt tree (2 * idx)).size ∧ (nodeAt tree (2 * idx)).size ≤ n := by
        rcases bounded.size _ leftInside with isSize | ⟨-, low, high⟩
        · have fewer := isCells.le _ leftInside
          omega
        · exact ⟨low, high⟩
      split
      next =>
        refine List.forall_mem_append.mpr ⟨List.forall_mem_cons.mpr ⟨double,
          List.forall_mem_singleton.mpr double⟩, ih leftInside notNegative ?_ leftInside.2 (by
          omega)⟩
        split <;> omega
      next =>
        refine List.forall_mem_append.mpr ⟨List.forall_mem_cons.mpr ⟨double,
          List.forall_mem_cons.mpr ⟨double, List.forall_mem_cons.mpr ⟨doubleSucc,
            List.forall_mem_singleton.mpr ⟨by omega, by omega⟩⟩⟩⟩, ?_⟩
        split
        next =>
          exact List.forall_mem_cons.mpr ⟨⟨by omega, by omega⟩,
            List.forall_mem_singleton.mpr ⟨by omega, by omega⟩⟩
        next =>
          refine List.forall_mem_append.mpr ⟨List.forall_mem_cons.mpr ⟨⟨by omega, by omega⟩,
            List.forall_mem_singleton.mpr doubleSucc⟩,
            ih rightInside (by omega) ?_ rightInside.2 (by omega)⟩
          split
          next => omega
          next above =>
            -- the left child is no leaf either, and tells how many cells it has
            have leftSize := bounded.size_eq leftInside.1 (by omega)
            omega

namespace Represents

section

variable (represents : Represents depth tree area)
include represents

theorem isCells : Cells area.size depth fun idx => (plainAt tree idx).size := by
  refine ⟨fun idx inside => (represents.sound.sized idx inside).1,
    fun idx inside => represents.size_le inside, fun idx positive inner => ?_⟩
  have size := (represents.sound.sized idx ⟨positive, by omega⟩).2
  rwa [expected_size, if_neg (Nat.not_le.mpr inner)] at size

theorem updateValues_fit (small : area.size ≤ 2 ^ 29)
    (shallow : 2 ^ depth ≤ 2 ^ 29) (isFree : free = 0 ∨ free = 1) {after : List Memory}
    {start count : Nat}
    (bounded : Bounded area.size depth (fun idx => (plainAt tree idx).size) after)
    (inside : start + count ≤ area.size)
    (unmarked : ∀ cell, start ≤ cell → cell < start + count →
      (nodeAt after (2 ^ depth + cell)).size = (plainAt tree (2 ^ depth + cell)).size) :
    ∀ value ∈ updateValues (2 ^ depth) after start (start + count) free, Fits value := by
  have powers := Nat.two_pow_pos depth
  have room := represents.room
  refine List.forall_mem_append.mpr ⟨?_, ?_⟩
  · exact List.forall_mem_cons.mpr ⟨⟨by omega, by omega⟩, List.forall_mem_cons.mpr
      ⟨⟨by omega, by omega⟩, List.forall_mem_singleton.mpr ⟨by omega, by omega⟩⟩⟩
  · refine bounded.updateLoop represents.isCells small shallow isFree (by omega) (by omega) ?_
    intro idx above below
    obtain ⟨cell, rfl⟩ : ∃ cell, idx = 2 ^ depth + cell := ⟨idx - 2 ^ depth, by omega⟩
    exact unmarked cell (by omega) (by omega)

end

end Represents

end Calls

section Allocation

variable {n depth : Nat} {cells : Nat → Int} {tree after : List Memory}

end Allocation

end Gxf.Std.FirstFitAllocatorBase
