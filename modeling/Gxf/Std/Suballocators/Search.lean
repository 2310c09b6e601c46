import Mathlib.Tactic.Ring
import Gxf.Std.Suballocators.Tree

/-!
# The search for a free run

`acquire` descends from the root to a node at which the first run of the size is found.
It never enters the part of the tree below a taken node, where the nodes are outdated
and leaves store block sizes.
-/

namespace Gxf.Std.FirstFitAllocatorBase

open Gxf.Lib

variable {n depth idx height layer : Nat} {taken : Finset Nat} {tree : List Memory}

theorem not_taken_of_fits {size : Nat} (positive : 0 < size)
    (fits : size ≤ longestRun (flags n depth taken height idx)) : idx ∉ taken := by
  intro isTaken
  have nothing : longestRun (flags n depth taken height idx) = 0 := by
    cases height with
    | zero =>
        rw [flags]
        split
        next =>
          rw [decide_eq_false (not_not_intro isTaken)]
          rfl
        next => rfl
    | succ height =>
        rw [flags, if_pos isTaken]
        exact longestRun_false _
  omega

namespace Sound

variable {child : Nat}

theorem left_eq (sound : Sound n depth taken (fun _ => False) tree)
    (layers : layer + height = depth) (inLayer : Layer layer idx) :
    (nodeAt tree idx).left = leadingRun (flags n depth taken height idx) := by
  rw [← Memory.plain_left]
  exact congrArg Memory.left (sound.plainAt_eq layers inLayer fun _ _ => id)

theorem child_values (sound : Sound n depth taken (fun _ => False) tree)
    (layers : layer + (height + 1) = depth) (inLayer : Layer layer idx)
    (free : ∀ node ∈ taken, ¬Above node idx) (isChild : child = 2 * idx ∨ child = 2 * idx + 1) :
    (nodeAt tree child).left = leadingRun (flags n depth taken height child) ∧
      (nodeAt tree child).right = trailingRun (flags n depth taken height child) ∧
      (∀ size : Nat, 0 < size → ((size : Int) ≤ (nodeAt tree child).max ↔
          size ≤ longestRun (flags n depth taken height child))) ∧
      ((∀ size, child ∈ taken → blockAt tree child = some size → size = 1) →
        (nodeAt tree child).size = (flags n depth taken height child).length) := by
  have ⟨low, high⟩ := inLayer
  have inner : idx < 2 ^ depth :=
    Nat.lt_of_lt_of_le high (Nat.pow_le_pow_right (by omega) (by omega))
  have half : child / 2 = idx := by omega
  have childLayer : Layer (layer + 1) child := by
    obtain rfl | rfl := isChild
    · exact inLayer.double
    · exact inLayer.double_succ
  have value : plainAt tree child = Memory.summary (flags n depth taken height child) :=
    sound.plainAt_eq (by omega) childLayer fun _ _ => id
  have isLeft := sound.left_eq (by omega : layer + 1 + height = depth) childLayer
  have isRight : (nodeAt tree child).right = trailingRun (flags n depth taken height child) := by
    rw [← Memory.plain_right]
    exact congrArg Memory.right value
  have isMax : (plainAt tree child).max = longestRun (flags n depth taken height child) :=
    congrArg Memory.max value
  have isSize : (plainAt tree child).size = (flags n depth taken height child).length :=
    congrArg Memory.size value
  refine ⟨isLeft, isRight, ?_⟩
  by_cases isMarked : (nodeAt tree child).max = -1
  · obtain ⟨isTaken, leftZero, -⟩ := (sound.mono fun _ _ never => never.elim).child_taken
      inLayer.positive inner free half isMarked
    rw [plainAt, Memory.plain, if_pos isMarked] at isMax isSize
    rw [leftZero] at isMax
    constructor
    · intro size positive
      rw [isMarked]
      exact iff_of_false (by omega) (by dsimp only at isMax; omega)
    · intro block
      rw [block _ isTaken (if_pos isMarked)]
      exact isSize
  · rw [plainAt, Memory.plain_of_unmarked isMarked] at isMax isSize
    constructor
    · intro size _
      rw [isMax, Nat.cast_le]
    · exact fun _ => isSize

end Sound

theorem search_first (sound : Sound n depth taken (fun _ => False) tree)
    (evenBlock : ∀ leaf, leaf % 2 = 0 → leaf ∈ taken → ∀ size, blockAt tree leaf = some size →
      size = 1)
    {size fuel : Nat} (positive : 0 < size) {cells before after : List Bool}
    (layers : layer + height = depth) (inLayer : Layer layer idx) (enough : height < fuel)
    (upper : ∀ node ∈ taken, Above node idx → node = idx)
    (parts : cells = before ++ flags n depth taken height idx ++ after)
    (noEarlier : ∀ earlier < before.length, ¬RunAt cells size earlier)
    (fits : size ≤ longestRun (flags n depth taken height idx)) :
    ∃ start : Nat, search size (2 ^ depth) tree fuel idx before.length = some (.ok start) ∧
      FirstRun cells size start := by
  have length := sound.length
  induction height generalizing layer idx fuel before after with
  | zero =>
      obtain ⟨fuel, rfl⟩ : ∃ less, fuel = less + 1 := ⟨fuel - 1, by omega⟩
      have ⟨low, high⟩ := inLayer
      have isLast : layer = depth := by omega
      rw [isLast, Nat.pow_succ] at high
      have inside : Inside depth idx := ⟨inLayer.positive, by omega⟩
      have value := sound.left_eq layers inLayer
      -- a leaf has one cell at most
      have leading : size ≤ leadingRun (flags n depth taken 0 idx) := by
        have single : longestRun (flags n depth taken 0 idx) =
            leadingRun (flags n depth taken 0 idx) := by
          rw [flags]
          split
          next => exact longestRun_single _
          next => rfl
        rwa [single] at fits
      rw [search, if_pos inside.2]
      simp only [read_eq length inside, Option.bind_eq_bind, Option.bind_some]
      rw [if_pos (by omega)]
      refine ⟨before.length, rfl, ?_⟩
      rw [parts] at noEarlier ⊢
      exact firstRun_leading leading noEarlier
  | succ height ih =>
      obtain ⟨fuel, rfl⟩ : ∃ less, fuel = less + 1 := ⟨fuel - 1, by omega⟩
      have ⟨low, high⟩ := inLayer
      have inner : idx < 2 ^ depth :=
        Nat.lt_of_lt_of_le high (Nat.pow_le_pow_right (by omega) (by omega))
      have inside : Inside depth idx := ⟨inLayer.positive, by omega⟩
      have leftInside : Inside depth (2 * idx) := ⟨by omega, by omega⟩
      have rightInside : Inside depth (2 * idx + 1) := ⟨by omega, by omega⟩
      have notTaken := not_taken_of_fits positive fits
      have free : ∀ node ∈ taken, ¬Above node idx := by
        intro node member isAbove
        exact notTaken (upper node member isAbove ▸ member)
      have upperChild : ∀ child, child / 2 = idx → ∀ node ∈ taken, Above node child →
          node = child := by
        intro child isChild node member isAbove
        obtain same | aboveHalf := Above.iff_half.mp isAbove
        · exact same.symm
        · exact absurd (isChild ▸ aboveHalf) (free node member)
      have value := sound.left_eq layers inLayer
      obtain ⟨-, leftTrailing, leftMax, leftSize⟩ :=
        sound.child_values layers inLayer free (.inl rfl)
      obtain ⟨rightLeading, -, -, -⟩ := sound.child_values layers inLayer free (.inr rfl)
      have leftLength := leftSize fun size isTaken => evenBlock (2 * idx) (by omega) isTaken size
      have shorter := trailingRun_le (flags n depth taken height (2 * idx))
      rw [flags, if_neg notTaken] at parts fits value
      rw [search, if_pos inside.2]
      simp only [read_eq length inside, read_eq length leftInside, read_eq length rightInside,
        Option.bind_eq_bind, Option.bind_some]
      by_cases leading : size ≤ leadingRun
          (flags n depth taken height (2 * idx) ++ flags n depth taken height (2 * idx + 1))
      · rw [if_pos (by omega)]
        refine ⟨before.length, rfl, ?_⟩
        rw [parts] at noEarlier ⊢
        exact firstRun_leading leading noEarlier
      rw [if_neg (by omega)]
      by_cases inLeft : size ≤ longestRun (flags n depth taken height (2 * idx))
      · rw [if_pos ((leftMax size positive).mpr inLeft)]
        have regrouped : cells = before ++ flags n depth taken height (2 * idx) ++
            (flags n depth taken height (2 * idx + 1) ++ after) := by
          simp only [parts, List.append_assoc]
        exact ih (by omega) inLayer.double (by omega) (upperChild _ (by omega)) regrouped noEarlier
          inLeft
      rw [if_neg fun fits => inLeft ((leftMax size positive).mp fits)]
      by_cases across : size ≤ trailingRun (flags n depth taken height (2 * idx)) +
          leadingRun (flags n depth taken height (2 * idx + 1))
      · rw [if_pos (by omega), leftLength, leftTrailing]
        refine ⟨before.length + ((flags n depth taken height (2 * idx)).length -
          trailingRun (flags n depth taken height (2 * idx))), ?_, ?_⟩
        · rw [Nat.cast_add, Nat.cast_sub shorter]
          rfl
        · rw [parts] at noEarlier ⊢
          exact firstRun_across (Nat.lt_of_not_le inLeft) across noEarlier
      · rw [if_neg (by omega), leftLength]
        rw [parts] at noEarlier
        obtain ⟨inRight, stillNone⟩ := firstRun_right (Nat.lt_of_not_le inLeft)
          (Nat.lt_of_not_le across) fits noEarlier
        rw [← Nat.cast_add, ← List.length_append]
        have regrouped : cells = before ++ flags n depth taken height (2 * idx) ++
            flags n depth taken height (2 * idx + 1) ++ after := by
          simp only [parts, List.append_assoc]
        exact ih (by omega) inLayer.double_succ (by omega) (upperChild _ (by omega)) regrouped
          (regrouped ▸ stillNone) inRight

/-- No node up to a height above a leaf is taken. -/
def visible (taken : Finset Nat) (height leaf : Nat) : Bool :=
  decide (∀ climb ≤ height, leaf / 2 ^ climb ∉ taken)

theorem visible_succ {leaf : Nat} : visible taken (height + 1) leaf =
      (visible taken height leaf && decide (leaf / 2 ^ (height + 1) ∉ taken)) := by
  rw [visible, visible, ← Bool.decide_and]
  congr 1
  apply propext
  constructor
  · exact fun free => ⟨fun climb le => free climb (by omega), free _ (Nat.le_refl _)⟩
  · rintro ⟨lower, here⟩ climb le
    by_cases isTop : climb = height + 1
    · rw [isTop]
      exact here
    · exact lower climb (by omega)

/-- The cells below a node, from the left to the right. -/
theorem flags_eq : flags n depth taken height idx =
      ((List.range' (idx * 2 ^ height) (2 ^ height)).filter (· < 2 ^ depth + n)).map
        (visible taken height) := by
  induction height generalizing idx with
  | zero =>
      rw [flags, Nat.pow_zero, Nat.mul_one, List.range'_one]
      have here : visible taken 0 idx = decide (idx ∉ taken) := by
        rw [visible]
        congr 1
        apply propext
        constructor
        · exact fun free => Nat.div_one idx ▸ free 0 (Nat.le_refl 0)
        · intro free climb le
          rw [Nat.le_zero.mp le, Nat.pow_zero, Nat.div_one]
          exact free
      split
      next isCell => simp [isCell, here]
      next noCell => simp [noCell]
  | succ height ih =>
      have parts : List.range' (idx * 2 ^ (height + 1)) (2 ^ (height + 1)) =
          List.range' (2 * idx * 2 ^ height) (2 ^ height) ++
            List.range' ((2 * idx + 1) * 2 ^ height) (2 ^ height) := by
        have low : idx * 2 ^ (height + 1) = 2 * idx * 2 ^ height := by ring
        have middle : (2 * idx + 1) * 2 ^ height = 2 * idx * 2 ^ height + 2 ^ height := by ring
        have whole : 2 ^ (height + 1) = 2 ^ height + 2 ^ height := by ring
        rw [low, middle, whole, List.range'_append_1]
      have below : ∀ leaf ∈ List.range' (idx * 2 ^ (height + 1)) (2 ^ (height + 1)),
          leaf / 2 ^ (height + 1) = idx := by
        intro leaf member
        obtain ⟨low, high⟩ := List.mem_range'_1.mp member
        exact Nat.div_eq_of_lt_le low (by rw [Nat.succ_mul]; exact high)
      have stepped : ((List.range' (idx * 2 ^ (height + 1)) (2 ^ (height + 1))).filter
          (· < 2 ^ depth + n)).map (visible taken (height + 1)) =
          ((List.range' (idx * 2 ^ (height + 1)) (2 ^ (height + 1))).filter
            (· < 2 ^ depth + n)).map fun leaf =>
              visible taken height leaf && decide (idx ∉ taken) := by
        apply List.map_congr_left
        intro leaf member
        rw [visible_succ, below leaf (List.mem_of_mem_filter member)]
      rw [flags, ih, ih, ← List.map_append, ← List.filter_append, ← parts, stepped]
      split
      next isTaken => simp [isTaken]
      next notTaken => simp [notTaken]

theorem flags_root {free : Nat → Bool} (room : n ≤ 2 ^ depth) (positive : ∀ node ∈ taken, 0 < node)
    (isFree : ∀ cell < n, free cell = true ↔ ∀ node ∈ taken, ¬Above node (2 ^ depth + cell)) :
    flags n depth taken depth 1 = (List.range n).map free := by
  obtain ⟨padding, isSum⟩ := Nat.exists_eq_add_of_le room
  have cells : (List.range' (1 * 2 ^ depth) (2 ^ depth)).filter (· < 2 ^ depth + n) =
      (List.range n).map (2 ^ depth + ·) := by
    have parts : List.range' (2 ^ depth) (2 ^ depth) =
        List.range' (2 ^ depth) n ++ List.range' (2 ^ depth + n) padding := by
      rw [List.range'_append_1, ← isSum]
    rw [Nat.one_mul, parts, List.filter_append, List.filter_eq_self.mpr, List.filter_eq_nil_iff.mpr,
      List.append_nil, List.range'_eq_map_range]
    · intro leaf member
      have low := (List.mem_range'_1.mp member).1
      simpa using low
    · intro leaf member
      have high := (List.mem_range'_1.mp member).2
      simpa using high
  rw [flags_eq, cells, List.map_map]
  apply List.map_congr_left
  intro cell member
  have inside := List.mem_range.mp member
  rw [Function.comp_apply, Bool.eq_iff_iff, isFree cell inside, visible, decide_eq_true_eq]
  constructor
  · rintro nothing node isTaken ⟨climb, isAbove⟩
    by_cases inTree : climb ≤ depth
    · exact nothing climb inTree (isAbove ▸ isTaken)
    · have beyond : (2 ^ depth + cell) / 2 ^ climb = 0 := by
        apply Nat.div_eq_of_lt
        have powers : 2 ^ (depth + 1) ≤ 2 ^ climb := Nat.pow_le_pow_right (by omega) (by omega)
        rw [Nat.pow_succ] at powers
        omega
      have nodePositive := positive node isTaken
      omega
  · exact fun nothing climb _ isTaken => nothing _ isTaken ⟨climb, rfl⟩

end Gxf.Std.FirstFitAllocatorBase
