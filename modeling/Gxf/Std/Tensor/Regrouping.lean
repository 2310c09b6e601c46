import Gxf.Std.Tensor.ReshapeSafety

/-!
# Elements that keep their numbers

For positive dimensions with the same product, the groups of the walk end within the dimensions
before the padding.  Inside a group the offset is proportional to the number of an element, on both
sides by the innermost stride, and so elements with the same number have the same offset.
-/

namespace Gxf.Std.Tensor

open Gxf.Core Gxf.Lib Shape Layout

/-- The sizes of some dimensions. -/
def sizes (dims : List Int32) : List Nat := dims.map fun dim => dim.toInt.toNat

variable {product : UInt64} {dims : List Int32} {count total : Nat}

theorem toNat_mul_widen {dim : Int32} (positive : 0 < dim.toInt)
    (fits : product.toNat * dim.toInt.toNat < 2 ^ 64) :
    (product * widen dim).toNat = product.toNat * dim.toInt.toNat := by
  rw [UInt64.toNat_mul, toNat_widen positive.le, Nat.mod_eq_of_lt fits]

theorem sizes_pos (positive : ∀ dim ∈ dims, 0 < dim.toInt) : ∀ size ∈ sizes dims, 0 < size := by
  intro size member
  obtain ⟨dim, among, rfl⟩ := List.mem_map.mp member
  exact Int.lt_toNat.mpr (positive dim among)

theorem prod_sizes_pos (positive : ∀ dim ∈ dims, 0 < dim.toInt) : 0 < (sizes dims).prod :=
  List.prod_pos_iff_forall_pos_nat.mpr (sizes_pos positive)

theorem prod_toInt (nonneg : ∀ dim ∈ dims, 0 ≤ dim.toInt) :
    (dims.map Int32.toInt).prod = (sizes dims).prod := by
  induction dims with
  | nil => rfl
  | cons dim dims ih =>
      obtain ⟨here, later⟩ := List.forall_mem_cons.mp nonneg
      have product : (sizes (dim :: dims)).prod = dim.toInt.toNat * (sizes dims).prod :=
        List.prod_cons
      rw [List.map_cons, List.prod_cons, ih later, product, Nat.cast_mul, Int.toNat_of_nonneg here]

theorem sizes_drop (within : count < dims.length) : (sizes (dims.drop count)).prod =
      dims[count].toInt.toNat * (sizes (dims.drop (count + 1))).prod := by
  rw [List.drop_eq_getElem_cons within]
  exact List.prod_cons

/-- One dimension more on one side. -/
theorem extend_product (positive : ∀ dim ∈ dims, 0 < dim.toInt) (within : count < dims.length)
    (whole : product.toNat * (sizes (dims.drop count)).prod = total) (fits : total < 2 ^ 64) :
    (product * widen dims[count]).toNat * (sizes (dims.drop (count + 1))).prod = total := by
  have rest : 0 < (sizes (dims.drop (count + 1))).prod :=
    prod_sizes_pos fun dim member => positive dim (List.mem_of_mem_drop member)
  have smaller : product.toNat * dims[count].toInt.toNat < 2 ^ 64 := by
    apply Nat.lt_of_le_of_lt (Nat.le_mul_of_pos_right _ rest)
    rwa [Nat.mul_assoc, ← sizes_drop within, whole]
  rw [toNat_mul_widen (positive _ (List.getElem_mem within)) smaller, Nat.mul_assoc,
    ← sizes_drop within, whole]

theorem within_of_lt {smaller larger : UInt64} {rest : Nat}
    (whole : smaller.toNat * (sizes (dims.drop count)).prod = total)
    (other : larger.toNat * rest = total) (rest_pos : 0 < rest) (less : smaller < larger) :
    count < dims.length := by
  by_contra ended
  rw [List.drop_eq_nil_of_le (Nat.le_of_not_lt ended)] at whole
  have equal : smaller.toNat = total := (Nat.mul_one _).symm.trans whole
  have atMost : larger.toNat ≤ smaller.toNat := by
    rw [equal, ← other]
    exact Nat.le_mul_of_pos_right _ rest_pos
  exact absurd (UInt64.lt_iff_toNat_lt.mp less) (Nat.not_lt.mpr atMost)

theorem findMatch_within {newDims oldDims : List Int32} (zeros : List Int32)
    {nj oj : Nat} {nd od : UInt64}
    (newPositive : ∀ dim ∈ newDims, 0 < dim.toInt) (oldPositive : ∀ dim ∈ oldDims, 0 < dim.toInt)
    (newWhole : nd.toNat * (sizes (newDims.drop nj)).prod = total)
    (oldWhole : od.toNat * (sizes (oldDims.drop oj)).prod = total)
    (total_pos : 0 < total) (fits : total < 2 ^ 64)
    (oldWithin : oj ≤ oldDims.length) :
    ∃ nj' oj', findMatch newDims (oldDims ++ zeros) nj oj nd od = some (nj', oj') ∧
      oj' ≤ oldDims.length ∧
      (sizes (newDims.drop nj')).prod = (sizes (oldDims.drop oj')).prod := by
  have newRest (count : Nat) : 0 < (sizes (newDims.drop count)).prod :=
    prod_sizes_pos fun dim member => newPositive dim (List.mem_of_mem_drop member)
  have oldRest (count : Nat) : 0 < (sizes (oldDims.drop count)).prod :=
    prod_sizes_pos fun dim member => oldPositive dim (List.mem_of_mem_drop member)
  generalize all : oldDims ++ zeros = padded
  fun_induction findMatch newDims padded nj oj nd od with
  | case1 nj oj now =>
      refine ⟨nj, oj, rfl, oldWithin, ?_⟩
      have positive : 0 < now.toNat := Nat.pos_of_mul_pos_right (newWhole ▸ total_pos)
      exact Nat.eq_of_mul_eq_mul_left positive (newWhole.trans oldWhole.symm)
  | case2 nj oj nd od differ smaller within ih =>
      exact ih (extend_product newPositive within newWhole fits) oldWhole oldWithin
  | case3 nj oj nd od differ smaller ended =>
      exact absurd (within_of_lt newWhole oldWhole (oldRest oj) smaller) ended
  | case4 nj oj nd od differ notSmaller within ih =>
      have larger : od < nd := UInt64.lt_of_le_of_ne (UInt64.not_lt.mp notSmaller) (Ne.symm differ)
      have before : oj < oldDims.length := within_of_lt oldWhole newWhole (newRest nj) larger
      have here : padded[oj] = oldDims[oj] := by
        subst all
        exact List.getElem_append_left before
      refine ih newWhole ?_ before
      rw [here]
      exact extend_product oldPositive before oldWhole fits
  | case5 nj oj nd od differ notSmaller ended =>
      have larger : od < nd := UInt64.lt_of_le_of_ne (UInt64.not_lt.mp notSmaller) (Ne.symm differ)
      have before : oj < oldDims.length := within_of_lt oldWhole newWhole (newRest nj) larger
      refine absurd (Nat.lt_of_lt_of_le before ?_) ended
      rw [← all, List.length_append]
      exact Nat.le_add_right _ _

/-! ## Groups -/

section Groups

open scoped UInt64.CommRing

theorem cast_prod_sizes_cons {dim : Int32} (positive : 0 < dim.toInt) (dims : List Int32) :
    ((sizes (dim :: dims)).prod : UInt64) = widen dim * ((sizes dims).prod : UInt64) := by
  rw [widen_eq_cast positive, ← Nat.cast_mul]
  rfl

theorem packed_sizes_cons (width : UInt64) (dim : Int32) (dims : List Int32) :
    packed width (sizes (dim :: dims)) =
      width * ((sizes dims).prod : UInt64) :: packed width (sizes dims) :=
  rfl

theorem groupStrides_eq_packed (last : UInt64) {dims : List Int32}
    (positive : ∀ dim ∈ dims, 0 < dim.toInt) :
    groupStrides last dims = packed last (sizes dims) := by
  induction dims with
  | nil => rfl
  | cons dim dims ih =>
      obtain ⟨-, later⟩ := List.forall_mem_cons.mp positive
      cases dims with
      | nil => exact congrArg (· :: []) (mul_one last).symm
      | cons inner dims =>
          have packed := ih later
          have head : (groupStrides last (inner :: dims)).headD 0 =
              last * ((sizes dims).prod : UInt64) := by
            rw [packed]
            rfl
          rw [groupStrides, head, packed, packed_sizes_cons last dim,
            cast_prod_sizes_cons (List.forall_mem_cons.mp later).1, mul_assoc,
            mul_comm (widen inner)]

theorem strides_of_chained {group : List (Int32 × UInt64)} (some : group ≠ [])
    (positive : ∀ entry ∈ group, 0 < entry.1.toInt) (chained : Chained group) :
    group.map Prod.snd = packed (group.getLast some).2 (sizes (dimensionsOf group)) := by
  induction group with
  | nil => exact absurd rfl some
  | cons entry group ih =>
      obtain ⟨dim, stride⟩ := entry
      obtain ⟨-, later⟩ := List.forall_mem_cons.mp positive
      cases group with
      | nil => exact congrArg (· :: []) (mul_one stride).symm
      | cons inner group =>
          obtain ⟨innerDim, innerStride⟩ := inner
          obtain ⟨gapless, chained⟩ := chained
          have packed := ih (List.cons_ne_nil _ _) later chained
          have innermost := (List.cons.inj packed).1
          have product := cast_prod_sizes_cons (List.forall_mem_cons.mp later).1
            (dimensionsOf group)
          have outermost : stride = (((innerDim, innerStride) :: group).getLast
              (List.cons_ne_nil _ _)).2 *
                ((sizes (innerDim :: dimensionsOf group)).prod : UInt64) := by
            rw [product, ← mul_assoc, mul_comm _ (widen innerDim), mul_assoc, gapless]
            exact congrArg _ innermost
          rw [List.getLast_cons (List.cons_ne_nil _ _), List.map_cons, packed]
          exact congrArg (· :: _) outermost

theorem chained_of_packed {width : UInt64} {group : List (Int32 × UInt64)}
    (positive : ∀ entry ∈ group, 0 < entry.1.toInt)
    (packed : group.map Prod.snd = packed width (sizes (dimensionsOf group))) :
    Chained group := by
  induction group with
  | nil => trivial
  | cons entry group ih =>
      obtain ⟨dim, stride⟩ := entry
      obtain ⟨-, later⟩ := List.forall_mem_cons.mp positive
      obtain ⟨here, packed⟩ := List.cons.inj packed
      cases group with
      | nil => trivial
      | cons inner group =>
          obtain ⟨innerDim, innerStride⟩ := inner
          refine ⟨?_, ih later packed⟩
          have innermost := (List.cons.inj packed).1
          have product := cast_prod_sizes_cons (List.forall_mem_cons.mp later).1
            (dimensionsOf group)
          calc stride = width * ((sizes (innerDim :: dimensionsOf group)).prod : UInt64) := here
            _ = widen innerDim * (width * ((sizes (dimensionsOf group)).prod : UInt64)) := by
              rw [product, ← mul_assoc, ← mul_assoc, mul_comm width]
            _ = widen innerDim * innerStride := congrArg _ innermost.symm

theorem Chained.drop {group : List (Int32 × UInt64)} (chained : Chained group) (count : Nat) :
    Chained (group.drop count) := by
  induction count generalizing group with
  | zero => exact chained
  | succ count ih =>
      match group, chained with
      | [], _ => trivial
      | [_], _ => rw [List.drop_succ_cons, List.drop_nil]; trivial
      | _ :: _ :: _, ⟨_, chained⟩ => exact ih chained

theorem Chained.take {group : List (Int32 × UInt64)} (chained : Chained group) (count : Nat) :
    Chained (group.take count) := by
  induction count generalizing group with
  | zero => trivial
  | succ count ih =>
      match group, chained with
      | [], _ => trivial
      | [_], _ => rw [List.take_succ_cons, List.take_nil]; trivial
      | _ :: (_, _) :: _, ⟨gapless, chained⟩ =>
          cases count with
          | zero => trivial
          | succ count => exact ⟨gapless, ih chained⟩

/-- The elements with one number have one offset. -/
def SameOffsets (newDims : List Int32) (newStrides : Strides) (old : List (Int32 × UInt64)) :
    Prop :=
  ∀ number < (sizes newDims).prod, offsetAt (sizes newDims) newStrides number =
      offsetAt (sizes (dimensionsOf old)) (old.map Prod.snd) number

variable {newDims : List Int32}

theorem sameOffsets_of_prod_eq_one (one : (sizes newDims).prod = 1)
    (newStrides : Strides) (old : List (Int32 × UInt64)) :
    SameOffsets newDims newStrides old := by
  intro number below
  rw [one] at below
  rw [Nat.lt_one_iff.mp below, offsetAt_zero, offsetAt_zero]

theorem SameOffsets.group {newGroup : List Int32} {group old : List (Int32 × UInt64)}
    {newStrides : Strides} (some : group ≠ [])
    (newPositive : ∀ dim ∈ newGroup, 0 < dim.toInt)
    (oldPositive : ∀ entry ∈ group, 0 < entry.1.toInt) (chained : Chained group)
    (same : (sizes newGroup).prod = (sizes (dimensionsOf group)).prod)
    (rest : (sizes newDims).prod = (sizes (dimensionsOf old)).prod)
    (rest_pos : 0 < (sizes newDims).prod) (kept : SameOffsets newDims newStrides old) :
    SameOffsets (newGroup ++ newDims) (groupStrides (group.getLast some).2 newGroup ++ newStrides)
      (group ++ old) := by
  intro number below
  have newLength : (groupStrides (group.getLast some).2 newGroup).length =
      (sizes newGroup).length := by
    rw [length_groupStrides, sizes, List.length_map]
  have oldLength : (group.map Prod.snd).length = (sizes (dimensionsOf group)).length := by
    rw [sizes, dimensionsOf, List.length_map, List.length_map, List.length_map]
  have newSplit : sizes (newGroup ++ newDims) = sizes newGroup ++ sizes newDims := List.map_append
  have oldSplit : sizes (dimensionsOf (group ++ old)) =
      sizes (dimensionsOf group) ++ sizes (dimensionsOf old) := by
    rw [sizes, dimensionsOf, List.map_append, List.map_append]
    rfl
  have oldBelow : number < (sizes (dimensionsOf group) ++ sizes (dimensionsOf old)).prod := by
    rwa [List.prod_append, ← same, ← rest, ← List.prod_append, ← newSplit]
  have outer : number / (sizes newDims).prod < (sizes newGroup).prod := by
    rw [Nat.div_lt_iff_lt_mul rest_pos, ← List.prod_append, ← newSplit]
    exact below
  rw [newSplit] at below ⊢
  rw [oldSplit, List.map_append, offsetAt_append newLength _ _ below,
    offsetAt_append oldLength _ _ oldBelow, groupStrides_eq_packed _ newPositive,
    strides_of_chained some oldPositive chained, offsetAt_packed _ outer,
    offsetAt_packed _ (by rwa [← rest, ← same]), ← rest,
    kept _ (Nat.mod_lt number rest_pos)]

/-- Positive new dimensions, and positive old ones before the padding, with the same product. -/
structure Balanced (padding : Nat) (newDims : List Int32) (old present : List (Int32 × UInt64)) :
    Prop where
  split : old = present ++ List.replicate padding (0, 1)
  newPositive : ∀ dim ∈ newDims, 0 < dim.toInt
  oldPositive : ∀ entry ∈ present, 0 < entry.1.toInt
  same : (sizes newDims).prod = (sizes (dimensionsOf present)).prod
  fits : (sizes newDims).prod < 2 ^ 64

section Balanced

variable {padding nj oj : Nat} {newDim oldDim : Int32} {oldStride : UInt64}
  {newDims : List Int32} {old present : List (Int32 × UInt64)}

theorem Balanced.nil_of_short (balanced : Balanced padding newDims old present)
    (short : old.length ≤ padding) : present = [] := by
  have lengths := congrArg List.length balanced.split
  rw [List.length_append, List.length_replicate] at lengths
  apply List.length_eq_zero_iff.mp
  omega

theorem Balanced.exists_cons
    (balanced : Balanced padding (newDim :: newDims) ((oldDim, oldStride) :: old) present)
    (room : padding ≤ old.length) :
    ∃ rest, present = (oldDim, oldStride) :: rest ∧
      old = rest ++ List.replicate padding (0, 1) := by
  cases present with
  | nil =>
      have lengths := congrArg List.length balanced.split
      rw [List.length_append, List.length_replicate, List.length_nil, List.length_cons] at lengths
      omega
  | cons entry rest =>
      obtain ⟨same, split⟩ := List.cons.inj balanced.split
      exact ⟨rest, congrArg (· :: rest) same.symm, split⟩

theorem Balanced.closes {rest : List (Int32 × UInt64)}
    (balanced : Balanced padding (newDim :: newDims) ((oldDim, oldStride) :: old)
      ((oldDim, oldStride) :: rest))
    (split : old = rest ++ List.replicate padding (0, 1)) :
    ∃ nj oj, findMatch newDims (dimensionsOf old) 0 0 (widen newDim) (widen oldDim) =
        some (nj, oj) ∧
      oj ≤ rest.length ∧ Balanced padding (newDims.drop nj) (old.drop oj) (rest.drop oj) := by
  obtain ⟨newHere, newLater⟩ := List.forall_mem_cons.mp balanced.newPositive
  obtain ⟨oldHere, oldLater⟩ := List.forall_mem_cons.mp balanced.oldPositive
  have oldDimsPositive : ∀ dim ∈ dimensionsOf rest, 0 < dim.toInt := by
    intro dim member
    obtain ⟨entry, among, rfl⟩ := List.mem_map.mp member
    exact oldLater entry among
  have padded : dimensionsOf old =
      dimensionsOf rest ++ dimensionsOf (List.replicate padding (0, 1)) := by
    rw [split]
    exact List.map_append
  have newWhole : (widen newDim).toNat * (sizes (newDims.drop 0)).prod =
      (sizes (newDim :: newDims)).prod := by
    rw [toNat_widen newHere.le]
    exact List.prod_cons.symm
  have oldWhole : (widen oldDim).toNat * (sizes ((dimensionsOf rest).drop 0)).prod =
      (sizes (newDim :: newDims)).prod := by
    rw [toNat_widen oldHere.le, balanced.same]
    exact List.prod_cons.symm
  obtain ⟨nj, oj, found, within, same⟩ := findMatch_within
    (dimensionsOf (List.replicate padding (0, 1))) newLater oldDimsPositive newWhole
    oldWhole (prod_sizes_pos balanced.newPositive) balanced.fits (Nat.zero_le _)
  rw [← padded] at found
  have oldWithin : oj ≤ rest.length := by rwa [dimensionsOf, List.length_map] at within
  refine ⟨nj, oj, found, oldWithin, ?_, ?_, ?_, ?_, ?_⟩
  · rw [split, List.drop_append_of_le_length oldWithin]
  · exact fun dim member => newLater dim (List.mem_of_mem_drop member)
  · exact fun entry member => oldLater entry (List.mem_of_mem_drop member)
  · rw [same, dimensionsOf, dimensionsOf, List.map_drop]
  · have divided : (sizes (newDim :: newDims.take nj)).prod * (sizes (newDims.drop nj)).prod =
        (sizes (newDim :: newDims)).prod := by
      rw [← List.prod_append, sizes, sizes, ← List.map_append, List.cons_append,
        List.take_append_drop]
      rfl
    apply Nat.lt_of_le_of_lt _ balanced.fits
    rw [← divided]
    refine Nat.le_mul_of_pos_left _ (prod_sizes_pos ?_)
    intro dim member
    exact balanced.newPositive dim (by
      rcases List.mem_cons.mp member with rfl | among
      · exact List.mem_cons_self
      · exact List.mem_cons_of_mem _ (List.mem_of_mem_take among))

end Balanced

theorem walk_keeps (padding : Nat) (last : UInt64) (newDims : List Int32)
    (old : List (Int32 × UInt64)) :
    ∀ present, Balanced padding newDims old present →
      (∃ newStrides, walk padding last newDims old = .ok newStrides ∧
          SameOffsets newDims newStrides present) ∨
        walk padding last newDims old = .error .incompatible ∧ ¬Chained present := by
  fun_induction walk padding last newDims old with
  | case1 last old =>
      exact fun present balanced => .inl ⟨[], rfl, sameOffsets_of_prod_eq_one rfl _ _⟩
  | case2 last newDims other =>
      intro present balanced
      cases balanced.nil_of_short (Nat.zero_le _)
      exact .inl ⟨_, rfl, sameOffsets_of_prod_eq_one balanced.same _ _⟩
  | case3 last newDim newDims oldDim oldStride old short =>
      intro present balanced
      cases balanced.nil_of_short short
      exact .inl ⟨_, rfl, sameOffsets_of_prod_eq_one balanced.same _ _⟩
  | case4 last newDim newDims oldDim oldStride old room unmatched =>
      intro present balanced
      obtain ⟨rest, rfl, split⟩ := balanced.exists_cons (Nat.le_of_not_lt room)
      obtain ⟨nj, oj, found, -⟩ := balanced.closes split
      cases unmatched.symm.trans found
  | case5 last newDim newDims oldDim oldStride old room nj oj found group chained innermost ih =>
      intro present balanced
      obtain ⟨rest, rfl, split⟩ := balanced.exists_cons (Nat.le_of_not_lt room)
      obtain ⟨nj', oj', found', within, balancedRest⟩ := balanced.closes split
      cases found.symm.trans found'
      rcases ih (rest.drop oj) balancedRest with ⟨strides, walked, kept⟩ | ⟨walked, gaps⟩
      · refine .inl ⟨groupStrides innermost (newDim :: newDims.take nj) ++ strides, ?_, ?_⟩
        · rw [walked]
          rfl
        · have front : group = (oldDim, oldStride) :: rest.take oj := by
            rw [← List.take_append_of_le_length within, ← split]
          have newSplit : newDim :: newDims = (newDim :: newDims.take nj) ++ newDims.drop nj := by
            rw [List.cons_append, List.take_append_drop]
          have oldSplit : (oldDim, oldStride) :: rest = group ++ rest.drop oj := by
            rw [front, List.cons_append, List.take_append_drop]
          have rest_pos := prod_sizes_pos balancedRest.newPositive
          have products := balanced.same
          rw [newSplit, oldSplit, sizes, dimensionsOf, List.map_append, List.map_append,
            sizes, List.map_append, List.prod_append, List.prod_append] at products
          have groups : (sizes (newDim :: newDims.take nj)).prod =
              (sizes (dimensionsOf group)).prod :=
            Nat.eq_of_mul_eq_mul_right rest_pos (products.trans (congrArg _ balancedRest.same.symm))
          rw [newSplit, oldSplit]
          refine SameOffsets.group (List.cons_ne_nil _ _) ?_ ?_ chained groups balancedRest.same
            rest_pos kept
          · intro dim member
            exact balanced.newPositive dim (newSplit ▸ List.mem_append_left _ member)
          · intro entry member
            exact balanced.oldPositive entry (oldSplit ▸ List.mem_append_left _ member)
      · refine .inr ⟨?_, fun whole => gaps (whole.drop (oj + 1))⟩
        rw [walked]
        rfl
  | case6 last newDim newDims oldDim oldStride old room nj oj found group gaps =>
      intro present balanced
      obtain ⟨rest, rfl, split⟩ := balanced.exists_cons (Nat.le_of_not_lt room)
      obtain ⟨nj', oj', found', within, -⟩ := balanced.closes split
      cases found.symm.trans found'
      refine .inr ⟨rfl, fun chained => gaps ?_⟩
      have front : group = ((oldDim, oldStride) :: rest).take (oj + 1) := by
        rw [List.take_succ_cons, ← List.take_append_of_le_length within, ← split]
      rw [front]
      exact chained.take _

end Groups

end Gxf.Std.Tensor
