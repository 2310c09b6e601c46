import Gxf.Lib.RowMajor
import Gxf.Std.Tensor.Singleton

/-!
# Another shape without a copy

The old dimensions, without those of one position, and the new ones are walked side by side.  A
group ends where the products of both sides agree; the old dimensions of a group must lie without
gaps, and the new ones get the strides that divide them in the same order.  The products of all
dimensions are compared before, in 32 bits.
-/

namespace Gxf.Std.Tensor

open Gxf.Core Gxf.Lib Shape

/-- What ends the walk early. -/
inductive Fault where
  /-- A dimension behind the end of a list is read. -/
  | outOfRange
  /-- The old dimensions of a group do not lie without gaps. -/
  | incompatible
  deriving DecidableEq, Repr

/-- The product of the new dimensions, in 32 bits. -/
def numelNewShape (newShape : List Int32) : Int32 := newShape.foldl (· * ·) 1

/-- The old dimensions with more or less than one position, and their strides. -/
def squeezed (tensor : Tensor) : List (Int32 × UInt64) :=
  tensor.entries.filter fun entry => decide (entry.1 ≠ 1)

/-- The entries of `old_dims` and `old_strides` behind the squeezed ones. -/
def padding (tensor : Tensor) : Nat := tensor.shape.rank - tensor.squeezed.length

/-- The inner loop, behind the first dimensions of a group: `nd` and `od` are the products so far,
`nj` and `oj` count the dimensions that were taken from `newDims` and `oldDims`. -/
def findMatch (newDims oldDims : List Int32) (nj oj : Nat) (nd od : UInt64) : Option (Nat × Nat) :=
  if nd = od then some (nj, oj)
  else if nd < od then
    if within : nj < newDims.length then
      findMatch newDims oldDims (nj + 1) oj (nd * widen newDims[nj]) od
    else none
  else
    if within : oj < oldDims.length then
      findMatch newDims oldDims nj (oj + 1) nd (od * widen oldDims[oj])
    else none
termination_by (newDims.length - nj) + (oldDims.length - oj)

/-- The old dimensions of a group lie without gaps. -/
def Chained : List (Int32 × UInt64) → Prop
  | (_, stride) :: (dim, inner) :: rest =>
      stride = widen dim * inner ∧ Chained ((dim, inner) :: rest)
  | _ => True

instance decidableChained : (group : List (Int32 × UInt64)) → Decidable (Chained group)
  | (_, _) :: (dim, inner) :: rest =>
      have : Decidable (Chained ((dim, inner) :: rest)) := decidableChained ((dim, inner) :: rest)
      inferInstanceAs (Decidable (_ ∧ _))
  | [] => isTrue trivial
  | [_] => isTrue trivial

def groupStrides (last : UInt64) : List Int32 → Strides
  | _ :: dim :: dims =>
      let inner := groupStrides last (dim :: dims)
      inner.headD 0 * widen dim :: inner
  | [_] => [last]
  | [] => []

/-- The dimensions of some entries. -/
def dimensionsOf (old : List (Int32 × UInt64)) : List Int32 := old.map Prod.fst

/-- The outer loop, where `last` is the stride behind which trailing dimensions of one position are
put, and the old entries end with the padding. -/
def walk (padding : Nat) (last : UInt64) :
    (newDims : List Int32) → (old : List (Int32 × UInt64)) → Except Fault Strides
  | [], _ => .ok []
  | newDims, [] => .ok (newDims.map fun _ => last)
  | newDim :: newDims, (oldDim, oldStride) :: old =>
      if old.length < padding then .ok ((newDim :: newDims).map fun _ => last)
      else
        match findMatch newDims (dimensionsOf old) 0 0 (widen newDim)
          (widen oldDim) with
        | none => .error .outOfRange
        | some (nj, oj) =>
            let group := (oldDim, oldStride) :: old.take oj
            if Chained group then
              let innermost := (group.getLast (List.cons_ne_nil _ _)).2
              (walk padding innermost (newDims.drop nj) (old.drop oj)).map
                (groupStrides innermost (newDim :: newDims.take nj) ++ ·)
            else .error .incompatible
termination_by newDims => newDims.length
decreasing_by
  rw [List.length_drop, List.length_cons]
  omega

/-- `noCopyReshape(new_shape)`. -/
def noCopyReshape (attributes : PointerAttributes) (tensor : Tensor) (newShape : List Int32) :
    Outcome :=
  if tensor.elementCount.toUInt32.toInt32 ≠ numelNewShape newShape then
    .returns tensor (.error .GXF_INVALID_DATA_FORMAT)
  else
    match walk tensor.padding tensor.bytesPerElement newShape
      (tensor.squeezed ++ List.replicate tensor.padding (0, 1)) with
    | .error .outOfRange => .outOfRange
    | .error .incompatible => .returns tensor (.error .GXF_ARGUMENT_NULL)
    | .ok newStrides => tensor.assign attributes newShape newStrides

/-! ## Groups of dimensions -/

/-- The 64-bit product of a first dimension and some that follow it. -/
def leading (first : UInt64) (dims : List Int32) (count : Nat) : UInt64 :=
  (dims.take count).foldl (fun product dim => product * widen dim) first

/-- The numbers of dimensions behind the first ones that are reached when the side with the smaller
product takes its next dimension. -/
inductive Reaches (nd od : UInt64) (newDims oldDims : List Int32) : Nat → Nat → Prop where
  | start : Reaches nd od newDims oldDims 0 0
  | extendNew {nj oj : Nat} (reaches : Reaches nd od newDims oldDims nj oj)
      (smaller : leading nd newDims nj < leading od oldDims oj) :
      Reaches nd od newDims oldDims (nj + 1) oj
  | extendOld {nj oj : Nat} (reaches : Reaches nd od newDims oldDims nj oj)
      (larger : leading od oldDims oj < leading nd newDims nj) :
      Reaches nd od newDims oldDims nj (oj + 1)

/-- A group ends where both sides have the same product, before a list ends. -/
structure Closes (nd od : UInt64) (newDims oldDims : List Int32) (nj oj : Nat) : Prop where
  reaches : Reaches nd od newDims oldDims nj oj
  same : leading nd newDims nj = leading od oldDims oj
  newWithin : nj ≤ newDims.length
  oldWithin : oj ≤ oldDims.length

/-- The groups of new and old dimensions end before the lists do, until one side is used up. -/
inductive Regroups (padding : Nat) : List Int32 → List (Int32 × UInt64) → Prop where
  | nil (old : List (Int32 × UInt64)) : Regroups padding [] old
  | trailing (newDims : List Int32) {old : List (Int32 × UInt64)} (short : old.length ≤ padding) :
      Regroups padding newDims old
  | group {newDim oldDim : Int32} {oldStride : UInt64} {newDims : List Int32}
      {old : List (Int32 × UInt64)} {nj oj : Nat} (room : padding ≤ old.length)
      (closes : Closes (widen newDim) (widen oldDim) newDims (dimensionsOf old) nj oj)
      (rest : Regroups padding (newDims.drop nj) (old.drop oj)) :
      Regroups padding (newDim :: newDims) ((oldDim, oldStride) :: old)

/-- Some group ends before the lists do, and its old dimensions do not lie without gaps. -/
inductive Blocked (padding : Nat) : List Int32 → List (Int32 × UInt64) → Prop where
  | here {newDim oldDim : Int32} {oldStride : UInt64} {newDims : List Int32}
      {old : List (Int32 × UInt64)} {nj oj : Nat} (room : padding ≤ old.length)
      (closes : Closes (widen newDim) (widen oldDim) newDims (dimensionsOf old) nj oj)
      (gaps : ¬Chained ((oldDim, oldStride) :: old.take oj)) :
      Blocked padding (newDim :: newDims) ((oldDim, oldStride) :: old)
  | later {newDim oldDim : Int32} {oldStride : UInt64} {newDims : List Int32}
      {old : List (Int32 × UInt64)} {nj oj : Nat} (room : padding ≤ old.length)
      (closes : Closes (widen newDim) (widen oldDim) newDims (dimensionsOf old) nj oj)
      (rest : Blocked padding (newDims.drop nj) (old.drop oj)) :
      Blocked padding (newDim :: newDims) ((oldDim, oldStride) :: old)

section Match

variable {nd od : UInt64} {newDims oldDims : List Int32} {nj oj : Nat}

theorem leading_succ (first : UInt64) {dims : List Int32} {count : Nat}
    (within : count < dims.length) :
    leading first dims (count + 1) = leading first dims count * widen dims[count] := by
  rw [leading, leading, List.take_succ_eq_append_getElem within, List.foldl_append]
  rfl

theorem closes_of_findMatch {nj' oj' : Nat} (reaches : Reaches nd od newDims oldDims nj oj)
    (newWithin : nj ≤ newDims.length) (oldWithin : oj ≤ oldDims.length)
    (found : findMatch newDims oldDims nj oj (leading nd newDims nj) (leading od oldDims oj) =
      some (nj', oj')) : Closes nd od newDims oldDims nj' oj' := by
  generalize atNew : leading nd newDims nj = ndNow at found
  generalize atOld : leading od oldDims oj = odNow at found
  fun_induction findMatch newDims oldDims nj oj ndNow odNow with
  | case1 nj oj now =>
      cases found
      exact ⟨reaches, atNew.trans atOld.symm, newWithin, oldWithin⟩
  | case2 nj oj ndNow odNow differ smaller within ih =>
      refine ih (.extendNew reaches ?_) within oldWithin ?_ atOld found
      · rwa [atNew, atOld]
      · rw [leading_succ nd within, atNew]
  | case3 | case5 => cases found
  | case4 nj oj ndNow odNow differ notSmaller within ih =>
      refine ih (.extendOld reaches ?_) newWithin within atNew ?_ found
      · rw [atNew, atOld]
        exact UInt64.lt_of_le_of_ne (UInt64.not_lt.mp notSmaller) (Ne.symm differ)
      · rw [leading_succ od within, atOld]

theorem Reaches.findMatch_eq (reaches : Reaches nd od newDims oldDims nj oj)
    (newWithin : nj ≤ newDims.length) (oldWithin : oj ≤ oldDims.length) :
    findMatch newDims oldDims 0 0 nd od =
      findMatch newDims oldDims nj oj (leading nd newDims nj) (leading od oldDims oj) := by
  induction reaches with
  | start => rfl
  | @extendNew nj oj reaches smaller ih =>
      rw [ih (Nat.le_of_succ_le newWithin) oldWithin, findMatch, if_neg (UInt64.ne_of_lt smaller),
        if_pos smaller, dif_pos (Nat.lt_of_succ_le newWithin),
        leading_succ nd newWithin]
  | @extendOld nj oj reaches larger ih =>
      rw [ih newWithin (Nat.le_of_succ_le oldWithin), findMatch,
        if_neg (UInt64.ne_of_lt larger).symm, if_neg (UInt64.lt_asymm larger),
        dif_pos (Nat.lt_of_succ_le oldWithin),
        leading_succ od oldWithin]

/-- The inner loop ends exactly where a group does. -/
theorem findMatch_eq_some_iff :
    findMatch newDims oldDims 0 0 nd od = some (nj, oj) ↔ Closes nd od newDims oldDims nj oj := by
  constructor
  · exact closes_of_findMatch .start (Nat.zero_le _) (Nat.zero_le _)
  · intro closes
    rw [closes.reaches.findMatch_eq closes.newWithin closes.oldWithin, findMatch,
      if_pos closes.same]

/-- A group ends in one place only. -/
theorem Closes.unique {nj' oj' : Nat} (closes : Closes nd od newDims oldDims nj oj)
    (other : Closes nd od newDims oldDims nj' oj') : nj = nj' ∧ oj = oj' := by
  have same := (findMatch_eq_some_iff.mpr closes).symm.trans (findMatch_eq_some_iff.mpr other)
  cases same
  exact ⟨rfl, rfl⟩

end Match

section Walk

variable {padding : Nat} {last : UInt64} {newDims : List Int32} {old : List (Int32 × UInt64)}

theorem ok_ne_fault {strides : Strides} {fault : Fault} :
    (Except.ok strides : Except Fault Strides) ≠ .error fault := by
  intro same
  cases same

theorem exists_map_eq_ok_iff (outer : Strides → Strides) (inner : Except Fault Strides) :
    (∃ strides, inner.map outer = .ok strides) ↔ ∃ strides, inner = .ok strides := by
  cases inner with
  | error fault =>
      exact iff_of_false (fun ⟨_, same⟩ => by cases same) (fun ⟨_, same⟩ => by cases same)
  | ok strides => exact iff_of_true ⟨_, rfl⟩ ⟨_, rfl⟩

theorem not_blocked_of_short {newDim oldDim : Int32} {oldStride : UInt64}
    (short : old.length < padding) :
    ¬Blocked padding (newDim :: newDims) ((oldDim, oldStride) :: old) := by
  intro blocked
  cases blocked with
  | here room closes gaps => exact absurd room (Nat.not_le.mpr short)
  | later room closes rest => exact absurd room (Nat.not_le.mpr short)

theorem blocked_cons_iff {newDim oldDim : Int32} {oldStride : UInt64} {nj oj : Nat}
    (room : padding ≤ old.length)
    (closes : Closes (widen newDim) (widen oldDim) newDims (dimensionsOf old) nj oj) :
    Blocked padding (newDim :: newDims) ((oldDim, oldStride) :: old) ↔
      ¬Chained ((oldDim, oldStride) :: old.take oj) ∨
        Blocked padding (newDims.drop nj) (old.drop oj) := by
  constructor
  · intro blocked
    cases blocked with
    | here _ other gaps =>
        obtain ⟨rfl, rfl⟩ := other.unique closes
        exact .inl gaps
    | later _ other rest =>
        obtain ⟨rfl, rfl⟩ := other.unique closes
        exact .inr rest
  · rintro (gaps | rest)
    · exact .here room closes gaps
    · exact .later room closes rest

theorem walk_incompatible_iff :
    walk padding last newDims old = .error .incompatible ↔ Blocked padding newDims old := by
  fun_induction walk padding last newDims old with
  | case1 | case2 => exact iff_of_false ok_ne_fault fun blocked => by cases blocked
  | case3 last newDim newDims oldDim oldStride old short =>
      exact iff_of_false ok_ne_fault (not_blocked_of_short short)
  | case4 last newDim newDims oldDim oldStride old room unmatched =>
      refine iff_of_false (fun fails => by cases fails) fun blocked => ?_
      cases blocked with
      | here _ closes gaps => cases unmatched.symm.trans (findMatch_eq_some_iff.mpr closes)
      | later _ closes rest => cases unmatched.symm.trans (findMatch_eq_some_iff.mpr closes)
  | case5 last newDim newDims oldDim oldStride old room nj oj found group chained innermost ih =>
      rw [blocked_cons_iff (Nat.not_lt.mp room) (findMatch_eq_some_iff.mp found), ← ih]
      cases walk padding innermost (newDims.drop nj) (old.drop oj) with
      | ok strides => exact iff_of_false ok_ne_fault (by simpa using chained)
      | error fault =>
          refine ⟨fun fails => .inr fails, fun fails => fails.resolve_left (not_not_intro chained)⟩
  | case6 last newDim newDims oldDim oldStride old room nj oj found group gaps =>
      exact iff_of_true rfl (.here (Nat.not_lt.mp room) (findMatch_eq_some_iff.mp found) gaps)

theorem walk_ok_iff : (∃ strides, walk padding last newDims old = .ok strides) ↔
      Regroups padding newDims old ∧ ¬Blocked padding newDims old := by
  fun_induction walk padding last newDims old with
  | case1 last old => exact iff_of_true ⟨_, rfl⟩ ⟨.nil old, fun blocked => by cases blocked⟩
  | case2 last newDims some =>
      exact iff_of_true ⟨_, rfl⟩
        ⟨.trailing newDims (Nat.zero_le _), fun blocked => by cases blocked⟩
  | case3 last newDim newDims oldDim oldStride old short =>
      exact iff_of_true ⟨_, rfl⟩ ⟨.trailing _ short, not_blocked_of_short short⟩
  | case4 last newDim newDims oldDim oldStride old room unmatched =>
      refine iff_of_false (fun ⟨_, fails⟩ => by cases fails) fun ⟨regroups, _⟩ => ?_
      cases regroups with
      | trailing _ short => exact room short
      | group _ closes rest => cases unmatched.symm.trans (findMatch_eq_some_iff.mpr closes)
  | case5 last newDim newDims oldDim oldStride old room nj oj found group chained innermost ih =>
      have closes := findMatch_eq_some_iff.mp found
      have regroups : Regroups padding (newDim :: newDims) ((oldDim, oldStride) :: old) ↔
          Regroups padding (newDims.drop nj) (old.drop oj) := by
        refine ⟨fun regroups => ?_, fun rest => .group (Nat.not_lt.mp room) closes rest⟩
        cases regroups with
        | trailing _ short => exact absurd short room
        | group _ other rest =>
            obtain ⟨rfl, rfl⟩ := other.unique closes
            exact rest
      rw [regroups, blocked_cons_iff (Nat.not_lt.mp room) closes, not_or, not_not,
        and_iff_right chained, ← ih]
      exact exists_map_eq_ok_iff _ _
  | case6 last newDim newDims oldDim oldStride old room nj oj found group gaps =>
      refine iff_of_false (fun ⟨_, fails⟩ => by cases fails) fun ⟨_, free⟩ => ?_
      exact free (.here (Nat.not_lt.mp room) (findMatch_eq_some_iff.mp found) gaps)

end Walk

end Gxf.Std.Tensor
