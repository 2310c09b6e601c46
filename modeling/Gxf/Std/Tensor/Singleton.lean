import Gxf.Std.Tensor.Permute

/-!
# Singleton dimensions and contiguous tensors

A dimension with one position is inserted between the others.  Its stride is the size of what lies
behind it, except behind the last dimension, where it keeps a default.  Whether a tensor is
contiguous depends on the strides of all dimensions, also of those with one position.
-/

namespace Gxf.Std.Tensor

open Gxf.Core Gxf.Lib Shape

/-- The dimensions with their strides, from the outermost one to the innermost one. -/
def entries (tensor : Tensor) : List (Int32 × UInt64) :=
  (List.range tensor.shape.rank).map fun i => (tensor.shape.dimension i, tensor.stride i)

/-- The copy loop of `insertSingletonDim`, where `dimension` counts down to the position of the new
dimension.  Behind the last dimension the new one keeps the defaults. -/
def insertSingleton : (dimension : Nat) → List (Int32 × UInt64) → List (Int32 × UInt64)
  | _, [] => [(1, 4)]
  | 0, (dim, stride) :: rest => (1, widen dim * stride) :: (dim, stride) :: rest
  | dimension + 1, entry :: rest => entry :: insertSingleton dimension rest

/-- `insertSingletonDim(dimension)`. -/
def insertSingletonDim (attributes : PointerAttributes) (tensor : Tensor) (dimension : UInt32) :
    Outcome :=
  if tensor.shape.rank < dimension.toNat then .returns tensor (.error .GXF_INVALID_DATA_FORMAT)
  else
    let inserted := insertSingleton dimension.toNat tensor.entries
    tensor.assign attributes (inserted.map Prod.fst) (inserted.map Prod.snd)

/-- The loop of `isContiguous`, from the innermost dimension outwards. -/
def contiguousFrom (x : UInt64) : List (Int32 × UInt64) → Bool
  | [] => true
  | (d, s) :: outer => if s ≠ x then false else contiguousFrom (x * widen d) outer

/-- `isContiguous()`. -/
def isContiguous (tensor : Tensor) : Bool :=
  contiguousFrom tensor.bytesPerElement tensor.entries.reverse

/-- The offset of an element, in bytes. -/
def offset (tensor : Tensor) (index : List Nat) : UInt64 := stridedSum index tensor.strides

/-- The strides leave no gaps, in the order of rows. -/
def RowMajor (tensor : Tensor) : Prop :=
  tensor.entries.map Prod.snd = (rowMajor tensor.shape.dims).map (· * tensor.bytesPerElement)

instance (tensor : Tensor) : Decidable tensor.RowMajor := inferInstanceAs (Decidable (_ = _))

/-- What is asked of an insertion: an error without any change at the maximal rank, or one
dimension more with all elements in their places and the same contiguity. -/
def Inserts (attributes : PointerAttributes) (tensor : Tensor) (dimension : UInt32) : Prop :=
  (tensor.shape.rank = kMaxRank ∧ ∃ code,
    tensor.insertSingletonDim attributes dimension = .returns tensor (.error code)) ∨
  ∃ next, tensor.insertSingletonDim attributes dimension = .returns next (.ok ()) ∧
    next.shape.rank = tensor.shape.rank + 1 ∧
    next.shape.dims = tensor.shape.dims.take dimension.toNat ++
      1 :: tensor.shape.dims.drop dimension.toNat ∧
    (∀ outer inner : List Nat, outer.length = dimension.toNat →
      (outer ++ inner).length = tensor.shape.rank →
        next.offset (outer ++ 0 :: inner) = tensor.offset (outer ++ inner)) ∧
    next.isContiguous = tensor.isContiguous

section Contiguous

open scoped UInt64.CommRing

theorem contiguousFrom_append (x : UInt64) (inner outer : List (Int32 × UInt64)) :
    contiguousFrom x (inner ++ outer) = (contiguousFrom x inner &&
        contiguousFrom (x * (inner.map fun entry => widen entry.1).prod) outer) := by
  induction inner generalizing x with
  | nil => rw [List.nil_append, List.map_nil, List.prod_nil, mul_one]; rfl
  | cons entry inner ih =>
      obtain ⟨d, s⟩ := entry
      rw [List.cons_append, contiguousFrom, contiguousFrom, ih, List.map_cons, List.prod_cons,
        ← mul_assoc]
      split <;> rfl

theorem contiguousFrom_inserted (x : UInt64) (dim : Int32) (stride : UInt64)
    (outer : List (Int32 × UInt64)) :
    contiguousFrom x ((dim, stride) :: (1, widen dim * stride) :: outer) =
      contiguousFrom x ((dim, stride) :: outer) := by
  have one : widen 1 = 1 := rfl
  rw [contiguousFrom, contiguousFrom, contiguousFrom, one, mul_one]
  by_cases same : stride = x
  · rw [same, mul_comm (widen dim)]
    simp
  · rw [if_pos same, if_pos same]

theorem insertSingleton_split (outer inner : List (Int32 × UInt64)) (dim : Int32)
    (stride : UInt64) :
    insertSingleton outer.length (outer ++ (dim, stride) :: inner) =
      outer ++ (1, widen dim * stride) :: (dim, stride) :: inner := by
  induction outer with
  | nil => rfl
  | cons entry outer ih => exact congrArg (entry :: ·) ih

theorem insertSingleton_last (entries : List (Int32 × UInt64)) :
    insertSingleton entries.length entries = entries ++ [(1, 4)] := by
  induction entries with
  | nil => rfl
  | cons entry entries ih => exact congrArg (entry :: ·) ih

theorem contiguous_insert_lt (x : UInt64) {dimension : Nat} {entries : List (Int32 × UInt64)}
    (inside : dimension < entries.length) :
    contiguousFrom x (insertSingleton dimension entries).reverse =
      contiguousFrom x entries.reverse := by
  obtain ⟨outer, ⟨dim, stride⟩, inner, rfl, rfl⟩ :
      ∃ outer entry inner, entries = outer ++ entry :: inner ∧ dimension = outer.length :=
    ⟨entries.take dimension, entries[dimension], entries.drop (dimension + 1), by
      rw [List.getElem_cons_drop, List.take_append_drop], by
      rw [List.length_take, Nat.min_eq_left (Nat.le_of_lt inside)]⟩
  have inserted : (insertSingleton outer.length (outer ++ (dim, stride) :: inner)).reverse =
      inner.reverse ++ (dim, stride) :: (1, widen dim * stride) :: outer.reverse := by
    rw [insertSingleton_split]
    simp
  have former : (outer ++ (dim, stride) :: inner).reverse =
      inner.reverse ++ (dim, stride) :: outer.reverse := by simp
  rw [inserted, former, contiguousFrom_append, contiguousFrom_append, contiguousFrom_inserted]

theorem contiguous_insert_last (x : UInt64) (entries : List (Int32 × UInt64)) :
    contiguousFrom x (insertSingleton entries.length entries).reverse =
      (decide (x = 4) && contiguousFrom x entries.reverse) := by
  have one : widen 1 = 1 := rfl
  rw [insertSingleton_last, List.reverse_append, List.reverse_singleton, List.singleton_append,
    contiguousFrom, one, mul_one]
  by_cases four : x = 4
  · simp [four]
  · simp [four, Ne.symm four]

theorem contiguousFrom_iff (x : UInt64) {entries : List (Int32 × UInt64)}
    (positive : ∀ entry ∈ entries, 0 < entry.1.toInt) :
    contiguousFrom x entries.reverse = true ↔ entries.map Prod.snd =
        (rowMajor (entries.map fun entry => entry.1.toInt.toNat)).map (· * x) := by
  induction entries with
  | nil => exact iff_of_true rfl rfl
  | cons entry entries ih =>
      obtain ⟨here, later⟩ := List.forall_mem_cons.mp positive
      have size : (entries.reverse.map fun entry => widen entry.1).prod =
          UInt64.ofNat (entries.map fun entry => entry.1.toInt.toNat).prod := by
        have casts : (entries.map fun entry => widen entry.1) =
            (entries.map fun entry => entry.1.toInt.toNat).map (Nat.cast : Nat → UInt64) := by
          rw [List.map_map]
          exact List.map_congr_left fun entry member => widen_eq_cast (later entry member)
        rw [List.map_reverse, List.prod_reverse, casts]
        exact (map_list_prod (Nat.castRingHom UInt64) _).symm
      rw [List.reverse_cons, contiguousFrom_append, Bool.and_eq_true, ih later, size,
        contiguousFrom, contiguousFrom, List.map_cons, List.map_cons, rowMajor, List.map_cons,
        List.cons.injEq, mul_comm x]
      constructor
      · rintro ⟨strides, last⟩
        refine ⟨?_, strides⟩
        by_contra differs
        rw [if_pos differs] at last
        cases last
      · rintro ⟨last, strides⟩
        exact ⟨strides, if_neg (not_not_intro last)⟩

end Contiguous

section Entries

variable {tensor : Tensor}

theorem length_entries (tensor : Tensor) : tensor.entries.length = tensor.shape.rank := by
  rw [entries, List.length_map, List.length_range]

theorem entries_dimensions (tensor : Tensor) :
    tensor.entries.map Prod.fst = tensor.shape.dimensions := by
  rw [entries, List.map_map]
  apply List.ext_getElem
  · rw [List.length_map, List.length_range]
    rfl
  · intro axis inRange inShape
    rw [List.getElem_map, List.getElem_range, Function.comp_apply]
    have some : tensor.shape.rank ≠ 0 := Nat.ne_zero_of_lt inShape
    rw [Shape.dimension, if_neg some, List.getD_eq_getElem _ _ inShape]

theorem entries_dims (tensor : Tensor) :
    tensor.entries.map (fun entry => entry.1.toInt.toNat) = tensor.shape.dims := by
  rw [Shape.dims, ← entries_dimensions, List.map_map]
  rfl

theorem offset_eq_entries {index : List Nat} (length : index.length = tensor.shape.rank) :
    tensor.offset index = stridedSum index (tensor.entries.map Prod.snd) := by
  rw [offset, stridedSum_eq_range, stridedSum_eq_range]
  congr 1
  apply List.map_congr_left
  intro axis inRange
  have inEntries : axis < (tensor.entries.map Prod.snd).length := by
    rw [List.length_map, length_entries, ← length]
    exact List.mem_range.mp inRange
  rw [List.getD_eq_getElem _ _ inEntries, List.getElem_map]
  simp only [entries, List.getElem_map, List.getElem_range]
  rfl

theorem entries_eq {stored : List (Int32 × UInt64)}
    (dimensions : tensor.shape.dimensions = stored.map Prod.fst)
    (strides : tensor.strides = stored.map Prod.snd) : tensor.entries = stored := by
  have rank : tensor.shape.rank = stored.length := by
    rw [Shape.rank, dimensions, List.length_map]
  apply List.ext_getElem
  · rw [length_entries, rank]
  · intro axis inEntries inStored
    have some : tensor.shape.rank ≠ 0 := rank ▸ Nat.ne_zero_of_lt inStored
    have inDimensions : axis < (stored.map Prod.fst).length := by rwa [List.length_map]
    have inStrides : axis < (stored.map Prod.snd).length := by rwa [List.length_map]
    simp only [entries, List.getElem_map, List.getElem_range]
    rw [Shape.dimension, if_neg some, stride, dimensions, strides,
      List.getD_eq_getElem _ _ inDimensions, List.getD_eq_getElem _ _ inStrides,
      List.getElem_map, List.getElem_map]

theorem isContiguous_iff (valid : tensor.shape.Valid) :
    tensor.isContiguous = true ↔ tensor.RowMajor := by
  rw [isContiguous, contiguousFrom_iff, entries_dims]
  · rfl
  · intro entry member
    refine valid entry.1 ?_
    rw [← entries_dimensions]
    exact List.mem_map_of_mem member

end Entries

/-! ## Insertion -/

theorem length_insertSingleton (dimension : Nat) (entries : List (Int32 × UInt64)) :
    (insertSingleton dimension entries).length = entries.length + 1 := by
  induction entries generalizing dimension with
  | nil => cases dimension <;> rfl
  | cons entry entries ih =>
      cases dimension with
      | zero => rfl
      | succ dimension => exact congrArg (· + 1) (ih dimension)

theorem insertSingleton_dims {dimension : Nat} {entries : List (Int32 × UInt64)}
    (within : dimension ≤ entries.length) :
    (insertSingleton dimension entries).map Prod.fst =
      (entries.map Prod.fst).take dimension ++ 1 :: (entries.map Prod.fst).drop dimension := by
  induction entries generalizing dimension with
  | nil =>
      cases Nat.le_zero.mp within
      rfl
  | cons entry entries ih =>
      cases dimension with
      | zero => rfl
      | succ dimension => exact congrArg (entry.1 :: ·) (ih (Nat.le_of_succ_le_succ within))

/-- The first position in the new dimension adds nothing. -/
theorem stridedSum_insertSingleton (outer inner : List Nat) (entries : List (Int32 × UInt64))
    (length : (outer ++ inner).length = entries.length) :
    stridedSum (outer ++ 0 :: inner) ((insertSingleton outer.length entries).map Prod.snd) =
      stridedSum (outer ++ inner) (entries.map Prod.snd) := by
  have zero (stride sum : UInt64) : UInt64.ofNat 0 * stride + sum = sum := by simp
  induction outer generalizing entries with
  | nil =>
      cases entries with
      | nil =>
          cases List.length_eq_zero_iff.mp length
          rfl
      | cons entry entries =>
          exact zero _ _
  | cons position outer ih =>
      cases entries with
      | nil => cases length
      | cons entry entries =>
          exact congrArg (UInt64.ofNat position * entry.2 + ·) (ih entries (Nat.succ.inj length))

section Insert

variable {attributes : PointerAttributes} {tensor : Tensor} {dimension : UInt32}

theorem insertSingletonDim_eq (within : dimension.toNat ≤ tensor.shape.rank) :
    tensor.insertSingletonDim attributes dimension = tensor.assign attributes
        ((insertSingleton dimension.toNat tensor.entries).map Prod.fst)
        ((insertSingleton dimension.toNat tensor.entries).map Prod.snd) :=
  if_neg (Nat.not_lt.mpr within)

theorem fits_iff :
    ((insertSingleton dimension.toNat tensor.entries).map Prod.snd).length ≤ kMaxRank ↔
      tensor.shape.rank < kMaxRank := by
  rw [List.length_map, length_insertSingleton, length_entries]
  exact Iff.rfl

theorem inserted_of_reshaped {next : Tensor} (within : dimension.toNat ≤ tensor.shape.rank)
    (room : tensor.shape.rank < kMaxRank)
    (reshaped : tensor.Reshaped next ((insertSingleton dimension.toNat tensor.entries).map Prod.fst)
      ((insertSingleton dimension.toNat tensor.entries).map Prod.snd)) :
    next.shape.rank = tensor.shape.rank + 1 ∧
      next.shape.dims = tensor.shape.dims.take dimension.toNat ++
        1 :: tensor.shape.dims.drop dimension.toNat ∧
      (∀ outer inner : List Nat, outer.length = dimension.toNat →
        (outer ++ inner).length = tensor.shape.rank →
          next.offset (outer ++ 0 :: inner) = tensor.offset (outer ++ inner)) ∧
      next.isContiguous = contiguousFrom tensor.bytesPerElement
        (insertSingleton dimension.toNat tensor.entries).reverse := by
  have dimensions := reshaped.dimensions (by
    rw [List.length_map, length_insertSingleton, length_entries]
    exact room)
  have stored := entries_eq dimensions reshaped.strides
  have rank : next.shape.rank = tensor.shape.rank + 1 := by
    rw [← length_entries, stored, length_insertSingleton, length_entries]
  refine ⟨rank, ?_, fun outer inner outerLength length => ?_, ?_⟩
  · have within : dimension.toNat ≤ tensor.entries.length := by rwa [length_entries]
    rw [Shape.dims, dimensions, insertSingleton_dims within, entries_dimensions, Shape.dims,
      List.map_append, List.map_cons, List.map_take, List.map_drop]
    rfl
  · have newLength : (outer ++ 0 :: inner).length = next.shape.rank := by
      rw [rank, ← length, List.length_append, List.length_cons, List.length_append, Nat.add_assoc]
    rw [offset_eq_entries newLength, offset_eq_entries length, stored, ← outerLength]
    exact stridedSum_insertSingleton outer inner tensor.entries
      (length.trans (length_entries tensor).symm)
  · rw [isContiguous, stored, reshaped.bytesPerElement]

theorem contiguous_inserted_iff (valid : tensor.shape.Valid)
    (within : dimension.toNat ≤ tensor.shape.rank) :
    contiguousFrom tensor.bytesPerElement
        (insertSingleton dimension.toNat tensor.entries).reverse = tensor.isContiguous ↔
      dimension.toNat < tensor.shape.rank ∨ tensor.bytesPerElement = 4 ∨ ¬tensor.RowMajor := by
  rcases Nat.lt_or_eq_of_le within with inside | last
  · have inEntries : dimension.toNat < tensor.entries.length := by rwa [length_entries]
    exact iff_of_true (contiguous_insert_lt _ inEntries) (.inl inside)
  · rw [last, ← length_entries, contiguous_insert_last, ← isContiguous_iff valid, isContiguous,
      length_entries]
    by_cases four : tensor.bytesPerElement = 4
    · simp [four]
    · cases contiguousFrom tensor.bytesPerElement tensor.entries.reverse <;> simp [four]

end Insert

/-- For every tensor with positive dimensions and every position: the insertion does what is asked
of it exactly if there is room for a dimension, a context can be made anew, and the stride behind
the last dimension of a contiguous tensor is the default. -/
theorem inserts_iff (attributes : PointerAttributes) (tensor : Tensor) (dimension : UInt32)
    (valid : tensor.shape.Valid) (within : dimension.toNat ≤ tensor.shape.rank) :
    tensor.Inserts attributes dimension ↔
      tensor.shape.rank < kMaxRank ∧ tensor.Regenerable attributes ∧
        (dimension.toNat < tensor.shape.rank ∨ tensor.bytesPerElement = 4 ∨ ¬tensor.RowMajor) := by
  have computes := @insertSingletonDim_eq attributes tensor dimension within
  constructor
  · rintro (⟨-, code, fails⟩ | ⟨next, succeeds, -, -, -, contiguous⟩)
    · rw [computes] at fails
      exact absurd fails assign_ne_error
    · have room : tensor.shape.rank < kMaxRank := by
        by_contra full
        rw [computes, assign, if_pos (Nat.lt_of_not_le (mt fits_iff.mp full))] at succeeds
        cases succeeds
      have regenerable : tensor.Regenerable attributes := by
        by_contra stuck
        rw [computes, assign_of_not_regenerable stuck (fits_iff.mpr room)] at succeeds
        cases succeeds
      refine ⟨room, regenerable, (contiguous_inserted_iff valid within).mp ?_⟩
      obtain ⟨stored, returns, reshaped⟩ := assign_of_regenerable regenerable (fits_iff.mpr room)
      cases (computes.trans returns).symm.trans succeeds
      exact (inserted_of_reshaped within room reshaped).2.2.2.symm.trans contiguous
  · rintro ⟨room, regenerable, kept⟩
    obtain ⟨next, returns, reshaped⟩ := assign_of_regenerable regenerable (fits_iff.mpr room)
    obtain ⟨rank, dims, offsets, contiguous⟩ := inserted_of_reshaped within room reshaped
    exact .inr ⟨next, computes.trans returns, rank, dims, offsets,
      contiguous.trans ((contiguous_inserted_iff valid within).mpr kept)⟩

/-- A dimension in front of a contiguous matrix of bytes. -/
theorem inserts_front : ({ shape := ⟨[2, 3], by decide⟩, elementCount := 6, strides := [3, 1] } :
      Tensor).Inserts (fun _ => none) 0 :=
  (inserts_iff _ _ 0 (by decide) (by decide)).mpr
    ⟨by decide, regenerable_of_none rfl, .inl (by decide)⟩

/-- Behind the last dimension of a contiguous vector of bytes the default breaks contiguity. -/
theorem inserted_behind_last :
    ¬∀ (attributes : PointerAttributes) (tensor : Tensor) (dimension : UInt32),
      tensor.shape.Valid → dimension.toNat ≤ tensor.shape.rank →
        tensor.Inserts attributes dimension := by
  intro claim
  have inserts := claim (fun _ => none)
    { shape := ⟨[2], by decide⟩, elementCount := 2, strides := [1] } 1 (by decide) (by decide)
  rcases inserts with ⟨-, code, fails⟩ | ⟨next, succeeds, -, -, -, contiguous⟩
  · cases fails
  · cases succeeds
    exact absurd contiguous (by decide)

end Gxf.Std.Tensor
