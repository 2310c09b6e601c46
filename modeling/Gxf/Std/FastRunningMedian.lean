import Gxf.Lib.Double
import Gxf.Lib.OrderStatistic

/-!
# A running median over random samples

The minimum and the maximum of a stream are exact.  Percentiles are taken from a ring of recorded
samples.  The first samples are all recorded, until the ring is full; later ones are recorded at
random distances that grow with the stream.
-/

namespace Gxf.Std

open Gxf.Lib

/-- `std::numeric_limits<K>`. -/
class NumericLimits (K : Type) where
  lowest : K
  max : K

instance : NumericLimits Int64 := ⟨Int64.minValue, Int64.maxValue⟩

/-- `FastRunningMedianImpl<K, SampleContainer>`.  A slot of the container that was never written
holds nothing. -/
structure FastRunningMedian (K : Type) where
  observedMax : K
  observedMin : K
  counter : Nat := 0
  nextSampleIndex : Nat := 0
  index : Nat := 0
  sampleData : List (Option K)

namespace FastRunningMedian

scoped instance : LinearOrder Int64 where
  le_refl _ := Int64.le_refl _
  le_trans _ _ _ := Int64.le_trans
  le_antisymm _ _ := Int64.le_antisymm
  le_total _ _ := Int64.le_total _ _
  lt_iff_le_not_ge _ _ := by rw [Int64.not_le, iff_and_self]; exact Int64.le_of_lt
  toDecidableLE := inferInstance

/-- What an `int` holds after the conversion from `size_t`. -/
def narrow (value : Nat) : Int := Int.bmod value (2 ^ 32)

/-- `uniformRandom(min, max)`, where `draw` stands for the number that is drawn. -/
def uniformRandom (draw : Nat) (min max : Int) : Int :=
  if min = max then min else min + draw % (max - min + 1)

section Operations

variable {K : Type} [LinearOrder K]

/-- A new object with a container of samples. -/
def make [NumericLimits K] (sampleData : List (Option K)) : FastRunningMedian K where
  observedMax := NumericLimits.lowest
  observedMin := NumericLimits.max
  sampleData

/-- `add(value)`. -/
def add (median : FastRunningMedian K) (value : K) (draw : Nat) : FastRunningMedian K :=
  let observedMax := if median.observedMax < value then value else median.observedMax
  let observedMin := if value < median.observedMin then value else median.observedMin
  let counter := median.counter + 1
  if counter < median.nextSampleIndex then { median with observedMax, observedMin, counter }
  else
    let deterministicSpacing := counter / median.sampleData.length
    let sampleSpacing : Int :=
      deterministicSpacing + uniformRandom draw 0 (narrow deterministicSpacing)
    { observedMax := if counter = 1 then value else observedMax
      observedMin := if counter = 1 then value else observedMin
      counter
      nextSampleIndex := (counter + sampleSpacing).toNat
      sampleData := median.sampleData.set median.index (some value)
      index := (median.index + 1) % median.sampleData.length }

/-- `max()`. -/
protected def max (median : FastRunningMedian K) : K := median.observedMax

/-- `min()`. -/
protected def min (median : FastRunningMedian K) : K := median.observedMin

/-- The values of some slots, unless one of them was never written. -/
def readAll : List (Option K) → Option (List K)
  | [] => some []
  | none :: _ => none
  | some value :: slots => (readAll slots).map (value :: ·)

/-- `std::nth_element(first, it, last)`, and the element at `it`. -/
def nthElement (slots : List (Option K)) (position : Nat) : Option K :=
  (readAll slots).bind fun values => (values.mergeSort (· ≤ ·))[position]?

/-- The conversion of a `double` to an `int`, which is only specified in the range of an `int`. -/
def truncate (unspecified : Int → Int) (position : Int) : Int :=
  if -2 ^ 31 ≤ position ∧ position < 2 ^ 31 then position else unspecified position

/-- `percentile(percentile)`, for the value of a double.  Only the samples before `sample_size` are
looked at; a result is missing if one of them was never written. -/
def percentile [Zero K] (unspecified : Int → Int) (median : FastRunningMedian K)
    (percentile : ℚ) : Option K :=
  if median.counter = 0 then some 0
  else
    let sampleSize := narrow (min median.sampleData.length median.counter)
    let index := truncate unspecified ⌊toDouble (percentile * (sampleSize - 1 : Int))⌋
    nthElement (median.sampleData.take sampleSize.toNat) (min (max 0 index) (sampleSize - 1)).toNat

/-- A stream of samples, each with the number that is drawn for it. -/
def run (median : FastRunningMedian K) (samples : List (K × Nat)) : FastRunningMedian K :=
  samples.foldl (fun median sample => median.add sample.1 sample.2) median

def samplesOf (stream : List K) : Set K := {value | value ∈ stream}

/-- What is asked of a stream and a fraction: exact extrema, a percentile that occurred in it, and
an order statistic as long as every sample has a slot. -/
structure Summarizes [Zero K] (size : Nat) (stream : List K) (median : FastRunningMedian K)
    (p : ℚ) : Prop where
  max : IsGreatest (samplesOf stream) median.max
  min : IsLeast (samplesOf stream) median.min
  occurred : ∀ unspecified : Int → Int, ∃ value ∈ stream,
    median.percentile unspecified p = some value
  exact : stream.length ≤ size → ∀ (unspecified : Int → Int) (rank : Nat),
    ⌊p * (stream.length - 1)⌋ = rank → rank < stream.length →
      ∃ value, median.percentile unspecified p = some value ∧ IsOrderStatistic stream rank value

/-- Below the last position, the position of a fraction is more than half the distance of doubles
below the next integer. -/
def Clear (count : Nat) (p : ℚ) : Prop :=
  ∀ rank : Nat, rank + 1 < count → ⌊p * (count - 1)⌋ = rank →
    p * (count - 1) + spacing (p * (count - 1)) / 2 < rank + 1

/-- The ring after a stream of samples: the slots that are looked at are filled, and every sample
has the next slot until the ring is full. -/
structure Records (size : Nat) (stream : List K) (median : FastRunningMedian K) : Prop where
  counter : median.counter = stream.length
  length : median.sampleData.length = size
  index_lt : median.index < size
  filled : ∀ slot ∈ median.sampleData.take stream.length, ∃ value ∈ stream, slot = some value
  early : stream.length ≤ size → median.sampleData.take stream.length = stream.map some
  next : stream.length < size →
    median.index = stream.length ∧ median.nextSampleIndex ≤ stream.length

end Operations

/-! ## Recording -/

section Recording

variable {K : Type} {size : Nat} {stream : List K} {median : FastRunningMedian K}

theorem records_make [NumericLimits K] {container : List (Option K)}
    (slots : 0 < container.length) : Records container.length [] (make container) where
  counter := rfl
  length := rfl
  index_lt := slots
  filled := by simp
  early := fun _ => rfl
  next := fun _ => ⟨rfl, le_rfl⟩

theorem Records.full_of_lt (records : Records size stream median)
    (skipped : median.counter + 1 < median.nextSampleIndex) : size ≤ stream.length := by
  by_contra room
  obtain ⟨-, next⟩ := records.next (Nat.lt_of_not_le room)
  rw [records.counter] at skipped
  omega

theorem take_of_full {slots : List (Option K)} {size count : Nat} (length : slots.length = size)
    (full : size ≤ count) : slots.take count = slots :=
  List.take_of_length_le (length ▸ full)

theorem uniformRandom_self (draw : Nat) (value : Int) : uniformRandom draw value value = value :=
  if_pos rfl

theorem samplesOf_append (stream : List K) (value : K) :
    samplesOf (stream ++ [value]) = insert value (samplesOf stream) := by
  apply Set.ext
  intro other
  rw [Set.mem_insert_iff, or_comm]
  exact List.mem_append.trans (or_congr_right List.mem_singleton)

variable [LinearOrder K]

theorem Records.skip (records : Records size stream median) (value : K) (draw : Nat)
    (skipped : median.counter + 1 < median.nextSampleIndex) :
    Records size (stream ++ [value]) (median.add value draw) := by
  have full := records.full_of_lt skipped
  have longer : (stream ++ [value]).length = stream.length + 1 := List.length_append
  rw [add, if_pos skipped]
  refine ⟨?_, records.length, records.index_lt, ?_, ?_, ?_⟩
  · rw [longer]
    exact congrArg (· + 1) records.counter
  · intro slot member
    rw [longer, take_of_full records.length (Nat.le_succ_of_le full)] at member
    rw [← take_of_full records.length full] at member
    obtain ⟨other, among, same⟩ := records.filled slot member
    exact ⟨other, List.mem_append_left _ among, same⟩
  · intro within
    omega
  · intro room
    omega

theorem Records.store (records : Records size stream median) (value : K) (draw : Nat)
    (stored : ¬median.counter + 1 < median.nextSampleIndex) :
    Records size (stream ++ [value]) (median.add value draw) := by
  have longer : (stream ++ [value]).length = stream.length + 1 := List.length_append
  -- Below the size of the ring the next slot is the first one that was not written.
  have appended (room : stream.length < size) :
      (median.sampleData.set median.index (some value)).take (stream.length + 1) =
        (stream ++ [value]).map some := by
    obtain ⟨index, -⟩ := records.next room
    have within : stream.length < (median.sampleData.set stream.length (some value)).length := by
      rwa [List.length_set, records.length]
    rw [index, List.take_succ_eq_append_getElem within, List.getElem_set_self,
      List.take_set_of_le le_rfl, records.early room.le, List.map_append]
    rfl
  rw [add, if_neg stored]
  refine ⟨?_, ?_, ?_, ?_, ?_, ?_⟩
  · rw [longer]
    exact congrArg (· + 1) records.counter
  · exact (List.length_set ..).trans records.length
  · rw [records.length]
    exact Nat.mod_lt _ (Nat.zero_lt_of_lt records.index_lt)
  · intro slot member
    rw [longer] at member
    rcases Nat.lt_or_ge stream.length size with room | full
    · rw [appended room] at member
      obtain ⟨other, among, same⟩ := List.mem_map.mp member
      exact ⟨other, among, same.symm⟩
    · rcases List.mem_or_eq_of_mem_set (List.mem_of_mem_take member) with former | new
      · rw [← take_of_full records.length full] at former
        obtain ⟨other, among, same⟩ := records.filled slot former
        exact ⟨other, List.mem_append_left _ among, same⟩
      · exact ⟨value, List.mem_append_right _ (List.mem_singleton_self _), new⟩
  · intro within
    rw [longer] at within ⊢
    exact appended within
  · intro room
    rw [longer] at room ⊢
    obtain ⟨index, -⟩ := records.next (Nat.lt_of_succ_lt room)
    have spacing : (median.counter + 1) / median.sampleData.length = 0 := by
      rw [records.counter, records.length]
      exact Nat.div_eq_of_lt room
    have narrowed : narrow 0 = 0 := rfl
    dsimp only
    rw [spacing, narrowed, uniformRandom_self, index, records.length, records.counter,
      Nat.mod_eq_of_lt room]
    exact ⟨rfl, le_rfl⟩

/-- One sample. -/
theorem Records.add (records : Records size stream median) (value : K) (draw : Nat) :
    Records size (stream ++ [value]) (median.add value draw) := by
  by_cases skipped : median.counter + 1 < median.nextSampleIndex
  · exact records.skip value draw skipped
  · exact records.store value draw skipped

theorem add_max (value : K) (draw : Nat) (started : median.counter ≠ 0) :
    (median.add value draw).max = max median.max value := by
  have later : ¬median.counter + 1 = 1 := fun first => started (Nat.succ.inj first)
  by_cases skipped : median.counter + 1 < median.nextSampleIndex
  · rw [add, if_pos skipped]
    exact (max_def_lt _ _).symm
  · rw [add, if_neg skipped]
    dsimp only [FastRunningMedian.max]
    rw [if_neg later, max_def_lt]

theorem add_min (value : K) (draw : Nat) (started : median.counter ≠ 0) :
    (median.add value draw).min = min value median.min := by
  have later : ¬median.counter + 1 = 1 := fun first => started (Nat.succ.inj first)
  by_cases skipped : median.counter + 1 < median.nextSampleIndex
  · rw [add, if_pos skipped]
    exact (min_def_lt _ _).symm
  · rw [add, if_neg skipped]
    dsimp only [FastRunningMedian.min]
    rw [if_neg later, min_def_lt]

theorem extrema_add (records : Records size stream median) (extrema : stream ≠ [] →
      IsGreatest (samplesOf stream) median.max ∧ IsLeast (samplesOf stream) median.min)
    (value : K) (draw : Nat) :
    IsGreatest (samplesOf (stream ++ [value])) (median.add value draw).max ∧
      IsLeast (samplesOf (stream ++ [value])) (median.add value draw).min := by
  rw [samplesOf_append]
  by_cases first : stream = []
  · subst first
    have counter : median.counter = 0 := records.counter
    have next := (records.next (Nat.zero_lt_of_lt records.index_lt)).2
    have stored : ¬median.counter + 1 < median.nextSampleIndex := by
      have none : ([] : List K).length = 0 := rfl
      omega
    have single : insert value (samplesOf []) = ({value} : Set K) := by
      apply Set.ext
      simp [samplesOf]
    have top : (median.add value draw).max = value := by
      rw [add, if_neg stored]
      exact if_pos (congrArg (· + 1) counter)
    have bottom : (median.add value draw).min = value := by
      rw [add, if_neg stored]
      exact if_pos (congrArg (· + 1) counter)
    rw [single, top, bottom]
    exact ⟨isGreatest_singleton, isLeast_singleton⟩
  · have started : median.counter ≠ 0 := by
      rw [records.counter]
      exact mt List.length_eq_zero_iff.mp first
    obtain ⟨greatest, least⟩ := extrema first
    rw [add_max value draw started, add_min value draw started, max_comm]
    exact ⟨greatest.insert value, least.insert value⟩

theorem records_run (samples : List (K × Nat)) (records : Records size stream median)
    (extrema : stream ≠ [] →
      IsGreatest (samplesOf stream) median.max ∧ IsLeast (samplesOf stream) median.min) :
    Records size (stream ++ samples.map Prod.fst) (median.run samples) ∧
      (stream ++ samples.map Prod.fst ≠ [] →
        IsGreatest (samplesOf (stream ++ samples.map Prod.fst)) (median.run samples).max ∧
          IsLeast (samplesOf (stream ++ samples.map Prod.fst)) (median.run samples).min) := by
  induction samples generalizing stream median with
  | nil =>
      rw [List.map_nil, List.append_nil]
      exact ⟨records, extrema⟩
  | cons sample samples ih =>
      have next := ih (records.add sample.1 sample.2) fun _ =>
        extrema_add records extrema sample.1 sample.2
      rw [List.append_assoc] at next
      exact next

end Recording

section Percentile

variable {K : Type} {size : Nat} {stream : List K} {median : FastRunningMedian K}

theorem narrow_of_lt {value : Nat} (small : value < 2 ^ 31) : narrow value = value := by
  apply Int.bmod_eq_of_le
  · omega
  · omega

theorem readAll_map_some (values : List K) : readAll (values.map some) = some values := by
  induction values with
  | nil => rfl
  | cons value values ih =>
      rw [List.map_cons, readAll, ih]
      rfl

theorem exists_values {slots : List (Option K)}
    (filled : ∀ slot ∈ slots, ∃ value ∈ stream, slot = some value) :
    ∃ values : List K, slots = values.map some ∧ ∀ value ∈ values, value ∈ stream := by
  induction slots with
  | nil => exact ⟨[], rfl, by simp⟩
  | cons slot slots ih =>
      obtain ⟨⟨value, among, rfl⟩, later⟩ := List.forall_mem_cons.mp filled
      obtain ⟨values, rfl, inside⟩ := ih later
      exact ⟨value :: values, rfl, List.forall_mem_cons.mpr ⟨among, inside⟩⟩

variable [LinearOrder K]

theorem Records.percentile_eq [Zero K] (records : Records size stream median)
    (nonempty : stream ≠ []) (few : stream.length < 2 ^ 31) {values : List K}
    (recorded : median.sampleData.take stream.length = values.map some)
    (unspecified : Int → Int) (p : ℚ) :
    median.percentile unspecified p = (values.mergeSort (· ≤ ·))[
      (min (max 0 (truncate unspecified ⌊toDouble (p * (values.length - 1 : Int))⌋))
        (values.length - 1 : Int)).toNat]? := by
  have started : median.counter ≠ 0 := by
    rw [records.counter]
    exact mt List.length_eq_zero_iff.mp nonempty
  have length : min median.sampleData.length median.counter = values.length := by
    have lengths := congrArg List.length recorded
    rwa [List.length_take, List.length_map, min_comm, ← records.counter] at lengths
  have small : values.length < 2 ^ 31 := by
    rw [← length, records.counter]
    exact (min_le_right _ _).trans_lt few
  have front : median.sampleData.take values.length = values.map some := by
    rw [← recorded, ← records.counter, ← length, min_comm, ← List.take_eq_take_min]
  rw [percentile, if_neg started, length, narrow_of_lt small]
  dsimp only
  rw [Int.toNat_natCast, front, nthElement, readAll_map_some]
  rfl

/-- A percentile lies among the samples that were recorded. -/
theorem position_lt {count : Nat} (some : 0 < count) (index : Int) :
    (min (max 0 index) (count - 1 : Int)).toNat < count := by
  omega

/-- The position of a fraction is the rounded product, and that is the exact one if it is clear of
the next integer. -/
theorem position_of_rank {count rank : Nat} (small : count < 2 ^ 31) (below : rank < count) {p : ℚ}
    (floor : ⌊p * (count - 1)⌋ = rank) (unspecified : Int → Int) :
    (rank : Int) ≤ ⌊toDouble (p * (count - 1))⌋ ∧
      truncate unspecified ⌊toDouble (p * (count - 1))⌋ = ⌊toDouble (p * (count - 1))⌋ ∧
      ((rank : Int) + 1 ≤ ⌊toDouble (p * (count - 1))⌋ ↔
        (rank : ℚ) + 1 ≤ p * (count - 1) + spacing (p * (count - 1)) / 2) := by
  obtain ⟨least, most⟩ := Int.floor_eq_iff.mp floor
  have bits : (count : ℚ) < 2 ^ 31 := by exact_mod_cast small
  have within : (rank : ℚ) + 1 ≤ count := by exact_mod_cast below
  have nonneg : (0 : ℚ) ≤ rank := Nat.cast_nonneg rank
  push_cast at least most
  have fine : |p * (count - 1)| < 2 ^ 52 := abs_lt.mpr ⟨by linarith, by linarith⟩
  have reached : (rank : ℚ) ≤ toDouble (p * (count - 1)) := by
    have same := @toDouble_intCast rank (by rw [abs_of_nonneg (by omega)]; omega)
    exact same.symm.trans_le (toDouble_mono least)
  have bounded : toDouble (p * (count - 1)) ≤ count := by
    have same := @toDouble_intCast count (by rw [abs_of_nonneg (by omega)]; omega)
    exact (toDouble_mono (by push_cast; linarith)).trans_eq same
  have lower : (rank : Int) ≤ ⌊toDouble (p * (count - 1))⌋ := Int.le_floor.mpr reached
  have upper : ⌊toDouble (p * (count - 1))⌋ ≤ count := by
    exact_mod_cast (Int.floor_le _).trans bounded
  refine ⟨lower, if_pos (by omega), ?_⟩
  have next := @intCast_le_toDouble_iff _ (rank + 1) fine
  rw [Int.le_floor]
  push_cast at next ⊢
  exact next

/-- For every container, every stream of less than `2 ^ 31` samples and all numbers that are drawn:
the extrema are exact, a percentile occurred in the stream and is an order statistic as long as
every sample has a slot and the position of the fraction is clear, and no slot that was never
written is looked at. -/
theorem summarizes_of_clear [Zero K] [NumericLimits K] (container : List (Option K))
    (samples : List (K × Nat)) (slots : 0 < container.length) (nonempty : samples ≠ [])
    (few : samples.length < 2 ^ 31) {p : ℚ}
    (clear : samples.length ≤ container.length → Clear samples.length p) :
    Summarizes container.length (samples.map Prod.fst) ((make container).run samples) p := by
  obtain ⟨records, extrema⟩ := records_run samples (records_make slots) (absurd rfl)
  rw [List.nil_append] at records extrema
  have heard : samples.map Prod.fst ≠ [] := mt List.map_eq_nil_iff.mp nonempty
  have fewer : (samples.map Prod.fst).length < 2 ^ 31 := by rwa [List.length_map]
  obtain ⟨values, recorded, inside⟩ := exists_values records.filled
  have computes := records.percentile_eq heard fewer recorded
  have positive : 0 < values.length := by
    have lengths := congrArg List.length recorded
    rw [List.length_take, List.length_map (f := some), records.length] at lengths
    rw [← lengths]
    exact lt_min (List.length_pos_iff.mpr heard) slots
  obtain ⟨greatest, least⟩ := extrema heard
  refine ⟨greatest, least, fun unspecified => ?_, fun within unspecified rank floor below => ?_⟩
  · obtain ⟨value, found, statistic⟩ := exists_isOrderStatistic_mergeSort
      (position_lt positive (truncate unspecified ⌊toDouble (p * (values.length - 1 : Int))⌋))
    exact ⟨value, inside value statistic.mem, (computes unspecified p).trans found⟩
  · have all : values = samples.map Prod.fst := List.map_injective_iff.mpr (Option.some_injective K)
        (recorded.symm.trans (records.early within))
    subst all
    obtain ⟨value, found, statistic⟩ := exists_isOrderStatistic_mergeSort below
    refine ⟨value, (computes unspecified p).trans (Eq.trans ?_ found), statistic⟩
    rw [List.length_map] at within below fewer floor ⊢
    obtain ⟨lower, kept, passes⟩ := position_of_rank fewer below floor unspecified
    push_cast
    rw [kept]
    congr 1
    rcases Nat.lt_or_ge (rank + 1) samples.length with inner | last
    · have stays := mt passes.mp (clear within rank inner floor).not_ge
      omega
    · omega

/-- Among samples in strict order a rank tells the position. -/
theorem Summarizes.clear [Zero K] [NumericLimits K] {container : List (Option K)}
    {samples : List (K × Nat)} (ascending : (samples.map Prod.fst).Pairwise (· < ·))
    (few : samples.length < 2 ^ 31) (within : samples.length ≤ container.length) {p : ℚ}
    (summarizes :
      Summarizes container.length (samples.map Prod.fst) ((make container).run samples) p) :
    Clear samples.length p := by
  intro rank inner floor
  by_contra notClear
  have below : rank < samples.length := Nat.lt_of_succ_lt inner
  have slots : 0 < container.length := (Nat.zero_lt_of_lt below).trans_le within
  obtain ⟨records, -⟩ := records_run samples (records_make slots) (absurd rfl)
  rw [List.nil_append] at records
  have length : (samples.map Prod.fst).length = samples.length := List.length_map _
  obtain ⟨value, found, statistic⟩ := summarizes.exact (by rwa [length]) id rank (by rwa [length])
    (by rwa [length])
  have nonempty : samples.map Prod.fst ≠ [] := List.ne_nil_of_length_pos (by omega)
  rw [records.percentile_eq nonempty (by rwa [length]) (records.early (by rwa [length])),
    List.mergeSort_of_pairwise (ascending.imp fun less => decide_eq_true (le_of_lt less)),
    length] at found
  have early := statistic.position_le ascending found
  obtain ⟨-, kept, passes⟩ := position_of_rank few below floor id
  have passed := passes.mpr (not_lt.mp notClear)
  push_cast at early
  rw [kept] at early
  omega

/-- For every container and every number of samples below `2 ^ 31`: all streams are summarized if
and only if the position of the fraction is clear of the next integer, or not every sample has a
slot. -/
theorem summarizes_iff_clear (container : List (Option Int64)) (slots : 0 < container.length)
    {count : Nat} (some : 0 < count) (few : count < 2 ^ 31) (p : ℚ) :
    (∀ samples : List (Int64 × Nat), samples.length = count →
        Summarizes container.length (samples.map Prod.fst) ((make container).run samples) p) ↔
      (count ≤ container.length → Clear count p) := by
  constructor
  · intro summarizes within
    let samples : List (Int64 × Nat) := (List.range count).map fun index => (Int64.ofNat index, 0)
    have length : samples.length = count := by rw [List.length_map, List.length_range]
    have ascending : (samples.map Prod.fst).Pairwise (· < ·) := by
      rw [List.map_map, List.pairwise_map]
      refine List.pairwise_lt_range.imp_of_mem fun {lower higher} _ inside less => ?_
      have bound := List.mem_range.mp inside
      exact (Int64.ofNat_lt_iff_lt (by omega) (by omega)).mpr less
    have clear := (summarizes samples length).clear ascending (by rwa [length]) (by rwa [length])
    rwa [length] at clear
  · rintro clear samples rfl
    exact summarizes_of_clear container samples slots (List.ne_nil_of_length_pos some) few clear

/-- The median of three samples for two slots, and of three samples for three. -/
theorem summarizes_iff_clear_three :
    let samples : List (Int64 × Nat) := [(5, 0), (-3, 1), (8, 7)]
    Summarizes 2 [5, -3, 8] ((make [none, none]).run samples) (1 / 2) ∧
      Summarizes 3 [5, -3, 8] ((make [none, none, none]).run samples) (1 / 2) := by
  intro samples
  have middle : Clear 3 (1 / 2) := by
    intro rank inner floor
    have isOne : (1 : Int) = rank :=
      (by decide +kernel : (1 : Int) = ⌊(1 / 2 : ℚ) * ((3 : ℕ) - 1)⌋).trans floor
    obtain rfl : rank = 1 := by omega
    decide +kernel
  have few : 3 < 2 ^ 31 := by decide
  exact ⟨(summarizes_iff_clear [none, none] (by decide) (by decide) few _).mpr
      (fun within => absurd within (by decide)) samples rfl,
    (summarizes_iff_clear [none, none, none] (by decide) (by decide) few _).mpr
      (fun _ => middle) samples rfl⟩

/-- The double of 0.7 is less than that, and so is ten times the double; rounded, it is seven. -/
theorem rounded_product_of_eleven :
    let samples : List (Int64 × Nat) := (List.range 11).map fun index =>
        (Int64.ofNat (10 * index), 0)
    ¬Summarizes 11 (samples.map Prod.fst) ((make (List.replicate 11 none)).run samples)
      (toDouble (7 / 10)) := by
  intro samples summarizes
  have clear := @Summarizes.clear Int64 _ _ _ (List.replicate 11 none) samples (by decide)
    (by decide) (by decide) _ summarizes 6 (by decide) (by decide +kernel)
  exact absurd clear (by decide +kernel)

theorem truncate_of_fraction {count : Nat} (small : count < 2 ^ 31) (some : 0 < count) {p : ℚ}
    (least : 0 ≤ p) (most : p ≤ 1) (unspecified : Int → Int) :
    truncate unspecified ⌊toDouble (p * (count - 1 : Int))⌋ =
      ⌊toDouble (p * (count - 1 : Int))⌋ := by
  have length : (0 : ℚ) ≤ (count - 1 : Int) := Int.cast_nonneg (by omega)
  have above : 0 ≤ ⌊toDouble (p * (count - 1 : Int))⌋ :=
    Int.floor_nonneg.mpr (toDouble_nonneg (mul_nonneg least length))
  have whole : toDouble ((count - 1 : Int) : ℚ) = (count - 1 : Int) :=
    toDouble_intCast (by rw [abs_of_nonneg (by omega)]; omega)
  have below : ⌊toDouble (p * (count - 1 : Int))⌋ ≤ (count - 1 : Int) := by
    have product := (toDouble_mono (mul_le_of_le_one_left length most)).trans_eq whole
    exact (Int.floor_mono product).trans_eq (Int.floor_intCast _)
  exact if_pos (by omega)

/-- Percentiles are in the order of their fractions, and between the extrema. -/
theorem percentile_le_percentile [Zero K] [NumericLimits K] (container : List (Option K))
    (samples : List (K × Nat)) (slots : 0 < container.length) (nonempty : samples ≠ [])
    (few : samples.length < 2 ^ 31) {p q : ℚ} (least : 0 ≤ p) (le : p ≤ q) (most : q ≤ 1) :
    let median := (make container).run samples
    ∃ lower upper, (∀ unspecified, median.percentile unspecified p = some lower ∧
        median.percentile unspecified q = some upper) ∧
      median.min ≤ lower ∧ lower ≤ upper ∧ upper ≤ median.max := by
  intro median
  obtain ⟨records, extrema⟩ := records_run samples (records_make slots) (absurd rfl)
  rw [List.nil_append] at records extrema
  have heard : samples.map Prod.fst ≠ [] := mt List.map_eq_nil_iff.mp nonempty
  have fewer : (samples.map Prod.fst).length < 2 ^ 31 := by rwa [List.length_map]
  obtain ⟨greatest, smallest⟩ := extrema heard
  obtain ⟨values, recorded, inside⟩ := exists_values records.filled
  have computes := records.percentile_eq heard fewer recorded
  have lengths := congrArg List.length recorded
  rw [List.length_take, List.length_map (f := some), records.length] at lengths
  have some : 0 < values.length := lengths ▸ lt_min (List.length_pos_iff.mpr heard) slots
  have small : values.length < 2 ^ 31 := lengths ▸ (min_le_left _ _).trans_lt fewer
  have sorted : (values.mergeSort (· ≤ ·)).Pairwise (· ≤ ·) := List.pairwise_mergeSort' _ _
  have perm := List.mergeSort_perm values (· ≤ ·)
  have position : ∀ index : Int, (min (max 0 index) (values.length - 1 : Int)).toNat <
      (values.mergeSort (· ≤ ·)).length := fun index => perm.length_eq ▸ position_lt some index
  have steps : ⌊toDouble (p * (values.length - 1 : Int))⌋ ≤
      ⌊toDouble (q * (values.length - 1 : Int))⌋ :=
    Int.floor_mono (toDouble_mono (mul_le_mul_of_nonneg_right le (Int.cast_nonneg (by omega))))
  have found : ∀ fraction : ℚ, 0 ≤ fraction → fraction ≤ 1 → ∀ unspecified,
      median.percentile unspecified fraction = (values.mergeSort (· ≤ ·)).get
        ⟨_, position ⌊toDouble (fraction * (values.length - 1 : Int))⌋⟩ := by
    intro fraction above below unspecified
    rw [computes, truncate_of_fraction small some above below]
    exact List.getElem?_eq_getElem _
  have among := fun index => inside _ (perm.mem_iff.mp (List.get_mem (values.mergeSort _) index))
  exact ⟨_, _, fun unspecified => ⟨found p least (le.trans most) unspecified,
    found q (least.trans le) most unspecified⟩, smallest.2 (among _),
    sorted.sortedLE.monotone_get (Fin.mk_le_mk.mpr (by omega)), greatest.2 (among _)⟩

/-- The quartiles of three samples. -/
theorem percentile_le_percentile_three :
    let median := (make [none, none]).run [((5 : Int64), 0), (-3, 1), (8, 7)]
    ∃ lower upper, (∀ unspecified, median.percentile unspecified (1 / 4) = some lower ∧
        median.percentile unspecified (3 / 4) = some upper) ∧
      median.min ≤ lower ∧ lower ≤ upper ∧ upper ≤ median.max :=
  percentile_le_percentile [none, none] [(5, 0), (-3, 1), (8, 7)] (by decide) (by decide)
    (by decide) (by decide +kernel) (by decide +kernel) (by decide +kernel)

end Percentile

end FastRunningMedian

end Gxf.Std
