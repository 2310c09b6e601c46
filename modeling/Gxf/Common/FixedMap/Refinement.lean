import Gxf.Common.FixedMap.Map

/-!
# The fixed map against finite maps

The buckets between the hash of a stored key and its bucket are occupied, so that
searches find exactly the stored keys.  Storing keeps this; erasing does only if the
bucket is on the way to no other key.
-/

namespace Gxf.Common.FixedMap

open Gxf.Lib

variable {Key T ι : Type*} [DecidableEq Key] {hashKey : Key → Nat}

def StoredAt (map : FixedMap Key T) (index : Nat) (key : Key) (value : T) : Prop :=
  map.data[index]? = some (some (key, value))

/-- A key is in a bucket. -/
def Holds (map : FixedMap Key T) (index : Nat) (key : Key) : Prop :=
  ∃ entry ∈ map.data.getD index none, entry.1 = key

instance (map : FixedMap Key T) (index : Nat) (key : Key) : Decidable (map.Holds index key) :=
  inferInstanceAs (Decidable (∃ _ ∈ _, _))

/-- The bucket at `index` lies between the hash of the key at `other` and its bucket. -/
def Crosses (hashKey : Key → Nat) (map : FixedMap Key T) (index other : Nat) : Prop :=
  ∃ entry ∈ map.data.getD other none, probeDistance map.capacity (map.hash hashKey entry.1) index <
      probeDistance map.capacity (map.hash hashKey entry.1) other

omit [DecidableEq Key] in
instance (map : FixedMap Key T) (index other : Nat) : Decidable (Crosses hashKey map index other) :=
  inferInstanceAs (Decidable (∃ _ ∈ _, _))

/-- The buckets hold the pairs of the finite map, each key in one bucket that a search
from its hash reaches over occupied ones. -/
structure Represents (hashKey : Key → Nat) (map : FixedMap Key T) (bounded : Bounded Key T) :
    Prop where
  capacity_eq : map.capacity = bounded.capacity
  data_length : map.data.length = map.capacity
  size_eq : map.size = map.entries.length
  nodup : (map.entries.map Prod.fst).Nodup
  lookup_iff : ∀ key value, bounded.pairs.lookup key = some value ↔ (key, value) ∈ map.entries
  reachable : ∀ index key value, map.StoredAt index key value →
    ∀ before < probeDistance map.capacity (map.hash hashKey key) index,
      ∃ entry, map.data[probeAt map.capacity (map.hash hashKey key) before]? = some (some entry)

section Entries

variable {map : FixedMap Key T} {index : Nat} {key : Key} {value : T}

omit [DecidableEq Key] in
theorem StoredAt.inside (stored : map.StoredAt index key value) : index < map.data.length :=
  (List.getElem?_eq_some_iff.mp stored).choose

omit [DecidableEq Key] in
theorem storedAt_iff : map.StoredAt index key value ↔ (key, value) ∈ map.data.getD index none := by
  rw [StoredAt, List.getD_eq_getElem?_getD, Option.mem_def]
  cases map.data[index]? with
  | none | some => simp

omit [DecidableEq Key] in
theorem holds_iff : map.Holds index key ↔ ∃ value, map.StoredAt index key value := by
  constructor
  · rintro ⟨⟨_, value⟩, isEntry, rfl⟩
    exact ⟨value, storedAt_iff.mpr isEntry⟩
  · rintro ⟨value, stored⟩
    exact ⟨(key, value), storedAt_iff.mp stored, rfl⟩

omit [DecidableEq Key] in
theorem mem_entries_iff : (key, value) ∈ map.entries ↔ ∃ index, map.StoredAt index key value := by
  rw [entries, List.reduceOption_mem_iff, List.mem_iff_getElem?]
  rfl

variable {data : List (Option (Key × T))}

omit [DecidableEq Key] in
theorem entries_split (inside : index < data.length) (slot : Option (Key × T)) :
    (data.set index slot).reduceOption =
      (data.take index).reduceOption ++ (slot.toList ++ (data.drop (index + 1)).reduceOption) := by
  rw [List.set_eq_take_append_cons_drop, if_pos inside, List.reduceOption_append,
    ← List.singleton_append, List.reduceOption_append, List.reduceOption_singleton]

omit [DecidableEq Key] in
theorem entries_eq (inside : index < map.data.length) :
    map.entries = (map.data.take index).reduceOption ++
      ((map.data[index]).toList ++ (map.data.drop (index + 1)).reduceOption) := by
  have split := entries_split inside map.data[index]
  rwa [List.set_getElem_self] at split

omit [DecidableEq Key] in
/-- Distinct keys are in distinct buckets. -/
theorem StoredAt.unique (nodup : (map.entries.map Prod.fst).Nodup) {other : Nat} {held : T}
    (stored : map.StoredAt index key value) (otherStored : map.StoredAt other key held) :
    index = other := by
  -- the later one of two buckets would repeat a key among the pairs before it
  have ordered : ∀ {first second : Nat} {firstValue secondValue : T}, first < second →
      map.StoredAt first key firstValue → ¬map.StoredAt second key secondValue := by
    intro first second firstValue secondValue before firstStored secondStored
    have inside := secondStored.inside
    have slotEq : map.data[second] = some (key, secondValue) :=
      (List.getElem?_eq_some_iff.mp secondStored).choose_spec
    rw [entries_eq inside, slotEq, List.map_append, List.nodup_append] at nodup
    refine nodup.2.2 key ?_ key (by simp) rfl
    refine List.mem_map.mpr ⟨(key, firstValue), ?_, rfl⟩
    rw [List.reduceOption_mem_iff, List.mem_iff_getElem?]
    exact ⟨first, by rw [List.getElem?_take_of_lt before]; exact firstStored⟩
  by_contra different
  cases Nat.lt_or_gt_of_ne different with
  | inl before => exact ordered before stored otherStored
  | inr after => exact ordered after otherStored stored

omit [DecidableEq Key] in
theorem StoredAt.entries_eq (stored : map.StoredAt index key value) :
    map.entries = (map.data.take index).reduceOption ++
      (key, value) :: (map.data.drop (index + 1)).reduceOption := by
  obtain ⟨inside, slotEq⟩ := List.getElem?_eq_some_iff.mp stored
  rw [FixedMap.entries_eq inside, slotEq, Option.toList_some, List.singleton_append]

omit [DecidableEq Key] in
theorem StoredAt.only (nodup : (map.entries.map Prod.fst).Nodup)
    (stored : map.StoredAt index key value) (held : T) :
    (key, held) ∉ (map.data.take index).reduceOption ∧
      (key, held) ∉ (map.data.drop (index + 1)).reduceOption := by
  rw [stored.entries_eq, List.map_append, List.map_cons, List.nodup_middle, List.nodup_cons,
    List.mem_append, not_or] at nodup
  exact ⟨fun member => nodup.1.1 (List.mem_map.mpr ⟨_, member, rfl⟩),
    fun member => nodup.1.2 (List.mem_map.mpr ⟨_, member, rfl⟩)⟩

omit [DecidableEq Key] in
theorem occupied_set (inside : index < data.length)
    (pair : Key × T) {bucket : Nat} (occupied : ∃ entry, data[bucket]? = some (some entry)) :
    ∃ entry, (data.set index (some pair))[bucket]? = some (some entry) := by
  obtain ⟨entry, occupied⟩ := occupied
  by_cases same : index = bucket
  · exact ⟨pair, by rw [← same, List.getElem?_set_self inside]⟩
  · exact ⟨entry, by rw [List.getElem?_set_ne same, occupied]⟩

end Entries

namespace Represents

variable {map : FixedMap Key T} {bounded : Bounded Key T}

theorem card_eq (represents : Represents hashKey map bounded) :
    bounded.pairs.keys.card = map.size := by
  have sameKeys : bounded.pairs.keys = (map.entries.map Prod.fst).toFinset := by
    ext key
    rw [Finmap.mem_keys, Finmap.mem_iff, List.mem_toFinset, List.mem_map]
    constructor
    · rintro ⟨value, found⟩
      exact ⟨(key, value), (represents.lookup_iff key value).mp found, rfl⟩
    · rintro ⟨pair, stored, rfl⟩
      exact ⟨pair.2, (represents.lookup_iff pair.1 pair.2).mpr stored⟩
  rw [sameKeys, List.toFinset_card_of_nodup represents.nodup, List.length_map, represents.size_eq]

omit [DecidableEq Key] in
theorem hash_lt (positive : map.capacity ≠ 0) (key : Key) : map.hash hashKey key < map.capacity :=
  Nat.mod_lt _ (Nat.pos_of_ne_zero positive)

theorem find_stored (represents : Represents hashKey map bounded) {index : Nat} {key : Key}
    {value : T} (stored : map.StoredAt index key value) :
    map.findMatchingBucket hashKey key = some index := by
  have inside := stored.inside
  rw [represents.data_length] at inside
  have positive : map.capacity ≠ 0 := by omega
  have homeInside : map.hash hashKey key < map.capacity := hash_lt positive key
  rw [findMatchingBucket, if_neg positive]
  refine probe_of_first (map.visitMatching key) homeInside
    (probeDistance_lt index homeInside) (fun before earlier => ?_) ?_
  · obtain ⟨⟨otherKey, held⟩, occupied⟩ :=
      represents.reachable index key value stored before earlier
    have beforeInside := Nat.lt_trans earlier (probeDistance_lt index homeInside)
    have otherKey : otherKey ≠ key := by
      rintro rfl
      have same := stored.unique represents.nodup occupied
      rw [same, probeDistance_at before homeInside beforeInside] at earlier
      exact Nat.lt_irrefl _ earlier
    simp [visitMatching, List.getD_eq_getElem?_getD, occupied, otherKey]
  · rw [probeAt_distance homeInside inside]
    have slotEq : map.data[index]? = some (some (key, value)) := stored
    simp [visitMatching, List.getD_eq_getElem?_getD, slotEq]

end Represents

variable {map : FixedMap Key T}

omit [DecidableEq Key] in
theorem findEmptyBucket_cases (hashKey : Key → Nat)
    (dataLength : map.data.length = map.capacity) (key : Key) :
    (∃ distance < map.capacity, (∀ before < distance, ∃ entry,
        map.data[probeAt map.capacity (map.hash hashKey key) before]? = some (some entry)) ∧
      map.data[probeAt map.capacity (map.hash hashKey key) distance]? = some none ∧
      map.findEmptyBucket hashKey key =
        some (probeAt map.capacity (map.hash hashKey key) distance)) ∨
      map.entries.length = map.capacity ∧ map.findEmptyBucket hashKey key = none := by
  by_cases positive : map.capacity = 0
  · have noData := List.eq_nil_of_length_eq_zero (dataLength.trans positive)
    exact .inr ⟨by rw [entries, noData, positive]; rfl, by rw [findEmptyBucket, if_pos positive]⟩
  have homeInside : map.hash hashKey key < map.capacity := Represents.hash_lt positive key
  have slots : ∀ index < map.capacity,
      (map.visitEmpty index = none ↔ ∃ entry, map.data[index]? = some (some entry)) ∧
        ∀ result, map.visitEmpty index = some result →
          map.data[index]? = some none ∧ result = some index := by
    intro index inside
    rw [← dataLength] at inside
    rw [visitEmpty, List.getD_eq_getElem?_getD, List.getElem?_eq_getElem inside, Option.getD_some]
    cases map.data[index] with
    | none => simp [eq_comm]
    | some entry => simp
  rw [findEmptyBucket, if_neg positive]
  dsimp only
  obtain ⟨distance, distanceInside, before, decided⟩ | ⟨never, nothing⟩ :=
    probe_cases map.visitEmpty homeInside
  · left
    obtain ⟨free, isResult⟩ := (slots _ (probeAt_lt distance homeInside)).2 _ decided
    refine ⟨distance, distanceInside, fun earlier closer => ?_, free, isResult⟩
    exact (slots _ (probeAt_lt earlier homeInside)).1.mp (before earlier closer)
  · right
    refine ⟨?_, nothing⟩
    rw [entries, ← dataLength, List.reduceOption_length_eq_iff]
    intro slot member
    obtain ⟨index, slotEq⟩ := List.mem_iff_getElem?.mp member
    have inside : index < map.capacity := by
      rw [← dataLength]
      exact (List.getElem?_eq_some_iff.mp slotEq).choose
    have undecided := never _ (probeDistance_lt index homeInside)
    rw [probeAt_distance homeInside inside, (slots index inside).1] at undecided
    obtain ⟨entry, occupied⟩ := undecided
    rw [occupied] at slotEq
    cases slotEq
    rfl

theorem stored_of_find {key : Key} {index : Nat}
    (found : map.findMatchingBucket hashKey key = some index) :
    ∃ value, map.StoredAt index key value := by
  by_cases positive : map.capacity = 0
  · rw [findMatchingBucket, if_pos positive] at found
    cases found
  have homeInside : map.hash hashKey key < map.capacity := Represents.hash_lt positive key
  rw [findMatchingBucket, if_neg positive] at found
  dsimp only at found
  obtain ⟨distance, -, -, decided⟩ | ⟨-, nothing⟩ := probe_cases (map.visitMatching key) homeInside
  · rw [found] at decided
    simp only [visitMatching, List.getD_eq_getElem?_getD] at decided
    split at decided
    next => cases decided
    next entry occupied =>
      split at decided
      next isKey =>
        cases decided
        subst isKey
        refine ⟨entry.2, ?_⟩
        cases slot : map.data[probeAt map.capacity (map.hash hashKey entry.1) distance]? with
        | none => simp [slot] at occupied
        | some content =>
            rw [slot, Option.getD_some] at occupied
            rw [StoredAt, slot, occupied]
      next => cases decided
  · rw [found] at nothing
    cases nothing

namespace Represents

variable {map : FixedMap Key T} {bounded : Bounded Key T}

variable {key : Key} {value old : T} {index other : Nat}

theorem find_of_lookup (represents : Represents hashKey map bounded)
    (lookup : bounded.pairs.lookup key = some value) :
    ∃ index, map.StoredAt index key value ∧ map.findMatchingBucket hashKey key = some index := by
  obtain ⟨index, stored⟩ := mem_entries_iff.mp ((represents.lookup_iff key value).mp lookup)
  exact ⟨index, stored, represents.find_stored stored⟩

theorem find_eq_none (represents : Represents hashKey map bounded)
    (absent : key ∉ bounded.pairs) : map.findMatchingBucket hashKey key = none := by
  cases found : map.findMatchingBucket hashKey key with
  | none => rfl
  | some index =>
      obtain ⟨value, stored⟩ := stored_of_find found
      have lookup := (represents.lookup_iff key value).mpr (mem_entries_iff.mpr ⟨index, stored⟩)
      exact absurd (Finmap.mem_of_lookup_eq_some lookup) absent

theorem absent_entries (represents : Represents hashKey map bounded)
    (absent : key ∉ bounded.pairs) : key ∉ map.entries.map Prod.fst := by
  intro listed
  obtain ⟨pair, member, rfl⟩ := List.mem_map.mp listed
  exact absent (Finmap.mem_of_lookup_eq_some ((represents.lookup_iff pair.1 pair.2).mpr member))

omit [DecidableEq Key] in
theorem valueAt_stored
    (stored : map.StoredAt index key value) : map.valueAt index = some value := by
  have slotEq : map.data[index]? = some (some (key, value)) := stored
  simp [valueAt, List.getD_eq_getElem?_getD, slotEq]

omit [DecidableEq Key] in
/-- Writing to a bucket leaves the others. -/
theorem storedAt_set {slot : Option (Key × T)} {size : Nat} (inside : index < map.data.length) :
    StoredAt { map with data := map.data.set index slot, size } other key value ↔
      if other = index then slot = some (key, value) else map.StoredAt other key value := by
  rw [StoredAt, StoredAt, List.getElem?_set]
  by_cases same : index = other
  · subst same
    simp [inside]
  · simp [same, Ne.symm same]

section

variable (represents : Represents hashKey map bounded)
include represents

theorem place
    (absent : key ∉ bounded.pairs) {distance : Nat} (distanceInside : distance < map.capacity)
    (before : ∀ before < distance, ∃ entry,
      map.data[probeAt map.capacity (map.hash hashKey key) before]? = some (some entry))
    (free : map.data[probeAt map.capacity (map.hash hashKey key) distance]? = some none) :
    Represents hashKey
      { map with
        data := map.data.set (probeAt map.capacity (map.hash hashKey key) distance)
          (some (key, value))
        size := map.size + 1 }
      { bounded with pairs := bounded.pairs.insert key value } := by
  generalize position : probeAt map.capacity (map.hash hashKey key) distance = index at free ⊢
  obtain ⟨inside, slotEq⟩ := List.getElem?_eq_some_iff.mp free
  have entriesBefore := entries_eq inside
  rw [slotEq, Option.toList_none, List.nil_append] at entriesBefore
  have entriesAfter := entries_split inside (some (key, value))
  rw [Option.toList_some, List.singleton_append] at entriesAfter
  have newKey : key ∉ map.entries.map Prod.fst := represents.absent_entries absent
  refine ⟨represents.capacity_eq, ?_, ?_, ?_, ?_, ?_⟩
  · rw [List.length_set, represents.data_length]
  · rw [entries, entriesAfter, represents.size_eq, entriesBefore]
    simp
    omega
  · rw [entries, entriesAfter, List.map_append, List.map_cons, List.nodup_middle,
      ← List.map_append, ← entriesBefore, List.nodup_cons]
    exact ⟨newKey, represents.nodup⟩
  · intro other held
    have stays := represents.lookup_iff other held
    rw [entriesBefore, List.mem_append] at stays
    rw [entries, entriesAfter, List.mem_append, List.mem_cons, or_left_comm, ← stays, Prod.mk.injEq]
    by_cases same : other = key
    · subst same
      simp [Finmap.lookup_eq_none.mpr absent, eq_comm]
    · simp [Finmap.lookup_insert_of_ne _ same, same]
  · intro other otherKey held stored earlier closer
    rw [storedAt_set inside] at stored
    by_cases isNew : other = index
    · rw [if_pos isNew] at stored
      cases stored
      have homeInside : map.hash hashKey key < map.capacity :=
        hash_lt (Nat.ne_of_gt (Nat.zero_lt_of_lt distanceInside)) key
      have atDistance : probeDistance map.capacity (map.hash hashKey key) other = distance := by
        rw [isNew, ← position, probeDistance_at distance homeInside distanceInside]
      exact occupied_set inside _ (before earlier (closer.trans_eq atDistance))
    · rw [if_neg isNew] at stored
      exact occupied_set inside _ (represents.reachable other otherKey held stored earlier closer)

theorem assign (stored : map.StoredAt index key old) (value : T) :
    Represents hashKey (map.assignAt index value)
      { bounded with pairs := bounded.pairs.insert key value } := by
  have inside := stored.inside
  have slotEq : map.data[index] = some (key, old) :=
    (List.getElem?_eq_some_iff.mp stored).choose_spec
  have assigned : map.assignAt index value =
      { map with data := map.data.set index (some (key, value)) } := by
    simp [assignAt, List.getD_eq_getElem?_getD, List.getElem?_eq_getElem inside, slotEq]
  have entriesBefore := stored.entries_eq
  have entriesAfter := entries_split inside (some (key, value))
  rw [Option.toList_some, List.singleton_append] at entriesAfter
  have nodup := represents.nodup
  rw [entriesBefore, List.map_append, List.map_cons] at nodup
  rw [assigned]
  refine ⟨represents.capacity_eq, ?_, ?_, ?_, ?_, ?_⟩
  · rw [List.length_set, represents.data_length]
  · rw [entries, entriesAfter, represents.size_eq, entriesBefore]
    simp
  · rw [entries, entriesAfter, List.map_append, List.map_cons]
    exact nodup
  · intro other held
    have stays := represents.lookup_iff other held
    rw [entriesBefore, List.mem_append, List.mem_cons] at stays
    rw [entries, entriesAfter, List.mem_append, List.mem_cons]
    by_cases same : other = key
    · subst same
      simp [stored.only represents.nodup held, eq_comm]
    · simp [Finmap.lookup_insert_of_ne _ same, same, stays]
  · intro other otherKey held storedOther earlier closer
    rw [storedAt_set inside] at storedOther
    apply occupied_set inside
    by_cases same : other = index
    · rw [if_pos same] at storedOther
      cases storedOther
      exact represents.reachable other key old (same ▸ stored) earlier closer
    · rw [if_neg same] at storedOther
      exact represents.reachable other otherKey held storedOther earlier closer

theorem remove (stored : map.StoredAt index key old)
    (uncrossed : ∀ other < map.capacity, ¬Crosses hashKey map index other) :
    Represents hashKey { map with data := map.data.set index none, size := map.size - 1 }
      { bounded with pairs := bounded.pairs.erase key } := by
  have inside := stored.inside
  have entriesBefore := stored.entries_eq
  have entriesAfter := entries_split inside (none : Option (Key × T))
  rw [Option.toList_none, List.nil_append] at entriesAfter
  have nodup := represents.nodup
  rw [entriesBefore, List.map_append, List.map_cons, List.nodup_middle, ← List.map_append,
    List.nodup_cons] at nodup
  refine ⟨represents.capacity_eq, ?_, ?_, ?_, ?_, ?_⟩
  · rw [List.length_set, represents.data_length]
  · rw [entries, entriesAfter, represents.size_eq, entriesBefore]
    simp
  · rw [entries, entriesAfter]
    exact nodup.2
  · intro other held
    have stays := represents.lookup_iff other held
    rw [entriesBefore, List.mem_append, List.mem_cons] at stays
    rw [entries, entriesAfter, List.mem_append]
    by_cases same : other = key
    · subst same
      simp [Finmap.lookup_erase, stored.only represents.nodup held]
    · simp [Finmap.lookup_erase_ne same, stays, same]
  · intro other otherKey held storedOther earlier closer
    rw [storedAt_set inside] at storedOther
    by_cases same : other = index
    · rw [if_pos same] at storedOther
      cases storedOther
    rw [if_neg same] at storedOther
    obtain ⟨entry, occupied⟩ := represents.reachable other otherKey held storedOther earlier closer
    have otherInside := storedOther.inside
    rw [represents.data_length] at otherInside
    have homeInside : map.hash hashKey otherKey < map.capacity :=
      hash_lt (Nat.ne_of_gt (Nat.zero_lt_of_lt otherInside)) otherKey
    have elsewhere : index ≠ probeAt map.capacity (map.hash hashKey otherKey) earlier := by
      intro onPath
      refine uncrossed other otherInside ⟨(otherKey, held), storedAt_iff.mp storedOther, ?_⟩
      · rw [onPath, probeDistance_at earlier homeInside
          (Nat.lt_trans closer (probeDistance_lt other homeInside))]
        exact closer
    refine ⟨entry, ?_⟩
    rw [hash] at elsewhere occupied
    rw [← occupied, ← List.getElem?_set_ne elsewhere, hash]

theorem find_crossed (stored : map.StoredAt index key old) (otherInside : other < map.capacity)
    (crosses : Crosses hashKey map index other) :
    ∃ hidden ∈ bounded.pairs, hidden ≠ key ∧ findMatchingBucket hashKey
        { map with data := map.data.set index none, size := map.size - 1 } hidden = none := by
  obtain ⟨⟨hidden, held⟩, isEntry, closer⟩ := crosses
  dsimp only at closer
  have inside := stored.inside
  have homeInside : map.hash hashKey hidden < map.capacity :=
    hash_lt (Nat.ne_of_gt (Nat.zero_lt_of_lt otherInside)) hidden
  have storedHidden : map.StoredAt other hidden held := storedAt_iff.mpr isEntry
  refine ⟨hidden, ?_, ?_, ?_⟩
  · exact Finmap.mem_of_lookup_eq_some
      ((represents.lookup_iff hidden held).mpr (mem_entries_iff.mpr ⟨other, storedHidden⟩))
  · rintro rfl
    rw [stored.unique represents.nodup storedHidden] at closer
    exact Nat.lt_irrefl _ closer
  · rw [findMatchingBucket, if_neg (Nat.ne_of_gt (Nat.zero_lt_of_lt otherInside))]
    dsimp only
    refine probe_of_first _ homeInside (probeDistance_lt index homeInside)
      (fun earlier before => ?_) ?_
    · obtain ⟨⟨otherKey, otherHeld⟩, occupied⟩ :=
        represents.reachable other hidden held storedHidden earlier (before.trans closer)
      have earlierInside := before.trans (probeDistance_lt index homeInside)
      have elsewhere : index ≠ probeAt map.capacity (map.hash hashKey hidden) earlier := by
        intro same
        rw [same, probeDistance_at earlier homeInside earlierInside] at before
        exact Nat.lt_irrefl _ before
      have different : otherKey ≠ hidden := by
        rintro rfl
        have same := storedHidden.unique represents.nodup occupied
        have beforeOther := before.trans closer
        rw [same, probeDistance_at earlier homeInside earlierInside] at beforeOther
        exact Nat.lt_irrefl _ beforeOther
      simp only [visitMatching, List.getD_eq_getElem?_getD]
      rw [List.getElem?_set_ne elsewhere, occupied, Option.getD_some]
      exact if_neg different
    · rw [probeAt_distance homeInside (represents.data_length ▸ inside)]
      simp [visitMatching, List.getD_eq_getElem?_getD, List.getElem?_set_self inside]

end

end Represents

end Gxf.Common.FixedMap
