import Gxf.Common.FixedMap.Refinement

/-!
# Runs of fixed maps

All maps together, under every sequence of operations: they agree with the finite maps
exactly as long as no erased bucket was on the way to another key and no map with
entries is copied from itself.
-/

namespace Gxf.Common.FixedMap

open Gxf.Lib Function FixedMap

variable {Key T ι : Type*} [DecidableEq Key] {hashKey : Key → Nat}

/-- What a caller sees of a map is the finite map. -/
structure Shows (hashKey : Key → Nat) (map : FixedMap Key T) (bounded : Bounded Key T) : Prop where
  capacity_eq : map.capacity = bounded.capacity
  size_eq : map.size = bounded.pairs.keys.card
  contains_iff : ∀ key, map.contains hashKey key = true ↔ key ∈ bounded.pairs
  atKey_eq : ∀ key, map.atKey hashKey key =
    (bounded.pairs.lookup key).elim (.error .kInvalidKey) fun value => .ok (some value)

namespace Represents

variable {map : FixedMap Key T} {bounded : Bounded Key T}

theorem shows (represents : Represents hashKey map bounded) : Shows hashKey map bounded := by
  refine ⟨represents.capacity_eq, represents.card_eq.symm, fun key => ?_, fun key => ?_⟩
  · by_cases present : key ∈ bounded.pairs
    · obtain ⟨value, lookup⟩ := Finmap.mem_iff.mp present
      obtain ⟨index, -, found⟩ := represents.find_of_lookup lookup
      simp [contains, found, present]
    · simp [contains, represents.find_eq_none present, present]
  · cases lookup : bounded.pairs.lookup key with
    | none =>
        rw [atKey, represents.find_eq_none (Finmap.lookup_eq_none.mp lookup)]
        rfl
    | some value =>
        obtain ⟨index, stored, found⟩ := represents.find_of_lookup lookup
        rw [atKey, found, Option.elim_some]
        exact congrArg Except.ok (valueAt_stored stored)

theorem card_le (represents : Represents hashKey map bounded) :
    bounded.pairs.keys.card ≤ bounded.capacity := by
  rw [represents.card_eq, represents.size_eq, ← represents.capacity_eq, ← represents.data_length]
  exact List.reduceOption_length_le map.data

theorem emplace_new (represents : Represents hashKey map bounded) {key : Key} (value : T)
    (absent : key ∉ bounded.pairs) :
    (bounded.pairs.keys.card = bounded.capacity ∧
        map.emplace hashKey key value = (map, .error .kContainerFull)) ∨
      bounded.pairs.keys.card ≠ bounded.capacity ∧ (map.emplace hashKey key value).2 = .ok () ∧
        Represents hashKey (map.emplace hashKey key value).1
          { bounded with pairs := bounded.pairs.insert key value } := by
  have noMatch := represents.find_eq_none absent
  have cardEq : bounded.pairs.keys.card = map.entries.length :=
    represents.card_eq.trans represents.size_eq
  obtain ⟨distance, inside, before, free, found⟩ | ⟨full, nothing⟩ :=
    findEmptyBucket_cases hashKey represents.data_length key
  · right
    refine ⟨?_, ?_, ?_⟩
    · rw [cardEq, ← represents.capacity_eq, ← represents.data_length]
      apply Nat.ne_of_lt
      have member := List.mem_of_getElem? free
      rw [entries, List.reduceOption_length_lt_iff]
      exact member
    · simp [emplace, noMatch, found]
    · simp only [emplace, noMatch, found]
      exact represents.place absent inside before free
  · left
    exact ⟨by rw [cardEq, full, represents.capacity_eq], by simp [emplace, noMatch, nothing]⟩

theorem unoccupied (hashKey : Key → Nat) (capacity : Nat) :
    Represents (T := T) hashKey ⟨List.replicate capacity none, capacity, 0⟩ ⟨∅, capacity⟩ := by
  have noEntries : entries (⟨List.replicate capacity none, capacity, 0⟩ : FixedMap Key T) = [] :=
    List.reduceOption_replicate_none
  refine ⟨rfl, List.length_replicate, ?_, ?_, ?_, ?_⟩
  · rw [noEntries, List.length_nil]
  · rw [noEntries]
    exact List.nodup_nil
  · intro key value
    rw [noEntries]
    exact iff_of_false (by simp) List.not_mem_nil
  · intro index key value stored
    have member := mem_entries_iff.mpr ⟨index, stored⟩
    rw [noEntries] at member
    cases member

theorem clear (represents : Represents hashKey map bounded) :
    Represents hashKey map.clear { bounded with pairs := ∅ } := by
  have empty := unoccupied (T := T) hashKey map.capacity
  rw [← represents.data_length, ← List.map_const', represents.data_length] at empty
  rw [← represents.capacity_eq]
  exact empty

theorem emplaceAll (represents : Represents hashKey map bounded)
    {buckets : List (Option (Key × T))} (nodup : (buckets.reduceOption.map Prod.fst).Nodup)
    (fresh : ∀ pair ∈ buckets.reduceOption, pair.1 ∉ bounded.pairs)
    (room : bounded.pairs.keys.card + buckets.reduceOption.length ≤ bounded.capacity)
    {all : Finmap fun _ : Key => T}
    (lookup_iff : ∀ key value, all.lookup key = some value ↔
      bounded.pairs.lookup key = some value ∨ (key, value) ∈ buckets.reduceOption) :
    (map.emplaceAll hashKey buckets).2 = .ok () ∧
      Represents hashKey (map.emplaceAll hashKey buckets).1 { bounded with pairs := all } := by
  induction buckets generalizing map bounded with
  | nil =>
      have same : all = bounded.pairs := by
        apply Finmap.ext_lookup
        intro key
        apply Option.ext
        intro value
        simpa using lookup_iff key value
      rw [same]
      exact ⟨rfl, represents⟩
  | cons bucket buckets ih =>
      cases bucket with
      | none =>
          rw [List.reduceOption_cons_of_none] at nodup fresh room lookup_iff
          exact ih represents nodup fresh room lookup_iff
      | some pair =>
          obtain ⟨key, value⟩ := pair
          rw [List.reduceOption_cons_of_some] at nodup fresh room lookup_iff
          rw [List.map_cons, List.nodup_cons] at nodup
          rw [List.length_cons] at room
          have absent := fresh (key, value) (List.mem_cons_self ..)
          obtain ⟨full, -⟩ | ⟨-, answer, placed⟩ := represents.emplace_new value absent
          · omega
          have keysEq : (bounded.pairs.insert key value).keys = insert key bounded.pairs.keys := by
            ext other
            rw [Finset.mem_insert, Finmap.mem_keys, Finmap.mem_keys, Finmap.mem_insert]
          have rest := ih placed nodup.2 ?_ ?_ ?_
          · rw [emplaceAll]
            cases result : map.emplace hashKey key value with
            | mk after outcome =>
                rw [result] at answer rest
                dsimp only at answer rest
                subst answer
                exact rest
          · intro other member inserted
            rw [Finmap.mem_insert] at inserted
            cases inserted with
            | inl same => exact nodup.1 (List.mem_map.mpr ⟨other, member, same⟩)
            | inr before => exact fresh other (List.mem_cons_of_mem _ member) before
          · rw [keysEq, Finset.card_insert_of_notMem (by rwa [Finmap.mem_keys])]
            dsimp only
            omega
          · intro other held
            rw [lookup_iff, List.mem_cons, Prod.mk.injEq]
            by_cases same : other = key
            · subst same
              simp [Finmap.lookup_eq_none.mpr absent, eq_comm]
            · simp [Finmap.lookup_insert_of_ne _ same, same]

theorem reserve (represents : Represents hashKey map bounded) {capacity : Nat}
    (larger : ¬capacity ≤ bounded.capacity) :
    (map.reserve hashKey capacity true).2 = .ok () ∧
      Represents hashKey (map.reserve hashKey capacity true).1 { bounded with capacity } := by
  have within := represents.card_le
  have cardEq := represents.card_eq.trans represents.size_eq
  rw [FixedMap.reserve, if_pos (by rw [represents.capacity_eq]; omega), if_neg (by decide)]
  refine (unoccupied hashKey capacity).emplaceAll represents.nodup (fun pair _ => ?_) ?_ ?_
  · exact Finmap.notMem_empty
  · rw [entries] at cardEq
    simp only [Finmap.keys_empty, Finset.card_empty]
    omega
  · intro key value
    rw [represents.lookup_iff]
    simp [entries]

theorem copyFrom [DecidableEq ι] {store : ι → FixedMap Key T} {maps : ι → Bounded Key T}
    (represents : ∀ name, Represents hashKey (store name) (maps name)) {target source : ι}
    (within : (maps source).pairs.keys.card ≤ (maps target).capacity)
    (other : source = target → (maps target).pairs = ∅) :
    (copyFrom hashKey store target source).2 = .ok () ∧
      Represents hashKey (copyFrom hashKey store target source).1
        { maps target with pairs := (maps source).pairs } := by
  have cleared := (represents target).clear
  have enough : ¬(store source).size > (store target).capacity := by
    rw [← (represents source).card_eq, (represents target).capacity_eq]
    omega
  have read : Represents hashKey (Function.update store target (store target).clear source)
      { maps source with pairs := (maps source).pairs } := by
    by_cases same : source = target
    · subst same
      rw [update_self, other rfl]
      exact cleared
    · rw [update_of_ne same]
      exact represents source
  have readCard := read.card_eq.trans read.size_eq
  rw [FixedMap.copyFrom, if_neg enough]
  refine cleared.emplaceAll read.nodup (fun pair _ => ?_) ?_ ?_
  · exact Finmap.notMem_empty
  · rw [entries] at readCard
    simp only [Finmap.keys_empty, Finset.card_empty]
    dsimp only at readCard
    omega
  · intro key value
    rw [read.lookup_iff]
    simp [entries]

/-- `operator[]` refers to the bucket of the key, which it stores if it is new. -/
theorem subscript [Inhabited T] (represents : Represents hashKey map bounded) (key : Key) :
    (∃ index value, bounded.pairs.lookup key = some value ∧ map.StoredAt index key value ∧
        map.subscript hashKey key = (map, .ok index)) ∨
      key ∉ bounded.pairs ∧ (bounded.pairs.keys.card = bounded.capacity ∧
            map.subscript hashKey key = (map, .error .kContainerFull) ∨
          bounded.pairs.keys.card ≠ bounded.capacity ∧
            ∃ after index, map.subscript hashKey key = (after, .ok index) ∧
              Represents hashKey after { bounded with pairs := bounded.pairs.insert key default } ∧
              after.StoredAt index key default) := by
  cases lookup : bounded.pairs.lookup key with
  | some value =>
      obtain ⟨index, stored, found⟩ := represents.find_of_lookup lookup
      exact .inl ⟨index, value, rfl, stored, by rw [FixedMap.subscript, found]⟩
  | none =>
      right
      have absent := Finmap.lookup_eq_none.mp lookup
      have noMatch := represents.find_eq_none absent
      refine ⟨absent, ?_⟩
      obtain ⟨full, refused⟩ | ⟨room, answer, placed⟩ := represents.emplace_new default absent
      · exact .inl ⟨full, by simp only [FixedMap.subscript, noMatch, refused]⟩
      · obtain ⟨index, stored, found⟩ := placed.find_of_lookup (Finmap.lookup_insert bounded.pairs)
        refine .inr ⟨room, _, index, ?_, placed, stored⟩
        rw [FixedMap.subscript, noMatch]
        cases result : map.emplace hashKey key default with
        | mk after outcome =>
            rw [result] at answer found
            dsimp only at answer found ⊢
            rw [answer]
            dsimp only
            rw [found]

end Represents

/-! ## Steps -/

section Step

variable [DecidableEq ι]

/-- An erased bucket is on the way to no other key, and only an empty map is copied from
itself. -/
def Sound (hashKey : Key → Nat) (store : ι → FixedMap Key T) (op : Op ι Key T) : Prop :=
  match op.call with
  | .erase key =>
      ∀ index < (store op.target).capacity, (store op.target).Holds index key →
        ∀ other < (store op.target).capacity, ¬Crosses hashKey (store op.target) index other
  | .copyFrom source => source = op.target → (store source).size = 0
  | _ => True

variable [Inhabited T]

/-- A step agrees with the finite maps: it gives the same answer, and all maps show the
finite maps. -/
def StepAgrees (hashKey : Key → Nat) (state : (ι → FixedMap Key T) × (ι → Bounded Key T))
    (op : Op ι Key T) : Prop :=
  let next := ((system hashKey).lockstep Bounded.system).step state op
  next.2.1 = next.2.2 ∧ ∀ name, Shows hashKey (next.1.1 name) (next.1.2 name)

variable {store : ι → FixedMap Key T} {maps : ι → Bounded Key T}

theorem answer_represents (represents : ∀ name, Represents hashKey (store name) (maps name))
    {op : Op ι Key T} (sound : Sound hashKey store op) :
    (answer hashKey store op.target op.call).2 = (Bounded.answer maps op.target op.call).2 ∧
      Represents hashKey (answer hashKey store op.target op.call).1
        (Bounded.answer maps op.target op.call).1 := by
  obtain ⟨target, call⟩ := op
  have here := represents target
  dsimp only
  cases call with
  | emplace key value =>
      simp only [answer, Bounded.answer, Bounded.store]
      by_cases present : key ∈ (maps target).pairs
      · obtain ⟨old, lookup⟩ := Finmap.mem_iff.mp present
        obtain ⟨index, -, found⟩ := here.find_of_lookup lookup
        rw [if_pos present, emplace, found]
        exact ⟨rfl, here⟩
      · rw [if_neg present]
        obtain ⟨full, refused⟩ | ⟨room, answered, placed⟩ := here.emplace_new value present
        · rw [if_pos ⟨present, full⟩, refused]
          exact ⟨rfl, here⟩
        · rw [if_neg (fun both => room both.2), answered]
          exact ⟨rfl, placed⟩
  | insertOrAssign key value =>
      simp only [answer, Bounded.answer, Bounded.store]
      by_cases present : key ∈ (maps target).pairs
      · obtain ⟨old, lookup⟩ := Finmap.mem_iff.mp present
        obtain ⟨index, stored, found⟩ := here.find_of_lookup lookup
        rw [if_neg (fun both => both.1 present), insertOrAssign, found]
        exact ⟨rfl, here.assign stored value⟩
      · rw [insertOrAssign, here.find_eq_none present]
        obtain ⟨full, refused⟩ | ⟨room, answered, placed⟩ := here.emplace_new value present
        · rw [if_pos ⟨present, full⟩, refused]
          exact ⟨rfl, here⟩
        · rw [if_neg (fun both => room both.2), answered]
          exact ⟨rfl, placed⟩
  | subscript key =>
      simp only [answer, Bounded.answer, Bounded.store]
      obtain ⟨index, value, lookup, stored, refers⟩ |
          ⟨absent, ⟨full, refused⟩ | ⟨room, after, index, refers, placed, stored⟩⟩ :=
        here.subscript key
      · rw [refers, lookup]
        exact ⟨congrArg Except.ok (Represents.valueAt_stored stored), here⟩
      · rw [refused, Finmap.lookup_eq_none.mpr absent, if_pos ⟨absent, full⟩]
        exact ⟨rfl, here⟩
      · rw [refers, Finmap.lookup_eq_none.mpr absent, if_neg (fun both => room both.2)]
        exact ⟨congrArg Except.ok (Represents.valueAt_stored stored), placed⟩
  | subscriptAssign key value =>
      simp only [answer, Bounded.answer, Bounded.store]
      obtain ⟨index, old, lookup, stored, refers⟩ |
          ⟨absent, ⟨full, refused⟩ | ⟨room, after, index, refers, placed, stored⟩⟩ :=
        here.subscript key
      · have present := Finmap.mem_of_lookup_eq_some lookup
        rw [refers, if_neg (fun both => both.1 present)]
        exact ⟨rfl, here.assign stored value⟩
      · rw [refused, if_pos ⟨absent, full⟩]
        exact ⟨rfl, here⟩
      · have assigned := placed.assign stored value
        rw [Finmap.insert_insert] at assigned
        rw [refers, if_neg (fun both => room both.2)]
        exact ⟨rfl, assigned⟩
  | update key value =>
      simp only [answer, Bounded.answer, Bounded.store]
      by_cases present : key ∈ (maps target).pairs
      · obtain ⟨old, lookup⟩ := Finmap.mem_iff.mp present
        obtain ⟨index, stored, found⟩ := here.find_of_lookup lookup
        rw [if_pos present, if_neg (fun both => both.1 present), FixedMap.update, found]
        exact ⟨rfl, here.assign stored value⟩
      · rw [if_neg present, FixedMap.update, here.find_eq_none present]
        exact ⟨rfl, here⟩
  | erase key =>
      simp only [answer, Bounded.answer]
      by_cases present : key ∈ (maps target).pairs
      · obtain ⟨old, lookup⟩ := Finmap.mem_iff.mp present
        obtain ⟨index, stored, found⟩ := here.find_of_lookup lookup
        have inside := stored.inside
        rw [here.data_length] at inside
        have uncrossed := sound index inside (holds_iff.mpr ⟨old, stored⟩)
        rw [if_pos present, erase, found]
        exact ⟨rfl, here.remove stored uncrossed⟩
      · rw [if_neg present, erase, here.find_eq_none present]
        exact ⟨rfl, here⟩
  | clear => exact ⟨rfl, here.clear⟩
  | reserve capacity allocated =>
      simp only [answer, Bounded.answer]
      by_cases enough : capacity ≤ (maps target).capacity
      · rw [if_pos enough, FixedMap.reserve,
          if_neg (by rw [here.capacity_eq]; exact Nat.not_lt.mpr enough)]
        exact ⟨rfl, here⟩
      · rw [if_neg enough]
        cases allocated with
        | false =>
            rw [FixedMap.reserve, if_pos (by rw [here.capacity_eq]; exact Nat.lt_of_not_le enough)]
            exact ⟨rfl, here⟩
        | true =>
            obtain ⟨answered, reserved⟩ := here.reserve enough
            rw [answered]
            exact ⟨rfl, reserved⟩
  | copyFrom source =>
      simp only [answer, Bounded.answer]
      by_cases beyond : (maps source).pairs.keys.card > (maps target).capacity
      · rw [if_pos beyond, FixedMap.copyFrom,
          if_pos (by rwa [← (represents source).card_eq, here.capacity_eq])]
        exact ⟨rfl, here⟩
      · rw [if_neg beyond]
        obtain ⟨answered, copied⟩ := Represents.copyFrom represents (Nat.le_of_not_lt beyond)
          (fun same => by
            subst same
            have zero : (store source).size = 0 := sound rfl
            rw [← here.card_eq, Finset.card_eq_zero] at zero
            exact Finmap.ext_lookup fun key => by
              rw [Finmap.lookup_empty, Finmap.lookup_eq_none, ← Finmap.mem_keys, zero]
              exact Finset.notMem_empty key)
        rw [answered]
        exact ⟨rfl, copied⟩

theorem system_represents (represents : ∀ name, Represents hashKey (store name) (maps name))
    {op : Op ι Key T} (sound : Sound hashKey store op) (name : ι) :
    Represents hashKey (((system hashKey).step store op).1 name)
      ((Bounded.system.step maps op).1 name) := by
  simp only [system, Bounded.system]
  by_cases called : name = op.target
  · subst called
    rw [update_self, update_self]
    exact (answer_represents represents sound).2
  · rw [update_of_ne called, update_of_ne called]
    exact represents name

omit [DecidableEq ι] [Inhabited T] in
theorem emplaceAll_unoccupied (map : FixedMap Key T) (buckets : List (Option (Key × T))) :
    map.emplaceAll hashKey (buckets.map fun _ => none) = (map, .ok ()) := by
  induction buckets with
  | nil => rfl
  | cons bucket buckets ih => exact ih

theorem not_agrees_of_not_sound (represents : ∀ name, Represents hashKey (store name) (maps name))
    {op : Op ι Key T} (unsound : ¬Sound hashKey store op) :
    ¬StepAgrees hashKey (store, maps) op := by
  obtain ⟨target, call⟩ := op
  have here := represents target
  rintro ⟨-, shows⟩
  have shown := shows target
  simp only [System.lockstep, system, Bounded.system, update_self] at shown
  cases call with
  | erase key =>
      simp only [Sound, not_forall, not_not] at unsound
      obtain ⟨index, -, holds, other, otherInside, crosses⟩ := unsound
      obtain ⟨old, stored⟩ := holds_iff.mp holds
      have found := here.find_stored stored
      have present : key ∈ (maps target).pairs := Finmap.mem_of_lookup_eq_some
        ((here.lookup_iff key old).mpr (mem_entries_iff.mpr ⟨index, stored⟩))
      obtain ⟨hidden, isKey, different, lost⟩ := here.find_crossed stored otherInside crosses
      simp only [answer, Bounded.answer, if_pos present, erase, found] at shown
      have stillThere := (shown.contains_iff hidden).mpr (Finmap.mem_erase.mpr ⟨different, isKey⟩)
      rw [contains, lost] at stillThere
      cases stillThere
  | copyFrom source =>
      simp only [Sound, Classical.not_imp] at unsound
      obtain ⟨rfl, nonempty⟩ := unsound
      have within : ¬(maps source).pairs.keys.card > (maps source).capacity :=
        Nat.not_lt.mpr here.card_le
      have enough : ¬(store source).size > (store source).capacity := by
        rwa [← here.card_eq, here.capacity_eq]
      simp only [answer, Bounded.answer, if_neg within, FixedMap.copyFrom, if_neg enough,
        update_self] at shown
      have lost := shown.size_eq
      rw [clear, emplaceAll_unoccupied] at lost
      rw [← here.card_eq] at nonempty
      exact nonempty lost.symm
  | _ => exact unsound trivial

theorem stepAgrees_iff (represents : ∀ name, Represents hashKey (store name) (maps name))
    (op : Op ι Key T) : StepAgrees hashKey (store, maps) op ↔ Sound hashKey store op := by
  constructor
  · intro agrees
    by_contra unsound
    exact not_agrees_of_not_sound represents unsound agrees
  · intro sound
    exact ⟨(answer_represents represents sound).1,
      fun name => (system_represents represents sound name).shows⟩

end Step

/-- For every key type, hash function and sequence of operations on empty maps: every
step agrees with the finite maps if and only if every step is sound. -/
theorem run_refines_iff [DecidableEq ι] [Inhabited T] (hashKey : Key → Nat)
    (ops : List (Op ι Key T)) :
    ((system hashKey).lockstep Bounded.system).Along (StepAgrees hashKey)
        (fun _ => create, fun _ => ⟨∅, 0⟩) ops ↔
      (system hashKey).Along (Sound hashKey) (fun _ => create) ops := by
  let both := (system (ι := ι) (T := T) hashKey).lockstep Bounded.system
  let initial : (ι → FixedMap Key T) × (ι → Bounded Key T) := (fun _ => create, fun _ => ⟨∅, 0⟩)
  have start : ∀ name, Represents hashKey (initial.1 name) (initial.2 name) :=
    fun _ => Represents.unoccupied hashKey 0
  have preserved : ∀ (state : (ι → FixedMap Key T) × (ι → Bounded Key T)) (op : Op ι Key T),
      (∀ name, Represents hashKey (state.1 name) (state.2 name)) → Sound hashKey state.1 op →
      ∀ name, Represents hashKey ((both.step state op).1.1 name) ((both.step state op).1.2 name) :=
    fun _ _ represents sound => system_represents represents sound
  have exactStep : ∀ (state : (ι → FixedMap Key T) × (ι → Bounded Key T)) (op : Op ι Key T),
      (∀ name, Represents hashKey (state.1 name) (state.2 name)) →
      (StepAgrees hashKey state op ↔ Sound hashKey state.1 op) :=
    fun _ op represents => stepAgrees_iff represents op
  rw [← System.along_lockstep_left (system hashKey) Bounded.system initial.1 initial.2 ops]
  exact System.along_iff_guarded preserved exactStep start ops

/-- Two keys with the same hash in a map of two buckets.  Erasing the first one hides
the second one, which can then be stored once more.  Copying a map from itself empties
it. -/
theorem erase_hides_key :
    let run := (system id).run fun _ : Unit => (create : FixedMap Nat Char)
    let filled : List (Op Unit Nat Char) :=
      [⟨(), .reserve 2 true⟩, ⟨(), .emplace 0 'a'⟩, ⟨(), .emplace 2 'b'⟩]
    let erased := run (filled ++ [⟨(), .erase 0⟩]) ()
    let stored := run (filled ++ [⟨(), .erase 0⟩, ⟨(), .emplace 2 'c'⟩]) ()
    let copied := run (filled ++ [⟨(), .copyFrom ()⟩]) ()
    (erased.contains id 2 = false ∧ erased.atKey id 2 = .error .kInvalidKey) ∧
      (stored.size = 2 ∧ stored.entries = [(2, 'c'), (2, 'b')]) ∧
      copied.size = 0 := by
  decide

end Gxf.Common.FixedMap
