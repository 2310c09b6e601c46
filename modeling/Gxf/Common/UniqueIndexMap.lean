import Mathlib.Algebra.GroupWithZero.Nat
import Gxf.Lib.Chain
import Gxf.Lib.Run

/-!
# The unique index map

A fixed number of slots for objects.  An object is addressed by a uid: its slot in
the lower half and a version in the upper half.  The array of uids holds the uid of
every object in use and, in the other slots, an implicit list of the free ones.
-/

namespace Gxf.Common

open Gxf.Lib

/-- Error codes of the map. -/
inductive UniqueIndexMapError where
  | kArgumentInvalid
  | kOutOfMemory
  | kContainerFull
  | kNotFound
  deriving DecidableEq, Repr

/-- The fields of the map.  A slot of `data` without a constructed object is `none`. -/
structure UniqueIndexMap (T : Type*) where
  uids : List UInt64
  data : List (Option T)
  capacity : UInt64
  size : UInt64
  next : UInt64
  deriving DecidableEq, Repr

namespace UniqueIndexMap

variable {T : Type*}

/-- `GetVersion(uid)`. -/
def getVersion (uid : UInt64) : UInt64 := uid >>> 32

/-- `GetIndex(uid)`. -/
def getIndex (uid : UInt64) : UInt64 := uid &&& 0xFFFFFFFF

/-- The position that a uid names in the arrays. -/
def slot (uid : UInt64) : Nat := (getIndex uid).toNat

/-- The default constructor. -/
def empty : UniqueIndexMap T := ⟨[], [], 0, 0, 0⟩

/-- `initialize(max_capacity)`, where `allocated` says whether both arrays could be
allocated. -/
def init (maxCapacity : UInt64) (allocated : Bool) :
    UniqueIndexMap T × Except UniqueIndexMapError Unit :=
  if maxCapacity > 0x100000000 then (empty, .error .kArgumentInvalid)
  else if !allocated then ({ empty with capacity := maxCapacity }, .error .kOutOfMemory)
  else
    (⟨(List.range maxCapacity.toNat).map fun i => UInt64.ofNat (i + 1),
        List.replicate maxCapacity.toNat none, maxCapacity, 0, 0⟩, .ok ())

/-- `valid(uid)`. -/
def valid (map : UniqueIndexMap T) (uid : UInt64) : Bool :=
  getIndex uid < map.capacity && map.uids.getD (slot uid) 0 == uid

/-- `emplace(args)`, which `insert` calls with the object. -/
def emplace (map : UniqueIndexMap T) (object : T) :
    UniqueIndexMap T × Except UniqueIndexMapError UInt64 :=
  if map.size = map.capacity then (map, .error .kOutOfMemory)
  else if getVersion map.next = 0xFFFFFFFF then (map, .error .kContainerFull)
  else
    let idx := slot map.next
    let uids := map.uids.set idx (map.next + 0x100000000)
    ({ map with
        next := map.uids.getD idx 0
        uids
        data := map.data.set idx (some object)
        size := map.size + 1 }, .ok (uids.getD idx 0))

/-- `erase(uid)`. -/
def erase (map : UniqueIndexMap T) (uid : UInt64) :
    UniqueIndexMap T × Except UniqueIndexMapError Unit :=
  if !map.valid uid then (map, .error .kNotFound)
  else
    let idx := slot uid
    ({ map with
        uids := map.uids.set idx map.next
        next := uid
        size := map.size - 1
        data := map.data.set idx none }, .ok ())

/-- `try_get(uid)`: what the slot behind the returned pointer holds. -/
def tryGet (map : UniqueIndexMap T) (uid : UInt64) : Except UniqueIndexMapError (Option T) :=
  if !map.valid uid then .error .kNotFound else .ok (map.data.getD (slot uid) none)

/-- `find(object)`. -/
def find [BEq T] (map : UniqueIndexMap T) (object : T) : Except UniqueIndexMapError UInt64 :=
  let found := (List.range map.capacity.toNat).find? fun i =>
    map.valid (map.uids.getD i 0) && (map.data.getD i none).any (· == object)
  match found with
  | some i => .ok (map.uids.getD i 0)
  | none => .error .kNotFound

/-- The calls that change an initialized map. -/
inductive Op (T : Type*) where
  | emplace (object : T)
  | erase (uid : UInt64)
  deriving DecidableEq, Repr

/-- The map as a system that answers with uids: the new one, or the erased one. -/
def system : System (UniqueIndexMap T) (Op T) (Except UniqueIndexMapError UInt64) where
  step map
    | .emplace object => map.emplace object
    | .erase uid => ((map.erase uid).1, (map.erase uid).2.map fun _ => uid)

/-- What the history of a map says: every uid it ever returned, and the objects whose
uid has not been erased since. -/
structure Ledger (T : Type*) where
  issued : List UInt64
  live : List (UInt64 × T)

/-- The effect of a call on the ledger. -/
def Ledger.record (ledger : Ledger T) : Op T → Except UniqueIndexMapError UInt64 → Ledger T
  | .emplace object, .ok uid => ⟨uid :: ledger.issued, (uid, object) :: ledger.live⟩
  | .emplace _, .error _ => ledger
  | .erase uid, _ => ⟨ledger.issued, ledger.live.filter fun pair => pair.1 ≠ uid⟩

theorem slot_eq (uid : UInt64) : slot uid = uid.toNat % 2 ^ 32 := by
  have mask : (0xFFFFFFFF : UInt64).toNat = 2 ^ 32 - 1 := by simp
  rw [slot, getIndex, UInt64.toNat_and, mask, Nat.and_two_pow_sub_one_eq_mod]

theorem slot_ofNat {index : Nat} (small : index < 2 ^ 32) : slot (UInt64.ofNat index) = index := by
  rw [slot_eq, UInt64.toNat_ofNat']
  omega

theorem getVersion_toNat (uid : UInt64) : (getVersion uid).toNat = uid.toNat / 2 ^ 32 := by
  rw [getVersion, UInt64.toNat_shiftRight]
  exact Nat.shiftRight_eq_div_pow uid.toNat 32

variable {link : UInt64}

theorem next_toNat (lasts : getVersion link ≠ 0xFFFFFFFF) :
    (link + 0x100000000).toNat = link.toNat + 2 ^ 32 := by
  have version := getVersion_toNat link
  have notLast : (getVersion link).toNat ≠ 2 ^ 32 - 1 :=
    fun equal => lasts (UInt64.toNat_inj.mp equal)
  have oneVersion : (0x100000000 : UInt64).toNat = 2 ^ 32 := by simp
  have bound := link.toNat_lt
  rw [UInt64.toNat_add, oneVersion]
  omega

theorem slot_next (lasts : getVersion link ≠ 0xFFFFFFFF) :
    slot (link + 0x100000000) = slot link := by
  rw [slot_eq, slot_eq, next_toNat lasts]
  omega

/-! ## The invariant -/

/-- The free slots: the links starting at `next` pass each of them once, and a slot
is in use exactly when it stores a uid of its own. -/
structure FreeList (map : UniqueIndexMap T) (chain : List UInt64) : Prop where
  small : map.capacity.toNat < 2 ^ 32
  uids_length : map.uids.length = map.capacity.toNat
  data_length : map.data.length = map.capacity.toNat
  linked : Chain slot 0 map.uids map.next chain
  distinct : (chain.map slot).Nodup
  size_eq : map.size.toNat + chain.length = map.capacity.toNat
  free_iff : ∀ position < map.capacity.toNat,
    position ∈ chain.map slot ↔ slot (map.uids.getD position 0) ≠ position

/-- The ledger agrees with the slots in use, and the latest uid of every slot, which
a free slot finds in the chain, is the largest one. -/
structure Tracks (map : UniqueIndexMap T) (ledger : Ledger T) (chain : List UInt64) : Prop where
  issued_nodup : ledger.issued.Nodup
  live_nodup : (ledger.live.map Prod.fst).Nodup
  live_length : ledger.live.length = map.size.toNat
  live_iff : ∀ uid object, (uid, object) ∈ ledger.live ↔
    map.valid uid = true ∧ map.data.getD (slot uid) none = some object
  constructed : ∀ uid, map.valid uid = true → uid ∈ ledger.live.map Prod.fst
  latest : ∀ uid ∈ ledger.issued, ∃ last, (last ∈ chain ∨ map.valid last = true) ∧
    slot last = slot uid ∧ uid.toNat ≤ last.toNat

theorem valid_iff (map : UniqueIndexMap T) (uid : UInt64) : map.valid uid = true ↔
      slot uid < map.capacity.toNat ∧ map.uids.getD (slot uid) 0 = uid := by
  simp [valid, slot, UInt64.lt_iff_toNat_lt]

section Step

variable {map : UniqueIndexMap T} {ledger : Ledger T} {chain rest : List UInt64}
variable {entry : UInt64}

namespace FreeList

theorem valid_notMem (free : FreeList map chain) {uid : UInt64} (valid : map.valid uid = true) :
    slot uid ∉ chain.map slot := by
  obtain ⟨inside, stored⟩ := (map.valid_iff uid).mp valid
  rw [free.free_iff _ inside, stored]
  exact fun different => different rfl

/-- While there is room, the chain starts with `next`. -/
theorem nonempty (free : FreeList map chain) (room : map.size ≠ map.capacity) :
    ∃ rest, chain = map.next :: rest := by
  cases chain with
  | nil => exact absurd (UInt64.toNat_inj.mp free.size_eq) room
  | cons first rest => exact ⟨rest, by rw [free.linked.1]⟩

end FreeList

variable {uid : UInt64}

theorem Tracks.live_mem_iff (tracks : Tracks map ledger chain) :
    map.valid uid = true ↔ uid ∈ ledger.live.map Prod.fst := by
  constructor
  · exact tracks.constructed uid
  · intro isLive
    obtain ⟨pair, inLive, rfl⟩ := List.mem_map.mp isLive
    exact ((tracks.live_iff pair.1 pair.2).mp inLive).1

/-- The map after `emplace` has taken the first free slot. -/
def placed (map : UniqueIndexMap T) (object : T) : UniqueIndexMap T :=
  { map with
    next := map.uids.getD (slot map.next) 0
    uids := map.uids.set (slot map.next) (map.next + 0x100000000)
    data := map.data.set (slot map.next) (some object)
    size := map.size + 1 }

section

variable (free : FreeList map (map.next :: rest))
include free

theorem emplace_placed (object : T)
    (room : map.size ≠ map.capacity) (lasts : getVersion map.next ≠ 0xFFFFFFFF) :
    map.emplace object = (map.placed object, .ok (map.next + 0x100000000)) := by
  simp only [emplace, room, lasts, if_false, placed, getD_set free.linked.2.1, if_true]

theorem placed_valid (object : T) (lasts : getVersion map.next ≠ 0xFFFFFFFF) (uid : UInt64) :
    (map.placed object).valid uid = true ↔ uid = map.next + 0x100000000 ∨ map.valid uid = true := by
  have inside := free.linked.2.1
  rw [valid_iff]
  simp only [placed, getD_set inside]
  by_cases same : slot uid = slot map.next
  · have invalid : ¬map.valid uid = true :=
      fun valid => free.valid_notMem valid (same ▸ List.mem_cons_self ..)
    rw [if_pos same]
    constructor
    · exact fun ⟨_, stored⟩ => .inl stored.symm
    · rintro (rfl | valid)
      · exact ⟨by rw [slot_next lasts, ← free.uids_length]; exact inside, rfl⟩
      · exact absurd valid invalid
  · rw [if_neg same, valid_iff]
    constructor
    · exact .inr
    · rintro (rfl | valid)
      · exact absurd (slot_next lasts) same
      · exact valid

theorem freeList_placed (object : T)
    (lasts : getVersion map.next ≠ 0xFFFFFFFF) : FreeList (map.placed object) rest := by
  obtain ⟨-, inside, tail⟩ := free.linked
  have distinct := free.distinct
  rw [List.map_cons, List.nodup_cons] at distinct
  have sizeEq := free.size_eq
  rw [List.length_cons] at sizeEq
  have small := free.small
  refine ⟨small, ?_, ?_, tail.set distinct.1 inside _, distinct.2, ?_, ?_⟩
  · rw [placed, List.length_set, free.uids_length]
  · rw [placed, List.length_set, free.data_length]
  · have sizeNext : (map.size + 1).toNat = map.size.toNat + 1 := by
      rw [UInt64.toNat_add, UInt64.toNat_one]
      omega
    simp only [placed, sizeNext]
    omega
  · intro position positionInside
    have before := free.free_iff position positionInside
    simp only [placed, getD_set inside]
    by_cases same : position = slot map.next
    · rw [if_pos same, slot_next lasts, same]
      exact iff_of_false distinct.1 fun different => different rfl
    · rw [if_neg same, ← before, List.map_cons, List.mem_cons]
      simp [same]

theorem tracks_placed (tracks : Tracks map ledger (map.next :: rest)) (object : T)
    (lasts : getVersion map.next ≠ 0xFFFFFFFF) :
    Tracks (map.placed object)
      (ledger.record (.emplace object) (.ok (map.next + 0x100000000))) rest := by
  have validIff := placed_valid free object lasts
  have larger := next_toNat lasts
  have inside := free.linked.2.1
  have dataInside : slot map.next < map.data.length := by
    rwa [free.data_length, ← free.uids_length]
  have distinct := free.distinct
  rw [List.map_cons, List.nodup_cons] at distinct
  have notValid : ¬map.valid (map.next + 0x100000000) = true := by
    intro valid
    apply free.valid_notMem valid
    rw [slot_next lasts]
    exact List.mem_cons_self ..
  have notLive : map.next + 0x100000000 ∉ ledger.live.map Prod.fst := by
    rwa [← tracks.live_mem_iff]
  refine ⟨List.nodup_cons.mpr ⟨?_, tracks.issued_nodup⟩,
    List.nodup_cons.mpr ⟨notLive, tracks.live_nodup⟩, ?_, ?_, ?_, ?_⟩
  · intro issued
    obtain ⟨last, isLast, sameSlot, atMost⟩ := tracks.latest _ issued
    rw [slot_next lasts] at sameSlot
    cases isLast with
    | inl inChain =>
        cases List.mem_cons.mp inChain with
        | inl isNext =>
            rw [isNext] at atMost
            omega
        | inr inRest => exact distinct.1 (sameSlot ▸ List.mem_map_of_mem inRest)
    | inr valid => exact free.valid_notMem valid (sameSlot ▸ List.mem_cons_self ..)
  · have sizeEq := (freeList_placed free object lasts).size_eq
    have sizeBefore := free.size_eq
    have liveBefore := tracks.live_length
    simp only [Ledger.record, List.length_cons] at sizeBefore ⊢
    have sameCapacity : (map.placed object).capacity = map.capacity := rfl
    rw [sameCapacity] at sizeEq
    omega
  · intro uid held
    simp only [Ledger.record, List.mem_cons, Prod.mk.injEq, validIff, tracks.live_iff]
    simp only [placed, getD_set dataInside]
    by_cases isNew : uid = map.next + 0x100000000
    · subst isNew
      simp [slot_next lasts, notValid, eq_comm]
    · simp only [isNew, false_and, false_or]
      refine and_congr_right fun valid => ?_
      have otherSlot : slot uid ≠ slot map.next :=
        fun same => free.valid_notMem valid (same ▸ List.mem_cons_self ..)
      rw [if_neg otherSlot]
  · intro uid valid
    rw [Ledger.record, List.map_cons, List.mem_cons]
    exact ((validIff uid).mp valid).imp_right (tracks.constructed uid)
  · intro uid issued
    cases List.mem_cons.mp issued with
    | inl isNew => exact ⟨uid, .inr ((validIff uid).mpr (.inl isNew)), rfl, Nat.le_refl _⟩
    | inr before =>
        obtain ⟨last, isLast, sameSlot, atMost⟩ := tracks.latest uid before
        cases isLast with
        | inl inChain =>
            cases List.mem_cons.mp inChain with
            | inl isNext =>
                refine ⟨map.next + 0x100000000, .inr ((validIff _).mpr (.inl rfl)), ?_, ?_⟩
                · rw [slot_next lasts, ← isNext, sameSlot]
                · rw [isNext] at atMost
                  omega
            | inr inRest => exact ⟨last, .inl inRest, sameSlot, atMost⟩
        | inr valid => exact ⟨last, .inr ((validIff last).mpr (.inr valid)), sameSlot, atMost⟩

end

/-- The map after `erase` has put the slot of a valid uid in front of the chain. -/
def erased (map : UniqueIndexMap T) (uid : UInt64) : UniqueIndexMap T :=
  { map with
    uids := map.uids.set (slot uid) map.next
    next := uid
    size := map.size - 1
    data := map.data.set (slot uid) none }

theorem erase_erased (valid : map.valid uid = true) : map.erase uid = (map.erased uid, .ok ()) := by
  simp [erase, valid, erased]

theorem slot_next_ne (free : FreeList map chain) (valid : map.valid uid = true) :
    slot map.next ≠ slot uid := by
  intro same
  cases free.linked.start with
  | inl atEnd =>
      have inside := ((map.valid_iff uid).mp valid).1
      rw [atEnd, free.uids_length] at same
      omega
  | inr inChain => exact free.valid_notMem valid (same ▸ inChain)

theorem erased_valid (free : FreeList map chain) (valid : map.valid uid = true) (other : UInt64) :
    (map.erased uid).valid other = true ↔ map.valid other = true ∧ other ≠ uid := by
  obtain ⟨inside, stored⟩ := (map.valid_iff uid).mp valid
  rw [← free.uids_length] at inside
  rw [valid_iff, valid_iff]
  simp only [erased, getD_set inside]
  by_cases same : slot other = slot uid
  · rw [if_pos same]
    refine iff_of_false ?_ ?_
    · rintro ⟨-, rfl⟩
      exact slot_next_ne free valid same
    · rintro ⟨⟨-, storedOther⟩, different⟩
      rw [same, stored] at storedOther
      exact different storedOther.symm
  · rw [if_neg same]
    have different : other ≠ uid := fun equal => same (congrArg slot equal)
    simp [different]

theorem freeList_erased (free : FreeList map chain)
    (valid : map.valid uid = true) (stocked : 0 < map.size.toNat) :
    FreeList (map.erased uid) (uid :: chain) := by
  obtain ⟨inside, stored⟩ := (map.valid_iff uid).mp valid
  have notFree := free.valid_notMem valid
  rw [← free.uids_length] at inside
  refine ⟨free.small, ?_, ?_, free.linked.cons notFree inside,
    List.nodup_cons.mpr ⟨notFree, free.distinct⟩, ?_, ?_⟩
  · rw [erased, List.length_set, free.uids_length]
  · rw [erased, List.length_set, free.data_length]
  · have sizeEq := free.size_eq
    have sizeBefore : (map.size - 1).toNat = map.size.toNat - 1 := by
      rw [UInt64.toNat_sub_of_le _ _ (by rwa [UInt64.le_iff_toNat_le, UInt64.toNat_one]),
        UInt64.toNat_one]
    simp only [erased, sizeBefore, List.length_cons]
    omega
  · intro position positionInside
    have before := free.free_iff position positionInside
    simp only [erased, getD_set inside]
    by_cases same : position = slot uid
    · rw [if_pos same, same]
      exact iff_of_true (List.mem_cons_self ..) (slot_next_ne free valid)
    · rw [if_neg same, ← before, List.map_cons, List.mem_cons]
      simp [same]

theorem length_filter_key {live : List (UInt64 × T)} (nodup : (live.map Prod.fst).Nodup)
    (member : uid ∈ live.map Prod.fst) :
    (live.filter fun pair => pair.1 ≠ uid).length + 1 = live.length := by
  induction live with
  | nil => cases member
  | cons pair rest ih =>
      rw [List.map_cons, List.nodup_cons] at nodup
      by_cases isKey : pair.1 = uid
      · have others : (rest.filter fun pair => pair.1 ≠ uid) = rest := by
          rw [List.filter_eq_self]
          intro other inRest
          rw [decide_eq_true_eq]
          rintro rfl
          exact nodup.1 (isKey ▸ List.mem_map_of_mem inRest)
        rw [List.filter_cons_of_neg (by simp [isKey]), others, List.length_cons]
      · have inRest : uid ∈ rest.map Prod.fst :=
          (List.mem_cons.mp member).resolve_left (Ne.symm isKey)
        rw [List.filter_cons_of_pos (by simp [isKey]), List.length_cons, List.length_cons,
          ih nodup.2 inRest]

theorem tracks_erased (free : FreeList map chain) (tracks : Tracks map ledger chain)
    (valid : map.valid uid = true) :
    Tracks (map.erased uid) (ledger.record (.erase uid) (.ok uid)) (uid :: chain) := by
  have validIff := erased_valid free valid
  have isLive := tracks.constructed uid valid
  have shorter := length_filter_key tracks.live_nodup isLive
  have liveBefore := tracks.live_length
  have inside := ((map.valid_iff uid).mp valid).1
  rw [← free.data_length] at inside
  refine ⟨tracks.issued_nodup, ?_, ?_, ?_, ?_, ?_⟩
  · exact tracks.live_nodup.sublist (List.filter_sublist.map _)
  · have sizeBefore : (map.size - 1).toNat = map.size.toNat - 1 := by
      rw [UInt64.toNat_sub_of_le, UInt64.toNat_one]
      rw [UInt64.le_iff_toNat_le, UInt64.toNat_one]
      omega
    simp only [Ledger.record, erased, sizeBefore]
    omega
  · intro other held
    simp only [Ledger.record, List.mem_filter, decide_eq_true_eq, validIff, tracks.live_iff]
    simp only [erased, getD_set inside]
    by_cases isErased : other = uid
    · simp [isErased]
    · by_cases validOther : map.valid other = true
      · have otherSlot : slot other ≠ slot uid := by
          intro same
          have storedOther := ((map.valid_iff other).mp validOther).2
          rw [same, ((map.valid_iff uid).mp valid).2] at storedOther
          exact isErased storedOther.symm
        rw [if_neg otherSlot]
        simp [isErased]
      · simp [validOther]
  · intro other validOther
    obtain ⟨validOther, different⟩ := (validIff other).mp validOther
    obtain ⟨pair, inLive, rfl⟩ := List.mem_map.mp (tracks.constructed other validOther)
    exact List.mem_map_of_mem (List.mem_filter.mpr ⟨inLive, by simpa using different⟩)
  · intro other issued
    obtain ⟨last, isLast, sameSlot, atMost⟩ := tracks.latest other issued
    refine ⟨last, ?_, sameSlot, atMost⟩
    cases isLast with
    | inl inChain => exact .inl (List.mem_cons_of_mem _ inChain)
    | inr validLast =>
        by_cases isErased : last = uid
        · exact .inl (isErased ▸ List.mem_cons_self ..)
        · exact .inr ((validIff last).mpr ⟨validLast, isErased⟩)

/-- A slot that passes the test of `find` stores its own uid: the link in a free slot
leads to another free slot, or past the array. -/
theorem slot_stored (free : FreeList map chain) {position : Nat}
    (inside : position < map.capacity.toNat)
    (valid : map.valid (map.uids.getD position 0) = true) :
    slot (map.uids.getD position 0) = position := by
  by_contra different
  obtain ⟨entry, inChain, rfl⟩ := List.mem_map.mp ((free.free_iff position inside).mpr different)
  cases free.linked.after inChain with
  | inl atEnd =>
      have linkInside := ((map.valid_iff _).mp valid).1
      rw [atEnd, free.uids_length] at linkInside
      exact Nat.lt_irrefl _ linkInside
  | inr isFree => exact free.valid_notMem valid isFree

end Step

/-! ## Runs -/

/-- The map and its ledger agree through some chain of free slots. -/
def Inv (state : UniqueIndexMap T × Ledger T) : Prop :=
  ∃ chain, FreeList state.1 chain ∧ Tracks state.1 state.2 chain

theorem chain_init {capacity : Nat} (small : capacity < 2 ^ 32) (count : Nat) {first : Nat}
    (total : first + count = capacity) :
    Chain slot 0 ((List.range capacity).map fun i => UInt64.ofNat (i + 1)) (UInt64.ofNat first)
      ((List.range' first count).map UInt64.ofNat) := by
  induction count generalizing first with
  | zero =>
      rw [Nat.add_zero] at total
      simp only [List.range'_zero, List.map_nil, Chain, List.length_map, List.length_range]
      rw [slot_ofNat (by omega), total]
  | succ count ih =>
      have slotEq : slot (UInt64.ofNat first) = first := slot_ofNat (by omega)
      have stored : ((List.range capacity).map fun i => UInt64.ofNat (i + 1)).getD first 0 =
          UInt64.ofNat (first + 1) := by
        rw [List.getD_eq_getElem _ _ (by simp; omega)]
        simp
      refine ⟨rfl, ?_, ?_⟩
      · rw [slotEq, List.length_map, List.length_range]
        omega
      · rw [slotEq, stored]
        exact ih (by omega)

variable {map : UniqueIndexMap T} {ledger : Ledger T}

theorem inv_init {maxCapacity : UInt64} (small : maxCapacity.toNat < 2 ^ 32) {allocated : Bool}
    (initialized : init maxCapacity allocated = (map, .ok ())) :
    Inv (map, ⟨[], []⟩) := by
  unfold init at initialized
  split at initialized
  · cases initialized
  split at initialized
  · cases initialized
  cases initialized
  have slots : ((List.range' 0 maxCapacity.toNat).map UInt64.ofNat).map slot =
      List.range maxCapacity.toNat := by
    rw [List.map_map, List.range_eq_range']
    refine (List.map_congr_left fun position member => ?_).trans (List.map_id _)
    have := (List.mem_range'_1.mp member).2
    exact slot_ofNat (by omega)
  have free : FreeList (T := T) ⟨(List.range maxCapacity.toNat).map fun i => UInt64.ofNat (i + 1),
        List.replicate maxCapacity.toNat none, maxCapacity, 0, 0⟩
      ((List.range' 0 maxCapacity.toNat).map UInt64.ofNat) := by
    refine ⟨small, by simp, by simp, chain_init small _ (Nat.zero_add _), ?_, by simp, ?_⟩
    · rw [slots]
      exact List.nodup_range
    · intro position inside
      replace inside : position < maxCapacity.toNat := inside
      have stored : ((List.range maxCapacity.toNat).map fun i => UInt64.ofNat (i + 1)).getD
          position 0 = UInt64.ofNat (position + 1) := by
        rw [List.getD_eq_getElem _ _ (by simpa using inside)]
        simp
      rw [slots, List.mem_range, stored, slot_ofNat (by omega)]
      exact iff_of_true inside (Nat.succ_ne_self position)
  refine ⟨_, free, List.nodup_nil, List.nodup_nil, rfl, fun uid object => ?_, fun uid valid => ?_,
    fun uid issued => by cases issued⟩
  · have raw : (List.replicate maxCapacity.toNat (none : Option T)).getD (slot uid) none =
        none := by
      rw [List.getD_eq_getElem?_getD, List.getElem?_getD_replicate_default_eq]
    simp only [raw, List.not_mem_nil, reduceCtorEq, and_false]
  · refine absurd ?_ (free.valid_notMem valid)
    rw [slots, List.mem_range]
    exact ((valid_iff _ uid).mp valid).1

theorem record_erase_absent {uid : UInt64}
    (absent : uid ∉ ledger.live.map Prod.fst) (answer : Except UniqueIndexMapError UInt64) :
    ledger.record (.erase uid) answer = ledger := by
  have kept : (ledger.live.filter fun pair => pair.1 ≠ uid) = ledger.live := by
    rw [List.filter_eq_self]
    intro pair isLive
    rw [decide_eq_true_eq]
    rintro rfl
    exact absent (List.mem_map_of_mem isLive)
  simp only [Ledger.record, kept]

theorem inv_step (state : UniqueIndexMap T × Ledger T) (op : Op T) (inv : Inv state) :
    Inv ((system.recorded Ledger.record).step state op).1 := by
  obtain ⟨map, ledger⟩ := state
  obtain ⟨chain, free, tracks⟩ := inv
  cases op with
  | emplace object =>
      by_cases full : map.size = map.capacity
      · have refused : map.emplace object = (map, .error .kOutOfMemory) := by
          simp [emplace, full]
        simp only [System.recorded, system, refused]
        exact ⟨chain, free, tracks⟩
      by_cases exhausted : getVersion map.next = 0xFFFFFFFF
      · have refused : map.emplace object = (map, .error .kContainerFull) := by
          simp [emplace, full, exhausted]
        simp only [System.recorded, system, refused]
        exact ⟨chain, free, tracks⟩
      obtain ⟨rest, rfl⟩ := free.nonempty full
      simp only [System.recorded, system, emplace_placed free object full exhausted]
      exact ⟨rest, freeList_placed free object exhausted,
        tracks_placed free tracks object exhausted⟩
  | erase uid =>
      by_cases valid : map.valid uid = true
      · have stocked : 0 < map.size.toNat := by
          rw [← tracks.live_length]
          exact List.length_pos_of_mem (List.mem_map.mp
            (tracks.constructed uid valid)).choose_spec.1
        simp only [System.recorded, system, erase_erased valid]
        exact ⟨uid :: chain, freeList_erased free valid stocked, tracks_erased free tracks valid⟩
      · have refused : map.erase uid = (map, .error .kNotFound) := by simp [erase, valid]
        have absent : uid ∉ ledger.live.map Prod.fst := by
          rwa [← tracks.live_mem_iff]
        simp only [System.recorded, system, refused, record_erase_absent absent]
        exact ⟨chain, free, tracks⟩

/-- What a map shows to its callers, in terms of its history. -/
structure Correct [BEq T] (map : UniqueIndexMap T) (ledger : Ledger T) : Prop where
  issued_distinct : ledger.issued.Nodup
  valid_iff : ∀ uid, map.valid uid = true ↔ uid ∈ ledger.live.map Prod.fst
  tryGet_ok_iff : ∀ uid held, map.tryGet uid = .ok held ↔
    ∃ object, held = some object ∧ (uid, object) ∈ ledger.live
  find_ok : ∀ object uid, map.find object = .ok uid →
    ∃ held, (uid, held) ∈ ledger.live ∧ (held == object) = true
  find_error_iff : ∀ object, (∀ uid, map.find object ≠ .ok uid) ↔
    ∀ pair ∈ ledger.live, ¬(pair.2 == object) = true
  size_eq : map.size.toNat = ledger.live.length
  free_chain : ∃ chain, Chain slot 0 map.uids map.next chain ∧ (chain.map slot).Nodup ∧
    chain.length = map.capacity.toNat - map.size.toNat ∧
    ∀ position, position ∈ chain.map slot ↔
      position < map.capacity.toNat ∧ ∀ uid ∈ ledger.live.map Prod.fst, slot uid ≠ position

theorem Inv.correct [BEq T] (inv : Inv (map, ledger)) : Correct map ledger := by
  obtain ⟨chain, free, tracks⟩ := inv
  replace free : FreeList map chain := free
  replace tracks : Tracks map ledger chain := tracks
  have foundLive : ∀ object position, position < map.capacity.toNat →
      map.valid (map.uids.getD position 0) = true →
      ((map.data.getD position none).any (· == object)) = true →
      ∃ held, (map.uids.getD position 0, held) ∈ ledger.live ∧ (held == object) = true := by
    intro object position inside valid equal
    obtain ⟨held, stored, same⟩ := (Option.any_eq_true _ _).mp equal
    refine ⟨held, (tracks.live_iff _ held).mpr ⟨valid, ?_⟩, same⟩
    rw [slot_stored free inside valid]
    exact stored
  refine ⟨tracks.issued_nodup, fun uid => tracks.live_mem_iff, ?_, ?_, ?_,
    tracks.live_length.symm, chain, free.linked, free.distinct, ?_, ?_⟩
  · intro uid held
    cases valid : map.valid uid with
    | false => simp [tryGet, valid, tracks.live_iff]
    | true =>
        obtain ⟨pair, inLive, rfl⟩ := List.mem_map.mp (tracks.constructed uid valid)
        have stored := ((tracks.live_iff pair.1 pair.2).mp inLive).2
        simp only [tryGet, valid, tracks.live_iff, stored]
        simp [eq_comm]
  · intro object uid found
    simp only [find] at found
    split at found
    next position isFirst =>
      cases found
      have passes := List.find?_some isFirst
      have inside := List.mem_range.mp (List.mem_of_find?_eq_some isFirst)
      rw [Bool.and_eq_true] at passes
      exact foundLive object position inside passes.1 passes.2
    next => cases found
  · intro object
    simp only [find]
    split
    next position isFirst =>
      have passes := List.find?_some isFirst
      have inside := List.mem_range.mp (List.mem_of_find?_eq_some isFirst)
      rw [Bool.and_eq_true] at passes
      obtain ⟨held, inLive, equal⟩ := foundLive object position inside passes.1 passes.2
      exact iff_of_false (fun missing => missing _ rfl) (fun missing => missing _ inLive equal)
    next isNone =>
      refine iff_of_true (fun uid => by simp) fun pair inLive equal => ?_
      obtain ⟨valid, stored⟩ := (tracks.live_iff pair.1 pair.2).mp inLive
      obtain ⟨inside, own⟩ := (map.valid_iff pair.1).mp valid
      have fails := List.find?_eq_none.mp isNone (slot pair.1) (List.mem_range.mpr inside)
      rw [own, valid, stored] at fails
      exact fails (by simpa using equal)
  · have := free.size_eq
    omega
  · intro position
    constructor
    · intro isFree
      obtain ⟨entry, inChain, rfl⟩ := List.mem_map.mp isFree
      refine ⟨by rw [← free.uids_length]; exact free.linked.inside inChain, ?_⟩
      intro uid isLive same
      rw [← tracks.live_mem_iff] at isLive
      exact free.valid_notMem isLive (same ▸ isFree)
    · rintro ⟨inside, unused⟩
      rw [free.free_iff position inside]
      intro own
      refine unused (map.uids.getD position 0) ?_ own
      rw [← tracks.live_mem_iff, valid_iff, own]
      exact ⟨inside, rfl⟩

/-- Through every history of an initialized map of fewer than `2^32` slots, its uids
are distinct, its queries see exactly the live objects, and its free slots form one
chain. -/
theorem run_objects_correct [BEq T] {maxCapacity : UInt64} (small : maxCapacity.toNat < 2 ^ 32)
    {allocated : Bool} {map : UniqueIndexMap T}
    (initialized : init maxCapacity allocated = (map, .ok ())) (ops : List (Op T)) :
    let state := (system.recorded Ledger.record).run (map, ⟨[], []⟩) ops
    Correct state.1 state.2 :=
  Inv.correct (System.invariant_run_of_forall inv_step (inv_init small initialized) ops)

/-- The second object gets the slot of the first one, under an id of its own. -/
theorem run_objects_correct_reuse : ∃ map : UniqueIndexMap Char, init 2 true = (map, .ok ()) ∧
      let ops : List (Op Char) :=
        [.emplace 'a', .erase 0x100000000, .emplace 'b', .erase 0x100000000]
      let state := (system.recorded Ledger.record).run (map, ⟨[], []⟩) ops
      system.outputs map ops =
          [.ok 0x100000000, .ok 0x100000000, .ok 0x200000000, .error .kNotFound] ∧
        Correct state.1 state.2 := by
  have initialized : init 2 true =
      ((⟨[1, 2], [none, none], 2, 0, 0⟩ : UniqueIndexMap Char), .ok ()) := by rfl
  exact ⟨_, initialized, by decide, run_objects_correct (by decide) initialized _⟩

end UniqueIndexMap

end Gxf.Common
