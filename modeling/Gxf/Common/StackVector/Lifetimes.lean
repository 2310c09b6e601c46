import Mathlib.Data.List.Nodup
import Gxf.Common.StackVector.Vector

/-!
# Lifetimes of the objects in stack vectors

What constructions keep and what they lose, and which calls of a program leave exactly the slots
below the sizes constructed.
-/

namespace Gxf.Common.StackVector

open Gxf.Lib Function Memory

variable {ι T : Type*}

/-- Exactly the slots below the sizes hold objects.  No object was lost, and no other slot used. -/
structure Intact (N : ι → Nat) (memory : Memory ι T) (sizes : ι → Nat) : Prop where
  exact : ∀ name index, (memory.slots (name, index)).isSome = true ↔ index < sizes name
  within : ∀ name, sizes name ≤ N name
  undestroyed : memory.undestroyed = 0
  rawAccesses : memory.rawAccesses = 0

/-- The same once a vector has another size. -/
def Leaves [DecidableEq ι] (N : ι → Nat) (sizes : ι → Nat) (target : ι)
    (vector : Memory ι T × Nat) : Prop :=
  Intact N vector.1 (update sizes target vector.2)

/-! ## Arrays -/

namespace Memory

/-- Lost objects and accesses to slots without an object. -/
def faults (memory : Memory ι T) : Nat := memory.undestroyed + memory.rawAccesses

/-- Objects stay where they are, and faults are not forgotten. -/
structure Keeps (before after : Memory ι T) : Prop where
  objects : ∀ slot, (before.slots slot).isSome = true → (after.slots slot).isSome = true
  faults : before.faults ≤ after.faults

variable {N : ι → Nat} {left : T → T} {memory middle after : Memory ι T} {dst src slot : ι × Nat}
  {object : T} {count : Nat}

theorem Keeps.refl (memory : Memory ι T) : Keeps memory memory :=
  ⟨fun _ isObject => isObject, Nat.le_refl _⟩

theorem Keeps.trans (first : Keeps memory middle) (second : Keeps middle after) :
    Keeps memory after :=
  ⟨fun slot isObject => second.objects slot (first.objects slot isObject),
    Nat.le_trans first.faults second.faults⟩

theorem faults_rawAccess (memory : Memory ι T) : memory.rawAccess.faults = memory.faults + 1 := rfl

theorem rawAccess_keeps (memory : Memory ι T) : Keeps memory memory.rawAccess :=
  ⟨fun _ isObject => isObject, by rw [faults_rawAccess]; exact Nat.le_succ _⟩

variable [DecidableEq ι]

theorem faults_inplaceConstruct : (inplaceConstruct N memory dst object).faults = memory.faults +
      if (memory.slots dst).isSome ∨ ¬dst.2 < N dst.1 then 1 else 0 := by
  rw [inplaceConstruct]
  by_cases inside : dst.2 < N dst.1
  · simp only [inside, not_true_eq_false, or_false, if_true, faults]
    omega
  · rw [if_neg inside, if_pos (.inr inside), faults_rawAccess]

theorem inplaceConstruct_keeps : Keeps memory (inplaceConstruct N memory dst object) := by
  refine ⟨fun slot isObject => ?_, by rw [faults_inplaceConstruct]; exact Nat.le_add_right ..⟩
  rw [inplaceConstruct]
  split
  next =>
    dsimp only
    by_cases isHere : slot = dst
    · rw [isHere, update_self]
      rfl
    · rwa [update_of_ne isHere]
  next => exact isObject

theorem update_left_isSome (left : T → T) (slot : ι × Nat)
    (isObject : memory.slots src = some object) :
    (update memory.slots src (some (left object)) slot).isSome =
      (memory.slots slot).isSome := by
  by_cases isHere : slot = src
  · rw [isHere, update_self, isObject]
    rfl
  · rw [update_of_ne isHere]

theorem inplaceConstructFrom_keeps : Keeps memory (inplaceConstructFrom N left memory dst src) := by
  rw [inplaceConstructFrom]
  split
  next => exact memory.rawAccess_keeps
  next object isObject =>
    have stays : Keeps memory
        { memory with slots := update memory.slots src (some (left object)) } :=
      ⟨fun slot keeps => (update_left_isSome left slot isObject).trans keeps, Nat.le_refl _⟩
    exact stays.trans inplaceConstruct_keeps

theorem inplaceConstructFrom_fault
    (fault : (memory.slots dst).isSome = true ∨ memory.slots src = none) :
    memory.faults < (inplaceConstructFrom N left memory dst src).faults := by
  unfold inplaceConstructFrom
  split
  next =>
    rw [faults_rawAccess]
    exact Nat.lt_succ_self _
  next object isObject =>
    rcases fault with isOver | isRaw
    · rw [faults_inplaceConstruct, if_pos (.inl (by rwa [update_left_isSome left _ isObject]))]
      exact Nat.lt_succ_self _
    · rw [isRaw] at isObject
      cases isObject

theorem inplaceConstructFrom_fresh (left : T → T) (inside : dst.2 < N dst.1)
    (isFree : memory.slots dst = none)
    (isObject : (memory.slots src).isSome = true) :
    let after := inplaceConstructFrom N left memory dst src
    (after.undestroyed = memory.undestroyed ∧ after.rawAccesses = memory.rawAccesses) ∧
      ∀ slot, (after.slots slot).isSome = true ↔
        (memory.slots slot).isSome = true ∨ slot = dst := by
  obtain ⟨object, isObject⟩ := Option.isSome_iff_exists.mp isObject
  have sameFree := update_left_isSome left dst isObject
  rw [isFree, Option.isSome_none] at sameFree
  simp only [inplaceConstructFrom, isObject, inplaceConstruct, if_pos inside, sameFree,
    Bool.false_eq_true, if_false, Nat.add_zero]
  refine ⟨⟨trivial, trivial⟩, fun slot => ?_⟩
  by_cases isHere : slot = dst
  · rw [isHere, update_self]
    exact iff_of_true rfl (.inr rfl)
  · rw [update_of_ne isHere, update_left_isSome left _ isObject, or_iff_left isHere]

theorem inplaceConstructFrom_none (elsewhere : slot ≠ dst) (isFree : memory.slots slot = none) :
    (inplaceConstructFrom N left memory dst src).slots slot = none := by
  unfold inplaceConstructFrom
  split
  next => exact isFree
  next object isObject =>
    have stillFree := update_left_isSome left slot isObject
    rw [isFree, Option.isSome_none, Option.isSome_eq_false_iff, Option.isNone_iff_eq_none]
      at stillFree
    rw [inplaceConstruct]
    split
    next =>
      dsimp only
      rwa [update_of_ne elsewhere]
    next => exact stillFree

/-- The objects of an array, in the order in which they are constructed. -/
def constructAll (N : ι → Nat) (left : T → T) (dst src : ι × Nat) (order : List Nat)
    (memory : Memory ι T) : Memory ι T :=
  order.foldl (fun memory index =>
    inplaceConstructFrom N left memory (dst.1, dst.2 + index) (src.1, src.2 + index)) memory

section Order

variable {order : List Nat} {index : Nat}

theorem constructAll_keeps : Keeps memory (constructAll N left dst src order memory) := by
  induction order generalizing memory with
  | nil => exact Keeps.refl memory
  | cons index order ih => exact inplaceConstructFrom_keeps.trans ih

theorem constructAll_fault (member : index ∈ order)
    (fault : (memory.slots (dst.1, dst.2 + index)).isSome = true ∨
      dst.1 ≠ src.1 ∧ memory.slots (src.1, src.2 + index) = none) :
    memory.faults < (constructAll N left dst src order memory).faults := by
  induction order generalizing memory with
  | nil => cases member
  | cons first order ih =>
      rcases List.mem_cons.mp member with rfl | later
      · refine Nat.lt_of_lt_of_le (inplaceConstructFrom_fault ?_) constructAll_keeps.faults
        exact fault.imp_right And.right
      · refine Nat.lt_of_le_of_lt (inplaceConstructFrom_keeps (N := N)).faults (ih later ?_)
        refine fault.imp (inplaceConstructFrom_keeps.objects _) fun ⟨apart, isRaw⟩ => ⟨apart, ?_⟩
        exact inplaceConstructFrom_none (fun same => apart (congrArg Prod.fst same).symm) isRaw

theorem constructAll_fresh (nodup : order.Nodup)
    (free : ∀ index ∈ order, dst.2 + index < N dst.1 ∧ memory.slots (dst.1, dst.2 + index) = none)
    (objects : ∀ index ∈ order, (memory.slots (src.1, src.2 + index)).isSome = true) :
    let after := constructAll N left dst src order memory
    (after.undestroyed = memory.undestroyed ∧ after.rawAccesses = memory.rawAccesses) ∧
      ∀ slot, (after.slots slot).isSome = true ↔
        (memory.slots slot).isSome = true ∨ ∃ index ∈ order, slot = (dst.1, dst.2 + index) := by
  induction order generalizing memory with
  | nil => simp [constructAll]
  | cons first order ih =>
      obtain ⟨isNew, nodup⟩ := List.nodup_cons.mp nodup
      obtain ⟨⟨inside, isFree⟩, freeLater⟩ := List.forall_mem_cons.mp free
      obtain ⟨isObject, objectsLater⟩ := List.forall_mem_cons.mp objects
      have apart : ∀ index ∈ order, (dst.1, dst.2 + index) ≠ (dst.1, dst.2 + first) := by
        intro index member same
        rw [Prod.mk.injEq] at same
        exact isNew (Nat.add_left_cancel same.2 ▸ member)
      obtain ⟨⟨sameUndestroyed, sameRaw⟩, now⟩ :=
        inplaceConstructFrom_fresh left inside isFree isObject
      obtain ⟨⟨laterUndestroyed, laterRaw⟩, later⟩ := ih nodup
        (fun index member => ⟨(freeLater index member).1,
          inplaceConstructFrom_none (apart index member) (freeLater index member).2⟩)
        (fun index member => inplaceConstructFrom_keeps.objects _ (objectsLater index member))
      refine ⟨⟨laterUndestroyed.trans sameUndestroyed, laterRaw.trans sameRaw⟩, fun slot => ?_⟩
      rw [constructAll, List.foldl_cons, ← constructAll, later slot, now slot]
      simp only [List.mem_cons, exists_eq_or_imp, or_assoc]

end Order

theorem arrayConstructFrom_eq (N : ι → Nat) (left : T → T) (memory : Memory ι T)
    (dst src : ι × Nat) (count : Nat) :
    ∃ order : List Nat, arrayConstructFrom N left memory dst src count =
        constructAll N left dst src order memory ∧ order.Nodup ∧
      (∀ index, index ∈ order ↔ index < count) ∧
      (dst.1 = src.1 → src.2 < dst.2 → dst.2 < src.2 + count →
        ∃ rest, order = (count - 1) :: rest) := by
  refine ⟨_, rfl, ?_, fun index => ?_, fun same above below => ?_⟩
  · refine List.Nodup.map_on (fun first isFirst second isSecond equal => ?_) List.nodup_range
    rw [List.mem_range] at isFirst isSecond
    split at equal <;> omega
  · simp only [List.mem_map, List.mem_range]
    constructor
    · rintro ⟨other, isOther, rfl⟩
      split <;> omega
    · intro isIndex
      split
      next => exact ⟨count - 1 - index, by omega, by omega⟩
      next => exact ⟨index, isIndex, rfl⟩
  · obtain ⟨less, rfl⟩ : ∃ less, count = less + 1 := ⟨count - 1, by omega⟩
    rw [List.range_succ_eq_map, List.map_cons, if_pos ⟨same, above, below⟩]
    exact ⟨_, rfl⟩

theorem arrayConstructFrom_keeps :
    Keeps memory (arrayConstructFrom N left memory dst src count) := by
  obtain ⟨order, isOrder, -⟩ := arrayConstructFrom_eq N left memory dst src count
  rw [isOrder]
  exact constructAll_keeps

theorem arrayConstructFrom_over (positive : 0 < count)
    (isObject : (memory.slots dst).isSome = true) :
    memory.faults < (arrayConstructFrom N left memory dst src count).faults := by
  obtain ⟨order, isOrder, -, mem, -⟩ := arrayConstructFrom_eq N left memory dst src count
  rw [isOrder]
  exact constructAll_fault ((mem 0).mpr positive) (.inl isObject)

theorem arrayConstructFrom_raw (positive : 0 < count)
    (isRaw : memory.slots (src.1, src.2 + (count - 1)) = none)
    (overlap : dst.1 = src.1 → src.2 < dst.2 ∧ dst.2 < src.2 + count) :
    memory.faults < (arrayConstructFrom N left memory dst src count).faults := by
  obtain ⟨order, isOrder, -, mem, isReverse⟩ := arrayConstructFrom_eq N left memory dst src count
  rw [isOrder]
  by_cases same : dst.1 = src.1
  · -- the last slot comes first
    obtain ⟨rest, rfl⟩ := isReverse same (overlap same).1 (overlap same).2
    exact Nat.lt_of_lt_of_le (inplaceConstructFrom_fault (.inr isRaw)) constructAll_keeps.faults
  · exact constructAll_fault ((mem (count - 1)).mpr (by omega)) (.inr ⟨same, isRaw⟩)

theorem arrayConstructFrom_fresh
    (free : ∀ index < count, dst.2 + index < N dst.1 ∧ memory.slots (dst.1, dst.2 + index) = none)
    (objects : ∀ index < count, (memory.slots (src.1, src.2 + index)).isSome = true) :
    let after := arrayConstructFrom N left memory dst src count
    (after.undestroyed = memory.undestroyed ∧ after.rawAccesses = memory.rawAccesses) ∧
      ∀ slot, (after.slots slot).isSome = true ↔ (memory.slots slot).isSome = true ∨
        ∃ index < count, slot = (dst.1, dst.2 + index) := by
  obtain ⟨order, isOrder, nodup, mem, -⟩ := arrayConstructFrom_eq N left memory dst src count
  obtain ⟨same, now⟩ := @constructAll_fresh _ _ N left memory dst src _ order nodup
    (fun index member => free index ((mem index).mp member))
    (fun index member => objects index ((mem index).mp member))
  rw [isOrder]
  refine ⟨same, fun slot => ?_⟩
  rw [now slot]
  simp only [mem]

end Memory

/-! ## Element operations -/

namespace Intact

variable {N : ι → Nat} {movedFrom left : T → T} {memory : Memory ι T} {sizes : ι → Nat}
  {target source : ι} {index size count : Nat} {object : T}

theorem faults_eq (intact : Intact N memory sizes) : memory.faults = 0 := by
  rw [faults, intact.undestroyed, intact.rawAccesses]

theorem not_of_faults (fault : 0 < memory.faults) : ¬Intact N memory sizes := by
  intro intact
  rw [intact.faults_eq] at fault
  exact Nat.lt_irrefl 0 fault

theorem holds (intact : Intact N memory sizes) (below : index < sizes target) :
    (memory.slots (target, index)).isSome = true :=
  (intact.exact target index).mpr below

theorem read (intact : Intact N memory sizes) (below : index < sizes target) :
    memory.read (target, index) = memory :=
  if_pos (intact.holds below)

theorem free (intact : Intact N memory sizes) (above : sizes target ≤ index) :
    memory.slots (target, index) = none := by
  rw [← Option.not_isSome_iff_eq_none, intact.exact target index]
  exact Nat.not_lt.mpr above

variable [DecidableEq ι]

section

variable (intact : Intact N memory sizes)
include intact

theorem refused : Leaves N sizes target (memory, sizes target) := by
  rwa [Leaves, update_eq_self]

theorem resized {after : Memory ι T} (room : size ≤ N target)
    (exact : ∀ slot, (after.slots slot).isSome = true ↔
      if slot.1 = target then slot.2 < size else (memory.slots slot).isSome = true)
    (undestroyed : after.undestroyed = memory.undestroyed)
    (rawAccesses : after.rawAccesses = memory.rawAccesses) :
    Intact N after (update sizes target size) := by
  refine ⟨fun name index => ?_, fun name => ?_, undestroyed.trans intact.undestroyed,
    rawAccesses.trans intact.rawAccesses⟩
  · rw [exact]
    by_cases isHere : name = target
    · rw [isHere, update_self, if_pos rfl]
    · rw [update_of_ne isHere, if_neg isHere, intact.exact]
  · by_cases isHere : name = target
    · rwa [isHere, update_self]
    · rw [update_of_ne isHere]
      exact intact.within name

theorem construct (room : sizes target < N target) :
    Intact N (memory.inplaceConstruct N (target, sizes target) object)
      (update sizes target (sizes target + 1)) := by
  have isFree := intact.free (Nat.le_refl (sizes target))
  rw [Memory.inplaceConstruct, if_pos room, isFree]
  apply intact.resized room
  · rintro ⟨name, index⟩
    dsimp only
    by_cases isHere : name = target
    · rw [if_pos isHere, isHere]
      by_cases isLast : index = sizes target
      · rw [isLast, update_self]
        exact iff_of_true rfl (Nat.lt_succ_self _)
      · rw [update_of_ne fun same => isLast (congrArg Prod.snd same), intact.exact]
        omega
    · rw [if_neg isHere, update_of_ne fun same => isHere (congrArg Prod.fst same)]
  · rfl
  · rfl

theorem destruct (isLast : index + 1 = sizes target) :
    Intact N (memory.destruct (target, index)) (update sizes target index) := by
  have within := intact.within target
  rw [Memory.destruct, if_pos (intact.holds (by omega))]
  apply intact.resized (by omega)
  · rintro ⟨name, other⟩
    dsimp only
    by_cases isHere : name = target
    · rw [if_pos isHere, isHere]
      by_cases isLast : other = index
      · rw [isLast, update_self]
        exact iff_of_false Bool.false_ne_true (Nat.lt_irrefl _)
      · rw [update_of_ne fun same => isLast (congrArg Prod.snd same), intact.exact]
        omega
    · rw [if_neg isHere, update_of_ne fun same => isHere (congrArg Prod.fst same)]
  · rfl
  · rfl

end

variable (movedFrom)

theorem emplace_iff (intact : Intact N memory sizes) (index : Nat) (object : T) :
    Leaves N sizes target (emplace N movedFrom target memory (sizes target) index object).1 ↔
      (index < sizes target → sizes target = N target) := by
  have within := intact.within target
  rw [emplace]
  split
  next beyond => exact iff_of_true intact.refused fun below => by omega
  split
  next isFull => exact iff_of_true intact.refused fun _ => isFull
  next notBeyond notFull =>
    by_cases below : index < sizes target
    · -- the object that was moved away is still there
      refine iff_of_false (not_of_faults ?_) fun careful => notFull (careful below)
      have kept : ((memory.arrayMoveConstruct N movedFrom (target, index + 1) (target, index)
          (sizes target - index)).slots (target, index)).isSome = true :=
        arrayConstructFrom_keeps.objects _ (intact.holds below)
      simp only [if_pos below, faults_inplaceConstruct, if_pos (Or.inl kept)]
      exact Nat.succ_pos _
    · have isEnd : index = sizes target := by omega
      simp only [if_neg below]
      rw [isEnd]
      exact iff_of_true (intact.construct (by omega)) fun never => absurd never (Nat.lt_irrefl _)

theorem erase_iff (intact : Intact N memory sizes) (index : Nat) :
    Leaves N sizes target (erase N movedFrom target memory (sizes target) index).1 ↔
      (index < sizes target → index + 1 = sizes target) := by
  rw [erase]
  split
  next beyond => exact iff_of_true intact.refused fun below => absurd below (Nat.not_lt.mpr beyond)
  next inside =>
  rw [if_neg (by omega)]
  by_cases isLast : index + 1 = sizes target
  · have isSize : sizes target - 1 = index := by omega
    simp only [isSize, Nat.lt_irrefl, if_false]
    exact iff_of_true (intact.destruct isLast) fun _ => isLast
  · -- the object at the end was moved away, and is still there
    refine iff_of_false (fun after => ?_) fun careful => isLast (careful (by omega))
    have kept : ((memory.destruct (target, index)).slots (target, sizes target - 1)).isSome =
        true := by
      rw [Memory.destruct, if_pos (intact.holds (by omega))]
      dsimp only
      rw [update_of_ne fun same => by rw [Prod.mk.injEq] at same; omega]
      exact intact.holds (by omega)
    have below : index < sizes target - 1 := by omega
    simp only [Leaves, if_pos below] at after
    have isBelow := (after.exact target (sizes target - 1)).mp
      (arrayConstructFrom_keeps.objects _ kept)
    rw [update_self] at isBelow
    exact Nat.lt_irrefl _ isBelow

theorem popBack (intact : Intact N memory sizes) :
    Leaves N sizes target (popBack N movedFrom target memory (sizes target)).1 := by
  rw [StackVector.popBack]
  refine (intact.erase_iff movedFrom _).mpr fun below => ?_
  split at below <;> split <;> omega

omit movedFrom in
theorem clear (intact : Intact N memory sizes) (isSize : sizes target = size) :
    Leaves N sizes target (clear target memory size, 0) := by
  induction size generalizing memory sizes with
  | zero =>
      rw [StackVector.clear, ← isSize]
      exact intact.refused
  | succ size ih =>
      have destroyed := intact.destruct isSize.symm
      have cleared := ih destroyed (update_self ..)
      rwa [Leaves, update_idem] at cleared

end Intact

namespace Leaves

variable [DecidableEq ι] {N : ι → Nat} {sizes : ι → Nat} {target : ι} {vector : Memory ι T × Nat}

theorem next (leaves : Leaves N sizes target vector)
    (operation : Memory ι T → Nat → Memory ι T × Nat)
    (keeps : ∀ {memory : Memory ι T} {sizes : ι → Nat}, Intact N memory sizes →
      Leaves N sizes target (operation memory (sizes target))) :
    Leaves N sizes target (operation vector.1 vector.2) := by
  have later := keeps leaves
  rwa [Leaves, update_self, update_idem] at later

theorem growTo (leaves : Leaves N sizes target vector) (movedFrom : T → T) (count : Nat)
    (object : T) (fuel : Nat) :
    Leaves N sizes target (growTo N movedFrom target count object fuel vector) := by
  induction fuel generalizing vector with
  | zero => exact leaves
  | succ fuel ih =>
      rw [StackVector.growTo]
      split
      next =>
        apply ih
        apply leaves.next fun memory size => (pushBack N movedFrom target memory size object).1
        intro memory sizes intact
        exact (intact.emplace_iff movedFrom _ object).mpr fun never =>
          absurd never (Nat.lt_irrefl _)
      next => exact leaves

theorem shrinkTo (leaves : Leaves N sizes target vector) (movedFrom : T → T) (count fuel : Nat) :
    Leaves N sizes target (shrinkTo N movedFrom target count fuel vector) := by
  induction fuel generalizing vector with
  | zero => exact leaves
  | succ fuel ih =>
      rw [StackVector.shrinkTo]
      split
      next =>
        apply ih
        apply leaves.next fun memory size => (popBack N movedFrom target memory size).1
        exact fun intact => intact.popBack movedFrom
      next => exact leaves

end Leaves

namespace Intact

variable [DecidableEq ι] {N : ι → Nat} {memory : Memory ι T} {sizes : ι → Nat} {target source : ι}

theorem resize (intact : Intact N memory sizes) (movedFrom : T → T) (count : Nat) (object : T) :
    Leaves N sizes target (resize N movedFrom target memory (sizes target) count object).1 := by
  rw [StackVector.resize]
  split
  next => exact intact.refused
  next => exact (intact.refused.growTo movedFrom count object count).shrinkTo movedFrom count _

theorem array (intact : Intact N memory sizes) (left : T → T) {start count : Nat}
    (room : sizes target + count ≤ N target) (inside : start + count ≤ sizes source) :
    Leaves N sizes target (memory.arrayConstructFrom N left (target, sizes target) (source, start)
      count, sizes target + count) := by
  obtain ⟨⟨undestroyed, rawAccesses⟩, objects⟩ :=
    @Memory.arrayConstructFrom_fresh _ _ N left memory (target, sizes target) (source, start) count
    _
      (fun index below => ⟨Nat.lt_of_lt_of_le (Nat.add_lt_add_left below _) room,
        intact.free (Nat.le_add_right ..)⟩)
      (fun index below => intact.holds (by dsimp only; omega))
  refine intact.resized room ?_ undestroyed rawAccesses
  rintro ⟨name, index⟩
  rw [objects]
  dsimp only
  by_cases isHere : name = target
  · rw [if_pos isHere, isHere, intact.exact]
    simp only [Prod.mk.injEq, true_and]
    constructor
    · rintro (below | ⟨other, below, rfl⟩) <;> omega
    · intro below
      by_cases isOld : index < sizes target
      · exact .inl isOld
      · exact .inr ⟨index - sizes target, by omega, by omega⟩
  · rw [if_neg isHere, or_iff_left]
    rintro ⟨other, -, same⟩
    exact isHere (congrArg Prod.fst same)

theorem insertRange_iff (intact : Intact N memory sizes) (pos start count : Nat) :
    Leaves N sizes target
        (insertRange N target memory (sizes target) pos source (sizes source) start count).1 ↔
      (pos ≤ sizes target → pos + count ≤ N target → start < sizes source → 0 < count →
        pos = sizes target ∧ start + count ≤ sizes source) := by
  rw [insertRange]
  split
  next invalid => exact iff_of_true intact.refused fun _ _ => by omega
  next valid =>
  split
  next isPlace =>
    by_cases nothing : count = 0
    · rw [nothing]
      exact iff_of_true intact.refused fun _ _ _ never => absurd never (Nat.lt_irrefl _)
    by_cases careful : pos = sizes target ∧ start + count ≤ sizes source
    · obtain ⟨rfl, inside⟩ := careful
      exact iff_of_true (intact.array id (by omega) inside) fun _ _ _ _ => ⟨rfl, inside⟩
    · refine iff_of_false (not_of_faults ?_) fun holds =>
        careful (holds (by omega) (by omega) isPlace (by omega))
      refine Nat.lt_of_le_of_lt (Nat.zero_le memory.faults) ?_
      by_cases isInner : pos < sizes target
      · exact arrayConstructFrom_over (by omega) (intact.holds isInner)
      · refine arrayConstructFrom_raw (by omega) (intact.free (by dsimp only; omega)) ?_
        intro same
        dsimp only at same ⊢
        subst same
        omega
  next beyond => exact iff_of_true intact.refused fun _ _ isPlace => absurd isPlace beyond

omit [DecidableEq ι] in
theorem equalsLoop [DecidableEq T] (intact : Intact N memory sizes) {count index : Nat}
    (inside : index + count ≤ sizes target) (insideOther : index + count ≤ sizes source) :
    equalsLoop target source count index memory = memory := by
  induction count generalizing index with
  | zero => rfl
  | succ count ih =>
      rw [StackVector.equalsLoop, intact.read (by omega), intact.read (by omega)]
      split
      next => rfl
      next => exact ih (by omega) (by omega)

theorem equals [DecidableEq T] (intact : Intact N memory sizes) :
    equals target memory (sizes target) source (sizes source) = memory := by
  rw [StackVector.equals]
  split
  next => rfl
  next sameSize =>
    split
    next => rfl
    next => exact intact.equalsLoop (by omega) (by omega)

end Intact

/-! ## Programs -/

namespace Vectors

variable [DecidableEq ι] {N : ι → Nat} {movedFrom : T → T} {vectors : Vectors ι T}
  {memory : Memory ι T} {target source : ι}

/-- In every vector exactly the slots below its size hold objects, every object was destroyed before
its slot was used again or given up, and only objects were read, moved or destroyed. -/
def Exact (N : ι → Nat) (vectors : Vectors ι T) : Prop := Intact N vectors.memory vectors.sizeOf

/-- An operation that constructs only behind the last object, destroys only the last object, and
leaves no object behind that was moved away. -/
def CarefulElement (N : ι → Nat) (vectors : Vectors ι T) (target : ι) : Element ι T → Prop
  | .emplace index _ => index < vectors.sizeOf target → vectors.sizeOf target = N target
  | .insertRange pos source start count =>
      pos ≤ vectors.sizeOf target → pos + count ≤ N target → start < vectors.sizeOf source →
        0 < count → pos = vectors.sizeOf target ∧ start + count ≤ vectors.sizeOf source
  | .erase index => index < vectors.sizeOf target → index + 1 = vectors.sizeOf target
  | _ => True

/-- A call that constructs only in empty vectors, moves only those, and is careful with elements. -/
def Careful (N : ι → Nat) (vectors : Vectors ι T) (op : Op ι T) : Prop :=
  vectors.expressible N op.target op.call = true →
    match op.call with
    | .moveConstruct source => vectors.sizeOf source = 0
    | .copyAssign source => op.target = source ∨ vectors.sizeOf op.target = 0
    | .moveAssign source =>
        op.target = source ∨ vectors.sizeOf op.target = 0 ∧ vectors.sizeOf source = 0
    | .element element => vectors.CarefulElement N op.target element
    | _ => True

theorem sizeOf_resized (size : Nat) : (vectors.resized memory target (some size)).sizeOf =
      update vectors.sizeOf target size := by
  funext name
  rw [sizeOf, resized]
  dsimp only
  by_cases isHere : name = target
  · rw [isHere, update_self, update_self]
    rfl
  · rw [update_of_ne isHere, update_of_ne isHere]
    rfl

theorem exact_resized (size : Nat) : (vectors.resized memory target (some size)).Exact N ↔
      Leaves N vectors.sizeOf target (memory, size) := by
  rw [Exact, sizeOf_resized]
  rfl

section

variable (isExact : vectors.Exact N)
include isExact

theorem Exact.copyAssign_iff (sameType : N target = N source) :
    (vectors.copyAssign N target source).Exact N ↔ target = source ∨ vectors.sizeOf target = 0 := by
  rw [copyAssign]
  split
  next isSelf => exact iff_of_true isExact (.inl isSelf)
  next notSelf =>
    rw [exact_resized, or_iff_right notSelf]
    by_cases isEmpty : vectors.sizeOf target = 0
    · refine iff_of_true ?_ isEmpty
      have within := isExact.within source
      have filled : Leaves N vectors.sizeOf target (vectors.memory.arrayConstructFrom N id
          (target, vectors.sizeOf target) (source, 0) (vectors.sizeOf source),
            vectors.sizeOf target + vectors.sizeOf source) :=
        Intact.array isExact id (by omega) (by omega)
      rwa [isEmpty, Nat.zero_add] at filled
    · refine iff_of_false (fun after => ?_) isEmpty
      have first := isExact.holds (by omega : 0 < vectors.sizeOf target)
      by_cases nothing : vectors.sizeOf source = 0
      · -- the objects of the target stay, and its size forgets them
        rw [nothing] at after
        have isBelow := (after.exact target 0).mp first
        rw [update_self] at isBelow
        exact Nat.lt_irrefl _ isBelow
      · refine Intact.not_of_faults ?_ after
        exact Nat.lt_of_le_of_lt (Nat.zero_le _) (arrayConstructFrom_over (by omega) first)

theorem Exact.moveAssign_iff (movedFrom : T → T) :
    (vectors.moveAssign N movedFrom target source).Exact N ↔
      target = source ∨ vectors.sizeOf target = 0 ∧ vectors.sizeOf source = 0 := by
  rw [moveAssign]
  split
  next isSelf => exact iff_of_true isExact (.inl isSelf)
  next notSelf =>
    rw [or_iff_right notSelf, exact_resized, sizeOf_resized, Leaves]
    dsimp only
    have kept := @Memory.arrayConstructFrom_keeps _ _ N movedFrom vectors.memory (target, 0)
      (source, 0) (vectors.sizeOf source) _
    by_cases isEmpty : vectors.sizeOf target = 0
    · rw [and_iff_right isEmpty]
      by_cases nothing : vectors.sizeOf source = 0
      · refine iff_of_true ?_ nothing
        have same : update (update vectors.sizeOf target 0) source 0 =
            vectors.sizeOf := by
          rw [← isEmpty, update_eq_self, isEmpty, ← nothing, update_eq_self]
        rw [isEmpty, nothing, same]
        exact isExact
      · -- the objects of the source stay, and its size forgets them
        refine iff_of_false (fun after => ?_) nothing
        have first := isExact.holds (by omega : 0 < vectors.sizeOf source)
        have isBelow := (after.exact source 0).mp (kept.objects _ first)
        rw [update_self, isEmpty] at isBelow
        exact Nat.lt_irrefl _ isBelow
    · refine iff_of_false (fun after => ?_) fun both => isEmpty both.1
      have first := isExact.holds (by omega : 0 < vectors.sizeOf target)
      by_cases nothing : vectors.sizeOf source = 0
      · have isBelow := (after.exact target 0).mp (kept.objects _ first)
        rw [update_of_ne notSelf, update_self, nothing] at isBelow
        exact Nat.lt_irrefl _ isBelow
      · refine Intact.not_of_faults ?_ after
        exact Nat.lt_of_le_of_lt (Nat.zero_le _) (arrayConstructFrom_over (by omega) first)

theorem Exact.create (isNew : vectors.holds target = false) :
    (vectors.resized vectors.memory target (some 0)).Exact N ∧ vectors.sizeOf target = 0 ∧
      (vectors.resized vectors.memory target (some 0)).sizeOf = vectors.sizeOf := by
  have isEmpty : vectors.sizeOf target = 0 := by
    rw [holds, Option.isSome_eq_false_iff, Option.isNone_iff_eq_none] at isNew
    rw [sizeOf, isNew]
    rfl
  have sameSizes : (vectors.resized vectors.memory target (some 0)).sizeOf = vectors.sizeOf := by
    rw [sizeOf_resized, ← isEmpty, update_eq_self]
  exact ⟨by rw [Exact, sameSizes]; exact isExact, isEmpty, sameSizes⟩

theorem Exact.destroy :
    (vectors.resized ((clear target vectors.memory (vectors.sizeOf target)).release N target)
      target none).Exact N := by
  have cleared : Leaves N vectors.sizeOf target
      (clear target vectors.memory (vectors.sizeOf target), 0) := isExact.clear rfl
  have noSize : (vectors.resized ((clear target vectors.memory (vectors.sizeOf target)).release N
      target) target none).sizeOf = update vectors.sizeOf target 0 := by
    funext name
    rw [sizeOf, resized]
    dsimp only
    by_cases isHere : name = target
    · rw [isHere, update_self, update_self]
      rfl
    · rw [update_of_ne isHere, update_of_ne isHere]
      rfl
  have isFree : ∀ index,
      ((clear target vectors.memory (vectors.sizeOf target)).slots (target, index)).isSome =
      false :=
    fun index => by
      rw [cleared.free (by rw [update_self]; exact Nat.zero_le _)]
      rfl
  rw [Exact, noSize]
  refine ⟨fun name index => ?_, cleared.within, ?_, cleared.rawAccesses⟩
  · rw [← cleared.exact name index]
    simp only [resized, release]
    by_cases isHere : name = target
    · rw [if_pos isHere, isHere, isFree]
      rfl
    · rw [if_neg isHere]
  · simp only [resized, release, isFree]
    rw [cleared.undestroyed, List.countP_eq_zero.mpr]
    exact fun _ _ never => by cases never

theorem Exact.element_iff [DecidableEq T] (movedFrom : T → T) (element : Element ι T) :
    Leaves N vectors.sizeOf target (vectors.elementAnswer N movedFrom target element).1 ↔
      vectors.CarefulElement N target element := by
  cases element with
  | «at» index =>
      refine iff_of_true ?_ trivial
      rw [elementAnswer]
      split
      next => exact Intact.refused isExact
      next below =>
        rw [Intact.read isExact (Nat.lt_of_not_le below)]
        exact Intact.refused isExact
  | equals other =>
      refine iff_of_true ?_ trivial
      rw [elementAnswer, Intact.equals isExact]
      exact Intact.refused isExact
  | emplace index object => exact isExact.emplace_iff movedFrom index object
  | insertRange pos source start count => exact isExact.insertRange_iff pos start count
  | erase index => exact isExact.erase_iff movedFrom index
  | popBack => exact iff_of_true (isExact.popBack movedFrom) trivial
  | clear => exact iff_of_true (isExact.clear rfl) trivial
  | resize count object => exact iff_of_true (isExact.resize movedFrom count object) trivial

theorem Exact.step_iff [DecidableEq T] (movedFrom : T → T) (op : Op ι T) :
    ((system N movedFrom).step vectors op).1.Exact N ↔ vectors.Careful N op := by
  obtain ⟨target, call⟩ := op
  rw [system]
  dsimp only
  by_cases isCall : vectors.expressible N target call = true
  · rw [if_pos isCall, Careful]
    simp only [isCall, true_imp_iff]
    cases call with
    | create =>
        rw [expressible, Bool.not_eq_true'] at isCall
        exact iff_of_true (isExact.create isCall).1 trivial
    | copyConstruct source =>
        simp only [expressible, Bool.and_eq_true, Bool.not_eq_true', decide_eq_true_eq] at isCall
        obtain ⟨⟨isNew, -⟩, sameType⟩ := isCall
        obtain ⟨created, isEmpty, sameSizes⟩ := isExact.create isNew
        refine iff_of_true ((created.copyAssign_iff sameType).mpr (.inr ?_)) trivial
        rw [sameSizes, isEmpty]
    | moveConstruct source =>
        simp only [expressible, Bool.and_eq_true, Bool.not_eq_true', decide_eq_true_eq] at isCall
        obtain ⟨⟨isNew, isOld⟩, sameType⟩ := isCall
        obtain ⟨created, isEmpty, sameSizes⟩ := isExact.create isNew
        rw [answer, created.moveAssign_iff movedFrom, sameSizes, and_iff_right isEmpty,
          or_iff_right]
        rintro rfl
        rw [isNew] at isOld
        cases isOld
    | copyAssign source =>
        simp only [expressible, Bool.and_eq_true, decide_eq_true_eq] at isCall
        exact isExact.copyAssign_iff isCall.2
    | moveAssign source => exact isExact.moveAssign_iff movedFrom
    | element element =>
        rw [answer]
        dsimp only
        rw [exact_resized]
        exact isExact.element_iff movedFrom element
    | destroy => exact iff_of_true isExact.destroy trivial
  · rw [if_neg isCall]
    exact iff_of_true isExact fun isExpressible => absurd isExpressible isCall

end

omit [DecidableEq ι] in
theorem initial_exact (N : ι → Nat) : (initial : Vectors ι T).Exact N :=
  ⟨fun _ _ => iff_of_false Bool.false_ne_true (Nat.not_lt_zero _), fun _ => Nat.zero_le _, rfl, rfl⟩

/-- For vectors of any capacities, objects of any type and every program: the vectors are exact
after every call if and only if every call is careful. -/
theorem run_exact_iff [DecidableEq T] (N : ι → Nat) (movedFrom : T → T) (ops : List (Op ι T)) :
    (system N movedFrom).Along
        (fun vectors op => ((system N movedFrom).step vectors op).1.Exact N) initial ops ↔
      (system N movedFrom).Along (Careful N) initial ops :=
  System.along_iff_guarded (fun _ op isExact careful => (isExact.step_iff movedFrom op).mpr careful)
    (fun _ op isExact => isExact.step_iff movedFrom op) (initial_exact N) ops

/-- A vector with one object is assigned the contents of an empty one, which then claims to hold one
object and destroys it, while the other object is forgotten. -/
theorem move_assign_exchanges_sizes :
    let ops : List (Op Bool Nat) :=
      [⟨false, .create⟩, ⟨true, .create⟩, ⟨true, .element (.emplace 0 7)⟩,
        ⟨true, .moveAssign false⟩]
    let vectors := (system (fun _ => 2) id).run initial ops
    let after := ((system (fun _ => 2) id).step vectors ⟨false, .destroy⟩).1
    vectors.sizeOf false = 1 ∧ vectors.memory.slots (false, 0) = none ∧
      vectors.sizeOf true = 0 ∧ vectors.memory.slots (true, 0) = some 7 ∧
      after.memory.rawAccesses = 1 ∧
      ¬(system (fun _ => 2) id).Along
        (fun vectors op => ((system (fun _ => 2) id).step vectors op).1.Exact fun _ => 2)
        initial ops := by
  intro ops vectors after
  refine ⟨by decide, by decide, by decide, by decide, by decide, fun along => ?_⟩
  have isExact : vectors.Exact fun _ => 2 := along.2.2.2.1
  exact absurd ((isExact.exact false 0).mpr (by decide)) (by decide)

end Vectors

end Gxf.Common.StackVector
