import Mathlib
import Gxf.Lib.InverseTables
import Gxf.Lib.Run
import Gxf.Std.EntityWarden.Warden

/-!
# The names of entities

The names are kept in two maps under a lock of their own, apart from the entities.  To
create an entity takes a section for the check of the name, one for the maps of the names
and one for the entities, and to destroy it takes two.  Threads interleave these sections.
-/

namespace Gxf.Std

open Gxf.Core Gxf.Lib EntityWarden

/-- Where a thread is in `GxfCreateEntity` or in `destroy`. -/
inductive NamingPhase where
  | idle
  /-- No entity has the name. -/
  | checked (entityName : Option String)
  /-- The entity has an id and a name, which are not stored yet. -/
  | named (eid : Uid) (entityName : String)
  /-- The name is stored, the entity not yet. -/
  | adding (eid : Uid)
  /-- The entity is taken out of the store, its name is still there. -/
  | removing (eid : Uid)
  deriving DecidableEq

def NamingPhase.entity : NamingPhase → Option Uid
  | .idle => none
  | .checked _ => none
  | .named eid _ => some eid
  | .adding eid => some eid
  | .removing eid => some eid

/-- The entity whose name is stored for the call. -/
def NamingPhase.holds : NamingPhase → Option Uid
  | .adding eid => some eid
  | .removing eid => some eid
  | _ => none

/-- The name starts with a double underscore. -/
def isReserved (entityName : String) : Bool := ['_', '_'].isPrefixOf entityName.toList

/-- The name of an entity that is given none. -/
def automaticName (eid : Uid) : String := "__entity_" ++ toString eid

def entityNameOf (eid : Uid) (entityName : Option String) : String :=
  match entityName with
  | none => automaticName eid
  | some given => if given = "" then automaticName eid else given

/-- The warden and the counter of ids under threads.  `given` records the names entities are
created with. -/
structure Naming (Thread : Type) where
  warden : EntityWarden
  nextId : Uid
  phase : Thread → NamingPhase
  given : Uid → Option String

/-- A thread begins a call, or runs the next section of its call. -/
inductive NamingOp (Thread : Type) where
  | createEntity (thread : Thread) (entityName : Option String)
  | destroy (thread : Thread) (eid : Uid)
  | proceed (thread : Thread)

namespace Naming

variable {Thread : Type} [DecidableEq Thread]

/-- A thread goes on to another phase, with another warden. -/
def go (naming : Naming Thread) (thread : Thread) (phase : NamingPhase)
    (warden : EntityWarden) : Naming Thread :=
  { naming with warden, phase := Function.update naming.phase thread phase }

/-- `getNextId()`, and the name if it is allowed. -/
def takeId (naming : Naming Thread) (thread : Thread) (entityName : Option String) :
    Naming Thread :=
  let eid := naming.nextId
  let counted := { naming with nextId := eid + 1 }
  if (entityName.map isReserved).getD false then counted.go thread .idle naming.warden
  else
    let name := entityNameOf eid entityName
    { counted.go thread (.named eid name) naming.warden with
      given := Function.update naming.given eid (some name) }

/-- One section.  A thread in the middle of a call begins no other. -/
def step (naming : Naming Thread) : NamingOp Thread → Naming Thread
  | .createEntity thread entityName =>
      if naming.phase thread ≠ .idle then naming
      else
        match entityName.map naming.warden.find with
        | some (.ok _) => naming
        | _ => naming.go thread (.checked entityName) naming.warden
  | .destroy thread eid =>
      if naming.phase thread ≠ .idle then naming
      else
        match naming.warden.entities.lookup eid with
        | none => naming
        | some item => naming.go thread (.removing eid) (naming.warden.takeEntity eid item)
  | .proceed thread =>
      match naming.phase thread with
      | .idle => naming
      | .checked entityName => naming.takeId thread entityName
      | .named eid entityName =>
          naming.go thread (.adding eid) (naming.warden.addName eid entityName)
      | .adding eid =>
          naming.go thread .idle (naming.warden.addEntity eid
            (EntityItem.create eid naming.warden.defaultEntityGroupId))
      | .removing eid => naming.go thread .idle (naming.warden.removeName eid)

def sections (Thread : Type) [DecidableEq Thread] :
    System (Naming Thread) (NamingOp Thread) Unit where
  step naming op := (naming.step op, ())

/-- A new context, in which no thread is in a call. -/
def initial (Thread : Type) (gid nextId : Uid) : Naming Thread :=
  ⟨fresh gid, nextId, fun _ => .idle, fun _ => none⟩

/-- No thread is in a call. -/
def Quiescent (naming : Naming Thread) : Prop := ∀ thread, naming.phase thread = .idle

/-- The names are unique and found: the two maps are inverse over the live entities, and a
name finds the entity that was created with it. -/
structure Resolvable (naming : Naming Thread) : Prop where
  inverse : Inverse naming.warden.eidToName naming.warden.nameToEid
  live : ∀ eid, eid ∈ naming.warden.eidToName ↔ eid ∈ naming.warden.entities
  found : ∀ entityName eid, naming.warden.find entityName = .ok eid ↔
    eid ∈ naming.warden.entities ∧ naming.given eid = some entityName

/-- What a section promises: the names are resolvable if no thread is in a call after it,
and a name that is removed is the one of the destroyed entity. -/
structure KeepsNames (naming : Naming Thread) (op : NamingOp Thread) : Prop where
  resolvable : (naming.step op).Quiescent → (naming.step op).Resolvable
  kept : ∀ thread eid, op = .proceed thread → naming.phase thread = .removing eid →
    ∀ other ≠ eid, ∀ entityName, naming.warden.nameToEid.lookup entityName = some other →
      (naming.step op).warden.nameToEid.lookup entityName = some other

/-- A name that was given is still free when it is stored. -/
def StoresFree (naming : Naming Thread) : NamingOp Thread → Prop
  | .proceed thread => ∀ eid entityName, naming.phase thread = .named eid entityName →
      isReserved entityName = false → entityName ∉ naming.warden.nameToEid
  | _ => True

theorem isReserved_automaticName (eid : Uid) : isReserved (automaticName eid) = true := by
  rw [isReserved, automaticName, String.toList_append]
  rfl

variable {other : Uid}

theorem automaticName_injective {eid : Uid} (same : automaticName eid = automaticName other) :
    eid = other :=
  Int.repr_injective (String.append_right_inj _ |>.mp same)

theorem entityNameOf_spec (eid : Uid) {entityName : Option String}
    (allowed : (entityName.map isReserved).getD false = false) :
    entityNameOf eid entityName ≠ "" ∧ (isReserved (entityNameOf eid entityName) = true →
        entityNameOf eid entityName = automaticName eid) := by
  have nonempty : automaticName eid ≠ "" := by
    intro isEmpty
    have reserved := isReserved_automaticName eid
    rw [isEmpty] at reserved
    exact absurd reserved (by decide)
  cases entityName with
  | none => exact ⟨nonempty, fun _ => rfl⟩
  | some given =>
      rw [entityNameOf]
      split
      next => exact ⟨nonempty, fun _ => rfl⟩
      next notEmpty =>
        refine ⟨notEmpty, fun reserved => ?_⟩
        rw [Option.map_some, Option.getD_some, reserved] at allowed
        cases allowed

/-- Every entity is live or in one call, and has its name stored from one section to
another. -/
structure Named (naming : Naming Thread) : Prop where
  inverse : Inverse naming.warden.eidToName naming.warden.nameToEid
  owned : ∀ eid, eid ∈ naming.warden.eidToName ↔
    eid ∈ naming.warden.entities ∨ ∃ thread, (naming.phase thread).holds = some eid
  alone : ∀ thread, ∀ eid ∈ (naming.phase thread).entity,
    eid ∉ naming.warden.entities ∧ eid < naming.nextId
  once : ∀ thread other, ∀ eid ∈ (naming.phase thread).entity,
    eid ∈ (naming.phase other).entity → thread = other
  known : ∀ eid ∈ naming.warden.entities, eid < naming.nextId
  stored : ∀ eid entityName, naming.warden.eidToName.lookup eid = some entityName →
    naming.given eid = some entityName
  pending : ∀ thread eid entityName, naming.phase thread = .named eid entityName →
    naming.given eid = some entityName
  names : ∀ eid entityName, naming.given eid = some entityName → entityName ≠ "" ∧
    (isReserved entityName = true → entityName = automaticName eid)

variable {naming : Naming Thread} {thread : Thread} {eid : Uid} {entityName : String}

variable {phase : NamingPhase} {item : EntityItem}

theorem NamingPhase.entity_of_holds (holds : phase.holds = some eid) : phase.entity = some eid := by
  cases phase with
  | adding | removing => exact holds
  | _ => cases holds

theorem NamingPhase.holds_none (noEntity : phase.entity = none) : phase.holds = none := by
  cases holds : phase.holds with
  | none => rfl
  | some eid =>
      rw [NamingPhase.entity_of_holds holds] at noEntity
      cases noEntity

theorem phase_go_self (naming : Naming Thread) (thread : Thread) (phase : NamingPhase)
    (warden : EntityWarden) : (naming.go thread phase warden).phase thread = phase :=
  Function.update_self ..

theorem phase_go_ne {other : Thread} (different : other ≠ thread) (phase : NamingPhase)
    (warden : EntityWarden) : (naming.go thread phase warden).phase other = naming.phase other :=
  Function.update_of_ne different ..

omit [DecidableEq Thread] in
theorem Named.name_of_live (named : Named naming) (live : eid ∈ naming.warden.entities) :
    ∃ entityName, naming.warden.eidToName.lookup eid = some entityName :=
  Option.isSome_iff_exists.mp (AList.lookup_isSome.mpr ((named.owned eid).mpr (.inl live)))

omit [DecidableEq Thread] in
theorem Named.find_iff (named : Named naming) (entityName : String) (eid : Uid) :
    naming.warden.find entityName = .ok eid ↔
      naming.warden.nameToEid.lookup entityName = some eid := by
  rw [find]
  split
  next isEmpty =>
    refine iff_of_false nofun fun found => ?_
    have given := named.stored eid entityName ((named.inverse eid entityName).mpr found)
    exact (named.names eid entityName given).1 isEmpty
  next =>
    split
    next missing => exact iff_of_false nofun (by rw [missing]; nofun)
    next other found =>
      rw [found]
      constructor
      · rintro ⟨⟩
        rfl
      · rintro ⟨⟩
        rfl

omit [DecidableEq Thread] in
theorem Named.resolvable (named : Named naming) (quiescent : naming.Quiescent) :
    naming.Resolvable := by
  have live (eid : Uid) : eid ∈ naming.warden.eidToName ↔ eid ∈ naming.warden.entities := by
    rw [named.owned eid]
    apply or_iff_left
    rintro ⟨thread, holds⟩
    rw [quiescent thread] at holds
    cases holds
  refine ⟨named.inverse, live, fun entityName eid => ?_⟩
  rw [named.find_iff, ← named.inverse eid entityName]
  constructor
  · intro isStored
    have member : eid ∈ naming.warden.eidToName :=
      AList.lookup_isSome.mp (by rw [isStored, Option.isSome_some])
    exact ⟨(live eid).mp member, named.stored eid entityName isStored⟩
  · rintro ⟨isLive, given⟩
    obtain ⟨other, isStored⟩ := named.name_of_live isLive
    have same := (named.stored eid other isStored).symm.trans given
    rw [isStored, Option.some.inj same]

/-! ## Each section -/

theorem Named.owned_iff (named : Named naming) (thread : Thread) (eid : Uid) :
    eid ∈ naming.warden.eidToName ↔ eid ∈ naming.warden.entities ∨
      (naming.phase thread).holds = some eid ∨
        ∃ other ≠ thread, (naming.phase other).holds = some eid := by
  rw [named.owned eid]
  apply or_congr_right
  constructor
  · rintro ⟨other, holds⟩
    by_cases same : other = thread
    · exact .inl (same ▸ holds)
    · exact .inr ⟨other, same, holds⟩
  · rintro (holds | ⟨other, -, holds⟩)
    · exact ⟨thread, holds⟩
    · exact ⟨other, holds⟩

theorem Named.go (named : Named naming) {warden : EntityWarden}
    (own : ∀ eid ∈ phase.entity, eid ∉ warden.entities ∧ eid < naming.nextId ∧
      ∀ other ≠ thread, eid ∉ (naming.phase other).entity)
    (entities : ∀ eid ∈ warden.entities,
      eid ∈ naming.warden.entities ∨ eid ∈ (naming.phase thread).entity)
    (inverse : Inverse warden.eidToName warden.nameToEid)
    (owned : ∀ eid, eid ∈ warden.eidToName ↔ eid ∈ warden.entities ∨ phase.holds = some eid ∨
      ∃ other ≠ thread, (naming.phase other).holds = some eid)
    (stored : ∀ eid entityName, warden.eidToName.lookup eid = some entityName →
      naming.given eid = some entityName)
    (pending : ∀ eid entityName, phase = .named eid entityName →
      naming.given eid = some entityName) : Named (naming.go thread phase warden) := by
  constructor
  · exact inverse
  · intro eid
    refine (owned eid).trans (or_congr_right ?_)
    constructor
    · rintro (holds | ⟨other, different, holds⟩)
      · exact ⟨thread, (congrArg NamingPhase.holds (phase_go_self ..)).trans holds⟩
      · exact ⟨other, (congrArg NamingPhase.holds (phase_go_ne different ..)).trans holds⟩
    · rintro ⟨other, holds⟩
      by_cases same : other = thread
      · rw [same, phase_go_self] at holds
        exact .inl holds
      · rw [phase_go_ne same] at holds
        exact .inr ⟨other, same, holds⟩
  · intro other eid member
    by_cases same : other = thread
    · rw [same, phase_go_self] at member
      exact ⟨(own eid member).1, (own eid member).2.1⟩
    · rw [phase_go_ne same] at member
      refine ⟨fun isLive => ?_, (named.alone other eid member).2⟩
      cases entities eid isLive with
      | inl before => exact (named.alone other eid member).1 before
      | inr mine => exact same (named.once other thread eid member mine)
  · intro first second eid inFirst inSecond
    by_cases isFirst : first = thread
    · by_cases isSecond : second = thread
      · rw [isFirst, isSecond]
      · rw [isFirst, phase_go_self] at inFirst
        rw [phase_go_ne isSecond] at inSecond
        exact absurd inSecond ((own eid inFirst).2.2 second isSecond)
    · rw [phase_go_ne isFirst] at inFirst
      by_cases isSecond : second = thread
      · rw [isSecond, phase_go_self] at inSecond
        exact absurd inFirst ((own eid inSecond).2.2 first isFirst)
      · rw [phase_go_ne isSecond] at inSecond
        exact named.once first second eid inFirst inSecond
  · intro eid isLive
    cases entities eid isLive with
    | inl before => exact named.known eid before
    | inr mine => exact (named.alone thread eid mine).2
  · exact stored
  · intro other eid entityName isNamed
    by_cases same : other = thread
    · rw [same, phase_go_self] at isNamed
      exact pending eid entityName isNamed
    · rw [phase_go_ne same] at isNamed
      exact named.pending other eid entityName isNamed
  · exact named.names

theorem Named.goIdle (named : Named naming)
    (before : (naming.phase thread).entity = none) (after : phase.entity = none) :
    Named (naming.go thread phase naming.warden) := by
  apply named.go
  · rw [after]
    nofun
  · exact fun eid isLive => .inl isLive
  · exact named.inverse
  · intro eid
    rw [named.owned_iff thread, NamingPhase.holds_none before, NamingPhase.holds_none after]
  · exact named.stored
  · rintro eid entityName rfl
    cases after

omit [DecidableEq Thread] in
/-- Ids are counted. -/
theorem Named.later (named : Named naming) {next : Uid} (later : naming.nextId ≤ next) :
    Named { naming with nextId := next } := by
  constructor
  · exact named.inverse
  · exact named.owned
  · intro thread eid member
    obtain ⟨absent, bound⟩ := named.alone thread eid member
    exact ⟨absent, Int.lt_of_lt_of_le bound later⟩
  · exact named.once
  · exact fun eid isLive => Int.lt_of_lt_of_le (named.known eid isLive) later
  · exact named.stored
  · exact named.pending
  · exact named.names

omit [DecidableEq Thread] in
theorem Named.give (named : Named naming) (isName : entityName ≠ "" ∧
      (isReserved entityName = true → entityName = automaticName naming.nextId)) :
    Named { naming with
      nextId := naming.nextId + 1
      given := Function.update naming.given naming.nextId (some entityName) } := by
  have before {eid : Uid} (used : eid < naming.nextId) :
      Function.update naming.given naming.nextId (some entityName) eid = naming.given eid :=
    Function.update_of_ne (Int.ne_of_lt used) ..
  have counted := named.later (Int.le_of_lt (Int.lt_succ naming.nextId))
  constructor
  · exact counted.inverse
  · exact counted.owned
  · exact counted.alone
  · exact counted.once
  · exact counted.known
  · intro eid stored isStored
    refine (before ?_).trans (named.stored eid stored isStored)
    have member : eid ∈ naming.warden.eidToName :=
      AList.lookup_isSome.mp (by rw [isStored, Option.isSome_some])
    cases (named.owned eid).mp member with
    | inl isLive => exact named.known eid isLive
    | inr held =>
        obtain ⟨thread, holds⟩ := held
        exact (named.alone thread eid (NamingPhase.entity_of_holds holds)).2
  · intro thread eid pending isNamed
    refine (before ?_).trans (named.pending thread eid pending isNamed)
    exact (named.alone thread eid (by rw [isNamed]; rfl)).2
  · intro eid given isGiven
    by_cases isNew : eid = naming.nextId
    · subst isNew
      dsimp only at isGiven
      rw [Function.update_self] at isGiven
      cases isGiven
      exact isName
    · dsimp only at isGiven
      rw [Function.update_of_ne isNew] at isGiven
      exact named.names eid given isGiven

theorem Named.takeId (named : Named naming) (before : (naming.phase thread).entity = none)
    (entityName : Option String) : Named (naming.takeId thread entityName) := by
  rw [Naming.takeId]
  dsimp only
  split
  next =>
    have counted := named.later (Int.le_of_lt (Int.lt_succ naming.nextId))
    exact counted.goIdle before rfl
  next allowed =>
    have isName := entityNameOf_spec naming.nextId (Bool.eq_false_iff.mpr allowed)
    have given := named.give isName
    apply given.go
    · rintro eid ⟨⟩
      refine ⟨fun isLive => ?_, Int.lt_succ _, fun other _ member => ?_⟩
      · exact Int.lt_irrefl _ (named.known _ isLive)
      · exact Int.lt_irrefl _ (named.alone other _ member).2
    · exact fun eid isLive => .inl isLive
    · exact given.inverse
    · intro eid
      have owned := named.owned_iff thread eid
      rw [NamingPhase.holds_none before] at owned
      exact owned
    · exact given.stored
    · rintro eid name ⟨⟩
      exact Function.update_self ..

theorem Named.addName (named : Named naming) (isNamed : naming.phase thread = .named eid entityName)
    (free : isReserved entityName = false → entityName ∉ naming.warden.nameToEid) :
    Named (naming.go thread (.adding eid) (naming.warden.addName eid entityName)) := by
  have own : eid ∈ (naming.phase thread).entity := by
    rw [isNamed]
    rfl
  have given := named.pending thread eid entityName isNamed
  have newEid : eid ∉ naming.warden.eidToName := by
    intro member
    rcases (named.owned_iff thread eid).mp member with isLive | holds | ⟨other, different, holds⟩
    · exact (named.alone thread eid own).1 isLive
    · rw [isNamed] at holds
      cases holds
    · exact different (named.once other thread eid (NamingPhase.entity_of_holds holds) own)
  -- an automatic name belongs to one entity only
  have newName : entityName ∉ naming.warden.nameToEid := by
    cases reserved : isReserved entityName with
    | false => exact free reserved
    | true =>
        intro member
        obtain ⟨other, found⟩ := Option.isSome_iff_exists.mp (AList.lookup_isSome.mpr member)
        have stored := (named.inverse other entityName).mpr found
        have automatic := (named.names eid entityName given).2 reserved
        have otherAutomatic :=
          (named.names other entityName (named.stored other entityName stored)).2 reserved
        have same := automaticName_injective (automatic.symm.trans otherAutomatic)
        apply newEid
        exact AList.lookup_isSome.mp (by rw [same, stored, Option.isSome_some])
  have forth : (naming.warden.addName eid entityName).eidToName =
      naming.warden.eidToName.insert eid entityName := if_neg newEid
  have back : (naming.warden.addName eid entityName).nameToEid =
      naming.warden.nameToEid.insert entityName eid := if_neg newName
  apply named.go
  · rintro one ⟨⟩
    exact ⟨(named.alone thread eid own).1, (named.alone thread eid own).2,
      fun other different member => different (named.once other thread eid member own)⟩
  · exact fun one isLive => .inl isLive
  · rw [forth, back]
    exact named.inverse.insert newEid newName
  · intro one
    rw [forth, AList.mem_insert, named.owned_iff thread one, isNamed]
    change one = eid ∨ one ∈ naming.warden.entities ∨ none = some one ∨ _ ↔
      one ∈ naming.warden.entities ∨ some eid = some one ∨ _
    simp only [reduceCtorEq, false_or, Option.some.injEq, eq_comm]
    exact or_left_comm
  · intro one stored isStored
    rw [forth] at isStored
    by_cases isNew : one = eid
    · rw [isNew, AList.lookup_insert] at isStored
      cases isStored
      rw [isNew]
      exact given
    · rw [AList.lookup_insert_ne isNew] at isStored
      exact named.stored one stored isStored
  · nofun

theorem Named.addEntity (named : Named naming) (isAdding : naming.phase thread = .adding eid) :
    Named (naming.go thread .idle (naming.warden.addEntity eid item)) := by
  have own : eid ∈ (naming.phase thread).entity := by
    rw [isAdding]
    rfl
  have entities : (naming.warden.addEntity eid item).entities =
      naming.warden.entities.insert eid item := if_neg (named.alone thread eid own).1
  apply named.go
  · nofun
  · intro one isLive
    rw [entities, AList.mem_insert] at isLive
    exact isLive.elim (fun same => .inr (same ▸ own)) .inl
  · exact named.inverse
  · intro one
    change one ∈ naming.warden.eidToName ↔ _
    rw [entities, AList.mem_insert, named.owned_iff thread one, isAdding]
    change one ∈ naming.warden.entities ∨ some eid = some one ∨ _ ↔
      (one = eid ∨ one ∈ naming.warden.entities) ∨ none = some one ∨ _
    simp only [reduceCtorEq, false_or, Option.some.injEq, eq_comm, or_assoc]
    exact or_left_comm
  · exact named.stored
  · nofun

theorem Named.takeEntity (named : Named naming) (before : naming.phase thread = .idle)
    (stored : naming.warden.entities.lookup eid = some item) :
    Named (naming.go thread (.removing eid) (naming.warden.takeEntity eid item)) := by
  have isLive : eid ∈ naming.warden.entities :=
    AList.lookup_isSome.mp (by rw [stored, Option.isSome_some])
  have entities : (naming.warden.takeEntity eid item).entities =
      naming.warden.entities.erase eid := rfl
  apply named.go
  · rintro one ⟨⟩
    rw [entities, AList.mem_erase]
    exact ⟨fun both => both.1 rfl, named.known eid isLive,
      fun other _ member => (named.alone other eid member).1 isLive⟩
  · intro one isLive
    rw [entities, AList.mem_erase] at isLive
    exact .inl isLive.2
  · exact named.inverse
  · intro one
    change one ∈ naming.warden.eidToName ↔ _
    rw [entities, AList.mem_erase, named.owned_iff thread one, before]
    change one ∈ naming.warden.entities ∨ none = some one ∨ _ ↔
      one ≠ eid ∧ one ∈ naming.warden.entities ∨ some eid = some one ∨ _
    by_cases same : one = eid
    · simp [same, isLive]
    · simp [same, Ne.symm same]
  · exact named.stored
  · nofun

omit [DecidableEq Thread] in
theorem Named.removed_name (named : Named naming)
    (isRemoving : naming.phase thread = .removing eid) :
    ∃ entityName, naming.warden.eidToName.lookup eid = some entityName ∧
      (naming.warden.removeName eid).nameToEid = naming.warden.nameToEid.erase entityName := by
  have owned : eid ∈ naming.warden.eidToName :=
    (named.owned eid).mpr (.inr ⟨thread, by rw [isRemoving]; rfl⟩)
  obtain ⟨entityName, stored⟩ := Option.isSome_iff_exists.mp (AList.lookup_isSome.mpr owned)
  refine ⟨entityName, stored, ?_⟩
  rw [EntityWarden.removeName, stored, Option.getD_some]

theorem Named.removeName (named : Named naming) (isRemoving : naming.phase thread = .removing eid) :
    Named (naming.go thread .idle (naming.warden.removeName eid)) := by
  have own : eid ∈ (naming.phase thread).entity := by
    rw [isRemoving]
    rfl
  obtain ⟨entityName, stored, back⟩ := named.removed_name isRemoving
  apply named.go
  · nofun
  · exact fun one isLive => .inl isLive
  · rw [back]
    exact named.inverse.erase stored
  · intro one
    change one ∈ naming.warden.eidToName.erase eid ↔ one ∈ naming.warden.entities ∨ none =
      some one ∨ _
    rw [AList.mem_erase, named.owned_iff thread one, isRemoving]
    change one ≠ eid ∧ (one ∈ naming.warden.entities ∨ some eid = some one ∨ _) ↔ _
    by_cases same : one = eid
    · subst same
      refine iff_of_false (fun both => both.1 rfl) ?_
      rintro (isLive | ⟨⟨⟩⟩ | ⟨other, different, holds⟩)
      · exact (named.alone thread one own).1 isLive
      · exact different (named.once other thread one (NamingPhase.entity_of_holds holds) own)
    · simp [same, Ne.symm same]
  · intro one name isStored
    by_cases same : one = eid
    · rw [same] at isStored
      exact absurd isStored (by rw [EntityWarden.removeName, AList.lookup_erase]; nofun)
    · apply named.stored one name
      rw [EntityWarden.removeName, AList.lookup_erase_ne same] at isStored
      exact isStored
  · nofun

theorem Named.step (named : Named naming) {op : NamingOp Thread}
    (guarded : StoresFree naming op) : Named (naming.step op) := by
  cases op with
  | createEntity thread entityName =>
      rw [Naming.step]
      split
      next => exact named
      next isIdle =>
        have before : (naming.phase thread).entity = none := by
          rw [not_not.mp isIdle]
          rfl
        split
        next => exact named
        next => exact named.goIdle before rfl
  | destroy thread eid =>
      rw [Naming.step]
      split
      next => exact named
      next isIdle =>
        split
        next => exact named
        next item stored => exact named.takeEntity (not_not.mp isIdle) stored
  | proceed thread =>
      rw [Naming.step]
      split
      next => exact named
      next entityName isChecked => exact named.takeId (by rw [isChecked]; rfl) entityName
      next eid entityName isNamed =>
        exact named.addName isNamed (guarded eid entityName isNamed)
      next eid isAdding => exact named.addEntity isAdding
      next eid isRemoving => exact named.removeName isRemoving

theorem Named.kept (named : Named naming) (isRemoving : naming.phase thread = .removing eid)
    (different : other ≠ eid)
    (found : naming.warden.nameToEid.lookup entityName = some other) :
    (naming.step (.proceed thread)).warden.nameToEid.lookup entityName = some other := by
  obtain ⟨removed, stored, back⟩ := named.removed_name isRemoving
  rw [Naming.step, isRemoving]
  change (naming.warden.removeName eid).nameToEid.lookup entityName = some other
  have notRemoved : entityName ≠ removed := by
    rintro rfl
    rw [(named.inverse eid entityName).mp stored] at found
    exact different (Option.some.inj found).symm
  rw [back, AList.lookup_erase_ne notRemoved]
  exact found

omit [DecidableEq Thread] in
theorem named_initial (gid nextId : Uid) : Named (initial Thread gid nextId) := by
  constructor
  · exact inverse_empty
  · refine fun eid => iff_of_false (AList.notMem_empty eid) ?_
    rintro (isLive | ⟨thread, holds⟩)
    · exact AList.notMem_empty eid isLive
    · cases holds
  · exact fun _ _ member => nomatch member
  · exact fun _ _ _ member => nomatch member
  · exact fun eid isLive => absurd isLive (AList.notMem_empty eid)
  · exact fun _ _ isStored => nomatch isStored
  · exact fun _ _ _ isNamed => nomatch isNamed
  · exact fun _ _ isGiven => nomatch isGiven

/-- For any threads, in every interleaving in which the names that were given are still
free when they are stored: whenever no thread is in a call, the two maps of the names are
inverse over the live entities and a name finds the entity created with it, and to destroy
an entity never removes the name of another. -/
theorem run_resolvable (gid nextId : Uid) (ops : List (NamingOp Thread))
    (guarded : (sections Thread).Along StoresFree (initial Thread gid nextId) ops) :
    (sections Thread).Along KeepsNames (initial Thread gid nextId) ops := by
  apply System.along_of_invariant _ _ (named_initial gid nextId) guarded
  · exact fun naming op named guarded => named.step guarded
  · intro naming op named guarded
    refine ⟨(named.step guarded).resolvable, ?_⟩
    rintro thread eid rfl isRemoving other different entityName found
    exact named.kept isRemoving different found

/-- Two threads create an entity each, and one is destroyed. -/
theorem run_resolvable_pair :
    let ops : List (NamingOp Bool) := [.createEntity false (some "camera"),
      .createEntity true (some "lidar"), .proceed false, .proceed true, .proceed false,
      .proceed true, .proceed false, .proceed true, .destroy false 3, .proceed false]
    (sections Bool).Along KeepsNames (initial Bool 1 2) ops := by
  apply run_resolvable
  refine ⟨trivial, trivial, ?_, ?_, ?_, ?_, ?_, ?_, trivial, ?_, trivial⟩
  all_goals
    rintro eid entityName isNamed -
    cases isNamed
  all_goals decide

/-- Two threads create an entity of one name.  When one of the entities is destroyed, the
name of the other is gone. -/
theorem name_created_twice :
    let ops : List (NamingOp Bool) := [.createEntity false (some "camera"),
      .createEntity true (some "camera"), .proceed false, .proceed true, .proceed false,
      .proceed true, .proceed false, .proceed true, .destroy false 3, .proceed false]
    let naming := (sections Bool).run (initial Bool 1 2) ops
    naming.Quiescent ∧ 2 ∈ naming.warden.entities ∧
      naming.given 2 = some "camera" ∧ (naming.warden.find "camera").toOption = none ∧
      ¬naming.Resolvable := by
  refine ⟨fun thread => ?_, by decide, by decide, by decide, fun resolvable => ?_⟩
  · cases thread <;> rfl
  have found := (resolvable.found "camera" 2).mpr ⟨by decide, by decide⟩
  exact absurd (congrArg Except.toOption found) (by decide)

end Naming

end Gxf.Std
