import Gxf.Lib.Run
import Gxf.Std.EntityWarden.Warden

/-!
# The members of entity groups

An entity names its group, and a group lists its entities.  Entities are created into the
default group, which does not list them.
-/

namespace Gxf.Std.EntityWarden

open Gxf.Core Gxf.Lib

/-- The calls that move entities between groups. -/
inductive GroupOp where
  | create (eid : Uid) (entityName : String)
  | createEntityGroup (gid : Uid) (name : String)
  | updateEntityGroup (gid eid : Uid)
  | destroy (eid : Uid) (factory : Option ComponentFactory)

def groupOutcome (warden : EntityWarden) : GroupOp → Outcome
  | .create eid entityName => warden.create eid entityName
  | .createEntityGroup gid name => warden.createEntityGroup gid name
  | .updateEntityGroup gid eid => warden.updateEntityGroup gid eid
  | .destroy eid factory => warden.destroy eid factory

def groupCalls : System EntityWarden GroupOp GxfResult where
  step warden op := ((warden.groupOutcome op).warden, (warden.groupOutcome op).code)

/-- A live entity names the group. -/
def IsMember (warden : EntityWarden) (gid eid : Uid) : Prop :=
  ∃ item ∈ warden.entities.lookup eid, item.gid = gid

/-- A group lists exactly its members, each of them once. -/
structure Lists (warden : EntityWarden) (gid : Uid) (entities : List Uid) : Prop where
  members : ∀ eid, eid ∈ entities ↔ warden.IsMember gid eid
  once : entities.Nodup

/-- Every group but the default one lists its members. -/
def GroupsAgree (warden : EntityWarden) : Prop :=
  ∀ gid ≠ warden.defaultEntityGroupId, ∀ group ∈ warden.entityGroups.lookup gid,
    warden.Lists gid group.entities

/-- No member of a group is destroyed, and no entity is moved to a full group. -/
def KeepsGroups (warden : EntityWarden) : GroupOp → Prop
  | .destroy eid _ => ∀ item ∈ warden.entities.lookup eid, item.gid = warden.defaultEntityGroupId
  | .updateEntityGroup gid eid => gid ≠ warden.defaultEntityGroupId →
      ∀ group ∈ warden.entityGroups.lookup gid, ∀ item ∈ warden.entities.lookup eid,
        item.gid ≠ gid → item.gid ≠ kUnspecifiedUid → group.entities.length < kMaxEntities
  | _ => True

/-- The invariant of a run: the groups agree, and every entity names a group there is. -/
structure Grouped (warden : EntityWarden) : Prop where
  agree : warden.GroupsAgree
  placed : ∀ eid, ∀ item ∈ warden.entities.lookup eid, item.gid ∈ warden.entityGroups
  default : warden.defaultEntityGroupId ∈ warden.entityGroups

variable {warden other : EntityWarden} {gid eid : Uid} {item : EntityItem}

theorem removeFrom_of_notMem (fuel index : Nat) {entities : List Uid} (absent : eid ∉ entities) :
    removeFrom eid fuel index entities = entities := by
  induction fuel generalizing index with
  | zero => rfl
  | succ fuel ih =>
      rw [removeFrom]
      split
      next => rfl
      next member atIndex =>
        have different : member ≠ eid := by
          rintro rfl
          exact absent (List.mem_of_getElem? atIndex)
        rw [if_neg different]
        exact ih (index + 1)

/-- An element does not occur behind the last position. -/
theorem notMem_of_before {entities : List Uid} {index : Nat}
    (before : ∀ earlier < index, entities[earlier]? ≠ some eid)
    (short : entities.length ≤ index) : eid ∉ entities := by
  intro member
  obtain ⟨earlier, found⟩ := List.mem_iff_getElem?.mp member
  have bound := (List.getElem?_eq_some_iff.mp found).1
  exact before earlier (Nat.lt_of_lt_of_le bound short) found

theorem removeFrom_eq_erase (fuel index : Nat) {entities : List Uid} (once : entities.Nodup)
    (before : ∀ earlier < index, entities[earlier]? ≠ some eid)
    (enough : entities.length ≤ index + fuel) :
    removeFrom eid fuel index entities = entities.erase eid := by
  induction fuel generalizing index with
  | zero => exact (List.erase_of_not_mem (notMem_of_before before enough)).symm
  | succ fuel ih =>
      rw [removeFrom]
      split
      next outside =>
        have short := List.getElem?_eq_none_iff.mp outside
        exact (List.erase_of_not_mem (notMem_of_before before short)).symm
      next member atIndex =>
        obtain ⟨bound, found⟩ := List.getElem?_eq_some_iff.mp atIndex
        split
        next same =>
          rw [← same, ← found, ← once.erase_getElem index bound]
          exact removeFrom_of_notMem fuel (index + 1) once.not_mem_erase
        next different =>
          apply ih (index + 1)
          · intro earlier bound
            rcases Nat.lt_succ_iff_lt_or_eq.mp bound with smaller | rfl
            · exact before earlier smaller
            · rw [atIndex]
              exact fun same => different (Option.some.inj same)
          · rw [Nat.add_assoc, Nat.add_comm 1 fuel]
            exact enough

/-! ## Each call -/

theorem Grouped.of_members (grouped : Grouped warden)
    (groups : other.entityGroups = warden.entityGroups)
    (defaultGroup : other.defaultEntityGroupId = warden.defaultEntityGroupId)
    (members : ∀ gid ≠ warden.defaultEntityGroupId, ∀ eid,
      other.IsMember gid eid ↔ warden.IsMember gid eid) : Grouped other := by
  constructor
  · intro gid notDefault group isGroup
    rw [defaultGroup] at notDefault
    rw [groups] at isGroup
    have lists := grouped.agree gid notDefault group isGroup
    exact ⟨fun eid => (lists.members eid).trans (members gid notDefault eid).symm, lists.once⟩
  · intro eid item stored
    rw [groups]
    by_cases isDefault : item.gid = warden.defaultEntityGroupId
    · rw [isDefault]
      exact grouped.default
    · obtain ⟨old, isOld, same⟩ := (members item.gid isDefault eid).mp ⟨item, stored, rfl⟩
      rw [← same]
      exact grouped.placed eid old isOld
  · rw [defaultGroup, groups]
    exact grouped.default

theorem Grouped.create (grouped : Grouped warden) (eid : Uid) (entityName : String) :
    Grouped (warden.create eid entityName).warden := by
  have groups : (warden.create eid entityName).warden.entityGroups = warden.entityGroups := rfl
  apply grouped.of_members groups rfl
  intro gid notDefault one
  rw [IsMember, IsMember]
  by_cases known : eid ∈ warden.entities
  · have same : (warden.create eid entityName).warden.entities = warden.entities := if_pos known
    rw [same]
  · have stored : (warden.create eid entityName).warden.entities = warden.entities.insert eid
        (EntityItem.create eid warden.defaultEntityGroupId) := if_neg known
    rw [stored]
    by_cases isNew : one = eid
    · rw [isNew, AList.lookup_insert, AList.lookup_eq_none.mpr known]
      constructor
      · rintro ⟨item, isItem, same⟩
        cases isItem
        exact absurd same.symm notDefault
      · rintro ⟨item, isItem, -⟩
        cases isItem
    · rw [AList.lookup_insert_ne isNew]

theorem Grouped.createEntityGroup (grouped : Grouped warden) (gid : Uid) (name : String) :
    Grouped (warden.createEntityGroup gid name).warden := by
  rw [EntityWarden.createEntityGroup]
  split
  next => exact grouped
  next isNew =>
    constructor
    · intro one notDefault group isGroup
      by_cases same : one = gid
      · subst same
        dsimp only at isGroup
        rw [AList.lookup_insert] at isGroup
        cases isGroup
        refine ⟨fun eid => iff_of_false List.not_mem_nil ?_, List.nodup_nil⟩
        rintro ⟨item, stored, named⟩
        exact isNew (named ▸ grouped.placed eid item stored)
      · dsimp only at isGroup
        rw [AList.lookup_insert_ne same] at isGroup
        have lists := grouped.agree one notDefault group isGroup
        exact ⟨lists.members, lists.once⟩
    · intro eid item stored
      exact AList.mem_insert _ |>.mpr (.inr (grouped.placed eid item stored))
    · exact AList.mem_insert _ |>.mpr (.inr grouped.default)

theorem isMember_destroy (stored : warden.entities.lookup eid = some item)
    (factory : Option ComponentFactory) (gid one : Uid) :
    (warden.destroy eid factory).warden.IsMember gid one ↔ one ≠ eid ∧ warden.IsMember gid one := by
  have erased : (warden.destroy eid factory).warden.entities = warden.entities.erase eid := by
    rw [EntityWarden.destroy, stored]
    dsimp only
    split <;> rfl
  rw [IsMember, IsMember, erased]
  by_cases same : one = eid
  · rw [same, AList.lookup_erase]
    exact iff_of_false (fun ⟨_, isItem, _⟩ => nomatch isItem) fun both => both.1 rfl
  · rw [AList.lookup_erase_ne same, and_iff_right same]

theorem destroy_groups (warden : EntityWarden) (eid : Uid) (factory : Option ComponentFactory) :
    (warden.destroy eid factory).warden.entityGroups = warden.entityGroups ∧
      (warden.destroy eid factory).warden.defaultEntityGroupId = warden.defaultEntityGroupId := by
  rw [EntityWarden.destroy]
  split
  next => exact ⟨rfl, rfl⟩
  next =>
    dsimp only
    split <;> exact ⟨rfl, rfl⟩

theorem destroy_of_none (stored : warden.entities.lookup eid = none)
    (factory : Option ComponentFactory) : (warden.destroy eid factory).warden = warden := by
  rw [EntityWarden.destroy, stored]
  rfl

theorem Grouped.destroy (grouped : Grouped warden) (factory : Option ComponentFactory)
    (guarded : KeepsGroups warden (.destroy eid factory)) :
    Grouped (warden.destroy eid factory).warden := by
  cases stored : warden.entities.lookup eid with
  | none =>
      rw [destroy_of_none stored factory]
      exact grouped
  | some item =>
      obtain ⟨groups, defaultGroup⟩ := destroy_groups warden eid factory
      apply grouped.of_members groups defaultGroup
      intro gid notDefault one
      rw [isMember_destroy stored factory]
      apply and_iff_right_of_imp
      rintro ⟨other, isOther, named⟩ rfl
      rw [guarded other isOther] at named
      exact notDefault named.symm

theorem Grouped.destroyed_member (grouped : Grouped warden) (factory : Option ComponentFactory)
    (agree : (warden.destroy eid factory).warden.GroupsAgree) :
    KeepsGroups warden (.destroy eid factory) := by
  intro item stored
  by_contra notDefault
  obtain ⟨groups, defaultGroup⟩ := destroy_groups warden eid factory
  obtain ⟨group, isGroup⟩ :=
    Option.isSome_iff_exists.mp (AList.lookup_isSome.mpr (grouped.placed eid item stored))
  have listed := ((grouped.agree item.gid notDefault group isGroup).members eid).mpr
    ⟨item, stored, rfl⟩
  rw [← groups] at isGroup
  rw [← defaultGroup] at notDefault
  have member := ((agree item.gid notDefault group isGroup).members eid).mp listed
  exact ((isMember_destroy stored factory item.gid eid).mp member).1 rfl

/-- The entity is moved from its group to another, which then lists some entities. -/
structure Moved (warden other : EntityWarden) (gid eid : Uid) (item : EntityItem)
    (old : EntityGroupItem) (entities : List Uid) : Prop where
  entity : other.entities.lookup eid = some { item with gid }
  others : ∀ one ≠ eid, other.entities.lookup one = warden.entities.lookup one
  source : ∀ group ∈ other.entityGroups.lookup item.gid,
    group.entities = removeFrom eid old.entities.length 0 old.entities
  target : ∃ group ∈ other.entityGroups.lookup gid, group.entities = entities
  groups : ∀ one ≠ gid, one ≠ item.gid →
    other.entityGroups.lookup one = warden.entityGroups.lookup one
  kept : ∀ one ∈ warden.entityGroups, one ∈ other.entityGroups
  default : other.defaultEntityGroupId = warden.defaultEntityGroupId

/-- The outcomes of `updateEntityGroup`: nothing happens, or the entity is moved, with or
without room in the group. -/
inductive UpdateCases (warden : EntityWarden) (gid eid : Uid) (other : EntityWarden) : Prop where
  | refused (same : other = warden)
      (cause : ∀ group ∈ warden.entityGroups.lookup gid, ∀ item ∈ warden.entities.lookup eid,
        item.gid ≠ gid → item.gid ≠ kUnspecifiedUid → item.gid ∉ warden.entityGroups)
  | moved (group old : EntityGroupItem) (item : EntityItem)
      (isGroup : warden.entityGroups.lookup gid = some group)
      (stored : warden.entities.lookup eid = some item)
      (isOld : warden.entityGroups.lookup item.gid = some old)
      (different : item.gid ≠ gid) (specified : item.gid ≠ kUnspecifiedUid)
      (moved : Moved warden other gid eid item old
        (if group.entities.length < kMaxEntities then group.entities ++ [eid] else group.entities))

theorem Moved.of_tables {old : EntityGroupItem} (group : EntityGroupItem)
    (different : item.gid ≠ gid)
    (entities : other.entities = (warden.entities.insert eid { item with
      gid := kUnspecifiedUid }).insert eid { item with gid })
    (groups : ∀ one, other.entityGroups.lookup one = if one = gid then some group else
      (warden.entityGroups.insert item.gid { old with
        entities := removeFrom eid old.entities.length 0 old.entities }).lookup one)
    (defaultGroup : other.defaultEntityGroupId = warden.defaultEntityGroupId) :
    Moved warden other gid eid item old group.entities := by
  constructor
  · rw [entities, AList.lookup_insert]
  · intro one away
    rw [entities, AList.lookup_insert_ne away, AList.lookup_insert_ne away]
  · intro found isFound
    rw [groups item.gid, if_neg different, AList.lookup_insert] at isFound
    cases isFound
    rfl
  · exact ⟨group, (groups gid).trans (if_pos rfl), rfl⟩
  · intro one notTarget notSource
    rw [groups one, if_neg notTarget, AList.lookup_insert_ne notSource]
  · intro one member
    apply AList.lookup_isSome.mp
    rw [groups one]
    split
    next => rfl
    next => exact AList.lookup_isSome.mpr (AList.mem_insert _ |>.mpr (.inr member))
  · exact defaultGroup

theorem update_cases (warden : EntityWarden) (gid eid : Uid) :
    UpdateCases warden gid eid (warden.updateEntityGroup gid eid).warden := by
  rw [updateEntityGroup]
  split
  next missing => exact .refused rfl (by rw [missing]; nofun)
  next group isGroup =>
    split
    next missing => exact .refused rfl (by rw [missing]; nofun)
    next item stored =>
      split
      next same =>
        apply UpdateCases.refused rfl
        rw [stored]
        rintro _ _ _ ⟨⟩ different
        exact absurd same different
      next different =>
        split
        next unspecified =>
          apply UpdateCases.refused rfl
          rw [stored]
          rintro _ _ _ ⟨⟩ _ specified
          exact absurd unspecified specified
        next specified =>
          rw [entityGroupRemoveEntity, stored]
          dsimp only
          rw [if_neg specified]
          split
          next missing =>
            apply UpdateCases.refused rfl
            rw [stored]
            rintro _ _ _ ⟨⟩ _ _
            exact AList.lookup_eq_none.mp missing
          next old isOld =>
            rw [if_neg (not_not.mpr rfl)]
            apply UpdateCases.moved group old item isGroup stored isOld different specified
            split
            next full =>
              rw [if_neg (Nat.not_lt.mpr full)]
              refine Moved.of_tables group different rfl (fun one => ?_) rfl
              split
              next isTarget =>
                rw [isTarget]
                exact (AList.lookup_insert_ne (Ne.symm different)).trans isGroup
              next => rfl
            next room =>
              rw [if_pos (Nat.not_le.mp room)]
              refine Moved.of_tables { group with entities := group.entities ++ [eid] } different
                rfl (fun one => ?_) rfl
              split
              next isTarget =>
                rw [isTarget]
                exact AList.lookup_insert _
              next notTarget => exact AList.lookup_insert_ne notTarget

variable {old : EntityGroupItem} {entities : List Uid}

theorem Moved.isMember_iff (moved : Moved warden other gid eid item old entities) (one two : Uid) :
    other.IsMember one two ↔ two = eid ∧ one = gid ∨ two ≠ eid ∧ warden.IsMember one two := by
  rw [IsMember, IsMember]
  by_cases same : two = eid
  · subst same
    rw [moved.entity]
    simp only [true_and, ne_eq, not_true_eq_false, false_and, or_false]
    constructor
    · rintro ⟨_, ⟨⟩, rfl⟩
      rfl
    · rintro rfl
      exact ⟨_, rfl, rfl⟩
  · rw [moved.others two same]
    simp only [same, false_and, ne_eq, not_false_eq_true, true_and, false_or]

theorem Grouped.moved (grouped : Grouped warden) {group : EntityGroupItem}
    (isGroup : warden.entityGroups.lookup gid = some group)
    (stored : warden.entities.lookup eid = some item)
    (isOld : warden.entityGroups.lookup item.gid = some old) (different : item.gid ≠ gid)
    (moved : Moved warden other gid eid item old entities)
    (listed : gid ≠ warden.defaultEntityGroupId → entities = group.entities ++ [eid]) :
    Grouped other := by
  constructor
  · intro one notDefault found isFound
    rw [moved.default] at notDefault
    by_cases isTarget : one = gid
    · subst isTarget
      obtain ⟨target, isTarget, entitiesEq⟩ := moved.target
      rw [isTarget] at isFound
      cases isFound
      have lists := grouped.agree one notDefault group isGroup
      have absent : eid ∉ group.entities := by
        intro member
        obtain ⟨item', stored', named⟩ := (lists.members eid).mp member
        rw [stored] at stored'
        cases stored'
        exact different named
      rw [entitiesEq, listed notDefault]
      constructor
      · intro two
        rw [List.mem_append, List.mem_singleton, lists.members two, moved.isMember_iff]
        by_cases same : two = eid
        · simp [same]
        · simp [same]
      · exact List.nodup_append'.mpr ⟨lists.once, List.nodup_singleton eid,
          List.disjoint_singleton.mpr absent⟩
    · by_cases isSource : one = item.gid
      · subst isSource
        have lists := grouped.agree item.gid notDefault old isOld
        have first : ∀ earlier < 0, old.entities[earlier]? ≠ some eid :=
          fun earlier bound => absurd bound (Nat.not_lt_zero earlier)
        have enough : old.entities.length ≤ 0 + old.entities.length :=
          Nat.le_of_eq (Nat.zero_add _).symm
        rw [moved.source found isFound, removeFrom_eq_erase _ _ lists.once first enough]
        constructor
        · intro two
          rw [lists.once.mem_erase_iff, lists.members two, moved.isMember_iff]
          simp only [isTarget, and_false, false_or]
        · exact lists.once.erase eid
      · rw [moved.groups one isTarget isSource] at isFound
        have lists := grouped.agree one notDefault found isFound
        refine ⟨fun two => ?_, lists.once⟩
        rw [lists.members two, moved.isMember_iff]
        by_cases same : two = eid
        · subst same
          simp only [isTarget, and_false, ne_eq, not_true_eq_false, false_and, or_self, iff_false]
          rintro ⟨item', stored', named⟩
          rw [stored] at stored'
          cases stored'
          exact isSource named.symm
        · simp only [same, false_and, ne_eq, not_false_eq_true, true_and, false_or]
  · intro two item' stored'
    by_cases same : two = eid
    · rw [same, moved.entity] at stored'
      cases stored'
      exact moved.kept gid (AList.lookup_isSome.mp (by rw [isGroup]; rfl))
    · rw [moved.others two same] at stored'
      exact moved.kept item'.gid (grouped.placed two item' stored')
  · rw [moved.default]
    exact moved.kept _ grouped.default

theorem Grouped.updateEntityGroup (grouped : Grouped warden)
    (guarded : KeepsGroups warden (.updateEntityGroup gid eid)) :
    Grouped (warden.updateEntityGroup gid eid).warden := by
  cases update_cases warden gid eid with
  | refused same _ =>
      rw [same]
      exact grouped
  | moved group old item isGroup stored isOld different specified moved =>
      apply grouped.moved isGroup stored isOld different moved
      intro notDefault
      exact if_pos (guarded notDefault group isGroup item stored different specified)

theorem Grouped.full_group (grouped : Grouped warden)
    (agree : (warden.updateEntityGroup gid eid).warden.GroupsAgree) :
    KeepsGroups warden (.updateEntityGroup gid eid) := by
  intro notDefault group isGroup item stored different specified
  cases update_cases warden gid eid with
  | refused _ cause =>
      exact absurd (grouped.placed eid item stored)
        (cause group isGroup item stored different specified)
  | moved group' old item' isGroup' stored' isOld different' specified' moved =>
      rw [stored] at stored'
      cases stored'
      rw [isGroup] at isGroup'
      cases isGroup'
      by_contra full
      rw [if_neg full] at moved
      obtain ⟨target, isTarget, same⟩ := moved.target
      have lists := agree gid (moved.default ▸ notDefault) target isTarget
      have member := (lists.members eid).mpr ((moved.isMember_iff gid eid).mpr (.inl ⟨rfl, rfl⟩))
      rw [same] at member
      obtain ⟨item', stored', named⟩ :=
        ((grouped.agree gid notDefault group isGroup).members eid).mp member
      rw [stored] at stored'
      cases stored'
      exact different named

theorem grouped_step (warden : EntityWarden) (op : GroupOp) (grouped : Grouped warden)
    (guarded : KeepsGroups warden op) : Grouped (groupCalls.step warden op).1 := by
  cases op with
  | create eid entityName => exact grouped.create eid entityName
  | createEntityGroup gid name => exact grouped.createEntityGroup gid name
  | updateEntityGroup gid eid => exact grouped.updateEntityGroup guarded
  | destroy eid factory => exact grouped.destroy factory guarded

theorem agree_step_iff (warden : EntityWarden) (op : GroupOp) (grouped : Grouped warden) :
    (groupCalls.step warden op).1.GroupsAgree ↔ KeepsGroups warden op := by
  constructor
  · intro agree
    cases op with
    | create | createEntityGroup => trivial
    | updateEntityGroup gid eid => exact grouped.full_group agree
    | destroy eid factory => exact grouped.destroyed_member factory agree
  · exact fun guarded => (grouped_step warden op grouped guarded).agree

theorem grouped_fresh (gid : Uid) : Grouped (fresh gid) := by
  have groups : (fresh gid).entityGroups =
      (∅ : Table Uid EntityGroupItem).insert gid ⟨gid, kDefaultEntityGroupName, [], []⟩ := rfl
  have isDefault : (fresh gid).defaultEntityGroupId = gid := rfl
  constructor
  · intro one notDefault group isGroup
    rw [groups, AList.lookup_insert_ne (isDefault ▸ notDefault)] at isGroup
    cases isGroup
  · intro eid item stored
    cases stored
  · rw [groups, isDefault]
    exact AList.mem_insert _ |>.mpr (.inl rfl)

/-- For every run from a new context: after each call every group but the default one lists
exactly its live members, each of them once, if and only if no call destroys a member or
moves an entity to a full group. -/
theorem run_groups_agree_iff (gid : Uid) (ops : List GroupOp) :
    groupCalls.Along (fun warden op => (groupCalls.step warden op).1.GroupsAgree) (fresh gid) ops ↔
      groupCalls.Along KeepsGroups (fresh gid) ops :=
  System.along_iff_guarded grouped_step agree_step_iff (grouped_fresh gid) ops

/-- A member of a group is destroyed, and its group still lists it. -/
theorem destroyed_member_listed :
    let ops : List GroupOp := [.create 7 "camera", .createEntityGroup 2 "sensors",
      .updateEntityGroup 2 7, .destroy 7 (some fun _ _ => .ok ())]
    groupCalls.outputs (fresh 1) ops = [.GXF_SUCCESS, .GXF_SUCCESS, .GXF_SUCCESS, .GXF_SUCCESS] ∧
      (groupCalls.run (fresh 1) ops).entities.lookup 7 = none ∧
      ((groupCalls.run (fresh 1) ops).entityGroups.lookup 2).map EntityGroupItem.entities =
        some [7] ∧
      ¬groupCalls.Along (fun warden op => (groupCalls.step warden op).1.GroupsAgree)
        (fresh 1) ops := by
  refine ⟨by decide, by decide, by decide, fun along => ?_⟩
  have lists := along.2.2.2.1 2 (by decide) ⟨2, "sensors", [7], []⟩ (by decide)
  obtain ⟨item, stored, -⟩ := (lists.members 7).mp (by decide)
  exact absurd (Option.isSome_iff_exists.mpr ⟨item, stored⟩) (by decide)

end Gxf.Std.EntityWarden
