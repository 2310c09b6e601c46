import Gxf.Std.EntityWarden.Warden

/-!
# Failed calls of the entity warden

A call may fail before it invokes the component factory.  Most of these failures are
found after some of the maps are updated.
-/

namespace Gxf.Std.EntityWarden

open Gxf.Core Gxf.Lib

/-- The calls that change the store. -/
inductive StoreOp where
  | destroy (eid : Uid) (factory : Option ComponentFactory)
  | addComponent (eid : Uid) (component : ComponentItem)
  | removeComponent (eid cid : Uid) (factory : Option ComponentFactory)
  | addComponentToInterface (eid cid : Uid) (name : String)
  | updateEntityGroup (gid eid : Uid)

/-- The outcome of a call. -/
def apply (warden : EntityWarden) : StoreOp → Outcome
  | .destroy eid factory => warden.destroy eid factory
  | .addComponent eid component => warden.addComponent eid component
  | .removeComponent eid cid factory => warden.removeComponent eid cid factory
  | .addComponentToInterface eid cid name => warden.addComponentToInterface eid cid name
  | .updateEntityGroup gid eid => warden.updateEntityGroup gid eid

/-- The call failed without invoking the component factory. -/
def Outcome.FailedEarly (outcome : Outcome) : Prop :=
  outcome.code ≠ .GXF_SUCCESS ∧ outcome.calls = []

/-- Two wardens with the same entities, component index, names and entity groups. -/
structure SameStore (warden other : EntityWarden) : Prop where
  entities : ∀ eid, other.entities.lookup eid = warden.entities.lookup eid
  components : ∀ cid, other.components.lookup cid = warden.components.lookup cid
  nameToEid : ∀ name, other.nameToEid.lookup name = warden.nameToEid.lookup name
  eidToName : ∀ eid, other.eidToName.lookup eid = warden.eidToName.lookup eid
  entityGroups : ∀ gid, other.entityGroups.lookup gid = warden.entityGroups.lookup gid

/-- A call that fails early changes nothing. -/
def Atomic (warden : EntityWarden) (op : StoreOp) : Prop :=
  (warden.apply op).FailedEarly → SameStore warden (warden.apply op).warden

/-- The checks that are made after an update succeed: the stage of the entity, the factory
to destroy it with, the room for a component or for a member of a group.  A component that
is indexed already may be added in vain. -/
def Checked (warden : EntityWarden) : StoreOp → Prop
  | .destroy eid factory => ∀ item ∈ warden.entities.lookup eid,
      item.stage = .kUninitialized ∧ factory.isSome = true
  | .addComponent eid component => ∀ item ∈ warden.entities.lookup eid,
      item.stage = .kUninitialized ∧ item.components.length < kMaxComponents ∨
        warden.components.lookup component.cid = some ⟨eid, component.tid⟩
  | .removeComponent eid cid factory => factory.isSome = true → cid ∈ warden.components →
      ∃ item ∈ warden.entities.lookup eid, item.stage = .kUninitialized
  | .addComponentToInterface .. => True
  | .updateEntityGroup gid eid => ∀ group ∈ warden.entityGroups.lookup gid,
      ∀ item ∈ warden.entities.lookup eid, item.gid ≠ gid → item.gid ≠ kUnspecifiedUid →
        item.gid ∈ warden.entityGroups → group.entities.length < kMaxEntities

theorem SameStore.refl (warden : EntityWarden) : SameStore warden warden :=
  ⟨fun _ => rfl, fun _ => rfl, fun _ => rfl, fun _ => rfl, fun _ => rfl⟩

variable {warden : EntityWarden}

theorem atomic_refuse_iff {outcome : Outcome} {condition : Prop} {code : GxfResult}
    (refused : outcome = warden.refuse code) (holds : condition) :
    (outcome.FailedEarly → SameStore warden outcome.warden) ↔ condition := by
  refine iff_of_true (fun _ => ?_) holds
  rw [refused]
  exact .refl warden

theorem atomic_late_iff {outcome : Outcome} {condition : Prop}
    (late : outcome.code = .GXF_SUCCESS ∨ outcome.calls ≠ []) (holds : condition) :
    (outcome.FailedEarly → SameStore warden outcome.warden) ↔ condition := by
  refine iff_of_true (fun failed => ?_) holds
  cases late with
  | inl success => exact absurd success failed.1
  | inr invoked => exact absurd failed.2 invoked

theorem entities_takeEntity (eid : Uid) (item : EntityItem) :
    ((warden.takeEntity eid item).removeName eid).entities.lookup eid = none :=
  AList.lookup_erase eid warden.entities

theorem destroy_atomic_iff (eid : Uid) (factory : Option ComponentFactory) :
    Atomic warden (.destroy eid factory) ↔ Checked warden (.destroy eid factory) := by
  rw [Atomic, apply, Checked]
  cases stored : warden.entities.lookup eid with
  | none => exact atomic_refuse_iff (by rw [destroy, stored]) nofun
  | some item =>
      by_cases checked : item.stage = .kUninitialized ∧ factory.isSome = true
      · obtain ⟨deallocate, isFactory⟩ := Option.isSome_iff_exists.mp checked.2
        apply atomic_late_iff
        · rw [destroy, stored, isFactory]
          simp only [checked.1, ne_eq, not_true_eq_false, if_false, EntityItem.destroy,
            EntityItem.setStage]
          cases item.components with
          | nil => exact .inl rfl
          | cons component rest => exact .inr (List.cons_ne_nil _ _)
        · intro other isItem
          cases isItem
          exact checked
      · refine iff_of_false (fun atomic => ?_) fun all => checked (all item rfl)
        have gone : (warden.destroy eid factory).FailedEarly ∧
            (warden.destroy eid factory).warden.entities.lookup eid = none := by
          rw [destroy, stored]
          dsimp only
          split
          next => exact ⟨⟨nofun, rfl⟩, entities_takeEntity eid item⟩
          next isStage =>
            cases factory with
            | none => exact ⟨⟨nofun, rfl⟩, entities_takeEntity eid item⟩
            | some deallocate => exact absurd ⟨not_not.mp isStage, rfl⟩ checked
        have same := (atomic gone.1).entities eid
        rw [gone.2, stored] at same
        cases same

theorem addComponent_atomic_iff (eid : Uid) (component : ComponentItem) :
    Atomic warden (.addComponent eid component) ↔ Checked warden (.addComponent eid component) := by
  rw [Atomic, apply, Checked]
  cases stored : warden.entities.lookup eid with
  | none => exact atomic_refuse_iff (by rw [addComponent, stored]) nofun
  | some item =>
      by_cases checked : item.stage = .kUninitialized ∧ item.components.length < kMaxComponents
      · apply atomic_late_iff
        · rw [addComponent, stored]
          dsimp only
          rw [if_neg (not_not.mpr checked.1), if_neg (Nat.not_le.mpr checked.2)]
          exact .inl rfl
        · intro other isItem
          cases isItem
          exact .inl checked
      · -- the component is indexed, and nothing else is changed
        have indexed : (warden.addComponent eid component).FailedEarly ∧
            (warden.addComponent eid component).warden = { warden with
              components := warden.components.insert component.cid ⟨eid, component.tid⟩ } := by
          rw [addComponent, stored]
          dsimp only
          split
          next => exact ⟨⟨nofun, rfl⟩, rfl⟩
          next isStage =>
            split
            next => exact ⟨⟨nofun, rfl⟩, rfl⟩
            next room => exact absurd ⟨not_not.mp isStage, Nat.not_le.mp room⟩ checked
        rw [indexed.2]
        constructor
        · intro atomic other isItem
          cases isItem
          have same := (atomic indexed.1).components component.cid
          rw [AList.lookup_insert] at same
          exact .inr same.symm
        · intro all _
          have known := (all item rfl).resolve_left checked
          refine ⟨fun _ => rfl, fun cid => ?_, fun _ => rfl, fun _ => rfl, fun _ => rfl⟩
          by_cases same : cid = component.cid
          · rw [same, known]
            exact AList.lookup_insert warden.components
          · exact AList.lookup_insert_ne same

theorem removeComponent_atomic_iff (eid cid : Uid) (factory : Option ComponentFactory) :
    Atomic warden (.removeComponent eid cid factory) ↔
      Checked warden (.removeComponent eid cid factory) := by
  rw [Atomic, apply, Checked]
  cases factory with
  | none => exact atomic_refuse_iff rfl nofun
  | some deallocate =>
      rw [removeComponent]
      split
      next missing => exact atomic_refuse_iff rfl fun _ indexed => absurd indexed missing
      next indexed =>
        have member := not_not.mp indexed
        have changed (code : GxfResult) : ¬SameStore warden
            (refuse { warden with components := warden.components.erase cid } code).warden := by
          intro same
          have erased := same.components cid
          rw [refuse, AList.lookup_erase] at erased
          rw [← AList.lookup_isSome, ← erased] at member
          cases member
        split
        next stored =>
          refine iff_of_false (fun atomic => changed _ (atomic ⟨nofun, rfl⟩)) fun all => ?_
          obtain ⟨item, isItem, -⟩ := all rfl member
          rw [stored] at isItem
          cases isItem
        next item stored =>
          split
          next isStage =>
            refine iff_of_false (fun atomic => changed _ (atomic ⟨nofun, rfl⟩)) fun all => ?_
            obtain ⟨other, isItem, uninitialized⟩ := all rfl member
            rw [stored] at isItem
            cases isItem
            exact isStage uninitialized
          next isStage =>
            refine atomic_late_iff ?_ fun _ _ => ⟨item, stored, not_not.mp isStage⟩
            split
            next => exact .inl rfl
            next =>
              split
              next => exact .inr (List.cons_ne_nil _ _)
              next => exact .inl rfl

theorem addComponentToInterface_atomic_iff (eid cid : Uid) (name : String) :
    Atomic warden (.addComponentToInterface eid cid name) ↔
      Checked warden (.addComponentToInterface eid cid name) := by
  rw [Atomic, apply, addComponentToInterface]
  split
  next => exact atomic_refuse_iff rfl trivial
  next =>
    split
    next => exact atomic_refuse_iff rfl trivial
    next => exact atomic_late_iff (.inl rfl) trivial

theorem updateEntityGroup_atomic_iff (gid eid : Uid) :
    Atomic warden (.updateEntityGroup gid eid) ↔ Checked warden (.updateEntityGroup gid eid) := by
  rw [Atomic, apply, Checked, updateEntityGroup]
  split
  next missing => exact atomic_refuse_iff rfl (by rw [missing]; nofun)
  next group isGroup =>
    split
    next missing => exact atomic_refuse_iff rfl (by rw [missing]; nofun)
    next item stored =>
      rw [isGroup, stored]
      split
      next same =>
        apply atomic_refuse_iff rfl
        rintro _ _ other isItem different
        cases isItem
        exact absurd same different
      next different =>
        split
        next unspecified =>
          apply atomic_refuse_iff rfl
          rintro _ _ other isItem _ specified
          cases isItem
          exact absurd unspecified specified
        next specified =>
          rw [entityGroupRemoveEntity, stored]
          dsimp only
          rw [if_neg specified]
          split
          next missing =>
            apply atomic_refuse_iff rfl
            rintro _ _ other isItem _ _ member
            cases isItem
            exact absurd member (AList.lookup_eq_none.mp missing)
          next old isOld =>
            rw [if_neg (not_not.mpr rfl)]
            have member : item.gid ∈ warden.entityGroups :=
              AList.lookup_isSome.mp (by rw [isOld]; rfl)
            split
            next full =>
              refine iff_of_false (fun atomic => ?_) fun all => ?_
              · have same := (atomic ⟨nofun, rfl⟩).entities eid
                rw [refuse, setEntity, AList.lookup_insert, stored] at same
                exact different (congrArg EntityItem.gid (Option.some.inj same)).symm
              · exact absurd full (Nat.not_le.mpr
                  (all group rfl item rfl different specified member))
            next room =>
              apply atomic_late_iff (.inl rfl)
              rintro _ isGroup _ _ _ _ _
              cases isGroup
              exact Nat.not_le.mp room

/-- For every warden and every call: a call that fails before it invokes the component
factory leaves the entities, the component index, the names and the groups unchanged if
and only if the checks after the first update succeed. -/
theorem failed_unchanged_iff (warden : EntityWarden) (op : StoreOp) :
    Atomic warden op ↔ Checked warden op := by
  cases op with
  | destroy eid factory => exact destroy_atomic_iff eid factory
  | addComponent eid component => exact addComponent_atomic_iff eid component
  | removeComponent eid cid factory => exact removeComponent_atomic_iff eid cid factory
  | addComponentToInterface eid cid name => exact addComponentToInterface_atomic_iff eid cid name
  | updateEntityGroup gid eid => exact updateEntityGroup_atomic_iff gid eid

/-- An entity is created and initialized.  To destroy it is refused, and it is gone. -/
theorem refused_destroy_removes :
    let created := ((fresh 1).create 7 "camera").warden
    let warden := (created.init 7 (fun _ => .ok ()) ⟨fun _ => .GXF_SUCCESS,
      fun _ => .GXF_SUCCESS⟩).warden
    let op := StoreOp.destroy 7 (some fun _ _ => .ok ())
    (warden.apply op).code = .GXF_INVALID_LIFECYCLE_STAGE ∧
      (warden.entities.lookup 7).isSome = true ∧
      (warden.apply op).warden.entities.lookup 7 = none ∧ ¬Atomic warden op := by
  refine ⟨by decide, by decide, by decide, fun atomic => ?_⟩
  exact absurd ((atomic ⟨by decide, by decide⟩).entities 7) (by decide)

end Gxf.Std.EntityWarden
