import Mathlib.Data.List.DropRight
import Gxf.Std.EntityWarden.Warden

/-!
# The resources of entity groups

Before an entity is deactivated, its resources are taken out of its group.  Two nested loops erase
by index while they iterate.  They work when the resources to erase are met in the order in which
the entity lists them.
-/

namespace Gxf.Std.EntityWarden

open Gxf.Core

/-- The inner loop of `depopulateResourcesFromEntityGroup`.  Reading behind the end of the list
aborts the process. -/
def eraseMatching (index : Nat) : (resources components : List Uid) → Option (List Uid)
  | [], components => some components
  | resource :: resources, components =>
      match components[index]? with
      | none => none
      | some component =>
          eraseMatching index resources
            (if component = resource then components.eraseIdx index else components)

/-- The outer loop, from an index on. -/
def depopulateFrom (resources : List Uid) : (fuel index : Nat) → List Uid → Option (List Uid)
  | 0, _, components => some components
  | fuel + 1, index, components =>
      if index < components.length then
        (eraseMatching index resources components).bind (depopulateFrom resources fuel (index + 1))
      else some components

def setResources (warden : EntityWarden) (gid : Uid) (group : EntityGroupItem)
    (resourceComponents : List Uid) : EntityWarden :=
  { warden with entityGroups := warden.entityGroups.insert gid { group with resourceComponents } }

/-- `depopulateResourcesFromEntityGroup(context, eid)`, with the resources of the entity.  There is
no answer when the process is aborted. -/
def depopulateResourcesFromEntityGroup (warden : EntityWarden) (eid : Uid)
    (maybeResources : Except GxfResult (List Uid)) : Option (EntityWarden × GxfResult) :=
  match maybeResources with
  | .error code => some (warden, code)
  | .ok resources =>
      if resources = [] then some (warden, .GXF_SUCCESS)
      else
        match warden.entities.lookup eid with
        | none => some (warden, .GXF_ENTITY_NOT_FOUND)
        | some item =>
            match warden.entityGroups.lookup item.gid with
            | none => some (warden, .GXF_ENTITY_GROUP_NOT_FOUND)
            | some group =>
                (depopulateFrom resources group.resourceComponents.length 0
                  group.resourceComponents).map fun left =>
                    (warden.setResources item.gid group left, .GXF_SUCCESS)

/-- The resources of a group that the entity does not have. -/
def others (resources components : List Uid) : List Uid :=
  components.filter fun component => decide (component ∉ resources)

/-- The last resources of a group, as far as the entity has them. -/
def trailing (resources components : List Uid) : List Uid :=
  components.rtakeWhile fun component => decide (component ∈ resources)

/-- The group lists neighbouring resources of the entity as the entity lists them, and those at its
end up to the last one of the entity. -/
def Followable (resources components : List Uid) : Prop :=
  (∀ block, block <:+: components → (∀ component ∈ block, component ∈ resources) →
    block.Sublist resources) ∧
  (trailing resources components ≠ [] → ¬(trailing resources components).Sublist resources.dropLast)

/-- The call succeeds, the group has the resources that are left, and nothing else changes. -/
def Leaves (warden : EntityWarden) (gid : Uid) (group : EntityGroupItem) (left : List Uid)
    (outcome : Option (EntityWarden × GxfResult)) : Prop :=
  ∃ after, outcome = some (after, .GXF_SUCCESS) ∧
    after.entityGroups.lookup gid = some { group with resourceComponents := left } ∧
    (∀ other ≠ gid, after.entityGroups.lookup other = warden.entityGroups.lookup other) ∧
    { after with entityGroups := warden.entityGroups } = warden

variable {resources components : List Uid}

/-- What the inner loop leaves of the elements from its index on. -/
def consume : (resources rest : List Uid) → Option (List Uid)
  | [], rest => some rest
  | _ :: _, [] => none
  | resource :: resources, component :: rest =>
      if component = resource then consume resources rest
      else consume resources (component :: rest)

/-- What the outer loop leaves of the elements from its index on. -/
def sweep (resources : List Uid) : (fuel : Nat) → List Uid → Option (List Uid)
  | 0, rest => some rest
  | fuel + 1, rest =>
      if rest = [] then some []
      else (consume resources rest).bind fun
        | [] => some []
        | kept :: behind => (sweep resources fuel behind).map (kept :: ·)

theorem eraseMatching_append (resources before rest : List Uid) :
    eraseMatching before.length resources (before ++ rest) =
      (consume resources rest).map (before ++ ·) := by
  induction resources generalizing rest with
  | nil => rfl
  | cons resource resources ih =>
      cases rest with
      | nil =>
          rw [eraseMatching, List.append_nil, List.getElem?_eq_none (Nat.le_refl _)]
          rfl
      | cons component rest =>
          rw [eraseMatching, List.getElem?_append_right (Nat.le_refl _), Nat.sub_self,
            List.getElem?_cons_zero, consume]
          dsimp only
          split
          next =>
            rw [List.eraseIdx_append_of_length_le (Nat.le_refl _), Nat.sub_self, List.eraseIdx_zero]
            exact ih rest
          next => exact ih (component :: rest)

/-- Behind the end nothing happens. -/
theorem depopulateFrom_of_le (fuel : Nat) {index : Nat} (outside : components.length ≤ index) :
    depopulateFrom resources fuel index components = some components := by
  cases fuel with
  | zero => rfl
  | succ fuel => exact if_neg (Nat.not_lt.mpr outside)

theorem depopulateFrom_append (fuel : Nat) (before rest : List Uid) :
    depopulateFrom resources fuel before.length (before ++ rest) =
      (sweep resources fuel rest).map (before ++ ·) := by
  induction fuel generalizing before rest with
  | zero => rfl
  | succ fuel ih =>
      rw [depopulateFrom, sweep]
      cases rest with
      | nil => simp
      | cons component rest =>
          have inside : before.length < (before ++ component :: rest).length := by simp
          rw [if_pos inside, if_neg (List.cons_ne_nil _ _), eraseMatching_append]
          cases consume resources (component :: rest) with
          | none => rfl
          | some left =>
              cases left with
              | nil =>
                  rw [Option.map_some, Option.bind_some, Option.bind_some, List.append_nil]
                  exact (depopulateFrom_of_le fuel (Nat.le_succ _)).trans
                    (congrArg some (List.append_nil before).symm)
              | cons kept behind =>
                  have shifted := ih (before ++ [kept]) behind
                  rw [List.length_append, List.length_singleton, List.append_assoc,
                    List.singleton_append] at shifted
                  rw [Option.map_some, Option.bind_some, Option.bind_some, shifted, Option.map_map]
                  congr 1
                  funext left
                  rw [List.append_assoc]
                  rfl

variable {block rest : List Uid} {other : Uid}

theorem cons_sublist_of_ne {component resource : Uid} (different : component ≠ resource) :
    (component :: block).Sublist (resource :: rest) ↔ (component :: block).Sublist rest := by
  refine ⟨fun sublist => ?_, fun sublist => sublist.cons resource⟩
  cases sublist with
  | cons _ later => exact later
  | cons_cons _ _ => exact absurd rfl different

theorem consume_block (notListed : other ∉ resources) :
    (block.Sublist resources ∧ consume resources (block ++ other :: rest) = some (other :: rest)) ∨
      ¬block.Sublist resources ∧ ∃ kept ∈ block, ∃ behind,
        consume resources (block ++ other :: rest) = some (kept :: behind) := by
  induction resources generalizing block with
  | nil =>
      cases block with
      | nil => exact .inl ⟨List.Sublist.slnil, rfl⟩
      | cons component block =>
          refine .inr ⟨nofun, component, List.mem_cons_self .., _, rfl⟩
  | cons resource resources ih =>
      rw [List.mem_cons, not_or] at notListed
      cases block with
      | nil =>
          rw [List.nil_append, consume, if_neg notListed.1]
          have empty := @ih [] notListed.2
          rcases empty with ⟨-, same⟩ | ⟨notSublist, -⟩
          · exact .inl ⟨List.nil_sublist _, same⟩
          · exact absurd (List.nil_sublist _) notSublist
      | cons component block =>
          rw [List.cons_append, consume]
          split
          next same =>
            subst same
            rw [List.cons_sublist_cons]
            exact (ih notListed.2).imp_right fun ⟨notSublist, kept, member, found⟩ =>
              ⟨notSublist, kept, List.mem_cons_of_mem _ member, found⟩
          next different =>
            rw [cons_sublist_of_ne different]
            exact ih notListed.2

theorem consume_eq_nil_iff : consume resources block = some [] ↔ block.Sublist resources ∧
      (resources ≠ [] → ¬block.Sublist resources.dropLast) := by
  induction resources generalizing block with
  | nil =>
      rw [consume, Option.some_inj, List.sublist_nil]
      simp
  | cons resource resources ih =>
      cases block with
      | nil =>
          refine iff_of_false nofun fun both => ?_
          exact both.2 (List.cons_ne_nil _ _) (List.nil_sublist _)
      | cons component block =>
          rw [consume]
          split
          next same =>
            subst same
            rw [ih, List.cons_sublist_cons]
            refine and_congr_right fun _ => ?_
            cases resources with
            | nil => simp
            | cons next resources => simp [List.dropLast_cons_of_ne_nil]
          next different =>
            rw [ih, cons_sublist_of_ne different]
            refine and_congr_right fun sublist => ?_
            cases resources with
            | nil => cases sublist
            | cons next resources =>
                rw [List.dropLast_cons_of_ne_nil (List.cons_ne_nil _ _),
                  cons_sublist_of_ne different]
                simp

/-! ## Lists that can be followed -/

theorem followable_nil : Followable resources [] := by
  refine ⟨fun block inside _ => ?_, fun notEmpty => absurd rfl notEmpty⟩
  rw [List.infix_nil.mp inside]
  exact List.nil_sublist _

/-- Resources of the entity do not reach over another one. -/
theorem infix_of_infix_append {neighbours : List Uid}
    (inside : block <:+: neighbours ++ other :: rest) (apart : other ∉ block) :
    block <:+: neighbours ∨ block <:+: rest := by
  induction neighbours with
  | nil =>
      rcases List.infix_cons_iff.mp inside with first | later
      · rcases List.prefix_cons_iff.mp first with rfl | ⟨behind, rfl, -⟩
        · exact .inl (List.nil_infix)
        · exact absurd (List.mem_cons_self ..) apart
      · exact .inr later
  | cons component neighbours ih =>
      rcases List.infix_cons_iff.mp inside with first | later
      · have whole : component :: neighbours <+: component :: (neighbours ++ other :: rest) :=
          List.prefix_append _ _
        rcases List.prefix_or_prefix_of_prefix first whole with short | long
        · exact .inl short.isInfix
        · obtain ⟨behind, rfl⟩ := long
          have first : component :: neighbours ++ behind <+:
              component :: neighbours ++ other :: rest := first
          rw [List.prefix_append_right_inj] at first
          rcases List.prefix_cons_iff.mp first with rfl | ⟨behind, rfl, -⟩
          · exact .inl (List.append_nil _ ▸ List.infix_refl _)
          · exact absurd (List.mem_append_right _ (List.mem_cons_self ..)) apart
      · exact (ih later).imp_left fun inside => inside.trans (List.suffix_cons _ _).isInfix

theorem trailing_append (notListed : other ∉ resources) :
    trailing resources (block ++ other :: rest) = trailing resources rest := by
  rw [trailing, trailing, List.rtakeWhile, List.rtakeWhile, List.reverse_append,
    List.reverse_cons, List.append_assoc, List.takeWhile_append]
  split
  next all =>
    have stop : (fun component => decide (component ∈ resources)) other = false :=
      decide_eq_false notListed
    rw [List.singleton_append, List.takeWhile_cons_of_neg (by simpa using notListed),
      List.append_nil]
    rw [(List.takeWhile_prefix _).eq_of_length all]
  next => rfl

theorem followable_append
    (listed : ∀ component ∈ block, component ∈ resources) (notListed : other ∉ resources) :
    Followable resources (block ++ other :: rest) ↔
      block.Sublist resources ∧ Followable resources rest := by
  rw [Followable, Followable, trailing_append notListed, ← and_assoc]
  refine and_congr_left fun _ => ⟨fun blocks => ⟨?_, fun inner inside => ?_⟩, ?_⟩
  · exact blocks block (List.prefix_append _ _).isInfix listed
  · exact blocks inner (inside.trans ((List.suffix_cons _ _).trans
      (List.suffix_append _ _)).isInfix)
  · rintro ⟨first, later⟩ inner inside innerListed
    have apart : other ∉ inner := fun member => notListed (innerListed other member)
    rcases infix_of_infix_append inside apart with before | behind
    · exact before.sublist.trans first
    · exact later inner behind innerListed

theorem followable_of_listed (notEmpty : block ≠ [])
    (listed : ∀ component ∈ block, component ∈ resources) :
    Followable resources block ↔ consume resources block = some [] := by
  have whole : trailing resources block = block :=
    List.rtakeWhile_eq_self_iff.mpr fun component member => decide_eq_true (listed component member)
  rw [Followable, whole, consume_eq_nil_iff]
  constructor
  · rintro ⟨blocks, notShorter⟩
    exact ⟨blocks block (List.infix_refl _) listed, fun _ => notShorter notEmpty⟩
  · rintro ⟨sublist, notShorter⟩
    refine ⟨fun inner inside _ => inside.sublist.trans sublist, fun _ => notShorter ?_⟩
    rintro rfl
    exact notEmpty (List.sublist_nil.mp sublist)

theorem others_of_listed
    (listed : ∀ component ∈ block, component ∈ resources) : others resources block = [] := by
  rw [others, List.filter_eq_nil_iff]
  intro component member
  simpa using listed component member

theorem others_append
    (listed : ∀ component ∈ block, component ∈ resources) (notListed : other ∉ resources) :
    others resources (block ++ other :: rest) = other :: others resources rest := by
  have first := others_of_listed listed
  rw [others] at first
  rw [others, List.filter_append, first, List.nil_append]
  exact List.filter_cons_of_pos (decide_eq_true notListed)

theorem sweep_eq_iff (fuel : Nat) (enough : rest.length ≤ fuel) :
    sweep resources fuel rest = some (others resources rest) ↔ Followable resources rest := by
  induction fuel generalizing rest with
  | zero =>
      rw [List.length_eq_zero_iff.mp (Nat.le_zero.mp enough)]
      exact iff_of_true rfl followable_nil
  | succ fuel ih =>
      by_cases isEmpty : rest = []
      · rw [isEmpty]
        exact iff_of_true (if_pos rfl) followable_nil
      rw [sweep, if_neg isEmpty]
      -- the resources of the entity in front, and the first other one
      have split := List.takeWhile_append_dropWhile (p := fun component =>
          decide (component ∈ resources))
        (l := rest)
      have listed : ∀ component ∈ rest.takeWhile (fun component => decide (component ∈ resources)),
          component ∈ resources := by
        intro component member
        have taken := List.mem_takeWhile_imp member
        exact of_decide_eq_true taken
      cases behind : rest.dropWhile fun component => decide (component ∈ resources) with
      | nil =>
          rw [behind, List.append_nil] at split
          rw [split] at listed
          rw [followable_of_listed isEmpty listed, others_of_listed listed]
          cases consume resources rest with
          | none => simp
          | some left =>
              cases left with
              | nil | cons => simp
      | cons other rest' =>
          have notListed : other ∉ resources := by
            have stops := List.head?_dropWhile_not (fun component => decide (component ∈ resources))
                rest
            rw [behind] at stops
            simpa using stops
          generalize rest.takeWhile (fun component => decide (component ∈ resources)) = block
            at split listed
          rw [behind] at split
          subst split
          have short : rest'.length ≤ fuel := by
            rw [List.length_append, List.length_cons] at enough
            omega
          rw [followable_append listed notListed, others_append listed notListed, ← ih short]
          have front := @consume_block resources block rest' other notListed
          rcases front with ⟨sublist, found⟩ | ⟨notSublist, kept, member, behind, found⟩
          · rw [found, Option.bind_some, and_iff_right sublist, Option.map_eq_some_iff]
            simp
          · refine iff_of_false (fun same => ?_) fun both => notSublist both.1
            rw [found, Option.bind_some, Option.map_eq_some_iff] at same
            obtain ⟨later, -, same⟩ := same
            have isOther : kept = other := (List.cons.inj same).1
            exact notListed (isOther ▸ listed kept member)

theorem followable_of_isEmpty : Followable [] components := by
  refine ⟨fun block _ listed => ?_, fun notEmpty => absurd ?_ notEmpty⟩
  · cases block with
    | nil => exact List.Sublist.slnil
    | cons component block =>
        exact absurd (listed component (List.mem_cons_self ..)) List.not_mem_nil
  · cases isTrailing : trailing [] components with
    | nil => rfl
    | cons component rest =>
        have member : component ∈ trailing [] components := isTrailing ▸ List.mem_cons_self ..
        have listed := List.mem_rtakeWhile_imp member
        simp at listed

theorem leaves_setResources {warden : EntityWarden} {gid : Uid} {group : EntityGroupItem}
    {left expected : List Uid} :
    Leaves warden gid group expected (some (warden.setResources gid group left, .GXF_SUCCESS)) ↔
      left = expected := by
  constructor
  · rintro ⟨after, same, isGroup, -⟩
    cases same
    rw [setResources, AList.lookup_insert] at isGroup
    cases isGroup
    rfl
  · rintro rfl
    exact ⟨_, rfl, AList.lookup_insert _, fun other notGid => AList.lookup_insert_ne notGid, rfl⟩

/-- For every group and every list of resources of an entity in it: the call leaves exactly the
other resources of the group, in their order, and reads nothing behind the end, if and only if the
group can be followed. -/
theorem depopulate_iff_followable {warden : EntityWarden} {eid : Uid} {item : EntityItem}
    {group : EntityGroupItem} (isItem : warden.entities.lookup eid = some item)
    (isGroup : warden.entityGroups.lookup item.gid = some group) (resources : List Uid) :
    Leaves warden item.gid group (others resources group.resourceComponents)
        (warden.depopulateResourcesFromEntityGroup eid (.ok resources)) ↔
      Followable resources group.resourceComponents := by
  rw [depopulateResourcesFromEntityGroup]
  by_cases isEmpty : resources = []
  · subst isEmpty
    have same : others [] group.resourceComponents = group.resourceComponents :=
      List.filter_eq_self.mpr fun component _ => decide_eq_true List.not_mem_nil
    rw [if_pos rfl, same]
    exact iff_of_true ⟨warden, rfl, isGroup, fun _ _ => rfl, rfl⟩ followable_of_isEmpty
  · have swept := @depopulateFrom_append resources group.resourceComponents.length []
      group.resourceComponents
    have noBefore : (fun left : List Uid => [] ++ left) = id := rfl
    rw [List.length_nil, List.nil_append, noBefore, Option.map_id, id_eq] at swept
    simp only [if_neg isEmpty, isItem, isGroup]
    rw [swept, ← sweep_eq_iff _ (Nat.le_refl _)]
    cases sweep resources group.resourceComponents.length group.resourceComponents with
    | none => exact iff_of_false (fun ⟨_, same, _⟩ => by cases same) nofun
    | some left => rw [Option.map_some, leaves_setResources, Option.some_inj]

/-- A warden with an entity of the default group, which has some resources. -/
def sampleWarden (resourceComponents : List Uid) : EntityWarden :=
  let created := (fresh 1).create 2 "entity"
  created.warden.setResources 1 ⟨1, kDefaultEntityGroupName, [], resourceComponents⟩
    resourceComponents

/-- The resources of the entity in their order, among others. -/
theorem depopulate_neighbours :
    Leaves (sampleWarden [7, 3, 4, 8]) 1 ⟨1, kDefaultEntityGroupName, [], [7, 3, 4, 8]⟩ [7, 8]
      ((sampleWarden [7, 3, 4, 8]).depopulateResourcesFromEntityGroup 2 (.ok [3, 4])) := by
  have isItem : (sampleWarden [7, 3, 4, 8]).entities.lookup 2 = some (EntityItem.create 2 1) := rfl
  refine (depopulate_iff_followable isItem rfl [3, 4]).mpr ?_
  have behind : Followable [3, 4] ([3, 4] ++ 8 :: []) :=
    (followable_append (fun _ member => member) (by decide)).mpr
      ⟨List.Sublist.refl _, followable_nil⟩
  exact (followable_append (List.forall_mem_nil _) (by decide)).mpr ⟨List.nil_sublist _, behind⟩

/-- In another order, a resource of the entity stays; when the group ends before the entity's list
does, the loop reads behind the end. -/
theorem depopulate_out_of_order :
    ¬Leaves (sampleWarden [7, 4, 3, 8]) 1 ⟨1, kDefaultEntityGroupName, [], [7, 4, 3, 8]⟩ [7, 8]
        ((sampleWarden [7, 4, 3, 8]).depopulateResourcesFromEntityGroup 2 (.ok [3, 4])) ∧
      (sampleWarden [7, 3]).depopulateResourcesFromEntityGroup 2 (.ok [3, 4]) = none := by
  constructor
  · rintro ⟨after, same, isGroup, -⟩
    have left : ((sampleWarden [7, 4, 3, 8]).depopulateResourcesFromEntityGroup 2 (.ok [3, 4])).map
        (fun outcome => (outcome.1.entityGroups.lookup 1).map EntityGroupItem.resourceComponents) =
          some (some [7, 3, 8]) := by decide
    rw [same, Option.map_some, isGroup] at left
    exact absurd left (by decide)
  · rfl

end Gxf.Std.EntityWarden
