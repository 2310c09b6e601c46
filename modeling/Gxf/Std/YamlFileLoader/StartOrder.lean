import Gxf.Core.Result
import Mathlib.Data.List.Count

/-!
# The start order of a graph file

The loader visits the nodes that the start order names first, once for every mention, and the
other nodes with components behind them.  Subgraphs are set aside, one node for an entity.
-/

namespace Gxf.Std.YamlFileLoader

open Gxf.Core

abbrev Text := List Char

/-- What the loader reads of a node.  A null node has nothing. -/
structure YamlNode where
  name : Option Text
  startOrder : Option (List Text)
  hasComponents : Bool
  /-- Whether one of the components is a subgraph, by its type or by its name. -/
  hasSubgraph : Bool
  deriving DecidableEq

/-- The name of the entity of a node.  The prefix ends with its dot. -/
def entityName (entityPrefix : Text) (node : YamlNode) : Text :=
  node.name.elim [] (entityPrefix ++ ·)

/-- The start order, if not more than one node gives it. -/
def findStartOrder (entityPrefix : Text) (nodes : List YamlNode) : Except GxfResult (List Text) :=
  match nodes.filterMap YamlNode.startOrder with
  | [] => .ok []
  | [startOrder] => .ok (startOrder.map (entityPrefix ++ ·))
  | _ => .error .GXF_FAILURE

/-- The nodes in the order in which `load` visits them. -/
def allNodes (entityPrefix : Text) (nodes : List YamlNode) (startOrder : List Text) :
    Except GxfResult (List YamlNode) :=
  if startOrder = [] then .ok nodes
  else if startOrder.length >
      nodes.countP fun node => entityName entityPrefix node ≠ [] && node.hasComponents then
    .error .GXF_FAILURE
  else
    .ok (startOrder.flatMap (fun start => nodes.filter (entityName entityPrefix · = start)) ++
      nodes.filter fun node => node.hasComponents &&
        (entityName entityPrefix node = [] || !startOrder.contains (entityName entityPrefix node)))

/-- The nodes of which `load` finds or creates the entity. -/
def load (entityPrefix : Text) (nodes : List YamlNode) : Except GxfResult (List YamlNode) :=
  match findStartOrder entityPrefix nodes with
  | .error code => .error code
  | .ok startOrder =>
      (allNodes entityPrefix nodes startOrder).map (List.filter YamlNode.hasComponents)

/-- What remains in `subgraph_entities`, up to the order of the entities.  A node without a name
has an entity of its own. -/
def subgraphEntities (entityPrefix : Text) : List YamlNode → List YamlNode
  | [] => []
  | node :: rest =>
      if entityName entityPrefix node ≠ [] ∧
          rest.any (entityName entityPrefix · = entityName entityPrefix node) then
        subgraphEntities entityPrefix rest
      else node :: subgraphEntities entityPrefix rest

/-- The nodes whose components are instantiated. -/
def instantiated (entityPrefix : Text) (loaded : List YamlNode) : List YamlNode :=
  loaded.filter (!·.hasSubgraph) ++
    subgraphEntities entityPrefix (loaded.filter YamlNode.hasSubgraph)

/-- Every node with components is visited and instantiated once, those of the start order in
front. -/
def LoadsOnce (entityPrefix : Text) (nodes : List YamlNode) (startOrder : List Text)
    (loaded : List YamlNode) : Prop :=
  let withComponents := nodes.filter YamlNode.hasComponents
  loaded.Perm withComponents ∧ (instantiated entityPrefix loaded).Perm withComponents ∧
    loaded = startOrder.flatMap
        (fun start => withComponents.filter (entityName entityPrefix · = start)) ++
      withComponents.filter fun node => !startOrder.contains (entityName entityPrefix node)

/-- Two nodes that do not share an entity. -/
def Apart (entityPrefix : Text) (node other : YamlNode) : Prop :=
  entityName entityPrefix node ≠ [] → entityName entityPrefix node ≠ entityName entityPrefix other

instance : DecidableRel (Apart entityPrefix) := fun _ _ => inferInstanceAs (Decidable (_ → _))

variable {entityPrefix : Text} {nodes loaded : List YamlNode} {startOrder : List Text}

theorem loaded_eq (found : findStartOrder entityPrefix nodes = .ok startOrder)
    (loads : load entityPrefix nodes = .ok loaded) :
    loaded = startOrder.flatMap (fun start => (nodes.filter YamlNode.hasComponents).filter
        (entityName entityPrefix · = start)) ++
      (nodes.filter YamlNode.hasComponents).filter fun node =>
        entityName entityPrefix node = [] || !startOrder.contains
        (entityName entityPrefix node) := by
  rw [load, found] at loads
  dsimp only at loads
  rw [allNodes] at loads
  split at loads
  next none =>
    cases loads
    rw [none]
    simp
  next =>
    split at loads
    · cases loads
    · cases loads
      simp [List.filter_append, List.filter_flatMap, List.filter_filter, Bool.and_comm]

theorem count_filter_ite (property : YamlNode → Bool) (node : YamlNode) :
    (nodes.filter property).count node = if property node then nodes.count node else 0 := by
  split
  next holds => exact List.count_filter holds
  next fails => exact List.count_eq_zero.mpr fun member => fails (List.mem_filter.mp member).2

theorem count_mentions (node : YamlNode) :
    (startOrder.flatMap fun start => nodes.filter (entityName entityPrefix · = start)).count node =
      startOrder.count (entityName entityPrefix node) * nodes.count node := by
  induction startOrder with
  | nil => simp
  | cons start rest ih =>
      rw [List.flatMap_cons, List.count_append, ih, count_filter_ite, List.count_cons]
      by_cases same : entityName entityPrefix node = start
      · rw [if_pos (decide_eq_true same), if_pos (beq_iff_eq.mpr same.symm), Nat.add_mul,
          Nat.add_comm,
          Nat.one_mul]
      · simp [same, Ne.symm same]

theorem subgraphEntities_sublist (subgraphs : List YamlNode) :
    (subgraphEntities entityPrefix subgraphs).Sublist subgraphs := by
  induction subgraphs with
  | nil => exact .slnil
  | cons node rest ih =>
      rw [subgraphEntities]
      split
      · exact ih.cons node
      · exact ih.cons_cons node

theorem subgraphEntities_perm_iff (subgraphs : List YamlNode) :
    (subgraphEntities entityPrefix subgraphs).Perm subgraphs ↔
      subgraphs.Pairwise (Apart entityPrefix) := by
  induction subgraphs with
  | nil => simp [subgraphEntities]
  | cons node rest ih =>
      rw [List.pairwise_cons, ← ih, subgraphEntities]
      split
      next again =>
        obtain ⟨some, member⟩ := again
        obtain ⟨other, isMember, same⟩ := List.any_eq_true.mp member
        refine iff_of_false (fun perm => ?_) fun apart =>
          apart.1 other isMember some (of_decide_eq_true same).symm
        have smaller : (subgraphEntities entityPrefix rest).length ≤ rest.length :=
          (subgraphEntities_sublist rest).length_le
        rw [perm.length_eq] at smaller
        exact Nat.not_succ_le_self _ smaller
      next only =>
        rw [List.perm_cons]
        refine (and_iff_right fun other member some same => only ⟨some, ?_⟩).symm
        exact List.any_eq_true.mpr ⟨other, member, decide_eq_true same.symm⟩

theorem instantiated_perm_iff (perm : loaded.Perm (nodes.filter YamlNode.hasComponents)) :
    (instantiated entityPrefix loaded).Perm (nodes.filter YamlNode.hasComponents) ↔
      ((nodes.filter YamlNode.hasComponents).filter YamlNode.hasSubgraph).Pairwise
        (Apart entityPrefix) := by
  have symmetric {node other : YamlNode} (apart : Apart entityPrefix node other) :
      Apart entityPrefix other node := fun some same => apart (same ▸ some) same.symm
  rw [← (perm.filter _).pairwise_iff symmetric, ← subgraphEntities_perm_iff, instantiated]
  have parts := List.filter_append_perm (fun node : YamlNode => !node.hasSubgraph) loaded
  simp only [Bool.not_not] at parts
  refine .trans ⟨(·.trans (perm.symm.trans parts.symm)), (·.trans (parts.trans perm))⟩ ?_
  exact List.perm_append_left_iff _

theorem loadsOnce_iff (found : findStartOrder entityPrefix nodes = .ok startOrder)
    (loads : load entityPrefix nodes = .ok loaded) :
    LoadsOnce entityPrefix nodes startOrder loaded ↔ (∀ node ∈ nodes, node.hasComponents = true →
        startOrder.count (entityName entityPrefix node) ≤ 1 ∧
          (entityName entityPrefix node = [] → [] ∉ startOrder)) ∧
      ((nodes.filter YamlNode.hasComponents).filter YamlNode.hasSubgraph).Pairwise
        (Apart entityPrefix) := by
  have isLoaded := loaded_eq found loads
  have counts (node : YamlNode) : loaded.count node =
      startOrder.count (entityName entityPrefix node) *
          (nodes.filter YamlNode.hasComponents).count node +
        if entityName entityPrefix node = [] ∨ entityName entityPrefix node ∉ startOrder then
          (nodes.filter YamlNode.hasComponents).count node else 0 := by
    rw [isLoaded, List.count_append, count_mentions]
    congr 1
    rw [count_filter_ite]
    simp only [Bool.or_eq_true, decide_eq_true_iff, Bool.not_eq_true', List.contains_eq_mem,
      decide_eq_false_iff_not]
  constructor
  · rintro ⟨perm, isPerm, -⟩
    refine ⟨fun node member hasComponents => ?_, (instantiated_perm_iff perm).mp isPerm⟩
    have once := (counts node).symm.trans (perm.count_eq node)
    have positive := List.count_pos_iff.mpr (List.mem_filter.mpr ⟨member, hasComponents⟩)
    by_cases named : entityName entityPrefix node ∈ startOrder
    · have mentioned := Nat.le_mul_of_pos_left
        ((nodes.filter YamlNode.hasComponents).count node) (List.count_pos_iff.mpr named)
      have some : entityName entityPrefix node ≠ [] := fun none => by
        rw [if_pos (.inl none)] at once
        omega
      rw [if_neg (by simp [some, named]), Nat.add_zero] at once
      exact ⟨(Nat.mul_eq_right (Nat.pos_iff_ne_zero.mp positive)).mp once |> Nat.le_of_eq,
        (absurd · some)⟩
    · exact ⟨by simp [List.count_eq_zero_of_not_mem named], fun none => none ▸ named⟩
  · rintro ⟨fine, apart⟩
    have perm : loaded.Perm (nodes.filter YamlNode.hasComponents) := by
      refine List.perm_iff_count.mpr fun node => ?_
      by_cases member : node ∈ nodes.filter YamlNode.hasComponents
      · obtain ⟨once, unnamed⟩ := fine node (List.mem_filter.mp member).1
          (List.mem_filter.mp member).2
        rw [counts]
        by_cases named : entityName entityPrefix node ∈ startOrder
        · have some : entityName entityPrefix node ≠ [] := fun none => unnamed none (none ▸ named)
          rw [Nat.le_antisymm once (List.count_pos_iff.mpr named), if_neg (by simp [some, named]),
            Nat.one_mul, Nat.add_zero]
        · rw [List.count_eq_zero_of_not_mem named, if_pos (.inr named), Nat.zero_mul, Nat.zero_add]
      · rw [counts, List.count_eq_zero_of_not_mem member, Nat.mul_zero, ite_self]
    refine ⟨perm, (instantiated_perm_iff perm).mpr apart, ?_⟩
    rw [isLoaded]
    refine congrArg _ (List.filter_congr fun node member => ?_)
    have unnamed := (fine node (List.mem_filter.mp member).1 (List.mem_filter.mp member).2).2
    by_cases none : entityName entityPrefix node = []
    · simp [none, unnamed none]
    · simp [none]

/-- The start order names the third entity and then the first one, and leaves out the second one
and an entity without a name. -/
theorem loadsOnce_iff_first :
    let first : YamlNode := ⟨some ['a'], none, true, false⟩
    let second : YamlNode := ⟨some ['b'], none, true, false⟩
    let third : YamlNode := ⟨some ['c'], none, true, false⟩
    let unnamed : YamlNode := ⟨none, none, true, false⟩
    LoadsOnce [] [first, second, unnamed, third, ⟨none, some [['c'], ['a']], false, false⟩]
      [['c'], ['a']] [third, first, second, unnamed] :=
  (loadsOnce_iff (by decide) (by decide)).mpr (by decide)

theorem named_twice_loaded_twice :
    let first : YamlNode := ⟨some ['a'], none, true, false⟩
    let nodes := [first, ⟨some ['b'], none, true, false⟩, ⟨none, some [['a'], ['a']], false, false⟩]
    load [] nodes = .ok [first, first, ⟨some ['b'], none, true, false⟩] ∧
      ¬LoadsOnce [] nodes [['a'], ['a']] [first, first, ⟨some ['b'], none, true, false⟩] := by
  intro first nodes
  refine ⟨by decide, fun once => ?_⟩
  exact absurd once.1.length_eq (by decide)

end Gxf.Std.YamlFileLoader
