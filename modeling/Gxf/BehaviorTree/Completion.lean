import Gxf.BehaviorTree.Runs

/-!
# Every tree can finish

From every state of a run, the entities can be executed in an order that ends with the root
finished: a behaviour that waits for a child lets it finish first.
-/

namespace Gxf.BehaviorTree

open Gxf.Core Gxf.Std Gxf.Lib
open World

theorem Behavior.sizeOf_child {behavior child : Behavior} (member : child ∈ behavior.children) :
    sizeOf child < sizeOf behavior := by
  cases behavior with
  | Constant constantStatus => cases member
  | Sequence children | Selector children =>
      have smaller := List.sizeOf_lt_of_mem member
      simp only [Behavior.children, Sequence.sizeOf_spec, Selector.sizeOf_spec] at smaller ⊢
      omega
  | Switch before desired after =>
      rw [Switch.sizeOf_spec]
      rcases List.mem_append.mp member with first | other
      · have smaller := List.sizeOf_lt_of_mem first
        omega
      · rcases List.mem_cons.mp other with rfl | last
        · omega
        · have smaller := List.sizeOf_lt_of_mem last
          omega

/-- Executions of an entity and of those below it lead from one world to another. -/
structure Leads (tree : Behavior) (parts : Parts) (path : Path) (world next : World) : Prop where
  run : ∃ ops, next = (system tree).run world ops
  coherent : Coherent tree parts next
  frame : ∀ other, ¬path <:+ other → next.nodes other = world.nodes other

variable {tree behavior : Behavior} {parts : Parts} {world mid next : World} {path : Path}

theorem Leads.trans (first : Leads tree parts path world mid) {below : Path}
    (isBelow : path <:+ below) (second : Leads tree parts below mid next) :
    Leads tree parts path world next where
  run := by
    obtain ⟨ops, rfl⟩ := first.run
    obtain ⟨more, rfl⟩ := second.run
    exact ⟨ops ++ more, (System.run_append ..).symm⟩
  coherent := second.coherent
  frame other outside := by
    rw [second.frame other fun inside => outside (isBelow.trans inside), first.frame other outside]

namespace Coherent

variable (coherent : Coherent tree parts world)
include coherent

theorem leads_refl : Leads tree parts path world world := ⟨⟨[], rfl⟩, coherent, fun _ _ => rfl⟩

variable (found : tree.get? path = some behavior) (called : (world.nodes path).Called)
include found called

/-- One execution. -/
theorem leads_execute : ∃ next, Leads tree parts path world next ∧
    ((next.nodes path).Called ∨ (next.nodes path).dropped = true) ∧
    ((next.nodes path).rank behavior.children.length <
      (world.nodes path).rank behavior.children.length ∨ world.Waits path behavior) := by
  obtain ⟨child, changes⟩ := coherent.execute_changes found called
  refine ⟨world.execute behavior path,
    ⟨⟨[(path, 0)], ?_⟩, coherent.update found called changes, ?_⟩,
    changes.self.imp_right Node.Done.dropped, changes.advance⟩
  · have same : { world with clock := world.clock + (0 : Nat) } = world := by
      rw [Int.natCast_zero, Int.add_zero]
    have can : world.CanExecute path := ⟨called.condition, called.dropped⟩
    rw [System.run, System.run]
    change _ = world.step tree path 0
    rw [World.step, same, found]
    exact (if_pos can).symm
  · intro other outside
    refine changes.frame other (fun same => outside (same ▸ List.suffix_refl path)) ?_
    exact fun index _ same => outside (same ▸ List.suffix_cons index path)

end Coherent

/-- A behaviour that was started can finish.  Every execution brings it closer to its end once the
child that it waits for, if any, has finished. -/
theorem Coherent.finishes {world : World} {path : Path} {behavior : Behavior}
    (coherent : Coherent tree parts world)
    (found : tree.get? path = some behavior) (called : (world.nodes path).Called) :
    ∃ next, Leads tree parts path world next ∧ (next.nodes path).dropped = true := by
  have settled : ∃ mid, Leads tree parts path world mid ∧ mid.nodes path = world.nodes path ∧
      ¬mid.Waits path behavior := by
    by_cases waits : world.Waits path behavior
    · obtain ⟨child, isChild, waiting⟩ := waits
      have isFound : tree.get? ((world.nodes path).currentChildId :: path) = some child := by
        rw [Behavior.get?, found]
        exact isChild
      obtain ⟨mid, leads, dropped⟩ := coherent.finishes isFound waiting
      have same : mid.nodes path = world.nodes path := by
        refine leads.frame path fun inside => ?_
        exact absurd inside.length_le (Nat.not_succ_le_self _)
      refine ⟨mid, coherent.leads_refl.trans (List.suffix_cons _ path) leads, same, ?_⟩
      rintro ⟨other, -, again⟩
      rw [same] at again
      exact absurd (again.dropped.symm.trans dropped) Bool.false_ne_true
    · exact ⟨world, coherent.leads_refl, rfl, waits⟩
  obtain ⟨mid, leads, same, free⟩ := settled
  obtain ⟨next, execution, ends, less⟩ := leads.coherent.leads_execute found (same ▸ called)
  rcases ends with again | dropped
  · have closer : (next.nodes path).rank behavior.children.length <
        (world.nodes path).rank behavior.children.length := same ▸ less.resolve_right free
    obtain ⟨last, later, dropped⟩ := execution.coherent.finishes found again
    have both := leads.trans (List.suffix_refl path) execution
    exact ⟨last, both.trans (List.suffix_refl path) later, dropped⟩
  · exact ⟨next, leads.trans (List.suffix_refl path) execution, dropped⟩
termination_by (sizeOf behavior, (world.nodes path).rank behavior.children.length)
decreasing_by
  · exact Prod.Lex.left _ _ (Behavior.sizeOf_child (List.mem_of_getElem? isChild))
  · exact Prod.Lex.right _ closer

/-- After every run, some further executions finish the root, with the value of the tree. -/
theorem run_can_finish (tree : Behavior) (parts : Parts) (clock : Int) (ops : List (Path × Nat)) :
    ∃ more, let world := (system tree).run (World.start parts clock) (ops ++ more)
      (world.nodes []).dropped = true ∧
        (world.nodes []).item.behaviorStatus = statusOf tree.value := by
  have coherent : Coherent tree parts ((system tree).run (World.start parts clock) ops) :=
    System.invariant_run_of_forall (fun _ op coherent => coherent.step op.1 op.2)
      (Coherent.start tree parts clock) ops
  have finishes : ∃ next, Leads tree parts [] ((system tree).run (World.start parts clock) ops)
      next ∧ (next.nodes []).dropped = true := by
    cases coherent.stage [] tree rfl with
    | fresh fresh => exact absurd fresh coherent.root
    | unticked called | polling called => exact coherent.finishes rfl called
    | done done => exact ⟨_, coherent.leads_refl, done.dropped⟩
  obtain ⟨next, ⟨⟨more, rfl⟩, reached, -⟩, dropped⟩ := finishes
  refine ⟨more, ?_⟩
  rw [System.run_append]
  exact ⟨dropped, reached.computes.finished (.inl dropped)⟩

end Gxf.BehaviorTree
