import Gxf.BehaviorTree.Execution
import Mathlib.Data.List.Infix

/-!
# What a behaviour tree computes

A tree has a value by recursion on the tree.  In every run the root ends with this value, no
behaviour is ticked that the value does not depend on, and none before its parent started it.
-/

namespace Gxf.BehaviorTree

open Gxf.Core Gxf.Std Gxf.Lib
open EntityCountFailureRepeatController (setBehaviorStatus)
open Behavior

namespace Behavior

mutual

def value : Behavior → Bool
  | .Constant constantStatus => constantStatus == CONSTANT_SUCCESS
  | .Sequence children => allSucceed children
  | .Selector children => someSucceeds children
  | .Switch _ desired _ => desired.value

def allSucceed : List Behavior → Bool
  | [] => true
  | child :: rest => child.value && allSucceed rest

def someSucceeds : List Behavior → Bool
  | [] => false
  | child :: rest => child.value || someSucceeds rest

end

theorem allSucceed_iff (children : List Behavior) :
    allSucceed children = true ↔ ∀ child ∈ children, child.value = true := by
  induction children with
  | nil => simp [allSucceed]
  | cons first rest ih => rw [allSucceed, Bool.and_eq_true, ih, List.forall_mem_cons]

theorem someSucceeds_eq_false_iff (children : List Behavior) :
    someSucceeds children = false ↔ ∀ child ∈ children, child.value = false := by
  induction children with
  | nil => simp [someSucceeds]
  | cons first rest ih => rw [someSucceeds, Bool.or_eq_false_iff, ih, List.forall_mem_cons]

/-- The value of a behaviour depends on that of a child, given those of the children before. -/
def Visits : Behavior → Nat → Prop
  | .Constant _, _ => False
  | .Sequence children, index =>
      ∀ before < index, ∀ child, children[before]? = some child → child.value = true
  | .Selector children, index =>
      ∀ before < index, ∀ child, children[before]? = some child → child.value = false
  | .Switch before _ _, index => index = before.length

end Behavior

/-- The value of the tree depends on a behaviour. -/
def Needed (tree : Behavior) : Path → Prop
  | [] => True
  | index :: parent =>
      Needed tree parent ∧ ∃ behavior, tree.get? parent = some behavior ∧ behavior.Visits index

def statusOf : Bool → EntityState
  | true => .GXF_BEHAVIOR_SUCCESS
  | false => .GXF_BEHAVIOR_FAILURE

/-- What every run of a tree keeps to. -/
structure Computes (tree : Behavior) (world : World) : Prop where
  /-- Once the root finished, its status is the value of the tree. -/
  finished : (world.nodes []).dropped = true ∨
    (world.nodes []).item.behaviorStatus = .GXF_BEHAVIOR_SUCCESS ∨
    (world.nodes []).item.behaviorStatus = .GXF_BEHAVIOR_FAILURE →
    (world.nodes []).item.behaviorStatus = statusOf tree.value
  decided : ∀ path, .ticked path ∈ world.events → Needed tree path
  started : ∀ later index parent before,
    world.events = later ++ .ticked (index :: parent) :: before →
      .started (index :: parent) ∈ before
  progress : (world.nodes []).dropped = false →
    ∃ path, (tree.get? path).isSome ∧ world.CanExecute path

namespace Node

/-- Nobody started the entity. -/
structure Fresh (node : Node) : Prop where
  status : node.item.status = .GXF_ENTITY_STATUS_NOT_STARTED
  behaviorStatus : node.item.behaviorStatus = .GXF_BEHAVIOR_INIT
  condition : node.condition = .WAIT
  repeatCount : node.repeatCount = 0
  dropped : node.dropped = false

/-- The entity may be executed and has not finished. -/
structure Called (node : Node) : Prop where
  condition : node.condition = .READY
  repeatCount : node.repeatCount = 0
  dropped : node.dropped = false
  pending : node.item.behaviorStatus = .GXF_BEHAVIOR_INIT ∨
    node.item.behaviorStatus = .GXF_BEHAVIOR_RUNNING

/-- The behaviour has not been ticked. -/
def Unticked (node : Node) : Prop := node.item.status = .GXF_ENTITY_STATUS_NOT_STARTED ∨
    node.item.status = .GXF_ENTITY_STATUS_STARTED ∧ node.executionCount = 0

/-- The behaviour has been ticked and waits for a child. -/
def Polling (node : Node) : Prop :=
  node.item.status = .GXF_ENTITY_STATUS_STARTED ∧ 1 ≤ node.executionCount

/-- How far the entity is from its end. -/
def rank (numChildren : Nat) (node : Node) : Nat :=
  if node.dropped then 0
  else if node.item.status ≠ .GXF_ENTITY_STATUS_STARTED then numChildren + 3
  else if node.executionCount = 0 then numChildren + 2
  else numChildren - node.currentChildId + 1

/-- The entity finished with a value. -/
structure Done (value : Bool) (node : Node) : Prop where
  dropped : node.dropped = true
  behaviorStatus : node.item.behaviorStatus = statusOf value

variable {node : Node} {value : Bool}

theorem Called.not_fresh (called : node.Called) : ¬node.Fresh := by
  intro fresh
  have both := called.condition.symm.trans fresh.condition
  cases both

theorem Called.not_done (called : node.Called) : ¬node.Done value := by
  intro done
  have both := called.dropped.symm.trans done.dropped
  cases both

theorem Done.not_fresh (done : node.Done value) : ¬node.Fresh := by
  intro fresh
  have both := done.dropped.symm.trans fresh.dropped
  cases both

end Node

/-- The entities of the children of a behaviour satisfy a property. -/
def World.Children (world : World) (path : Path) (behavior : Behavior)
    (property : Nat → Behavior → Node → Prop) : Prop :=
  ∀ index child, behavior.children[index]? = some child →
    property index child (world.nodes (index :: path))

/-- How far an entity is, with its children. -/
inductive World.Stage (world : World) (path : Path) (behavior : Behavior) : Prop
  | fresh (self : (world.nodes path).Fresh)
      (children : world.Children path behavior fun _ _ node => node.Fresh)
  | unticked (self : (world.nodes path).Called) (unticked : (world.nodes path).Unticked)
      (children : world.Children path behavior fun _ _ node => node.Fresh)
  | polling (self : (world.nodes path).Called) (polling : (world.nodes path).Polling)
      {current : Behavior}
      (found : behavior.children[(world.nodes path).currentChildId]? = some current)
      (active : (world.nodes ((world.nodes path).currentChildId :: path)).Called ∨
        (world.nodes ((world.nodes path).currentChildId :: path)).Done current.value)
      (others : world.Children path behavior fun index child node =>
        index ≠ (world.nodes path).currentChildId →
          node.Fresh ∨ index < (world.nodes path).currentChildId ∧ node.Done child.value)
  | done (self : (world.nodes path).Done behavior.value)
      (children : world.Children path behavior fun _ child node =>
        node.Fresh ∨ node.Done child.value)

/-! ## The outcomes of a tick -/

/-- A behaviour has started a child that has not finished. -/
def World.Waits (world : World) (path : Path) (behavior : Behavior) : Prop :=
  ∃ child, behavior.children[(world.nodes path).currentChildId]? = some child ∧
    (world.nodes ((world.nodes path).currentChildId :: path)).Called

/-- What a behaviour finds when it is ticked: fresh children, or a child that it started. -/
inductive World.Ticking (world : World) (path : Path) (behavior : Behavior) : Prop
  | first (count : (world.nodes path).executionCount = 1)
      (children : world.Children path behavior fun _ _ node => node.Fresh)
  | again (count : (world.nodes path).executionCount ≠ 1) {current : Behavior}
      (found : behavior.children[(world.nodes path).currentChildId]? = some current)
      (visits : behavior.Visits (world.nodes path).currentChildId)
      (active : (world.nodes ((world.nodes path).currentChildId :: path)).Called ∨
        (world.nodes ((world.nodes path).currentChildId :: path)).Done current.value)
      (others : world.Children path behavior fun index child node =>
        index ≠ (world.nodes path).currentChildId →
          node.Fresh ∨ index < (world.nodes path).currentChildId ∧ node.Done child.value)

/-- A tick finishes with the value of the behaviour, changes nothing or starts the next child. -/
inductive World.Outcome (world : World) (path : Path) (behavior : Behavior) :
    World × GxfResult → Prop
  | finish {code : GxfResult} {condition : SchedulingConditionType} {currentChildId : Nat}
      (value : setBehaviorStatus code = statusOf behavior.value)
      (children : world.Children path behavior fun _ child node =>
        node.Fresh ∨ node.Done child.value) :
      world.Outcome path behavior
        (world.modify path fun node => { node with condition, currentChildId }, code)
  | poll (count : (world.nodes path).executionCount ≠ 1) (waits : world.Waits path behavior) :
      world.Outcome path behavior (world, .GXF_NOT_FINISHED)
  | start {index : Nat} {child : Behavior} (found : behavior.children[index]? = some child)
      (visits : behavior.Visits index) (fresh : (world.nodes (index :: path)).Fresh)
      (others : world.Children path behavior fun other child node =>
        other ≠ index → node.Fresh ∨ other < index ∧ node.Done child.value) :
      world.Outcome path behavior
        ((world.setCurrentChildId path index).startChild path index, .GXF_NOT_FINISHED)

namespace World

variable {world : World} {path : Path} {behavior : Behavior}

theorem modify_congr {first second : Node → Node}
    (agree : first (world.nodes path) = second (world.nodes path)) :
    world.modify path first = world.modify path second := by
  rw [modify, modify, agree]

theorem Outcome.finish_setCondition {code : GxfResult} {condition : SchedulingConditionType}
    (value : setBehaviorStatus code = statusOf behavior.value)
    (children : world.Children path behavior fun _ child node =>
      node.Fresh ∨ node.Done child.value) :
    world.Outcome path behavior (world.setCondition path condition, code) := by
  have same : world.setCondition path condition = world.modify path fun node =>
      { node with condition, currentChildId := (world.nodes path).currentChildId } :=
    modify_congr rfl
  rw [same]
  exact .finish value children

theorem setCondition_ready (ready : (world.nodes path).condition = .READY) :
    world.setCondition path .READY = world := by
  have same : { world.nodes path with condition := .READY } = world.nodes path := by
    rw [← ready]
  rw [setCondition, modify, same, Function.update_eq_self]

variable {current : Nat} {child : Behavior} {children : List Behavior}

theorem Children.settled (found : behavior.children[current]? = some child)
    (done : (world.nodes (current :: path)).Done child.value)
    (others : world.Children path behavior fun index child node =>
      index ≠ current → node.Fresh ∨ index < current ∧ node.Done child.value) :
    world.Children path behavior fun _ child node => node.Fresh ∨ node.Done child.value := by
  intro index other otherFound
  by_cases same : index = current
  · subst same
    cases found.symm.trans otherFound
    exact .inr done
  · exact (others index other otherFound same).imp_right And.right

theorem Outcome.start_next (found : behavior.children[current]? = some child)
    (done : (world.nodes (current :: path)).Done child.value)
    (others : world.Children path behavior fun index child node =>
      index ≠ current → node.Fresh ∨ index < current ∧ node.Done child.value)
    (more : current + 1 < behavior.children.length) (visits : behavior.Visits (current + 1)) :
    world.Outcome path behavior ((world.setCurrentChildId path (current + 1)).startChild path
      (current + 1), .GXF_NOT_FINISHED) := by
  refine .start (List.getElem?_eq_getElem more) visits ?_ ?_
  · have next := others (current + 1) _ (List.getElem?_eq_getElem more) (Nat.succ_ne_self _)
    exact next.resolve_right fun before => absurd before.1 (Nat.not_lt.mpr (Nat.le_succ _))
  · intro index other otherFound _
    by_cases same : index = current
    · subst same
      cases found.symm.trans otherFound
      exact .inr ⟨Nat.lt_succ_self _, done⟩
    · exact (others index other otherFound same).imp_right
        (And.imp_left fun before => Nat.lt_succ_of_lt before)

theorem modify_modify (first second : Node → Node) : (world.modify path first).modify path second =
      world.modify path fun node => second (first node) := by
  simp [modify]

theorem Outcome.next {passing : Bool} {code : GxfResult}
    (found : behavior.children[current]? = some child) (passes : child.value = passing)
    (visits_iff : ∀ index, behavior.Visits index ↔
      ∀ before < index, ∀ child, behavior.children[before]? = some child → child.value = passing)
    (isValue : (∀ child ∈ behavior.children, child.value = passing) →
      setBehaviorStatus code = statusOf behavior.value)
    (visits : behavior.Visits current) (done : (world.nodes (current :: path)).Done child.value)
    (others : world.Children path behavior fun index child node =>
      index ≠ current → node.Fresh ∨ index < current ∧ node.Done child.value) :
    world.Outcome path behavior
      (if current + 1 ≥ behavior.children.length then
        ((world.setCurrentChildId path (current + 1)).setCondition path .NEVER, code)
      else ((world.setCurrentChildId path (current + 1)).startChild path (current + 1),
        .GXF_NOT_FINISHED)) := by
  have visitsNext : behavior.Visits (current + 1) := by
    refine (visits_iff _).mpr fun before le other otherFound => ?_
    rcases Nat.lt_succ_iff_lt_or_eq.mp le with earlier | rfl
    · exact (visits_iff _).mp visits before earlier other otherFound
    · cases found.symm.trans otherFound
      exact passes
  split
  next last =>
    rw [setCurrentChildId, setCondition, modify_modify]
    refine .finish (isValue fun other member => ?_) (Children.settled found done others)
    obtain ⟨index, otherFound⟩ := List.mem_iff_getElem?.mp member
    have before := (List.getElem?_eq_some_iff.mp otherFound).1
    exact (visits_iff _).mp visitsNext index (Nat.lt_of_lt_of_le before last) other otherFound
  next more => exact .start_next found done others (Nat.not_le.mp more) visitsNext

theorem Outcome.start_first {index : Nat}
    (inside : index < behavior.children.length) (visits : behavior.Visits index)
    (children : world.Children path behavior fun _ _ node => node.Fresh) :
    world.Outcome path behavior
      ((world.setCurrentChildId path index).startChild path index, .GXF_NOT_FINISHED) :=
  .start (List.getElem?_eq_getElem inside) visits
    (children index _ (List.getElem?_eq_getElem inside))
    fun other _ otherFound _ => .inl (children other _ otherFound)

theorem getChildStatus_cases (found : behavior.children[current]? = some child)
    (active : (world.nodes (current :: path)).Called ∨
      (world.nodes (current :: path)).Done child.value) :
    ((world.nodes (current :: path)).Called ∧
        world.getChildStatus path behavior.children.length current = .GXF_BEHAVIOR_INIT) ∨
      ((world.nodes (current :: path)).Called ∧
        world.getChildStatus path behavior.children.length current = .GXF_BEHAVIOR_RUNNING) ∨
      world.getChildStatus path behavior.children.length current = statusOf child.value ∧
        (world.nodes (current :: path)).Done child.value := by
  have inside := (List.getElem?_eq_some_iff.mp found).1
  rw [getChildStatus, if_neg (Nat.not_le.mpr inside)]
  rcases active with called | done
  · exact called.pending.imp (.intro called) fun running => .inl ⟨called, running⟩
  · exact .inr (.inr ⟨done.behaviorStatus, done⟩)

theorem outcome_constant {constantStatus : Nat} : world.Outcome path (.Constant constantStatus)
      (ConstantBehavior.tick constantStatus path world) := by
  have none : world.Children path (.Constant constantStatus) fun _ child node =>
      node.Fresh ∨ node.Done child.value := fun index child found => by cases found
  unfold ConstantBehavior.tick
  split
  next success =>
    refine .finish_setCondition ?_ none
    rw [Behavior.value, success]
    rfl
  next failure =>
    refine .finish_setCondition ?_ none
    rw [Behavior.value, beq_false_of_ne failure]
    rfl

theorem outcome_sequence (ready : (world.nodes path).condition = .READY)
    (ticking : world.Ticking path (.Sequence children)) :
    world.Outcome path (.Sequence children) (SequenceBehavior.tick children.length path world) := by
  unfold SequenceBehavior.tick
  cases ticking with
  | first count fresh =>
      rw [if_pos (by simp [isFirstTick, count])]
      split
      next empty =>
        refine .finish_setCondition ?_ fun index child found => .inl (fresh index child found)
        cases List.eq_nil_of_length_eq_zero empty
        rfl
      next some =>
        exact .start_first (Nat.pos_of_ne_zero some) (fun _ before => absurd before (by simp)) fresh
  | @again count child found visits active others =>
      rw [if_neg (by simp [isFirstTick, count])]
      dsimp only
      rcases getChildStatus_cases found active with ⟨called, init⟩ | ⟨called, running⟩ |
        ⟨status, done⟩
      · rw [show world.getChildStatus path children.length _ = _ from init]
        dsimp only
        rw [setCondition_ready ready]
        exact .poll count ⟨child, found, called⟩
      · rw [show world.getChildStatus path children.length _ = _ from running]
        dsimp only
        rw [setCondition_ready ready]
        exact .poll count ⟨child, found, called⟩
      · rw [show world.getChildStatus path children.length _ = _ from status]
        cases value : child.value with
        | true =>
            exact .next found value (fun _ => .rfl)
              (fun all => congrArg statusOf ((allSucceed_iff children).mpr all).symm)
              visits done others
        | false =>
            refine .finish_setCondition ?_ (Children.settled found done others)
            have fails : (Behavior.Sequence children).value = false := by
              refine Bool.eq_false_iff.mpr fun all => ?_
              have succeeds := (allSucceed_iff children).mp all child
                (List.mem_of_getElem? found)
              exact absurd (value.symm.trans succeeds) (by decide)
            rw [fails]
            rfl

theorem outcome_selector (ticking : world.Ticking path (.Selector children)) :
    world.Outcome path (.Selector children) (SelectorBehavior.tick children.length path world) := by
  unfold SelectorBehavior.tick
  cases ticking with
  | first count fresh =>
      rw [if_pos (by simp [isFirstTick, count])]
      split
      next empty =>
        refine .finish_setCondition ?_ fun index child found => .inl (fresh index child found)
        cases List.eq_nil_of_length_eq_zero empty
        rfl
      next some =>
        exact .start_first (Nat.pos_of_ne_zero some) (fun _ before => absurd before (by simp)) fresh
  | @again count child found visits active others =>
      rw [if_neg (by simp [isFirstTick, count])]
      dsimp only
      rcases getChildStatus_cases found active with ⟨called, init⟩ | ⟨called, running⟩ |
        ⟨status, done⟩
      · rw [show world.getChildStatus path children.length _ = _ from init]
        exact .poll count ⟨child, found, called⟩
      · rw [show world.getChildStatus path children.length _ = _ from running]
        exact .poll count ⟨child, found, called⟩
      · rw [show world.getChildStatus path children.length _ = _ from status]
        cases value : child.value with
        | false =>
            exact .next found value (fun _ => .rfl)
              (fun all => congrArg statusOf ((someSucceeds_eq_false_iff _).mpr all).symm)
              visits done others
        | true =>
            refine .finish_setCondition ?_ (Children.settled found done others)
            have succeeds : (Behavior.Selector children).value = true := by
              refine Bool.not_eq_false _ ▸ fun none => ?_
              have fails := (someSucceeds_eq_false_iff children).mp none child
                (List.mem_of_getElem? found)
              exact absurd (value.symm.trans fails) (by decide)
            rw [succeeds]
            rfl

theorem outcome_switch {before after : List Behavior} {desired : Behavior}
    (ready : (world.nodes path).condition = .READY)
    (ticking : world.Ticking path (.Switch before desired after)) :
    world.Outcome path (.Switch before desired after)
      (SwitchBehavior.tick (before.length + (after.length + 1)) before.length path world) := by
  have numChildren : (Behavior.Switch before desired after).children.length =
      before.length + (after.length + 1) := by simp [children]
  have inside : before.length < (Behavior.Switch before desired after).children.length := by
    rw [numChildren]
    exact Nat.lt_add_of_pos_right (Nat.succ_pos _)
  unfold SwitchBehavior.tick
  rw [← numChildren]
  cases ticking with
  | first count fresh =>
      rw [if_pos (by simp [isFirstTick, count]), if_neg (Nat.ne_zero_of_lt inside)]
      exact .start_first inside rfl fresh
  | @again count child found visits active others =>
      rw [if_neg (by simp [isFirstTick, count])]
      rcases getChildStatus_cases found active with ⟨called, init⟩ | ⟨called, running⟩ |
        ⟨status, done⟩
      · rw [init]
        dsimp only
        rw [setCondition_ready ready]
        exact .poll count ⟨child, found, called⟩
      · rw [running]
        dsimp only
        rw [setCondition_ready ready]
        exact .poll count ⟨child, found, called⟩
      · have chosen : child = desired := by
          rw [show (world.nodes path).currentChildId = before.length from visits] at found
          simpa [children] using found.symm
        have settled := Children.settled found done others
        rw [status]
        cases value : child.value with
        | true | false =>
            refine .finish_setCondition ?_ settled
            rw [Behavior.value, ← chosen, value]
            rfl

theorem outcome_tick (ready : (world.nodes path).condition = .READY)
    (ticking : world.Ticking path behavior) :
    world.Outcome path behavior (behavior.tick path world) := by
  cases behavior with
  | Constant constantStatus => exact outcome_constant
  | Sequence children => exact outcome_sequence ready ticking
  | Selector children => exact outcome_selector ticking
  | Switch before desired after => exact outcome_switch ready ticking

end World

end Gxf.BehaviorTree
