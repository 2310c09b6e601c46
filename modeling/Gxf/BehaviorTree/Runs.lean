import Gxf.BehaviorTree.Denotation

/-!
# Every run of a behaviour tree

Parents and children agree at any time: what a parent has not started is fresh, what it waits for
can be executed or is done, and what it went past is done with the value that let it go on.
-/

namespace Gxf.BehaviorTree

open Gxf.Core Gxf.Std Gxf.Lib
open EntityCountFailureRepeatController (setBehaviorStatus)
open World

/-- A tick of an entity that has a parent comes after its start. -/
def Ordered (events : List TreeEvent) : Prop :=
  ∀ later index parent before, events = later ++ .ticked (index :: parent) :: before →
    .started (index :: parent) ∈ before

variable {events : List TreeEvent}

theorem Ordered.started (ordered : Ordered events) (child : Path) :
    Ordered (.started child :: events) := by
  intro later index parent before split
  cases later with
  | nil => cases split
  | cons event later => exact ordered later index parent before (List.cons.inj split).2

theorem Ordered.ticked (ordered : Ordered events) {path : Path}
    (begun : ∀ index parent, path = index :: parent → .started path ∈ events) :
    Ordered (.ticked path :: events) := by
  intro later index parent before split
  cases later with
  | nil =>
      obtain ⟨same, rfl⟩ := List.cons.inj split
      cases same
      exact begun index parent rfl
  | cons event later => exact ordered later index parent before (List.cons.inj split).2

/-- The entities of a tree agree with each other. -/
structure Coherent (tree : Behavior) (parts : World.Parts) (world : World) : Prop where
  plain : ∀ path, Plain (world.nodes path).item (parts.codelet path) (parts.term path)
  past : ∀ path, (world.nodes path).item.status = .GXF_ENTITY_STATUS_STARTED →
    (world.nodes path).item.lastExecutionTimestamp ≤ world.clock
  stage : ∀ path behavior, tree.get? path = some behavior → world.Stage path behavior
  visited : ∀ path behavior index child, tree.get? path = some behavior →
    behavior.children[index]? = some child → ¬(world.nodes (index :: path)).Fresh →
    behavior.Visits index ∧ .started (index :: path) ∈ world.events
  root : ¬(world.nodes []).Fresh
  decided : ∀ path, .ticked path ∈ world.events → Needed tree path
  ordered : Ordered world.events

namespace World

variable {world next : World} {path : Path} {behavior : Behavior}

variable {change : Node → Node} {other : Path}

theorem modify_self : (world.modify path change).nodes path = change (world.nodes path) :=
  Function.update_self ..

theorem modify_of_ne (ne : other ≠ path) :
    (world.modify path change).nodes other = world.nodes other :=
  Function.update_of_ne ne ..

theorem startChild_nodes (childId : Nat) : (world.startChild path childId).nodes =
    (world.modify (childId :: path) fun node => { node with condition := .READY }).nodes := rfl

theorem beforeTick_self (world : World) (path : Path) : (world.beforeTick path).nodes path =
    { world.nodes path with executionCount := (world.nodes path).executionCount + 1 } :=
  Function.update_self ..

theorem beforeTick_of_ne (ne : other ≠ path) :
    (world.beforeTick path).nodes other = world.nodes other :=
  Function.update_of_ne ne ..

theorem eq_or_mem_of_mem_beforeTick (member : .ticked other ∈ (world.beforeTick path).events) :
    other = path ∨ .ticked other ∈ world.events :=
  (List.mem_cons.mp member).imp_left TreeEvent.ticked.inj

theorem Stage.congr (stage : world.Stage path behavior) (self : next.nodes path = world.nodes path)
    (children : ∀ index child, behavior.children[index]? = some child →
      next.nodes (index :: path) = world.nodes (index :: path)) : next.Stage path behavior := by
  have kept : ∀ {property : Nat → Behavior → Node → Prop},
      world.Children path behavior property → next.Children path behavior property := by
    intro property holds index child found
    rw [children index child found]
    exact holds index child found
  cases stage with
  | fresh fresh below => exact .fresh (self ▸ fresh) (kept below)
  | unticked called unticked below => exact .unticked (self ▸ called) (self ▸ unticked) (kept below)
  | polling called polling found active others =>
      have current := children _ _ found
      rw [← self] at found active others current
      exact .polling (self ▸ called) (self ▸ polling) found (current ▸ active) (kept others)
  | done done below => exact .done (self ▸ done) (kept below)

theorem Stage.child (stage : world.Stage path behavior) {index : Nat} {child : Behavior}
    (found : behavior.children[index]? = some child)
    (called : (world.nodes (index :: path)).Called)
    (after : (next.nodes (index :: path)).Called ∨ (next.nodes (index :: path)).Done child.value)
    (self : next.nodes path = world.nodes path)
    (siblings : ∀ other, other ≠ index →
      next.nodes (other :: path) = world.nodes (other :: path)) : next.Stage path behavior := by
  cases stage with
  | fresh _ below | unticked _ _ below => exact absurd (below index child found) called.not_fresh
  | done _ below =>
      rcases below index child found with fresh | done
      · exact absurd fresh called.not_fresh
      · exact absurd done called.not_done
  | @polling self' polling current isCurrent active others =>
      by_cases same : index = (world.nodes path).currentChildId
      · cases (same ▸ found).symm.trans isCurrent
        refine @Stage.polling _ _ _ (self ▸ self') (self ▸ polling) child ?_ ?_ ?_
        · rw [self]
          exact isCurrent
        · rw [self, ← same]
          exact after
        · intro other sibling otherFound ne
          rw [self, ← same] at ne
          rw [self, siblings other ne]
          exact others other sibling otherFound (same ▸ ne)
      · rcases others index child found same with fresh | done
        · exact absurd fresh called.not_fresh
        · exact absurd done.2 called.not_done

end World

namespace Coherent

variable {tree behavior : Behavior} {parts : World.Parts} {world next : World} {path : Path}

theorem children_fresh (coherent : Coherent tree parts world)
    (found : tree.get? path = some behavior) (fresh : (world.nodes path).Fresh) :
    world.Children path behavior fun _ _ node => node.Fresh := by
  cases coherent.stage path behavior found with
  | fresh _ children => exact children
  | unticked called | polling called => exact absurd fresh called.not_fresh
  | done done => exact absurd fresh done.not_fresh

/-- Only entities that the value depends on are started. -/
theorem needed (coherent : Coherent tree parts world) :
    ∀ {path : Path} {behavior : Behavior}, tree.get? path = some behavior →
      ¬(world.nodes path).Fresh → Needed tree path := by
  intro path
  induction path with
  | nil => exact fun _ _ => trivial
  | cons index parent ih =>
      intro behavior found started
      obtain ⟨above, isAbove, isChild⟩ := Option.bind_eq_some_iff.mp found
      have visits := (coherent.visited parent above index behavior isAbove isChild started).1
      refine ⟨ih isAbove fun fresh => started ?_, above, isAbove, visits⟩
      exact coherent.children_fresh isAbove fresh index behavior isChild

/-- A change of one entity, and of the term of a fresh child that it starts. -/
structure Changes (tree : Behavior) (parts : World.Parts) (path : Path) (behavior : Behavior)
    (child : Option Nat) (world next : World) : Prop where
  plain : Plain (next.nodes path).item (parts.codelet path) (parts.term path)
  past : (next.nodes path).item.lastExecutionTimestamp ≤ world.clock
  clock : next.clock = world.clock
  self : (next.nodes path).Called ∨ (next.nodes path).Done behavior.value
  stage : next.Stage path behavior
  frame : ∀ other, other ≠ path → (∀ index, child = some index → other ≠ index :: path) →
    next.nodes other = world.nodes other
  visits : ∀ index, child = some index → behavior.Visits index
  fresh : ∀ index, child = some index → (world.nodes (index :: path)).Fresh
  begun : ∀ index, child = some index →
    next.nodes (index :: path) = { world.nodes (index :: path) with condition := .READY } ∧
      .started (index :: path) ∈ next.events
  grown : world.events ⊆ next.events
  ticks : ∀ other, .ticked other ∈ next.events → other = path ∨ .ticked other ∈ world.events
  ordered : Ordered next.events
  /-- The behaviour comes closer to its end, unless it has to wait for a child. -/
  advance : (next.nodes path).rank behavior.children.length <
    (world.nodes path).rank behavior.children.length ∨ world.Waits path behavior

theorem called_of_fresh {node : Node} (fresh : node.Fresh) :
    ({ node with condition := .READY } : Node).Called :=
  ⟨rfl, fresh.repeatCount, fresh.dropped, .inl fresh.behaviorStatus⟩

section

variable (coherent : Coherent tree parts world)
include coherent

section

variable (found : tree.get? path = some behavior)
include found

theorem update (called : (world.nodes path).Called)
    {child : Option Nat} (changes : Changes tree parts path behavior child world next) :
    Coherent tree parts next := by
  have other_child : ∀ other, (∃ index, child = some index ∧ other = index :: path) ∨
      ∀ index, child = some index → other ≠ index :: path := by
    intro other
    by_cases isChild : ∃ index, child = some index ∧ other = index :: path
    · exact .inl isChild
    · exact .inr fun index started same => isChild ⟨index, started, same⟩
  constructor
  · intro other
    by_cases same : other = path
    · exact same ▸ changes.plain
    · rcases other_child other with ⟨index, started, rfl⟩ | kept
      · rw [(changes.begun index started).1]
        exact coherent.plain _
      · rw [changes.frame other same kept]
        exact coherent.plain other
  · intro other status
    rw [changes.clock]
    by_cases same : other = path
    · exact same ▸ changes.past
    · rcases other_child other with ⟨index, started, rfl⟩ | kept
      · rw [(changes.begun index started).1] at status ⊢
        exact coherent.past _ status
      · rw [changes.frame other same kept] at status ⊢
        exact coherent.past other status
  · intro other entity isEntity
    by_cases same : other = path
    · subst same
      cases found.symm.trans isEntity
      exact changes.stage
    · have stage := coherent.stage other entity isEntity
      rcases other_child other with ⟨index, started, rfl⟩ | kept
      · -- the started child: its own children are as fresh as before
        have fresh := changes.fresh index started
        have children := coherent.children_fresh isEntity fresh
        obtain ⟨begun, _⟩ := changes.begun index started
        refine .unticked (begun ▸ called_of_fresh fresh) ?_ ?_
        · rw [begun]
          exact .inl fresh.status
        · intro below behavior isBelow
          rw [changes.frame (below :: index :: path)
            (fun eq => absurd (congrArg List.length eq) (by simp; omega))
            fun _ _ eq => absurd (congrArg List.length eq) (by simp)]
          exact children below behavior isBelow
      · have self := changes.frame other same kept
        by_cases above : ∃ index, path = index :: other
        · obtain ⟨index, rfl⟩ := above
          obtain ⟨parent, isParent, isChild⟩ := Option.bind_eq_some_iff.mp found
          cases isParent.symm.trans isEntity
          refine stage.child isChild called changes.self self fun sibling ne => ?_
          refine changes.frame _ (fun eq => ne (List.cons.inj eq).1) ?_
          intro below _ eq
          exact absurd (congrArg List.length eq) (by simp)
        · refine stage.congr self fun index below _ => changes.frame _ ?_ ?_
          · exact fun eq => above ⟨index, eq.symm⟩
          · intro begun _ eq
            exact same (List.cons.inj eq).2
  · intro parent entity index below isEntity isBelow started
    by_cases same : index :: parent = path
    · obtain ⟨visits, event⟩ := coherent.visited parent entity index below isEntity isBelow
        (same ▸ called.not_fresh)
      exact ⟨visits, changes.grown event⟩
    · rcases other_child (index :: parent) with ⟨begun, isBegun, eq⟩ | kept
      · obtain ⟨rfl, rfl⟩ := List.cons.inj eq
        cases found.symm.trans isEntity
        exact ⟨changes.visits index isBegun, (changes.begun index isBegun).2⟩
      · rw [changes.frame _ same kept] at started
        obtain ⟨visits, event⟩ := coherent.visited parent entity index below isEntity isBelow
          started
        exact ⟨visits, changes.grown event⟩
  · by_cases same : path = []
    · subst same
      exact changes.self.elim Node.Called.not_fresh Node.Done.not_fresh
    · rw [changes.frame [] (Ne.symm same) (by simp)]
      exact coherent.root
  · intro other ticked
    rcases changes.ticks other ticked with rfl | before
    · exact coherent.needed found called.not_fresh
    · exact coherent.decided other before
  · exact changes.ordered

omit found in
theorem execute_notStarted (called : (world.nodes path).Called)
    (status : (world.nodes path).item.status = .GXF_ENTITY_STATUS_NOT_STARTED)
    (children : world.Children path behavior fun _ _ node => node.Fresh) :
    Changes tree parts path behavior none world (world.execute behavior path) := by
  have plain := coherent.plain path
  rw [execute_of_notStarted plain status]
  have self : ({ world.nodes path with
      item := startedItem (world.nodes path).item (parts.codelet path) world.clock
      executionCount := 0 } : Node).Called :=
    ⟨called.condition, called.repeatCount, called.dropped, called.pending⟩
  constructor
  · rw [modify_self]
    exact ⟨plain.codelets, plain.terms, plain.combiners, plain.components⟩
  · rw [modify_self]
    exact le_rfl
  · rfl
  · rw [modify_self]
    exact .inl self
  · refine .unticked ?_ ?_ fun index child isChild => ?_
    · rw [modify_self]
      exact self
    · rw [modify_self]
      exact .inr ⟨rfl, rfl⟩
    · rw [modify_of_ne (List.cons_ne_self _ _)]
      exact children index child isChild
  · exact fun other ne _ => modify_of_ne ne
  · exact fun index started => by cases started
  · exact fun index started => by cases started
  · exact fun index started => by cases started
  · exact List.Subset.refl _
  · exact fun other ticked => .inr ticked
  · exact coherent.ordered
  · left
    rw [modify_self]
    simp [Node.rank, called.dropped, status, startedItem]

theorem ticking (called : (world.nodes path).Called)
    (status : (world.nodes path).item.status = .GXF_ENTITY_STATUS_STARTED) :
    (world.beforeTick path).Ticking path behavior := by
  have kept : ∀ index, (world.beforeTick path).nodes (index :: path) =
      world.nodes (index :: path) := fun index => beforeTick_of_ne (List.cons_ne_self _ _)
  have self := beforeTick_self world path
  cases coherent.stage path behavior found with
  | fresh fresh => exact absurd fresh called.not_fresh
  | done done => exact absurd done called.not_done
  | unticked _ unticked children =>
      have count : (world.nodes path).executionCount = 0 := by
        rcases unticked with notStarted | started
        · rw [status] at notStarted
          cases notStarted
        · exact started.2
      refine .first (by rw [self, count]) fun index child isChild => ?_
      rw [kept]
      exact children index child isChild
  | @polling _ polling current isCurrent active others =>
      have visits := (coherent.visited path behavior _ current found isCurrent
        (active.elim Node.Called.not_fresh Node.Done.not_fresh)).1
      refine @World.Ticking.again _ _ _ ?_ current ?_ ?_ ?_ ?_
      · rw [self]
        exact Nat.ne_of_gt (Nat.lt_succ_of_le polling.2)
      · rw [self]
        exact isCurrent
      · rw [self]
        exact visits
      · rw [self, kept]
        exact active
      · intro index child isChild ne
        rw [self] at ne ⊢
        rw [kept]
        exact others index child isChild ne

theorem ordered_beforeTick (called : (world.nodes path).Called) :
    Ordered (world.beforeTick path).events := by
  refine coherent.ordered.ticked fun index parent isChild => ?_
  subst isChild
  obtain ⟨above, isAbove, isChild⟩ := Option.bind_eq_some_iff.mp found
  exact (coherent.visited parent above index behavior isAbove isChild called.not_fresh).2

end

theorem plain_tickedItem (code : GxfResult) :
    Plain (tickedItem (world.nodes path).item (parts.codelet path) (parts.term path)
      (world.nodes path) world.clock code) (parts.codelet path) (parts.term path) :=
  ⟨(coherent.plain path).codelets, (coherent.plain path).terms, (coherent.plain path).combiners,
    (coherent.plain path).components⟩

theorem past_tickedItem
    (status : (world.nodes path).item.status = .GXF_ENTITY_STATUS_STARTED) (code : GxfResult) :
    (tickedItem (world.nodes path).item (parts.codelet path) (parts.term path)
      (world.nodes path) world.clock code).lastExecutionTimestamp ≤ world.clock := by
  unfold tickedItem
  dsimp only
  split
  · exact le_rfl
  · exact coherent.past path status

end

section Ticks

variable (coherent : Coherent tree parts world) (found : tree.get? path = some behavior)
  (called : (world.nodes path).Called)
  (status : (world.nodes path).item.status = .GXF_ENTITY_STATUS_STARTED)

include coherent found called status

theorem execute_finish {code : GxfResult} {condition : SchedulingConditionType}
    {currentChildId : Nat} (value : setBehaviorStatus code = statusOf behavior.value)
    (children : (world.beforeTick path).Children path behavior fun _ child node =>
      node.Fresh ∨ node.Done child.value)
    (isTicked : behavior.tick path (world.beforeTick path) =
      ((world.beforeTick path).modify path fun node => { node with condition, currentChildId },
        code)) : Changes tree parts path behavior none world (world.execute behavior path) := by
  rw [execute_of_started (coherent.plain path) status (coherent.past path status)
    called.condition isTicked, modify_modify]
  have finished : code ≠ .GXF_NOT_FINISHED := by
    rintro rfl
    cases result : behavior.value <;> rw [result] at value <;> cases value
  have dropped : ∀ before : Bool, (before || code != .GXF_NOT_FINISHED) = true :=
    fun before => by simp [finished]
  constructor
  · rw [modify_self]
    exact coherent.plain_tickedItem code
  · rw [modify_self]
    exact coherent.past_tickedItem status code
  · rfl
  · rw [modify_self]
    exact .inr ⟨dropped _, value⟩
  · refine .done ?_ fun index child isChild => ?_
    · rw [modify_self]
      exact ⟨dropped _, value⟩
    · rw [modify_of_ne (List.cons_ne_self _ _)]
      exact children index child isChild
  · exact fun other ne _ => (modify_of_ne ne).trans (beforeTick_of_ne ne)
  · exact fun index started => by cases started
  · exact fun index started => by cases started
  · exact fun index started => by cases started
  · exact List.subset_cons_self _ _
  · exact fun other => eq_or_mem_of_mem_beforeTick
  · exact coherent.ordered_beforeTick found called
  · left
    rw [modify_self, Node.rank, if_pos (dropped _), Node.rank, if_neg (by simp [called.dropped])]
    split
    · exact Nat.succ_pos _
    · split <;> exact Nat.succ_pos _

theorem execute_poll (count : ((world.beforeTick path).nodes path).executionCount ≠ 1)
    (waits : (world.beforeTick path).Waits path behavior)
    (isTicked : behavior.tick path (world.beforeTick path) =
      (world.beforeTick path, .GXF_NOT_FINISHED)) :
    Changes tree parts path behavior none world (world.execute behavior path) := by
  have ticking := coherent.ticking found called status
  rw [execute_of_started (coherent.plain path) status (coherent.past path status)
    called.condition isTicked]
  have self := beforeTick_self world path
  have pending : Node.Called { (world.beforeTick path).nodes path with
      item := tickedItem (world.nodes path).item (parts.codelet path) (parts.term path)
        (world.nodes path) world.clock .GXF_NOT_FINISHED
      repeatCount := (control ((world.beforeTick path).nodes path) .GXF_NOT_FINISHED).1
      dropped := ((world.beforeTick path).nodes path).dropped ||
        GxfResult.GXF_NOT_FINISHED != .GXF_NOT_FINISHED } := by
    rw [self]
    exact ⟨called.condition, called.repeatCount, by simp [called.dropped], .inr rfl⟩
  constructor
  · rw [modify_self]
    exact coherent.plain_tickedItem _
  · rw [modify_self]
    exact coherent.past_tickedItem status _
  · rfl
  · rw [modify_self]
    exact .inl pending
  · cases ticking with
    | first first => exact absurd first count
    | @again _ current isCurrent visits active siblings =>
        refine @World.Stage.polling _ _ _ ?_ ?_ current ?_ ?_ ?_
        · rw [modify_self]
          exact pending
        · rw [modify_self, self]
          exact ⟨rfl, Nat.succ_pos _⟩
        · rw [modify_self]
          exact isCurrent
        · rw [modify_self, modify_of_ne (List.cons_ne_self _ _)]
          exact active
        · intro index child isChild ne
          rw [modify_self] at ne ⊢
          rw [modify_of_ne (List.cons_ne_self _ _)]
          exact siblings index child isChild ne
  · exact fun other ne _ => (modify_of_ne ne).trans (beforeTick_of_ne ne)
  · exact fun index started => by cases started
  · exact fun index started => by cases started
  · exact fun index started => by cases started
  · exact List.subset_cons_self _ _
  · exact fun other => eq_or_mem_of_mem_beforeTick
  · exact coherent.ordered_beforeTick found called
  · right
    rwa [World.Waits, self, beforeTick_of_ne (List.cons_ne_self _ _)] at waits

/-- A child that is started comes after those that were started before. -/
theorem rank_start {index : Nat} {child : Behavior}
    (isChild : behavior.children[index]? = some child)
    (fresh : (world.nodes (index :: path)).Fresh)
    (siblings : (world.beforeTick path).Children path behavior fun other child node =>
      other ≠ index → node.Fresh ∨ other < index ∧ node.Done child.value) :
    behavior.children.length - index + 1 < (world.nodes path).rank behavior.children.length ∨
      world.Waits path behavior := by
  have inside := (List.getElem?_eq_some_iff.mp isChild).1
  have rank : (world.nodes path).rank behavior.children.length =
      if (world.nodes path).executionCount = 0 then behavior.children.length + 2
      else behavior.children.length - (world.nodes path).currentChildId + 1 := by
    simp [Node.rank, called.dropped, status]
  cases coherent.stage path behavior found with
  | fresh fresh => exact absurd fresh called.not_fresh
  | done done => exact absurd done called.not_done
  | unticked _ unticked =>
      have count : (world.nodes path).executionCount = 0 :=
        unticked.elim (fun idle => absurd (status.symm.trans idle) (by decide)) And.right
      left
      rw [rank, if_pos count]
      omega
  | polling _ polling isCurrent active =>
      rcases active with waiting | done
      · exact .inr ⟨_, isCurrent, waiting⟩
      · have others := siblings _ _ isCurrent fun same => done.not_fresh (same ▸ fresh)
        rw [beforeTick_of_ne (List.cons_ne_self _ _)] at others
        have later := others.resolve_left done.not_fresh
        left
        rw [rank, if_neg (Nat.ne_of_gt polling.2)]
        omega

theorem execute_start {index : Nat} {child : Behavior}
    (isChild : behavior.children[index]? = some child) (visits : behavior.Visits index)
    (fresh : ((world.beforeTick path).nodes (index :: path)).Fresh)
    (siblings : (world.beforeTick path).Children path behavior fun other child node =>
      other ≠ index → node.Fresh ∨ other < index ∧ node.Done child.value)
    (isTicked : behavior.tick path (world.beforeTick path) =
      (((world.beforeTick path).setCurrentChildId path index).startChild path index,
        .GXF_NOT_FINISHED)) :
    Changes tree parts path behavior (some index) world (world.execute behavior path) := by
  rw [execute_of_started (coherent.plain path) status (coherent.past path status)
    called.condition isTicked]
  have child_ne : index :: path ≠ path := List.cons_ne_self _ _
  generalize isStarted : ((world.beforeTick path).setCurrentChildId path index).startChild path
    index = started
  have self : started.nodes path = { world.nodes path with
      executionCount := (world.nodes path).executionCount + 1, currentChildId := index } := by
    rw [← isStarted, startChild_nodes, modify_of_ne child_ne.symm,
      setCurrentChildId, modify_self, beforeTick_self]
  have frame : ∀ other, other ≠ path → other ≠ index :: path →
      started.nodes other = world.nodes other := by
    intro other ne ne'
    rw [← isStarted, startChild_nodes, modify_of_ne ne', setCurrentChildId,
      modify_of_ne ne, beforeTick_of_ne ne]
  have begun : started.nodes (index :: path) =
      { world.nodes (index :: path) with condition := .READY } := by
    rw [← isStarted, startChild_nodes, modify_self, setCurrentChildId,
      modify_of_ne child_ne, beforeTick_of_ne child_ne]
  have events : started.events =
      .started (index :: path) :: .ticked path :: world.events := isStarted ▸ rfl
  have clock : started.clock = world.clock := isStarted ▸ rfl
  rw [beforeTick_of_ne child_ne] at fresh
  have pending : Node.Called { started.nodes path with
      item := tickedItem (world.nodes path).item (parts.codelet path) (parts.term path)
        (world.nodes path) world.clock .GXF_NOT_FINISHED
      repeatCount := (control (started.nodes path) .GXF_NOT_FINISHED).1
      dropped := (started.nodes path).dropped ||
        GxfResult.GXF_NOT_FINISHED != .GXF_NOT_FINISHED } := by
    rw [self]
    exact ⟨called.condition, called.repeatCount, by simp [called.dropped], .inr rfl⟩
  constructor
  · rw [modify_self]
    exact coherent.plain_tickedItem _
  · rw [modify_self]
    exact coherent.past_tickedItem status _
  · exact clock
  · rw [modify_self]
    exact .inl pending
  · refine @World.Stage.polling _ _ _ ?_ ?_ child ?_ ?_ ?_
    · rw [modify_self]
      exact pending
    · rw [modify_self, self]
      exact ⟨rfl, Nat.succ_pos _⟩
    · rw [modify_self, self]
      exact isChild
    · rw [modify_self, self, modify_of_ne child_ne, begun]
      exact .inl (called_of_fresh fresh)
    · intro other sibling isSibling ne
      rw [modify_self, self] at ne ⊢
      have other_ne : other :: path ≠ index :: path := fun eq => ne (List.cons.inj eq).1
      rw [modify_of_ne (List.cons_ne_self _ _), frame _ (List.cons_ne_self _ _) other_ne,
        ← beforeTick_of_ne (List.cons_ne_self other path)]
      exact siblings other sibling isSibling ne
  · intro other ne ne'
    rw [modify_of_ne ne]
    exact frame other ne (ne' index rfl)
  · rintro _ ⟨⟩
    exact visits
  · rintro _ ⟨⟩
    exact fresh
  · rintro _ ⟨⟩
    refine ⟨(modify_of_ne child_ne).trans begun, ?_⟩
    exact events ▸ List.mem_cons_self ..
  · intro event member
    exact events ▸ List.mem_cons_of_mem _ (List.mem_cons_of_mem _ member)
  · intro other member
    have later := events ▸ member
    rcases List.mem_cons.mp later with isBegin | before
    · cases isBegin
    · exact eq_or_mem_of_mem_beforeTick before
  · exact events ▸ (coherent.ordered_beforeTick found called).started _
  · have rank : Node.rank behavior.children.length { started.nodes path with
        item := tickedItem (world.nodes path).item (parts.codelet path) (parts.term path)
          (world.nodes path) world.clock .GXF_NOT_FINISHED
        repeatCount := (control (started.nodes path) .GXF_NOT_FINISHED).1
        dropped := (started.nodes path).dropped ||
          GxfResult.GXF_NOT_FINISHED != .GXF_NOT_FINISHED } =
        behavior.children.length - index + 1 := by
      simp [Node.rank, self, called.dropped, tickedItem]
    rw [modify_self, rank]
    exact coherent.rank_start found called status isChild fresh siblings

end Ticks

section

variable (coherent : Coherent tree parts world)
include coherent

theorem execute_started
    (found : tree.get? path = some behavior) (called : (world.nodes path).Called)
    (status : (world.nodes path).item.status = .GXF_ENTITY_STATUS_STARTED) :
    ∃ child, Changes tree parts path behavior child world (world.execute behavior path) := by
  have ready : ((world.beforeTick path).nodes path).condition = .READY := by
    rw [beforeTick_self]
    exact called.condition
  have outcome := outcome_tick ready (coherent.ticking found called status)
  generalize isTicked : behavior.tick path (world.beforeTick path) = result at outcome
  cases outcome with
  | finish value children =>
      exact ⟨none, coherent.execute_finish found called status value children isTicked⟩
  | poll count waits =>
      exact ⟨none, coherent.execute_poll found called status count waits isTicked⟩
  | start isChild visits fresh siblings =>
      exact ⟨_, coherent.execute_start found called status isChild visits fresh siblings isTicked⟩

theorem called_of_canExecute
    (found : tree.get? path = some behavior) (can : world.CanExecute path) :
    (world.nodes path).Called := by
  cases coherent.stage path behavior found with
  | fresh fresh _ =>
      have both := fresh.condition.symm.trans can.1
      cases both
  | unticked called | polling called => exact called
  | done done =>
      have both := done.dropped.symm.trans can.2
      cases both

theorem execute_changes (found : tree.get? path = some behavior)
    (called : (world.nodes path).Called) :
    ∃ child, Changes tree parts path behavior child world (world.execute behavior path) := by
  cases coherent.stage path behavior found with
  | fresh fresh => exact absurd fresh called.not_fresh
  | done done => exact absurd done called.not_done
  | polling _ polling => exact coherent.execute_started found called polling.1
  | unticked _ unticked children =>
      rcases unticked with notStarted | started
      · exact ⟨none, coherent.execute_notStarted called notStarted children⟩
      · exact coherent.execute_started found called started.1

theorem execute (found : tree.get? path = some behavior) (can : world.CanExecute path) :
    Coherent tree parts (world.execute behavior path) := by
  have called := coherent.called_of_canExecute found can
  obtain ⟨child, changes⟩ := coherent.execute_changes found called
  exact coherent.update found called changes

/-- Time passes. -/
theorem elapse (elapsed : Nat) :
    Coherent tree parts { world with clock := world.clock + elapsed } where
  plain := coherent.plain
  past path started := (coherent.past path started).trans (Int.le_add_of_nonneg_right
    (Int.natCast_nonneg elapsed))
  stage path behavior found := (coherent.stage path behavior found).congr rfl fun _ _ _ => rfl
  visited := coherent.visited
  root := coherent.root
  decided := coherent.decided
  ordered := coherent.ordered

theorem step (path : Path) (elapsed : Nat) :
    Coherent tree parts (world.step tree path elapsed) := by
  have later := coherent.elapse elapsed
  unfold World.step
  dsimp only
  split
  · exact later
  · split
    · exact later.execute ‹_› ‹_›
    · exact later

end

theorem start (tree : Behavior) (parts : World.Parts) (clock : Int) :
    Coherent tree parts (World.start parts clock) := by
  have fresh : ∀ index path, ((World.start parts clock).nodes (index :: path)).Fresh :=
    fun index path => ⟨rfl, rfl, rfl, rfl, rfl⟩
  have root : ((World.start parts clock).nodes []).Called := ⟨rfl, rfl, rfl, .inl rfl⟩
  constructor
  · exact fun path => ⟨rfl, by simp [World.start, EntityItem.activate], rfl, rfl⟩
  · exact fun path started => by cases started
  · intro path behavior _
    cases path with
    | nil => exact .unticked root (.inl rfl) fun index child _ => fresh index []
    | cons index parent =>
        exact .fresh (fresh index parent) fun below child _ => fresh below (index :: parent)
  · exact fun path behavior index child _ _ started => absurd (fresh index path) started
  · exact root.not_fresh
  · exact fun path ticked => by cases ticked
  · exact fun later index parent before split => by cases later <;> cases split

theorem computes (coherent : Coherent tree parts world) : Computes tree world := by
  have root := coherent.stage [] tree rfl
  constructor
  · intro finished
    cases root with
    | fresh fresh => exact absurd fresh coherent.root
    | done done => exact done.behaviorStatus
    | unticked called | polling called =>
        rcases finished with dropped | success | failure
        · exact absurd (called.dropped.symm.trans dropped) (by decide)
        · rcases called.pending with init | running
          · exact absurd (init.symm.trans success) (by decide)
          · exact absurd (running.symm.trans success) (by decide)
        · rcases called.pending with init | running
          · exact absurd (init.symm.trans failure) (by decide)
          · exact absurd (running.symm.trans failure) (by decide)
  · exact coherent.decided
  · exact coherent.ordered
  · intro notDropped
    refine ⟨[], rfl, ?_⟩
    cases root with
    | fresh fresh => exact absurd fresh coherent.root
    | done done => exact absurd (notDropped.symm.trans done.dropped) (by decide)
    | unticked called | polling called => exact ⟨called.condition, called.dropped⟩

end Coherent

/-- Every run of a behaviour tree computes its value, in whatever order the entities are
executed. -/
theorem computes_run (tree : Behavior) (parts : World.Parts) (clock : Int)
    (ops : List (Path × Nat)) :
    Computes tree ((system tree).run (World.start parts clock) ops) :=
  (@System.invariant_run_of_forall _ _ _ (system tree) (Coherent tree parts)
    (fun _ op coherent => coherent.step op.1 op.2) _ (Coherent.start tree parts clock)
    ops).computes

end Gxf.BehaviorTree
