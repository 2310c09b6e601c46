import Gxf.Lib.Lifecycle
import Gxf.Lib.Run
import Gxf.Std.EntityWarden.Warden

/-!
# The life cycle of components

The warden initializes and deinitializes the components of its entities, with whatever
results their own functions give.  Every object that is added is a new one, and what is
called on it makes up its history.
-/

namespace Gxf.Std.EntityWarden

open Gxf.Core Gxf.Lib ComponentItem

/-- The components of an entity that can be initialized. -/
def EntityItem.pointers (item : EntityItem) : List Pointer :=
  item.components.filterMap componentPointer

/-- The calls of other parts of the runtime. -/
inductive LifecycleOp where
  | create (eid : Uid) (entityName : String)
  | addComponent (eid cid : Uid) (tid : Tid) (isComponent : Bool)
  | init (eid : Uid) (available : Uid → Except GxfResult Unit) (results : Results)
  | deinit (eid : Uid) (results : Results)
  | destroy (eid : Uid) (factory : Option ComponentFactory)
  | cleanup (factory : Option ComponentFactory) (results : Results)

/-- The warden, the number of objects allocated so far, and all calls made outside. -/
structure LifecycleState where
  warden : EntityWarden
  allocated : Nat
  calls : List Call

def newComponent (allocated : Nat) (cid : Uid) (tid : Tid) (isComponent : Bool) : ComponentItem :=
  ⟨cid, tid, allocated, if isComponent then some allocated else none⟩

def LifecycleState.outcome (state : LifecycleState) : LifecycleOp → Outcome
  | .create eid entityName => state.warden.create eid entityName
  | .addComponent eid cid tid isComponent =>
      state.warden.addComponent eid (newComponent state.allocated cid tid isComponent)
  | .init eid available results => state.warden.init eid available results
  | .deinit eid results => state.warden.deinit eid results
  | .destroy eid factory => state.warden.destroy eid factory
  | .cleanup factory results => state.warden.cleanup factory results

/-- The warden under calls, with the calls it makes. -/
def lifecycles : System LifecycleState LifecycleOp (GxfResult × List Call) where
  step state op :=
    let outcome := state.outcome op
    (⟨outcome.warden, state.allocated + 1, state.calls ++ outcome.calls⟩,
      (outcome.code, outcome.calls))

/-- What a call is to a component.  One that fails to initialize is not running. -/
def Call.events (component : Pointer) : Call → List (Lifecycle.Event Empty)
  | .init other result =>
      if other = component then
        if result = .GXF_SUCCESS then [.start] else [.start, .stop]
      else []
  | .deinit other _ => if other = component then [.stop] else []
  | .deallocate .. => []

def history (calls : List Call) (component : Pointer) : List (Lifecycle.Event Empty) :=
  calls.flatMap (Call.events component)

/-- A component is stopped, or it is running. -/
def componentPhase (calls : List Call) (component : Pointer) : Lifecycle.Phase Empty :=
  Lifecycle.phase Eq (history calls component)

def Call.isDeinit (component : Pointer) : Call → Bool
  | .deinit other _ => other = component
  | _ => false

def FailedInit (calls : List Call) : Prop :=
  ∃ component result, result ≠ .GXF_SUCCESS ∧ Call.init component result ∈ calls

/-- After a failed initialization, the components initialized before are deinitialized
once, and the entity can be initialized. -/
def RolledBack (eid : Uid) (outcome : Outcome) : Prop := FailedInit outcome.calls →
    (∀ component, .init component .GXF_SUCCESS ∈ outcome.calls →
      outcome.calls.countP (Call.isDeinit component) = 1) ∧
    ∀ results : Results, (∀ component, results.init component = .GXF_SUCCESS) →
      (outcome.warden.init eid (fun _ => .ok ()) results).code = .GXF_SUCCESS

/-- What a call promises: initializations and deinitializations alternate, a failed
initialization is rolled back, and `cleanup` leaves nothing running. -/
structure Disciplined (state : LifecycleState) (op : LifecycleOp) : Prop where
  alternating : ∀ component,
    Lifecycle.IsHistory Eq (history (lifecycles.step state op).1.calls component)
  rolledBack : ∀ eid available results, op = .init eid available results →
    RolledBack eid (state.outcome op)
  cleaned : ∀ factory results, op = .cleanup factory results → ∀ component,
    Lifecycle.IsComplete Eq (history (lifecycles.step state op).1.calls component)

def NotInitialized (state : LifecycleState) : LifecycleOp → Prop
  | .destroy eid _ => ∀ item ∈ state.warden.entities.lookup eid,
      item.stage = .kInitialized → item.pointers = []
  | _ => True

variable {calls later : List Call} {component : Pointer}

theorem history_append (calls later : List Call) (component : Pointer) :
    history (calls ++ later) component = history calls component ++ history later component :=
  List.flatMap_append

theorem componentPhase_append (calls later : List Call) (component : Pointer) :
    componentPhase (calls ++ later) component =
      (history later component).foldl (Lifecycle.Phase.next Eq)
      (componentPhase calls component) := by
  rw [componentPhase, history_append, Lifecycle.phase_append]
  rfl

theorem componentPhase_of_other (other : history later component = []) :
    componentPhase (calls ++ later) component = componentPhase calls component := by
  rw [componentPhase_append, other]
  rfl

variable {pointers : List Pointer} {results : Results} {before rest : List ComponentItem}
  {pointer : Pointer}

theorem history_map (call : Pointer → Call) (event : List (Lifecycle.Event Empty))
    (different : pointers.Nodup)
    (own : ∀ other ∈ pointers,
      (call other).events component = if other = component then event else []) :
    history (pointers.map call) component = if component ∈ pointers then event else [] := by
  induction pointers with
  | nil => rfl
  | cons first rest ih =>
      obtain ⟨notInRest, restDifferent⟩ := List.nodup_cons.mp different
      obtain ⟨ownFirst, ownRest⟩ := List.forall_mem_cons.mp own
      rw [List.map_cons, history, List.flatMap_cons, ownFirst]
      change _ ++ history (rest.map call) component = _
      rw [ih restDifferent ownRest]
      by_cases isFirst : first = component
      · subst isFirst
        rw [if_pos rfl, if_neg notInRest, if_pos (List.mem_cons_self ..), List.append_nil]
      · rw [if_neg isFirst, List.nil_append]
        simp only [List.mem_cons, Ne.symm isFirst, false_or]

theorem history_deinits (results : Results) (different : pointers.Nodup) :
    history (pointers.map fun pointer => .deinit pointer (results.deinit pointer)) component =
      if component ∈ pointers then [.stop] else [] :=
  history_map _ [.stop] different fun _ _ => rfl

theorem history_inits (results : Results) (different : pointers.Nodup)
    (succeeded : ∀ pointer ∈ pointers, results.init pointer = .GXF_SUCCESS) :
    history (pointers.map fun pointer => .init pointer (results.init pointer)) component =
      if component ∈ pointers then [.start] else [] := by
  apply history_map _ [.start] different
  intro other member
  rw [Call.events, succeeded other member, if_pos rfl]

theorem history_rolledBack (results : Results) {front back : List Pointer} {failing : Pointer}
    (different : (front ++ failing :: back).Nodup)
    (inFront : ∀ pointer ∈ front, results.init pointer = .GXF_SUCCESS)
    (failure : results.init failing ≠ .GXF_SUCCESS) :
    history ((front.map fun pointer => .init pointer (results.init pointer)) ++
        .init failing (results.init failing) ::
          front.map fun pointer => .deinit pointer (results.deinit pointer)) component =
      if component ∈ front ++ [failing] then [.start, .stop] else [] := by
  have distinct : front.Nodup ∧ failing ∉ front := by
    rw [List.append_cons] at different
    have both := List.nodup_append'.mp (List.nodup_append'.mp different).1
    exact ⟨both.1, fun member => both.2.2 member (List.mem_singleton_self failing)⟩
  have failed : history [.init failing (results.init failing)] component =
      if failing = component then [.start, .stop] else [] := by
    rw [history, List.flatMap_singleton, Call.events, if_neg failure]
  rw [List.append_cons, history_append, history_append, history_inits results distinct.1 inFront,
    history_deinits results distinct.1, failed]
  by_cases isFailing : failing = component
  · subst isFailing
    simp [distinct.2]
  · by_cases member : component ∈ front
    · simp [isFailing, member]
    · simp [isFailing, Ne.symm isFailing, member]

theorem history_deallocations
    (only : ∀ call ∈ calls, ∃ tid pointer, call = .deallocate tid pointer) :
    history calls component = [] := by
  apply List.flatMap_eq_nil_iff.mpr
  intro call member
  obtain ⟨tid, pointer, rfl⟩ := only call member
  rfl

/-! ## Entity items -/

theorem initFrom_none {item : ComponentItem} (notComponent : item.componentPointer = none) :
    initFrom results before (item :: rest) = initFrom results (before ++ [item]) rest := by
  rw [initFrom, notComponent]

theorem initFrom_failure {item : ComponentItem} (isComponent : item.componentPointer = some pointer)
    (failed : results.init pointer ≠ .GXF_SUCCESS) :
    initFrom results before (item :: rest) = (results.init pointer,
      .init pointer (results.init pointer) :: deinitAll results before) := by
  rw [initFrom, isComponent]
  exact if_pos failed

theorem initFrom_success {item : ComponentItem} (isComponent : item.componentPointer = some pointer)
    (succeeded : results.init pointer = .GXF_SUCCESS) :
    initFrom results before (item :: rest) = ((initFrom results (before ++ [item]) rest).1,
      .init pointer (results.init pointer) :: (initFrom results (before ++ [item]) rest).2) := by
  rw [initFrom, isComponent]
  exact if_neg (not_not.mpr succeeded)

theorem initFrom_cases (results : Results) (before rest : List ComponentItem) :
    (∀ pointer ∈ rest.filterMap componentPointer,
        results.init pointer = .GXF_SUCCESS) ∧
      initFrom results before rest = (.GXF_SUCCESS,
        (rest.filterMap componentPointer).map fun pointer =>
          .init pointer (results.init pointer)) ∨
    ∃ front failing back, rest.filterMap componentPointer = front ++ failing :: back ∧
        (∀ pointer ∈ front, results.init pointer = .GXF_SUCCESS) ∧
        results.init failing ≠ .GXF_SUCCESS ∧
        initFrom results before rest = (results.init failing,
          (front.map fun pointer => .init pointer (results.init pointer)) ++
            .init failing (results.init failing) ::
              (before.filterMap componentPointer ++ front).map fun pointer =>
                .deinit pointer (results.deinit pointer)) := by
  induction rest generalizing before with
  | nil => exact .inl ⟨nofun, rfl⟩
  | cons item rest ih =>
      cases isComponent : item.componentPointer with
      | none =>
          rw [initFrom_none isComponent, List.filterMap_cons_none isComponent]
          have skipped : (before ++ [item]).filterMap componentPointer =
              before.filterMap componentPointer := by
            rw [List.filterMap_append, List.filterMap_cons_none isComponent]
            exact List.append_nil _
          have later := ih (before ++ [item])
          rw [skipped] at later
          exact later
      | some pointer =>
          rw [List.filterMap_cons_some isComponent]
          have added : (before ++ [item]).filterMap componentPointer =
              before.filterMap componentPointer ++ [pointer] := by
            rw [List.filterMap_append, List.filterMap_cons_some isComponent]
            rfl
          by_cases succeeded : results.init pointer = .GXF_SUCCESS
          · rw [initFrom_success isComponent succeeded]
            have later := ih (before ++ [item])
            rw [added] at later
            rcases later with ⟨all, whole⟩ | ⟨front, failing, back, split, inFront, failed, whole⟩
            · left
              exact ⟨List.forall_mem_cons.mpr ⟨succeeded, all⟩, by rw [whole]; rfl⟩
            · right
              refine ⟨pointer :: front, failing, back, by rw [split]; rfl,
                List.forall_mem_cons.mpr ⟨succeeded, inFront⟩, failed, ?_⟩
              rw [whole, List.append_assoc]
              rfl
          · right
            refine ⟨[], pointer, _, rfl, nofun, succeeded, ?_⟩
            rw [initFrom_failure isComponent succeeded, List.append_nil]
            rfl

/-- The outcomes of `initialize`: nothing happens, all components are initialized, or some
and one that fails. -/
inductive InitCases (warden : EntityWarden) (eid : Uid) (results : Results) : Outcome → Prop where
  | refused (code : GxfResult) : InitCases warden eid results (warden.refuse code)
  | succeeded (item : EntityItem) (stored : warden.entities.lookup eid = some item)
      (stopped : item.stage = .kUninitialized)
      (all : ∀ pointer ∈ item.pointers, results.init pointer = .GXF_SUCCESS) :
      InitCases warden eid results ⟨warden.setEntity eid (item.setStage .kInitialized),
        .GXF_SUCCESS, item.pointers.map fun pointer => .init pointer (results.init pointer)⟩
  | failed (item : EntityItem) (stored : warden.entities.lookup eid = some item)
      (stopped : item.stage = .kUninitialized) (front back : List Pointer) (failing : Pointer)
      (split : item.pointers = front ++ failing :: back)
      (inFront : ∀ pointer ∈ front, results.init pointer = .GXF_SUCCESS)
      (failure : results.init failing ≠ .GXF_SUCCESS) :
      InitCases warden eid results ⟨warden.setEntity eid (item.setStage .kUninitialized),
        results.init failing,
        (front.map fun pointer => .init pointer (results.init pointer)) ++
          .init failing (results.init failing) ::
            front.map fun pointer => .deinit pointer (results.deinit pointer)⟩

theorem init_cases (warden : EntityWarden) (eid : Uid) (available : Uid → Except GxfResult Unit)
    (results : Results) : InitCases warden eid results (warden.init eid available results) := by
  rw [init]
  split
  next => exact .refused _
  next item stored =>
    split
    next => exact .refused _
    next =>
      split
      next => exact .refused _
      next isStage =>
        have stopped := not_not.mp isStage
        dsimp only [EntityItem.init, EntityItem.setStage]
        rw [if_neg (not_not.mpr rfl)]
        rcases initFrom_cases results [] item.components with
          ⟨all, whole⟩ | ⟨front, failing, back, split, inFront, failed, whole⟩
        · rw [whole]
          exact .succeeded item stored stopped all
        · rw [whole]
          dsimp only
          rw [if_neg failed]
          exact .failed item stored stopped front back failing split inFront failed

/-- The outcomes of `deinitialize`: nothing happens, or all components are deinitialized. -/
inductive DeinitCases (warden : EntityWarden) (eid : Uid) (results : Results) : Outcome → Prop where
  | refused (code : GxfResult) : DeinitCases warden eid results (warden.refuse code)
  | done (item : EntityItem) (stored : warden.entities.lookup eid = some item)
      (running : item.stage = .kInitialized) (code : GxfResult) :
      DeinitCases warden eid results ⟨warden.setEntity eid (item.setStage .kUninitialized), code,
        item.pointers.reverse.map fun pointer => .deinit pointer (results.deinit pointer)⟩

theorem deinit_item (item : EntityItem) (results : Results) :
    ∃ code, (item.setStage .kDeinitializationInProgress).deinit results =
      (item.setStage .kUninitialized, code,
        item.pointers.reverse.map fun pointer => .deinit pointer (results.deinit pointer)) := by
  rw [EntityItem.deinit, EntityItem.pointers, ← List.filterMap_reverse]
  exact ⟨_, if_neg (not_not.mpr rfl)⟩

theorem deinit_cases (warden : EntityWarden) (eid : Uid) (results : Results) :
    DeinitCases warden eid results (warden.deinit eid results) := by
  rw [deinit]
  split
  next => exact .refused _
  next item stored =>
    split
    next => exact .refused _
    next =>
      split
      next => exact .refused _
      next isStage =>
        obtain ⟨code, done⟩ := deinit_item item results
        rw [done]
        exact .done item stored (not_not.mp isStage) code

/-! ## The invariant -/

/-- The component belongs to an initialized entity. -/
def Running (warden : EntityWarden) (component : Pointer) : Prop :=
  ∃ eid, ∃ item ∈ warden.entities.lookup eid, item.stage = .kInitialized ∧ component ∈ item.pointers

/-- Every component belongs to one entity, and is running while that is initialized. -/
structure Tracked (warden : EntityWarden) (allocated : Nat) (calls : List Call) : Prop where
  stages : ∀ eid, ∀ item ∈ warden.entities.lookup eid,
    item.stage = .kUninitialized ∨ item.stage = .kInitialized
  different : ∀ eid, ∀ item ∈ warden.entities.lookup eid, item.pointers.Nodup
  owner : ∀ eid other, ∀ item ∈ warden.entities.lookup eid, ∀ item' ∈ warden.entities.lookup other,
      ∀ component ∈ item.pointers, component ∈ item'.pointers → eid = other
  known : ∀ eid, ∀ item ∈ warden.entities.lookup eid,
    ∀ component ∈ item.pointers, component < allocated
  running : ∀ component, Running warden component → componentPhase calls component = .running none
  stopped : ∀ component, ¬Running warden component → componentPhase calls component = .stopped

theorem componentPhase_nil (component : Pointer) : componentPhase [] component = .stopped := rfl

theorem tracked_empty {warden : EntityWarden} (allocated : Nat)
    (empty : ∀ eid, warden.entities.lookup eid = none)
    (allStopped : ∀ component, componentPhase calls component = .stopped) :
    Tracked warden allocated calls := by
  have none (eid : Uid) (item : EntityItem) : item ∉ warden.entities.lookup eid := by
    rw [empty eid]
    nofun
  constructor
  · exact fun eid item stored => absurd stored (none eid item)
  · exact fun eid item stored => absurd stored (none eid item)
  · exact fun eid _ item stored => absurd stored (none eid item)
  · exact fun eid item stored => absurd stored (none eid item)
  · rintro component ⟨eid, item, stored, -⟩
    exact absurd stored (none eid item)
  · exact fun component _ => allStopped component

variable {warden : EntityWarden} {allocated : Nat}

def EntityItem.phase (item : EntityItem) : Lifecycle.Phase Empty :=
  if item.stage = .kInitialized then .running none else .stopped

variable {eid : Uid} {item : EntityItem} {room : Nat} {other : EntityWarden}

section

variable (tracked : Tracked warden allocated calls)
include tracked

theorem Tracked.phase_of_stored (stored : warden.entities.lookup eid = some item)
    (member : component ∈ item.pointers) : componentPhase calls component = item.phase := by
  rw [EntityItem.phase]
  split
  next running => exact tracked.running component ⟨eid, item, stored, running, member⟩
  next notRunning =>
    apply tracked.stopped component
    rintro ⟨other, item', stored', running, member'⟩
    have same := tracked.owner eid other item stored item' stored' component member member'
    subst same
    rw [stored] at stored'
    cases stored'
    exact notRunning running

theorem Tracked.setEntity (grown : allocated ≤ room)
    (stage : item.stage = .kUninitialized ∨ item.stage = .kInitialized)
    (different : item.pointers.Nodup)
    (kept : ∀ old ∈ warden.entities.lookup eid, ∀ component ∈ old.pointers,
      component ∈ item.pointers)
    (own : ∀ component ∈ item.pointers, component < room ∧
      ∀ other ≠ eid, ∀ item' ∈ warden.entities.lookup other, component ∉ item'.pointers)
    (phases : ∀ component ∈ item.pointers, componentPhase (calls ++ later) component = item.phase)
    (others : ∀ component ∉ item.pointers, history later component = []) :
    Tracked (warden.setEntity eid item) room (calls ++ later) := by
  have lookup (other : Uid) (item' : EntityItem)
      (stored : item' ∈ (warden.setEntity eid item).entities.lookup other) :
      other = eid ∧ item' = item ∨ other ≠ eid ∧ item' ∈ warden.entities.lookup other := by
    rw [EntityWarden.setEntity] at stored
    by_cases same : other = eid
    · subst same
      rw [AList.lookup_insert] at stored
      exact .inl ⟨rfl, (Option.some.inj stored).symm⟩
    · rw [AList.lookup_insert_ne same] at stored
      exact .inr ⟨same, stored⟩
  have isStored : item ∈ (warden.setEntity eid item).entities.lookup eid :=
    AList.lookup_insert warden.entities
  constructor
  · intro other item' stored
    rcases lookup other item' stored with ⟨-, rfl⟩ | ⟨-, before⟩
    · exact stage
    · exact tracked.stages other item' before
  · intro other item' stored
    rcases lookup other item' stored with ⟨-, rfl⟩ | ⟨-, before⟩
    · exact different
    · exact tracked.different other item' before
  · intro first second item₁ stored₁ item₂ stored₂ component member₁ member₂
    rcases lookup first item₁ stored₁ with ⟨rfl, rfl⟩ | ⟨away₁, before₁⟩
    · rcases lookup second item₂ stored₂ with ⟨rfl, rfl⟩ | ⟨away₂, before₂⟩
      · rfl
      · exact absurd member₂ ((own component member₁).2 second away₂ item₂ before₂)
    · rcases lookup second item₂ stored₂ with ⟨rfl, rfl⟩ | ⟨away₂, before₂⟩
      · exact absurd member₁ ((own component member₂).2 first away₁ item₁ before₁)
      · exact tracked.owner first second item₁ before₁ item₂ before₂ component member₁ member₂
  · intro other item' stored component member
    rcases lookup other item' stored with ⟨-, rfl⟩ | ⟨-, before⟩
    · exact (own component member).1
    · exact Nat.lt_of_lt_of_le (tracked.known other item' before component member) grown
  · rintro component ⟨other, item', stored, running, member⟩
    rcases lookup other item' stored with ⟨-, rfl⟩ | ⟨away, before⟩
    · rw [phases component member]
      exact if_pos running
    · have foreign : component ∉ item.pointers := fun inItem =>
        (own component inItem).2 other away item' before member
      rw [componentPhase_of_other (others component foreign)]
      exact tracked.running component ⟨other, item', before, running, member⟩
  · intro component notRunning
    by_cases inItem : component ∈ item.pointers
    · rw [phases component inItem]
      exact if_neg fun running => notRunning ⟨eid, item, isStored, running, inItem⟩
    · rw [componentPhase_of_other (others component inItem)]
      apply tracked.stopped component
      rintro ⟨other, item', stored, running, member⟩
      have away : other ≠ eid := by
        rintro rfl
        exact inItem (kept item' stored component member)
      refine notRunning ⟨other, item', ?_, running, member⟩
      exact (AList.lookup_insert_ne away).trans stored

theorem Tracked.setStage (stored : warden.entities.lookup eid = some item)
    (grown : allocated ≤ room) {stage : Stage} (allowed : stage = .kUninitialized ∨
      stage = .kInitialized)
    (phases : ∀ component ∈ item.pointers,
      (history later component).foldl (Lifecycle.Phase.next Eq) item.phase =
        (item.setStage stage).phase)
    (others : ∀ component ∉ item.pointers, history later component = []) :
    Tracked (warden.setEntity eid (item.setStage stage)) room (calls ++ later) := by
  have different : (item.setStage stage).pointers.Nodup := tracked.different eid item stored
  apply tracked.setEntity grown allowed different
  · intro old isOld component member
    rw [stored] at isOld
    cases isOld
    exact member
  · intro component member
    refine ⟨Nat.lt_of_lt_of_le (tracked.known eid item stored component member) grown, ?_⟩
    intro other away item' stored' member'
    exact away (tracked.owner other eid item' stored' item stored component member' member)
  · intro component member
    rw [componentPhase_append, tracked.phase_of_stored stored member]
    exact phases component member
  · exact others

theorem Tracked.of_entities (grown : allocated ≤ room) (same : other.entities = warden.entities)
    (nothing : ∀ component, history later component = []) :
    Tracked other room (calls ++ later) := by
  have running (component : Pointer) : Running other component ↔ Running warden component := by
    rw [Running, Running, same]
  constructor
  · rw [same]
    exact tracked.stages
  · rw [same]
    exact tracked.different
  · rw [same]
    exact tracked.owner
  · rw [same]
    intro eid item stored component member
    exact Nat.lt_of_lt_of_le (tracked.known eid item stored component member) grown
  · intro component isRunning
    rw [componentPhase_of_other (nothing component)]
    exact tracked.running component ((running component).mp isRunning)
  · intro component notRunning
    rw [componentPhase_of_other (nothing component)]
    exact tracked.stopped component (mt (running component).mpr notRunning)

theorem Tracked.erase (grown : allocated ≤ room)
    (erased : other.entities = warden.entities.erase eid)
    (idle : ∀ item ∈ warden.entities.lookup eid, item.stage = .kInitialized → item.pointers = [])
    (nothing : ∀ component, history later component = []) :
    Tracked other room (calls ++ later) := by
  have before (one : Uid) (item : EntityItem) (stored : item ∈ other.entities.lookup one) :
      item ∈ warden.entities.lookup one := by
    rw [erased] at stored
    by_cases same : one = eid
    · rw [same, AList.lookup_erase] at stored
      cases stored
    · rw [AList.lookup_erase_ne same] at stored
      exact stored
  constructor
  · exact fun one item stored => tracked.stages one item (before one item stored)
  · exact fun one item stored => tracked.different one item (before one item stored)
  · intro one two item stored item' stored'
    exact tracked.owner one two item (before one item stored) item' (before two item' stored')
  · intro one item stored component member
    exact Nat.lt_of_lt_of_le (tracked.known one item (before one item stored) component member)
      grown
  · rintro component ⟨one, item, stored, running, member⟩
    rw [componentPhase_of_other (nothing component)]
    exact tracked.running component ⟨one, item, before one item stored, running, member⟩
  · intro component notRunning
    rw [componentPhase_of_other (nothing component)]
    apply tracked.stopped component
    rintro ⟨one, item, stored, running, member⟩
    have away : one ≠ eid := by
      rintro rfl
      rw [idle item stored running] at member
      cases member
    refine notRunning ⟨one, item, ?_, running, member⟩
    rw [erased, AList.lookup_erase_ne away]
    exact stored

/-! ## Each call -/

theorem Tracked.create (eid : Uid) (entityName : String) :
    Tracked (warden.create eid entityName).warden (allocated + 1)
      (calls ++ (warden.create eid entityName).calls) := by
  by_cases known : eid ∈ warden.entities
  · exact tracked.of_entities (Nat.le_succ _) (if_pos known) fun _ => rfl
  · have absent := AList.lookup_eq_none.mpr known
    have stored : (warden.create eid entityName).warden.entities =
        (warden.setEntity eid (EntityItem.create eid warden.defaultEntityGroupId)).entities :=
      if_neg known
    have added : Tracked (warden.setEntity eid (EntityItem.create eid
        warden.defaultEntityGroupId)) (allocated + 1) (calls ++ []) := by
      refine tracked.setEntity (Nat.le_succ _) (.inl rfl) List.nodup_nil ?_ ?_ ?_ fun _ _ => rfl
      · intro old isOld
        rw [absent] at isOld
        cases isOld
      · all_goals nofun
      · all_goals nofun
    exact (List.append_nil calls ▸ added).of_entities (Nat.le_refl _) stored fun _ => rfl

end

theorem pointers_added (item : EntityItem) (allocated : Nat) (cid : Uid) (tid : Tid)
    (isComponent : Bool) :
    EntityItem.pointers { item with
        components := item.components ++ [newComponent allocated cid tid isComponent] } =
      item.pointers ++ if isComponent then [allocated] else [] := by
  rw [EntityItem.pointers, EntityItem.pointers, List.filterMap_append]
  cases isComponent <;> rfl

section

variable (tracked : Tracked warden allocated calls)
include tracked

/-- A new object is nobody else's. -/
theorem Tracked.not_known (stored : item ∈ warden.entities.lookup eid) :
    allocated ∉ item.pointers :=
  fun member => Nat.lt_irrefl _ (tracked.known eid item stored allocated member)

theorem Tracked.grow {grown : EntityItem} (stored : warden.entities.lookup eid = some item)
    (before : item.stage = .kUninitialized) (after : grown.stage = .kUninitialized)
    {isComponent : Bool}
    (pointers : grown.pointers = item.pointers ++ if isComponent then [allocated] else []) :
    Tracked (warden.setEntity eid grown) (allocated + 1) (calls ++ []) := by
  have cases (component : Pointer) (member : component ∈ grown.pointers) :
      component ∈ item.pointers ∨ component = allocated := by
    rw [pointers] at member
    rcases List.mem_append.mp member with old | new
    · exact .inl old
    · split at new
      next => exact .inr (List.mem_singleton.mp new)
      next => cases new
  apply tracked.setEntity (Nat.le_succ _) (.inl after)
  · rw [pointers]
    split
    next =>
      apply List.nodup_append'.mpr
      refine ⟨tracked.different eid item stored, List.nodup_singleton _, ?_⟩
      exact List.disjoint_singleton.mpr (tracked.not_known stored)
    next =>
      rw [List.append_nil]
      exact tracked.different eid item stored
  · intro old isOld component member
    rw [stored] at isOld
    cases isOld
    rw [pointers]
    exact List.mem_append_left _ member
  · intro component member
    rcases cases component member with old | rfl
    · refine ⟨Nat.lt_succ_of_lt (tracked.known eid item stored component old), ?_⟩
      intro other away item' stored' member'
      exact away (tracked.owner other eid item' stored' item stored component member' old)
    · exact ⟨Nat.lt_succ_self _, fun other _ item' stored' => tracked.not_known stored'⟩
  · intro component member
    rw [List.append_nil, EntityItem.phase, after, if_neg nofun]
    apply tracked.stopped component
    rintro ⟨other, item', stored', running, member'⟩
    rcases cases component member with old | rfl
    · have same := tracked.owner other eid item' stored' item stored component member' old
      rw [same, stored] at stored'
      cases stored'
      rw [before] at running
      cases running
    · exact tracked.not_known stored' member'
  · exact fun _ _ => rfl

theorem Tracked.addComponent (eid cid : Uid) (tid : Tid) (isComponent : Bool) :
    Tracked (warden.addComponent eid (newComponent allocated cid tid isComponent)).warden
      (allocated + 1)
      (calls ++ (warden.addComponent eid (newComponent allocated cid tid isComponent)).calls) := by
  rw [EntityWarden.addComponent]
  split
  next => exact tracked.of_entities (Nat.le_succ _) rfl fun _ => rfl
  next item stored =>
    dsimp only
    split
    next => exact tracked.of_entities (Nat.le_succ _) rfl fun _ => rfl
    next isStage =>
      have idle := not_not.mp isStage
      split
      next => exact tracked.of_entities (Nat.le_succ _) rfl fun _ => rfl
      next =>
        have pointers := pointers_added item allocated cid tid isComponent
        have added := tracked.grow stored idle (by exact idle) pointers
        rw [List.append_nil] at added
        exact added.of_entities (Nat.le_refl _) rfl fun _ => rfl

theorem Tracked.init (eid : Uid) (available : Uid → Except GxfResult Unit) (results : Results) :
    Tracked (warden.init eid available results).warden (allocated + 1)
      (calls ++ (warden.init eid available results).calls) := by
  have possible := init_cases warden eid available results
  generalize warden.init eid available results = outcome at possible ⊢
  cases possible with
  | refused code => exact tracked.of_entities (Nat.le_succ _) rfl fun _ => rfl
  | succeeded item stored stopped all =>
      have different := tracked.different eid item stored
      apply tracked.setStage stored (Nat.le_succ _) (.inr rfl)
      · intro component member
        rw [history_inits results different all, if_pos member, EntityItem.phase, stopped]
        rfl
      · intro component foreign
        rw [history_inits results different all, if_neg foreign]
  | failed item stored stopped front back failing split inFront failure =>
      have different := tracked.different eid item stored
      rw [split] at different
      apply tracked.setStage stored (Nat.le_succ _) (.inl rfl)
      · intro component _
        have idle : item.phase = .stopped := if_neg (by rw [stopped]; nofun)
        rw [history_rolledBack results different inFront failure, idle]
        split <;> rfl
      · intro component foreign
        rw [history_rolledBack results different inFront failure, if_neg]
        intro member
        apply foreign
        rw [split, List.append_cons]
        exact List.mem_append_left back member

theorem Tracked.deinit (eid : Uid) (results : Results) :
    Tracked (warden.deinit eid results).warden (allocated + 1)
      (calls ++ (warden.deinit eid results).calls) := by
  have possible := deinit_cases warden eid results
  generalize warden.deinit eid results = outcome at possible ⊢
  cases possible with
  | refused code => exact tracked.of_entities (Nat.le_succ _) rfl fun _ => rfl
  | done item stored running code =>
      have different := List.nodup_reverse.mpr (tracked.different eid item stored)
      apply tracked.setStage stored (Nat.le_succ _) (.inl rfl)
      · intro component member
        rw [history_deinits results different, if_pos (List.mem_reverse.mpr member),
          EntityItem.phase, if_pos running]
        rfl
      · intro component foreign
        rw [history_deinits results different, if_neg (mt List.mem_reverse.mp foreign)]

end

theorem history_destroy (item : EntityItem) (factory : Option ComponentFactory)
    (component : Pointer) : history (item.destroy factory).2 component = [] := by
  apply history_deallocations
  intro call made
  cases factory with
  | none => cases made
  | some deallocate =>
      rw [EntityItem.destroy] at made
      split at made
      next => cases made
      next =>
        obtain ⟨item, -, rfl⟩ := List.mem_map.mp made
        exact ⟨item.tid, item.rawPointer, rfl⟩

theorem Tracked.destroy (tracked : Tracked warden allocated calls) (eid : Uid)
    (factory : Option ComponentFactory)
    (idle : ∀ item ∈ warden.entities.lookup eid, item.stage = .kInitialized → item.pointers = []) :
    Tracked (warden.destroy eid factory).warden (allocated + 1)
      (calls ++ (warden.destroy eid factory).calls) := by
  rw [EntityWarden.destroy]
  split
  next => exact tracked.of_entities (Nat.le_succ _) rfl fun _ => rfl
  next item stored =>
    dsimp only
    split
    next => exact tracked.erase (Nat.le_succ _) rfl idle fun _ => rfl
    next => exact tracked.erase (Nat.le_succ _) rfl idle (history_destroy _ factory)

/-- The components of the initialized ones of some entities. -/
def runningPointers (items : List EntityItem) : List Pointer :=
  (items.filter fun item => item.stage = .kInitialized).flatMap fun item => item.pointers.reverse

theorem runningPointers_cons (item : EntityItem) (rest : List EntityItem) :
    runningPointers (item :: rest) =
      (if item.stage = .kInitialized then item.pointers.reverse else []) ++
      runningPointers rest := by
  by_cases running : item.stage = .kInitialized
  · simp [runningPointers, running]
  · simp [runningPointers, running]

theorem cleanupDeinit_calls (results : Results) (code : GxfResult) (items : List EntityItem) :
    (cleanupDeinit results code items).2.2 = (runningPointers items).map fun pointer =>
      .deinit pointer (results.deinit pointer) := by
  induction items generalizing code with
  | nil => rfl
  | cons item rest ih =>
      by_cases running : item.stage = .kInitialized
      · obtain ⟨current, done⟩ := deinit_item item results
        rw [cleanupDeinit, if_pos running, done, runningPointers_cons, if_pos running,
          List.map_append]
        exact congrArg _ (ih _)
      · rw [cleanupDeinit, if_neg running, runningPointers_cons, if_neg running]
        exact ih _

theorem history_cleanupDestroy (factory : Option ComponentFactory) (code : GxfResult)
    (items : List EntityItem) (component : Pointer) :
    history (cleanupDestroy factory code items).2 component = [] := by
  induction items generalizing code with
  | nil => rfl
  | cons item rest ih =>
      rw [cleanupDestroy]
      split
      next => exact ih _
      next =>
        dsimp only
        rw [history_append, history_destroy, ih]
        rfl

theorem Tracked.different_running (tracked : Tracked warden allocated calls) :
    (runningPointers (warden.entities.entries.map fun entry => entry.2)).Nodup := by
  rw [runningPointers, List.filter_map, List.flatMap_map]
  apply List.nodup_flatMap.mpr
  constructor
  · intro entry member
    have stored := AList.mem_lookup_iff.mpr (List.mem_of_mem_filter member)
    exact List.nodup_reverse.mpr (tracked.different entry.1 entry.2 stored)
  · apply (warden.entities.nodupKeys.pairwise_ne.filter _).imp_of_mem
    intro first second memberFirst memberSecond away component inFirst inSecond
    apply away
    have storedFirst := AList.mem_lookup_iff.mpr (List.mem_of_mem_filter memberFirst)
    have storedSecond := AList.mem_lookup_iff.mpr (List.mem_of_mem_filter memberSecond)
    exact tracked.owner first.1 second.1 first.2 storedFirst second.2 storedSecond component
      (List.mem_reverse.mp inFirst) (List.mem_reverse.mp inSecond)

theorem mem_runningPointers (warden : EntityWarden) (component : Pointer) :
    component ∈ runningPointers (warden.entities.entries.map fun entry => entry.2) ↔
      Running warden component := by
  rw [runningPointers, List.mem_flatMap, Running]
  constructor
  · rintro ⟨item, member, inItem⟩
    obtain ⟨isItem, running⟩ := List.mem_filter.mp member
    obtain ⟨entry, isEntry, rfl⟩ := List.mem_map.mp isItem
    exact ⟨entry.1, entry.2, AList.mem_lookup_iff.mpr isEntry, of_decide_eq_true running,
      List.mem_reverse.mp inItem⟩
  · rintro ⟨eid, item, stored, running, inItem⟩
    refine ⟨item, List.mem_filter.mpr ⟨?_, decide_eq_true running⟩, List.mem_reverse.mpr inItem⟩
    exact List.mem_map.mpr ⟨⟨eid, item⟩, AList.mem_lookup_iff.mp stored, rfl⟩

/-- After `cleanup` nothing runs. -/
theorem Tracked.stopped_cleanup (tracked : Tracked warden allocated calls)
    (factory : Option ComponentFactory) (results : Results) (component : Pointer) :
    componentPhase (calls ++ (warden.cleanup factory results).calls) component = .stopped := by
  rw [EntityWarden.cleanup]
  dsimp only
  rw [componentPhase_append, history_append, history_cleanupDestroy, List.append_nil,
    cleanupDeinit_calls, history_deinits results tracked.different_running]
  by_cases running : Running warden component
  · rw [if_pos ((mem_runningPointers warden component).mpr running),
      tracked.running component running]
    rfl
  · rw [if_neg (mt (mem_runningPointers warden component).mp running),
      tracked.stopped component running]
    rfl

theorem Tracked.cleanup (tracked : Tracked warden allocated calls)
    (factory : Option ComponentFactory) (results : Results) :
    Tracked (warden.cleanup factory results).warden (allocated + 1)
      (calls ++ (warden.cleanup factory results).calls) :=
  tracked_empty _ (fun _ => rfl) (tracked.stopped_cleanup factory results)

/-! ## Whole runs -/

/-- The invariant of a run. -/
def LifecycleState.Inv (state : LifecycleState) : Prop :=
  Tracked state.warden state.allocated state.calls

/-- The state of a new context. -/
def LifecycleState.initial (gid : Uid) : LifecycleState := ⟨fresh gid, 1, []⟩

theorem inv_initial (gid : Uid) : (LifecycleState.initial gid).Inv :=
  tracked_empty _ (fun _ => rfl) componentPhase_nil

theorem inv_step (state : LifecycleState) (op : LifecycleOp) (inv : state.Inv)
    (guarded : NotInitialized state op) : (lifecycles.step state op).1.Inv := by
  cases op with
  | create eid entityName => exact Tracked.create inv eid entityName
  | addComponent eid cid tid isComponent => exact Tracked.addComponent inv eid cid tid isComponent
  | init eid available results => exact Tracked.init inv eid available results
  | deinit eid results => exact Tracked.deinit inv eid results
  | destroy eid factory => exact Tracked.destroy inv eid factory guarded
  | cleanup factory results => exact Tracked.cleanup inv factory results

theorem Tracked.isHistory (tracked : Tracked warden allocated calls) (component : Pointer) :
    Lifecycle.IsHistory Eq (history calls component) := by
  apply (Lifecycle.isHistory_iff Eq _).mpr
  change componentPhase calls component ≠ .broken
  by_cases running : Running warden component
  · rw [tracked.running component running]
    nofun
  · rw [tracked.stopped component running]
    nofun

theorem initFrom_of_success (succeeds : ∀ pointer, results.init pointer = .GXF_SUCCESS)
    (before rest : List ComponentItem) : (initFrom results before rest).1 = .GXF_SUCCESS := by
  rcases initFrom_cases results before rest with ⟨-, whole⟩ | ⟨-, failing, -, -, -, failed, -⟩
  · rw [whole]
  · exact absurd (succeeds failing) failed

theorem init_of_success
    (stored : warden.entities.lookup eid = some item) (stopped : item.stage = .kUninitialized)
    (succeeds : ∀ pointer, results.init pointer = .GXF_SUCCESS) :
    (warden.init eid (fun _ => .ok ()) results).code = .GXF_SUCCESS := by
  have ready : (item.components.forM fun _ => (.ok () : Except GxfResult Unit)) = .ok () := by
    induction item.components with
    | nil => rfl
    | cons component rest ih => exact ih
  rw [init, stored]
  dsimp only
  rw [ready]
  dsimp only [EntityItem.init, EntityItem.setStage]
  rw [if_neg (not_not.mpr stopped), if_neg (not_not.mpr rfl)]
  exact initFrom_of_success succeeds [] item.components

theorem countP_deinits (results : Results)
    (different : pointers.Nodup) (member : component ∈ pointers) :
    (pointers.map fun pointer => Call.deinit pointer (results.deinit pointer)).countP
      (Call.isDeinit component) = 1 := by
  rw [List.countP_map, ← List.count_eq_one_of_mem different member]
  exact List.countP_congr fun other _ => by simp [Call.isDeinit]

theorem countP_inits (results : Results) (pointers : List Pointer) :
    (pointers.map fun pointer => Call.init pointer (results.init pointer)).countP
      (Call.isDeinit component) = 0 := by
  apply List.countP_eq_zero.mpr
  intro call made
  obtain ⟨pointer, -, rfl⟩ := List.mem_map.mp made
  exact Bool.false_ne_true

theorem Tracked.rolledBack (tracked : Tracked warden allocated calls) (eid : Uid)
    (available : Uid → Except GxfResult Unit) (results : Results) :
    RolledBack eid (warden.init eid available results) := by
  have possible := init_cases warden eid available results
  generalize warden.init eid available results = outcome at possible ⊢
  rintro ⟨component, result, failure, made⟩
  cases possible with
  | refused code => cases made
  | succeeded item stored stopped all =>
      obtain ⟨pointer, member, same⟩ := List.mem_map.mp made
      cases same
      exact absurd (all component member) failure
  | failed item stored stopped front back failing split inFront failed =>
      have different := tracked.different eid item stored
      rw [split] at different
      refine ⟨fun component started => ?_, fun results succeeds => ?_⟩
      · -- the failing component did not succeed, so this one stands before it
        have inFront : component ∈ front := by
          rcases List.mem_append.mp started with inited | rest
          · obtain ⟨pointer, member, same⟩ := List.mem_map.mp inited
            exact (Call.init.inj same).1 ▸ member
          · cases List.mem_cons.mp rest with
            | inl isFailing => exact absurd (Call.init.inj isFailing).2.symm failed
            | inr stopped =>
                obtain ⟨pointer, -, same⟩ := List.mem_map.mp stopped
                cases same
        rw [List.countP_append, List.countP_cons, countP_inits,
          countP_deinits results (List.nodup_append'.mp different).1 inFront]
        rfl
      · exact init_of_success (AList.lookup_insert warden.entities) rfl succeeds

/-- In every run in which no initialized entity with components is destroyed: every
component sees initializations and deinitializations in turn, a failed initialization is
rolled back, and after `cleanup` every component is deinitialized that was initialized. -/
theorem run_disciplined (gid : Uid) (ops : List LifecycleOp)
    (guarded : lifecycles.Along NotInitialized (.initial gid) ops) :
    lifecycles.Along Disciplined (.initial gid) ops := by
  apply System.along_of_invariant inv_step _ (inv_initial gid) guarded
  intro state op inv guarded
  constructor
  · exact fun component => (inv_step state op inv guarded).isHistory component
  · rintro eid available results rfl
    exact inv.rolledBack eid available results
  · rintro factory results rfl component
    exact (Lifecycle.isComplete_iff Eq _).mpr (inv.stopped_cleanup factory results component)

/-- A component fails, its entity is initialized again, and everything is cleaned up. -/
theorem run_disciplined_retry :
    let never : Results := ⟨fun _ => .GXF_FAILURE, fun _ => .GXF_SUCCESS⟩
    let always : Results := ⟨fun _ => .GXF_SUCCESS, fun _ => .GXF_SUCCESS⟩
    let ops : List LifecycleOp := [.create 7 "camera", .addComponent 7 8 ⟨0, 1⟩ true,
      .init 7 (fun _ => .ok ()) never, .init 7 (fun _ => .ok ()) always,
      .cleanup (some fun _ _ => .ok ()) always]
    lifecycles.outputs (.initial 1) ops = [(.GXF_SUCCESS, []), (.GXF_SUCCESS, []),
        (.GXF_FAILURE, [.init 2 .GXF_FAILURE]), (.GXF_SUCCESS, [.init 2 .GXF_SUCCESS]),
        (.GXF_SUCCESS, [.deinit 2 .GXF_SUCCESS, .deallocate ⟨0, 1⟩ 2])] ∧
      lifecycles.Along Disciplined (.initial 1) ops :=
  ⟨by decide, run_disciplined 1 _ ⟨trivial, trivial, trivial, trivial, trivial, trivial⟩⟩

/-- An initialized entity is destroyed.  Its component is never deinitialized. -/
theorem destroyed_keeps_running :
    let results : Results := ⟨fun _ => .GXF_SUCCESS, fun _ => .GXF_SUCCESS⟩
    let factory : Option ComponentFactory := some fun _ _ => .ok ()
    let ops : List LifecycleOp := [.create 7 "camera", .addComponent 7 8 ⟨0, 1⟩ true,
      .init 7 (fun _ => .ok ()) results, .destroy 7 factory, .cleanup factory results]
    lifecycles.outputs (.initial 1) ops = [(.GXF_SUCCESS, []), (.GXF_SUCCESS, []),
        (.GXF_SUCCESS, [.init 2 .GXF_SUCCESS]), (.GXF_INVALID_LIFECYCLE_STAGE, []),
        (.GXF_SUCCESS, [])] ∧
      ¬lifecycles.Along Disciplined (.initial 1) ops := by
  refine ⟨by decide, fun along => ?_⟩
  have complete := along.2.2.2.2.1.cleaned _ _ rfl 2
  exact absurd ((Lifecycle.isComplete_iff Eq _).mp complete) (by decide)

end Gxf.Std.EntityWarden
