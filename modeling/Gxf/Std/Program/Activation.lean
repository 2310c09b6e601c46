import Gxf.Std.Program.Attach

/-!
# The activation of a graph

Where `activate` fails, and when what it has done by then is undone.  The deactivation that is to
undo it looks for the components of all entities, also of those whose turn has not come.
-/

namespace Gxf.Std.Program

open Gxf.Core

variable {env : Environment} {program next : Program} {eid : Uid} {kind : ComponentKind}

/-- The entities of a graph as they are activated. -/
def order (sorted : EntityClass → List Uid) : List Uid :=
  sorted .system ++ sorted .router ++ sorted .connection ++ sorted .networkContext ++ sorted .graph

def ofClass (env : Environment) (entityClass : EntityClass) (eid : Uid) : Bool :=
  match classOf env eid with
  | .error _ => false
  | .ok found => found = entityClass

variable {eids : List Uid} {sorted : EntityClass → List Uid}

theorem sort_cons_ok (isSorted : sort env (eid :: eids) = .ok sorted) :
    ∃ entityClass rest, classOf env eid = .ok entityClass ∧ sort env eids = .ok rest ∧
      sorted = Function.update rest entityClass (eid :: rest entityClass) := by
  rw [sort] at isSorted
  cases isClass : classOf env eid with
  | error code =>
      rw [isClass] at isSorted
      cases isSorted
  | ok entityClass =>
      cases isRest : sort env eids with
      | error code =>
          rw [isClass, isRest] at isSorted
          cases isSorted
      | ok rest =>
          rw [isClass, isRest] at isSorted
          cases isSorted
          exact ⟨entityClass, rest, rfl, rfl, rfl⟩

theorem sort_eq (isSorted : sort env eids = .ok sorted) (entityClass : EntityClass) :
    sorted entityClass = eids.filter (ofClass env entityClass) := by
  induction eids generalizing sorted with
  | nil =>
      cases isSorted
      rfl
  | cons eid eids ih =>
      obtain ⟨found, rest, isFound, isRest, rfl⟩ := sort_cons_ok isSorted
      rw [List.filter_cons, ofClass, isFound, ← ih isRest]
      by_cases same : found = entityClass
      · rw [same, Function.update_self, if_pos (decide_eq_true rfl)]
      · rw [Function.update_of_ne (Ne.symm same), if_neg]
        exact fun isClass => same (of_decide_eq_true isClass)

/-- Each entity is activated once. -/
theorem order_perm (isSorted : sort env eids = .ok sorted) : (order sorted).Perm eids := by
  induction eids generalizing sorted with
  | nil =>
      cases isSorted
      rfl
  | cons eid eids ih =>
      obtain ⟨found, rest, -, isRest, rfl⟩ := sort_cons_ok isSorted
      apply List.Perm.trans _ ((ih isRest).cons eid)
      apply List.perm_iff_count.mpr
      intro other
      cases found <;>
        simp only [order, Function.update, reduceCtorEq, dite_false, dite_true, List.count_append,
          List.count_cons, eq_rec_constant] <;> omega

theorem activateEntities_append (env : Environment) (first second : List Uid)
    (program : Program) : activateEntities env (first ++ second) program =
      andThen (activateEntities env first program) (activateEntities env second) := by
  induction first generalizing program with
  | nil =>
      have empty : (activateEntities env [] program).2 = .GXF_SUCCESS := rfl
      rw [andThen_of_success empty]
      rfl
  | cons eid rest ih =>
      rw [List.cons_append, activateEntities, activateEntities]
      dsimp only
      split
      next failure =>
        rw [andThen_of_failure]
        exact failure
      next => exact ih _

/-- The activations without the deactivation that follows a failure. -/
def attempt (env : Environment) : List Uid → Program → Program × GxfResult
  | [], program => (program, .GXF_SUCCESS)
  | eid :: rest, program =>
      andThen (entityActivate env eid program) fun program => attempt env rest program

theorem attempt_code (env : Environment) (eids : List Uid) (program : Program) :
    (attempt env eids program).2 = (activateEntities env eids program).2 := by
  induction eids generalizing program with
  | nil => rfl
  | cons eid rest ih =>
      rw [attempt, activateEntities]
      dsimp only
      split
      next failure => rw [andThen_of_failure failure]
      next success => rw [andThen_of_success (not_not.mp success), ih]

/-- The entity is started, attached and scheduled. -/
def Activates (env : Environment) (program : Program) (eid : Uid) : Prop :=
  Starts env program eid ∧ Attaches env eid ∧ env.schedule eid = .GXF_SUCCESS

variable {done : List Uid}

theorem Midway.activate_of_not_activates
    (midway : Midway env done done program next) (listed : Listed program)
    (state : program.state ≠ .ORIGIN) (isUnscheduled : eid ∈ program.unscheduled)
    (isNew : eid ∉ done) (fails : ¬Activates env program eid) :
    (entityActivate env eid next).2 ≠ .GXF_SUCCESS := by
  by_cases starts : Starts env program eid
  · by_cases attaches : Attaches env eid
    · rw [(midway.activate_of_attaches listed state isUnscheduled isNew starts attaches).1]
      exact fun schedules => fails ⟨starts, attaches, schedules⟩
    · exact (midway.activate_of_not_attaches listed state isUnscheduled isNew starts attaches).1
  · exact (midway.activate_of_not_starts isNew starts).1

theorem Midway.activateEntities
    (midway : Midway env done done program next) (listed : Listed program)
    (state : program.state ≠ .ORIGIN) (nodup : (done ++ eids).Nodup)
    (inside : ∀ eid ∈ eids, eid ∈ program.unscheduled)
    (activates : ∀ eid ∈ eids, Activates env program eid) :
    (activateEntities env eids next).2 = .GXF_SUCCESS ∧
      Midway env (done ++ eids) (done ++ eids) program (activateEntities env eids next).1 := by
  induction eids generalizing done next with
  | nil =>
      rw [List.append_nil]
      exact ⟨rfl, midway⟩
  | cons eid rest ih =>
      obtain ⟨starts, attaches, schedules⟩ := activates eid List.mem_cons_self
      have isNew : eid ∉ done := fun inDone =>
        List.disjoint_of_nodup_append nodup inDone List.mem_cons_self
      obtain ⟨code, activated⟩ := midway.activate_of_attaches listed state
        (inside eid List.mem_cons_self) isNew starts attaches
      have split : done ++ eid :: rest = done ++ [eid] ++ rest := by
        rw [List.append_assoc, List.singleton_append]
      rw [split] at nodup ⊢
      rw [Program.activateEntities]
      dsimp only
      rw [if_neg (not_not_intro (code.trans schedules))]
      exact ih activated nodup (fun other member => inside other (List.mem_cons_of_mem eid member))
        fun other member => activates other (List.mem_cons_of_mem eid member)

theorem Midway.activateEntities_of_failure {before rest : List Uid}
    (midway : Midway env done done program next) (listed : Listed program)
    (state : program.state ≠ .ORIGIN) (nodup : (done ++ before).Nodup)
    (inside : ∀ eid ∈ before, eid ∈ program.unscheduled)
    (activates : ∀ eid ∈ before, Activates env program eid)
    (failure : (entityActivate env eid (Program.activateEntities env before next).1).2 ≠
      .GXF_SUCCESS) :
    Program.activateEntities env (before ++ eid :: rest) next =
      ((deactivate env (entityActivate env eid (Program.activateEntities env before next).1).1).1,
        (entityActivate env eid (Program.activateEntities env before next).1).2) := by
  obtain ⟨code, -⟩ := midway.activateEntities listed state nodup inside activates
  rw [activateEntities_append, andThen_of_success code, Program.activateEntities]
  dsimp only
  rw [if_pos failure]

/-- A program before its graph is activated. -/
structure Origin (program : Program) : Prop where
  listed : Listed program
  state : program.state = .ORIGIN
  scheduled : program.scheduled = []
  schedulers : program.schedulers = []

/-- What an attempt to activate the graph has done is undone. -/
structure RolledBack (program next : Program) : Prop where
  state : next.state = .ORIGIN
  scheduled : next.scheduled = []
  unscheduled : next.unscheduled.Perm program.unscheduled
  initialized : ∀ eid ∈ next.initialized, eid ∈ program.initialized
  active : ∀ eid ∈ next.active, eid ∈ program.active

theorem RolledBack.refl (origin : Origin program) : RolledBack program program :=
  ⟨origin.state, origin.scheduled, .refl _, fun _ => id, fun _ => id⟩

/-- What is taken back when `attached` have been scheduled in calls for `called`: all routes can
be removed, the components of all entities are found among the registered ones, and what has been
initialized can be deinitialized. -/
structure Detachable (env : Environment) (attached called : List Uid) (program : Program) :
    Prop where
  unschedule : ∀ eid ∈ attached, env.unschedule eid = .GXF_SUCCESS
  removeRoutes : ∀ eid ∈ program.unscheduled, env.removeRoutes eid = .GXF_SUCCESS
  intact : ∀ eid ∈ program.unscheduled, ∀ kind ∈ removedKinds, Intact env kind eid
  registered : ∀ kind ∈ removedKinds, total env kind program.unscheduled ≤
    program.registered kind + acquired env attached kind
  deinit : ∀ eid ∈ program.unscheduled,
    eid ∈ program.initialized ∨ eid ∈ called ∧ env.init eid = .GXF_SUCCESS →
      env.deinit eid = .GXF_SUCCESS

variable {attached called : List Uid}

theorem Midway.deactivatable_iff
    (midway : Midway env attached called program next) (listed : Listed program)
    (scheduled : program.scheduled = []) :
    Deactivatable env next ↔ Detachable env attached called program := by
  have perm := midway.perm listed
  have nextScheduled := midway.scheduled
  rw [scheduled, List.append_nil] at perm
  rw [scheduled, List.nil_append] at nextScheduled
  constructor
  · intro whole
    have sweepable := Sweepable.perm perm whole
    constructor
    · intro eid isAttached
      apply sweepable.unschedule eid (midway.inside eid isAttached)
      rw [nextScheduled]
      exact isAttached
    · exact sweepable.removeRoutes
    · exact sweepable.intact
    · intro kind removed
      rw [← midway.registered]
      exact sweepable.registered kind removed
    · intro eid isInside
      rw [← midway.initialized]
      exact sweepable.deinit eid isInside
  · intro detachable
    apply Sweepable.perm perm.symm
    constructor
    · intro eid _ isScheduled
      rw [nextScheduled] at isScheduled
      exact detachable.unschedule eid isScheduled
    · exact detachable.removeRoutes
    · exact detachable.intact
    · intro kind removed
      rw [midway.registered]
      exact detachable.registered kind removed
    · intro eid isInside
      rw [midway.initialized]
      exact detachable.deinit eid isInside

theorem Midway.rolledBack_iff
    (midway : Midway env attached called program next) (listed : Listed program)
    (state : program.state ≠ .ORIGIN) (scheduled : program.scheduled = [])
    (inside : ∀ eid ∈ called, eid ∈ program.unscheduled) (some : program.unscheduled ≠ []) :
    Detachable env attached called program ↔ RolledBack program (deactivate env next).1 := by
  have isNext := midway.listed listed
  rw [← midway.state] at state
  obtain ⟨code, deactivated⟩ := isNext.deactivate_iff state env
  have perm := midway.perm listed
  rw [scheduled, List.append_nil] at perm
  rw [← midway.deactivatable_iff listed scheduled]
  constructor
  · intro whole
    have done := deactivated whole
    have swept : ∀ eid ∈ called, eid ∈ next.unscheduled ++ next.scheduled :=
      fun eid isCalled => perm.mem_iff.mpr (inside eid isCalled)
    constructor
    · exact done.state
    · exact done.scheduled
    · exact done.perm.trans perm
    · intro eid member
      rw [done.initialized, mem_filter_notMem] at member
      exact ((midway.initialized eid).mp member.1).resolve_right fun isCalled =>
        member.2 (swept eid isCalled.1)
    · intro eid member
      rw [done.active, mem_filter_notMem] at member
      exact (midway.active eid member.1).resolve_right fun isCalled =>
        member.2 (swept eid isCalled)
  · intro rolledBack
    rw [← code]
    by_contra failure
    have empty := (deactivate_of_failure failure).1
    have same := rolledBack.unscheduled
    rw [empty] at same
    exact some same.nil_eq.symm

/-- The entity is in none of the lists. -/
def Absent (eid : Uid) (program : Program) : Prop :=
  eid ∉ program.unscheduled ∧ eid ∉ program.scheduled

variable {lost : Uid}

theorem absent_removeAll (env : Environment) (kind : ComponentKind) (eid : Uid)
    (absent : Absent lost program) : Absent lost (removeAll env kind eid program).1 := by
  obtain ⟨registered, isNext⟩ := removeAll_keeps env kind eid program
  rw [isNext]
  exact absent

theorem absent_moveBack (env : Environment) (eid : Uid)
    (absent : Absent lost program) : Absent lost (moveBack env eid program).1 := by
  rw [moveBack]
  split
  next isScheduled =>
    refine ⟨fun member => ?_, fun member => absent.2 (List.mem_of_mem_erase member)⟩
    dsimp only [emplaceBack] at member
    split at member
    next =>
      rcases List.mem_append.mp member with old | new
      · exact absent.1 old
      · rw [← List.mem_singleton.mp new] at isScheduled
        exact absent.2 isScheduled
    next => exact absent.1 member
  next => exact absent

theorem absent_entityDeactivate (env : Environment) (eid : Uid)
    (absent : Absent lost program) : Absent lost (entityDeactivate env eid program).1 := by
  apply andThen_keeps
  · apply andThen_keeps (absent_moveBack env eid _)
    · intro middle absent
      have followed : Absent lost
          (middle.follow (middle.statistics || !reaches env .JobStatistics eid)) := absent
      apply andThen_keeps (absent_removeAll env .JobStatistics eid followed)
      intro middle absent
      apply andThen_keeps (absent_removeAll env .Monitor eid absent)
      intro middle absent
      apply andThen_keeps
      · exact absent
      · intro middle absent
        apply andThen_keeps (absent_removeAll env .Router eid absent)
        exact fun middle absent => absent_removeAll env .System eid absent
    · exact absent
  · intro middle absent
    rw [deinitEntity_eq]
    exact absent

theorem absent_sweepAll (env : Environment) (eids : List Uid)
    (absent : Absent lost program) : Absent lost (sweepAll env eids program).1 := by
  have swept : Absent lost (sweep env eids program).1 := by
    induction eids generalizing program with
    | nil => exact absent
    | cons eid rest ih =>
        exact andThen_keeps (absent_entityDeactivate env eid absent) fun middle absent => ih absent
  have reset : ∀ program : Program, Absent lost program.resetProgram :=
    fun _ => ⟨List.not_mem_nil, List.not_mem_nil⟩
  rw [sweepAll]
  split
  next => exact reset program
  next =>
    dsimp only
    split
    next => exact reset _
    next => exact swept

theorem absent_deactivate (env : Environment) (absent : Absent lost program) :
    Absent lost (deactivate env program).1 := by
  by_cases state : program.state = .ORIGIN
  · rw [deactivate, if_pos state]
    exact absent
  · rw [deactivate_eq state]
    apply andThen_keeps (absent_sweepAll env _ _)
    · intro graph absent
      apply andThen_keeps (absent_sweepAll env _ absent)
      exact fun middle absent => absent
    · exact absent

/-! ## The steps of an activation -/

/-- The steps in front of the first that is undone, and what follows them. -/
def prologue (env : Environment) (program : Program)
    (rest : (EntityClass → List Uid) → Program → Program × GxfResult) : Program × GxfResult :=
  if env.typeId ≠ .GXF_SUCCESS then (program, env.typeId)
  else
    let activating := { program with state := .ACTIVATING }
    match sort env program.unscheduled with
    | .error code => (activating, code.val)
    | .ok sorted =>
        match env.createGroups with
        | .error code => (activating, code.val)
        | .ok (messageRouter, networkRouter) =>
            andThen (addHandles env .Router [some messageRouter, some networkRouter]
              (activating.setGroups true)) fun program =>
            andThen (addRouters env (sorted .router) program) (rest sorted)

/-- A call for each entity, up to the first that fails. -/
def each (call : Uid → GxfResult) : List Uid → Program → Program × GxfResult
  | [], program => (program, .GXF_SUCCESS)
  | eid :: rest, program =>
      if call eid ≠ .GXF_SUCCESS then (program, call eid) else each call rest program

/-- The steps behind the prologue, up to the first that fails.  Nothing is undone. -/
def stepsRouted (env : Environment) (sorted : EntityClass → List Uid) (program : Program) :
    Program × GxfResult :=
  andThen (each env.addRoutes program.unscheduled program) fun program =>
  andThen (each env.populate (sorted .graph) program.initializeExecutor) fun program =>
    attempt env (order sorted) program

/-- The steps of `activate`, up to the first that fails. -/
def steps (env : Environment) (program : Program) : Program × GxfResult :=
  prologue env program (stepsRouted env)

theorem andThen_andThen (result : Program × GxfResult)
    (first second : Program → Program × GxfResult) :
    andThen (andThen result first) second =
      andThen result fun program => andThen (first program) second := by
  by_cases success : result.2 = .GXF_SUCCESS
  · rw [andThen_of_success success, andThen_of_success success]
  · rw [andThen_of_failure success, andThen_of_failure success, andThen_of_failure success]

/-- The part of `activate` behind the prologue, with its five loops of activations as one. -/
def activateRouted (env : Environment) (sorted : EntityClass → List Uid) (program : Program) :
    Program × GxfResult :=
  andThen (addRoutes env program.unscheduled program) fun program =>
  andThen (preActivateEntities env (sorted .graph) program.initializeExecutor) fun program =>
  andThen (activateEntities env (order sorted) program) fun program =>
    ({ program with state := .ACTIVATED }, .GXF_SUCCESS)

theorem activate_eq (state : program.state = .ORIGIN) (env : Environment) :
    activate env program = prologue env program (activateRouted env) := by
  unfold activateRouted
  simp only [order, activateEntities_append, andThen_andThen]
  rw [activate, prologue]
  split
  next => rfl
  next =>
    rw [if_neg (not_not_intro state)]
    dsimp only
    cases sort env program.unscheduled with
    | error | ok => rfl

/-- The steps that are not undone succeed. -/
structure Ready (env : Environment) (sorted : EntityClass → List Uid)
    (messageRouter networkRouter : Uid) (program : Program) : Prop where
  typeId : env.typeId = .GXF_SUCCESS
  sort : sort env program.unscheduled = .ok sorted
  createGroups : env.createGroups = .ok (messageRouter, networkRouter)
  messageRouter : env.add .Router messageRouter = .GXF_SUCCESS
  networkRouter : env.add .Router networkRouter = .GXF_SUCCESS
  routers : ∀ eid ∈ sorted .router, Addable env .Router eid

/-- The program when routers have been added. -/
def routed (env : Environment) (sorted : EntityClass → List Uid)
    (messageRouter networkRouter : Uid) (program : Program) : Program :=
  { ({ program with state := .ACTIVATING }.setRegistered .System fun _ => 0).setRegistered .Router
      fun _ => {messageRouter, networkRouter} + total env .Router (sorted .router) with
    groups := true }

theorem addRouters_iff (env : Environment) (eids : List Uid) (program : Program) :
    (addRouters env eids program).2 = .GXF_SUCCESS ↔ ∀ eid ∈ eids, Addable env .Router eid := by
  induction eids generalizing program with
  | nil => exact iff_of_true rfl fun _ member => absurd member List.not_mem_nil
  | cons eid rest ih => rw [addRouters, andThen_code, addAll_iff, ih, List.forall_mem_cons]

theorem addRouters_eq (addable : ∀ eid ∈ eids, Addable env .Router eid)
    (program : Program) : addRouters env eids program =
      (program.setRegistered .Router (· + total env .Router eids), .GXF_SUCCESS) := by
  induction eids generalizing program with
  | nil =>
      rw [addRouters, setRegistered, total, List.flatMap_nil, Multiset.coe_nil,
        Multiset.add_zero, Function.update_eq_self]
  | cons eid rest ih =>
      obtain ⟨first, others⟩ := List.forall_mem_cons.mp addable
      rw [addRouters, addAll_eq first, andThen_of_success rfl, ih others,
        setRegistered_setRegistered, total_cons]
      simp only [Multiset.add_assoc]

theorem addRouters_keeps (env : Environment) (eids : List Uid) (program : Program) :
    ∃ registered, (addRouters env eids program).1 = { program with registered } := by
  induction eids generalizing program with
  | nil => exact ⟨program.registered, rfl⟩
  | cons eid rest ih =>
      rw [addRouters]
      by_cases success : (addAll env .Router eid program).2 = .GXF_SUCCESS
      · rw [andThen_of_success success, addAll_eq ((addAll_iff ..).mp success)]
        exact ih _
      · rw [andThen_of_failure success]
        exact addAll_keeps env .Router eid program

theorem prologue_of_ready {messageRouter networkRouter : Uid}
    (ready : Ready env sorted messageRouter networkRouter program)
    (rest : (EntityClass → List Uid) → Program → Program × GxfResult) :
    prologue env program rest =
      rest sorted (routed env sorted messageRouter networkRouter program) := by
  have added : (addHandles env .Router [some messageRouter, some networkRouter]
      ({ program with state := .ACTIVATING }.setGroups true)).2 = .GXF_SUCCESS := by
    apply (addHandles_iff ..).mpr
    refine ⟨by simp, fun component member => ?_⟩
    rcases List.mem_cons.mp member with first | second
    · cases first
      exact ready.messageRouter
    · cases List.mem_singleton.mp second
      exact ready.networkRouter
  rw [prologue, if_neg (not_not_intro ready.typeId), ready.sort, ready.createGroups]
  dsimp only
  rw [andThen_of_success added, addHandles_eq _ _ _ added, addRouters_eq ready.routers,
    andThen_of_success rfl]
  dsimp only
  rw [setRegistered_setRegistered, routed, setGroups]
  simp only [setRegistered, Function.update_self, Function.update_idem, Multiset.zero_add]
  rfl

theorem prologue_of_not_ready (typeId : env.typeId = .GXF_SUCCESS)
    (fails : ∀ sorted messageRouter networkRouter,
      ¬Ready env sorted messageRouter networkRouter program)
    (rest : (EntityClass → List Uid) → Program → Program × GxfResult) :
    (prologue env program rest).2 ≠ .GXF_SUCCESS ∧ ∃ registered groups,
      (prologue env program rest).1 =
        { program with state := .ACTIVATING, registered, groups } := by
  rw [prologue, if_neg (not_not_intro typeId)]
  dsimp only
  cases isSorted : sort env program.unscheduled with
  | error code => exact ⟨code.property, program.registered, program.groups, rfl⟩
  | ok sorted =>
      cases isCreated : env.createGroups with
      | error code => exact ⟨code.property, program.registered, program.groups, rfl⟩
      | ok groups =>
          obtain ⟨messageRouter, networkRouter⟩ := groups
          dsimp only
          let activating : Program := { program with state := .ACTIVATING }
          obtain ⟨registered, isNext⟩ := addHandles_keeps env .Router
            [some messageRouter, some networkRouter] (activating.setGroups true)
          by_cases added : (addHandles env .Router [some messageRouter, some networkRouter]
              (activating.setGroups true)).2 = .GXF_SUCCESS
          · have both := ((addHandles_iff ..).mp added).2
            have failure : ∀ program, (addRouters env (sorted .router) program).2 ≠
                .GXF_SUCCESS := fun program success =>
              fails sorted messageRouter networkRouter
                ⟨typeId, isSorted, isCreated, both messageRouter List.mem_cons_self,
                  both networkRouter (List.mem_cons_of_mem _ List.mem_cons_self),
                  (addRouters_iff ..).mp success⟩
            rw [andThen_of_success added, andThen_of_failure (failure _), isNext]
            obtain ⟨after, isLast⟩ := addRouters_keeps env (sorted .router)
              { activating.setGroups true with registered }
            exact ⟨failure _, after, true, isLast⟩
          · rw [andThen_of_failure added]
            exact ⟨added, registered, true, isNext⟩

theorem each_iff (call : Uid → GxfResult) (eids : List Uid) (program : Program) :
    ((each call eids program).2 = .GXF_SUCCESS ↔ ∀ eid ∈ eids, call eid = .GXF_SUCCESS) ∧
      (each call eids program).1 = program := by
  induction eids with
  | nil => exact ⟨iff_of_true rfl fun _ member => absurd member List.not_mem_nil, rfl⟩
  | cons eid rest ih =>
      rw [each, List.forall_mem_cons]
      split
      next failure => exact ⟨iff_of_false failure fun both => failure both.1, rfl⟩
      next success => exact ⟨ih.1.trans (and_iff_right (not_not.mp success)).symm, ih.2⟩

theorem stepsRouted_iff (env : Environment) (sorted : EntityClass → List Uid)
    (program : Program) : (stepsRouted env sorted program).2 = .GXF_SUCCESS ↔
      (∀ eid ∈ program.unscheduled, env.addRoutes eid = .GXF_SUCCESS) ∧
      (∀ eid ∈ sorted .graph, env.populate eid = .GXF_SUCCESS) ∧
      (activateEntities env (order sorted) program.initializeExecutor).2 = .GXF_SUCCESS := by
  rw [stepsRouted, andThen_code, andThen_code, (each_iff ..).1, (each_iff ..).1, (each_iff ..).2,
    (each_iff ..).2, attempt_code]

theorem addRoutes_of_success
    (success : ∀ eid ∈ eids, env.addRoutes eid = .GXF_SUCCESS) (program : Program) :
    addRoutes env eids program = (program, .GXF_SUCCESS) := by
  induction eids with
  | nil => rfl
  | cons eid rest ih =>
      obtain ⟨first, others⟩ := List.forall_mem_cons.mp success
      rw [addRoutes, if_neg (not_not_intro first), ih others]

theorem addRoutes_of_failure
    (failure : ¬∀ eid ∈ eids, env.addRoutes eid = .GXF_SUCCESS) (program : Program) :
    addRoutes env eids program = deactivate env program := by
  induction eids with
  | nil => exact absurd (fun _ member => absurd member List.not_mem_nil) failure
  | cons eid rest ih =>
      rw [addRoutes]
      split
      next => rfl
      next first =>
        exact ih fun others => failure (List.forall_mem_cons.mpr ⟨not_not.mp first, others⟩)

theorem preActivateEntities_of_success
    (success : ∀ eid ∈ eids, env.populate eid = .GXF_SUCCESS) (program : Program) :
    preActivateEntities env eids program = (program, .GXF_SUCCESS) := by
  induction eids with
  | nil => rfl
  | cons eid rest ih =>
      obtain ⟨first, others⟩ := List.forall_mem_cons.mp success
      rw [preActivateEntities, if_neg (not_not_intro first), ih others]

theorem preActivateEntities_of_failure
    (failure : ¬∀ eid ∈ eids, env.populate eid = .GXF_SUCCESS) (program : Program) :
    (preActivateEntities env eids program).2 ≠ .GXF_SUCCESS ∧
      (preActivateEntities env eids program).1 = (deactivate env program).1 := by
  induction eids with
  | nil => exact absurd (fun _ member => absurd member List.not_mem_nil) failure
  | cons eid rest ih =>
      rw [preActivateEntities]
      split
      next failure => exact ⟨failure, rfl⟩
      next first =>
        exact ih fun others => failure (List.forall_mem_cons.mpr ⟨not_not.mp first, others⟩)

/-! ## All or nothing -/

/-- Every step of the activation succeeds. -/
def Succeeds (env : Environment) (program : Program) : Prop := (steps env program).2 = .GXF_SUCCESS

/-- An activation with a step that fails is an error and leaves nothing behind, and the program
is activated only when no step fails. -/
def AllOrNothing (env : Environment) (program : Program) : Prop := (¬Succeeds env program →
    (activate env program).2 ≠ .GXF_SUCCESS ∧ RolledBack program (activate env program).1) ∧
  ((activate env program).1.state = .ACTIVATED → Succeeds env program)

/-- Each activation succeeds, or fails where it can be undone. -/
def Ends (env : Environment) (eids : List Uid) (program : Program) : Prop :=
  ∀ done eid rest, eids = done ++ eid :: rest → (∀ eid ∈ done, Activates env program eid) →
    (¬Starts env program eid → Detachable env done (done ++ [eid]) program) ∧
    (Starts env program eid → Attaches env eid ∧ (env.schedule eid ≠ .GXF_SUCCESS →
        Detachable env (done ++ [eid]) (done ++ [eid]) program))

/-- An entity that is activated without a graph leaves nothing behind. -/
def Idle (env : Environment) (program : Program) (eid : Uid) : Prop := env.init eid ≠ .GXF_SUCCESS ∨
    eid ∈ program.initialized ∧ (env.executorActivate eid = .ok true → eid ∈ program.active)

/-- Where a step behind the prologue fails, no entity is lost, and the deactivation succeeds. -/
def Kept (env : Environment) (sorted : EntityClass → List Uid) (program : Program) : Prop :=
  if ∀ eid ∈ program.unscheduled, env.addRoutes eid = .GXF_SUCCESS then
    if ∀ eid ∈ sorted .graph, env.populate eid = .GXF_SUCCESS then
      Ends env (order sorted) program.initializeExecutor
    else Detachable env [] [] program.initializeExecutor
  else Detachable env [] [] program

/-- When routes cannot be added, the activation that goes on without a graph stops at once, or at
an entity that leaves nothing behind. -/
def Halts (env : Environment) (sorted : EntityClass → List Uid) (program : Program) : Prop :=
  ¬(∀ eid ∈ program.unscheduled, env.addRoutes eid = .GXF_SUCCESS) →
    (∀ eid ∈ sorted .graph, env.populate eid = .GXF_SUCCESS) →
      ∀ eid ∈ (order sorted).head?, Idle env program eid

/-- The activation is undone where it fails. -/
def Recovers (env : Environment) (program : Program) : Prop := env.typeId ≠ .GXF_SUCCESS ∨
  ∃ sorted messageRouter networkRouter, Ready env sorted messageRouter networkRouter program ∧
    Kept env sorted (routed env sorted messageRouter networkRouter program) ∧
    Halts env sorted program

theorem allOrNothing_iff_of_failure (fails : ¬Succeeds env program)
    (failure : (activate env program).2 ≠ .GXF_SUCCESS) :
    AllOrNothing env program ↔ RolledBack program (activate env program).1 := by
  constructor
  · exact fun whole => (whole.1 fails).2
  · refine fun rolledBack => ⟨fun _ => ⟨failure, rolledBack⟩, fun activated => ?_⟩
    rw [rolledBack.state] at activated
    cases activated

section Ready

variable {sorted : EntityClass → List Uid} {messageRouter networkRouter : Uid}

theorem rolledBack_routed :
    RolledBack (routed env sorted messageRouter networkRouter program) next ↔
      RolledBack program next :=
  ⟨fun back => ⟨back.1, back.2, back.3, back.4, back.5⟩,
    fun back => ⟨back.1, back.2, back.3, back.4, back.5⟩⟩

theorem rolledBack_initializeExecutor :
    RolledBack program.initializeExecutor next ↔ RolledBack program next :=
  ⟨fun back => ⟨back.1, back.2, back.3, back.4, back.5⟩,
    fun back => ⟨back.1, back.2, back.3, back.4, back.5⟩⟩

theorem Listed.initializeExecutor (listed : Listed program) : Listed program.initializeExecutor :=
  ⟨listed.nodup, listed.schedulers, listed.known, listed.room⟩

theorem Origin.listed_routed (origin : Origin program) :
    Listed (routed env sorted messageRouter networkRouter program) :=
  ⟨origin.listed.nodup, origin.listed.schedulers, origin.listed.known, origin.listed.room⟩

theorem ends_of_activates
    (activates : ∀ eid ∈ eids, Activates env program eid) : Ends env eids program := by
  intro done eid rest isSplit _
  have member : eid ∈ eids := by
    rw [isSplit]
    exact List.mem_append_right _ List.mem_cons_self
  obtain ⟨starts, attaches, schedules⟩ := activates eid member
  exact ⟨fun fails => absurd starts fails, fun _ => ⟨attaches, fun fails => absurd schedules fails⟩⟩

theorem ends_iff {done rest : List Uid} (activates : ∀ eid ∈ done, Activates env program eid)
    (fails : ¬Activates env program eid) : Ends env (done ++ eid :: rest) program ↔
      (¬Starts env program eid → Detachable env done (done ++ [eid]) program) ∧
      (Starts env program eid → Attaches env eid ∧ (env.schedule eid ≠ .GXF_SUCCESS →
          Detachable env (done ++ [eid]) (done ++ [eid]) program)) := by
  constructor
  · exact fun ends => ends done eid rest rfl activates
  · intro undone before other others isSplit activatesBefore
    rcases List.append_eq_append_iff.mp isSplit with ⟨between, isBefore, isRest⟩ |
      ⟨between, isDone, isOthers⟩
    · cases between with
      | nil =>
          rw [List.append_nil] at isBefore
          cases isRest
          rw [isBefore]
          exact undone
      | cons first between =>
          cases isRest
          refine absurd (activatesBefore eid ?_) fails
          rw [isBefore]
          exact List.mem_append_right _ List.mem_cons_self
    · cases between with
      | nil =>
          rw [List.append_nil] at isDone
          cases isOthers
          rw [← isDone]
          exact undone
      | cons first between =>
          cases isOthers
          have isActivated := activates other (by
            rw [isDone]
            exact List.mem_append_right _ List.mem_cons_self)
          exact ⟨fun stops => absurd isActivated.1 stops,
            fun _ => ⟨isActivated.2.1, fun stops => absurd isActivated.2.2 stops⟩⟩

theorem kept_of_ends (routes : ∀ eid ∈ program.unscheduled, env.addRoutes eid = .GXF_SUCCESS)
    (populates : ∀ eid ∈ sorted .graph, env.populate eid = .GXF_SUCCESS)
    (ends : Ends env (order sorted) program.initializeExecutor) : Kept env sorted program := by
  rw [Kept, if_pos routes, if_pos populates]
  exact ends

theorem forall_or_first (property : Uid → Prop) (eids : List Uid) :
    (∀ eid ∈ eids, property eid) ∨ ∃ done eid rest, eids = done ++ eid :: rest ∧
      (∀ eid ∈ done, property eid) ∧ ¬property eid := by
  induction eids with
  | nil => exact .inl fun _ member => absurd member List.not_mem_nil
  | cons eid rest ih =>
      by_cases holds : property eid
      · rcases ih with every | ⟨done, first, others, isSplit, before, fails⟩
        · exact .inl (List.forall_mem_cons.mpr ⟨holds, every⟩)
        · refine .inr ⟨eid :: done, first, others, ?_, List.forall_mem_cons.mpr ⟨holds, before⟩,
            fails⟩
          rw [isSplit, List.cons_append]
      · exact .inr ⟨[], eid, rest, rfl, fun _ member => absurd member List.not_mem_nil, holds⟩

theorem activateEntities_cases (listed : Listed program) (state : program.state ≠ .ORIGIN)
    (nodup : eids.Nodup) (inside : ∀ eid ∈ eids, eid ∈ program.unscheduled) :
    ((∀ eid ∈ eids, Activates env program eid) ∧
        (activateEntities env eids program).2 = .GXF_SUCCESS) ∨
      ∃ done eid rest reached, eids = done ++ eid :: rest ∧
        (∀ eid ∈ done, Activates env program eid) ∧ ¬Activates env program eid ∧
        Midway env done done program reached ∧
        (entityActivate env eid reached).2 ≠ .GXF_SUCCESS ∧
        activateEntities env eids program = ((deactivate env (entityActivate env eid reached).1).1,
            (entityActivate env eid reached).2) := by
  have midway := Midway.refl listed env
  rcases forall_or_first (Activates env program) eids with
    every | ⟨done, eid, rest, rfl, before, fails⟩
  · exact .inl ⟨every, (midway.activateEntities listed state nodup inside every).1⟩
  · have isNew : eid ∉ done := fun inDone =>
      List.disjoint_of_nodup_append nodup inDone List.mem_cons_self
    have isInside := inside eid (List.mem_append_right _ List.mem_cons_self)
    have nodupDone := (List.nodup_append.mp nodup).1
    have insideDone : ∀ eid ∈ done, eid ∈ program.unscheduled := fun other member =>
      inside other (List.mem_append_left _ member)
    obtain ⟨-, reached⟩ := midway.activateEntities listed state nodupDone insideDone before
    have stops := reached.activate_of_not_activates listed state isInside isNew fails
    exact .inr ⟨done, eid, rest, _, rfl, before, fails, reached, stops,
      midway.activateEntities_of_failure listed state nodupDone insideDone before stops⟩

/-- A loop of activations that fails is undone where `Ends` says so. -/
theorem ends_iff_rolledBack (listed : Listed program) (state : program.state ≠ .ORIGIN)
    (scheduled : program.scheduled = []) (same : eids.Perm program.unscheduled)
    (failure : (activateEntities env eids program).2 ≠ .GXF_SUCCESS) :
    Ends env eids program ↔ RolledBack program (activateEntities env eids program).1 := by
  have nodup : eids.Nodup := same.nodup_iff.mpr (List.nodup_append.mp listed.nodup).1
  have inside : ∀ eid ∈ eids, eid ∈ program.unscheduled := fun eid => same.mem_iff.mp
  rcases @activateEntities_cases env _ _ listed state nodup inside with
    ⟨-, success⟩ | ⟨done, eid, rest, next, rfl, before, fails, reached, -, stopped⟩
  · exact absurd success failure
  · have isNew : eid ∉ done := fun inDone =>
      List.disjoint_of_nodup_append nodup inDone List.mem_cons_self
    have isInside := inside eid (List.mem_append_right _ List.mem_cons_self)
    have called : ∀ other ∈ done ++ [eid], other ∈ program.unscheduled :=
      List.forall_mem_append.mpr ⟨reached.inside, List.forall_mem_singleton.mpr isInside⟩
    have some : program.unscheduled ≠ [] := List.ne_nil_of_mem isInside
    rw [ends_iff before fails, stopped]
    dsimp only
    by_cases starts : Starts env program eid
    · by_cases attaches : Attaches env eid
      · obtain ⟨code, isNext⟩ := reached.activate_of_attaches listed state isInside isNew starts
          attaches
        rw [← isNext.rolledBack_iff listed state scheduled called some]
        have unscheduled : env.schedule eid ≠ .GXF_SUCCESS := fun schedules =>
          fails ⟨starts, attaches, schedules⟩
        exact ⟨fun undone => (undone.2 starts).2 unscheduled, fun detachable =>
          ⟨fun stops => absurd starts stops, fun _ => ⟨attaches, fun _ => detachable⟩⟩⟩
      · obtain ⟨-, absent⟩ := reached.activate_of_not_attaches listed state isInside isNew starts
          attaches
        refine iff_of_false (fun undone => attaches (undone.2 starts).1) fun back => ?_
        exact (absent_deactivate env absent).1 (back.unscheduled.mem_iff.mpr isInside)
    · obtain ⟨-, isNext⟩ := reached.activate_of_not_starts isNew starts
      rw [← isNext.rolledBack_iff listed state scheduled called some]
      exact ⟨fun undone => undone.1 starts, fun detachable =>
        ⟨fun _ => detachable, fun isStarted => absurd isStarted starts⟩⟩

theorem entityActivate_of_origin (state : program.state = .ORIGIN) (env : Environment)
    (eid : Uid) : (entityActivate env eid program).2 ≠ .GXF_SUCCESS ∧
      (entityActivate env eid program).1 = (startEntity env eid program).1 := by
  have refused : scheduleEntity env eid (startEntity env eid program).1 =
      ((startEntity env eid program).1, .GXF_INVALID_LIFECYCLE_STAGE) := by
    obtain ⟨-, initialized, active, -, isStarted⟩ := startEntity_iff env eid program
    rw [isStarted]
    exact if_pos state
  rw [entityActivate_eq]
  by_cases success : (startEntity env eid program).2 = .GXF_SUCCESS
  · rw [andThen_of_success success, refused]
    exact ⟨nofun, rfl⟩
  · rw [andThen_of_failure success]
    exact ⟨success, rfl⟩

theorem activateEntities_of_origin (state : program.state = .ORIGIN) (env : Environment)
    (eid : Uid) (rest : List Uid) :
    (activateEntities env (eid :: rest) program).2 ≠ .GXF_SUCCESS ∧
      (activateEntities env (eid :: rest) program).1 = (startEntity env eid program).1 := by
  obtain ⟨failure, isNext⟩ := entityActivate_of_origin state env eid
  have origin : (startEntity env eid program).1.state = .ORIGIN := by
    obtain ⟨-, initialized, active, -, isStarted⟩ := startEntity_iff env eid program
    rw [isStarted]
    exact state
  rw [activateEntities]
  dsimp only
  rw [if_pos failure, isNext, deactivate, if_pos origin]
  exact ⟨failure, rfl⟩

theorem idle_iff_rolledBack (back : RolledBack program next) (eid : Uid)
    (initialized : eid ∉ next.initialized) :
    Idle env program eid ↔ RolledBack program (startEntity env eid next).1 := by
  obtain ⟨-, initializes, activates, started, isStarted⟩ := startEntity_iff env eid next
  rw [isStarted, Idle]
  cases started with
  | refused failure =>
      refine iff_of_true (.inl (failure.resolve_left initialized)) ?_
      exact ⟨back.1, back.2, back.3, back.4, back.5⟩
  | declined isNew success answer =>
      constructor
      · rintro (failure | ⟨wasInitialized, -⟩)
        · exact absurd success failure
        · refine ⟨back.1, back.2, back.3, fun other member => ?_, back.5⟩
          rcases List.mem_cons.mp member with isEid | old
          · rw [isEid]
            exact wasInitialized
          · exact back.4 other old
      · exact fun rolledBack => .inr ⟨rolledBack.4 eid List.mem_cons_self,
          fun accepted => absurd accepted answer⟩
  | accepted isNew success answer =>
      constructor
      · rintro (failure | ⟨wasInitialized, wasActive⟩)
        · exact absurd success failure
        · refine ⟨back.1, back.2, back.3, fun other member => ?_, fun other member => ?_⟩
          · rcases List.mem_cons.mp member with isEid | old
            · rw [isEid]
              exact wasInitialized
            · exact back.4 other old
          · rcases List.mem_insert_iff.mp member with isEid | old
            · rw [isEid]
              exact wasActive answer
            · exact back.5 other old
      · exact fun rolledBack => .inr ⟨rolledBack.4 eid List.mem_cons_self,
          fun _ => rolledBack.5 eid List.mem_insert_self⟩

theorem rolledBack_of_routes (listed : Listed program) (state : program.state ≠ .ORIGIN)
    (scheduled : program.scheduled = [])
    (same : (order sorted).Perm program.unscheduled)
    (fails : ¬∀ eid ∈ program.unscheduled, env.addRoutes eid = .GXF_SUCCESS) :
    (activateRouted env sorted program).2 ≠ .GXF_SUCCESS ∧
      (RolledBack program (activateRouted env sorted program).1 ↔
        Detachable env [] [] program ∧ Halts env sorted program) := by
  have some : program.unscheduled ≠ [] := by
    intro empty
    rw [empty] at fails
    exact fails fun _ member => absurd member List.not_mem_nil
  have midway := Midway.refl listed env
  have undone := midway.rolledBack_iff listed state scheduled
    (fun _ member => absurd member List.not_mem_nil) some
  have deactivatable := midway.deactivatable_iff listed scheduled
  obtain ⟨code, deactivated⟩ := listed.deactivate_iff state env
  rw [deactivatable] at code deactivated
  rw [activateRouted, addRoutes_of_failure fails]
  by_cases detachable : Detachable env [] [] program
  · have done := deactivated detachable
    have undoneBack := undone.mp detachable
    rw [andThen_of_success (code.mpr detachable), and_iff_right detachable]
    generalize (deactivate env program).1 = undone at done undoneBack
    let next := undone.initializeExecutor
    have state : next.state = .ORIGIN := done.state
    have back : RolledBack program next := ⟨undoneBack.1, undoneBack.2, undoneBack.3, undoneBack.4,
      undoneBack.5⟩
    by_cases populates : ∀ eid ∈ sorted .graph, env.populate eid = .GXF_SUCCESS
    · rw [preActivateEntities_of_success populates, andThen_of_success rfl]
      cases isOrder : order sorted with
      | nil =>
          rw [isOrder] at same
          exact absurd same.nil_eq.symm some
      | cons eid rest =>
          have isInside : eid ∈ program.unscheduled := by
            rw [← same.mem_iff, isOrder]
            exact List.mem_cons_self
          have isNew : eid ∉ next.initialized := by
            have initialized : next.initialized = _ := done.initialized
            rw [initialized, mem_filter_notMem]
            exact fun both => both.2 (List.mem_append_left _ isInside)
          obtain ⟨failure, isNext⟩ := activateEntities_of_origin state env eid rest
          rw [andThen_of_failure failure, isNext, ← idle_iff_rolledBack back eid isNew, Halts,
            isOrder]
          refine ⟨failure, fun idle _ _ other isHead => ?_, fun halts => ?_⟩
          · cases isHead
            exact idle
          · exact halts fails populates eid rfl
    · obtain ⟨failure, isNext⟩ := preActivateEntities_of_failure populates next
      rw [deactivate, if_pos state] at isNext
      rw [andThen_of_failure failure, isNext]
      exact ⟨failure, iff_of_true back fun _ populated => absurd populated populates⟩
  · have failure : (deactivate env program).2 ≠ .GXF_SUCCESS := fun success =>
      detachable (code.mp success)
    rw [andThen_of_failure failure, ← undone]
    exact ⟨failure, iff_of_false detachable fun both => detachable both.1⟩

/-- What follows the prologue succeeds, or fails and is undone as `Kept` and `Halts` say. -/
theorem activateRouted_cases (listed : Listed program) (state : program.state ≠ .ORIGIN)
    (scheduled : program.scheduled = [])
    (isSorted : Program.sort env program.unscheduled = .ok sorted) :
    ((stepsRouted env sorted program).2 = .GXF_SUCCESS ∧ Kept env sorted program ∧
        Halts env sorted program) ∨
      (stepsRouted env sorted program).2 ≠ .GXF_SUCCESS ∧
        (activateRouted env sorted program).2 ≠ .GXF_SUCCESS ∧
        (Kept env sorted program ∧ Halts env sorted program ↔
          RolledBack program (activateRouted env sorted program).1) := by
  have same := order_perm isSorted
  have nodup := same.nodup_iff.mpr (List.nodup_append.mp listed.nodup).1
  rw [ne_eq, stepsRouted_iff, Kept]
  by_cases routes : ∀ eid ∈ program.unscheduled, env.addRoutes eid = .GXF_SUCCESS
  · have halts : Halts env sorted program := fun fails => absurd routes fails
    rw [if_pos routes, and_iff_right routes, and_iff_left halts, activateRouted,
      addRoutes_of_success routes, andThen_of_success rfl]
    by_cases populates : ∀ eid ∈ sorted .graph, env.populate eid = .GXF_SUCCESS
    · rw [if_pos populates, and_iff_right populates, preActivateEntities_of_success populates,
        andThen_of_success rfl]
      by_cases success : (activateEntities env (order sorted) program.initializeExecutor).2 =
          .GXF_SUCCESS
      · refine .inl ⟨success, ?_⟩
        rcases activateEntities_cases listed.initializeExecutor state nodup
          fun eid => same.mem_iff.mp with
          ⟨every, -⟩ | ⟨_, _, _, _, _, _, _, _, stops, stopped⟩
        · exact ends_of_activates every
        · rw [stopped] at success
          exact absurd success stops
      · rw [andThen_of_failure success]
        have undone := ends_iff_rolledBack listed.initializeExecutor state scheduled same success
        exact .inr ⟨success, success, undone.trans rolledBack_initializeExecutor⟩
    · obtain ⟨failure, isNext⟩ :=
        preActivateEntities_of_failure populates program.initializeExecutor
      rw [if_neg populates, andThen_of_failure failure, isNext]
      have some : program.unscheduled ≠ [] := by
        intro empty
        rw [sort_eq isSorted, empty, List.filter_nil] at populates
        exact populates fun _ member => absurd member List.not_mem_nil
      have undone := (Midway.refl listed.initializeExecutor env).rolledBack_iff
        listed.initializeExecutor state scheduled (fun _ member => absurd member List.not_mem_nil)
        some
      exact .inr ⟨fun both => populates both.1, failure, undone.trans rolledBack_initializeExecutor⟩
  · obtain ⟨failure, back⟩ := rolledBack_of_routes listed state scheduled same routes
    rw [if_neg routes]
    exact .inr ⟨fun both => routes both.1, failure, back.symm⟩

end Ready

/-- An activation is all or nothing exactly when it is undone where it fails. -/
theorem allOrNothing_iff_recovers (origin : Origin program) :
    AllOrNothing env program ↔ Recovers env program := by
  have isActivate := activate_eq origin.state env
  by_cases typeId : env.typeId = .GXF_SUCCESS
  · by_cases isReady : ∃ sorted messageRouter networkRouter,
      Ready env sorted messageRouter networkRouter program
    · obtain ⟨sorted, messageRouter, networkRouter, ready⟩ := isReady
      rw [prologue_of_ready ready] at isActivate
      have isSteps := prologue_of_ready ready (stepsRouted env)
      have recovers : Recovers env program ↔
          Kept env sorted (routed env sorted messageRouter networkRouter program) ∧
            Halts env sorted (routed env sorted messageRouter networkRouter program) := by
        constructor
        · rintro (failure | ⟨others, other, another, isReady, undone⟩)
          · exact absurd typeId failure
          · cases ready.sort.symm.trans isReady.sort
            cases ready.createGroups.symm.trans isReady.createGroups
            exact undone
        · exact fun undone => .inr ⟨sorted, messageRouter, networkRouter, ready, undone⟩
      rw [recovers]
      have listed : Listed (routed env sorted messageRouter networkRouter program) :=
        origin.listed_routed
      rcases activateRouted_cases listed nofun origin.scheduled ready.sort with
        ⟨success, undone⟩ | ⟨fails, failure, undone⟩
      · have succeeds : Succeeds env program := by
          rw [Succeeds, steps, isSteps]
          exact success
        exact iff_of_true ⟨fun fails => absurd succeeds fails, fun _ => succeeds⟩ undone
      · rw [undone, rolledBack_routed, ← isActivate]
        rw [← isActivate] at failure
        apply allOrNothing_iff_of_failure _ failure
        rw [Succeeds, steps, isSteps]
        exact fails
    · simp only [not_exists] at isReady
      obtain ⟨-, registered, groups, stuck⟩ :=
        prologue_of_not_ready typeId isReady (activateRouted env)
      obtain ⟨fails, -⟩ := prologue_of_not_ready typeId isReady (stepsRouted env)
      refine iff_of_false (fun whole => ?_) ?_
      · have back := (whole.1 fails).2.state
        rw [isActivate, stuck] at back
        cases back
      · rintro (failure | ⟨sorted, messageRouter, networkRouter, ready, -⟩)
        · exact failure typeId
        · exact isReady sorted messageRouter networkRouter ready
  · have early : ∀ rest, prologue env program rest = (program, env.typeId) :=
      fun rest => if_pos typeId
    refine iff_of_true ?_ (.inl typeId)
    rw [allOrNothing_iff_of_failure, isActivate, early]
    · exact RolledBack.refl origin
    · rw [Succeeds, steps, early]
      exact typeId
    · rw [isActivate, early]
      exact typeId

/-- An environment where entities have monitors and cannot be initialized. -/
def uninitializable (monitors : List (Option Uid)) : Environment where
  typeId := .GXF_SUCCESS
  find kind _ := .ok (if kind = .Monitor then monitors else [])
  createGroups := .ok (100, 101)
  add _ _ := .GXF_SUCCESS
  addRoutes _ := .GXF_SUCCESS
  removeRoutes _ := .GXF_SUCCESS
  populate _ := .GXF_SUCCESS
  init _ := .GXF_FAILURE
  deinit _ := .GXF_SUCCESS
  executorActivate _ := .ok true
  prepare _ := .GXF_SUCCESS
  schedule _ := .GXF_SUCCESS
  unschedule _ := .GXF_SUCCESS
  iterate := id
  iterate_perm := .refl

/-- A program with one entity. -/
def single : Program where
  state := .ORIGIN
  unscheduled := [1]
  scheduled := []
  schedulers := []
  registered _ := 0
  groups := false
  statistics := false
  ended := false
  initialized := []
  active := []

theorem origin_single : Origin single := by
  refine ⟨⟨by decide, by decide, ?_, by decide⟩, rfl, rfl, rfl⟩
  exact fun _ member => absurd member List.not_mem_nil

/-- Entity 2 cannot be initialized. -/
def uninitializableSecond : Environment :=
  { uninitializable [] with init := fun eid => if eid = 2 then .GXF_FAILURE else .GXF_SUCCESS }

/-- Without monitors both entities are back in the list, also the one that was activated. -/
theorem allOrNothing_without_monitors :
    AllOrNothing uninitializableSecond { single with unscheduled := [1, 2] } := by
  have origin : Origin { single with unscheduled := [1, 2] } :=
    ⟨⟨by decide, by decide, fun _ member => absurd member List.not_mem_nil, by decide⟩, rfl, rfl,
      rfl⟩
  apply (allOrNothing_iff_recovers origin).mpr
  have intact : ∀ kind eid, Intact uninitializableSecond kind eid :=
    fun kind _ => ⟨[], by cases kind <;> rfl, List.not_mem_nil⟩
  have none : ∀ kind eid, handles uninitializableSecond kind eid = [] :=
    fun kind _ => by cases kind <;> rfl
  have addable : ∀ kind, Addable uninitializableSecond kind 1 := fun kind =>
    ⟨intact kind 1, fun _ _ => rfl⟩
  refine .inr ⟨Function.update (Function.update (fun _ => []) .graph [2]) .graph [1, 2], 100, 101,
    ?_, ?_⟩
  · exact ⟨rfl, rfl, rfl, rfl, rfl, fun _ member => absurd member List.not_mem_nil⟩
  · refine ⟨kept_of_ends (fun _ _ => rfl) (fun _ _ => rfl) ?_,
      fun fails => absurd (fun _ _ => rfl) fails⟩
    intro done eid rest isSplit before
    have isSplit : [1, 2] = done ++ eid :: rest := isSplit
    rcases done with _ | ⟨first, _ | ⟨second, others⟩⟩
    · cases isSplit
      refine ⟨fun stops => absurd ⟨List.not_mem_nil, rfl, true, rfl⟩ stops, fun _ => ⟨?_, ?_⟩⟩
      · exact ⟨addable _, ⟨intact _ 1, fun _ _ => rfl⟩, addable _, addable _⟩
      · exact fun fails => absurd rfl fails
    · cases isSplit
      have fails : uninitializableSecond.init 2 ≠ .GXF_SUCCESS := by decide
      refine ⟨fun _ => ?_, fun starts => absurd starts.2.1 fails⟩
      refine ⟨fun _ _ => rfl, fun _ _ => rfl, fun _ _ _ _ => intact _ _, fun kind _ => ?_,
        fun _ _ _ => rfl⟩
      rw [total, List.flatMap_eq_nil_iff.mpr fun eid _ => none kind eid]
      exact Multiset.zero_le _
    · have length := congrArg List.length isSplit
      simp at length

/-- An entity with a monitor is gone from the program: the monitor has not been added, and the
deactivation fails to remove it. -/
theorem monitored_entity_dropped : Origin single ∧
    (∀ eid, (uninitializable [some 7]).deinit eid = .GXF_SUCCESS) ∧
    ¬AllOrNothing (uninitializable [some 7]) single := by
  refine ⟨origin_single, fun _ => rfl, fun whole => ?_⟩
  have fails : ¬Succeeds (uninitializable [some 7]) single := by
    rw [Succeeds]
    decide
  have empty : (activate (uninitializable [some 7]) single).1.unscheduled = [] := by decide
  have back := (whole.1 fails).2.unscheduled
  rw [empty] at back
  exact absurd back.nil_eq (by decide)

end Gxf.Std.Program
