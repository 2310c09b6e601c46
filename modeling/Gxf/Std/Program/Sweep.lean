import Gxf.Std.Program.Program

/-!
# Deactivations

When `unscheduleEntity`, `GxfEntityDeactivate` and loops of it succeed, and what they leave.
The components of the entities must be registered, and none of the calls outside may fail.
-/

namespace Gxf.Std.Program

open Gxf.Core

variable {env : Environment} {program next : Program} {eid : Uid} {kind : ComponentKind}

variable {result : Program × GxfResult}

theorem andThen_of_success (success : result.2 = .GXF_SUCCESS)
    (next : Program → Program × GxfResult) : andThen result next = next result.1 :=
  if_pos success

theorem andThen_of_failure (failure : result.2 ≠ .GXF_SUCCESS)
    (next : Program → Program × GxfResult) : andThen result next = result :=
  if_neg failure

theorem andThen_code (result : Program × GxfResult) (next : Program → Program × GxfResult) :
    (andThen result next).2 = .GXF_SUCCESS ↔
      result.2 = .GXF_SUCCESS ∧ (next result.1).2 = .GXF_SUCCESS := by
  by_cases success : result.2 = .GXF_SUCCESS
  · rw [andThen_of_success success]
    exact (and_iff_right success).symm
  · rw [andThen_of_failure success]
    exact iff_of_false success fun both => success both.1

/-- What each of two calls preserves, both do. -/
theorem andThen_keeps {property : Program → Prop}
    {next : Program → Program × GxfResult} (first : property result.1)
    (second : ∀ program, property program → property (next program).1) :
    property (andThen result next).1 := by
  by_cases success : result.2 = .GXF_SUCCESS
  · rw [andThen_of_success success]
    exact second _ first
  · rw [andThen_of_failure success]
    exact first

/-! ## Components -/

/-- The good handles of a kind in an entity. -/
def handles (env : Environment) (kind : ComponentKind) (eid : Uid) : List Uid :=
  match env.find kind eid with
  | .error _ => []
  | .ok found => found.filterMap id

/-- The components of a kind are found, and all handles are good. -/
def Intact (env : Environment) (kind : ComponentKind) (eid : Uid) : Prop :=
  ∃ found, env.find kind eid = .ok found ∧ none ∉ found

/-- The handles of a kind in some entities. -/
def total (env : Environment) (kind : ComponentKind) (eids : List Uid) : Multiset Uid :=
  eids.flatMap (handles env kind)

theorem total_cons (env : Environment) (kind : ComponentKind) (eid : Uid) (rest : List Uid) :
    total env kind (eid :: rest) = handles env kind eid + total env kind rest := by
  rw [total, List.flatMap_cons, ← Multiset.coe_add]
  rfl

theorem total_append (env : Environment) (kind : ComponentKind) (first second : List Uid) :
    total env kind (first ++ second) = total env kind first + total env kind second := by
  rw [total, List.flatMap_append, ← Multiset.coe_add]
  rfl

variable {first second : List Uid}

theorem total_perm (same : first.Perm second) (env : Environment)
    (kind : ComponentKind) : total env kind first = total env kind second :=
  Multiset.coe_eq_coe.mpr (same.flatMap_right _)

theorem handles_eq {found : List (Option Uid)} (isFound : env.find kind eid = .ok found) :
    handles env kind eid = found.filterMap id := by
  rw [handles, isFound]

@[simp] theorem registered_follow (program : Program) (valid : Bool) :
    (program.follow valid).registered = program.registered := rfl

theorem registered_setRegistered (program : Program) (kind : ComponentKind)
    (change : Multiset Uid → Multiset Uid) :
    (program.setRegistered kind change).registered kind = change (program.registered kind) :=
  Function.update_self ..

theorem setRegistered_setRegistered (program : Program) (kind : ComponentKind)
    (first second : Multiset Uid → Multiset Uid) :
    (program.setRegistered kind first).setRegistered kind second =
      program.setRegistered kind fun registered => second (first registered) := by
  rw [setRegistered, registered_setRegistered, setRegistered, Function.update_idem, setRegistered]

theorem filterMap_some_cons (component : Uid) (rest : List (Option Uid)) :
    ((some component :: rest).filterMap id : Multiset Uid) = component ::ₘ rest.filterMap id :=
  rfl

theorem removeHandles_iff (kind : ComponentKind) (found : List (Option Uid))
    (program : Program) : (removeHandles kind found program).2 = .GXF_SUCCESS ↔
      none ∉ found ∧ (found.filterMap id : Multiset Uid) ≤ program.registered kind := by
  induction found generalizing program with
  | nil => exact iff_of_true rfl ⟨List.not_mem_nil, Multiset.zero_le _⟩
  | cons handle rest ih =>
      cases handle with
      | none => exact iff_of_false nofun fun both => both.1 List.mem_cons_self
      | some component =>
          rw [removeHandles, filterMap_some_cons]
          by_cases isRegistered : component ∈ program.registered kind
          · rw [if_pos isRegistered, ih, registered_setRegistered]
            have whole := Multiset.cons_erase isRegistered
            nth_rewrite 2 [← whole]
            rw [Multiset.cons_le_cons_iff, List.mem_cons, not_or]
            simp
          · rw [if_neg isRegistered]
            refine iff_of_false nofun fun both => isRegistered ?_
            exact Multiset.mem_of_le both.2 (Multiset.mem_cons_self _ _)

theorem removeHandles_eq (kind : ComponentKind) (found : List (Option Uid)) (program : Program)
    (success : (removeHandles kind found program).2 = .GXF_SUCCESS) :
    removeHandles kind found program =
      (program.setRegistered kind (· - (found.filterMap id : Multiset Uid)), .GXF_SUCCESS) := by
  induction found generalizing program with
  | nil =>
      rw [removeHandles, setRegistered, List.filterMap_nil, Multiset.coe_nil, Multiset.sub_zero,
        Function.update_eq_self]
  | cons handle rest ih =>
      cases handle with
      | none => cases success
      | some component =>
          rw [removeHandles] at success ⊢
          by_cases isRegistered : component ∈ program.registered kind
          · rw [if_pos isRegistered] at success ⊢
            rw [ih _ success, setRegistered_setRegistered]
            simp only [filterMap_some_cons, Multiset.sub_cons]
          · rw [if_neg isRegistered] at success
            cases success

theorem removeHandles_keeps (kind : ComponentKind) (found : List (Option Uid))
    (program : Program) : ∃ registered,
      (removeHandles kind found program).1 = { program with registered } := by
  induction found generalizing program with
  | nil => exact ⟨program.registered, rfl⟩
  | cons handle rest ih =>
      cases handle with
      | none => exact ⟨program.registered, rfl⟩
      | some component =>
          rw [removeHandles]
          split
          next => exact ih _
          next => exact ⟨program.registered, rfl⟩

/-- The components of a kind in an entity can be removed. -/
def Removable (env : Environment) (kind : ComponentKind) (eid : Uid)
    (registered : Multiset Uid) : Prop :=
  Intact env kind eid ∧ (handles env kind eid : Multiset Uid) ≤ registered

theorem removeAll_iff (env : Environment) (kind : ComponentKind) (eid : Uid)
    (program : Program) : (removeAll env kind eid program).2 = .GXF_SUCCESS ↔
      Removable env kind eid (program.registered kind) := by
  rw [removeAll, Removable, Intact, handles]
  cases isFound : env.find kind eid with
  | error code => exact iff_of_false code.property fun both => by cases both.1.choose_spec.1
  | ok found =>
      dsimp only
      rw [removeHandles_iff]
      exact and_congr_left fun _ => ⟨fun whole => ⟨found, rfl, whole⟩, fun intact => by
        obtain ⟨other, same, whole⟩ := intact
        cases same
        exact whole⟩

theorem removeAll_eq (removable : Removable env kind eid (program.registered kind)) :
    removeAll env kind eid program =
      (program.setRegistered kind (· - handles env kind eid), .GXF_SUCCESS) := by
  have success := (removeAll_iff env kind eid program).mpr removable
  obtain ⟨⟨found, isFound, -⟩, -⟩ := removable
  rw [handles_eq isFound]
  rw [removeAll, isFound] at success ⊢
  exact removeHandles_eq kind found program success

theorem removeAll_keeps (env : Environment) (kind : ComponentKind) (eid : Uid)
    (program : Program) : ∃ registered,
      (removeAll env kind eid program).1 = { program with registered } := by
  rw [removeAll]
  split
  next => exact ⟨program.registered, rfl⟩
  next => exact removeHandles_keeps ..

theorem andThen_removeAll (removable : Removable env kind eid (program.registered kind))
    (next : Program → Program × GxfResult) :
    andThen (removeAll env kind eid program) next =
      next (program.setRegistered kind (· - handles env kind eid)) := by
  rw [removeAll_eq removable]
  exact andThen_of_success rfl next

theorem andThen_removeAll_code (next : Program → Program × GxfResult) :
    (andThen (removeAll env kind eid program) next).2 = .GXF_SUCCESS ↔
      Removable env kind eid (program.registered kind) ∧
        (next (program.setRegistered kind (· - handles env kind eid))).2 = .GXF_SUCCESS := by
  rw [andThen_code, removeAll_iff]
  exact and_congr_right fun removable => by rw [removeAll_eq removable]

def removedKinds : List ComponentKind := [.JobStatistics, .Monitor, .Router, .System]

/-- What is registered without the components of an entity. -/
def released (env : Environment) (eid : Uid) (registered : ComponentKind → Multiset Uid)
    (kind : ComponentKind) : Multiset Uid :=
  if kind ∈ removedKinds then registered kind - handles env kind eid else registered kind

/-- Routes and components of an entity can be removed. -/
def Releasable (env : Environment) (eid : Uid) (registered : ComponentKind → Multiset Uid) :
    Prop :=
  env.removeRoutes eid = .GXF_SUCCESS ∧
    ∀ kind ∈ removedKinds, Removable env kind eid (registered kind)

theorem registered_setRegistered_of_ne {other : ComponentKind} (different : other ≠ kind)
    (program : Program) (change : Multiset Uid → Multiset Uid) :
    (program.setRegistered kind change).registered other = program.registered other :=
  Function.update_of_ne different ..

theorem registered_moveBack (env : Environment) (eid : Uid) (program : Program) :
    (moveBack env eid program).1.registered = program.registered := by
  rw [moveBack]
  split <;> rfl

theorem moveBack_code (env : Environment) (eid : Uid) (program : Program) :
    (moveBack env eid program).2 = .GXF_SUCCESS ↔
      (eid ∈ program.scheduled → env.unschedule eid = .GXF_SUCCESS) := by
  rw [moveBack]
  split
  next isScheduled => exact ⟨fun success _ => success, fun success => success isScheduled⟩
  next notScheduled => exact iff_of_true rfl fun isScheduled => absurd isScheduled notScheduled

theorem unscheduleEntity_code (env : Environment) (eid : Uid) (program : Program) :
    (unscheduleEntity env eid program).2 = .GXF_SUCCESS ↔
      (eid ∈ program.scheduled → env.unschedule eid = .GXF_SUCCESS) ∧
        Releasable env eid program.registered := by
  rw [unscheduleEntity, andThen_code, moveBack_code]
  apply and_congr_right
  intro
  rw [andThen_removeAll_code, andThen_removeAll_code, andThen_code, andThen_removeAll_code,
    removeAll_iff]
  simp only [registered_setRegistered_of_ne, ne_eq, reduceCtorEq, not_false_eq_true,
    registered_follow, registered_moveBack, Releasable, removedKinds, List.forall_mem_cons]
  constructor
  · rintro ⟨statistics, monitors, routes, routers, systems⟩
    exact ⟨routes, statistics, monitors, routers, systems,
      fun _ member => absurd member List.not_mem_nil⟩
  · rintro ⟨routes, statistics, monitors, routers, systems, -⟩
    exact ⟨statistics, monitors, routes, routers, systems⟩

theorem unscheduleEntity_eq (success : (unscheduleEntity env eid program).2 = .GXF_SUCCESS) :
    (unscheduleEntity env eid program).1 =
      ({ (moveBack env eid program).1 with
        schedulers := (moveBack env eid program).1.schedulers.erase eid
        registered := released env eid program.registered }.follow
          ((moveBack env eid program).1.statistics || !reaches env .JobStatistics eid)).follow
            (moveBack env eid program).1.groups := by
  obtain ⟨back, routes, removable⟩ := (unscheduleEntity_code env eid program).mp success
  have statistics := removable .JobStatistics (by decide)
  have monitors := removable .Monitor (by decide)
  have routers := removable .Router (by decide)
  have systems := removable .System (by decide)
  rw [← registered_moveBack env eid program] at statistics monitors routers systems ⊢
  rw [unscheduleEntity, andThen_of_success ((moveBack_code env eid program).mpr back)]
  generalize (moveBack env eid program).1 = moved at statistics monitors routers systems ⊢
  have followed : Removable env .JobStatistics eid
      ((moved.follow (moved.statistics || !reaches env .JobStatistics eid)).registered
        .JobStatistics) := statistics
  rw [andThen_removeAll followed, andThen_removeAll, andThen_of_success routes,
    andThen_removeAll, removeAll_eq]
  · have same : ((((moved.setRegistered .JobStatistics (· - handles env .JobStatistics eid)
        ).setRegistered .Monitor (· - handles env .Monitor eid)
        ).setRegistered .Router (· - handles env .Router eid)
        ).setRegistered .System (· - handles env .System eid)).registered =
          released env eid moved.registered := by
      funext kind
      cases kind <;> rfl
    rw [← same]
    rfl
  · exact systems
  · exact routers
  · exact monitors

/-! ## What a deactivation leaves alone -/

/-- The entities of a program: each is in one list, once, and they fit into it. -/
structure Listed (program : Program) : Prop where
  nodup : (program.unscheduled ++ program.scheduled).Nodup
  schedulers : program.schedulers.Nodup
  known : ∀ eid ∈ program.schedulers, eid ∈ program.unscheduled ++ program.scheduled
  room : (program.unscheduled ++ program.scheduled).length ≤ kMaxEntities

/-- A program after calls that deactivate entities, whatever they return. -/
structure Retreats (program next : Program) : Prop where
  state : next.state = program.state
  perm : (next.unscheduled ++ next.scheduled).Perm (program.unscheduled ++ program.scheduled)
  scheduled : next.scheduled.Sublist program.scheduled
  schedulers : next.schedulers.Sublist program.schedulers
  initialized : ∀ eid ∈ next.initialized, eid ∈ program.initialized
  active : ∀ eid ∈ next.active, eid ∈ program.active

/-- Nothing of this changes when something else does. -/
theorem retreats_of_eq (state : next.state = program.state)
    (unscheduled : next.unscheduled = program.unscheduled)
    (scheduled : next.scheduled = program.scheduled)
    (schedulers : next.schedulers.Sublist program.schedulers)
    (initialized : ∀ eid ∈ next.initialized, eid ∈ program.initialized)
    (active : ∀ eid ∈ next.active, eid ∈ program.active) : Retreats program next := by
  refine ⟨state, ?_, ?_, schedulers, initialized, active⟩
  · rw [unscheduled, scheduled]
  · rw [scheduled]

theorem Retreats.refl (program : Program) : Retreats program program :=
  retreats_of_eq rfl rfl rfl (.refl _) (fun _ => id) (fun _ => id)

variable {last : Program} {eids : List Uid}

theorem Retreats.trans (first : Retreats program next)
    (second : Retreats next last) : Retreats program last := by
  constructor
  · exact second.state.trans first.state
  · exact second.perm.trans first.perm
  · exact second.scheduled.trans first.scheduled
  · exact second.schedulers.trans first.schedulers
  · exact fun eid member => first.initialized eid (second.initialized eid member)
  · exact fun eid member => first.active eid (second.active eid member)

theorem Listed.retreats (listed : Listed program) (retreats : Retreats program next) :
    Listed next :=
  ⟨retreats.perm.nodup_iff.mpr listed.nodup, listed.schedulers.sublist retreats.schedulers,
    fun eid member => retreats.perm.mem_iff.mpr
      (listed.known eid (retreats.schedulers.subset member)),
    retreats.perm.length_eq.trans_le listed.room⟩

theorem emplaceBack_of_room (room : eids.length < kMaxEntities) (eid : Uid) :
    emplaceBack eids eid = eids ++ [eid] :=
  if_pos room

theorem perm_moveBack {unscheduled scheduled : List Uid} (isScheduled : eid ∈ scheduled) :
    ((unscheduled ++ [eid]) ++ scheduled.erase eid).Perm (unscheduled ++ scheduled) := by
  rw [List.append_assoc]
  exact (List.perm_cons_erase isScheduled).symm.append_left unscheduled

theorem Listed.retreats_moveBack (listed : Listed program) (env : Environment) (eid : Uid) :
    Retreats program (moveBack env eid program).1 := by
  rw [moveBack]
  split
  next isScheduled =>
    have room : program.unscheduled.length < kMaxEntities := by
      have fits := listed.room
      rw [List.length_append] at fits
      have some := List.length_pos_of_mem isScheduled
      omega
    have moved : emplaceBack program.unscheduled eid = program.unscheduled ++ [eid] :=
      emplaceBack_of_room room eid
    constructor
    · rfl
    · dsimp only
      rw [moved]
      exact perm_moveBack isScheduled
    · exact List.erase_sublist
    · exact .refl _
    · exact fun _ => id
    · exact fun _ => id
  next => exact Retreats.refl program

theorem retreats_removeAll (env : Environment) (kind : ComponentKind) (eid : Uid)
    (program : Program) : Retreats program (removeAll env kind eid program).1 := by
  obtain ⟨registered, isNext⟩ := removeAll_keeps env kind eid program
  rw [isNext]
  exact retreats_of_eq rfl rfl rfl (.refl _) (fun _ => id) (fun _ => id)

theorem Retreats.andThen {next : Program → Program × GxfResult} (first : Retreats program result.1)
    (second : ∀ program, Retreats program (next program).1) :
    Retreats program (andThen result next).1 :=
  andThen_keeps first fun middle before => before.trans (second middle)

theorem Listed.retreats_unscheduleEntity (listed : Listed program) (env : Environment)
    (eid : Uid) : Retreats program (unscheduleEntity env eid program).1 := by
  apply (listed.retreats_moveBack env eid).andThen
  intro moved
  have followed : Retreats moved
      (moved.follow (moved.statistics || !reaches env .JobStatistics eid)) :=
    retreats_of_eq rfl rfl rfl (.refl _) (fun _ => id) (fun _ => id)
  apply (followed.trans (retreats_removeAll env .JobStatistics eid _)).andThen
  intro program
  apply (retreats_removeAll env .Monitor eid program).andThen
  intro program
  apply Retreats.andThen
  · exact retreats_of_eq rfl rfl rfl List.erase_sublist (fun _ => id) (fun _ => id)
  · intro program
    apply (retreats_removeAll env .Router eid program).andThen
    exact fun program => retreats_removeAll env .System eid program

theorem retreats_deinitEntity (env : Environment) (eid : Uid) (program : Program) :
    Retreats program (deinitEntity env eid program).1 := by
  rw [deinitEntity]
  split
  next =>
    exact retreats_of_eq rfl rfl rfl (.refl _) (fun _ => List.mem_of_mem_filter) (fun _ => id)
  next => exact Retreats.refl program

/-- Whatever `GxfEntityDeactivate` returns, the program retreats. -/
theorem Listed.retreats_entityDeactivate (listed : Listed program) (env : Environment)
    (eid : Uid) : Retreats program (entityDeactivate env eid program).1 := by
  apply Retreats.andThen
  · exact listed.retreats_unscheduleEntity env eid
  · intro middle
    have gone : Retreats middle (executorDeactivate eid middle) :=
      retreats_of_eq rfl rfl rfl (.refl _) (fun _ => id) (fun _ => List.mem_of_mem_filter)
    exact gone.trans (retreats_deinitEntity env eid _)

theorem Listed.retreats_sweep (listed : Listed program) (env : Environment) (eids : List Uid) :
    Retreats program (sweep env eids program).1 := by
  induction eids generalizing program with
  | nil => exact Retreats.refl program
  | cons eid rest ih =>
      have first := listed.retreats_entityDeactivate env eid
      by_cases success : (entityDeactivate env eid program).2 = .GXF_SUCCESS
      · rw [sweep, andThen_of_success success]
        exact first.trans (ih (listed.retreats first))
      · rw [sweep, andThen_of_failure success]
        exact first

/-! ## What a deactivation needs, and what it does -/

/-- Entities can be deactivated. -/
structure Sweepable (env : Environment) (eids : List Uid) (program : Program) : Prop where
  unschedule : ∀ eid ∈ eids, eid ∈ program.scheduled → env.unschedule eid = .GXF_SUCCESS
  removeRoutes : ∀ eid ∈ eids, env.removeRoutes eid = .GXF_SUCCESS
  intact : ∀ eid ∈ eids, ∀ kind ∈ removedKinds, Intact env kind eid
  registered : ∀ kind ∈ removedKinds, total env kind eids ≤ program.registered kind
  deinit : ∀ eid ∈ eids, eid ∈ program.initialized → env.deinit eid = .GXF_SUCCESS

/-- Entities have been deactivated. -/
structure Swept (env : Environment) (eids : List Uid) (program next : Program) : Prop where
  scheduled : next.scheduled = program.scheduled.filter (· ∉ eids)
  schedulers : next.schedulers = program.schedulers.filter (· ∉ eids)
  initialized : next.initialized = program.initialized.filter (· ∉ eids)
  active : next.active = program.active.filter (· ∉ eids)
  registered : ∀ kind ∈ removedKinds,
    next.registered kind = program.registered kind - total env kind eids

theorem total_singleton (env : Environment) (kind : ComponentKind) (eid : Uid) :
    total env kind [eid] = handles env kind eid := by
  rw [total, List.flatMap_singleton]

theorem filter_notMem_nil (eids : List Uid) : eids.filter (· ∉ ([] : List Uid)) = eids := by
  simp

theorem filter_notMem_filter (eids first second : List Uid) :
    (eids.filter (· ∉ first)).filter (· ∉ second) = eids.filter (· ∉ first ++ second) := by
  rw [List.filter_filter]
  apply List.filter_congr
  intro eid _
  simp [Bool.and_comm]

theorem filter_ne (eids : List Uid) (eid : Uid) :
    eids.filter (· ≠ eid) = eids.filter (· ∉ [eid]) := by
  simp

theorem erase_eq_filter (nodup : eids.Nodup) (eid : Uid) :
    eids.erase eid = eids.filter (· ∉ [eid]) := by
  rw [nodup.erase_eq_filter]
  apply List.filter_congr
  intro other _
  simp [bne, beq_eq_decide]

theorem Swept.nil (env : Environment) (program : Program) : Swept env [] program program := by
  constructor
  · exact (filter_notMem_nil _).symm
  · exact (filter_notMem_nil _).symm
  · exact (filter_notMem_nil _).symm
  · exact (filter_notMem_nil _).symm
  · exact fun kind _ => (tsub_zero _).symm

theorem Swept.append (before : Swept env first program next) (behind : Swept env second next last) :
    Swept env (first ++ second) program last := by
  constructor
  · rw [behind.scheduled, before.scheduled, filter_notMem_filter]
  · rw [behind.schedulers, before.schedulers, filter_notMem_filter]
  · rw [behind.initialized, before.initialized, filter_notMem_filter]
  · rw [behind.active, before.active, filter_notMem_filter]
  · intro kind removed
    rw [behind.registered kind removed, before.registered kind removed, total_append,
      tsub_add_eq_tsub_tsub]

theorem mem_filter_notMem {some : List Uid} :
    eid ∈ eids.filter (· ∉ some) ↔ eid ∈ eids ∧ eid ∉ some := by
  simp

theorem Sweepable.left
    (sweepable : Sweepable env (first ++ second) program) : Sweepable env first program := by
  have left : ∀ eid ∈ first, eid ∈ first ++ second := fun _ => List.mem_append_left second
  constructor
  · exact fun eid member => sweepable.unschedule eid (left eid member)
  · exact fun eid member => sweepable.removeRoutes eid (left eid member)
  · exact fun eid member => sweepable.intact eid (left eid member)
  · intro kind removed
    have both := sweepable.registered kind removed
    rw [total_append] at both
    exact (Multiset.le_add_right _ _).trans both
  · exact fun eid member => sweepable.deinit eid (left eid member)

theorem sweepable_append (nodup : (first ++ second).Nodup)
    (swept : Swept env first program next) : Sweepable env (first ++ second) program ↔
      Sweepable env first program ∧ Sweepable env second next := by
  have apart : ∀ eid ∈ second, eid ∉ first := fun eid inSecond inFirst =>
    List.disjoint_of_nodup_append nodup inFirst inSecond
  have inScheduled : ∀ eid ∈ second, (eid ∈ next.scheduled ↔ eid ∈ program.scheduled) := by
    intro eid member
    rw [swept.scheduled, mem_filter_notMem]
    exact and_iff_left (apart eid member)
  have inInitialized : ∀ eid ∈ second, (eid ∈ next.initialized ↔ eid ∈ program.initialized) := by
    intro eid member
    rw [swept.initialized, mem_filter_notMem]
    exact and_iff_left (apart eid member)
  constructor
  · intro sweepable
    have right : ∀ eid ∈ second, eid ∈ first ++ second := fun _ => List.mem_append_right first
    refine ⟨sweepable.left, ?_⟩
    constructor
    · intro eid member isScheduled
      exact sweepable.unschedule eid (right eid member) ((inScheduled eid member).mp isScheduled)
    · exact fun eid member => sweepable.removeRoutes eid (right eid member)
    · exact fun eid member => sweepable.intact eid (right eid member)
    · intro kind removed
      rw [swept.registered kind removed]
      have both := sweepable.registered kind removed
      rw [total_append] at both
      exact le_tsub_of_add_le_left both
    · intro eid member isInitialized
      exact sweepable.deinit eid (right eid member) ((inInitialized eid member).mp isInitialized)
  · rintro ⟨before, behind⟩
    constructor
    · intro eid member isScheduled
      rcases List.mem_append.mp member with member | member
      · exact before.unschedule eid member isScheduled
      · exact behind.unschedule eid member ((inScheduled eid member).mpr isScheduled)
    · exact List.forall_mem_append.mpr ⟨before.removeRoutes, behind.removeRoutes⟩
    · exact List.forall_mem_append.mpr ⟨before.intact, behind.intact⟩
    · intro kind removed
      have rest := behind.registered kind removed
      rw [swept.registered kind removed] at rest
      rw [total_append, add_comm]
      calc total env kind second + total env kind first
          ≤ program.registered kind - total env kind first + total env kind first :=
            add_le_add_left rest _
        _ = program.registered kind := Multiset.sub_add_cancel (before.registered kind removed)
    · intro eid member isInitialized
      rcases List.mem_append.mp member with member | member
      · exact before.deinit eid member isInitialized
      · exact behind.deinit eid member ((inInitialized eid member).mpr isInitialized)

theorem sweepable_nil (env : Environment) (program : Program) : Sweepable env [] program :=
  ⟨nofun, nofun, nofun, fun _ _ => Multiset.zero_le _, nofun⟩

theorem deinitEntity_code (env : Environment) (eid : Uid) (program : Program) :
    (deinitEntity env eid program).2 = .GXF_SUCCESS ↔
      (eid ∈ program.initialized → env.deinit eid = .GXF_SUCCESS) := by
  rw [deinitEntity]
  split
  next isInitialized => exact ⟨fun success _ => success, fun success => success isInitialized⟩
  next notInitialized => exact iff_of_true rfl fun member => absurd member notInitialized

/-- Whatever `deinitialize` returns, the entity is no longer initialized. -/
theorem deinitEntity_eq (env : Environment) (eid : Uid) (program : Program) :
    (deinitEntity env eid program).1 =
      { program with initialized := program.initialized.filter (· ∉ [eid]) } := by
  rw [deinitEntity, ← filter_ne]
  split
  next => rfl
  next notInitialized =>
    have same : program.initialized.filter (· ≠ eid) = program.initialized := by
      apply List.filter_eq_self.mpr
      intro other member
      exact decide_eq_true fun isEid => notInitialized (isEid ▸ member)
    rw [same]

theorem moveBack_initialized (env : Environment) (eid : Uid) (program : Program) :
    (moveBack env eid program).1.initialized = program.initialized := by
  rw [moveBack]
  split <;> rfl

/-- When `GxfEntityDeactivate` succeeds. -/
theorem entityDeactivate_code (env : Environment) (eid : Uid) (program : Program) :
    (entityDeactivate env eid program).2 = .GXF_SUCCESS ↔ Sweepable env [eid] program := by
  rw [entityDeactivate, andThen_code, deinitEntity_code]
  constructor
  · rintro ⟨success, deinit⟩
    obtain ⟨back, routes, removable⟩ := (unscheduleEntity_code _ _ _).mp success
    rw [unscheduleEntity_eq success] at deinit
    dsimp only [executorDeactivate] at deinit
    rw [moveBack_initialized] at deinit
    constructor
    · exact List.forall_mem_singleton.mpr back
    · exact List.forall_mem_singleton.mpr routes
    · exact List.forall_mem_singleton.mpr fun kind removed => (removable kind removed).1
    · intro kind removed
      rw [total_singleton]
      exact (removable kind removed).2
    · exact List.forall_mem_singleton.mpr deinit
  · intro sweepable
    have success := (unscheduleEntity_code env eid program).mpr
      ⟨sweepable.unschedule eid (List.mem_singleton_self eid),
        sweepable.removeRoutes eid (List.mem_singleton_self eid), fun kind removed => by
          have registered := sweepable.registered kind removed
          rw [total_singleton] at registered
          exact ⟨sweepable.intact eid (List.mem_singleton_self eid) kind removed, registered⟩⟩
    refine ⟨success, ?_⟩
    rw [unscheduleEntity_eq success]
    dsimp only [executorDeactivate]
    rw [moveBack_initialized]
    exact sweepable.deinit eid (List.mem_singleton_self eid)

theorem moveBack_scheduled (env : Environment) (eid : Uid) (program : Program)
    (nodup : program.scheduled.Nodup) :
    (moveBack env eid program).1.scheduled = program.scheduled.filter (· ∉ [eid]) := by
  rw [← erase_eq_filter nodup, moveBack]
  split
  next => rfl
  next notScheduled => exact (List.erase_of_not_mem notScheduled).symm

/-- `GxfEntityDeactivate` that succeeds. -/
theorem Listed.swept_entityDeactivate (listed : Listed program)
    (success : (entityDeactivate env eid program).2 = .GXF_SUCCESS) :
    Swept env [eid] program (entityDeactivate env eid program).1 := by
  rw [entityDeactivate] at success ⊢
  have first := ((andThen_code _ _).mp success).1
  rw [andThen_of_success first, deinitEntity_eq, unscheduleEntity_eq first]
  have whole := List.nodup_append.mp listed.nodup
  have scheduled := moveBack_scheduled env eid program whole.2.1
  constructor
  · exact scheduled
  · dsimp only [executorDeactivate]
    rw [← erase_eq_filter listed.schedulers, moveBack]
    split <;> rfl
  · dsimp only [executorDeactivate, follow]
    rw [moveBack_initialized]
  · dsimp only [executorDeactivate]
    rw [← filter_ne, moveBack]
    split <;> rfl
  · intro kind removed
    rw [total_singleton]
    exact if_pos removed

theorem Listed.sweep_iff (listed : Listed program) (nodup : eids.Nodup) (env : Environment) :
    ((sweep env eids program).2 = .GXF_SUCCESS ↔ Sweepable env eids program) ∧
      (Sweepable env eids program → Swept env eids program (sweep env eids program).1) := by
  induction eids generalizing program with
  | nil => exact ⟨iff_of_true rfl (sweepable_nil env program), fun _ => Swept.nil env program⟩
  | cons eid rest ih =>
      by_cases success : (entityDeactivate env eid program).2 = .GXF_SUCCESS
      · have first := listed.swept_entityDeactivate success
        have next := listed.retreats (listed.retreats_entityDeactivate env eid)
        have both : Sweepable env ([eid] ++ rest) program ↔
            Sweepable env [eid] program ∧ Sweepable env rest (entityDeactivate env eid program).1 :=
          sweepable_append nodup first
        rw [← entityDeactivate_code, and_iff_right success] at both
        obtain ⟨code, swept⟩ := ih next nodup.of_cons
        rw [sweep, andThen_of_success success]
        exact ⟨code.trans both.symm, fun sweepable => first.append (swept (both.mp sweepable))⟩
      · have fails : ¬Sweepable env (eid :: rest) program := by
          intro sweepable
          have first : Sweepable env ([eid] ++ rest) program := sweepable
          exact success ((entityDeactivate_code env eid program).mpr first.left)
        rw [sweep, andThen_of_failure success]
        exact ⟨iff_of_false success fails, fun sweepable => absurd sweepable fails⟩

/-! ## The deactivation of a graph -/

/-- The order in which a graph is deactivated. -/
def sweepOrder (env : Environment) (program : Program) : List Uid :=
  program.graphEids.reverse ++ env.iterate program.schedulers

/-- The program when its deactivation begins. -/
def leaving (program : Program) : Program := { program with state := .DEINITALIZING }

/-- The program when its deactivation ends. -/
def left (program : Program) : Program := { program.setGroups false with state := .ORIGIN }

theorem deactivate_eq (state : program.state ≠ .ORIGIN) (env : Environment) :
    deactivate env program =
      andThen (sweepAll env program.leaving.graphEids.reverse program.leaving) fun graph =>
      andThen (sweepAll env (env.iterate graph.schedulers) graph) fun program =>
        (program.left, .GXF_SUCCESS) :=
  if_neg state

/-- All entities of a graph can be deactivated. -/
def Deactivatable (env : Environment) (program : Program) : Prop :=
  Sweepable env (program.unscheduled ++ program.scheduled) program

/-- A graph has been deactivated. -/
structure Deactivated (env : Environment) (program next : Program) : Prop where
  state : next.state = .ORIGIN
  perm : next.unscheduled.Perm (program.unscheduled ++ program.scheduled)
  scheduled : next.scheduled = []
  schedulers : next.schedulers = []
  initialized : next.initialized =
    program.initialized.filter (· ∉ program.unscheduled ++ program.scheduled)
  active : next.active = program.active.filter (· ∉ program.unscheduled ++ program.scheduled)

theorem Listed.sweepOrder_perm (listed : Listed program) (env : Environment) :
    (sweepOrder env program).Perm (program.unscheduled ++ program.scheduled) := by
  have schedulers : program.schedulers.Perm
      ((program.unscheduled ++ program.scheduled).filter (· ∈ program.schedulers)) := by
    apply (List.perm_ext_iff_of_nodup listed.schedulers (listed.nodup.filter _)).mpr
    intro eid
    rw [List.mem_filter, decide_eq_true_eq]
    exact ⟨fun member => ⟨listed.known eid member, member⟩, fun both => both.2⟩
  have graph : program.graphEids = (program.unscheduled ++ program.scheduled).filter
      fun eid => !decide (eid ∈ program.schedulers) := by
    rw [graphEids]
    apply List.filter_congr
    intro eid _
    exact decide_not
  have order : (sweepOrder env program).Perm (program.schedulers ++ program.graphEids) :=
    ((List.reverse_perm _).append (env.iterate_perm _)).trans List.perm_append_comm
  apply order.trans
  rw [graph]
  exact (schedulers.append_right _).trans (List.filter_append_perm _ _)

theorem Sweepable.perm (same : first.Perm second)
    (sweepable : Sweepable env first program) : Sweepable env second program := by
  constructor
  · exact fun eid member => sweepable.unschedule eid (same.mem_iff.mpr member)
  · exact fun eid member => sweepable.removeRoutes eid (same.mem_iff.mpr member)
  · exact fun eid member => sweepable.intact eid (same.mem_iff.mpr member)
  · intro kind removed
    rw [← total_perm same]
    exact sweepable.registered kind removed
  · exact fun eid member => sweepable.deinit eid (same.mem_iff.mpr member)

theorem sweepAll_of_failure (failure : (sweepAll env eids program).2 ≠ .GXF_SUCCESS) :
    (sweepAll env eids program).1.unscheduled = [] ∧
      (sweepAll env eids program).1.scheduled = [] := by
  rw [sweepAll] at failure ⊢
  split at failure
  next exceeds =>
    rw [if_pos exceeds]
    exact ⟨rfl, rfl⟩
  next fits =>
    rw [if_neg fits]
    dsimp only at failure ⊢
    split at failure
    next fails =>
      rw [if_pos fails]
      exact ⟨rfl, rfl⟩
    next => exact absurd rfl failure

theorem Listed.sweepAll_iff (listed : Listed program) (nodup : eids.Nodup)
    (fits : eids.length ≤ kMaxEntities) (env : Environment) :
    ((sweepAll env eids program).2 = .GXF_SUCCESS ↔ Sweepable env eids program) ∧
      (Sweepable env eids program →
        sweepAll env eids program = ((sweep env eids program).1, .GXF_SUCCESS)) := by
  obtain ⟨code, -⟩ := listed.sweep_iff nodup env
  have whole : Sweepable env eids program →
      sweepAll env eids program = ((sweep env eids program).1, .GXF_SUCCESS) := by
    intro sweepable
    rw [sweepAll, if_neg (Nat.not_lt.mpr fits)]
    exact if_neg (not_not_intro (code.mpr sweepable))
  refine ⟨⟨fun success => ?_, fun sweepable => ?_⟩, whole⟩
  · apply code.mp
    by_contra failure
    rw [sweepAll, if_neg (Nat.not_lt.mpr fits)] at success
    dsimp only at success
    rw [if_pos failure] at success
    exact failure success
  · rw [whole sweepable]

theorem schedulers_of_swept (swept : Swept env program.graphEids.reverse program next) :
    next.schedulers = program.schedulers := by
  rw [swept.schedulers]
  apply List.filter_eq_self.mpr
  intro eid member
  apply decide_eq_true
  intro inGraph
  have both := List.mem_filter.mp (List.mem_reverse.mp inGraph)
  exact of_decide_eq_true both.2 member

theorem deactivated_of_swept (listed : Listed program)
    (swept : Swept env (sweepOrder env program) program next) (retreats : Retreats program next) :
    Deactivated env program next.left := by
  have order := listed.sweepOrder_perm env
  have member : ∀ eid ∈ program.unscheduled ++ program.scheduled,
      eid ∈ sweepOrder env program := fun eid => order.mem_iff.mpr
  have scheduled : next.scheduled = [] := by
    rw [swept.scheduled]
    apply List.filter_eq_nil_iff.mpr
    intro eid isScheduled
    rw [decide_eq_true_eq, not_not]
    exact member eid (List.mem_append_right _ isScheduled)
  have same : ∀ eids : List Uid, eids.filter (· ∉ sweepOrder env program) =
      eids.filter (· ∉ program.unscheduled ++ program.scheduled) := by
    intro eids
    apply List.filter_congr
    intro eid _
    rw [decide_eq_decide, order.mem_iff]
  have perm := retreats.perm
  rw [scheduled, List.append_nil] at perm
  constructor
  · rfl
  · exact perm
  · exact scheduled
  · dsimp only [left, setGroups, setRegistered]
    rw [swept.schedulers]
    apply List.filter_eq_nil_iff.mpr
    intro eid isScheduler
    rw [decide_eq_true_eq, not_not]
    exact member eid (listed.known eid isScheduler)
  · exact swept.initialized.trans (same _)
  · exact swept.active.trans (same _)

theorem Listed.sweepGraph_iff (listed : Listed program) (env : Environment) :
    ((andThen (sweepAll env program.graphEids.reverse program) fun graph =>
      andThen (sweepAll env (env.iterate graph.schedulers) graph) fun program =>
        (program.left, .GXF_SUCCESS)).2 = .GXF_SUCCESS ↔ Deactivatable env program) ∧
      (Deactivatable env program → Deactivated env program
        (andThen (sweepAll env program.graphEids.reverse program) fun graph =>
          andThen (sweepAll env (env.iterate graph.schedulers) graph) fun program =>
            (program.left, .GXF_SUCCESS)).1) := by
  have order := listed.sweepOrder_perm env
  have nodup : (sweepOrder env program).Nodup := order.nodup_iff.mpr listed.nodup
  have room : (sweepOrder env program).length ≤ kMaxEntities := order.length_eq.trans_le listed.room
  rw [sweepOrder, List.length_append] at room
  obtain ⟨graphNodup, schedulersNodup, -⟩ := List.nodup_append.mp nodup
  obtain ⟨graphAll, graphWhole⟩ :=
    listed.sweepAll_iff graphNodup ((Nat.le_add_right _ _).trans room) env
  have ordered : Deactivatable env program ↔ Sweepable env (sweepOrder env program) program :=
    ⟨Sweepable.perm order.symm, Sweepable.perm order⟩
  rw [ordered]
  by_cases graph : Sweepable env program.graphEids.reverse program
  · have swept := (listed.sweep_iff graphNodup env).2 graph
    have retreats := listed.retreats_sweep env program.graphEids.reverse
    have isNext := listed.retreats retreats
    obtain ⟨restAll, restWhole⟩ :=
      isNext.sweepAll_iff schedulersNodup ((Nat.le_add_left _ _).trans room) env
    have both := sweepable_append nodup swept
    rw [and_iff_right graph] at both
    rw [graphWhole graph, andThen_of_success rfl, schedulers_of_swept swept, andThen_code,
      restAll, sweepOrder, both]
    refine ⟨and_iff_left rfl, fun rest => ?_⟩
    rw [restWhole rest, andThen_of_success rfl]
    have restSwept := (isNext.sweep_iff schedulersNodup env).2 rest
    exact deactivated_of_swept listed (swept.append restSwept)
      (retreats.trans (isNext.retreats_sweep env _))
  · have fails : ¬Sweepable env (sweepOrder env program) program := fun whole => graph whole.left
    rw [andThen_of_failure fun success => graph (graphAll.mp success), graphAll]
    exact ⟨iff_of_false graph fails, fun whole => absurd whole fails⟩

/-- When `deactivate` succeeds, and what it does then. -/
theorem Listed.deactivate_iff (listed : Listed program) (state : program.state ≠ .ORIGIN)
    (env : Environment) :
    ((deactivate env program).2 = .GXF_SUCCESS ↔ Deactivatable env program) ∧
      (Deactivatable env program → Deactivated env program (deactivate env program).1) := by
  have isLeaving : Listed program.leaving :=
    ⟨listed.nodup, listed.schedulers, listed.known, listed.room⟩
  obtain ⟨code, deactivated⟩ := isLeaving.sweepGraph_iff env
  rw [deactivate_eq state]
  constructor
  · rw [code]
    exact ⟨fun whole => ⟨whole.1, whole.2, whole.3, whole.4, whole.5⟩,
      fun whole => ⟨whole.1, whole.2, whole.3, whole.4, whole.5⟩⟩
  · intro whole
    have done := deactivated ⟨whole.1, whole.2, whole.3, whole.4, whole.5⟩
    exact ⟨done.state, done.perm, done.scheduled, done.schedulers, done.initialized, done.active⟩

theorem deactivate_of_failure (failure : (deactivate env program).2 ≠ .GXF_SUCCESS) :
    (deactivate env program).1.unscheduled = [] ∧ (deactivate env program).1.scheduled = [] := by
  by_cases state : program.state = .ORIGIN
  · rw [deactivate, if_pos state] at failure
    exact absurd rfl failure
  · rw [deactivate_eq state] at failure ⊢
    by_cases graph :
        (sweepAll env program.leaving.graphEids.reverse program.leaving).2 = .GXF_SUCCESS
    · rw [andThen_of_success graph] at failure ⊢
      have rest := fun success => failure ((andThen_code _ _).mpr ⟨success, rfl⟩)
      rw [andThen_of_failure rest]
      exact sweepAll_of_failure rest
    · rw [andThen_of_failure graph]
      exact sweepAll_of_failure graph

end Gxf.Std.Program
