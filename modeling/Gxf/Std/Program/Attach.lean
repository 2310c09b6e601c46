import Gxf.Std.Program.Sweep

/-!
# Activations of entities

What `scheduleEntity` and `GxfEntityActivate` need to succeed, and what they leave when they
fail.  An entity whose components cannot be attached has been taken from the unscheduled ones
by then, and is in no list.
-/

namespace Gxf.Std.Program

open Gxf.Core

variable {env : Environment} {program next : Program} {eid : Uid} {kind : ComponentKind}

/-! ## Components -/

/-- The components of a kind in an entity can be added. -/
def Addable (env : Environment) (kind : ComponentKind) (eid : Uid) : Prop :=
  Intact env kind eid ∧ ∀ component ∈ handles env kind eid, env.add kind component = .GXF_SUCCESS

/-- The schedulers in an entity take the executor. -/
def Preparable (env : Environment) (eid : Uid) : Prop := Intact env .Scheduler eid ∧
    ∀ scheduler ∈ handles env .Scheduler eid, env.prepare scheduler = .GXF_SUCCESS

variable {found : List (Option Uid)}

theorem mem_filterMap_id {component : Uid} :
    component ∈ found.filterMap id ↔ some component ∈ found := by
  simp

theorem intact_and_forall (isFound : env.find kind eid = .ok found) (property : Uid → Prop) :
    (Intact env kind eid ∧ ∀ component ∈ handles env kind eid, property component) ↔
      none ∉ found ∧ ∀ component, some component ∈ found → property component := by
  rw [Intact, handles_eq isFound, isFound]
  simp only [mem_filterMap_id]
  apply and_congr_left
  intro _
  exact ⟨fun intact => by
    obtain ⟨other, same, whole⟩ := intact
    cases same
    exact whole, fun whole => ⟨found, rfl, whole⟩⟩

theorem addHandles_iff (env : Environment) (kind : ComponentKind) (found : List (Option Uid))
    (program : Program) : (addHandles env kind found program).2 = .GXF_SUCCESS ↔
      none ∉ found ∧ ∀ component, some component ∈ found →
        env.add kind component = .GXF_SUCCESS := by
  induction found generalizing program with
  | nil => exact iff_of_true rfl ⟨List.not_mem_nil, fun _ member => absurd member List.not_mem_nil⟩
  | cons handle rest ih =>
      cases handle with
      | none => exact iff_of_false nofun fun both => both.1 List.mem_cons_self
      | some component =>
          rw [addHandles]
          split
          next failure =>
            exact iff_of_false failure fun both =>
              failure (both.2 component List.mem_cons_self)
          next success =>
            rw [ih]
            simp only [List.mem_cons, reduceCtorEq, false_or, Option.some.injEq, forall_eq_or_imp,
              not_not.mp success, true_and]

theorem addHandles_eq (kind : ComponentKind) (found : List (Option Uid)) (program : Program)
    (success : (addHandles env kind found program).2 = .GXF_SUCCESS) :
    addHandles env kind found program =
      (program.setRegistered kind (· + (found.filterMap id : Multiset Uid)), .GXF_SUCCESS) := by
  induction found generalizing program with
  | nil =>
      rw [addHandles, setRegistered, List.filterMap_nil, Multiset.coe_nil, Multiset.add_zero,
        Function.update_eq_self]
  | cons handle rest ih =>
      cases handle with
      | none => cases success
      | some component =>
          rw [addHandles] at success ⊢
          split at success
          next failure => exact absurd success failure
          next added =>
            rw [if_neg added, ih _ success, setRegistered_setRegistered]
            simp only [filterMap_some_cons, Multiset.cons_add, Multiset.add_cons]

theorem addHandles_keeps (env : Environment) (kind : ComponentKind) (found : List (Option Uid))
    (program : Program) : ∃ registered,
      (addHandles env kind found program).1 = { program with registered } := by
  induction found generalizing program with
  | nil => exact ⟨program.registered, rfl⟩
  | cons handle rest ih =>
      cases handle with
      | none => exact ⟨program.registered, rfl⟩
      | some component =>
          rw [addHandles]
          split
          next => exact ⟨program.registered, rfl⟩
          next => exact ih _

theorem addAll_iff (env : Environment) (kind : ComponentKind) (eid : Uid) (program : Program) :
    (addAll env kind eid program).2 = .GXF_SUCCESS ↔ Addable env kind eid := by
  rw [addAll]
  cases isFound : env.find kind eid with
  | error code =>
      refine iff_of_false code.property fun addable => ?_
      obtain ⟨⟨found, isOther, -⟩, -⟩ := addable
      rw [isFound] at isOther
      cases isOther
  | ok found =>
      rw [Addable, intact_and_forall isFound]
      exact addHandles_iff env kind found program

theorem addAll_eq (addable : Addable env kind eid) (program : Program) :
    addAll env kind eid program =
      (program.setRegistered kind (· + handles env kind eid), .GXF_SUCCESS) := by
  have success := (addAll_iff env kind eid program).mpr addable
  obtain ⟨⟨found, isFound, -⟩, -⟩ := addable
  rw [handles_eq isFound]
  rw [addAll, isFound] at success ⊢
  exact addHandles_eq kind found program success

theorem addAll_keeps (env : Environment) (kind : ComponentKind) (eid : Uid)
    (program : Program) : ∃ registered,
      (addAll env kind eid program).1 = { program with registered } := by
  rw [addAll]
  split
  next => exact ⟨program.registered, rfl⟩
  next => exact addHandles_keeps ..

theorem prepareHandles_iff (env : Environment) (found : List (Option Uid)) :
    prepareHandles env found = .GXF_SUCCESS ↔ none ∉ found ∧ ∀ scheduler, some scheduler ∈ found →
        env.prepare scheduler = .GXF_SUCCESS := by
  induction found with
  | nil => exact iff_of_true rfl ⟨List.not_mem_nil, fun _ member => absurd member List.not_mem_nil⟩
  | cons handle rest ih =>
      cases handle with
      | none => exact iff_of_false nofun fun both => both.1 List.mem_cons_self
      | some scheduler =>
          rw [prepareHandles]
          split
          next failure =>
            exact iff_of_false failure fun both =>
              failure (both.2 scheduler List.mem_cons_self)
          next success =>
            rw [ih]
            simp only [List.mem_cons, reduceCtorEq, false_or, Option.some.injEq, forall_eq_or_imp,
              not_not.mp success, true_and]

theorem prepareAll_iff (env : Environment) (eid : Uid) (program : Program) :
    ((prepareAll env eid program).2 = .GXF_SUCCESS ↔ Preparable env eid) ∧
      ∃ schedulers, (prepareAll env eid program).1 = { program with schedulers } ∧
        (schedulers = program.schedulers ∨
          handles env .Scheduler eid ≠ [] ∧ schedulers = program.schedulers.insert eid) := by
  rw [prepareAll]
  cases isFound : env.find .Scheduler eid with
  | error code =>
      refine ⟨iff_of_false code.property fun preparable => ?_, _, rfl, .inl rfl⟩
      obtain ⟨⟨found, isOther, -⟩, -⟩ := preparable
      rw [isFound] at isOther
      cases isOther
  | ok found =>
      rw [Preparable, intact_and_forall isFound, ← prepareHandles_iff]
      dsimp only
      split
      next => exact ⟨Iff.rfl, _, rfl, .inl rfl⟩
      next prepared =>
        rw [not_or, not_not] at prepared
        refine ⟨iff_of_true rfl prepared.1, _, rfl, .inr ⟨?_, rfl⟩⟩
        obtain ⟨whole, -⟩ := (prepareHandles_iff env found).mp prepared.1
        rw [handles_eq isFound]
        cases found with
        | nil => exact absurd rfl prepared.2
        | cons handle rest =>
            cases handle with
            | none => exact absurd List.mem_cons_self whole
            | some scheduler => exact List.cons_ne_nil scheduler _

/-! ## Entities -/

/-- The components of an entity can be attached to the groups and the executor. -/
def Attaches (env : Environment) (eid : Uid) : Prop :=
  Addable env .System eid ∧ Preparable env eid ∧ Addable env .Monitor eid ∧
    Addable env .JobStatistics eid

/-- The kinds of components that are added when an entity is scheduled. -/
def attachedKinds : List ComponentKind := [.System, .Monitor, .JobStatistics]

/-- What is registered of the entities that have been scheduled. -/
def acquired (env : Environment) (eids : List Uid) (kind : ComponentKind) : Multiset Uid :=
  if kind ∈ attachedKinds then total env kind eids else 0

theorem acquired_append (env : Environment) (first second : List Uid) (kind : ComponentKind) :
    acquired env (first ++ second) kind = acquired env first kind + acquired env second kind := by
  rw [acquired, acquired, acquired]
  split
  next => exact total_append env kind first second
  next => exact (Multiset.add_zero 0).symm

/-- An entity has been attached. -/
structure Attached (env : Environment) (eid : Uid) (program next : Program) : Prop where
  state : next.state = program.state
  unscheduled : next.unscheduled = program.unscheduled.erase eid
  scheduled : next.scheduled = emplaceBack program.scheduled eid
  schedulers : next.schedulers = program.schedulers ∨
    handles env .Scheduler eid ≠ [] ∧ next.schedulers = program.schedulers.insert eid
  registered : ∀ kind, next.registered kind = program.registered kind + acquired env [eid] kind
  initialized : next.initialized = program.initialized
  active : next.active = program.active

/-- The program when an entity is taken from the unscheduled ones. -/
def taken (program : Program) (eid : Uid) : Program :=
  { program with unscheduled := program.unscheduled.erase eid }

theorem scheduleEntity_eq (state : program.state ≠ .ORIGIN)
    (isUnscheduled : eid ∈ program.unscheduled) (env : Environment) :
    scheduleEntity env eid program = attachEntity env eid (program.taken eid) := by
  rw [scheduleEntity, if_neg state, if_neg (not_not_intro isUnscheduled)]
  rfl

theorem scheduleEntity_of_attaches (state : program.state ≠ .ORIGIN)
    (isUnscheduled : eid ∈ program.unscheduled) (attaches : Attaches env eid) :
    (scheduleEntity env eid program).2 = env.schedule eid ∧
      Attached env eid program (scheduleEntity env eid program).1 := by
  obtain ⟨systems, schedulers, monitors, statistics⟩ := attaches
  obtain ⟨prepared, kept, isPrepared, known⟩ := prepareAll_iff env eid
    (((program.taken eid).follow ((program.taken eid).groups || !reaches env .System eid)
      ).setRegistered .System (· + handles env .System eid))
  rw [scheduleEntity_eq state isUnscheduled, attachEntity, addAll_eq systems,
    andThen_of_success rfl, andThen_of_success (prepared.mpr schedulers), isPrepared,
    addAll_eq monitors, andThen_of_success rfl, addAll_eq statistics, andThen_of_success rfl]
  refine ⟨rfl, rfl, rfl, rfl, known, fun kind => ?_, rfl, rfl⟩
  rw [acquired, total_singleton]
  cases kind with
  | System | Monitor | JobStatistics => rfl
  | _ => exact (Multiset.add_zero _).symm

theorem andThen_cases {property : Program → Prop} {result : Program × GxfResult}
    {next : Program → Program × GxfResult} (first : property result.1)
    (second : result.2 = .GXF_SUCCESS → property (next result.1).1) :
    property (andThen result next).1 := by
  by_cases success : result.2 = .GXF_SUCCESS
  · rw [andThen_of_success success]
    exact second success
  · rw [andThen_of_failure success]
    exact first

theorem scheduleEntity_of_not_attaches (state : program.state ≠ .ORIGIN)
    (isUnscheduled : eid ∈ program.unscheduled) (fails : ¬Attaches env eid) :
    (scheduleEntity env eid program).2 ≠ .GXF_SUCCESS ∧
      (scheduleEntity env eid program).1.unscheduled = program.unscheduled.erase eid ∧
      (scheduleEntity env eid program).1.scheduled = program.scheduled := by
  rw [scheduleEntity_eq state isUnscheduled, attachEntity]
  constructor
  · simp only [ne_eq, andThen_code, addAll_iff, (prepareAll_iff env eid _).1]
    exact fun ⟨systems, schedulers, monitors, statistics, _⟩ =>
      fails ⟨systems, schedulers, monitors, statistics⟩
  · -- Each of the calls leaves the lists alone, and the last one is not reached.
    let property : Program → Prop := fun next =>
      next.unscheduled = program.unscheduled.erase eid ∧ next.scheduled = program.scheduled
    have added : ∀ kind middle, property middle → property (addAll env kind eid middle).1 := by
      intro kind middle before
      obtain ⟨registered, isNext⟩ := addAll_keeps env kind eid middle
      rw [isNext]
      exact before
    have prepared : ∀ middle, property middle → property (prepareAll env eid middle).1 := by
      intro middle before
      obtain ⟨-, schedulers, isNext, -⟩ := prepareAll_iff env eid middle
      rw [isNext]
      exact before
    have systems := added .System ((program.taken eid).follow (program.groups ||
      !reaches env .System eid)) ⟨rfl, rfl⟩
    apply andThen_cases systems
    intro isSystems
    have schedulers := prepared _ systems
    apply andThen_cases schedulers
    intro isSchedulers
    have monitors := added .Monitor _ schedulers
    apply andThen_cases monitors
    intro isMonitors
    apply andThen_cases (added .JobStatistics (Program.follow _ _) monitors)
    intro isStatistics
    exact absurd ⟨(addAll_iff ..).mp isSystems, (prepareAll_iff env eid _).1.mp isSchedulers,
      (addAll_iff ..).mp isMonitors, (addAll_iff ..).mp isStatistics⟩ fails

/-- An entity is initialized, and the executor answers. -/
def Starts (env : Environment) (program : Program) (eid : Uid) : Prop :=
  eid ∉ program.initialized ∧ env.init eid = .GXF_SUCCESS ∧
    ∃ isTaken, env.executorActivate eid = .ok isTaken

/-- The part of `GxfEntityActivate` in front of `scheduleEntity`. -/
def startEntity (env : Environment) (eid : Uid) (program : Program) : Program × GxfResult :=
  andThen (initEntity env eid program) (executorActivate env eid)

theorem entityActivate_eq (env : Environment) (eid : Uid) (program : Program) :
    entityActivate env eid program =
      andThen (startEntity env eid program) (scheduleEntity env eid) := by
  rw [entityActivate, startEntity]
  generalize initEntity env eid _ = result
  by_cases success : result.2 = .GXF_SUCCESS
  · rw [andThen_of_success success, andThen_of_success success]
  · rw [andThen_of_failure success, andThen_of_failure success, andThen_of_failure success]

/-- What is initialized and active when an entity has been started. -/
inductive Started (env : Environment) (eid : Uid) (program : Program) :
    List Uid → List Uid → Prop where
  | refused (failure : eid ∈ program.initialized ∨ env.init eid ≠ .GXF_SUCCESS) :
      Started env eid program program.initialized program.active
  | declined (isNew : eid ∉ program.initialized) (success : env.init eid = .GXF_SUCCESS)
      (answer : env.executorActivate eid ≠ .ok true) :
      Started env eid program (eid :: program.initialized) program.active
  | accepted (isNew : eid ∉ program.initialized) (success : env.init eid = .GXF_SUCCESS)
      (answer : env.executorActivate eid = .ok true) :
      Started env eid program (eid :: program.initialized) (program.active.insert eid)

theorem startEntity_iff (env : Environment) (eid : Uid) (program : Program) :
    ((startEntity env eid program).2 = .GXF_SUCCESS ↔ Starts env program eid) ∧
      ∃ initialized active, Started env eid program initialized active ∧
        (startEntity env eid program).1 = { program with initialized, active } := by
  rw [startEntity, initEntity, Starts]
  by_cases isInitialized : eid ∈ program.initialized
  · rw [if_pos isInitialized, andThen_of_failure]
    · exact ⟨iff_of_false nofun fun starts => starts.1 isInitialized, _, _,
        .refused (.inl isInitialized), rfl⟩
    · exact nofun
  rw [if_neg isInitialized]
  by_cases success : env.init eid = .GXF_SUCCESS
  · rw [if_neg (not_not_intro success), andThen_of_success rfl, executorActivate]
    cases answer : env.executorActivate eid with
    | error code =>
        refine ⟨iff_of_false code.property ?_, _, _, .declined isInitialized success ?_, rfl⟩
        · rintro ⟨-, -, isTaken, isOk⟩
          cases isOk
        · rw [answer]
          exact nofun
    | ok isTaken =>
        have starts : eid ∉ program.initialized ∧ env.init eid = .GXF_SUCCESS ∧
            ∃ taken, (.ok isTaken : Except Failure Bool) = .ok taken :=
          ⟨isInitialized, success, isTaken, rfl⟩
        cases isTaken with
        | false =>
            refine ⟨iff_of_true rfl starts, _, _, .declined isInitialized success ?_, rfl⟩
            rw [answer]
            exact nofun
        | true => exact ⟨iff_of_true rfl starts, _, _, .accepted isInitialized success answer, rfl⟩
  · rw [if_pos success, andThen_of_failure success]
    exact ⟨iff_of_false success fun starts => success starts.2.1, _, _, .refused (.inr success),
      rfl⟩

variable {initialized active : List Uid}

theorem Started.mem_initialized
    (started : Started env eid program initialized active) (other : Uid) :
    other ∈ initialized ↔
      other ∈ program.initialized ∨ other = eid ∧ env.init eid = .GXF_SUCCESS := by
  cases started with
  | refused failure =>
      refine ⟨.inl, fun member => member.elim id fun both => ?_⟩
      rw [both.1]
      exact failure.resolve_right fun fails => fails both.2
  | declined isNew success | accepted isNew success =>
      rw [List.mem_cons, and_iff_left success, or_comm]

theorem Started.active_subset (started : Started env eid program initialized active) :
    ∀ other ∈ active, other ∈ program.active ∨ other = eid := by
  cases started with
  | refused | declined => exact fun _ => .inl
  | accepted => exact fun _ member => (List.mem_insert_iff.mp member).symm

/-! ## Activations in the midst of the activation of a graph -/

/-- A program where `attached` have been scheduled in calls of `GxfEntityActivate` for
`called`. -/
structure Midway (env : Environment) (attached called : List Uid) (program next : Program) :
    Prop where
  nodup : attached.Nodup
  inside : ∀ eid ∈ attached, eid ∈ program.unscheduled
  state : next.state = program.state
  unscheduled : next.unscheduled = program.unscheduled.filter (· ∉ attached)
  scheduled : next.scheduled = program.scheduled ++ attached
  schedulers : next.schedulers.Nodup
  known : ∀ eid ∈ next.schedulers, eid ∈ program.schedulers ∨
    eid ∈ attached ∧ handles env .Scheduler eid ≠ []
  registered : ∀ kind, next.registered kind = program.registered kind + acquired env attached kind
  initialized : ∀ eid, eid ∈ next.initialized ↔
    eid ∈ program.initialized ∨ eid ∈ called ∧ env.init eid = .GXF_SUCCESS
  active : ∀ eid ∈ next.active, eid ∈ program.active ∨ eid ∈ called

theorem Midway.refl (listed : Listed program) (env : Environment) :
    Midway env [] [] program program := by
  constructor
  · exact List.nodup_nil
  · exact fun _ member => absurd member List.not_mem_nil
  · rfl
  · exact (filter_notMem_nil _).symm
  · exact (List.append_nil _).symm
  · exact listed.schedulers
  · exact fun _ member => .inl member
  · intro kind
    rw [acquired, total, List.flatMap_nil, Multiset.coe_nil, ite_self, Multiset.add_zero]
  · exact fun eid => (or_iff_left fun both => absurd both.1 List.not_mem_nil).symm
  · exact fun _ member => .inl member

variable {attached called done : List Uid}

theorem Midway.perm (midway : Midway env attached called program next) (listed : Listed program) :
    (next.unscheduled ++ next.scheduled).Perm (program.unscheduled ++ program.scheduled) := by
  have nodup := (List.nodup_append.mp listed.nodup).1
  have same : attached.Perm (program.unscheduled.filter (· ∈ attached)) := by
    apply (List.perm_ext_iff_of_nodup midway.nodup (nodup.filter _)).mpr
    intro eid
    rw [List.mem_filter, decide_eq_true_eq]
    exact ⟨fun member => ⟨midway.inside eid member, member⟩, fun both => both.2⟩
  have rest : program.unscheduled.filter (· ∉ attached) =
      program.unscheduled.filter fun eid => !decide (eid ∈ attached) := by
    apply List.filter_congr
    intro eid _
    exact decide_not
  have joined : (program.unscheduled.filter (· ∉ attached) ++ attached).Perm
      program.unscheduled := by
    rw [rest]
    exact ((same.append_left _).trans List.perm_append_comm).trans
      (List.filter_append_perm _ program.unscheduled)
  have moved : (program.unscheduled.filter (· ∉ attached) ++ (program.scheduled ++ attached)).Perm
      ((program.unscheduled.filter (· ∉ attached) ++ attached) ++ program.scheduled) := by
    rw [List.append_assoc]
    exact List.perm_append_comm.append_left _
  rw [midway.unscheduled, midway.scheduled]
  exact moved.trans (joined.append_right _)

theorem Midway.listed (midway : Midway env attached called program next) (listed : Listed program) :
    Listed next := by
  have perm := midway.perm listed
  refine ⟨perm.nodup_iff.mpr listed.nodup, midway.schedulers, fun eid member => ?_,
    perm.length_eq.trans_le listed.room⟩
  apply perm.mem_iff.mpr
  rcases midway.known eid member with known | ⟨isAttached, -⟩
  · exact listed.known eid known
  · exact List.mem_append_left _ (midway.inside eid isAttached)

theorem Midway.start (midway : Midway env done done program next) (eid : Uid) :
    Midway env done (done ++ [eid]) program (startEntity env eid next).1 := by
  obtain ⟨-, initialized, active, started, isStarted⟩ := startEntity_iff env eid next
  rw [isStarted]
  constructor
  · exact midway.nodup
  · exact midway.inside
  · exact midway.state
  · exact midway.unscheduled
  · exact midway.scheduled
  · exact midway.schedulers
  · exact midway.known
  · exact midway.registered
  · intro other
    rw [started.mem_initialized, midway.initialized, List.mem_append, List.mem_singleton,
      or_and_right, or_assoc]
    apply or_congr_right
    apply or_congr_right
    apply and_congr_right
    intro isEid
    rw [isEid]
  · intro other member
    rcases started.active_subset other member with old | isEid
    · exact (midway.active other old).imp_right (List.mem_append_left _)
    · exact .inr (List.mem_append_right _ (List.mem_singleton.mpr isEid))

theorem Midway.attach {last : Program}
    (midway : Midway env done called program next) (listed : Listed program)
    (isUnscheduled : eid ∈ program.unscheduled) (isNew : eid ∉ done)
    (attached : Attached env eid next last) :
    Midway env (done ++ [eid]) called program last := by
  have isNext := midway.listed listed
  have member : eid ∈ next.unscheduled := by
    rw [midway.unscheduled]
    exact mem_filter_notMem.mpr ⟨isUnscheduled, isNew⟩
  have room : next.scheduled.length < kMaxEntities := by
    have fits := isNext.room
    rw [List.length_append] at fits
    have some := List.length_pos_of_mem member
    omega
  constructor
  · apply List.nodup_append.mpr
    refine ⟨midway.nodup, List.nodup_singleton eid, fun old inDone new isEid same => ?_⟩
    rw [same, List.mem_singleton.mp isEid] at inDone
    exact isNew inDone
  · exact List.forall_mem_append.mpr ⟨midway.inside, List.forall_mem_singleton.mpr isUnscheduled⟩
  · exact attached.state.trans midway.state
  · rw [attached.unscheduled, erase_eq_filter (List.nodup_append.mp isNext.nodup).1,
      midway.unscheduled, filter_notMem_filter]
  · rw [attached.scheduled, emplaceBack_of_room room, midway.scheduled, List.append_assoc]
  · rcases attached.schedulers with same | ⟨-, inserted⟩
    · rw [same]
      exact midway.schedulers
    · rw [inserted]
      exact midway.schedulers.insert
  · intro other isScheduler
    have known : other ∈ next.schedulers ∨ other = eid ∧ handles env .Scheduler eid ≠ [] := by
      rcases attached.schedulers with same | ⟨some, inserted⟩
      · rw [same] at isScheduler
        exact .inl isScheduler
      · rw [inserted] at isScheduler
        exact (List.mem_insert_iff.mp isScheduler).symm.imp_right fun isEid => ⟨isEid, some⟩
    rcases known with old | ⟨isEid, some⟩
    · exact (midway.known other old).imp_right fun both =>
        ⟨List.mem_append_left _ both.1, both.2⟩
    · rw [isEid]
      exact .inr ⟨List.mem_append_right _ (List.mem_singleton_self eid), some⟩
  · intro kind
    rw [attached.registered, midway.registered, acquired_append, Multiset.add_assoc]
  · rw [attached.initialized]
    exact midway.initialized
  · rw [attached.active]
    exact midway.active

section

variable (midway : Midway env done done program next)
include midway

theorem Midway.starts_iff (isNew : eid ∉ done) : Starts env next eid ↔ Starts env program eid := by
  apply and_congr_left
  intro _
  rw [midway.initialized, or_iff_left fun both => isNew both.1]

theorem Midway.activate_of_not_starts (isNew : eid ∉ done) (fails : ¬Starts env program eid) :
    (entityActivate env eid next).2 ≠ .GXF_SUCCESS ∧
      Midway env done (done ++ [eid]) program (entityActivate env eid next).1 := by
  have failure : (startEntity env eid next).2 ≠ .GXF_SUCCESS := fun success =>
    fails ((midway.starts_iff isNew).mp ((startEntity_iff env eid next).1.mp success))
  rw [entityActivate_eq, andThen_of_failure failure]
  exact ⟨failure, midway.start eid⟩

theorem Midway.activate_of_attaches (listed : Listed program)
    (state : program.state ≠ .ORIGIN) (isUnscheduled : eid ∈ program.unscheduled)
    (isNew : eid ∉ done) (starts : Starts env program eid) (attaches : Attaches env eid) :
    (entityActivate env eid next).2 = env.schedule eid ∧
      Midway env (done ++ [eid]) (done ++ [eid]) program (entityActivate env eid next).1 := by
  have success : (startEntity env eid next).2 = .GXF_SUCCESS :=
    (startEntity_iff env eid next).1.mpr ((midway.starts_iff isNew).mpr starts)
  have started := midway.start eid
  have member : eid ∈ (startEntity env eid next).1.unscheduled := by
    rw [started.unscheduled]
    exact mem_filter_notMem.mpr ⟨isUnscheduled, isNew⟩
  rw [← started.state] at state
  rw [entityActivate_eq, andThen_of_success success]
  obtain ⟨code, attached⟩ := scheduleEntity_of_attaches state member attaches
  exact ⟨code, started.attach listed isUnscheduled isNew attached⟩

theorem Midway.activate_of_not_attaches (listed : Listed program)
    (state : program.state ≠ .ORIGIN) (isUnscheduled : eid ∈ program.unscheduled)
    (isNew : eid ∉ done) (starts : Starts env program eid) (fails : ¬Attaches env eid) :
    (entityActivate env eid next).2 ≠ .GXF_SUCCESS ∧
      eid ∉ (entityActivate env eid next).1.unscheduled ∧
      eid ∉ (entityActivate env eid next).1.scheduled := by
  have success : (startEntity env eid next).2 = .GXF_SUCCESS :=
    (startEntity_iff env eid next).1.mpr ((midway.starts_iff isNew).mpr starts)
  have started := midway.start eid
  have isStarted := started.listed listed
  have member : eid ∈ (startEntity env eid next).1.unscheduled := by
    rw [started.unscheduled]
    exact mem_filter_notMem.mpr ⟨isUnscheduled, isNew⟩
  rw [← started.state] at state
  rw [entityActivate_eq, andThen_of_success success]
  obtain ⟨code, unscheduled, scheduled⟩ := scheduleEntity_of_not_attaches state member fails
  obtain ⟨nodup, -, apart⟩ := List.nodup_append.mp isStarted.nodup
  refine ⟨code, ?_, ?_⟩
  · rw [unscheduled]
    exact nodup.not_mem_erase
  · rw [scheduled]
    exact fun isScheduled => apart eid member eid isScheduled rfl

end

end Gxf.Std.Program
