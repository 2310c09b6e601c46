import Gxf.Core.Runtime.RegisterComponent

/-!
# Adding a component to an entity

`GxfComponentAdd` allocates an instance of a type, lets it make its parameters in the
parameter storage, and hands it to the warden.
-/

namespace Gxf.Core

open Gxf.Lib Gxf.Std Gxf.Std.EntityWarden

/-- `kMaxComponentNameSize`. -/
def ComponentRuntime.kMaxComponentNameSize : Nat := 256

/-- `kInternalNameParameterKey`. -/
def kInternalNameParameterKey : String := "__name"

/-- The arguments of `GxfComponentAdd(eid, tid, name)`. -/
structure Addition where
  eid : Uid
  tid : Tid
  name : Option String
  deriving DecidableEq

namespace ComponentRuntime

variable {Data : Type} (runtime : ComponentRuntime Data)

def componentRegistrar (tid : Tid) (cid : Uid) : Registrar :=
  { runtime.registrar with
    tid
    cid
    parameterRegistrar := .nullptr
    resourceRegistrar := .nullptr }

/-- `registerInterface` of a component with a new id. -/
def declareComponent (tid : Tid) (interface : Interface Data) : Declarations Data × GxfResult :=
  Declarations.registerInterface runtime.types interface
    { registrar := runtime.componentRegistrar tid runtime.nextId
      parameters := runtime.parameters
      temporary := { context := runtime.parameters.context }
      parameterRegistrar := runtime.parameterRegistrar
      resourceRegistrar := runtime.resourceRegistrar }

def restoreRegistrars : ComponentRuntime Data :=
  { runtime with
    registrar := { runtime.registrar with
      parameterRegistrar := .runtime
      resourceRegistrar := .runtime } }

/-- The part of `GxfComponentAdd` for instances that are components. -/
def setupComponent (tid : Tid) (interface : Interface Data) : ComponentRuntime Data × GxfResult :=
  let declared := runtime.declareComponent tid interface
  let after := runtime.withDeclarations declared.1
  if declared.2 ≠ .GXF_SUCCESS then (after, declared.2)
  else (after.restoreRegistrars, .GXF_SUCCESS)

/-- The part of `GxfComponentAdd` that names the instance and hands it to the warden. -/
def nameAndAdd (addition : Addition) (item : ComponentItem) : ComponentRuntime Data × GxfResult :=
  let name := addition.name.getD ""
  if kMaxComponentNameSize ≤ name.utf8ByteSize then
    (runtime, .GXF_ENTITY_COMPONENT_NAME_EXCEEDS_LIMIT)
  else
    let named := runtime.parameters.set item.cid kInternalNameParameterKey (.string name)
    let added := runtime.warden.addComponent addition.eid item
    ({ runtime with
      parameters := named.1
      warden := added.warden }, added.code)

/-- The runtime with a new instance and a new id. -/
def withInstance (tid : Tid) (pointer : Pointer) : ComponentRuntime Data :=
  { runtime with
    nextId := runtime.nextId + 1
    instances := (tid, pointer) :: runtime.instances }

/-- The part of `GxfComponentAdd` behind the question whether the type is a component. -/
def addInstance (addition : Addition) (factory : Factory Data) (pointer : Pointer) :
    Except GxfResult Bool → ComponentRuntime Data × GxfResult
  | .error code => (runtime.withInstance addition.tid pointer, code)
  | .ok false =>
      (runtime.withInstance addition.tid pointer).nameAndAdd addition
        ⟨runtime.nextId, addition.tid, pointer, none⟩
  | .ok true =>
      let setup := runtime.setupComponent addition.tid (factory.interface pointer)
      let after := setup.1.withInstance addition.tid pointer
      if setup.2 ≠ .GXF_SUCCESS then (after, setup.2)
      else after.nameAndAdd addition ⟨runtime.nextId, addition.tid, pointer, some pointer⟩

/-- `GxfComponentAdd(eid, tid, name)`.  There is no result if `is_base` needs more than
`depth` nested calls. -/
def componentAdd (addition : Addition) (factory : Factory Data) (depth : Nat) :
    Option (ComponentRuntime Data × GxfResult) :=
  match runtime.types.idFromName "nvidia::gxf::Codelet" with
  | .error code => some (runtime, code)
  | .ok _ =>
      if addition.eid ∉ runtime.warden.entities then some (runtime, .GXF_ENTITY_NOT_FOUND)
      else
        match factory.allocate addition.tid with
        | .error code => some (runtime, code)
        | .ok pointer =>
            match runtime.types.name addition.tid with
            | .error code => some (runtime.withInstance addition.tid pointer, code)
            | .ok _ =>
                (runtime.types.isBase depth addition.tid kComponentTid).map
                  (runtime.addInstance addition factory pointer)

/-- What a call that fails leaves as it was: the registrars that the registrar points to, the
instances, the parameters under the id that is not used, the components of the entity, and
the parameters that later registrations record. -/
structure Undone (before after : ComponentRuntime Data) (eid : Uid) : Prop where
  parameterRegistrar : after.registrar.parameterRegistrar = before.registrar.parameterRegistrar
  resourceRegistrar : after.registrar.resourceRegistrar = before.registrar.resourceRegistrar
  instances : after.instances = before.instances
  parameters : ∀ key, after.parameters.find before.nextId key =
    before.parameters.find before.nextId key
  components : (after.warden.entities.lookup eid).map EntityItem.components =
    (before.warden.entities.lookup eid).map EntityItem.components
  recorded : ∀ ops, ((registering Data).run after ops).parameterRegistrar =
    ((registering Data).run before ops).parameterRegistrar

/-- A call that fails leaves the state as it was. -/
def AddFailsCleanly (addition : Addition) (factory : Factory Data) (depth : Nat) : Prop :=
  ∀ after code, runtime.componentAdd addition factory depth = some (after, code) →
    code ≠ .GXF_SUCCESS → Undone runtime after addition.eid

/-- The call is refused before an instance is allocated. -/
def Refused (addition : Addition) (factory : Factory Data) : Prop :=
  "nvidia::gxf::Codelet" ∉ runtime.types.tids ∨ addition.eid ∉ runtime.warden.entities ∨
    ∃ code, factory.allocate addition.tid = .error code

/-- The name is not too long, and the entity takes another component. -/
structure CanAdd (addition : Addition) : Prop where
  name : (addition.name.getD "").utf8ByteSize < kMaxComponentNameSize
  entity : ∃ item ∈ runtime.warden.entities.lookup addition.eid,
    item.stage = .kUninitialized ∧ item.components.length < kMaxComponents

/-- Nothing goes wrong behind the allocation: the type is registered, an instance that is a
component declares its interface, and the entity takes it. -/
structure AddCompletes (addition : Addition) (factory : Factory Data) (depth : Nat) : Prop where
  registered : addition.tid ∈ runtime.types.names
  answers : ∀ answer ∈ runtime.types.isBase depth addition.tid kComponentTid,
    ∃ isComponent, answer = .ok isComponent ∧ runtime.CanAdd addition ∧
      ∀ pointer, isComponent = true → factory.allocate addition.tid = .ok pointer →
        (runtime.declareComponent addition.tid (factory.interface pointer)).2 = .GXF_SUCCESS

variable {runtime after : ComponentRuntime Data} {addition : Addition} {factory : Factory Data}
  {depth : Nat} {code : GxfResult} {pointer : Pointer}

theorem addComponent_succeeds_iff (warden : EntityWarden) (eid : Uid) (component : ComponentItem) :
    (warden.addComponent eid component).code = .GXF_SUCCESS ↔ ∃ item ∈ warden.entities.lookup eid,
        item.stage = .kUninitialized ∧ item.components.length < kMaxComponents := by
  rw [addComponent]
  cases warden.entities.lookup eid with
  | none => exact iff_of_false nofun nofun
  | some item =>
      dsimp only
      split_ifs with stage full
      · exact iff_of_false nofun fun ⟨_, same, fits, _⟩ => stage (Option.some.inj same ▸ fits)
      · exact iff_of_false nofun fun ⟨_, same, _, room⟩ =>
          Nat.not_lt.mpr full (Option.some.inj same ▸ room)
      · exact iff_of_true rfl ⟨item, rfl, not_not.mp stage, Nat.not_le.mp full⟩

theorem nameAndAdd_succeeds_iff (item : ComponentItem) :
    (runtime.nameAndAdd addition item).2 = .GXF_SUCCESS ↔ runtime.CanAdd addition := by
  rw [nameAndAdd]
  dsimp only
  split_ifs with tooLong
  · exact iff_of_false nofun fun can => Nat.not_lt.mpr tooLong can.name
  · exact (addComponent_succeeds_iff _ _ _).trans
      ⟨fun entity => ⟨Nat.not_le.mp tooLong, entity⟩, CanAdd.entity⟩

theorem instances_nameAndAdd (item : ComponentItem) :
    (runtime.nameAndAdd addition item).1.instances = runtime.instances := by
  rw [nameAndAdd]
  dsimp only
  split_ifs <;> rfl

theorem setupComponent_frame (tid : Tid) (interface : Interface Data) :
    (runtime.setupComponent tid interface).1.warden = runtime.warden ∧
      (runtime.setupComponent tid interface).1.instances = runtime.instances := by
  rw [setupComponent]
  split_ifs <;> exact ⟨rfl, rfl⟩

theorem setupComponent_succeeds_iff (tid : Tid) (interface : Interface Data) :
    (runtime.setupComponent tid interface).2 = .GXF_SUCCESS ↔
      (runtime.declareComponent tid interface).2 = .GXF_SUCCESS := by
  rw [setupComponent]
  split_ifs with failed
  · exact Iff.rfl
  · exact iff_of_true rfl (not_not.mp failed)

theorem instances_addInstance (answer : Except GxfResult Bool) :
    (runtime.addInstance addition factory pointer answer).1.instances =
      (addition.tid, pointer) :: runtime.instances := by
  have setup := (runtime.setupComponent_frame addition.tid (factory.interface pointer)).2
  rw [addInstance.eq_def]
  split
  · rfl
  · exact instances_nameAndAdd _
  · dsimp only
    split_ifs
    · exact congrArg ((addition.tid, pointer) :: ·) setup
    · exact (instances_nameAndAdd _).trans (congrArg ((addition.tid, pointer) :: ·) setup)

theorem CanAdd.congr {other : ComponentRuntime Data} (same : other.warden = runtime.warden) :
    other.CanAdd addition ↔ runtime.CanAdd addition := by
  constructor
  · intro can
    exact ⟨can.name, same ▸ can.entity⟩
  · intro can
    exact ⟨can.name, same ▸ can.entity⟩

theorem addInstance_succeeds_iff (isComponent : Bool) :
    (runtime.addInstance addition factory pointer (.ok isComponent)).2 = .GXF_SUCCESS ↔
      runtime.CanAdd addition ∧ (isComponent = true →
          (runtime.declareComponent addition.tid (factory.interface pointer)).2 =
            .GXF_SUCCESS) := by
  cases isComponent with
  | false =>
      have others : ((runtime.withInstance addition.tid pointer).nameAndAdd addition
          ⟨runtime.nextId, addition.tid, pointer, none⟩).2 = .GXF_SUCCESS ↔
            (runtime.withInstance addition.tid pointer).CanAdd addition :=
        nameAndAdd_succeeds_iff _
      have noInterface : false = true → (runtime.declareComponent addition.tid
          (factory.interface pointer)).2 = .GXF_SUCCESS := fun never => nomatch never
      have can : (runtime.withInstance addition.tid pointer).CanAdd addition ↔
          runtime.CanAdd addition := CanAdd.congr rfl
      exact others.trans (can.trans (and_iff_left noInterface).symm)
  | true =>
      have warden := (runtime.setupComponent_frame addition.tid (factory.interface pointer)).1
      rw [addInstance, ← setupComponent_succeeds_iff]
      split_ifs with failed
      · exact iff_of_false failed fun both => failed (both.2 rfl)
      · have can : ((runtime.setupComponent addition.tid
            (factory.interface pointer)).1.withInstance addition.tid pointer).CanAdd addition ↔
              runtime.CanAdd addition := CanAdd.congr warden
        rw [nameAndAdd_succeeds_iff, can]
        exact (and_iff_left fun _ => not_not.mp failed).symm

theorem name_eq_ok_iff {types : TypeRegistry} {tid : Tid} :
    (∃ name, types.name tid = .ok name) ↔ tid ∈ types.names := by
  rw [TypeRegistry.name, ← AList.lookup_isSome]
  cases types.names.lookup tid with
  | none => exact iff_of_false nofun nofun
  | some name => exact iff_of_true ⟨name, rfl⟩ rfl

theorem eq_of_refused (refused : runtime.Refused addition factory)
    (returned : runtime.componentAdd addition factory depth = some (after, code)) :
    after = runtime := by
  rw [componentAdd] at returned
  split at returned
  · cases returned
    rfl
  · case _ tid found =>
      split_ifs at returned with valid
      · split at returned
        · cases returned
          rfl
        · case _ pointer allocated =>
            have codelet : "nvidia::gxf::Codelet" ∈ runtime.types.tids := AList.lookup_isSome.mp
                (Option.isSome_of_mem (TypeRegistry.idFromName_eq_ok_iff.mp found))
            rcases refused with unknown | invalid | ⟨code, error⟩
            · exact absurd codelet unknown
            · exact absurd valid invalid
            · cases error.symm.trans allocated
      · cases returned
        rfl

section

variable (codelet : "nvidia::gxf::Codelet" ∈ runtime.types.tids)
include codelet

theorem componentAdd_of_allocated (valid : addition.eid ∈ runtime.warden.entities)
    (allocated : factory.allocate addition.tid = .ok pointer) :
    runtime.componentAdd addition factory depth =
      match runtime.types.name addition.tid with
      | .error code => some (runtime.withInstance addition.tid pointer, code)
      | .ok _ => (runtime.types.isBase depth addition.tid kComponentTid).map
          (runtime.addInstance addition factory pointer) := by
  obtain ⟨tid, stored⟩ := Option.isSome_iff_exists.mp (AList.lookup_isSome.mpr codelet)
  rw [componentAdd, TypeRegistry.idFromName_eq_ok_iff.mpr stored, allocated]
  dsimp only
  rw [if_neg (not_not_intro valid)]

theorem instances_componentAdd (valid : addition.eid ∈ runtime.warden.entities)
    (allocated : factory.allocate addition.tid = .ok pointer)
    (returned : runtime.componentAdd addition factory depth = some (after, code)) :
    after.instances = (addition.tid, pointer) :: runtime.instances := by
  rw [componentAdd_of_allocated codelet valid allocated] at returned
  split at returned
  · cases returned
    rfl
  · obtain ⟨answer, -, same⟩ := Option.map_eq_some_iff.mp returned
    have kept : (runtime.addInstance addition factory pointer answer).1.instances =
        (addition.tid, pointer) :: runtime.instances := instances_addInstance answer
    rw [same] at kept
    exact kept

theorem componentAdd_succeeds_iff (valid : addition.eid ∈ runtime.warden.entities)
    (allocated : factory.allocate addition.tid = .ok pointer) :
    (∀ after code, runtime.componentAdd addition factory depth = some (after, code) →
      code = .GXF_SUCCESS) ↔ runtime.AddCompletes addition factory depth := by
  rw [componentAdd_of_allocated codelet valid allocated]
  cases named : runtime.types.name addition.tid with
  | error code =>
      have unknown : addition.tid ∉ runtime.types.names := by
        intro registered
        obtain ⟨name, isNamed⟩ := name_eq_ok_iff.mpr registered
        cases named.symm.trans isNamed
      have notFound : code ≠ .GXF_SUCCESS := by
        rintro rfl
        rw [TypeRegistry.name, AList.lookup_eq_none.mpr unknown] at named
        cases named
      exact iff_of_false (fun success => notFound (success _ code rfl)) fun completes =>
        unknown completes.registered
  | ok name =>
      dsimp only
      constructor
      · intro success
        refine ⟨name_eq_ok_iff.mp ⟨name, named⟩, fun answer asked => ?_⟩
        have code := success (runtime.addInstance addition factory pointer answer).1
          (runtime.addInstance addition factory pointer answer).2
          (by rw [Option.mem_def.mp asked, Option.map_some])
        cases answer with
        | error failure =>
            have success : failure = .GXF_SUCCESS := code
            cases success.symm.trans (TypeRegistry.isBase_error asked)
        | ok isComponent =>
            obtain ⟨can, declares⟩ := (addInstance_succeeds_iff isComponent).mp code
            refine ⟨isComponent, rfl, can, fun other isTrue same => ?_⟩
            rw [allocated] at same
            cases same
            exact declares isTrue
      · intro completes after code returned
        obtain ⟨answer, asked, same⟩ := Option.map_eq_some_iff.mp returned
        obtain ⟨isComponent, rfl, can, declares⟩ := completes.answers answer asked
        have success : (runtime.addInstance addition factory pointer (.ok isComponent)).2 =
            .GXF_SUCCESS := (addInstance_succeeds_iff isComponent).mpr
              ⟨can, fun isTrue => declares pointer isTrue allocated⟩
        rw [same] at success
        exact success

end

/-- A call that fails leaves the state as it was, unless it fails behind the allocation of an
instance. -/
theorem addFailsCleanly_iff (runtime : ComponentRuntime Data) (addition : Addition)
    (factory : Factory Data) (depth : Nat) :
    runtime.AddFailsCleanly addition factory depth ↔
      runtime.Refused addition factory ∨ runtime.AddCompletes addition factory depth := by
  by_cases refused : runtime.Refused addition factory
  · refine iff_of_true ?_ (.inl refused)
    intro after code returned failed
    obtain rfl := eq_of_refused refused returned
    exact ⟨rfl, rfl, rfl, fun _ => rfl, rfl, fun _ => rfl⟩
  · rw [or_iff_right refused]
    obtain ⟨codelet, others⟩ := not_or.mp refused
    obtain ⟨valid, noError⟩ := not_or.mp others
    cases allocated : factory.allocate addition.tid with
    | error code => exact absurd ⟨code, allocated⟩ noError
    | ok pointer =>
        rw [← componentAdd_succeeds_iff (not_not.mp codelet) (not_not.mp valid) allocated]
        constructor
        · intro cleanly after code returned
          by_contra failed
          have undone := (cleanly after code returned failed).instances
          rw [instances_componentAdd (not_not.mp codelet) (not_not.mp valid) allocated
            returned] at undone
          exact List.cons_ne_self _ _ undone
        · intro succeeds after code returned failed
          exact absurd (succeeds after code returned) failed

def sizeInterface : Interface Unit := .parameter
    { type := .int64, handleTypename := none, isArithmetic := true, frontend := 0
      key := some "size", headline := some "Size", description := some "N/A"
      platformInformation := none, valueDefault := none, valueRange := none, flags := 0
      rank := 0, shape := [] }
    fun _ => .done .GXF_SUCCESS

/-- The declarations of a component fail when it is added: its instance is never given back,
and a type that is registered afterwards is recorded without its parameters. -/
theorem failed_addition_loses_later_parameters :
    let types : Factory Unit := ⟨fun _ => .ok 7, fun _ _ => .GXF_SUCCESS, fun _ => sizeInterface⟩
    let failing : Factory Unit :=
      ⟨fun _ => .ok 7, fun _ _ => .GXF_SUCCESS, fun _ => .done .GXF_FAILURE⟩
    let codelet : RegisterOp Unit :=
      ⟨⟨⟨3, 3⟩, "nvidia::gxf::Codelet", some "nvidia::gxf::Component"⟩, types, 4⟩
    let later : RegisterOp Unit := ⟨⟨⟨4, 4⟩, "T", some "nvidia::gxf::Component"⟩, types, 4⟩
    let before := { (registering Unit).run (created Unit) [codelet] with
      warden := ((fresh 1).create 5 "entity").warden }
    let keys (runtime : ComponentRuntime Unit) : Option (List String) :=
      (((registering Unit).run runtime [later]).parameterRegistrar.lookup ⟨4, 4⟩).map
        ComponentInfo.parameterKeys
    (before.componentAdd ⟨5, ⟨3, 3⟩, none⟩ failing 4).map (fun result =>
      (result.2, result.1.instances, keys result.1)) = some (.GXF_FAILURE, [(⟨3, 3⟩, 7)], none) ∧
    keys before = some ["size"] ∧
    ¬ before.AddFailsCleanly ⟨5, ⟨3, 3⟩, none⟩ failing 4 := by
  refine ⟨rfl, rfl, fun cleanly => ?_⟩
  have instances := (cleanly _ _ rfl nofun).instances
  cases instances

end ComponentRuntime

end Gxf.Core
