import Gxf.Core.Registrar

/-!
# Registering component types

`GxfRegisterComponent` adds a type to the registry, and lets an instance of it declare its
parameters and resources once, so that they are known before any component is created.
-/

namespace Gxf.Core

open Gxf.Lib Gxf.Std Gxf.Std.EntityWarden TypeRegistry

/-- The stores of the runtime that components are registered in and added to.  `instances`
are the objects that were allocated and have not been given back. -/
structure ComponentRuntime (Data : Type) where
  types : TypeRegistry
  registrar : Registrar
  parameters : ParameterStorage Data
  parameterRegistrar : ParameterRegistrar Data
  resourceRegistrar : ResourceRegistrar
  warden : EntityWarden
  nextId : Uid
  instances : List (Tid × Pointer)

/-- What a call meets outside of the runtime: the extension loader, and the components' own
`registerInterface`. -/
structure Factory (Data : Type) where
  allocate : Tid → Except GxfResult Pointer
  deallocate : Tid → Pointer → GxfResult
  interface : Pointer → Interface Data

namespace ComponentRuntime

variable {Data : Type} (runtime : ComponentRuntime Data)

/-- The runtime with what the declarations have changed. -/
def withDeclarations (declarations : Declarations Data) : ComponentRuntime Data :=
  { runtime with
    registrar := declarations.registrar
    parameters := declarations.parameters
    parameterRegistrar := declarations.parameterRegistrar
    resourceRegistrar := declarations.resourceRegistrar }

/-- `addParameterlessType(tid, name)` of the parameter registrar. -/
def addParameterlessType (call : Registration) : ComponentRuntime Data :=
  { runtime with
    parameterRegistrar := runtime.parameterRegistrar.addParameterlessType call.tid call.name }

def typeRegistrar (call : Registration) : Registrar :=
  { runtime.registrar with
    tid := call.tid
    typeName := call.name
    parameterStorage := .temporary
    resourceManager := .nullptr }

/-- `registerInterface` of an instance of a type, with a parameter storage of its own. -/
def declareType (call : Registration) (interface : Interface Data) :
    Declarations Data × GxfResult :=
  Declarations.registerInterface runtime.types interface
    { registrar := runtime.typeRegistrar call
      parameters := runtime.parameters
      temporary := { context := runtime.parameters.context }
      parameterRegistrar := runtime.parameterRegistrar
      resourceRegistrar := runtime.resourceRegistrar }

/-- The part of `GxfRegisterComponent` behind the allocation of an instance. -/
def registerInstance (call : Registration) (factory : Factory Data) (pointer : Pointer) :
    ComponentRuntime Data × GxfResult :=
  let declared := runtime.declareType call (factory.interface pointer)
  let deallocated := factory.deallocate call.tid pointer
  let reset := runtime.withDeclarations { declared.1 with
    registrar := { declared.1.registrar with
      parameterStorage := .runtime
      resourceManager := .runtime } }
  let kept := if deallocated = .GXF_SUCCESS then [] else [(call.tid, pointer)]
  ({ reset with instances := kept ++ reset.instances },
    if declared.2 ≠ .GXF_SUCCESS then declared.2 else deallocated)

/-- The part of `GxfRegisterComponent` behind the question whether the type is a component. -/
def registerDerived (call : Registration) (factory : Factory Data) :
    Except GxfResult Bool → ComponentRuntime Data × GxfResult
  | .error code => (runtime, code)
  | .ok false => (runtime.addParameterlessType call, .GXF_SUCCESS)
  | .ok true =>
      match factory.allocate call.tid with
      | .ok pointer => runtime.registerInstance call factory pointer
      | .error code =>
          if code = .GXF_FACTORY_ABSTRACT_CLASS then
            (runtime.addParameterlessType call, .GXF_SUCCESS)
          else (runtime, .GXF_FAILURE)

/-- The runtime with the type and its base in the registry. -/
def withRegistered (call : Registration) : ComponentRuntime Data :=
  { runtime with types := (runtime.types.register call).1 }

/-- `GxfRegisterComponent(tid, name, base)`.  There is no result if `is_base` needs more than
`depth` nested calls. -/
def registerComponent (call : Registration) (factory : Factory Data) (depth : Nat) :
    Option (ComponentRuntime Data × GxfResult) :=
  let added := runtime.withRegistered call
  match (runtime.types.register call).2 with
  | .error code => some (added, code)
  | .ok () =>
      if call.baseName = "" then some (added.addParameterlessType call, .GXF_SUCCESS)
      else
        (added.types.isBase depth call.tid kComponentTid).map (added.registerDerived call factory)

/-- The arguments of a call, with what it meets. -/
structure RegisterOp (Data : Type) where
  call : Registration
  factory : Factory Data
  depth : Nat

/-- The runtime under calls.  A call that does not return changes nothing here. -/
def registering (Data : Type) :
    System (ComponentRuntime Data) (RegisterOp Data) (Option GxfResult) where
  step runtime op :=
    match runtime.registerComponent op.call op.factory op.depth with
    | none => (runtime, none)
    | some (after, code) => (after, some code)

/-- The runtime that `create` makes. -/
def created (Data : Type) : ComponentRuntime Data where
  types := TypeRegistry.created
  registrar := ⟨.runtime, .runtime, .runtime, .runtime, gxfTidNull, 0, ""⟩
  parameters := { context := 0 }
  parameterRegistrar :=
    ParameterRegistrar.addParameterlessType ∅ kComponentTid "nvidia::gxf::Component"
  resourceRegistrar := ∅
  warden := fresh 1
  nextId := 2
  instances := []

/-- The type registry and the registrar are as before, and so are the results of whatever
calls come next. -/
structure Restored (before after : ComponentRuntime Data) : Prop where
  types : after.types = before.types
  registrar : after.registrar = before.registrar
  later : ∀ ops, (registering Data).outputs after ops = (registering Data).outputs before ops

/-- A call that fails leaves things as they were. -/
def FailsCleanly (call : Registration) (factory : Factory Data) (depth : Nat) : Prop :=
  ∀ after code, runtime.registerComponent call factory depth = some (after, code) →
    code ≠ .GXF_SUCCESS → Restored runtime after

/-- An instance declares its interface, and is given back. -/
structure Declares (call : Registration) (factory : Factory Data) (pointer : Pointer) : Prop where
  declared : ((runtime.withRegistered call).declareType call (factory.interface pointer)).2 =
    .GXF_SUCCESS
  deallocated : factory.deallocate call.tid pointer = .GXF_SUCCESS

/-- Nothing goes wrong behind the question whether the type is a component: it is none, or
an abstract one, or an instance declares its interface. -/
def DerivedCompletes (call : Registration) (factory : Factory Data) : Except GxfResult Bool → Prop
  | .error _ => False
  | .ok false => True
  | .ok true =>
      match factory.allocate call.tid with
      | .ok pointer => runtime.Declares call factory pointer
      | .error code => code = .GXF_FACTORY_ABSTRACT_CLASS

/-- Nothing goes wrong behind the addition of the type: there is no base, or it is known, and
the rest completes as well. -/
def Completes (call : Registration) (factory : Factory Data) (depth : Nat) : Prop :=
  call.baseName = "" ∨ (call.baseName = call.name ∨ call.baseName ∈ runtime.types.tids) ∧
      ∀ answer ∈ (runtime.withRegistered call).types.isBase depth call.tid kComponentTid,
        runtime.DerivedCompletes call factory answer

variable {runtime after : ComponentRuntime Data} {call : Registration} {factory : Factory Data}
  {depth : Nat} {code : GxfResult}

theorem types_registerDerived (answer : Except GxfResult Bool) :
    (runtime.registerDerived call factory answer).1.types = runtime.types := by
  rw [registerDerived.eq_def]
  split
  · rfl
  · rfl
  · split
    · rfl
    · split_ifs <;> rfl

/-- Whatever a call returns, it has done to the registry what `register` does. -/
theorem types_registerComponent
    (returned : runtime.registerComponent call factory depth = some (after, code)) :
    after.types = (runtime.types.register call).1 := by
  rw [registerComponent] at returned
  split at returned
  · cases returned
    rfl
  · split_ifs at returned
    · cases returned
      rfl
    · obtain ⟨answer, -, same⟩ := Option.map_eq_some_iff.mp returned
      have result : ((runtime.withRegistered call).registerDerived call factory answer).1.types =
          (runtime.types.register call).1 := types_registerDerived answer
      rw [same] at result
      exact result

/-- The code behind the allocation. -/
theorem registerInstance_succeeds_iff (pointer : Pointer) :
    ((runtime.withRegistered call).registerInstance call factory pointer).2 = .GXF_SUCCESS ↔
      runtime.Declares call factory pointer := by
  rw [registerInstance]
  dsimp only
  split_ifs with failed
  · exact iff_of_false failed fun declares => failed declares.declared
  · exact ⟨fun deallocated => ⟨not_not.mp failed, deallocated⟩,
      fun declares => declares.deallocated⟩

theorem registerDerived_succeeds_iff {answer : Except GxfResult Bool}
    (asked : (runtime.withRegistered call).types.isBase depth call.tid kComponentTid =
      some answer) :
    ((runtime.withRegistered call).registerDerived call factory answer).2 = .GXF_SUCCESS ↔
      runtime.DerivedCompletes call factory answer := by
  cases answer with
  | error code =>
      have notFound := isBase_error asked
      exact iff_of_false (fun success => nomatch notFound.symm.trans success) id
  | ok isComponent =>
      cases isComponent with
      | false => exact iff_of_true rfl trivial
      | true =>
          rw [registerDerived, DerivedCompletes]
          cases factory.allocate call.tid with
          | ok pointer => exact registerInstance_succeeds_iff pointer
          | error code =>
              dsimp only
              split_ifs with isAbstract
              · exact iff_of_true rfl isAbstract
              · exact iff_of_false nofun isAbstract

theorem succeeds_iff_completes (newName : call.name ∉ runtime.types.tids)
    (newTid : call.tid ∉ runtime.types.names) :
    (∀ after code, runtime.registerComponent call factory depth = some (after, code) →
      code = .GXF_SUCCESS) ↔ runtime.Completes call factory depth := by
  have added := (register_of_fresh newName newTid).2
  rw [registerComponent, Completes]
  by_cases noBase : call.baseName = ""
  · rw [if_pos (.inl noBase)] at added
    rw [added]
    dsimp only
    rw [if_pos noBase]
    refine iff_of_true ?_ (.inl noBase)
    rintro after code ⟨⟩
    rfl
  · by_cases known : call.baseName = call.name ∨ call.baseName ∈ runtime.types.tids
    · rw [if_pos (.inr known)] at added
      rw [added, or_iff_right noBase, and_iff_right known]
      dsimp only
      rw [if_neg noBase]
      constructor
      · intro success answer asked
        refine (registerDerived_succeeds_iff asked).mp
          (success ((runtime.withRegistered call).registerDerived call factory answer).1 _ ?_)
        rw [Option.mem_def.mp asked, Option.map_some]
      · intro completes after code returned
        obtain ⟨answer, asked, same⟩ := Option.map_eq_some_iff.mp returned
        have success := (registerDerived_succeeds_iff asked).mpr (completes answer asked)
        rw [same] at success
        exact success
    · rw [if_neg (not_or.mpr ⟨noBase, known⟩)] at added
      rw [added, or_iff_right noBase]
      exact iff_of_false (fun success => nomatch success _ _ rfl) fun completes =>
        known completes.1

/-- A call that fails leaves the registry and the registrar as they were, unless something
goes wrong behind the addition of the type. -/
theorem failsCleanly_iff (runtime : ComponentRuntime Data) (call : Registration)
    (factory : Factory Data) (depth : Nat) :
    runtime.FailsCleanly call factory depth ↔
      call.name ∈ runtime.types.tids ∨ call.tid ∈ runtime.types.names ∨
        runtime.Completes call factory depth := by
  by_cases taken : call.name ∈ runtime.types.tids ∨ call.tid ∈ runtime.types.names
  · refine iff_of_true ?_ (or_assoc.mp (.inl taken))
    intro after code returned failed
    have refused := register_of_taken taken
    rw [registerComponent, withRegistered, refused] at returned
    cases returned
    exact ⟨rfl, rfl, fun _ => rfl⟩
  · rw [← or_assoc, or_iff_right taken]
    obtain ⟨newName, newTid⟩ := not_or.mp taken
    rw [← succeeds_iff_completes newName newTid]
    constructor
    · intro cleanly after code returned
      by_contra failed
      have restored := (cleanly after code returned failed).types
      have registered : call.tid ∈ after.types.names := by
        rw [types_registerComponent returned, (register_of_fresh newName newTid).1]
        exact mem_names_withType.mpr (.inl rfl)
      exact newTid (restored ▸ registered)
    · intro succeeds after code returned failed
      exact absurd (succeeds after code returned) failed

/-- `Y` is registered before its base `X`: the call fails, and after `X` has been registered
it fails again, because `Y` is in the registry. -/
theorem base_after_derived_is_duplicate :
    let factory : Factory Unit :=
      ⟨fun _ => .error .GXF_FACTORY_UNKNOWN_TID, fun _ _ => .GXF_FACTORY_UNKNOWN_TID,
        fun _ => .done .GXF_SUCCESS⟩
    let derived : RegisterOp Unit := ⟨⟨⟨2, 2⟩, "Y", some "X"⟩, factory, 3⟩
    let base : RegisterOp Unit := ⟨⟨⟨1, 1⟩, "X", none⟩, factory, 3⟩
    (registering Unit).outputs (created Unit) [derived, base, derived] =
        [some .GXF_FACTORY_UNKNOWN_CLASS_NAME, some .GXF_SUCCESS, some .GXF_FACTORY_DUPLICATE_TID] ∧
      (registering Unit).outputs (created Unit) [base, derived] =
        [some .GXF_SUCCESS, some .GXF_SUCCESS] ∧
      ¬ (created Unit).FailsCleanly derived.call factory 3 := by
  refine ⟨rfl, rfl, fun cleanly => ?_⟩
  have restored := cleanly _ _ rfl nofun
  have same := restored.later [⟨⟨⟨2, 2⟩, "Y", none⟩,
    ⟨fun _ => .error .GXF_FACTORY_UNKNOWN_TID, fun _ _ => .GXF_FACTORY_UNKNOWN_TID,
      fun _ => .done .GXF_SUCCESS⟩, 3⟩]
  cases same

end ComponentRuntime

end Gxf.Core
