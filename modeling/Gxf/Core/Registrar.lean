import Gxf.Core.ParameterStorage.Storage
import Gxf.Core.TypeRegistry

/-!
# The registrar

A component declares its parameters and resources through the registrar.  One object serves
all components: where it points to decides whether the declarations are recorded for the
type, or made in the parameter storage for one component.
-/

namespace Gxf.Core

open Gxf.Lib Gxf.Std Gxf.Std.EntityWarden

/-- `ParameterInfo<T>`, with the type `T` and the `Parameter<T>` it is declared for.
`handleTypename` is the name of `S` where `T` is `Handle<S>`. -/
structure ParameterInfo (Data : Type) where
  type : ParameterType
  handleTypename : Option String
  isArithmetic : Bool
  frontend : Nat
  key : Option String
  headline : Option String
  description : Option String
  platformInformation : Option String
  valueDefault : Option {content : ParameterValue Data // content.type = type}
  valueRange : Option (ParameterValue Data × ParameterValue Data × ParameterValue Data)
  flags : UInt32
  rank : Int
  shape : List Int

/-- `ParameterInfo<T>::kMaxRank`. -/
def ParameterInfo.kMaxRank : Nat := 8

/-- `ComponentParameterInfo`. -/
structure ComponentParameterInfo (Data : Type) where
  key : String
  headline : String
  description : String
  platformInformation : String
  type : ParameterType
  handleTid : Tid
  isArithmetic : Bool
  flags : UInt32
  defaultValue : Option (ParameterValue Data)
  valueRange : Option (ParameterValue Data × ParameterValue Data × ParameterValue Data)
  rank : Int
  shape : List Int

/-- `ParameterRegistrar::ComponentInfo`. -/
structure ComponentInfo (Data : Type) where
  typeName : String
  parameterKeys : List String
  parameters : Table String (ComponentParameterInfo Data)

/-- `component_parameters` of the parameter registrar. -/
abbrev ParameterRegistrar (Data : Type) := Table Tid (ComponentInfo Data)

/-- `GxfTidNull()`. -/
def gxfTidNull : Tid := ⟨0, 0⟩

namespace ParameterRegistrar

variable {Data : Type} (registrar : ParameterRegistrar Data)

/-- `addParameterlessType(tid, type_name)`, which replaces what was recorded for the type. -/
def addParameterlessType (tid : Tid) (typeName : String) : ParameterRegistrar Data :=
  registrar.insert tid ⟨typeName, [], ∅⟩

/-- `tidFromTypename(type_name)`, which goes over the types in the order of their ids. -/
def tidFromTypename (typeName : String) : Except GxfResult Tid :=
  let isNamed (tid : Tid) : Bool := (registrar.lookup tid).any fun info => info.typeName == typeName
  match (registrar.keys.insertionSort tidLt).find? isNamed with
  | none => .error .GXF_ENTITY_COMPONENT_NOT_FOUND
  | some tid => .ok tid

/-- `registerComponentParameterImpl(tid, type_name, info)`. -/
def registerComponentParameterImpl (tid : Tid) (typeName : String)
    (info : ComponentParameterInfo Data) : ParameterRegistrar Data × Except GxfResult Unit :=
  let found := (registrar.lookup tid).getD ⟨"", [], ∅⟩
  if info.key ∈ found.parameters then
    (registrar.insert tid found, .error .GXF_PARAMETER_ALREADY_REGISTERED)
  else
    (registrar.insert tid
      { typeName
        parameterKeys := found.parameterKeys ++ [info.key]
        parameters := found.parameters.insert info.key info }, .ok ())

/-- The id of the type of a handle, which other parameters do not have. -/
def handleTid (info : ParameterInfo Data) : Except GxfResult Tid :=
  match info.handleTypename with
  | none => .ok gxfTidNull
  | some typeName => registrar.tidFromTypename typeName

/-- `registerComponentParameter<T>(tid, type_name, registrar_info)`. -/
def registerComponentParameter (tid : Tid) (typeName : String) (info : ParameterInfo Data) :
    ParameterRegistrar Data × Except GxfResult Unit :=
  match info.key, info.headline, info.description with
  | some key, some headline, some description =>
      if ParameterInfo.kMaxRank < info.rank then (registrar, .error .GXF_ARGUMENT_OUT_OF_RANGE)
      else
        match registrar.handleTid info with
        | .error code => (registrar, .error code)
        | .ok handleTid =>
            registrar.registerComponentParameterImpl tid typeName
              { key, headline, description, handleTid
                platformInformation := info.platformInformation.getD ""
                type := info.type
                isArithmetic := info.isArithmetic
                flags := info.flags
                defaultValue := info.valueDefault.map Subtype.val
                valueRange := info.valueRange
                rank := info.rank
                shape := (List.range ParameterInfo.kMaxRank).map fun (index : Nat) =>
                  if Int.ofNat index < info.rank then info.shape.getD index 1 else 1 }
  | _, _, _ => (registrar, .error .GXF_ARGUMENT_NULL)

end ParameterRegistrar

/-- `ResourceRegistrar::ComponentInfo`, with the description of every resource. -/
structure ComponentResourceInfo where
  typeName : String
  resources : Table Tid String

/-- `component_resources_` of the resource registrar. -/
abbrev ResourceRegistrar := Table Tid ComponentResourceInfo

/-- `registerComponentResource<T>(comp_tid, comp_type_name, resource_description)`, where
`resourceTid` is what the runtime knows as the id of `T`. -/
def ResourceRegistrar.registerComponentResource (registrar : ResourceRegistrar) (tid : Tid)
    (typeName description : String) (resourceTid : Except GxfResult Tid) :
    ResourceRegistrar × Except GxfResult Unit :=
  let found := (registrar.lookup tid).getD ⟨"", ∅⟩
  match resourceTid with
  | .error code => (registrar.insert tid found, .error code)
  | .ok resourceTid =>
      if resourceTid ∈ found.resources then
        (registrar.insert tid found, .error .GXF_PARAMETER_ALREADY_REGISTERED)
      else
        (registrar.insert tid ⟨typeName, found.resources.insert resourceTid description⟩, .ok ())

/-- What a pointer of the registrar points to: nothing, the object of the runtime, or one
that lives during a single registration. -/
inductive Target where
  | nullptr
  | runtime
  | temporary
  deriving DecidableEq, Repr

/-- The fields of `Registrar`. -/
structure Registrar where
  parameterStorage : Target
  parameterRegistrar : Target
  resourceRegistrar : Target
  resourceManager : Target
  tid : Tid
  cid : Uid
  typeName : String
  deriving DecidableEq, Repr

/-- The registrar and what it can point to. -/
structure Declarations (Data : Type) where
  registrar : Registrar
  parameters : ParameterStorage Data
  temporary : ParameterStorage Data
  parameterRegistrar : ParameterRegistrar Data
  resourceRegistrar : ResourceRegistrar

/-- What a component does in `registerInterface`: it declares parameters and resources one
after the other, may look at the results, and returns a code. -/
inductive Interface (Data : Type) where
  | done (code : GxfResult)
  | parameter (info : ParameterInfo Data) (next : Except GxfResult Unit → Interface Data)
  | resource (typename description : String) (next : Except GxfResult Unit → Interface Data)
  | registerParameterlessComponent (next : Interface Data)

namespace Declarations

variable {Data : Type} (declarations : Declarations Data)

/-- `registerParameter<T>(...)` of a storage, for the component the registrar is set to. -/
def store (storage : ParameterStorage Data) (info : ParameterInfo Data) :
    ParameterStorage Data × Except GxfResult Unit :=
  storage.registerParameter info.type (some info.frontend) declarations.registrar.cid info.key
    info.headline info.description info.valueDefault info.flags

/-- The second part of `parameterImpl`. -/
def populate (info : ParameterInfo Data) : Declarations Data × Except GxfResult Unit :=
  match declarations.registrar.parameterStorage with
  | .nullptr => (declarations, .error .GXF_CONTEXT_INVALID)
  | .runtime =>
      let stored := declarations.store declarations.parameters info
      ({ declarations with parameters := stored.1 }, stored.2)
  | .temporary =>
      let stored := declarations.store declarations.temporary info
      ({ declarations with temporary := stored.1 }, stored.2)

/-- `parameterImpl<T>(parameter, parameter_info)`. -/
def parameterImpl (info : ParameterInfo Data) : Declarations Data × Except GxfResult Unit :=
  if declarations.registrar.parameterRegistrar = .nullptr then declarations.populate info
  else
    let recorded := declarations.parameterRegistrar.registerComponentParameter
      declarations.registrar.tid declarations.registrar.typeName info
    let after := { declarations with parameterRegistrar := recorded.1 }
    match recorded.2 with
    | .error code => (after, .error code)
    | .ok () => after.populate info

/-- `registerParameterlessComponent()`. -/
def registerParameterlessComponent : Declarations Data :=
  if declarations.registrar.parameterRegistrar = .nullptr then declarations
  else
    { declarations with
      parameterRegistrar := declarations.parameterRegistrar.addParameterlessType
        declarations.registrar.tid declarations.registrar.typeName }

/-- `resource<T>(resource, description)`.  To connect the resource to the resource manager
always succeeds, and changes the component only. -/
def resource (types : TypeRegistry) (typename description : String) :
    Declarations Data × Except GxfResult Unit :=
  if declarations.registrar.resourceRegistrar = .nullptr then (declarations, .ok ())
  else
    let recorded := declarations.resourceRegistrar.registerComponentResource
      declarations.registrar.tid declarations.registrar.typeName description
      (types.idFromName typename)
    ({ declarations with resourceRegistrar := recorded.1 }, recorded.2)

/-- `registerInterface(registrar)` of a component. -/
def registerInterface (types : TypeRegistry) :
    Interface Data → Declarations Data → Declarations Data × GxfResult
  | .done code, declarations => (declarations, code)
  | .parameter info next, declarations =>
      let declared := declarations.parameterImpl info
      registerInterface types (next declared.2) declared.1
  | .resource typename description next, declarations =>
      let declared := declarations.resource types typename description
      registerInterface types (next declared.2) declared.1
  | .registerParameterlessComponent next, declarations =>
      registerInterface types next declarations.registerParameterlessComponent

variable {declarations}

end Declarations

end Gxf.Core
