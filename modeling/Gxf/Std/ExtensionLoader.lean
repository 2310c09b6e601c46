import Gxf.Std.EntityWarden.Warden

/-!
# The extension loader

The loader knows for every component type the extension that creates its instances.  An
extension is checked, its types are entered, it registers them with the runtime, and at last
it is put into the list of extensions.
-/

namespace Gxf.Std

open Gxf.Core Gxf.Lib Gxf.Std.EntityWarden

/-- `kMaxExtensions`. -/
def kMaxExtensions : Nat := 1024

/-- `kGxfCoreVersion`. -/
def kGxfCoreVersion : String := "4.1.0"

/-- What an extension says about itself. -/
structure ExtensionInfo where
  id : Tid
  runtimeVersion : String
  deriving DecidableEq, Repr

/-- The results of the functions of an extension that the loader calls. -/
structure Extension where
  checkInfo : Except GxfResult Unit
  info : Except GxfResult ExtensionInfo
  componentTypes : Except GxfResult (List Tid)
  registerComponents : Except GxfResult Unit

/-- The matches of the regular expression `\d+`. -/
def numbers (version : String) : List (List Char) :=
  (version.toList.splitOnP fun c => !c.isDigit).filter fun token => !token.isEmpty

/-- `isCompatible(ver1, ver2)`, which has no result if it reads a token that is not there. -/
def isCompatible (ver1 ver2 : String) : Option Bool := do
  let ver1Tokens := numbers ver1
  let ver2Tokens := numbers ver2
  let major1 ← ver1Tokens[0]?
  let major2 ← ver2Tokens[0]?
  let minor1 ← ver1Tokens[1]?
  let minor2 ← ver2Tokens[1]?
  return (ver1Tokens.length == 3) && (ver2Tokens.length == 3) && (major1 == major2) &&
    (minor1 == minor2)

/-- A version has three numbers, and the first two are those of the runtime. -/
def Compatible (version : String) : Prop :=
  (numbers version).length = 3 ∧ (numbers version).take 2 = (numbers kGxfCoreVersion).take 2

instance (version : String) : Decidable (Compatible version) := inferInstanceAs (Decidable (_ ∧ _))

theorem numbers_kGxfCoreVersion : numbers kGxfCoreVersion = [['4'], ['1'], ['0']] := by
  decide

theorem isCompatible_eq (version : String) : isCompatible version kGxfCoreVersion =
      if 2 ≤ (numbers version).length then some (decide (Compatible version)) else none := by
  simp only [isCompatible, Compatible, numbers_kGxfCoreVersion]
  match numbers version with
  | [] => rfl
  | [_] => rfl
  | major :: minor :: rest =>
      have two : 2 ≤ (major :: minor :: rest).length := Nat.le_add_left 2 rest.length
      rw [if_pos two]
      refine congrArg some (Bool.eq_iff_iff.mpr ?_)
      simp [and_assoc]

/-- The fields of the loader. -/
structure ExtensionLoader where
  componentFactory : Table Tid Pointer
  factories : List Pointer
  extensionFactory : Table Tid Pointer
  handles : List Pointer

namespace ExtensionLoader

/-- The loop of `load` that enters the types of an extension. -/
def enter (extension : Pointer) :
    Table Tid Pointer → List Tid → Table Tid Pointer × Except GxfResult Unit
  | componentFactory, [] => (componentFactory, .ok ())
  | componentFactory, tid :: rest =>
      if tid ∈ componentFactory then (componentFactory, .error .GXF_FACTORY_DUPLICATE_TID)
      else enter extension (componentFactory.insert tid extension) rest

/-- The part of `load` that adds an extension whose components are registered.  The second
`getInfo` answers like the first. -/
def addExtension (loader : ExtensionLoader) (pointer : Pointer) (info : ExtensionInfo)
    (handle : Option Pointer) : ExtensionLoader × Except GxfResult Unit :=
  if kMaxExtensions ≤ loader.factories.length then
    (loader, .error .GXF_EXCEEDING_PREALLOCATED_SIZE)
  else
    ({ loader with
      factories := loader.factories ++ [pointer]
      extensionFactory := loader.extensionFactory.insert info.id pointer
      handles := handle.elim loader.handles (loader.handles.insert ·) }, .ok ())

/-- The part of `load` behind the version check. -/
def loadComponents (loader : ExtensionLoader) (pointer : Pointer) (extension : Extension)
    (info : ExtensionInfo) (handle : Option Pointer) :
    ExtensionLoader × Except GxfResult Unit :=
  match extension.componentTypes with
  | .error code => (loader, .error code)
  | .ok tids =>
      if kMaxComponents < tids.length then (loader, .error .GXF_ARGUMENT_OUT_OF_RANGE)
      else
        let entered := enter pointer loader.componentFactory tids
        let after := { loader with componentFactory := entered.1 }
        match entered.2 with
        | .error code => (after, .error code)
        | .ok () =>
            match extension.registerComponents with
            | .error code => (after, .error code)
            | .ok () => after.addExtension pointer info handle

/-- `load(extension, handle)`, which has no result if the version check has none. -/
def load (loader : ExtensionLoader) (pointer : Pointer) (extension : Extension)
    (handle : Option Pointer) : Option (ExtensionLoader × Except GxfResult Unit) :=
  match extension.checkInfo with
  | .error code => some (loader, .error code)
  | .ok () =>
      match extension.info with
      | .error code => some (loader, .error code)
      | .ok info =>
          match isCompatible info.runtimeVersion kGxfCoreVersion with
          | none => none
          | some false => some (loader, .error .GXF_FACTORY_INCOMPATIBLE)
          | some true => some (loader.loadComponents pointer extension info handle)

/-- `allocate(tid)`, by the extension that is known for the type. -/
def allocate (loader : ExtensionLoader) (extensions : Pointer → Tid → Except GxfResult Pointer)
    (tid : Tid) : Except GxfResult Pointer :=
  match loader.componentFactory.lookup tid with
  | none => .error .GXF_FACTORY_UNKNOWN_TID
  | some extension => extensions extension tid

/-- `deallocate(tid, pointer)`, by the extension that is known for the type. -/
def deallocate (loader : ExtensionLoader)
    (extensions : Pointer → Tid → Pointer → Except GxfResult Unit) (tid : Tid)
    (pointer : Pointer) : Except GxfResult Unit :=
  match loader.componentFactory.lookup tid with
  | none => .error .GXF_FACTORY_UNKNOWN_TID
  | some extension => extensions extension tid pointer

/-- A load that fails changes neither the factory map nor the list of extensions.  So every
type is allocated as before, and other extensions are loaded with the same results. -/
structure Unchanged (before after : ExtensionLoader) : Prop where
  componentFactory : after.componentFactory = before.componentFactory
  factories : after.factories = before.factories
  allocated : ∀ extensions tid, after.allocate extensions tid = before.allocate extensions tid
  loaded : ∀ pointer extension handle, (after.load pointer extension handle).map Prod.snd =
    (before.load pointer extension handle).map Prod.snd

/-- What is expected of a load: the version check, if it is reached, reads no missing token
and accepts the compatible versions, and a load that fails changes nothing. -/
structure LoadsCleanly (loader : ExtensionLoader) (pointer : Pointer) (extension : Extension)
    (handle : Option Pointer) : Prop where
  version : ∀ info, extension.checkInfo = .ok () → extension.info = .ok info →
    ∃ accepted, isCompatible info.runtimeVersion kGxfCoreVersion = some accepted ∧
      (accepted = true ↔ Compatible info.runtimeVersion)
  unchanged : ∀ after code, loader.load pointer extension handle = some (after, .error code) →
    Unchanged loader after

/-- All types are new, the extension registers them, and there is room for it. -/
structure Accepts (loader : ExtensionLoader) (extension : Extension) (tids : List Tid) : Prop where
  nodup : tids.Nodup
  new : ∀ tid ∈ tids, tid ∉ loader.componentFactory
  registered : extension.registerComponents = .ok ()
  room : loader.factories.length < kMaxExtensions

/-- A load enters no type that it does not keep: there is none, or the first one is taken, or
everything is accepted. -/
def EntersOnlyKept (loader : ExtensionLoader) (extension : Extension) (tids : List Tid) : Prop :=
  tids = [] ∨ (∃ tid ∈ tids.head?, tid ∈ loader.componentFactory) ∨ loader.Accepts extension tids

/-- The condition for clean loads: the version has two numbers at least, and the types of a
compatible extension meet the one above. -/
structure CanLoad (loader : ExtensionLoader) (extension : Extension) (info : ExtensionInfo) :
    Prop where
  numbers : 2 ≤ (numbers info.runtimeVersion).length
  types : Compatible info.runtimeVersion → ∀ tids, extension.componentTypes = .ok tids →
    tids.length ≤ kMaxComponents → loader.EntersOnlyKept extension tids

variable {pointer : Pointer} {componentFactory : Table Tid Pointer} {tids : List Tid}

theorem mem_enter {tid : Tid} (member : tid ∈ componentFactory) :
    tid ∈ (enter pointer componentFactory tids).1 := by
  induction tids generalizing componentFactory with
  | nil => exact member
  | cons first rest ih =>
      rw [enter]
      split_ifs
      · exact member
      · exact ih ((AList.mem_insert componentFactory).mpr (.inr member))

theorem enter_eq_self_iff : (enter pointer componentFactory tids).1 = componentFactory ↔
      tids = [] ∨ ∃ tid ∈ tids.head?, tid ∈ componentFactory := by
  cases tids with
  | nil => exact iff_of_true rfl (.inl rfl)
  | cons first rest =>
      rw [enter]
      split_ifs with known
      · exact iff_of_true rfl (.inr ⟨first, rfl, known⟩)
      · refine iff_of_false (fun same => ?_) ?_
        · have entered : first ∈ (enter pointer (componentFactory.insert first pointer) rest).1 :=
            mem_enter ((AList.mem_insert componentFactory).mpr (.inl rfl))
          exact known (same ▸ entered)
        · rintro (⟨⟨⟩⟩ | ⟨tid, ⟨⟩, member⟩)
          exact known member

/-- The loop runs to its end exactly if all types are new. -/
theorem enter_eq_ok_iff : (enter pointer componentFactory tids).2 = .ok () ↔
      tids.Nodup ∧ ∀ tid ∈ tids, tid ∉ componentFactory := by
  induction tids generalizing componentFactory with
  | nil => exact iff_of_true rfl ⟨List.nodup_nil, nofun⟩
  | cons first rest ih =>
      rw [enter, List.nodup_cons, List.forall_mem_cons]
      split_ifs with known
      · exact iff_of_false nofun fun both => both.2.1 known
      · rw [ih]
        simp only [AList.mem_insert, not_or]
        constructor
        · rintro ⟨nodup, new⟩
          exact ⟨⟨fun again => (new first again).1 rfl, nodup⟩, known,
            fun tid member => (new tid member).2⟩
        · rintro ⟨⟨once, nodup⟩, -, new⟩
          exact ⟨nodup, fun tid member => ⟨fun same => once (same ▸ member), new tid member⟩⟩

/-! ## Loads -/

variable {loader after : ExtensionLoader} {extension : Extension} {info : ExtensionInfo}
  {handle : Option Pointer}

theorem Unchanged.rfl : Unchanged loader loader :=
  ⟨.refl _, .refl _, fun _ _ => .refl _, fun _ _ _ => .refl _⟩

/-- The loader with the types that the loop of `load` has entered. -/
def entered (loader : ExtensionLoader) (pointer : Pointer) (tids : List Tid) : ExtensionLoader :=
  { loader with componentFactory := (enter pointer loader.componentFactory tids).1 }

theorem loadComponents_cases (loader : ExtensionLoader) (pointer : Pointer)
    (info : ExtensionInfo) (handle : Option Pointer)
    (types : extension.componentTypes = .ok tids) (fits : tids.length ≤ kMaxComponents) :
    (∃ code, loader.loadComponents pointer extension info handle =
        (loader.entered pointer tids, .error code) ∧
      ¬ ((enter pointer loader.componentFactory tids).2 = .ok () ∧
        extension.registerComponents = .ok () ∧ loader.factories.length < kMaxExtensions)) ∨
      (∃ last, loader.loadComponents pointer extension info handle = (last, .ok ()) ∧
        (enter pointer loader.componentFactory tids).2 = .ok () ∧
        extension.registerComponents = .ok () ∧ loader.factories.length < kMaxExtensions) := by
  rw [loadComponents, types]
  dsimp only
  rw [if_neg (Nat.not_lt.mpr fits)]
  cases (enter pointer loader.componentFactory tids).2 with
  | error code => exact .inl ⟨code, rfl, fun all => nomatch all.1⟩
  | ok done =>
      cases extension.registerComponents with
      | error code => exact .inl ⟨code, rfl, fun all => nomatch all.2.1⟩
      | ok done =>
          dsimp only
          rw [addExtension]
          split_ifs with full
          · exact .inl ⟨_, rfl, fun all => Nat.not_lt.mpr full all.2.2⟩
          · exact .inr ⟨_, rfl, rfl, rfl, Nat.not_le.mp full⟩

theorem loadComponents_unchanged_iff :
    (∀ after code, loader.loadComponents pointer extension info handle = (after, .error code) →
      Unchanged loader after) ↔
      ∀ tids, extension.componentTypes = .ok tids → tids.length ≤ kMaxComponents →
        loader.EntersOnlyKept extension tids := by
  constructor
  · intro unchanged tids types fits
    rcases loader.loadComponents_cases pointer info handle types fits with
      ⟨code, failed, -⟩ | ⟨last, -, new, registered, room⟩
    · have same := (unchanged _ code failed).componentFactory
      exact or_assoc.mp (.inl (enter_eq_self_iff.mp same))
    · obtain ⟨nodup, new⟩ := enter_eq_ok_iff.mp new
      exact .inr (.inr ⟨nodup, new, registered, room⟩)
  · intro kept after code failed
    cases types : extension.componentTypes with
    | error other =>
        rw [loadComponents, types] at failed
        cases failed
        exact .rfl
    | ok tids =>
        by_cases tooLong : kMaxComponents < tids.length
        · rw [loadComponents, types] at failed
          dsimp only at failed
          rw [if_pos tooLong] at failed
          cases failed
          exact .rfl
        · rcases loader.loadComponents_cases pointer info handle types
            (Nat.not_lt.mp tooLong) with ⟨other, same, fails⟩ | ⟨last, same, -⟩
          · have isLast : loader.entered pointer tids = after :=
              congrArg Prod.fst (same.symm.trans failed)
            have enters := kept tids types (Nat.not_lt.mp tooLong)
            rcases or_assoc.mpr enters with none | accepts
            · have back : loader.entered pointer tids = loader := by
                rw [entered, enter_eq_self_iff.mpr none]
              rw [← isLast, back]
              exact .rfl
            · exact absurd ⟨enter_eq_ok_iff.mpr ⟨accepts.nodup, accepts.new⟩,
                accepts.registered, accepts.room⟩ fails
          · cases same.symm.trans failed

/-- A load reads no missing token and changes nothing when it fails, exactly if the version
has two numbers at least, and the load of a compatible extension enters no type, or keeps
all of them. -/
theorem loadsCleanly_iff (loader : ExtensionLoader) (pointer : Pointer) (extension : Extension)
    (handle : Option Pointer) :
    loader.LoadsCleanly pointer extension handle ↔
      ∀ info, extension.checkInfo = .ok () → extension.info = .ok info →
        loader.CanLoad extension info := by
  constructor
  · intro clean info checked isInfo
    obtain ⟨accepted, compatible, -⟩ := clean.version info checked isInfo
    rw [isCompatible_eq] at compatible
    split_ifs at compatible with two
    refine ⟨two, fun isCompatible => ?_⟩
    have continues (after : ExtensionLoader) (code : GxfResult)
        (failed : loader.loadComponents pointer extension info handle = (after, .error code)) :
        Unchanged loader after := by
      apply clean.unchanged after code
      rw [load, checked, isInfo]
      dsimp only
      rw [isCompatible_eq, if_pos two, decide_eq_true isCompatible]
      exact congrArg some failed
    exact loadComponents_unchanged_iff.mp continues
  · intro can
    constructor
    · intro info checked isInfo
      refine ⟨decide (Compatible info.runtimeVersion), ?_, decide_eq_true_iff⟩
      rw [isCompatible_eq, if_pos (can info checked isInfo).numbers]
    · intro after code failed
      rw [load] at failed
      split at failed
      · cases failed
        exact .rfl
      · case _ checked =>
          split at failed
          · cases failed
            exact .rfl
          · case _ info isInfo =>
              have canLoad := can info checked isInfo
              rw [isCompatible_eq, if_pos canLoad.numbers] at failed
              by_cases compatible : Compatible info.runtimeVersion
              · rw [decide_eq_true compatible] at failed
                exact loadComponents_unchanged_iff.mpr (canLoad.types compatible) after code
                  (Option.some.inj failed)
              · rw [decide_eq_false compatible] at failed
                cases failed
                exact .rfl

/-- A loader without extensions. -/
def empty : ExtensionLoader := ⟨∅, [], ∅, []⟩

/-- An extension that lists a type twice is refused, but stays the one that allocates it, so
that the corrected extension is refused as well.  A version of one number is not checked
without reading a token that is not there. -/
theorem duplicate_type_stays_routed :
    let duplicated : Extension := ⟨.ok (), .ok ⟨⟨1, 1⟩, "4.1.0"⟩, .ok [⟨2, 2⟩, ⟨2, 2⟩], .ok ()⟩
    let corrected : Extension := ⟨.ok (), .ok ⟨⟨1, 1⟩, "4.1.0"⟩, .ok [⟨2, 2⟩], .ok ()⟩
    let first := empty.load 100 duplicated none
    first.map Prod.snd = some (.error .GXF_FACTORY_DUPLICATE_TID) ∧
      first.map (fun result => result.1.allocate (fun extension _ => .ok extension) ⟨2, 2⟩) =
        some (.ok 100) ∧
      first.bind (fun result => (result.1.load 200 corrected none).map Prod.snd) =
        some (.error .GXF_FACTORY_DUPLICATE_TID) ∧
      (empty.load 200 corrected none).map Prod.snd = some (.ok ()) ∧
      isCompatible "4" kGxfCoreVersion = none ∧
      ¬ empty.LoadsCleanly 100 duplicated none := by
  refine ⟨rfl, rfl, rfl, rfl, rfl, fun clean => ?_⟩
  have same := (clean.unchanged _ _ rfl).allocated (fun extension _ => .ok extension) ⟨2, 2⟩
  cases same

end ExtensionLoader

end Gxf.Std
