import Gxf.Lib.InverseTables
import Gxf.Lib.Run
import Gxf.Std.EntityWarden.Warden
import Mathlib.Data.List.Sort

/-!
# The type registry

The registry maps the ids of types to their names and back, and keeps for every type the set
of its bases.  Whether a type is a base of another one is found by a search over these sets.
-/

namespace Gxf.Core

open Gxf.Lib Gxf.Std.EntityWarden Relation

/-- `operator<` of `gxf_tid_t`. -/
def tidLt (left right : Tid) : Prop :=
  left.hash1 < right.hash1 ∨ (left.hash1 = right.hash1 ∧ left.hash2 < right.hash2)

instance : DecidableRel tidLt := fun _ _ => inferInstanceAs (Decidable (_ ∨ _))

/-- The fields of the registry.  A set of bases is listed in the order of the ids. -/
structure TypeRegistry where
  names : Table Tid String
  tids : Table String Tid
  bases : Table Tid (List Tid)

/-- The first answer of a loop that goes on while the answer is `false`. -/
def firstAnswer (ask : Tid → Option (Except GxfResult Bool)) :
    List Tid → Option (Except GxfResult Bool)
  | [] => some (.ok false)
  | middle :: rest =>
      match ask middle with
      | none => none
      | some (.error code) => some (.error code)
      | some (.ok true) => some (.ok true)
      | some (.ok false) => firstAnswer ask rest

namespace TypeRegistry

/-- A registry without types. -/
def empty : TypeRegistry := ⟨∅, ∅, ∅⟩

/-- `add(tid, component_type_name)`. -/
def add (registry : TypeRegistry) (tid : Tid) (componentTypeName : String) :
    Except GxfResult TypeRegistry :=
  if componentTypeName ∈ registry.tids then .error .GXF_FACTORY_DUPLICATE_TID
  else if tid ∈ registry.names then .error .GXF_FACTORY_DUPLICATE_TID
  else .ok { registry with
    tids := registry.tids.insert componentTypeName tid
    names := registry.names.insert tid componentTypeName }

/-- `id_from_name(component_type_name)`. -/
def idFromName (registry : TypeRegistry) (componentTypeName : String) : Except GxfResult Tid :=
  match registry.tids.lookup componentTypeName with
  | none => .error .GXF_FACTORY_UNKNOWN_CLASS_NAME
  | some tid => .ok tid

/-- `insert(tid)` of a set of ids. -/
def insertTid (tid : Tid) (set : List Tid) : List Tid :=
  if tid ∈ set then set else set.orderedInsert tidLt tid

/-- `bases_[tid]`, which is empty for a type that has no set yet. -/
def basesOf (registry : TypeRegistry) (tid : Tid) : List Tid := (registry.bases.lookup tid).getD []

/-- `add_base(component_type_name, base_type_name)`. -/
def addBase (registry : TypeRegistry) (componentTypeName baseTypeName : String) :
    Except GxfResult TypeRegistry := do
  let componentTid ← registry.idFromName componentTypeName
  let baseTid ← registry.idFromName baseTypeName
  return { registry with
    bases := registry.bases.insert componentTid
      (insertTid baseTid (registry.basesOf componentTid)) }

/-- `is_base(derived, base)`, as far as a stack of `fuel` calls goes. -/
def isBase (registry : TypeRegistry) : Nat → Tid → Tid → Option (Except GxfResult Bool)
  | 0, _, _ => none
  | fuel + 1, derived, base =>
      if derived ∉ registry.names then some (.error .GXF_QUERY_NOT_FOUND)
      else if base ∉ registry.names then some (.error .GXF_QUERY_NOT_FOUND)
      else
        match registry.bases.lookup derived with
        | none => some (.ok false)
        | some set =>
            if base ∈ set then some (.ok true)
            else firstAnswer (fun middle => isBase registry fuel middle base) set

/-- `name(tid)`. -/
def name (registry : TypeRegistry) (tid : Tid) : Except GxfResult String :=
  match registry.names.lookup tid with
  | none => .error .GXF_QUERY_NOT_FOUND
  | some componentTypeName => .ok componentTypeName

end TypeRegistry

/-- The arguments of `GxfRegisterComponent(tid, name, base)`. -/
structure Registration where
  tid : Tid
  name : String
  base : Option String
  deriving DecidableEq

def Registration.baseName (call : Registration) : String := call.base.getD ""

/-- The tid of `nvidia::gxf::Component`. -/
def kComponentTid : Tid := ⟨0x75bf23d5199843b7, 0xbaaf16853d783bd1⟩

namespace TypeRegistry

/-- What `GxfRegisterComponent(tid, name, base)` does with the registry: the type is added,
and then its base.  Nothing that comes after it changes the registry. -/
def register (registry : TypeRegistry) (call : Registration) :
    TypeRegistry × Except GxfResult Unit :=
  match registry.add call.tid call.name with
  | .error code => (registry, .error code)
  | .ok added =>
      if call.baseName = "" then (added, .ok ())
      else
        match added.addBase call.name call.baseName with
        | .error code => (added, .error code)
        | .ok linked => (linked, .ok ())

def registrations : System TypeRegistry Registration (Except GxfResult Unit) where
  step registry call := registry.register call

/-- The registry of a runtime that was created. -/
def created : TypeRegistry := (empty.register ⟨kComponentTid, "nvidia::gxf::Component", some ""⟩).1

def Edge (registry : TypeRegistry) (derived base : Tid) : Prop :=
  ∃ set ∈ registry.bases.lookup derived, base ∈ set

/-- The search returns an answer, however much more stack there is. -/
def Returns (registry : TypeRegistry) (derived base : Tid) (answer : Except GxfResult Bool) :
    Prop :=
  ∃ depth, ∀ fuel, depth ≤ fuel → registry.isBase fuel derived base = some answer

/-- The search returns for all registered types, and says whether one or more edges lead to
the base. -/
def Answers (registry : TypeRegistry) : Prop :=
  ∀ derived ∈ registry.names, ∀ base ∈ registry.names, ∃ answer,
    registry.Returns derived base (.ok answer) ∧
      (answer = true ↔ TransGen registry.Edge derived base)

/-- A call adds a type with its own name as its base. -/
def NamesItself (registry : TypeRegistry) (call : Registration) : Prop :=
  call.name ≠ "" ∧ call.baseName = call.name ∧ call.name ∉ registry.tids ∧ call.tid ∉ registry.names

instance (registry : TypeRegistry) (call : Registration) :
    Decidable (registry.NamesItself call) := inferInstanceAs (Decidable (_ ∧ _))

variable {registry after : TypeRegistry}

/-- Every edge leads to a registered type, of a smaller rank. -/
structure Ranked (registry : TypeRegistry) (rank : Tid → Nat) : Prop where
  known : ∀ derived base, registry.Edge derived base → base ∈ registry.names
  smaller : ∀ derived base, registry.Edge derived base → rank base < rank derived

variable {ask : Tid → Option (Except GxfResult Bool)} {code : GxfResult} {rank : Tid → Nat}
  {base derived : Tid}

theorem firstAnswer_eq {holds : Tid → Bool}
    (set : List Tid) (answers : ∀ middle ∈ set, ask middle = some (.ok (holds middle))) :
    firstAnswer ask set = some (.ok (set.any holds)) := by
  induction set with
  | nil => rfl
  | cons middle rest ih =>
      have first := answers middle List.mem_cons_self
      have later := ih fun other member => answers other (List.mem_cons_of_mem middle member)
      rw [firstAnswer, first, List.any_cons]
      cases holds middle with
      | true => rfl
      | false => exact later

theorem error_of_firstAnswer {set : List Tid} {expected : GxfResult}
    (errors : ∀ middle code, ask middle = some (.error code) → code = expected)
    (failed : firstAnswer ask set = some (.error code)) : code = expected := by
  induction set with
  | nil => cases failed
  | cons middle rest ih =>
      rw [firstAnswer] at failed
      split at failed
      · cases failed
      · case _ asked =>
          cases failed
          exact errors middle code asked
      · cases failed
      · exact ih failed

/-- A search from a type of rank `n` needs `n + 1` nested calls. -/
theorem Ranked.isBase_eq (ranked : registry.Ranked rank)
    (isKnown : base ∈ registry.names) [∀ derived, Decidable (TransGen registry.Edge derived base)]
    (fuel : Nat) (derived : Tid) (registered : derived ∈ registry.names)
    (enough : rank derived < fuel) :
    registry.isBase fuel derived base =
      some (.ok (decide (TransGen registry.Edge derived base))) := by
  induction fuel generalizing derived with
  | zero => exact absurd enough (Nat.not_lt_zero _)
  | succ fuel ih =>
      rw [isBase, if_neg (not_not_intro registered), if_neg (not_not_intro isKnown)]
      cases stored : registry.bases.lookup derived with
      | none =>
          have noEdge : ¬ TransGen registry.Edge derived base := by
            intro path
            obtain ⟨middle, ⟨set, isSet, -⟩, -⟩ := TransGen.head'_iff.mp path
            rw [stored] at isSet
            cases isSet
          rw [decide_eq_false noEdge]
      | some set =>
          have edge (middle : Tid) (member : middle ∈ set) : registry.Edge derived middle :=
            ⟨set, stored, member⟩
          dsimp only
          split_ifs with direct
          · rw [decide_eq_true (TransGen.single (edge base direct))]
          · rw [firstAnswer_eq set fun middle member => ih middle
              (ranked.known derived middle (edge middle member))
              (Nat.lt_of_lt_of_le (ranked.smaller derived middle (edge middle member))
                (Nat.lt_succ_iff.mp enough))]
            congr 2
            rw [Bool.eq_iff_iff, List.any_eq_true, decide_eq_true_iff]
            constructor
            · rintro ⟨middle, member, path⟩
              exact TransGen.head (edge middle member) (of_decide_eq_true path)
            · intro path
              obtain ⟨middle, ⟨same, isSet, member⟩, rest⟩ := TransGen.head'_iff.mp path
              rw [stored] at isSet
              cases isSet
              refine ⟨middle, member, decide_eq_true ?_⟩
              rcases reflTransGen_iff_eq_or_transGen.mp rest with same | path
              · exact absurd (same ▸ member) direct
              · exact path

theorem Ranked.answers (ranked : registry.Ranked rank) :
    registry.Answers := by
  classical
  intro derived registered base isKnown
  refine ⟨decide (TransGen registry.Edge derived base), ⟨rank derived + 1, ?_⟩,
    decide_eq_true_iff⟩
  exact fun fuel enough => ranked.isBase_eq isKnown fuel derived registered enough

theorem isBase_error {fuel : Nat}
    (failed : registry.isBase fuel derived base = some (.error code)) :
    code = .GXF_QUERY_NOT_FOUND := by
  induction fuel generalizing derived code with
  | zero => cases failed
  | succ fuel ih =>
      rw [isBase] at failed
      split at failed
      · cases failed
        rfl
      · split at failed
        · cases failed
          rfl
        · split at failed
          · cases failed
          · split at failed
            · cases failed
            · exact error_of_firstAnswer (fun _ _ => ih) failed

theorem isBase_of_loop {loop : Tid} (isLoop : registry.bases.lookup loop = some [loop])
    (registered : loop ∈ registry.names) (isKnown : base ∈ registry.names)
    (different : base ≠ loop) (fuel : Nat) : registry.isBase fuel loop base = none := by
  induction fuel with
  | zero => rfl
  | succ fuel ih =>
      rw [isBase, if_neg (not_not_intro registered), if_neg (not_not_intro isKnown), isLoop]
      dsimp only
      rw [if_neg (fun member => different (List.mem_singleton.mp member)), firstAnswer, ih]

/-! ## Registrations -/

def withType (registry : TypeRegistry) (call : Registration) : TypeRegistry :=
  { registry with
    tids := registry.tids.insert call.name call.tid
    names := registry.names.insert call.tid call.name }

/-- Only registered types have names and bases. -/
structure Named (registry : TypeRegistry) : Prop where
  tids : ∀ name, ∀ tid ∈ registry.tids.lookup name, tid ∈ registry.names
  bases : ∀ tid ∈ registry.bases, tid ∈ registry.names

variable {call : Registration}

theorem add_eq_ok_iff : registry.add call.tid call.name = .ok after ↔
      call.name ∉ registry.tids ∧ call.tid ∉ registry.names ∧ registry.withType call = after := by
  rw [add]
  split_ifs with known taken
  · exact iff_of_false nofun fun fresh => fresh.1 known
  · exact iff_of_false nofun fun fresh => fresh.2.1 taken
  · rw [and_iff_right known, and_iff_right taken]
    exact ⟨Except.ok.inj, congrArg Except.ok⟩

variable {name : String} {tid : Tid}

theorem idFromName_eq_ok_iff :
    registry.idFromName name = .ok tid ↔ registry.tids.lookup name = some tid := by
  rw [idFromName]
  cases registry.tids.lookup name with
  | none => exact iff_of_false nofun nofun
  | some found => exact ⟨fun same => congrArg some (Except.ok.inj same),
      fun same => congrArg Except.ok (Option.some.inj same)⟩

theorem addBase_eq {baseName : String}
    (own : registry.idFromName name = .ok tid) (found : registry.idFromName baseName = .ok base) :
    registry.addBase name baseName = .ok { registry with
      bases := registry.bases.insert tid (insertTid base (registry.basesOf tid)) } := by
  rw [addBase, own, found]
  rfl

theorem register_of_taken (taken : call.name ∈ registry.tids ∨ call.tid ∈ registry.names) :
    registry.register call = (registry, .error .GXF_FACTORY_DUPLICATE_TID) := by
  have refused : registry.add call.tid call.name = .error .GXF_FACTORY_DUPLICATE_TID := by
    rw [add]
    split_ifs with isName isTid
    · rfl
    · rfl
    · exact absurd taken (not_or.mpr ⟨isName, isTid⟩)
  rw [register, refused]

theorem register_of_fresh (newName : call.name ∉ registry.tids)
    (newTid : call.tid ∉ registry.names) :
    (registry.register call).1.names = (registry.withType call).names ∧ (registry.register call).2 =
        if call.baseName = "" ∨ call.baseName = call.name ∨ call.baseName ∈ registry.tids
        then .ok () else .error .GXF_FACTORY_UNKNOWN_CLASS_NAME := by
  have added := add_eq_ok_iff.mpr ⟨newName, newTid, rfl⟩
  rw [register, added]
  dsimp only
  by_cases noBase : call.baseName = ""
  · rw [if_pos noBase, if_pos (.inl noBase)]
    exact ⟨rfl, rfl⟩
  · have own : (registry.withType call).idFromName call.name = .ok call.tid :=
      idFromName_eq_ok_iff.mpr (AList.lookup_insert registry.tids)
    have known : call.baseName = call.name ∨ call.baseName ∈ registry.tids ↔
        ((registry.withType call).tids.lookup call.baseName).isSome :=
      (AList.mem_insert registry.tids).symm.trans AList.lookup_isSome.symm
    simp only [if_neg noBase, or_iff_right noBase, known]
    cases found : (registry.withType call).tids.lookup call.baseName with
    | none =>
        have unknown : (registry.withType call).idFromName call.baseName =
            .error .GXF_FACTORY_UNKNOWN_CLASS_NAME := by rw [idFromName, found]
        rw [addBase, own, unknown]
        exact ⟨rfl, rfl⟩
    | some base =>
        rw [addBase_eq own (idFromName_eq_ok_iff.mpr found)]
        exact ⟨rfl, rfl⟩

theorem Named.register_cases (named : registry.Named) (call : Registration) :
    (registry.register call).1 = registry ∧ ¬ registry.NamesItself call ∨
      call.tid ∉ registry.names ∧
        ((registry.register call).1 = registry.withType call ∧ ¬ registry.NamesItself call ∨
          ∃ base, (registry.withType call).tids.lookup call.baseName = some base ∧
            (registry.NamesItself call ↔ base = call.tid) ∧
            (registry.register call).1 =
              { registry.withType call with
                bases := registry.bases.insert call.tid [base] }) := by
  rw [register]
  cases added : registry.add call.tid call.name with
  | error code =>
      refine .inl ⟨rfl, fun itself => ?_⟩
      rw [add_eq_ok_iff.mpr ⟨itself.2.2.1, itself.2.2.2, rfl⟩] at added
      cases added
  | ok middle =>
      obtain ⟨newName, newTid, rfl⟩ := add_eq_ok_iff.mp added
      refine .inr ⟨newTid, ?_⟩
      dsimp only
      split_ifs with noBase
      · exact .inl ⟨rfl, fun itself => itself.1 (itself.2.1.symm.trans noBase)⟩
      · have own : (registry.withType call).idFromName call.name = .ok call.tid :=
          idFromName_eq_ok_iff.mpr (AList.lookup_insert registry.tids)
        cases found : (registry.withType call).idFromName call.baseName with
        | error code =>
            rw [addBase, own, found]
            refine .inl ⟨rfl, fun itself => ?_⟩
            rw [itself.2.1, own] at found
            cases found
        | ok base =>
            have isBase := idFromName_eq_ok_iff.mp found
            have noSet : (registry.withType call).basesOf call.tid = [] := by
              have absent : call.tid ∉ registry.bases := fun member =>
                newTid (named.bases call.tid member)
              have empty : registry.bases.lookup call.tid = none := AList.lookup_eq_none.mpr absent
              rw [basesOf, withType, empty]
              rfl
            refine .inr ⟨base, isBase, ?_, ?_⟩
            · constructor
              · intro itself
                rw [itself.2.1, own] at found
                exact (Except.ok.inj found).symm
              · rintro rfl
                have sameName : call.baseName = call.name := by
                  by_contra different
                  have old : (registry.withType call).tids.lookup call.baseName =
                      registry.tids.lookup call.baseName := AList.lookup_insert_ne different
                  exact newTid (named.tids _ _ (old.symm.trans isBase))
                exact ⟨fun empty => noBase (sameName.trans empty), sameName, newName, newTid⟩
            · rw [addBase_eq own found, noSet]
              rfl

/-- What holds in the runs without types that name themselves. -/
structure Sound (registry : TypeRegistry) : Prop extends registry.Named where
  component : kComponentTid ∈ registry.names
  acyclic : ∃ rank size, registry.Ranked rank ∧ ∀ tid ∈ registry.names, rank tid < size

/-- A registered type other than `Component` has itself as its only base. -/
structure Looped (registry : TypeRegistry) : Prop extends registry.Named where
  component : kComponentTid ∈ registry.names
  loop : ∃ tid ∈ registry.names, kComponentTid ≠ tid ∧ registry.bases.lookup tid = some [tid]

theorem mem_names_withType :
    tid ∈ (registry.withType call).names ↔ tid = call.tid ∨ tid ∈ registry.names :=
  AList.mem_insert registry.names

theorem Named.withType (named : registry.Named) (call : Registration) :
    (registry.withType call).Named := by
  constructor
  · intro name tid found
    rw [mem_names_withType]
    by_cases same : name = call.name
    · subst same
      have own : (registry.withType call).tids.lookup call.name = some call.tid :=
        AList.lookup_insert registry.tids
      rw [own] at found
      exact .inl (Option.some.inj found).symm
    · have old : (registry.withType call).tids.lookup name = registry.tids.lookup name :=
        AList.lookup_insert_ne same
      rw [old] at found
      exact .inr (named.tids name tid found)
  · intro tid member
    exact mem_names_withType.mpr (.inr (named.bases tid member))

def withBase (registry : TypeRegistry) (call : Registration) (base : Tid) : TypeRegistry :=
  { registry.withType call with bases := registry.bases.insert call.tid [base] }

section

variable (named : registry.Named)
include named

theorem Named.withBase (call : Registration) (base : Tid) :
    (registry.withBase call base).Named := by
  constructor
  · exact (named.withType call).tids
  · intro tid member
    have isNamed : tid = call.tid ∨ tid ∈ registry.names := by
      rcases (AList.mem_insert registry.bases).mp member with same | before
      · exact .inl same
      · exact .inr (named.bases tid before)
    exact mem_names_withType.mpr isNamed

theorem Named.register (call : Registration) : (registry.register call).1.Named := by
  rcases named.register_cases call with ⟨same, -⟩ | ⟨-, ⟨same, -⟩ | ⟨base, -, -, same⟩⟩
  · rw [same]
    exact named
  · rw [same]
    exact named.withType call
  · rw [same]
    exact named.withBase call base

theorem Named.mem_names_register (call : Registration)
    (registered : tid ∈ registry.names) : tid ∈ (registry.register call).1.names := by
  rcases named.register_cases call with ⟨same, -⟩ | ⟨-, ⟨same, -⟩ | ⟨base, -, -, same⟩⟩
  · rw [same]
    exact registered
  · rw [same]
    exact mem_names_withType.mpr (.inr registered)
  · rw [same]
    exact mem_names_withType.mpr (.inr registered)

theorem Named.lookup_bases_register (call : Registration) (registered : tid ∈ registry.names) :
    (registry.register call).1.bases.lookup tid = registry.bases.lookup tid := by
  rcases named.register_cases call with ⟨same, -⟩ | ⟨newTid, ⟨same, -⟩ | ⟨base, -, -, same⟩⟩
  · rw [same]
  · rw [same]
    rfl
  · rw [same]
    exact AList.lookup_insert_ne fun isNew => newTid (isNew ▸ registered)

theorem Edge.derived_mem (edge : registry.Edge derived base) : derived ∈ registry.names := by
  obtain ⟨set, stored, -⟩ := edge
  exact named.bases derived (AList.lookup_isSome.mp (Option.isSome_of_mem stored))

end

theorem Sound.extend (sound : registry.Sound) (newTid : call.tid ∉ registry.names)
    (named : after.Named)
    (names : ∀ tid, tid ∈ after.names ↔ tid = call.tid ∨ tid ∈ registry.names)
    (edges : ∀ derived base, after.Edge derived base →
      registry.Edge derived base ∨ derived = call.tid ∧ base ∈ registry.names) :
    after.Sound := by
  obtain ⟨rank, size, ranked, bounded⟩ := sound.acyclic
  have old (tid : Tid) (registered : tid ∈ registry.names) :
      Function.update rank call.tid size tid = rank tid :=
    Function.update_of_ne (fun same : tid = call.tid => newTid (same ▸ registered)) size rank
  have known (derived base : Tid) (edge : after.Edge derived base) : base ∈ registry.names := by
    rcases edges derived base edge with before | ⟨-, registered⟩
    · exact ranked.known derived base before
    · exact registered
  refine { named with
    component := (names _).mpr (.inr sound.component)
    acyclic := ⟨Function.update rank call.tid size, size + 1, ?_, ?_⟩ }
  · constructor
    · exact fun derived base edge => (names base).mpr (.inr (known derived base edge))
    · intro derived base edge
      rw [old base (known derived base edge)]
      rcases edges derived base edge with before | ⟨rfl, registered⟩
      · rw [old derived (before.derived_mem sound.toNamed)]
        exact ranked.smaller derived base before
      · rw [Function.update_self]
        exact bounded base registered
  · intro tid member
    rcases (names tid).mp member with rfl | registered
    · rw [Function.update_self]
      exact Nat.lt_succ_self size
    · rw [old tid registered]
      exact Nat.lt_succ_of_lt (bounded tid registered)

theorem Sound.register (sound : registry.Sound) (call : Registration)
    (other : ¬ registry.NamesItself call) : (registry.register call).1.Sound := by
  have named := sound.toNamed.register call
  rcases sound.toNamed.register_cases call with
    ⟨same, -⟩ | ⟨newTid, ⟨same, -⟩ | ⟨base, found, itself, same⟩⟩
  · rw [same]
    exact sound
  · rw [same] at named ⊢
    exact sound.extend newTid named (fun tid => mem_names_withType)
      fun derived base edge => .inl edge
  · have isOld : base ∈ registry.names := by
      have registered := (sound.toNamed.withType call).tids call.baseName base found
      exact (mem_names_withType.mp registered).resolve_left fun same => other (itself.mpr same)
    rw [same] at named ⊢
    refine sound.extend newTid named (fun tid => mem_names_withType) ?_
    rintro derived middle ⟨set, stored, member⟩
    by_cases isNew : derived = call.tid
    · subst isNew
      rw [AList.lookup_insert] at stored
      cases stored
      exact .inr ⟨rfl, List.mem_singleton.mp member ▸ isOld⟩
    · rw [AList.lookup_insert_ne isNew] at stored
      exact .inl ⟨set, stored, member⟩

theorem Named.lookup_bases_of_namesItself (named : registry.Named)
    (itself : registry.NamesItself call) :
    (registry.register call).1.bases.lookup call.tid = some [call.tid] := by
  rcases named.register_cases call with
    ⟨-, other⟩ | ⟨-, ⟨-, other⟩ | ⟨base, -, isOwn, same⟩⟩
  · exact absurd itself other
  · exact absurd itself other
  · obtain rfl := isOwn.mp itself
    rw [same]
    exact AList.lookup_insert registry.bases

/-- A type that names itself is registered, and another one than `Component`. -/
theorem Sound.mem_names_of_namesItself (sound : registry.Sound)
    (itself : registry.NamesItself call) :
    call.tid ∈ (registry.register call).1.names ∧ kComponentTid ≠ call.tid := by
  constructor
  · rw [(register_of_fresh itself.2.2.1 itself.2.2.2).1]
    exact mem_names_withType.mpr (.inl rfl)
  · exact fun isComponent => itself.2.2.2 (isComponent ▸ sound.component)

theorem Sound.loops (sound : registry.Sound) (call : Registration)
    (itself : registry.NamesItself call) : (registry.register call).1.Looped := by
  obtain ⟨registered, other⟩ := sound.mem_names_of_namesItself itself
  exact { sound.toNamed.register call with
    component := sound.toNamed.mem_names_register call sound.component
    loop := ⟨call.tid, registered, other, sound.toNamed.lookup_bases_of_namesItself itself⟩ }

theorem Looped.register (looped : registry.Looped) (call : Registration) :
    (registry.register call).1.Looped := by
  obtain ⟨tid, registered, other, isLoop⟩ := looped.loop
  have component := looped.toNamed.mem_names_register call looped.component
  refine { looped.toNamed.register call with
    component
    loop := ⟨tid, looped.toNamed.mem_names_register call registered, other, ?_⟩ }
  rw [looped.toNamed.lookup_bases_register call registered]
  exact isLoop

theorem Looped.not_answers (looped : registry.Looped) : ¬ registry.Answers := by
  intro answers
  obtain ⟨tid, registered, other, isLoop⟩ := looped.loop
  obtain ⟨answer, ⟨depth, returns⟩, -⟩ := answers tid registered kComponentTid looped.component
  have never := isBase_of_loop isLoop registered looped.component other depth
  rw [returns depth (Nat.le_refl depth)] at never
  cases never

theorem Sound.isBase_eq (sound : registry.Sound)
    [∀ derived base, Decidable (TransGen registry.Edge derived base)] :
    ∃ depth, ∀ fuel, depth ≤ fuel → ∀ derived ∈ registry.names, ∀ base ∈ registry.names,
      registry.isBase fuel derived base =
        some (.ok (decide (TransGen registry.Edge derived base))) := by
  obtain ⟨rank, size, ranked, bounded⟩ := sound.acyclic
  refine ⟨size, fun fuel enough derived registered base isKnown => ?_⟩
  exact ranked.isBase_eq isKnown fuel derived registered
    (Nat.lt_of_lt_of_le (bounded derived registered) enough)

theorem Sound.answers (sound : registry.Sound) : registry.Answers := by
  obtain ⟨rank, -, ranked, -⟩ := sound.acyclic
  exact ranked.answers

theorem sound_created : created.Sound := by
  have noEdge (derived base : Tid) : ¬ created.Edge derived base := by
    rintro ⟨set, stored, -⟩
    cases stored
  have isComponent (name : String) (tid : Tid) (found : tid ∈ created.tids.lookup name) :
      tid ∈ created.names := by
    have isTids : created.tids = (∅ : Table String Tid).insert "nvidia::gxf::Component"
        kComponentTid := rfl
    have isNames : created.names = (∅ : Table Tid String).insert kComponentTid
        "nvidia::gxf::Component" := rfl
    rw [isNames, AList.mem_insert]
    rw [isTids] at found
    by_cases same : name = "nvidia::gxf::Component"
    · subst same
      rw [AList.lookup_insert] at found
      exact .inl (Option.some.inj found).symm
    · rw [AList.lookup_insert_ne same] at found
      cases found
  refine ⟨⟨isComponent, fun tid member => absurd member (AList.notMem_empty tid)⟩, ?_,
    fun _ => 0, 1, ⟨?_, ?_⟩, fun _ _ => Nat.one_pos⟩
  · exact isComponent "nvidia::gxf::Component" kComponentTid (by decide)
  · exact fun derived base edge => absurd edge (noEdge derived base)
  · exact fun derived base edge => absurd edge (noEdge derived base)

/-- After calls of `GxfRegisterComponent`, the search for a base returns for all types with
the right answer, unless a call has added a type with its own name as its base. -/
theorem answers_run_iff (calls : List Registration) : (registrations.run created calls).Answers ↔
      registrations.Along (fun registry call => ¬ registry.NamesItself call) created calls :=
  registrations.final_iff_guarded (fun _ call sound other => Sound.register sound call other)
    (fun _ call sound itself => Sound.loops sound call (not_not.mp itself))
    (fun _ call looped => Looped.register looped call)
    (fun _ sound => Sound.answers sound) (fun _ looped => Looped.not_answers looped)
    sound_created calls

/-- `X` is registered as its own base: nobody learns whether it is a component. -/
theorem own_base_search_never_returns :
    let registry := registrations.run created [⟨⟨1, 1⟩, "X", some "X"⟩]
    (∀ fuel, registry.isBase fuel ⟨1, 1⟩ kComponentTid = none) ∧ ¬ registry.Answers := by
  have looped : (registrations.run created [⟨⟨1, 1⟩, "X", some "X"⟩]).Looped :=
    sound_created.loops ⟨⟨1, 1⟩, "X", some "X"⟩ (by decide)
  exact ⟨isBase_of_loop (by decide) (by decide) (by decide) (by decide), looped.not_answers⟩

theorem Ranked.lt (ranked : registry.Ranked rank) (path : TransGen registry.Edge derived base) :
    rank base < rank derived := by
  induction path with
  | single edge => exact ranked.smaller _ _ edge
  | tail _ edge ih => exact (ranked.smaller _ _ edge).trans ih

/-- Later registrations change nothing for a type that is registered. -/
theorem Named.run (named : registry.Named) (later : List Registration) :
    ∀ tid ∈ registry.names, tid ∈ (registrations.run registry later).names ∧
      (registrations.run registry later).bases.lookup tid = registry.bases.lookup tid := by
  have preserved : ∀ state call, state.Named ∧ (∀ tid ∈ registry.names, tid ∈ state.names ∧
        state.bases.lookup tid = registry.bases.lookup tid) →
      (registrations.step state call).1.Named ∧
        ∀ tid ∈ registry.names, tid ∈ (registrations.step state call).1.names ∧
          (registrations.step state call).1.bases.lookup tid = registry.bases.lookup tid :=
    fun _ call inv => ⟨inv.1.register call, fun tid member =>
      ⟨inv.1.mem_names_register call (inv.2 tid member).1,
        (inv.1.lookup_bases_register call (inv.2 tid member).1).trans (inv.2 tid member).2⟩⟩
  exact (System.invariant_run_of_forall preserved ⟨named, fun _ member => ⟨member, rfl⟩⟩ later).2

theorem Sound.transGen_run (sound : registry.Sound) (later : List Registration)
    (registered : derived ∈ registry.names) :
    TransGen (registrations.run registry later).Edge derived base ↔
      TransGen registry.Edge derived base := by
  have edge_iff : ∀ first ∈ registry.names, ∀ second,
      (registrations.run registry later).Edge first second ↔ registry.Edge first second :=
    fun first member second => by
      rw [Edge, (sound.toNamed.run later first member).2, Edge]
  obtain ⟨rank, -, ranked, -⟩ := sound.acyclic
  constructor
  · intro path
    induction path using TransGen.head_induction_on with
    | single edge => exact .single ((edge_iff _ registered _).mp edge)
    | head edge _ ih =>
        have before := (edge_iff _ registered _).mp edge
        exact .head before (ih (ranked.known _ _ before))
  · exact TransGen.mono (fun first second edge =>
      (edge_iff first (edge.derived_mem sound.toNamed) second).mpr edge) _ _

/-- In the runs without types that name themselves, the search finds a strict order, and no later
registration changes what it answers for two types. -/
theorem isBase_run (calls later : List Registration) (plain : registrations.Along
      (fun registry call => ¬ registry.NamesItself call) created (calls ++ later)) :
    let before := registrations.run created calls
    ∃ depth, ∀ fuel, depth ≤ fuel → ∀ first ∈ before.names,
      before.isBase fuel first first = some (.ok false) ∧ ∀ second ∈ before.names,
        (registrations.run before later).isBase fuel first second =
          before.isBase fuel first second ∧
        ∀ third ∈ before.names, before.isBase fuel first second = some (.ok true) →
          before.isBase fuel second third = some (.ok true) →
            before.isBase fuel first third = some (.ok true) := by
  classical
  intro before
  obtain ⟨plainBefore, plainLater⟩ := (System.along_append _ _ calls later).mp plain
  have preserved := fun registry call (sound : Sound registry) other => sound.register call other
  have sound : before.Sound := System.invariant_run preserved sound_created plainBefore
  have soundLater := System.invariant_run preserved sound plainLater
  obtain ⟨depth, search⟩ := sound.isBase_eq
  obtain ⟨depthLater, searchLater⟩ := soundLater.isBase_eq
  obtain ⟨rank, -, ranked, -⟩ := sound.acyclic
  have kept := sound.toNamed.run later
  refine ⟨max depth depthLater, fun fuel enough first member => ?_⟩
  have answer := search fuel ((le_max_left _ _).trans enough)
  refine ⟨?_, fun second isSecond => ⟨?_, fun third isThird toSecond toThird => ?_⟩⟩
  · rw [answer first member first member, decide_eq_false fun path => (ranked.lt path).false]
  · have answerLater := searchLater fuel ((le_max_right _ _).trans enough) first
      (kept first member).1 second (kept second isSecond).1
    rw [answer first member second isSecond, answerLater]
    simp only [sound.transGen_run later member]
  · rw [answer first member second isSecond] at toSecond
    rw [answer second isSecond third isThird] at toThird
    rw [answer first member third isThird]
    simp only [Option.some.injEq, Except.ok.injEq, decide_eq_true_eq] at toSecond toThird ⊢
    exact toSecond.trans toThird

/-- Two types and one that is registered later. -/
theorem isBase_run_two : ∃ depth, ∀ fuel, depth ≤ fuel →
    (registrations.run created [⟨⟨1, 1⟩, "X", some "nvidia::gxf::Component"⟩]).isBase fuel ⟨1, 1⟩
      ⟨1, 1⟩ = some (.ok false) := by
  obtain ⟨depth, search⟩ := isBase_run [⟨⟨1, 1⟩, "X", some "nvidia::gxf::Component"⟩]
    [⟨⟨2, 2⟩, "Y", some "X"⟩] ⟨by decide, by decide, trivial⟩
  exact ⟨depth, fun fuel enough => (search fuel enough ⟨1, 1⟩ (by decide)).1⟩

end TypeRegistry

end Gxf.Core
