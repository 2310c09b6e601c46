import Gxf.Core.ParameterStorage.Refinement

/-!
# Runs of the parameter storage

What one call keeps holds after every sequence of calls: the storage answers as a typed map,
types stay, errors change nothing, and connected frontends hold the values of their backends.
-/

namespace Gxf.Core.ParameterStorage

open Gxf.Lib Gxf.Std

variable {Data : Type} {storage next : ParameterStorage Data} {op : StorageOp Data}
  {ref : ParameterRef}

theorem Effect.context (effect : Effect storage op next) : next.context = storage.context := by
  cases effect with
  | keeps => rfl
  | rewritten | created | registered => exact context_writeToFrontend _ _
  | cleared => rfl

theorem Effect.find_of_find (effect : Effect storage op next) {uid : Uid} {key : String}
    {backend : ParameterBackend Data} (uncleared : op ≠ .clearEntityParameters uid)
    (found : storage.find uid key = some backend) :
    ∃ later, next.find uid key = some later ∧ later.type = backend.type := by
  cases effect with
  | keeps => exact ⟨backend, found, rfl⟩
  | rewritten _ otherUid otherKey other content same there =>
      rw [find_rewritten]
      split
      next here =>
        rw [here.1, here.2, there] at found
        cases found
        exact ⟨_, rfl, rfl⟩
      next => exact ⟨backend, found, rfl⟩
  | created _ otherUid otherKey content absent =>
      rw [find_created, if_neg]
      · exact ⟨backend, found, rfl⟩
      · rintro ⟨rfl, rfl⟩
        cases absent.symm.trans found
  | registered other otherUid otherKey headline description default flags absent =>
      rw [find_registered, if_neg]
      · exact ⟨backend, found, rfl⟩
      · rintro ⟨rfl, rfl⟩
        cases absent.symm.trans found
  | cleared otherUid =>
      rw [find_clear, if_neg fun same => uncleared (by rw [same])]
      exact ⟨backend, found, rfl⟩

theorem WellFormed.effect (wellFormed : storage.WellFormed) (effect : Effect storage op next) :
    next.WellFormed := by
  cases effect with
  | keeps => exact wellFormed
  | rewritten _ uid key backend content same there =>
      refine ⟨fun otherUid otherKey other found => ?_, fun other pointer points => ?_,
        fun other pointer otherBackend points found => ?_⟩
      · rw [made_rewritten]
        rw [find_rewritten] at found
        split at found
        next =>
          cases found
          exact wellFormed.born uid key backend there
        next => exact wellFormed.born otherUid otherKey other found
      · rw [pointer_rewritten] at points
        rw [made_rewritten]
        exact wellFormed.pointed other pointer points
      · rw [pointer_rewritten] at points
        rw [deref_eq_some_iff, find_rewritten] at found
        split at found
        next here =>
          obtain ⟨stored, identity⟩ := found
          cases stored
          exact wellFormed.connected other pointer backend points
            (deref_eq_some_iff.mpr ⟨by rw [here.1, here.2, there], identity⟩)
        next =>
          exact wellFormed.connected other pointer otherBackend points (deref_eq_some_iff.mpr found)
  | created _ uid key content absent =>
      refine ⟨fun otherUid otherKey other found => ?_, fun other pointer points => ?_,
        fun other pointer otherBackend points found => ?_⟩
      · rw [made_created]
        rw [find_created] at found
        split at found
        next =>
          cases found
          exact Nat.lt_succ_self _
        next => exact Nat.lt_succ_of_lt (wellFormed.born otherUid otherKey other found)
      · rw [pointer_created] at points
        rw [made_created]
        exact Nat.lt_succ_of_lt (wellFormed.pointed other pointer points)
      · rw [pointer_created] at points
        rw [deref_eq_some_iff, find_created] at found
        split at found
        next here =>
          obtain ⟨stored, identity⟩ := found
          cases stored
          exact absurd identity.symm (Nat.ne_of_lt (wellFormed.pointed other pointer points))
        next =>
          exact wellFormed.connected other pointer otherBackend points (deref_eq_some_iff.mpr found)
  | registered ref uid key headline description default flags absent =>
      refine ⟨fun otherUid otherKey other found => ?_, fun other pointer points => ?_,
        fun other pointer otherBackend points found => ?_⟩
      · rw [made_registered]
        rw [find_registered] at found
        split at found
        next =>
          cases found
          exact Nat.lt_succ_self _
        next => exact Nat.lt_succ_of_lt (wellFormed.born otherUid otherKey other found)
      · rw [pointer_registered] at points
        rw [made_registered]
        split at points
        next =>
          cases points
          exact Nat.lt_succ_self _
        next => exact Nat.lt_succ_of_lt (wellFormed.pointed other pointer points)
      · rw [pointer_registered] at points
        rw [deref_eq_some_iff, find_registered] at found
        split at points
        next same =>
          cases points
          rw [if_pos ⟨rfl, rfl⟩] at found
          cases found.1
          rw [same]
          rfl
        next =>
          split at found
          next here =>
            obtain ⟨stored, identity⟩ := found
            cases stored
            exact absurd identity.symm (Nat.ne_of_lt (wellFormed.pointed other pointer points))
          next =>
            exact wellFormed.connected other pointer otherBackend points
              (deref_eq_some_iff.mpr found)
  | cleared uid =>
      refine ⟨fun otherUid otherKey other found => ?_, wellFormed.pointed,
        fun other pointer otherBackend points found => ?_⟩
      · rw [find_clear] at found
        split at found
        next => cases found
        next => exact wellFormed.born otherUid otherKey other found
      · rw [deref_eq_some_iff, find_clear] at found
        split at found
        next => cases found.1
        next =>
          exact wellFormed.connected other pointer otherBackend points (deref_eq_some_iff.mpr found)

/-- The backends of a frontend are where it points to, and hold what it holds. -/
structure Agrees (ref : ParameterRef) (storage : ParameterStorage Data) : Prop where
  points : ∀ uid key backend, storage.find uid key = some backend → backend.ref = some ref →
    (storage.frontends ref).backend = some ⟨backend.id, uid, key⟩
  holds : ∀ uid key backend content, storage.find uid key = some backend →
    backend.ref = some ref → backend.value = some content →
    (storage.frontends ref).value = some content

/-- A frontend is only registered while no backend is connected to it. -/
def RegisteredOnce (ref : ParameterRef) (storage : ParameterStorage Data)
    (op : StorageOp Data) : Prop :=
  match op with
  | .registerParameter type (some address) .. =>
      (⟨type, address⟩ : ParameterRef) = ref →
        ∀ uid key backend, storage.find uid key = some backend → backend.ref ≠ some ref
  | _ => True

theorem Agrees.effect (agrees : storage.Agrees ref) (once : storage.RegisteredOnce ref op)
    (effect : Effect storage op next) : next.Agrees ref := by
  cases effect with
  | keeps => exact agrees
  | rewritten _ uid key backend content same there =>
      refine ⟨fun otherUid otherKey other found connected => ?_,
        fun otherUid otherKey other held found connected stored => ?_⟩
      · rw [pointer_rewritten]
        rw [find_rewritten] at found
        split at found
        next here =>
          cases found
          rw [here.1, here.2]
          exact agrees.points uid key backend there connected
        next => exact agrees.points otherUid otherKey other found connected
      · rw [value_rewritten]
        rw [find_rewritten] at found
        split at found
        next here =>
          cases found
          cases stored
          exact if_pos connected
        next elsewhere =>
          rw [if_neg]
          · exact agrees.holds otherUid otherKey other held found connected stored
          · intro both
            have first := agrees.points uid key backend there both
            have second := agrees.points otherUid otherKey other found connected
            have places := Option.some.inj (second.symm.trans first)
            exact elsewhere ⟨congrArg BackendPointer.uid places,
              congrArg BackendPointer.key places⟩
  | created _ uid key content absent =>
      refine ⟨fun otherUid otherKey other found connected => ?_,
        fun otherUid otherKey other held found connected stored => ?_⟩
      · rw [pointer_created]
        rw [find_created] at found
        split at found
        next =>
          cases found
          rw [ref_createdBackend] at connected
          cases connected
        next => exact agrees.points otherUid otherKey other found connected
      · rw [value_created]
        rw [find_created] at found
        split at found
        next =>
          cases found
          rw [ref_createdBackend] at connected
          cases connected
        next => exact agrees.holds otherUid otherKey other held found connected stored
  | registered new uid key headline description default flags absent =>
      refine ⟨fun otherUid otherKey other found connected => ?_,
        fun otherUid otherKey other held found connected stored => ?_⟩
      · rw [pointer_registered]
        rw [find_registered] at found
        split at found
        next here =>
          cases found
          rw [ref_staticBackend] at connected
          cases connected
          rw [if_pos rfl, here.1, here.2]
        next =>
          rw [if_neg]
          · exact agrees.points otherUid otherKey other found connected
          · rintro rfl
            exact once rfl otherUid otherKey other found connected
      · rw [value_registered]
        rw [find_registered] at found
        split at found
        next =>
          cases found
          rw [if_pos ⟨connected, Option.isSome_iff_exists.mpr ⟨held, stored⟩⟩, stored]
        next =>
          rw [if_neg]
          · exact agrees.holds otherUid otherKey other held found connected stored
          · rintro ⟨same, -⟩
            rw [ref_staticBackend] at same
            cases same
            exact once rfl otherUid otherKey other found connected
  | cleared uid =>
      refine ⟨fun otherUid otherKey other found connected => ?_,
        fun otherUid otherKey other held found connected stored => ?_⟩
      · rw [find_clear] at found
        split at found
        next => cases found
        next => exact agrees.points otherUid otherKey other found connected
      · rw [find_clear] at found
        split at found
        next => cases found
        next => exact agrees.holds otherUid otherKey other held found connected stored

/-- A frontend holds the value of its backend, if that has one. -/
def HoldsStored (ref : ParameterRef) (storage : ParameterStorage Data) : Prop :=
  ∀ pointer backend content, (storage.frontends ref).backend = some pointer →
    storage.deref pointer = some backend → backend.value = some content →
    (storage.frontends ref).value = some content

theorem Agrees.holdsStored (agrees : storage.Agrees ref) (wellFormed : storage.WellFormed) :
    storage.HoldsStored ref := fun pointer backend content points found stored =>
  agrees.holds pointer.uid pointer.key backend content (deref_eq_some_iff.mp found).1
    (wellFormed.connected ref pointer backend points found) stored

/-- An answer is an error. -/
inductive Failed : StorageAnswer Data → Prop
  | done (code : GxfResult) : Failed (.done (.error code))
  | value (code : GxfResult) : Failed (.value (.error code))
  | sum (code : GxfResult) : Failed (.sum (.error code))

theorem write_cases (storage : ParameterStorage Data) (uid : Uid) (key : String)
    (backend : ParameterBackend Data) (content : ParameterValue Data) :
    (storage.write uid key backend content).2 = .ok () ∨
      (storage.write uid key backend content).1 = storage := by
  by_cases same : content.type = backend.type
  · exact .inl (by rw [write_of_type same])
  · exact .inr (by rw [write_of_ne same])

theorem set_cases (storage : ParameterStorage Data) (uid : Uid) (key : String)
    (content : ParameterValue Data) :
    (storage.set uid key content).2 = .ok () ∨ (storage.set uid key content).1 = storage := by
  cases found : storage.find uid key with
  | none => exact .inl (by rw [set_of_absent found])
  | some backend =>
      rw [set_of_found found]
      exact storage.write_cases uid key backend content

theorem step_of_failed (failed : Failed (storage.step op).2) : (storage.step op).1 = storage := by
  cases op with
  | registerParameter type frontend uid key headline description default flags =>
      rcases frontend with - | address
      · rfl
      rcases key with - | key
      · rfl
      rcases headline with - | headline
      · rfl
      rcases description with - | description
      · rfl
      cases found : storage.find uid key with
      | none =>
          have done := registerParameter_of_absent found ⟨type, address⟩ headline description
            default flags
          dsimp only at done
          simp only [step, done] at failed
          cases failed
      | some backend => simp only [step, registerParameter, found]
  | set uid key value =>
      obtain done | kept := storage.set_cases uid key value
      · simp only [step, done] at failed
        cases failed
      · exact kept
  | setStr uid key value =>
      obtain done | kept := storage.set_cases uid key (.string value)
      · simp only [step, done] at failed
        cases failed
      · exact kept
  | setStrVector uid key value =>
      cases given : strings value with
      | none => simp only [step, setStrVector, given]
      | some content =>
          obtain done | kept := storage.set_cases uid key (.stringVector content)
          · simp only [step, setStrVector, given, done] at failed
            cases failed
          · simp only [step, setStrVector, given, kept]
  | setHandle uid key value answer =>
      cases found : storage.find uid key with
      | none => simp only [step, setHandle, found]
      | some backend =>
          cases type : backend.type with
          | handle component =>
              cases answer with
              | error code => simp only [step, setHandle, found, type]
              | ok object =>
                  obtain done | kept := storage.write_cases uid key backend
                    (.handle component ⟨storage.context, value, object.1, object.2⟩)
                  · simp only [step, setHandle, found, type, done] at failed
                    cases failed
                  · simp only [step, setHandle, found, type, kept]
          | int64 | string | stringVector | other => simp only [step, setHandle, found, type]
  | addGetInt64 uid key delta =>
      obtain done | kept :=
        storage.set_cases uid key (.int64 (storage.typedMap.number uid key + delta))
      · simp only [step, addGetInt64_eq, done] at failed
        cases failed
      · simp only [step, addGetInt64_eq, kept]
  | get type uid key => rfl
  | clearEntityParameters uid => cases failed
  | setFrontend address content =>
      simp only [step, setFrontend] at failed ⊢
      split
      next => rfl
      next pointer points =>
        split
        next => rfl
        next backend found =>
          split
          next same =>
            simp only [points, found, dif_pos same, backend.set_eq] at failed
            cases failed
          next => rfl

/-! ## Runs -/

/-- Types stay until their component is cleared. -/
def KeepsTypes (storage : ParameterStorage Data) (op : StorageOp Data) : Prop :=
  ∀ uid key backend, op ≠ .clearEntityParameters uid → storage.find uid key = some backend →
    ∃ later, (storage.step op).1.find uid key = some later ∧ later.type = backend.type

/-- A value is read exactly if it is stored with its type, and is not a handle that stands for
a component to be created later. -/
def ReadsStored (storage : ParameterStorage Data) (op : StorageOp Data) : Prop :=
  match op with
  | .get type uid key => ∀ content, (storage.step op).2 = .value (.ok content) ↔
      ∃ backend, storage.find uid key = some backend ∧ backend.type = type ∧
        backend.value = some content ∧ content.isUnspecified = false
  | _ => True

/-- A failed call leaves everything as it is. -/
def KeepsOnFailure (storage : ParameterStorage Data) (op : StorageOp Data) : Prop :=
  Failed (storage.step op).2 → (storage.step op).1 = storage

theorem readsStored (storage : ParameterStorage Data) (op : StorageOp Data) :
    storage.ReadsStored op := by
  cases op with
  | get type uid key =>
      intro content
      simp only [step, get_eq, TypedMap.read, entries_typedMap, StorageAnswer.value.injEq]
      cases storage.find uid key with
      | none => simp
      | some backend =>
          by_cases same : backend.type = type
          · cases stored : backend.value with
            | none => simp [entry, same, stored]
            | some held =>
                cases unspecified : held.isUnspecified with
                | true | false =>
                    simp [entry, same, stored, unspecified]
                    rintro rfl
                    exact unspecified
          · simp [entry, same]
  | _ => trivial

/-- A storage without parameters and frontends without backends. -/
def initial (context : UInt64) : ParameterStorage Data := { context := context }

theorem find_initial (context : UInt64) (uid : Uid) (key : String) :
    (initial context : ParameterStorage Data).find uid key = none := rfl

theorem wellFormed_initial (context : UInt64) :
    (initial context : ParameterStorage Data).WellFormed where
  born uid key backend found := by
    rw [find_initial] at found
    cases found
  pointed ref pointer points := by cases points
  connected ref pointer backend points := by cases points

theorem agrees_initial (context : UInt64) (ref : ParameterRef) :
    (initial context : ParameterStorage Data).Agrees ref where
  points uid key backend found := by
    rw [find_initial] at found
    cases found
  holds uid key backend content found := by
    rw [find_initial] at found
    cases found

theorem wellFormed_step (storage : ParameterStorage Data) (op : StorageOp Data)
    (wellFormed : storage.WellFormed) : (system.step storage op).1.WellFormed :=
  wellFormed.effect (simulates wellFormed op).2.2

/-- The storage does what the typed map does. -/
structure Represents (context : UInt64) (storage : ParameterStorage Data)
    (map : TypedMap Data) : Prop where
  same : storage.typedMap = map
  wellFormed : storage.WellFormed
  context : storage.context = context

theorem typedMap_initial (context : UInt64) :
    (initial context : ParameterStorage Data).typedMap = {} := rfl

theorem represents_step (context : UInt64) (storage : ParameterStorage Data)
    (map : TypedMap Data) (op : StorageOp Data) (related : Represents context storage map) :
    (system.step storage op).2 = ((TypedMap.system context).step map op).2 ∧
      Represents context (system.step storage op).1 ((TypedMap.system context).step map op).1 := by
  obtain ⟨rfl, wellFormed, rfl⟩ := related
  obtain ⟨answer, next, effect⟩ := simulates wellFormed op
  exact ⟨answer, next, wellFormed.effect effect, effect.context⟩

theorem run_represents (context : UInt64) (ops : List (StorageOp Data)) :
    system.outputs (initial context) ops = (TypedMap.system context).outputs {} ops ∧
      Represents context (system.run (initial context) ops)
        ((TypedMap.system context).run {} ops) :=
  System.simulation_run
    (fun storage map op related (_ : True) => represents_step context storage map op related)
    ⟨typedMap_initial context, wellFormed_initial context, rfl⟩
    (System.along_of_forall (fun _ _ => trivial) _ ops)

theorem run_holdsStored (context : UInt64) (ref : ParameterRef) (ops : List (StorageOp Data))
    (once : system.Along (RegisteredOnce ref) (initial context) ops) :
    HoldsStored ref (system.run (initial context) ops) := by
  have both : (system.run (initial context) ops).WellFormed ∧
      (system.run (initial context) ops).Agrees ref :=
    @System.invariant_run _ _ _ system
      (fun storage => storage.WellFormed ∧ storage.Agrees ref) (RegisteredOnce ref)
      (fun storage op inv guarded => ⟨wellFormed_step storage op inv.1,
        inv.2.effect guarded (simulates inv.1 op).2.2⟩) _ ops
      ⟨wellFormed_initial context, agrees_initial context ref⟩ once
  exact both.2.holdsStored both.1

/-- The storage answers every sequence of calls as a typed map; types stay until they are
cleared, reads give what is stored, failed calls change nothing, and a frontend that is
registered only while no backend is connected to it holds the value of its backend. -/
theorem run_refines_typedMap (context : UInt64) (ops : List (StorageOp Data)) :
    (system.outputs (initial context) ops = (TypedMap.system context).outputs {} ops ∧
      (system.run (initial context) ops).typedMap = (TypedMap.system context).run {} ops) ∧
    system.Along KeepsTypes (initial context) ops ∧
    system.Along ReadsStored (initial context) ops ∧
    system.Along KeepsOnFailure (initial context) ops ∧
    ∀ ref, system.Along (RegisteredOnce ref) (initial context) ops →
      HoldsStored ref (system.run (initial context) ops) := by
  refine ⟨⟨(run_represents context ops).1, (run_represents context ops).2.same⟩, ?_,
    System.along_of_forall readsStored _ ops,
    System.along_of_forall (fun _ _ => step_of_failed) _ ops,
    fun ref once => run_holdsStored context ref ops once⟩
  exact System.along_of_invariant_of_forall wellFormed_step
    (fun storage op wellFormed uid key backend uncleared found =>
      (simulates wellFormed op).2.2.find_of_find uncleared found)
    (wellFormed_initial context) ops

/-- A frontend with a default value that is set again. -/
theorem run_refines_typedMap_rate : HoldsStored ⟨.int64, 1⟩ (system.run (initial 1)
      [.registerParameter .int64 (some 1) 5 (some "rate") (some "Rate") (some "Ticks")
          (some ⟨.int64 3, rfl⟩) 0,
        .set 5 "rate" (.int64 7)] : ParameterStorage Unit) := by
  refine (run_refines_typedMap 1 _).2.2.2.2 ⟨.int64, 1⟩ ⟨fun _ uid key backend found => ?_,
    trivial, trivial⟩
  rw [find_initial] at found
  cases found

/-- A stored handle that stands for a component to be created later is not read, and a
frontend that is registered under two keys takes the value of the first one while it is
connected to the second. -/
theorem unspecified_or_registered_twice :
    (¬ ∀ (context : UInt64) (ops : List (StorageOp Unit)) (type : ParameterType) (uid : Uid)
        (key : String) (backend : ParameterBackend Unit) (content : ParameterValue Unit),
      (system.run (initial context) ops).find uid key = some backend → backend.type = type →
      backend.value = some content →
      (system.run (initial context) ops).get type uid key = .ok content) ∧
    ¬ ∀ (context : UInt64) (ops : List (StorageOp Unit)) (ref : ParameterRef),
      HoldsStored ref (system.run (initial context) ops) := by
  constructor
  · intro claim
    have read := claim 1 [.set 5 "tx" (.handle 0 ⟨0, kUnspecifiedUid, 0, 0⟩)] (.handle 0) 5 "tx" _
      _ rfl rfl rfl
    cases read
  · intro claim
    have holds := claim 1
      [.registerParameter .int64 (some 1) 5 (some "first") (some "") (some "") none 0,
        .registerParameter .int64 (some 1) 5 (some "second") (some "") (some "")
          (some ⟨.int64 1, rfl⟩) 0,
        .set 5 "first" (.int64 2)] ⟨.int64, 1⟩ ⟨1, 5, "second"⟩ _ (.int64 1) rfl rfl rfl
    cases holds

end Gxf.Core.ParameterStorage
