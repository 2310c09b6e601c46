import Gxf.Common.FixedVector.Refinement

/-!
# Runs of fixed vectors

All vectors together, under every sequence of operations: they agree with the lists
exactly as long as no range insert and no copy takes one of the two faulty branches.
-/

namespace Gxf.Common.FixedVector

open Gxf.Lib Function FixedVector

variable {T ι : Type*} [DecidableEq ι]

/-- The range of a range insert is taken from another vector and lies within it. -/
def RangeGiven (store : ι → FixedVector T) (op : Op ι T) : Prop :=
  match op.call with
  | .insertRange _ source start count =>
      source ≠ op.target ∧ start + count ≤ (store source).size
  | _ => True

/-- A range insert within the bounds starts at an element of its source, and it is at
the end of the vector or the range is empty.  Only an empty vector is copied from
itself. -/
def Sound (store : ι → FixedVector T) (op : Op ι T) : Prop :=
  match op.call with
  | .insertRange pos source start count =>
      pos ≤ (store op.target).size → pos + count ≤ (store op.target).capacity →
        start < (store source).size ∧ (pos = (store op.target).size ∨ count = 0)
  | .copyFrom source => source = op.target → (store source).size = 0
  | _ => True

instance (store : ι → FixedVector T) (op : Op ι T) : Decidable (RangeGiven store op) :=
  match op with
  | ⟨_, .insertRange _ _ _ _⟩ => inferInstanceAs (Decidable (_ ∧ _))
  | ⟨_, .emplace _ _⟩ | ⟨_, .pushBack _⟩ | ⟨_, .erase _⟩ | ⟨_, .popBack⟩ | ⟨_, .clear⟩
  | ⟨_, .resize _ _⟩ | ⟨_, .reserve _ _⟩ | ⟨_, .shrinkToFit _⟩ | ⟨_, .copyFrom _⟩ => isTrue trivial

instance (store : ι → FixedVector T) (op : Op ι T) : Decidable (Sound store op) :=
  match op with
  | ⟨_, .insertRange _ _ _ _⟩ => inferInstanceAs (Decidable (_ → _ → _ ∧ _))
  | ⟨_, .copyFrom _⟩ => inferInstanceAs (Decidable (_ → _))
  | ⟨_, .emplace _ _⟩ | ⟨_, .pushBack _⟩ | ⟨_, .erase _⟩ | ⟨_, .popBack⟩ | ⟨_, .clear⟩
  | ⟨_, .resize _ _⟩ | ⟨_, .reserve _ _⟩ | ⟨_, .shrinkToFit _⟩ => isTrue trivial

/-- A step agrees with the list operations: it gives the same answer, all vectors show
the lists, and an error leaves everything as it was. -/
def StepAgrees (state : (ι → FixedVector T) × (ι → Sequence T)) (op : Op ι T) : Prop :=
  let next := (system.lockstep Sequence.system).step state op
  next.2.1 = next.2.2 ∧ (∀ name, Shows (next.1.1 name) (next.1.2 name)) ∧
    ∀ error, next.2.1 = .error error → next.1.1 = state.1

theorem answer_error {store : ι → FixedVector T} {target : ι} {call : Call ι T}
    {error : FixedVectorError} (failed : (answer store target call).2 = .error error) :
    (answer store target call).1 = store target := by
  cases call with
  | clear => cases failed
  | _ =>
      simp only [answer, emplace, pushBack, insertRange,
        erase, popBack, resize, reserve, shrinkToFit,
        FixedVector.copyFrom] at failed ⊢
      split_ifs at failed ⊢
      all_goals rfl

section Step

variable {store : ι → FixedVector T} {sequences : ι → Sequence T}

theorem answer_represents (represents : ∀ name, Represents (store name) (sequences name))
    {op : Op ι T} (given : RangeGiven store op) (sound : Sound store op) :
    (answer store op.target op.call).2 = (Sequence.answer sequences op.target op.call).2 ∧
      Represents (answer store op.target op.call).1
        (Sequence.answer sequences op.target op.call).1 := by
  obtain ⟨target, call⟩ := op
  have here := represents target
  have sizeEq := here.size_eq
  have capacityEq := here.capacity_eq
  have fits := here.fits
  dsimp only
  cases call with
  | emplace index object =>
      simp only [answer, Sequence.answer]
      by_cases beyond : index > (sequences target).contents.length
      · rw [if_pos beyond, emplace, if_pos (by rwa [sizeEq])]
        exact ⟨rfl, here⟩
      · by_cases full : (sequences target).contents.length = (sequences target).capacity
        · rw [if_neg beyond, if_pos full, emplace, if_neg (by rwa [sizeEq]),
            if_pos (here.full_iff.mpr full)]
          exact ⟨rfl, here⟩
        · rw [if_neg beyond, if_neg full]
          exact here.emplace (Nat.le_of_not_lt beyond) full object
  | pushBack object =>
      simp only [answer, Sequence.answer]
      by_cases full : (sequences target).contents.length = (sequences target).capacity
      · rw [if_pos full, pushBack, emplace, if_neg (Nat.lt_irrefl _),
          if_pos (here.full_iff.mpr full)]
        exact ⟨rfl, here⟩
      · rw [if_neg full]
        exact here.pushBack full object
  | insertRange pos source start count =>
      simp only [answer, Sequence.answer]
      by_cases bounds : pos > (sequences target).contents.length ∨
          pos + count > (sequences target).capacity
      · rw [if_pos bounds, insertRange, if_pos (by rwa [sizeEq, capacityEq])]
        exact ⟨rfl, here⟩
      · rw [if_neg bounds]
        rw [not_or] at bounds
        have inside := Nat.le_of_not_lt bounds.1
        have within := Nat.le_of_not_lt bounds.2
        have lies : start + count ≤ (store source).size := given.2
        have safe : start < (store source).size ∧ (pos = (store target).size ∨ count = 0) :=
          sound (by rwa [sizeEq]) (by rwa [capacityEq])
        obtain ⟨points, atEnd⟩ := safe
        rw [(represents source).size_eq] at points lies
        refine ⟨?_, ?_⟩
        · rw [here.insertRange_effect (represents source) lies points inside within]
        · cases atEnd with
          | inl atEnd =>
              rw [sizeEq] at atEnd
              subst atEnd
              exact here.insertRange_end (represents source) lies points within
          | inr none =>
              subst none
              exact here.insertRange_empty (represents source) points inside within
  | erase index =>
      simp only [answer, Sequence.answer]
      by_cases beyond : index ≥ (sequences target).contents.length
      · rw [if_pos beyond, erase, if_pos (by rwa [sizeEq])]
        exact ⟨rfl, here⟩
      · rw [if_neg beyond]
        exact here.erase (Nat.lt_of_not_le beyond)
  | popBack =>
      simp only [answer, Sequence.answer]
      by_cases isEmpty : (sequences target).contents = []
      · have zero : (store target).size = 0 := by rw [sizeEq, isEmpty, List.length_nil]
        rw [if_pos isEmpty, popBack, if_pos zero, erase,
          if_pos (by rw [zero]; exact Nat.zero_le _)]
        exact ⟨rfl, here⟩
      · rw [if_neg isEmpty]
        exact here.popBack isEmpty
  | clear => exact ⟨rfl, here.clear⟩
  | resize count object =>
      simp only [answer, Sequence.answer]
      by_cases beyond : count > (sequences target).capacity
      · rw [if_pos beyond, resize, if_pos (by rwa [capacityEq])]
        exact ⟨rfl, here⟩
      · rw [if_neg beyond]
        exact here.resize (Nat.le_of_not_lt beyond) object
  | reserve capacity allocated =>
      simp only [answer, Sequence.answer, reserve, capacityEq]
      by_cases enough : capacity ≤ (sequences target).capacity
      · rw [if_pos enough, if_neg (Nat.not_lt.mpr enough)]
        exact ⟨rfl, here⟩
      · rw [if_neg enough, if_pos (Nat.lt_of_not_le enough)]
        cases allocated with
        | false => exact ⟨rfl, here⟩
        | true => exact ⟨rfl, here.reallocate (by omega)⟩
  | shrinkToFit allocated =>
      simp only [answer, Sequence.answer, shrinkToFit, capacityEq, sizeEq]
      by_cases full : (sequences target).contents.length = (sequences target).capacity
      · rw [if_pos full, if_neg (by omega)]
        exact ⟨rfl, here⟩
      · rw [if_neg full, if_pos (by omega)]
        cases allocated with
        | false => exact ⟨rfl, here⟩
        | true => exact ⟨rfl, here.reallocate (Nat.le_refl _)⟩
  | copyFrom source =>
      simp only [answer, Sequence.answer]
      by_cases beyond : (sequences source).contents.length > (sequences target).capacity
      · rw [if_pos beyond, FixedVector.copyFrom,
          if_pos (by rwa [(represents source).size_eq, capacityEq])]
        exact ⟨rfl, here⟩
      · rw [if_neg beyond]
        refine Represents.copyFrom represents (Nat.le_of_not_lt beyond) fun same => ?_
        subst same
        have zero : (store source).size = 0 := sound rfl
        rw [sizeEq] at zero
        exact List.eq_nil_of_length_eq_zero zero

theorem system_represents (represents : ∀ name, Represents (store name) (sequences name))
    {op : Op ι T} (given : RangeGiven store op) (sound : Sound store op) (name : ι) :
    Represents ((system.step store op).1 name) ((Sequence.system.step sequences op).1 name) := by
  simp only [system, Sequence.system]
  by_cases called : name = op.target
  · subst called
    rw [update_self, update_self]
    exact (answer_represents represents given sound).2
  · rw [update_of_ne called, update_of_ne called]
    exact represents name

theorem not_agrees_of_not_sound (represents : ∀ name, Represents (store name) (sequences name))
    {op : Op ι T} (given : RangeGiven store op) (unsound : ¬Sound store op) :
    ¬StepAgrees (store, sequences) op := by
  obtain ⟨target, call⟩ := op
  have here := represents target
  rintro ⟨sameAnswer, shows, -⟩
  have shown := shows target
  simp only [System.lockstep, system, Sequence.system, update_self] at sameAnswer shown
  cases call with
  | insertRange pos source start count =>
      simp only [Sound, here.size_eq, here.capacity_eq, (represents source).size_eq,
        Classical.not_imp, not_and_or, not_or] at unsound
      obtain ⟨inside, within, fault⟩ := unsound
      have lies : start + count ≤ (store source).size := given.2
      rw [(represents source).size_eq] at lies
      have bounds : ¬(pos > (sequences target).contents.length ∨
          pos + count > (sequences target).capacity) := by omega
      simp only [answer, Sequence.answer, if_neg bounds] at sameAnswer shown
      by_cases points : start < (sequences source).contents.length
      · obtain ⟨notEnd, positive⟩ := fault.resolve_left (fun missing => missing points)
        exact here.insertRange_middle (represents source) lies points
          (Nat.lt_of_le_of_ne inside notEnd) within (Nat.pos_of_ne_zero positive) shown
      · rw [insertRange, if_neg (by rwa [here.size_eq, here.capacity_eq]),
          if_neg (by rwa [(represents source).size_eq])] at sameAnswer
        cases sameAnswer
  | copyFrom source =>
      simp only [Sound, Classical.not_imp] at unsound
      obtain ⟨rfl, nonempty⟩ := unsound
      have within : ¬(sequences source).contents.length > (sequences source).capacity :=
        Nat.not_lt.mpr here.fits
      have enough : ¬(store source).size > (store source).capacity := by
        rwa [here.size_eq, here.capacity_eq]
      simp only [answer, Sequence.answer, if_neg within, FixedVector.copyFrom, if_neg enough,
        update_self] at shown
      have lost := shown.size_eq
      rw [here.size_eq] at nonempty
      exact nonempty lost.symm
  | _ => exact unsound trivial

theorem stepAgrees_iff (represents : ∀ name, Represents (store name) (sequences name))
    {op : Op ι T} (given : RangeGiven store op) :
    StepAgrees (store, sequences) op ↔ Sound store op := by
  constructor
  · intro agrees
    by_contra unsound
    exact not_agrees_of_not_sound represents given unsound agrees
  · intro sound
    refine ⟨(answer_represents represents given sound).1,
      fun name => (system_represents represents given sound name).shows, fun error failed => ?_⟩
    have unchanged := answer_error failed
    simp only [System.lockstep, system, unchanged, update_eq_self]

end Step

end Gxf.Common.FixedVector
