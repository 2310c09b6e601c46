import Mathlib.Tactic.Basic
import Mathlib.Order.Basic

/-!
# Linear probing

A search through a circular table from a home position on.  It visits every position
at most once, in order of its distance from home, and ends at the first one that
decides.
-/

namespace Gxf.Lib

/-- The position at a distance from home. -/
def probeAt (capacity home distance : Nat) : Nat := (home + distance) % capacity

/-- How many steps a position is behind home. -/
def probeDistance (capacity home position : Nat) : Nat := (position + capacity - home) % capacity

/-- The search loop.  A visit may decide, with or without a result; the loop gives up
when it is back at its start. -/
def probe (capacity : Nat) (visit : Nat → Option (Option Nat)) (start : Nat) :
    (fuel : Nat) → (index : Nat) → Option Nat
  | 0, _ => none
  | fuel + 1, index =>
      match visit index with
      | some result => result
      | none =>
          let next := (index + 1) % capacity
          if next = start then none else probe capacity visit start fuel next

variable {capacity home position distance : Nat}

theorem probeAt_lt (distance : Nat) (homeInside : home < capacity) :
    probeAt capacity home distance < capacity :=
  Nat.mod_lt _ (Nat.zero_lt_of_lt homeInside)

theorem probeDistance_lt (position : Nat) (homeInside : home < capacity) :
    probeDistance capacity home position < capacity :=
  Nat.mod_lt _ (Nat.zero_lt_of_lt homeInside)

theorem probeAt_distance (homeInside : home < capacity) (inside : position < capacity) :
    probeAt capacity home (probeDistance capacity home position) = position := by
  rw [probeAt, probeDistance, Nat.add_mod_mod, Nat.add_sub_cancel' (by omega),
    Nat.add_mod_right, Nat.mod_eq_of_lt inside]

theorem probeDistance_at (distance : Nat) (homeInside : home < capacity)
    (inside : distance < capacity) :
    probeDistance capacity home (probeAt capacity home distance) = distance := by
  by_cases wraps : home + distance < capacity
  · have shifted : home + distance + capacity - home = distance + capacity := by omega
    rw [probeAt, Nat.mod_eq_of_lt wraps, probeDistance, shifted, Nat.add_mod_right,
      Nat.mod_eq_of_lt inside]
  · have position : (home + distance) % capacity = home + distance - capacity := by
      rw [Nat.mod_eq_sub_mod (by omega), Nat.mod_eq_of_lt (by omega)]
    have shifted : home + distance - capacity + capacity - home = distance := by omega
    rw [probeAt, position, probeDistance, shifted, Nat.mod_eq_of_lt inside]

theorem probe_cases (visit : Nat → Option (Option Nat)) (homeInside : home < capacity) :
    (∃ distance < capacity, (∀ before < distance, visit (probeAt capacity home before) = none) ∧
        visit (probeAt capacity home distance) = some (probe capacity visit home capacity home)) ∨
      (∀ distance < capacity, visit (probeAt capacity home distance) = none) ∧
        probe capacity visit home capacity home = none := by
  -- the loop after a number of visits that did not decide
  have continues : ∀ (fuel visited : Nat), visited + (fuel + 1) = capacity →
      (∀ before < visited, visit (probeAt capacity home before) = none) →
      (∃ distance < capacity, (∀ before < distance, visit (probeAt capacity home before) = none) ∧
          visit (probeAt capacity home distance) =
            some (probe capacity visit home (fuel + 1) (probeAt capacity home visited))) ∨
        (∀ distance < capacity, visit (probeAt capacity home distance) = none) ∧
          probe capacity visit home (fuel + 1) (probeAt capacity home visited) = none := by
    intro fuel
    induction fuel with
    | zero =>
        intro visited total undecided
        have next : (probeAt capacity home visited + 1) % capacity = home := by
          rw [probeAt, Nat.mod_add_mod, Nat.add_assoc, total, Nat.add_mod_right,
            Nat.mod_eq_of_lt homeInside]
        rw [probe]
        cases decided : visit (probeAt capacity home visited) with
        | some result => exact .inl ⟨visited, by omega, undecided, decided⟩
        | none =>
            refine .inr ⟨fun distance inside => ?_, by rw [if_pos next]⟩
            by_cases last : distance = visited
            · rw [last, decided]
            · exact undecided distance (by omega)
    | succ fuel ih =>
        intro visited total undecided
        have next : (probeAt capacity home visited + 1) % capacity =
            probeAt capacity home (visited + 1) := by
          rw [probeAt, Nat.mod_add_mod, probeAt, Nat.add_assoc]
        have notBack : ¬probeAt capacity home (visited + 1) = home := by
          intro back
          have atHome := probeDistance_at (visited + 1) homeInside (by omega)
          have zero := probeDistance_at 0 homeInside (by omega)
          rw [back] at atHome
          rw [probeAt, Nat.add_zero, Nat.mod_eq_of_lt homeInside] at zero
          omega
        rw [probe]
        cases decided : visit (probeAt capacity home visited) with
        | some result => exact .inl ⟨visited, by omega, undecided, decided⟩
        | none =>
            dsimp only
            rw [next, if_neg notBack]
            apply ih (visited + 1) (by omega)
            intro before earlier
            by_cases last : before = visited
            · rw [last, decided]
            · exact undecided before (by omega)
  obtain ⟨fuel, total⟩ : ∃ fuel, capacity = fuel + 1 := ⟨capacity - 1, by omega⟩
  have started := continues fuel 0 (by omega) (fun before none => absurd none (Nat.not_lt_zero _))
  have atHome : probeAt capacity home 0 = home := by
    rw [probeAt, Nat.add_zero, Nat.mod_eq_of_lt homeInside]
  rw [← total, atHome] at started
  exact started

theorem probe_of_first (visit : Nat → Option (Option Nat)) (homeInside : home < capacity)
    (inside : distance < capacity)
    (undecided : ∀ before < distance, visit (probeAt capacity home before) = none)
    {result : Option Nat} (decided : visit (probeAt capacity home distance) = some result) :
    probe capacity visit home capacity home = result := by
  obtain ⟨first, -, before, isFirst⟩ | ⟨never, -⟩ := probe_cases visit homeInside
  · have same : first = distance := by
      by_contra different
      cases Nat.lt_or_gt_of_ne different with
      | inl earlier => simp [undecided first earlier] at isFirst
      | inr later => simp [before distance later] at decided
    rw [same, decided] at isFirst
    exact (Option.some.inj isFirst).symm
  · rw [never distance inside] at decided
    cases decided

end Gxf.Lib
