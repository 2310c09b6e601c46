import Mathlib.Logic.ExistsUnique
import Mathlib.Tactic.Basic

/-!
# Custody

An item of a system is held at one place at most, and at one place exactly as long as it is due.
The module says which changes of the places keep it so: an item enters, moves from one place to
another, leaves, or is lost when it is not due.
-/

namespace Gxf.Lib

variable {Place Item : Type*}

/-- No item is held at two places, only live items are held, and every item that is due is held
somewhere. -/
structure SoleCustody (held : Place → Item → Prop) (live due : Item → Prop) : Prop where
  somewhere : ∀ item, due item → ∃ place, held place item
  once : ∀ {item first second}, held first item → held second item → first = second
  known : ∀ {place item}, held place item → live item

namespace SoleCustody

variable {held next : Place → Item → Prop} {live nextLive due nextDue : Item → Prop}
  {item : Item} {source target : Place}

section

variable (custody : SoleCustody held live due)
include custody

theorem existsUnique (isDue : due item) : ∃! place, held place item := by
  obtain ⟨place, here⟩ := custody.somewhere item isDue
  exact ⟨place, here, fun other there => custody.once there here⟩

theorem only (here : held source item) :
    ∀ place, held place item → place = source := fun _ there => custody.once there here

theorem thin (kept : ∀ place other, next place other → held place other)
    (lives : ∀ other, live other → nextLive other) (none : ∀ other, ¬nextDue other) :
    SoleCustody next nextLive nextDue := by
  refine ⟨fun other isDue => absurd isDue (none other), fun first second => ?_, fun there => ?_⟩
  · exact custody.once (kept _ _ first) (kept _ _ second)
  · exact lives _ (custody.known (kept _ _ there))

/-- Nothing moves. -/
theorem congr (same : ∀ place other, next place other ↔ held place other)
    (lives : ∀ other, live other → nextLive other) (dues : ∀ other, nextDue other → due other) :
    SoleCustody next nextLive nextDue := by
  refine ⟨fun other isDue => ?_, fun first second => ?_, fun there => ?_⟩
  · obtain ⟨place, here⟩ := custody.somewhere other (dues other isDue)
    exact ⟨place, (same place other).mpr here⟩
  · exact custody.once ((same _ _).mp first) ((same _ _).mp second)
  · exact lives _ (custody.known ((same _ _).mp there))

theorem enter (fresh : ¬live item)
    (enters : ∀ place other, next place other ↔ (place = target ∧ other = item) ∨ held place other)
    (isLive : nextLive item) (lives : ∀ other, live other → nextLive other)
    (dues : ∀ other, nextDue other → other = item ∨ due other) :
    SoleCustody next nextLive nextDue := by
  refine ⟨fun other isDue => ?_, fun {other} _ _ first second => ?_, fun there => ?_⟩
  · obtain rfl | isDue := dues other isDue
    · exact ⟨target, (enters _ _).mpr (.inl ⟨rfl, rfl⟩)⟩
    · obtain ⟨place, here⟩ := custody.somewhere other isDue
      exact ⟨place, (enters _ _).mpr (.inr here)⟩
  · obtain ⟨rfl, rfl⟩ | first := (enters _ _).mp first
    · obtain ⟨rfl, -⟩ | second := (enters _ _).mp second
      · rfl
      · exact absurd (custody.known second) fresh
    · obtain ⟨-, rfl⟩ | second := (enters _ _).mp second
      · exact absurd (custody.known first) fresh
      · exact custody.once first second
  · obtain ⟨-, rfl⟩ | there := (enters _ _).mp there
    · exact isLive
    · exact lives _ (custody.known there)

theorem move (isLive : live item) (fromThere : ∀ place, held place item → place = source)
    (moves : ∀ place other, next place other ↔
      (place = target ∧ other = item) ∨ held place other ∧ ¬(place = source ∧ other = item))
    (lives : ∀ other, live other → nextLive other) (dues : ∀ other, nextDue other → due other) :
    SoleCustody next nextLive nextDue := by
  refine ⟨fun other isDue => ?_, fun {other} _ _ first second => ?_, fun there => ?_⟩
  · by_cases same : other = item
    · exact ⟨target, (moves _ _).mpr (.inl ⟨rfl, same⟩)⟩
    · obtain ⟨place, there⟩ := custody.somewhere other (dues other isDue)
      exact ⟨place, (moves _ _).mpr (.inr ⟨there, fun both => same both.2⟩)⟩
  · obtain ⟨rfl, rfl⟩ | ⟨first, elsewhere⟩ := (moves _ _).mp first
    · obtain ⟨rfl, -⟩ | ⟨second, elsewhere⟩ := (moves _ _).mp second
      · rfl
      · exact absurd ⟨fromThere _ second, rfl⟩ elsewhere
    · obtain ⟨-, rfl⟩ | ⟨second, -⟩ := (moves _ _).mp second
      · exact absurd ⟨fromThere _ first, rfl⟩ elsewhere
      · exact custody.once first second
  · obtain ⟨-, rfl⟩ | ⟨there, -⟩ := (moves _ _).mp there
    · exact lives _ isLive
    · exact lives _ (custody.known there)

theorem leave (here : held source item) (leaves : ∀ place other, next place other ↔
      held place other ∧ ¬(place = source ∧ other = item))
    (lives : ∀ other, live other → other ≠ item → nextLive other)
    (dues : ∀ other, nextDue other → due other ∧ other ≠ item) :
    SoleCustody next nextLive nextDue := by
  refine ⟨fun other isDue => ?_, fun first second => ?_, fun {place other} there => ?_⟩
  · obtain ⟨isDue, different⟩ := dues other isDue
    obtain ⟨place, there⟩ := custody.somewhere other isDue
    exact ⟨place, (leaves _ _).mpr ⟨there, fun both => different both.2⟩⟩
  · exact custody.once ((leaves _ _).mp first).1 ((leaves _ _).mp second).1
  · obtain ⟨there, elsewhere⟩ := (leaves _ _).mp there
    refine lives _ (custody.known there) fun same => elsewhere ⟨?_, same⟩
    exact custody.once there (same ▸ here)

end

end SoleCustody

end Gxf.Lib
