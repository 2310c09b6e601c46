import Gxf.Lib.Tally

/-!
# Inverse tables

Two tables that are looked up in opposite directions.
-/

namespace Gxf.Lib

variable {Key Value : Type} [DecidableEq Key] [DecidableEq Value]

/-- Each table finds what the other is looked up by. -/
def Inverse (forth : Table Key Value) (back : Table Value Key) : Prop :=
  ∀ key value, forth.lookup key = some value ↔ back.lookup value = some key

theorem inverse_empty : Inverse (∅ : Table Key Value) ∅ := fun _ _ => iff_of_false nofun nofun

variable {forth : Table Key Value} {back : Table Value Key} {key : Key} {value : Value}

theorem Inverse.ne_of_notMem (inverse : Inverse forth back) (absent : key ∉ forth)
    (value : Value) : back.lookup value ≠ some key := by
  intro found
  rw [← inverse key value, AList.lookup_eq_none.mpr absent] at found
  cases found

theorem Inverse.insert (inverse : Inverse forth back) (newKey : key ∉ forth)
    (newValue : value ∉ back) : Inverse (forth.insert key value) (back.insert value key) := by
  intro other image
  by_cases isKey : other = key
  · subst isKey
    rw [AList.lookup_insert]
    by_cases isValue : image = value
    · subst isValue
      rw [AList.lookup_insert]
      exact iff_of_true rfl rfl
    · rw [AList.lookup_insert_ne isValue]
      refine iff_of_false (fun same => ?_) (inverse.ne_of_notMem newKey image)
      exact isValue (Option.some.inj same).symm
  · rw [AList.lookup_insert_ne isKey, inverse other image]
    by_cases isValue : image = value
    · subst isValue
      rw [AList.lookup_insert, AList.lookup_eq_none.mpr newValue]
      exact iff_of_false nofun fun same => isKey (Option.some.inj same).symm
    · rw [AList.lookup_insert_ne isValue]

/-- A pair is taken out of both tables. -/
theorem Inverse.erase (inverse : Inverse forth back) (stored : forth.lookup key = some value) :
    Inverse (forth.erase key) (back.erase value) := by
  have found := (inverse key value).mp stored
  intro other image
  by_cases isKey : other = key
  · subst isKey
    rw [AList.lookup_erase]
    refine iff_of_false nofun fun same => ?_
    by_cases isValue : image = value
    · rw [isValue, AList.lookup_erase] at same
      cases same
    · rw [AList.lookup_erase_ne isValue, ← inverse other image, stored] at same
      exact isValue (Option.some.inj same).symm
  · rw [AList.lookup_erase_ne isKey]
    by_cases isValue : image = value
    · subst isValue
      rw [AList.lookup_erase, inverse other image, found]
      exact iff_of_false (fun same => isKey (Option.some.inj same).symm) nofun
    · rw [AList.lookup_erase_ne isValue]
      exact inverse other image

end Gxf.Lib
