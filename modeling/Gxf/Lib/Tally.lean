import Mathlib.Data.List.AList

/-!
# Counting the entries of a table

The number of entries of a finite map whose value satisfies a test, and how it changes
when an entry is inserted, replaced or erased.
-/

namespace Gxf.Lib

/-- A finite map from keys to values. -/
abbrev Table (Key Value : Type) := AList fun _ : Key => Value

variable {Key Value : Type}

/-- The number of entries whose value passes a test. -/
def tally (test : Value → Bool) (table : Table Key Value) : Nat :=
  table.entries.countP fun entry => test entry.2

variable [DecidableEq Key] {table : Table Key Value} {key : Key} {value : Value}

theorem tally_insert (test : Value → Bool) (table : Table Key Value) (key : Key) (value : Value) :
    tally test (table.insert key value) =
      tally test (table.erase key) + if test value then 1 else 0 := by
  rw [tally, AList.entries_insert, List.countP_cons]
  rfl

theorem tally_insert_of_notMem (test : Value → Bool) (fresh : key ∉ table) (value : Value) :
    tally test (table.insert key value) = tally test table + if test value then 1 else 0 := by
  rw [tally, AList.entries_insert_of_notMem fresh, List.countP_cons]
  rfl

theorem tally_of_lookup (test : Value → Bool) (stored : table.lookup key = some value) :
    tally test table = tally test (table.erase key) + if test value then 1 else 0 := by
  have member : key ∈ table := AList.lookup_isSome.mp (by rw [stored, Option.isSome_some])
  obtain ⟨other, front, back, fresh, entries, erased⟩ := List.exists_of_kerase member
  have same : other = value := by
    have found : table.entries.dlookup key = some other := by
      rw [entries, List.dlookup_append, List.dlookup_eq_none.mpr fresh, List.dlookup_cons_eq]
      rfl
    exact Option.some.inj (found.symm.trans stored)
  subst same
  have rest : (table.erase key).entries = front ++ back := erased
  rw [tally, tally, rest, entries, List.countP_append, List.countP_append, List.countP_cons]
  exact (Nat.add_assoc _ _ _).symm

end Gxf.Lib
