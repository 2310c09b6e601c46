import Mathlib.Data.List.Nodup

/-!
# Lists of unique events

A list that stores every event once and hands them out in order.  The table from events
to their places in the list is left out: it has an entry for exactly the events in the
list.  Every function is one step under the mutex of the list.
-/

namespace Gxf.Std

/-- The events of a list, oldest first. -/
structure UniqueEventList (T : Type) where
  list : List T
  nodup : list.Nodup

namespace UniqueEventList

variable {T : Type}

instance [DecidableEq T] : DecidableEq (UniqueEventList T) := fun left right =>
  decidable_of_iff (left.list = right.list) ⟨fun same => by cases left; cases same; rfl, congrArg _⟩

/-- A list without events. -/
def create : UniqueEventList T := ⟨[], List.nodup_nil⟩

variable [DecidableEq T]

/-- `pushEvent(item)`, with whether the event is new. -/
def pushEvent (events : UniqueEventList T) (item : T) : UniqueEventList T × Bool :=
  if listed : item ∈ events.list then (events, false)
  else (⟨events.list.concat item, events.nodup.concat listed⟩, true)

/-- `removeEvent(item)`. -/
def removeEvent (events : UniqueEventList T) (item : T) : UniqueEventList T :=
  ⟨events.list.erase item, events.nodup.erase item⟩

omit [DecidableEq T] in
theorem nodup_of_list {events : UniqueEventList T} {event : T} {rest : List T}
    (isList : events.list = event :: rest) : rest.Nodup :=
  (List.nodup_cons.mp (isList ▸ events.nodup)).2

/-- `popEvent()`, with the rest of the list. -/
def popEvent (events : UniqueEventList T) : Option (T × UniqueEventList T) :=
  match isList : events.list with
  | [] => none
  | event :: rest => some (event, ⟨rest, nodup_of_list isList⟩)

/-- `empty()`. -/
def empty (events : UniqueEventList T) : Bool := events.list.isEmpty

/-- `size()`. -/
def size (events : UniqueEventList T) : Nat := events.list.length

end UniqueEventList

end Gxf.Std
