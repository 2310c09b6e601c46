import Mathlib.Data.List.Basic

/-!
# Event lists

A list that stores events and hands them out in order.  Every function is one step
under the mutex of the list.
-/

namespace Gxf.Std

/-- The events of a list, oldest first. -/
structure EventList (T : Type*) where
  list : List T
  deriving DecidableEq, Repr

namespace EventList

variable {T : Type*}

/-- `pushEvent(item)`. -/
def pushEvent (events : EventList T) (item : T) : EventList T := ⟨events.list ++ [item]⟩

/-- `removeEvent(item)` removes all instances. -/
def removeEvent [DecidableEq T] (events : EventList T) (item : T) : EventList T :=
  ⟨events.list.filter (· ≠ item)⟩

/-- `popEvent()`, with the rest of the list. -/
def popEvent (events : EventList T) : Option (T × EventList T) :=
  match events.list with
  | [] => none
  | event :: rest => some (event, ⟨rest⟩)

/-- `exportList()`. -/
def exportList (events : EventList T) : List T := events.list

/-- `empty()`. -/
def empty (events : EventList T) : Bool := events.list.isEmpty

/-- `hasEvent(item)`. -/
def hasEvent [DecidableEq T] (events : EventList T) (item : T) : Bool :=
  decide (item ∈ events.list)

variable {events : EventList T} {event : T}

theorem mem_pushEvent {item : T} :
    event ∈ (events.pushEvent item).list ↔ event ∈ events.list ∨ event = item := by
  rw [pushEvent, List.mem_append, List.mem_singleton]

theorem mem_removeEvent [DecidableEq T] {item : T} :
    event ∈ (events.removeEvent item).list ↔ event ∈ events.list ∧ event ≠ item := by
  rw [removeEvent, List.mem_filter, decide_eq_true_eq]

theorem popEvent_list {rest : EventList T}
    (popped : events.popEvent = some (event, rest)) : events.list = event :: rest.list := by
  unfold popEvent at popped
  split at popped
  next => cases popped
  next head tail isList =>
    cases popped
    exact isList

end EventList

end Gxf.Std
