import Gxf.Lib.Lifecycle
import Gxf.Std.EntityExecutor.EntityItem

/-!
# Callbacks

What the calls that an item made say about one codelet: its history, whether it is
started, and the time of a tick that was not completed.  Each of these looks at some of
the calls only, so appended calls can be dealt with group by group.
-/

namespace Gxf.Std

open Gxf.Core Gxf.Lib

namespace Callback

/-- What a call means for the codelet it concerns. -/
def event : Callback → Option (Uid × Lifecycle.Event Int)
  | .start codelet _ => some (codelet, .start)
  | .tick codelet timestamp _ => some (codelet, .tick timestamp)
  | .stop codelet _ => some (codelet, .stop)
  | .onExecute .. | .syncInbox _ | .syncOutbox _ | .control .. => none

def eventOf (codelet : Uid) (callback : Callback) : Option (Lifecycle.Event Int) :=
  match callback.event with
  | some (concerned, event) => if concerned = codelet then some event else none
  | none => none

/-- Whether a call started or stopped a codelet; a failed start does neither. -/
def mark (codelet : Uid) : Callback → Option Bool
  | .start concerned code =>
      if concerned = codelet ∧ code = .GXF_SUCCESS then some true else none
  | .stop concerned _ => if concerned = codelet then some false else none
  | .tick .. | .onExecute .. | .syncInbox _ | .syncOutbox _ | .control .. => none

/-- What a call says about a tick that is not completed. -/
def note : Callback → Option (Option Int)
  | .tick _ timestamp _ => some (some timestamp)
  | .syncOutbox code => if code = .GXF_SUCCESS then some none else none
  | .start .. | .stop .. => some none
  | .onExecute .. | .syncInbox _ | .control .. => none

/-- Whether a call is a tick of a codelet. -/
def isTick : Callback → Bool
  | .tick .. => true
  | .start .. | .stop .. | .onExecute .. | .syncInbox _ | .syncOutbox _ | .control .. => false

/-- Whether a call went neither to a codelet nor at the end of a tick. -/
def isPlain : Callback → Bool
  | .syncInbox _ | .control .. => true
  | .start .. | .tick .. | .stop .. | .onExecute .. | .syncOutbox _ => false

end Callback

/-- The start, tick and stop calls that a codelet observes. -/
def observed (codelet : Uid) (callbacks : List Callback) : List (Lifecycle.Event Int) :=
  callbacks.filterMap (Callback.eventOf codelet)

/-- The last successful start of a codelet has not been followed by a stop. -/
def running (codelet : Uid) (callbacks : List Callback) : Prop :=
  (callbacks.filterMap (Callback.mark codelet)).getLast? = some true

instance (codelet : Uid) (callbacks : List Callback) : Decidable (running codelet callbacks) :=
  inferInstanceAs (Decidable (_ = _))

/-- The time of the last tick, unless it was completed or the entity was stopped since. -/
def unfinished (callbacks : List Callback) : Option Int :=
  (callbacks.filterMap Callback.note).getLast?.join

/-- After the calls `before`, every tick finds all codelets started. -/
def StartedFirst (codelets : List Uid) : (before : List Callback) → List Callback → Prop
  | _, [] => True
  | before, callback :: rest =>
      (callback.isTick = true → ∀ codelet ∈ codelets, running codelet before) ∧
        StartedFirst codelets (before ++ [callback]) rest

/-- A call that says nothing about codelets. -/
def Quiet (callback : Callback) : Prop := callback.event = none ∧ callback.note = none

theorem quiet_of_isPlain {callback : Callback} (plain : callback.isPlain = true) :
    Quiet callback := by
  cases callback with
  | syncInbox | control => exact ⟨rfl, rfl⟩
  | start | tick | stop | onExecute | syncOutbox => cases plain

section Views

variable {codelet : Uid} {codelets : List Uid} {callbacks extra : List Callback}

theorem observed_append (codelet : Uid) (callbacks extra : List Callback) :
    observed codelet (callbacks ++ extra) = observed codelet callbacks ++ observed codelet extra :=
  List.filterMap_append

variable {Value : Type} {callback : Callback} {value : Option Int} {before : List Callback}

theorem filterMap_map_nodup (view : Callback → Option Value) (value : Value)
    (make : Uid → Callback) (about : ∀ other, view (make other) = if other = codelet then some value
      else none) {list : List Uid} (nodup : list.Nodup) :
    (list.map make).filterMap view = if codelet ∈ list then [value] else [] := by
  induction list with
  | nil => rfl
  | cons head rest ih =>
      obtain ⟨fresh, others⟩ := List.nodup_cons.mp nodup
      rw [List.map_cons, List.filterMap_cons, about, ih others]
      by_cases same : head = codelet
      · subst same
        simp [fresh]
      · simp [same, Ne.symm same]

theorem mark_of_event_eq_none (silent : callback.event = none)
    (codelet : Uid) : callback.mark codelet = none := by
  cases callback with
  | start | tick | stop => cases silent
  | onExecute | syncInbox | syncOutbox | control => rfl

theorem isTick_of_event_eq_none (silent : callback.event = none) : callback.isTick = false := by
  cases callback with
  | start | tick | stop => cases silent
  | onExecute | syncInbox | syncOutbox | control => rfl

theorem filterMap_append_silent {view : Callback → Option Value}
    (silent : ∀ callback ∈ extra, view callback = none) (callbacks : List Callback) :
    (callbacks ++ extra).filterMap view = callbacks.filterMap view := by
  rw [List.filterMap_append, List.filterMap_eq_nil_iff.mpr silent, List.append_nil]

theorem observed_append_silent (silent : ∀ callback ∈ extra, callback.event = none)
    (codelet : Uid) (callbacks : List Callback) :
    observed codelet (callbacks ++ extra) = observed codelet callbacks :=
  filterMap_append_silent
    (fun callback member => by rw [Callback.eventOf, silent callback member]) callbacks

theorem running_append_silent (silent : ∀ callback ∈ extra, callback.mark codelet = none)
    (callbacks : List Callback) :
    running codelet (callbacks ++ extra) ↔ running codelet callbacks := by
  rw [running, filterMap_append_silent silent, running]

theorem unfinished_append_silent (silent : ∀ callback ∈ extra, callback.note = none)
    (callbacks : List Callback) : unfinished (callbacks ++ extra) = unfinished callbacks := by
  rw [unfinished, filterMap_append_silent silent, unfinished]

theorem unfinished_concat (noted : callback.note = some value) (callbacks : List Callback) :
    unfinished (callbacks ++ [callback]) = value := by
  simp [unfinished, List.filterMap_append, noted]

theorem startedFirst_append (codelets : List Uid) (before callbacks extra : List Callback) :
    StartedFirst codelets before (callbacks ++ extra) ↔ StartedFirst codelets before callbacks ∧
        StartedFirst codelets (before ++ callbacks) extra := by
  induction callbacks generalizing before with
  | nil => simp [StartedFirst]
  | cons callback rest ih => simp [StartedFirst, ih, and_assoc]

theorem startedFirst_of_running
    (silent : ∀ callback ∈ extra, ∀ codelet ∈ codelets, callback.mark codelet = none)
    (started : ∀ codelet ∈ codelets, running codelet before) :
    StartedFirst codelets before extra := by
  induction extra generalizing before with
  | nil => trivial
  | cons callback rest ih =>
      obtain ⟨here, later⟩ := List.forall_mem_cons.mp silent
      refine ⟨fun _ => started, ih later fun codelet member => ?_⟩
      rw [running_append_silent]
      · exact started codelet member
      · exact fun other isCallback => List.mem_singleton.mp isCallback ▸ here codelet member

theorem startedFirst_of_noTick (noTick : ∀ callback ∈ extra, callback.isTick = false) :
    StartedFirst codelets before extra := by
  induction extra generalizing before with
  | nil => trivial
  | cons callback rest ih =>
      obtain ⟨here, later⟩ := List.forall_mem_cons.mp noTick
      exact ⟨fun isTick => absurd (here.symm.trans isTick) (by decide), ih later⟩

variable {list : List Uid} (answer : Uid → GxfResult)

theorem observed_starts (codelet : Uid) (nodup : list.Nodup) :
    observed codelet (list.map fun other => .start other (answer other)) =
      if codelet ∈ list then [.start] else [] :=
  filterMap_map_nodup _ _ _ (fun _ => rfl) nodup

theorem observed_ticks (codelet : Uid) (timestamp : Int) (nodup : list.Nodup) :
    observed codelet (list.map fun other => .tick other timestamp (answer other)) =
      if codelet ∈ list then [.tick timestamp] else [] :=
  filterMap_map_nodup _ _ _ (fun _ => rfl) nodup

theorem observed_stops (codelet : Uid) (nodup : list.Nodup) :
    observed codelet (list.map fun other => .stop other (answer other)) =
      if codelet ∈ list then [.stop] else [] :=
  filterMap_map_nodup _ _ _ (fun _ => rfl) nodup

theorem running_append (codelet : Uid) (callbacks : List Callback) {mark : Bool}
    (isLast : (extra.filterMap (Callback.mark codelet)).getLast? = some mark) :
    running codelet (callbacks ++ extra) ↔ mark = true := by
  rw [running, List.filterMap_append, List.getLast?_append, isLast, Option.some_or,
    Option.some.injEq]

theorem running_append_starts (codelet : Uid) (callbacks : List Callback) (nodup : list.Nodup) :
    running codelet (callbacks ++ list.map fun other => .start other (answer other)) ↔
      codelet ∈ list ∧ answer codelet = .GXF_SUCCESS ∨ running codelet callbacks := by
  by_cases succeeds : answer codelet = .GXF_SUCCESS
  · have marks := filterMap_map_nodup (Callback.mark codelet) true
      (fun other => .start other (answer other)) (fun other => by
        by_cases same : other = codelet
        · subst same
          exact (if_pos ⟨rfl, succeeds⟩).trans (if_pos rfl).symm
        · exact (if_neg fun both => same both.1).trans (if_neg same).symm) nodup
    by_cases member : codelet ∈ list
    · rw [if_pos member] at marks
      rw [running_append codelet callbacks (congrArg List.getLast? marks)]
      exact iff_of_true rfl (.inl ⟨member, succeeds⟩)
    · rw [if_neg member] at marks
      rw [running, List.filterMap_append, marks, List.append_nil]
      exact ⟨.inr, fun either => either.resolve_left fun both => member both.1⟩
  · rw [running_append_silent]
    · exact ⟨.inr, fun either => either.resolve_left fun both => succeeds both.2⟩
    · rw [List.forall_mem_map]
      rintro other -
      refine if_neg ?_
      rintro ⟨rfl, code⟩
      exact succeeds code

theorem not_running_append_stops (callbacks : List Callback) (nodup : list.Nodup)
    (member : codelet ∈ list) :
    ¬running codelet (callbacks ++ list.map fun other => .stop other (answer other)) := by
  have marks := filterMap_map_nodup (Callback.mark codelet) false
    (fun other => .stop other (answer other)) (fun _ => rfl) nodup
  rw [if_pos member] at marks
  rw [running_append codelet callbacks (congrArg List.getLast? marks)]
  exact Bool.false_ne_true

theorem mark_ticks (codelet : Uid) (timestamp : Int) :
    ∀ callback ∈ list.map fun other => Callback.tick other timestamp (answer other),
      callback.mark codelet = none :=
  List.forall_mem_map.mpr fun _ _ => rfl

theorem unfinished_append_map (callbacks : List Callback) {make : Uid → Callback}
    (noted : ∀ other, (make other).note = some value) (nonempty : list ≠ []) :
    unfinished (callbacks ++ list.map make) = value := by
  obtain ⟨front, last, rfl⟩ := (List.eq_nil_or_concat' list).resolve_left nonempty
  rw [List.map_append, ← List.append_assoc]
  exact unfinished_concat (noted last) _

end Views

end Gxf.Std
