import Mathlib.Data.List.Basic
import Mathlib.Data.List.Induction

/-!
# Histories of started and stopped objects

An object is started, ticks, and is stopped, again and again.  Its history is a prefix of
`(start tick* stop)*`, where the times of the ticks of one round are in some order.  An
automaton recognizes such histories event by event.
-/

namespace Gxf.Lib.Lifecycle

/-- What happens to an object. -/
inductive Event (Time : Type) where
  | start
  | tick (time : Time)
  | stop
  deriving DecidableEq, Repr

variable {Time : Type} (before : Time → Time → Prop)

/-- A start, ticks in order, and a stop. -/
def IsRound (word : List (Event Time)) : Prop :=
  ∃ times : List Time, times.Pairwise before ∧ word = .start :: times.map .tick ++ [.stop]

/-- A prefix of some rounds. -/
def IsHistory (word : List (Event Time)) : Prop := ∃ rounds : List (List (Event Time)),
    (∀ round ∈ rounds, IsRound before round) ∧ word <+: rounds.flatten

/-- Whole rounds. -/
def IsComplete (word : List (Event Time)) : Prop := ∃ rounds : List (List (Event Time)),
    (∀ round ∈ rounds, IsRound before round) ∧ word = rounds.flatten

/-- The states of the automaton. -/
inductive Phase (Time : Type) where
  | stopped
  /-- Started, with the time of the last tick since. -/
  | running (last : Option Time)
  | broken
  deriving DecidableEq, Repr

/-- Reading one event. -/
def Phase.next [DecidableRel before] : Phase Time → Event Time → Phase Time
  | .stopped, .start => .running none
  | .running last, .tick time =>
      if ∀ earlier ∈ last, before earlier time then .running (some time) else .broken
  | .running _, .stop => .stopped
  | _, _ => .broken

variable [DecidableRel before]

/-- The state after a word. -/
def phase (word : List (Event Time)) : Phase Time := word.foldl (Phase.next before) .stopped

theorem phase_append (word rest : List (Event Time)) :
    phase before (word ++ rest) = rest.foldl (Phase.next before) (phase before word) :=
  List.foldl_append

theorem foldl_broken (word : List (Event Time)) :
    word.foldl (Phase.next before) .broken = .broken := by
  induction word with
  | nil => rfl
  | cons event rest ih => exact ih

/-- What a word looks like that leads to a state. -/
def Describes : Phase Time → List (Event Time) → Prop
  | .stopped, word =>
      ∃ rounds : List (List (Event Time)),
        (∀ round ∈ rounds, IsRound before round) ∧ word = rounds.flatten
  | .running last, word =>
      ∃ (rounds : List (List (Event Time))) (times : List Time),
        (∀ round ∈ rounds, IsRound before round) ∧ times.Pairwise before ∧
          times.getLast? = last ∧ word = rounds.flatten ++ .start :: times.map .tick
  | .broken, _ => True

omit [DecidableRel before] in
theorem pairwise_concat [IsTrans Time before] {times : List Time} {time : Time}
    (ordered : times.Pairwise before) (behind : ∀ last ∈ times.getLast?, before last time) :
    (times ++ [time]).Pairwise before := by
  rcases List.eq_nil_or_concat' times with rfl | ⟨front, last, rfl⟩
  · exact List.pairwise_singleton before time
  · have next : before last time := behind last (by simp)
    have parts := List.pairwise_append.mp ordered
    refine List.pairwise_append.mpr ⟨ordered, List.pairwise_singleton before time, ?_⟩
    intro earlier member later isTime
    rw [List.mem_singleton.mp isTime]
    rcases List.mem_append.mp member with inFront | isLast
    · exact IsTrans.trans _ _ _ (parts.2.2 earlier inFront last (List.mem_singleton_self last)) next
    · rw [List.mem_singleton.mp isLast]
      exact next

theorem describes_phase [IsTrans Time before] (word : List (Event Time)) :
    Describes before (phase before word) word := by
  induction word using List.reverseRecOn with
  | nil => exact ⟨[], by simp, rfl⟩
  | append_singleton word event ih =>
      rw [phase_append, List.foldl_cons, List.foldl_nil]
      cases reached : phase before word with
      | broken => cases event <;> trivial
      | stopped =>
          rw [reached] at ih
          obtain ⟨rounds, areRounds, rfl⟩ := ih
          cases event with
          | start => exact ⟨rounds, [], areRounds, List.Pairwise.nil, rfl, rfl⟩
          | tick | stop => trivial
      | running last =>
          rw [reached] at ih
          obtain ⟨rounds, times, areRounds, ordered, isLast, rfl⟩ := ih
          cases event with
          | start => trivial
          | tick time =>
              rw [Phase.next]
              split
              next behind =>
                refine ⟨rounds, times ++ [time], areRounds, ?_, by simp, by simp⟩
                exact pairwise_concat before ordered (isLast ▸ behind)
              next => trivial
          | stop =>
              refine ⟨rounds ++ [.start :: times.map .tick ++ [.stop]], ?_, by simp⟩
              rw [List.forall_mem_append, List.forall_mem_singleton]
              exact ⟨areRounds, times, ordered, rfl⟩

theorem foldl_ticks (times : List Time) (last : Option Time) (ordered : times.Pairwise before)
    (behind : ∀ earlier ∈ last, ∀ time ∈ times, before earlier time) :
    ∃ latest, (times.map Event.tick).foldl (Phase.next before) (.running last) =
      .running latest := by
  induction times generalizing last with
  | nil => exact ⟨last, rfl⟩
  | cons time rest ih =>
      have inOrder : ∀ earlier ∈ last, before earlier time :=
        fun earlier isLast => behind earlier isLast time (List.mem_cons_self ..)
      obtain ⟨first, others⟩ := List.pairwise_cons.mp ordered
      rw [List.map_cons, List.foldl_cons, Phase.next, if_pos inOrder]
      exact ih (some time) others fun earlier isTime => Option.some.inj isTime ▸ first

theorem phase_flatten {rounds : List (List (Event Time))}
    (areRounds : ∀ round ∈ rounds, IsRound before round) :
    phase before rounds.flatten = .stopped := by
  induction rounds with
  | nil => rfl
  | cons round rest ih =>
      obtain ⟨⟨times, ordered, rfl⟩, others⟩ := List.forall_mem_cons.mp areRounds
      obtain ⟨latest, ticked⟩ := foldl_ticks before times none ordered (by simp)
      have stopped : (Event.start :: times.map Event.tick ++ [Event.stop]).foldl (Phase.next before)
          (.stopped : Phase Time) = .stopped := by
        rw [List.foldl_append, List.foldl_cons]
        exact congrArg (List.foldl (Phase.next before) · [.stop]) ticked
      rw [List.flatten_cons, phase, List.foldl_append, stopped]
      exact ih others

theorem isHistory_iff [IsTrans Time before] (word : List (Event Time)) :
    IsHistory before word ↔ phase before word ≠ .broken := by
  constructor
  · rintro ⟨rounds, areRounds, rest, whole⟩ isBroken
    have stopped := phase_flatten before areRounds
    rw [← whole, phase_append, isBroken, foldl_broken] at stopped
    cases stopped
  · intro notBroken
    have described := describes_phase before word
    cases reached : phase before word with
    | broken => exact absurd reached notBroken
    | stopped =>
        rw [reached] at described
        obtain ⟨rounds, areRounds, rfl⟩ := described
        exact ⟨rounds, areRounds, List.prefix_rfl⟩
    | running last =>
        rw [reached] at described
        obtain ⟨rounds, times, areRounds, ordered, _, rfl⟩ := described
        refine ⟨rounds ++ [.start :: times.map .tick ++ [.stop]], ?_, [.stop], by simp⟩
        rw [List.forall_mem_append, List.forall_mem_singleton]
        exact ⟨areRounds, times, ordered, rfl⟩

theorem isComplete_iff [IsTrans Time before] (word : List (Event Time)) :
    IsComplete before word ↔ phase before word = .stopped := by
  constructor
  · rintro ⟨rounds, areRounds, rfl⟩
    exact phase_flatten before areRounds
  · intro stopped
    have described := describes_phase before word
    rw [stopped] at described
    exact described

end Gxf.Lib.Lifecycle
