import Gxf.Lib.Run
import Gxf.Std.Synchronization.Tick

/-!
# Streams through the synchronization codelet

Messages arrive on the inputs in the order of their times, and ticks are taken in between.
If the messages of every input keep a gap of more than two thresholds, the tuples of messages
that belong together are published, in order, and no member of one is dropped.
-/

namespace Gxf.Std.Synchronization

open Gxf.Lib

variable {n : Nat}

/-- The waiting messages, with all that were delivered and dropped on each input and what
was published by the ticks that published something. -/
structure Flow (n : Nat) where
  queues : Fin n → List Message := fun _ => []
  delivered : Fin n → List Message := fun _ => []
  dropped : Fin n → List Message := fun _ => []
  published : List (Fin n → Option Message) := []

/-- A message arrives on an input, or the codelet ticks. -/
inductive Op (n : Nat) where
  | arrive (input : Fin n) (message : Message)
  | tick

/-- The end of a queue is at the end of its list. -/
def push (queues : Fin n → List Message) (input : Fin n) (message : Message) :
    Fin n → List Message :=
  Function.update queues input (queues input ++ [message])

def Flow.step (threshold : Int64) (flow : Flow n) : Op n → Flow n
  | .arrive input message =>
      { flow with
        queues := push flow.queues input message
        delivered := push flow.delivered input message }
  | .tick =>
      let ticked := Synchronization.tick threshold flow.queues
      { flow with
        queues := ticked.queues
        dropped := fun i => flow.dropped i ++ ticked.dropped i
        published :=
          if ∃ i, ticked.published i ≠ none then flow.published ++ [ticked.published]
          else flow.published }

/-- The codelet with its inputs. -/
def system (threshold : Int64) : System (Flow n) (Op n) Unit where
  step flow op := (flow.step threshold op, ())

def arrivals (input : Fin n) : List (Op n) → List Message
  | [] => []
  | .arrive other message :: rest =>
      if other = input then message :: arrivals input rest else arrivals input rest
  | .tick :: rest => arrivals input rest

/-! ## Tuples -/

/-- One message from every stream, near each other. -/
structure IsTuple (threshold : Int64) (streams : Fin n → List Message)
    (tuple : Fin n → Message) : Prop where
  member : ∀ i, tuple i ∈ streams i
  near : ∀ i j, Near threshold.toInt (tuple i).time (tuple j).time

/-- Streams of messages that keep the gap. -/
structure Regular (threshold : Int64) (streams : Fin n → List Message) : Prop where
  positive : 0 ≤ threshold.toInt
  spaced : ∀ i, Spaced (2 * threshold.toInt) (streams i)
  nonneg : ∀ i, ∀ message ∈ streams i, 0 ≤ message.time

variable {threshold : Int64} {streams : Fin n → List Message} {first second : Fin n → Message}

theorem Regular.eq_of_meet (regular : Regular threshold streams)
    (firstTuple : IsTuple threshold streams first)
    (secondTuple : IsTuple threshold streams second) {i : Fin n} (meet : first i = second i) :
    first = second := by
  funext j
  refine (regular.spaced j).eq_of_near (firstTuple.member j) (secondTuple.member j) ?_
  have near := firstTuple.near i j
  have other := secondTuple.near i j
  rw [meet] at near
  rw [Near] at near other ⊢
  omega

/-- What happened so far agrees with the streams: every message that left its queue was
dropped or published, and no tuple lost a member unless it was published. -/
structure Settled (threshold : Int64) (streams : Fin n → List Message) (flow : Flow n)
    (removed : Fin n → List Message) (tuples : List (Fin n → Message)) : Prop where
  parts : ∀ i, flow.delivered i = removed i ++ flow.queues i
  arrived : ∀ i, flow.delivered i <+: streams i
  mem_removed : ∀ i message, message ∈ removed i ↔
    message ∈ flow.dropped i ∨ ∃ tuple ∈ tuples, tuple i = message
  published : flow.published = tuples.map fun tuple i => some (tuple i)
  isTuple : ∀ tuple ∈ tuples, IsTuple threshold streams tuple
  notDropped : ∀ tuple ∈ tuples, ∀ i, tuple i ∉ flow.dropped i
  sorted : tuples.Pairwise fun earlier later => ∀ i, (earlier i).time < (later i).time
  kept : ∀ tuple, IsTuple threshold streams tuple → tuple ∈ tuples ∨ ∀ i, tuple i ∉ removed i

namespace Settled

variable {flow : Flow n} {removed : Fin n → List Message} {tuples : List (Fin n → Message)}

section

variable (settled : Settled threshold streams flow removed tuples)
include settled

theorem split (i : Fin n) : ∃ future, streams i = removed i ++ (flow.queues i ++ future) := by
  obtain ⟨future, stream⟩ := settled.arrived i
  exact ⟨future, by rw [← stream, settled.parts i, List.append_assoc]⟩

theorem queue_sublist (i : Fin n) : (flow.queues i).Sublist (streams i) := by
  obtain ⟨future, stream⟩ := settled.split i
  rw [stream]
  exact (List.sublist_append_left _ _).trans (List.sublist_append_right _ _)

theorem older (regular : Regular threshold streams) {i : Fin n} {before after : Message}
    (gone : before ∈ removed i) (waits : after ∈ flow.queues i) :
    before.time < after.time := by
  obtain ⟨future, stream⟩ := settled.split i
  have spaced := regular.spaced i
  rw [Spaced, stream] at spaced
  have gap := (List.pairwise_append.mp spaced).2.2 before gone after (List.mem_append_left _ waits)
  have positive := regular.positive
  omega

theorem inOrder (regular : Regular threshold streams) (i : Fin n) : InOrder (flow.queues i) := by
  have positive := regular.positive
  exact ((regular.spaced i).sublist (settled.queue_sublist i)).imp fun gap => by omega

end

variable {latest : Int64}

section

variable (settled : Settled threshold streams flow removed tuples)
include settled

theorem fresh (regular : Regular threshold streams) (isLatest : Latest flow.queues latest)
    {tuple : Fin n → Message} (isTuple : IsTuple threshold streams tuple)
    (whole : ∀ i, tuple i ∉ removed i) (i : Fin n) :
    stale threshold latest (tuple i) = false := by
  rw [Bool.eq_false_iff, ne_eq, stale_iff isLatest.nonneg regular.positive]
  have positive := regular.positive
  obtain zero | ⟨k, oldest, head, same⟩ := isLatest.attained
  · have nonneg := regular.nonneg i _ (isTuple.member i)
    omega
  · have notBefore : oldest.time ≤ (tuple k).time := by
      obtain ⟨rest, waiting⟩ := List.head?_eq_some_iff.mp head
      obtain ⟨future, stream⟩ := settled.split k
      have spaced := regular.spaced k
      have member := isTuple.member k
      rw [Spaced, stream] at spaced
      rw [stream] at member
      have later := (List.pairwise_append.mp spaced).2.1
      have among := (List.mem_append.mp member).resolve_left (whole k)
      rw [waiting, List.cons_append] at later among
      rcases List.mem_cons.mp among with isOldest | behind
      · rw [isOldest]
      · have gap := (List.pairwise_cons.mp later).1 _ behind
        omega
    have near := isTuple.near i k
    rw [Near] at near
    omega

theorem arrive (input : Fin n) (message : Message)
    (arrived : ∀ i, push flow.delivered input message i <+: streams i) :
    Settled threshold streams (flow.step threshold (.arrive input message)) removed tuples := by
  refine { settled with parts := fun i => ?_, arrived := arrived }
  by_cases same : i = input
  · subst same
    simp only [Flow.step, push, Function.update_self, settled.parts, List.append_assoc]
  · simp only [Flow.step, push, Function.update_of_ne same, settled.parts]

theorem drop (regular : Regular threshold streams) (isLatest : Latest flow.queues latest) :
    Settled threshold streams
      { flow with
        queues := fun i => (flow.queues i).dropWhile (stale threshold latest)
        dropped := fun i =>
          flow.dropped i ++ (flow.queues i).takeWhile (stale threshold latest) }
      (fun i => removed i ++ (flow.queues i).takeWhile (stale threshold latest)) tuples where
  parts i := by
    rw [settled.parts i, List.append_assoc, List.takeWhile_append_dropWhile]
  arrived := settled.arrived
  mem_removed i message := by
    rw [List.mem_append, List.mem_append, settled.mem_removed i message]
    exact or_right_comm
  published := settled.published
  isTuple := settled.isTuple
  notDropped tuple member i gone := by
    rcases List.mem_append.mp gone with before | now
    · exact settled.notDropped tuple member i before
    · have removed := (settled.mem_removed i _).mpr (.inr ⟨tuple, member, rfl⟩)
      have waiting := (List.takeWhile_sublist _).subset now
      exact absurd (settled.older regular removed waiting) (Int.lt_irrefl _)
  sorted := settled.sorted
  kept tuple isTuple := by
    refine (settled.kept tuple isTuple).imp id fun whole i gone => ?_
    rcases List.mem_append.mp gone with before | now
    · exact whole i before
    · have fresh := settled.fresh regular isLatest isTuple whole i
      exact absurd (List.mem_takeWhile_imp now) (by rw [fresh]; exact Bool.false_ne_true)

theorem send (regular : Regular threshold streams) {sent : Fin n → Message}
    {rest : Fin n → List Message}
    (sends : ∀ i, flow.queues i = sent i :: rest i)
    (isTuple : IsTuple threshold streams sent) :
    Settled threshold streams
      { flow with
        queues := rest
        published := flow.published ++ [fun i => some (sent i)] }
      (fun i => removed i ++ [sent i]) (tuples ++ [sent]) where
  parts i := by
    rw [settled.parts i, sends i, List.append_assoc, List.singleton_append]
  arrived := settled.arrived
  mem_removed i message := by
    rw [List.mem_append, List.mem_singleton, settled.mem_removed i message, or_assoc]
    refine or_congr_right ⟨?_, ?_⟩
    · rintro (⟨tuple, member, same⟩ | same)
      · exact ⟨tuple, List.mem_append_left _ member, same⟩
      · exact ⟨sent, List.mem_append_right _ (List.mem_singleton_self _), same.symm⟩
    · rintro ⟨tuple, member, same⟩
      rcases List.mem_append.mp member with before | now
      · exact .inl ⟨tuple, before, same⟩
      · rw [List.mem_singleton.mp now] at same
        exact .inr same.symm
  published := by rw [settled.published, List.map_append, List.map_singleton]
  isTuple := List.forall_mem_append.mpr ⟨settled.isTuple, fun tuple same => by
    rw [List.mem_singleton.mp same]
    exact isTuple⟩
  notDropped := by
    refine List.forall_mem_append.mpr ⟨settled.notDropped, fun tuple same i gone => ?_⟩
    rw [List.mem_singleton.mp same] at gone
    have removed := (settled.mem_removed i _).mpr (.inl gone)
    have waiting : sent i ∈ flow.queues i := by
      rw [sends i]
      exact List.mem_cons_self ..
    exact absurd (settled.older regular removed waiting) (Int.lt_irrefl _)
  sorted := by
    refine List.pairwise_append.mpr
      ⟨settled.sorted, List.pairwise_singleton _ _, fun earlier member later same i => ?_⟩
    rw [List.mem_singleton.mp same]
    have waiting : sent i ∈ flow.queues i := by
      rw [sends i]
      exact List.mem_cons_self ..
    exact settled.older regular ((settled.mem_removed i _).mpr (.inr ⟨earlier, member, rfl⟩))
      waiting
  kept tuple isOther := by
    by_cases same : tuple = sent
    · exact .inl (List.mem_append_right _ (List.mem_singleton.mpr same))
    · refine (settled.kept tuple isOther).imp (List.mem_append_left _) fun whole i gone => ?_
      rcases List.mem_append.mp gone with before | now
      · exact whole i before
      · exact same (regular.eq_of_meet isOther isTuple (List.mem_singleton.mp now))

theorem tick (regular : Regular threshold streams) (input : Fin n) : ∃ removed tuples,
      Settled threshold streams (flow.step threshold .tick) removed tuples := by
  obtain ⟨-, code, unchanged⟩ |
    ⟨latest, -, isLatest, ⟨-, drops⟩ | ⟨found, sent, rest, finds, sends, ticked⟩⟩ :=
      tick_spec regular.positive (settled.inOrder regular)
  · have same : flow.step threshold .tick = flow := by
      simp [Flow.step, unchanged]
    exact ⟨removed, tuples, by rwa [same]⟩
  · have dropped := settled.drop regular isLatest
    have next : flow.step threshold .tick =
        { flow with
          queues := fun i => (flow.queues i).dropWhile (stale threshold latest)
          dropped := fun i =>
            flow.dropped i ++ (flow.queues i).takeWhile (stale threshold latest) } := by
      simp [Flow.step, drops]
    rw [← next] at dropped
    exact ⟨_, tuples, dropped⟩
  · have same : ∀ i, sent i = found i := by
      intro i
      have spaced : Spaced (2 * threshold.toInt) (flow.queues i) :=
        (regular.spaced i).sublist (settled.queue_sublist i)
      refine spaced.eq_of_near (sends.member i) (finds.member i) ?_
      have sentNear := sends.inside i
      have foundNear := finds.inside i
      rw [Near] at sentNear foundNear ⊢
      omega
    have isTuple : IsTuple threshold streams sent :=
      ⟨fun i => (settled.queue_sublist i).subset (sends.member i), fun i j => by
        rw [same i, same j]
        exact finds.near i j⟩
    have after := (settled.drop regular isLatest).send regular sends.fresh isTuple
    have next : flow.step threshold .tick =
        { flow with
          queues := rest
          dropped := fun i =>
            flow.dropped i ++ (flow.queues i).takeWhile (stale threshold latest)
          published := flow.published ++ [fun i => some (sent i)] } := by
      have something : ∃ i : Fin n, (some (sent i) : Option Message) ≠ none :=
        ⟨input, Option.some_ne_none _⟩
      simp only [Flow.step, ticked, if_pos something]
    rw [← next] at after
    exact ⟨_, _, after⟩

end

end Settled

theorem push_append (queues : Fin n → List Message) (input : Fin n) (message : Message)
    (rest : List (Op n)) (i : Fin n) :
    push queues input message i ++ arrivals i rest =
      queues i ++ arrivals i (.arrive input message :: rest) := by
  by_cases same : input = i
  · subst same
    rw [push, Function.update_self, arrivals, if_pos rfl, List.append_assoc, List.singleton_append]
  · rw [push, Function.update_of_ne (Ne.symm same), arrivals, if_neg same]

variable {flow : Flow n} {removed : Fin n → List Message} {tuples : List (Fin n → Message)}

theorem Settled.run (settled : Settled threshold streams flow removed tuples)
    (regular : Regular threshold streams) (input : Fin n) (ops : List (Op n))
    (arrive : ∀ i, flow.delivered i ++ arrivals i ops <+: streams i) :
    ∃ removed tuples, Settled threshold streams ((system threshold).run flow ops) removed tuples ∧
        ∀ i, ((system threshold).run flow ops).delivered i =
          flow.delivered i ++ arrivals i ops := by
  induction ops generalizing flow removed tuples with
  | nil => exact ⟨removed, tuples, settled, fun i => (List.append_nil _).symm⟩
  | cons op rest ih =>
      cases op with
      | arrive target message =>
          have delivers : ∀ i, push flow.delivered target message i ++ arrivals i rest <+:
              streams i := by
            intro i
            rw [push_append]
            exact arrive i
          have arrived := fun i => (List.prefix_append _ _).trans (delivers i)
          obtain ⟨nextRemoved, nextTuples, next, delivered⟩ :=
            ih (settled.arrive target message arrived) delivers
          exact ⟨nextRemoved, nextTuples, next, fun i =>
            (delivered i).trans (push_append flow.delivered target message rest i)⟩
      | tick =>
          obtain ⟨tickRemoved, tickTuples, ticked⟩ := settled.tick regular input
          exact ih ticked arrive

/-- What has been published is every tuple no member of which is still to come or waits, in
the order of times, and nothing else; and no member of a tuple has been dropped.  As long as
all inputs have a message, every tick takes one, unless a sum of times wraps around. -/
structure Complete (threshold : Int64) (streams : Fin n → List Message)
    (arrived : Fin n → List Message) (flow : Flow n) : Prop where
  tuples : ∃ tuples : List (Fin n → Message),
    flow.published = (tuples.map fun tuple i => some (tuple i)) ∧
      (tuples.Pairwise fun earlier later => ∀ i, (earlier i).time < (later i).time) ∧
      ∀ tuple, tuple ∈ tuples ↔ IsTuple threshold streams tuple ∧
        ∀ i, tuple i ∈ arrived i ∧ tuple i ∉ flow.queues i
  kept : ∀ tuple, IsTuple threshold streams tuple → ∀ i, tuple i ∉ flow.dropped i
  progress : (∀ i, flow.queues i ≠ []) → n < 2 ^ 32 → (∀ i, ∀ message ∈ flow.queues i,
      message.timestamps ≠ [] ∧ message.time + threshold.toInt < 2 ^ 63) →
    ∃ i, ((flow.step threshold .tick).queues i).length < (flow.queues i).length

theorem Settled.complete (settled : Settled threshold streams flow removed tuples)
    (regular : Regular threshold streams) (input : Fin n) :
    Complete threshold streams flow.delivered flow := by
  have apart : ∀ i message, message ∈ removed i → message ∉ flow.queues i :=
    fun i message gone waits => absurd (settled.older regular gone waits) (Int.lt_irrefl _)
  refine ⟨⟨tuples, settled.published, settled.sorted, fun tuple => ⟨fun member => ?_, ?_⟩⟩,
    fun tuple isTuple i dropped => ?_, fun waiting few messages => ?_⟩
  · refine ⟨settled.isTuple tuple member, fun i => ?_⟩
    have gone := (settled.mem_removed i _).mpr (.inr ⟨tuple, member, rfl⟩)
    refine ⟨?_, apart i _ gone⟩
    rw [settled.parts i]
    exact List.mem_append_left _ gone
  · rintro ⟨isTuple, served⟩
    refine (settled.kept tuple isTuple).resolve_right fun whole => whole input ?_
    have arrived := (served input).1
    rw [settled.parts input] at arrived
    exact (List.mem_append.mp arrived).resolve_right (served input).2
  · have gone := (settled.mem_removed i _).mpr (.inl dropped)
    obtain member | whole := settled.kept tuple isTuple
    · exact settled.notDropped tuple member i dropped
    · exact whole i gone
  · refine tick_progress regular.positive ?_ (fun i => ?_)
      (fun i message member => (messages i message member).2) input few
    · rintro (⟨i, empty⟩ | ⟨i, message, member, bare⟩)
      · exact waiting i empty
      · exact (messages i message member).1 bare
    · exact (regular.spaced i).sublist (settled.queue_sublist i)

/-- Every run of arrivals and ticks is complete for the streams it delivers a part of. -/
theorem run_complete (inputs : 2 ≤ n) (regular : Regular threshold streams) (ops : List (Op n))
    (delivers : ∀ i, arrivals i ops <+: streams i) :
    Complete threshold streams (fun i => arrivals i ops) ((system threshold).run {} ops) := by
  have fresh : Settled threshold streams ({} : Flow n) (fun _ => []) [] :=
    { parts := fun _ => rfl
      arrived := fun _ => List.nil_prefix
      mem_removed := fun _ _ => by simp
      published := rfl
      isTuple := fun _ member => by cases member
      notDropped := fun _ member => by cases member
      sorted := List.Pairwise.nil
      kept := fun _ _ => .inr fun _ member => by cases member }
  have input : Fin n := ⟨0, by omega⟩
  obtain ⟨removed, tuples, settled, delivered⟩ := fresh.run regular input ops delivers
  have complete := settled.complete regular input
  rwa [funext delivered] at complete

/-- The messages of two inputs arrive in turn, with ticks in between. -/
def alignedRun : List (Op 2) :=
  [.arrive (Fin.last 1) (stamped 3 20), .tick, .arrive ⟨0, Nat.two_pos⟩ (stamped 1 100), .tick,
    .arrive ⟨0, Nat.two_pos⟩ (stamped 2 200), .arrive (Fin.last 1) (stamped 4 105), .tick, .tick]

theorem run_complete_aligned :
    Complete 10 aligned (fun i => arrivals i alignedRun) ((system 10).run {} alignedRun) ∧
      ((system 10).run {} alignedRun).published.length = 1 := by
  have regular : Regular 10 aligned := ⟨by decide, by decide, by decide⟩
  exact ⟨run_complete (by decide) regular alignedRun (by decide), by decide⟩

end Gxf.Std.Synchronization
