import Gxf.Std.Entity
import Gxf.Ucx.UcxTransmitter
import Mathlib.Data.List.TakeWhile

/-!
# Outboxes

The router takes messages out of a transmitter until it has none.  A transmitter to another process
answers `pop()` with success but keeps its messages.
-/

namespace Gxf.Std

open Gxf.Core Gxf.Lib Gxf.Ucx

/-- The transmitters. -/
inductive Transmitter where
  | DoubleBuffer (queue : StagingQueue Uid)
  | AsyncBuffer (entity : Uid) (size : Nat)
  | Ucx (transmitter : UcxTransmitter Uid)

namespace Transmitter

/-- `sync_abi()`. -/
def sync : Transmitter → Transmitter × GxfResult
  | .DoubleBuffer queue =>
      (.DoubleBuffer queue.sync.1,
        if queue.sync.2 then .GXF_SUCCESS else .GXF_EXCEEDING_PREALLOCATED_SIZE)
  | transmitter => (transmitter, .GXF_SUCCESS)

/-- `size_abi()`. -/
def size : Transmitter → Nat
  | .DoubleBuffer queue => queue.size
  | .AsyncBuffer _ size => size
  | .Ucx transmitter => transmitter.queue.size

/-- `pop_abi(uid)`.  A success may leave the id unset.  The entities are held, so that counting one
more reference succeeds. -/
def pop : Transmitter → Transmitter × Except GxfResult (Option Uid)
  | .DoubleBuffer queue =>
      (.DoubleBuffer queue.pop.1,
        if queue.pop.2 = kNullUid then .error .GXF_FAILURE else .ok (some queue.pop.2))
  | .AsyncBuffer entity size =>
      if entity = kNullUid then (.AsyncBuffer entity size, .error .GXF_FAILURE)
      else (.AsyncBuffer entity 0, .ok (some entity))
  | .Ucx transmitter => (.Ucx transmitter, .ok none)

/-- The messages of the main stage, oldest first. -/
def mainStage : Transmitter → List Uid
  | .DoubleBuffer queue => (List.range queue.numMainstage).map queue.peek
  | .AsyncBuffer entity size => List.replicate size entity
  | .Ucx transmitter => (List.range transmitter.queue.numMainstage).map transmitter.queue.peek

/-- What the constructors make and every call keeps: a queue has slots for its capacity, and an
asynchronous buffer counts at most one message. -/
def Built : Transmitter → Prop
  | .DoubleBuffer queue => queue.capacity ≤ queue.items.length
  | .AsyncBuffer _ size => size ≤ 1
  | .Ucx _ => True

/-- The stages together fit into the main stage, or the queue drops what does not. -/
def SyncFits : Transmitter → Prop
  | .DoubleBuffer queue =>
      queue.overflowBehavior = .kFault → queue.numMainstage + queue.numBackstage ≤ queue.capacity
  | _ => True

end Transmitter

variable {Receiver : Type}

/-- `distribute(tx, message, receivers)`, with the pushes that it makes. -/
def distribute (message : Option Uid) (receivers : List Receiver) : List (Receiver × Option Uid) :=
  receivers.map (·, message)

/-- The loop of `syncOutbox`.  It gives nothing when it has not ended after so many turns. -/
def drain (receivers : List Receiver) : Nat → Transmitter → List (Receiver × Option Uid) →
      Option (Transmitter × GxfResult × List (Receiver × Option Uid))
  | 0, _, _ => none
  | turns + 1, transmitter, pushed =>
      if transmitter.size = 0 then some (transmitter, .GXF_SUCCESS, pushed)
      else
        match transmitter.pop with
        | (next, .error code) => some (next, code, pushed)
        | (next, .ok message) => drain receivers turns next (pushed ++ distribute message receivers)

/-- What `syncOutbox` does with a transmitter. -/
def syncTransmitter (receivers : List Receiver) (turns : Nat) (transmitter : Transmitter) :
    Option (Transmitter × GxfResult × List (Receiver × Option Uid)) :=
  if transmitter.sync.2 ≠ .GXF_SUCCESS then some (transmitter.sync.1, transmitter.sync.2, [])
  else drain receivers turns transmitter.sync.1 []

namespace Transmitter

/-- `syncOutbox` ends, and has pushed every message that is in the main stage after `sync()` to
every receiver, in order. -/
def Forwards (receivers : List Receiver) (transmitter : Transmitter) : Prop :=
  ∃ turns next code, syncTransmitter receivers turns transmitter = some (next, code,
    transmitter.sync.1.mainStage.flatMap fun message => distribute (some message) receivers)

def IsUcx : Transmitter → Prop
  | .Ucx _ => True
  | _ => False

/-- An oldest message can be popped, unless it is null. -/
structure Ready (transmitter : Transmitter) (main : List Uid) : Prop where
  inside : ¬transmitter.IsUcx
  isMain : transmitter.mainStage = main
  stored : ∀ queue, transmitter = .DoubleBuffer queue → queue.numMainstage ≤ queue.items.length
  single : ∀ entity size, transmitter = .AsyncBuffer entity size → size ≤ 1

variable {receivers : List Receiver} {transmitter : Transmitter} {message : Uid} {main : List Uid}

theorem Ready.size (ready : transmitter.Ready main) : transmitter.size = main.length := by
  rw [← ready.isMain]
  cases transmitter with
  | DoubleBuffer queue => simp [Transmitter.size, StagingQueue.size, mainStage]
  | AsyncBuffer entity size => simp [Transmitter.size, mainStage]
  | Ucx ucx => exact absurd trivial ready.inside

theorem peek_pop {queue : StagingQueue Uid} (stored : queue.numMainstage ≤ queue.items.length)
    {index : Nat} (inside : index + 1 < queue.numMainstage) :
    queue.pop.1.peek index = queue.peek (index + 1) := by
  have some : queue.numMainstage > 0 := by omega
  have length : (queue.items.set (queue.start % queue.items.length) queue.null).length =
      queue.items.length := List.length_set
  have other : (queue.start + (index + 1)) % queue.items.length ≠
      queue.start % queue.items.length := by
    intro same
    have zero := (Ring.add_mod_inj (Nat.lt_of_lt_of_le inside stored) (by omega)).mp
      (same.trans (congrArg (· % _) (Nat.add_zero _).symm))
    exact Nat.succ_ne_zero _ zero
  have next : ((queue.start + 1) % queue.items.length + index) % queue.items.length =
      (queue.start + (index + 1)) % queue.items.length := by
    rw [Nat.mod_add_mod, Nat.add_assoc, Nat.add_comm 1]
  rw [StagingQueue.pop, if_pos some]
  simp only [StagingQueue.peek, StagingQueue.wrapStart, StagingQueue.writeAt,
    StagingQueue.readAt, length, next]
  rw [if_pos (by omega), if_pos inside, List.getD_eq_getElem?_getD,
    List.getElem?_set_ne other.symm, ← List.getD_eq_getElem?_getD]

theorem Ready.pop (ready : transmitter.Ready (message :: main)) (known : message ≠ kNullUid) :
    ∃ next, transmitter.pop = (next, .ok (some message)) ∧ next.Ready main := by
  have isMain := ready.isMain
  cases transmitter with
  | DoubleBuffer queue =>
      have stored := ready.stored queue rfl
      cases isSize : queue.numMainstage with
      | zero => simp [mainStage, isSize] at isMain
      | succ size =>
          have some : queue.numMainstage > 0 := by omega
          simp only [mainStage, isSize, List.range_succ_eq_map, List.map_cons, List.map_map,
            List.cons.injEq] at isMain
          obtain ⟨first, rest⟩ := isMain
          have isPopped : queue.pop.2 = message := by
            rw [StagingQueue.pop, if_pos some, ← first, StagingQueue.peek, if_pos some]
            rfl
          have isSmaller : queue.pop.1.numMainstage = size := by
            rw [StagingQueue.pop, if_pos some]
            simp only [StagingQueue.wrapStart, isSize, Nat.add_sub_cancel]
          have isLong : queue.pop.1.items.length = queue.items.length := by
            rw [StagingQueue.pop, if_pos some]
            exact List.length_set
          refine ⟨.DoubleBuffer queue.pop.1, ?_, id, ?_, ?_, ?_⟩
          · rw [Transmitter.pop, isPopped, if_neg known]
          · rw [mainStage, isSmaller, ← rest]
            refine List.map_congr_left fun index member => peek_pop stored ?_
            rw [isSize]
            exact Nat.succ_lt_succ (List.mem_range.mp member)
          · rintro other same
            cases same
            omega
          · intro entity size same
            cases same
  | AsyncBuffer entity size =>
      have single := ready.single entity size rfl
      cases size with
      | zero => cases isMain
      | succ size =>
          obtain rfl : size = 0 := by omega
          cases isMain
          refine ⟨.AsyncBuffer message 0, if_neg known, id, rfl, fun queue same => ?_,
            fun entity size same => ?_⟩
          · cases same
          · cases same
            exact Nat.zero_le _
  | Ucx ucx => exact absurd trivial ready.inside

theorem Ready.pop_null (ready : transmitter.Ready (kNullUid :: main)) :
    ∃ next code, transmitter.pop = (next, .error code) := by
  have isMain := ready.isMain
  cases transmitter with
  | DoubleBuffer queue =>
      cases isSize : queue.numMainstage with
      | zero => simp [mainStage, isSize] at isMain
      | succ size =>
          have some : queue.numMainstage > 0 := by omega
          simp only [mainStage, isSize, List.range_succ_eq_map, List.map_cons,
            List.cons.injEq] at isMain
          have isPopped : queue.pop.2 = kNullUid := by
            rw [StagingQueue.pop, if_pos some, ← isMain.1, StagingQueue.peek, if_pos some]
            rfl
          exact ⟨_, _, by rw [Transmitter.pop, isPopped, if_pos rfl]⟩
  | AsyncBuffer entity size =>
      cases size with
      | zero => cases isMain
      | succ size =>
          cases isMain
          exact ⟨.AsyncBuffer kNullUid (size + 1), .GXF_FAILURE, by
            rw [Transmitter.pop, if_pos rfl]⟩
  | Ucx ucx => exact absurd trivial ready.inside

/-- The loop pushes what is in front of the first null message. -/
theorem Ready.drain (ready : transmitter.Ready main) (turns : Nat)
    (pushed : List (Receiver × Option Uid)) :
    (main.length < turns → drain receivers turns transmitter pushed ≠ none) ∧
      ∀ next code result, drain receivers turns transmitter pushed = some (next, code, result) →
        result = pushed ++ (main.takeWhile (· ≠ kNullUid)).flatMap
          fun message => distribute (some message) receivers := by
  induction turns generalizing transmitter main pushed with
  | zero => exact ⟨fun short => absurd short (Nat.not_lt_zero _), nofun⟩
  | succ turns ih =>
      cases main with
      | nil =>
          have empty : transmitter.size = 0 := ready.size
          rw [Gxf.Std.drain, if_pos empty]
          refine ⟨fun _ => nofun, fun next code result isResult => ?_⟩
          cases isResult
          simp
      | cons message main =>
          have full : transmitter.size ≠ 0 := by
            rw [ready.size]
            exact Nat.succ_ne_zero _
          rw [Gxf.Std.drain, if_neg full]
          by_cases known : message = kNullUid
          · subst known
            obtain ⟨next, code, failed⟩ := ready.pop_null
            rw [failed]
            refine ⟨fun _ => nofun, fun next code result isResult => ?_⟩
            cases isResult
            simp
          · obtain ⟨next, popped, left⟩ := ready.pop known
            rw [popped]
            obtain ⟨ends, gives⟩ := ih left (pushed ++ distribute (some message) receivers)
            refine ⟨fun long => ends (Nat.lt_of_succ_lt_succ long), fun next code result isResult =>
              ?_⟩
            rw [gives next code result isResult]
            simp [known]

theorem drain_ucx {ucx : UcxTransmitter Uid} (full : (Ucx ucx).size ≠ 0) (turns : Nat)
    (pushed : List (Receiver × Option Uid)) : drain receivers turns (.Ucx ucx) pushed = none := by
  induction turns generalizing pushed with
  | zero => rfl
  | succ turns ih =>
      rw [drain, if_neg full]
      exact ih _

theorem length_clearFront (count : Nat) (queue : StagingQueue Uid) :
    (queue.clearFront count).items.length = queue.items.length := by
  induction count generalizing queue with
  | zero => rfl
  | succ count ih => exact (ih _).trans (StagingQueue.length_writeAt queue queue.start queue.null)

theorem clearBack_keeps (count : Nat) (queue : StagingQueue Uid) :
    (queue.clearBack count).items.length = queue.items.length ∧
      (queue.clearBack count).numMainstage = queue.numMainstage - count := by
  induction count generalizing queue with
  | zero => exact ⟨rfl, rfl⟩
  | succ count ih =>
      obtain ⟨length, size⟩ := ih
        (StagingQueue.writeAt { queue with numMainstage := queue.numMainstage - 1 }
          (queue.start + (queue.numMainstage - 1)) queue.null)
      refine ⟨length.trans (StagingQueue.length_writeAt _ _ _), ?_⟩
      rw [StagingQueue.clearBack, size]
      exact (Nat.sub_sub _ _ _).trans (congrArg _ (Nat.add_comm _ _))

/-- A queue that is synchronized has all messages of its main stage in slots of their own. -/
theorem sync_spec {queue : StagingQueue Uid} (built : queue.capacity ≤ queue.items.length) :
    (queue.sync.2 = true ↔ SyncFits (.DoubleBuffer queue)) ∧
      (queue.sync.2 = true → queue.sync.1.numMainstage ≤ queue.sync.1.items.length) ∧
      (queue.sync.2 = false → 0 < queue.sync.1.numMainstage) := by
  rw [StagingQueue.sync]
  by_cases exceeds : queue.numMainstage + queue.numBackstage > queue.capacity
  · have merged : queue.mergeStages.numMainstage > queue.mergeStages.capacity := exceeds
    rw [if_pos merged]
    cases policy : queue.overflowBehavior with
    | kPop =>
        have isPolicy : queue.mergeStages.overflowBehavior = .kPop := policy
        rw [isPolicy]
        refine ⟨iff_of_true rfl fun isFault => ?_, fun _ => ?_, fun failed =>
          absurd failed (by simp)⟩
        · rw [policy] at isFault
          cases isFault
        · have length := length_clearFront
            (queue.mergeStages.numMainstage - queue.mergeStages.capacity) queue.mergeStages
          exact built.trans_eq length.symm
    | kReject =>
        have isPolicy : queue.mergeStages.overflowBehavior = .kReject := policy
        rw [isPolicy]
        obtain ⟨length, size⟩ := clearBack_keeps
          (queue.mergeStages.numMainstage - queue.mergeStages.capacity) queue.mergeStages
        refine ⟨iff_of_true rfl fun isFault => ?_, fun _ => ?_, fun failed =>
          absurd failed (by simp)⟩
        · rw [policy] at isFault
          cases isFault
        · change (StagingQueue.clearBack _ _).numMainstage ≤
            (StagingQueue.clearBack _ _).items.length
          rw [length, size, Nat.sub_sub_self (Nat.le_of_lt merged)]
          exact built
    | kFault =>
        have isPolicy : queue.mergeStages.overflowBehavior = .kFault := policy
        rw [isPolicy]
        refine ⟨iff_of_false Bool.false_ne_true fun fits => ?_, fun fine =>
          absurd fine Bool.false_ne_true,
          fun _ => Nat.zero_lt_of_lt exceeds⟩
        exact Nat.not_lt.mpr (fits policy) exceeds
  · have merged : ¬queue.mergeStages.numMainstage > queue.mergeStages.capacity := exceeds
    rw [if_neg merged]
    exact ⟨iff_of_true rfl fun _ => Nat.not_lt.mp exceeds,
      fun _ => (Nat.not_lt.mp exceeds).trans built, fun failed => absurd failed (by simp)⟩

theorem ready_of_sync (built : transmitter.Built) (inside : ¬transmitter.IsUcx)
    (synced : transmitter.SyncFits) :
    transmitter.sync.2 = .GXF_SUCCESS ∧ transmitter.sync.1.Ready transmitter.sync.1.mainStage := by
  cases transmitter with
  | DoubleBuffer queue =>
      obtain ⟨fits, stored, -⟩ := sync_spec built
      refine ⟨if_pos (fits.mpr synced), id, rfl, ?_, nofun⟩
      rintro other same
      cases same
      exact stored (fits.mpr synced)
  | AsyncBuffer entity size =>
      refine ⟨rfl, id, rfl, nofun, ?_⟩
      rintro entity size same
      cases same
      exact built
  | Ucx ucx => exact absurd trivial inside

theorem length_flatMap_distribute (messages : List Uid) (receivers : List Receiver) :
    (messages.flatMap fun message => distribute (some message) receivers).length =
      messages.length * receivers.length := by
  simp [distribute, List.length_flatMap]

theorem flatMap_distribute_nil (messages : List Uid) :
    (messages.flatMap fun message => distribute (some message) ([] : List Receiver)) = [] :=
  List.eq_nil_of_length_eq_zero (length_flatMap_distribute _ _)

theorem flatMap_takeWhile_iff (main : List Uid) (receivers : List Receiver) :
    ((main.takeWhile (· ≠ kNullUid)).flatMap fun message => distribute (some message) receivers) =
        (main.flatMap fun message => distribute (some message) receivers) ↔
      receivers = [] ∨ kNullUid ∉ main := by
  constructor
  · intro same
    have lengths := congrArg List.length same
    rw [length_flatMap_distribute, length_flatMap_distribute] at lengths
    by_cases empty : receivers = []
    · exact .inl empty
    · refine .inr fun member => ?_
      have whole := Nat.eq_of_mul_eq_mul_right (List.length_pos_iff.mpr empty) lengths
      have all := (List.takeWhile_prefix (· ≠ kNullUid)).eq_of_length whole
      have kept := List.takeWhile_eq_self_iff.mp all kNullUid member
      exact absurd rfl (of_decide_eq_true kept)
  · rintro (rfl | known)
    · rw [flatMap_distribute_nil, flatMap_distribute_nil]
    · rw [List.takeWhile_eq_self_iff.mpr fun message member => decide_eq_true ?_]
      exact ne_of_mem_of_not_mem member known

/-- An outbox is forwarded exactly if it is no transmitter to another process with messages in its
main stage and, where there are receivers, its stages are synchronized to messages that are not
null. -/
theorem forwards_iff (receivers : List Receiver) (built : transmitter.Built) :
    transmitter.Forwards receivers ↔ ¬(transmitter.IsUcx ∧ transmitter.size ≠ 0) ∧
      (receivers = [] ∨ transmitter.SyncFits ∧ kNullUid ∉ transmitter.sync.1.mainStage) := by
  by_cases isUcx : transmitter.IsUcx
  · cases transmitter with
    | DoubleBuffer | AsyncBuffer => exact absurd isUcx id
    | Ucx ucx =>
        by_cases full : (Ucx ucx).size ≠ 0
        · refine iff_of_false ?_ fun fine => fine.1 ⟨trivial, full⟩
          rintro ⟨turns, next, code, ends⟩
          exact absurd ((drain_ucx full turns []).symm.trans ends) nofun
        · have empty : (Ucx ucx).size = 0 := not_not.mp full
          have none : (Ucx ucx).mainStage = [] := by
            rw [mainStage, show ucx.queue.numMainstage = 0 from empty]
            rfl
          refine iff_of_true ⟨1, .Ucx ucx, .GXF_SUCCESS, ?_⟩ ⟨fun bad =>
            full bad.2, .inr ⟨trivial, ?_⟩⟩
          · change drain receivers 1 (.Ucx ucx) [] = some (.Ucx ucx, .GXF_SUCCESS,
              (Ucx ucx).mainStage.flatMap _)
            rw [drain, if_pos empty, none]
            rfl
          · change kNullUid ∉ (Ucx ucx).mainStage
            rw [none]
            exact List.not_mem_nil
  · rw [and_iff_right fun bad => isUcx bad.1]
    by_cases fits : transmitter.SyncFits
    · obtain ⟨synced, ready⟩ := ready_of_sync built isUcx fits
      rw [and_iff_right fits, ← flatMap_takeWhile_iff]
      constructor
      · rintro ⟨turns, next, code, ends⟩
        rw [syncTransmitter, if_neg (not_not_intro synced)] at ends
        exact ((ready.drain turns []).2 next code _ ends).symm
      · intro same
        have ends := (@Ready.drain Receiver receivers _ _ ready
          (transmitter.sync.1.mainStage.length + 1) []).1 (Nat.lt_succ_self _)
        obtain ⟨⟨next, code, result⟩, isResult⟩ := Option.ne_none_iff_exists'.mp ends
        have isPushed := (ready.drain _ []).2 next code result isResult
        rw [List.nil_append, same] at isPushed
        refine ⟨transmitter.sync.1.mainStage.length + 1, next, code, ?_⟩
        rw [syncTransmitter, if_neg (not_not_intro synced), isResult, isPushed]
    · rw [or_iff_left fun fine => fits fine.1]
      cases transmitter with
      | DoubleBuffer queue =>
          obtain ⟨fine, -, left⟩ := sync_spec built
          have failed : queue.sync.2 = false := by simpa [fits] using fine
          have ended (turns : Nat) : syncTransmitter receivers turns (.DoubleBuffer queue) =
              some (.DoubleBuffer queue.sync.1, .GXF_EXCEEDING_PREALLOCATED_SIZE, []) := by
            rw [syncTransmitter, Transmitter.sync, failed]
            rfl
          constructor
          · rintro ⟨turns, next, code, ends⟩
            have lengths := congrArg (Option.map (·.2.2.length)) ((ended turns).symm.trans ends)
            simp only [Option.map_some, List.length_nil, length_flatMap_distribute,
              Option.some.injEq, zero_eq_mul] at lengths
            refine List.eq_nil_of_length_eq_zero (lengths.resolve_left ?_)
            rw [Transmitter.sync, mainStage, List.length_map, List.length_range]
            exact (left failed).ne'
          · rintro rfl
            refine ⟨0, .DoubleBuffer queue.sync.1, .GXF_EXCEEDING_PREALLOCATED_SIZE, ?_⟩
            rw [flatMap_distribute_nil, ended]
      | AsyncBuffer | Ucx => exact absurd trivial fits

/-- Two messages for two receivers, in a queue that fails when it is full. -/
theorem forwards_iff_two :
    let queue := (StagingQueue.system Uid).run (.create 2 .kFault kNullUid) [.push 1, .push 2]
    (DoubleBuffer queue).Forwards [true, false] := by
  intro queue
  have built : (DoubleBuffer queue).Built := show 2 ≤ 4 by decide
  exact (forwards_iff [true, false] built).mpr
    ⟨fun outside => outside.1, .inr ⟨fun _ => by decide, by decide⟩⟩

/-- Two messages were published in a tick.  One is sent, and the router never gets done with the
other one. -/
theorem second_message_never_drained :
    ∃ ucx, ucx = UcxTransmitter.run 2 .kFault kNullUid [[1, 2]] ∧ ucx.queue.size = 1 ∧
      ∀ turns, syncTransmitter [()] turns (.Ucx ucx) = none :=
  ⟨_, rfl, by decide, fun turns => drain_ucx (by decide) turns []⟩

end Transmitter

end Gxf.Std
