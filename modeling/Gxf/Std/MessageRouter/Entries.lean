import Mathlib.Data.List.TakeWhile
import Gxf.Lib.LastWrite
import Gxf.Std.MessageRouter.Tables

/-!
# The entries of the router's tables

Every call that changes the tables writes some entries of them, whatever they contained
before.
-/

namespace Gxf.Std

open Gxf.Core Gxf.Lib Function

namespace MessageRouter

variable {Transmitter Receiver : Type} [DecidableEq Transmitter] [DecidableEq Receiver]

/-- What the tables can contain. -/
inductive Entry (Transmitter Receiver : Type) where
  | route (tx : Transmitter) (rx : Receiver)
  | routeReversed (tx : Transmitter) (rx : Receiver)
  | transmitterPort (topicName : String) (tx : Transmitter)
  | transmitterTopic (topicName : String) (tx : Transmitter)
  | receiverPort (topicName : String) (rx : Receiver)
  | receiverTopic (topicName : String) (rx : Receiver)

def Contains (router : MessageRouter Transmitter Receiver) : Entry Transmitter Receiver → Prop
  | .route tx rx => rx ∈ router.routes tx
  | .routeReversed tx rx => tx ∈ router.routesReversed rx
  | .transmitterPort topicName tx => tx ∈ router.transmitters.ports topicName
  | .transmitterTopic topicName tx => router.transmitters.topic tx = some topicName
  | .receiverPort topicName rx => rx ∈ router.receivers.ports topicName
  | .receiverTopic topicName rx => router.receivers.topic rx = some topicName

/-- What a call makes of an entry, if it changes the place of the entry. -/
def write : Entry Transmitter Receiver → Op Transmitter Receiver → Option Prop
  | .route tx rx, .connect source target | .routeReversed tx rx, .connect source target =>
      if source = some tx ∧ target = some rx then some True else none
  | .route tx rx, .disconnect source target | .routeReversed tx rx, .disconnect source target =>
      if source = some tx ∧ target = some rx then some False else none
  | .transmitterPort topicName tx, .registerTransmitter name port =>
      if name = topicName ∧ port = some tx then some True else none
  | .transmitterPort topicName tx, .deregisterTransmitter name port =>
      if name = topicName ∧ port = some tx then some False else none
  | .transmitterTopic topicName tx, .registerTransmitter name port =>
      if port = some tx then some (name = topicName) else none
  | .transmitterTopic _ tx, .deregisterTransmitter _ port =>
      if port = some tx then some False else none
  | .receiverPort topicName rx, .registerReceiver name port =>
      if name = topicName ∧ port = some rx then some True else none
  | .receiverPort topicName rx, .deregisterReceiver name port =>
      if name = topicName ∧ port = some rx then some False else none
  | .receiverTopic topicName rx, .registerReceiver name port =>
      if port = some rx then some (name = topicName) else none
  | .receiverTopic _ rx, .deregisterReceiver _ port =>
      if port = some rx then some False else none
  | _, _ => none

variable {router : MessageRouter Transmitter Receiver} {op : Op Transmitter Receiver}

section Sets

variable {Key Value : Type} [DecidableEq Key] [DecidableEq Value] (sets : Key → Finset Value)
  (key other : Key) (value member : Value)

theorem mem_update_insert : member ∈ update sets key (insert value (sets key)) other ↔
      key = other ∧ value = member ∨ member ∈ sets other := by
  by_cases same : other = key
  · subst same
    rw [update_self, Finset.mem_insert, and_iff_right rfl, eq_comm]
  · rw [update_of_ne same, or_iff_right fun both => same both.1.symm]

theorem mem_update_erase : member ∈ update sets key ((sets key).erase value) other ↔
      ¬ (key = other ∧ value = member) ∧ member ∈ sets other := by
  by_cases same : other = key
  · subst same
    rw [update_self, Finset.mem_erase, and_iff_right rfl, ne_comm, Ne]
  · rw [update_of_ne same, and_iff_right fun both => same both.1.symm]

end Sets

theorem getD_insert {condition kept : Prop} [Decidable condition] :
    (if condition then some True else none).getD kept = (condition ∨ kept) := by
  split_ifs with holds
  · exact propext (iff_of_true trivial (.inl holds))
  · exact propext (or_iff_right holds).symm

theorem getD_erase {condition kept : Prop} [Decidable condition] :
    (if condition then some False else none).getD kept = (¬ condition ∧ kept) := by
  split_ifs with holds
  · exact propext (iff_of_false id fun both => both.1 holds)
  · exact propext (and_iff_right holds).symm

section Topics

variable {Port : Type} [DecidableEq Port] (table : TopicTable Port) (name topicName : String)
  (given port : Port)

theorem topic_register : ((table.register name given).topic port = some topicName) =
    (if some given = some port then some (name = topicName) else none).getD
      (table.topic port = some topicName) := by
  rw [TopicTable.register]
  dsimp only
  by_cases same : port = given
  · subst same
    rw [update_self, if_pos rfl, Option.getD_some, Option.some.injEq]
  · rw [update_of_ne same, if_neg fun both => same (Option.some.inj both).symm,
      Option.getD_none]

theorem topic_deregister : ((table.deregister name given).topic port = some topicName) =
    (if some given = some port then some False else none).getD
      (table.topic port = some topicName) := by
  rw [TopicTable.deregister]
  dsimp only
  by_cases same : port = given
  · subst same
    rw [update_self, if_pos rfl, Option.getD_some]
    exact propext (iff_of_false (Option.some_ne_none topicName).symm id)
  · rw [update_of_ne same, if_neg fun both => same (Option.some.inj both).symm,
      Option.getD_none]

theorem mem_ports_register : (port ∈ (table.register name given).ports topicName) =
    (if name = topicName ∧ some given = some port then some True else none).getD
      (port ∈ table.ports topicName) := by
  rw [getD_insert, Option.some.injEq, ← propext (mem_update_insert _ _ _ _ _)]
  rfl

theorem mem_ports_deregister : (port ∈ (table.deregister name given).ports topicName) =
    (if name = topicName ∧ some given = some port then some False else none).getD
      (port ∈ table.ports topicName) := by
  rw [getD_erase, Option.some.injEq, ← propext (mem_update_erase _ _ _ _ _)]
  rfl

end Topics

theorem contains_connect (tx : Transmitter) (rx : Receiver) (entry : Entry Transmitter Receiver) :
    (router.connect (some tx) (some rx)).1.Contains entry =
      (write entry (.connect (some tx) (some rx))).getD (router.Contains entry) := by
  cases entry with
  | route source target =>
      rw [write, getD_insert, Option.some.injEq, Option.some.injEq]
      exact propext (mem_update_insert router.routes tx source rx target)
  | routeReversed source target =>
      rw [write, getD_insert, Option.some.injEq, Option.some.injEq, and_comm (a := tx = source)]
      exact propext (mem_update_insert router.routesReversed rx target tx source)
  | _ => rfl

/-- The effect of a connection that is taken back. -/
theorem contains_disconnect {tx : Option Transmitter} {rx : Option Receiver}
    (entry : Entry Transmitter Receiver) (success : (router.disconnect tx rx).2 = .ok ()) :
    (router.disconnect tx rx).1.Contains entry =
      (write entry (.disconnect tx rx)).getD (router.Contains entry) := by
  cases tx with
  | none => cases success
  | some tx =>
      cases rx with
      | none => cases success
      | some rx =>
          rw [disconnect] at success ⊢
          split_ifs at success ⊢
          cases entry with
          | route source target =>
              rw [write, getD_erase, Option.some.injEq, Option.some.injEq]
              exact propext (mem_update_erase router.routes tx source rx target)
          | routeReversed source target =>
              rw [write, getD_erase, Option.some.injEq, Option.some.injEq,
                and_comm (a := tx = source)]
              exact propext (mem_update_erase router.routesReversed rx target tx source)
          | _ => rfl

/-- A call that succeeds makes what `write` says of every entry. -/
theorem contains_step (router : MessageRouter Transmitter Receiver)
    (op : Op Transmitter Receiver) (success : (system.step router op).2 = .ok ())
    (entry : Entry Transmitter Receiver) :
    (system.step router op).1.Contains entry = (write entry op).getD (router.Contains entry) := by
  cases op with
  | connect tx rx =>
      cases tx with
      | none => cases success
      | some tx =>
          cases rx with
          | none => cases success
          | some rx => exact contains_connect tx rx entry
  | disconnect tx rx => exact contains_disconnect entry success
  | registerTransmitter name tx =>
      cases tx with
      | none => cases success
      | some tx =>
          cases entry with
          | transmitterPort topicName port => exact mem_ports_register _ name topicName tx port
          | transmitterTopic topicName port => exact topic_register _ name topicName tx port
          | _ => rfl
  | deregisterTransmitter name tx =>
      cases tx with
      | none => cases success
      | some tx =>
          cases entry with
          | transmitterPort topicName port => exact mem_ports_deregister _ name topicName tx port
          | transmitterTopic topicName port => exact topic_deregister _ name topicName tx port
          | _ => rfl
  | registerReceiver name rx =>
      cases rx with
      | none => cases success
      | some rx =>
          cases entry with
          | receiverPort topicName port => exact mem_ports_register _ name topicName rx port
          | receiverTopic topicName port => exact topic_register _ name topicName rx port
          | _ => rfl
  | deregisterReceiver name rx =>
      cases rx with
      | none => cases success
      | some rx =>
          cases entry with
          | receiverPort topicName port => exact mem_ports_deregister _ name topicName rx port
          | receiverTopic topicName port => exact topic_deregister _ name topicName rx port
          | _ => rfl

/-- A call that `addRoutes` makes. -/
def Op.Adds : Op Transmitter Receiver → Prop
  | .connect _ _ | .registerTransmitter _ _ | .registerReceiver _ _ => True
  | _ => False

/-- The ports of a call refer to components. -/
def Op.PortsSet : Op Transmitter Receiver → Bool
  | .connect tx rx | .disconnect tx rx => tx.isSome && rx.isSome
  | .registerTransmitter _ tx | .deregisterTransmitter _ tx => tx.isSome
  | .registerReceiver _ rx | .deregisterReceiver _ rx => rx.isSome

/-- The call with which `removeRoutes` takes a call of `addRoutes` back. -/
def Op.undo : Op Transmitter Receiver → Op Transmitter Receiver
  | .connect tx rx => .disconnect tx rx
  | .registerTransmitter topicName tx => .deregisterTransmitter topicName tx
  | .registerReceiver topicName rx => .deregisterReceiver topicName rx
  | op => op

theorem write_undo (adds : op.Adds) (entry : Entry Transmitter Receiver) :
    write entry op.undo = (write entry op).map fun _ => False := by
  cases op with
  | connect | registerTransmitter | registerReceiver =>
      cases entry <;> simp only [Op.undo, write, apply_ite (Option.map _)] <;> rfl
  | _ => cases adds

omit [DecidableEq Transmitter] [DecidableEq Receiver] in
theorem Op.portsSet_undo (op : Op Transmitter Receiver) : op.undo.PortsSet = op.PortsSet := by
  cases op <;> rfl

theorem step_of_adds (router : MessageRouter Transmitter Receiver) (adds : op.Adds) :
    op.PortsSet = true ∧ (system.step router op).2 = .ok () ∨
      op.PortsSet = false ∧ ∃ code, system.step router op = (router, .error code) := by
  cases op with
  | connect tx rx =>
      cases tx with
      | none => exact .inr ⟨rfl, _, rfl⟩
      | some tx =>
          cases rx with
          | none => exact .inr ⟨rfl, _, rfl⟩
          | some rx => exact .inl ⟨rfl, rfl⟩
  | registerTransmitter name tx =>
      cases tx with
      | none => exact .inr ⟨rfl, _, rfl⟩
      | some tx => exact .inl ⟨rfl, rfl⟩
  | registerReceiver name rx =>
      cases rx with
      | none => exact .inr ⟨rfl, _, rfl⟩
      | some rx => exact .inl ⟨rfl, rfl⟩
  | _ => cases adds

variable {ops : List (Op Transmitter Receiver)}

theorem perform_eq_ok_iff (router : MessageRouter Transmitter Receiver)
    (adds : ∀ op ∈ ops, op.Adds) :
    (system.perform router ops).2 = .ok () ↔ ∀ op ∈ ops, op.PortsSet = true := by
  induction ops generalizing router with
  | nil => exact iff_of_true rfl fun _ member => absurd member List.not_mem_nil
  | cons op rest ih =>
      obtain ⟨first, others⟩ := List.forall_mem_cons.mp adds
      rw [List.forall_mem_cons]
      rcases step_of_adds router first with ⟨set, success⟩ | ⟨unset, code, failed⟩
      · rw [System.perform_cons_of_ok success, ih _ others, and_iff_right set]
      · rw [System.perform, failed]
        refine iff_of_false ?_ fun all => Bool.false_ne_true (unset.symm.trans all.1)
        intro success
        cases success

theorem contains_perform (router : MessageRouter Transmitter Receiver)
    (adds : ∀ op ∈ ops, op.Adds) (entry : Entry Transmitter Receiver) :
    (system.perform router ops).1.Contains entry =
      lastWrite (write entry) (router.Contains entry) (ops.takeWhile Op.PortsSet) := by
  induction ops generalizing router with
  | nil => rfl
  | cons op rest ih =>
      obtain ⟨first, others⟩ := List.forall_mem_cons.mp adds
      rcases step_of_adds router first with ⟨set, success⟩ | ⟨unset, code, failed⟩
      · rw [System.perform_cons_of_ok success, ih _ others, List.takeWhile_cons_of_pos set,
          lastWrite, contains_step router op success entry]
      · rw [System.perform, failed, List.takeWhile_cons_of_neg (Bool.not_eq_true _ ▸ unset)]
        rfl

theorem perform_disconnects {connections : List (Option Transmitter × Option Receiver)}
    (set : ∀ connection ∈ connections, connection.1.isSome ∧ connection.2.isSome)
    (once : connections.Nodup) (router : MessageRouter Transmitter Receiver)
    (exist : ∀ tx rx, (some tx, some rx) ∈ connections →
      router.Contains (.route tx rx) ∧ router.Contains (.routeReversed tx rx)) :
    (system.perform router (connections.map fun connection =>
      .disconnect connection.1 connection.2)).2 = .ok () := by
  induction connections generalizing router with
  | nil => rfl
  | cons connection rest ih =>
      obtain ⟨⟨isTx, isRx⟩, othersSet⟩ := List.forall_mem_cons.mp set
      obtain ⟨new, othersOnce⟩ := List.nodup_cons.mp once
      obtain ⟨source, target⟩ := connection
      obtain ⟨tx, rfl⟩ := Option.isSome_iff_exists.mp isTx
      obtain ⟨rx, rfl⟩ := Option.isSome_iff_exists.mp isRx
      obtain ⟨forward, back⟩ := exist tx rx List.mem_cons_self
      have success : (router.disconnect (some tx) (some rx)).2 = .ok () := by
        have connected : ¬ rx ∉ router.routes tx := not_not_intro forward
        have reversed : ¬ tx ∉ router.routesReversed rx := not_not_intro back
        rw [disconnect, if_neg connected]
        dsimp only
        rw [if_neg reversed]
      rw [List.map_cons, System.perform_cons_of_ok success]
      refine ih othersSet othersOnce _ fun otherTx otherRx member => ?_
      have different : ¬ (some tx = some otherTx ∧ some rx = some otherRx) :=
        fun both => new (both.1 ▸ both.2 ▸ member)
      have still := exist otherTx otherRx (List.mem_cons_of_mem _ member)
      constructor
      · refine (contains_disconnect _ success).mpr ?_
        rw [write, if_neg different]
        exact still.1
      · refine (contains_disconnect _ success).mpr ?_
        rw [write, if_neg different]
        exact still.2

end MessageRouter

end Gxf.Std
