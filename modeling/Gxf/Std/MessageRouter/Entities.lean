import Gxf.Std.MessageRouter.Entries

/-!
# The routes of an entity

`addRoutes` makes the connections of an entity and registers the ports of its topics, and
`removeRoutes` goes through the same connections and topics again.
-/

namespace Gxf.Std

open Gxf.Core Gxf.Lib

/-- The parameters of a topic component. -/
structure Topic (Transmitter Receiver : Type) where
  topicName : String
  transmitters : List (Option Transmitter)
  receivers : List (Option Receiver)
  deriving DecidableEq, Repr

/-- The components of an entity that the router looks for, in the order in which it finds
them.  A connection is its source and its target. -/
structure RoutedEntity (Transmitter Receiver : Type) where
  connections : List (Option Transmitter × Option Receiver)
  topics : List (Topic Transmitter Receiver)
  receivers : List Receiver
  transmitters : List Transmitter
  deriving DecidableEq, Repr

open MessageRouter (Op Entry write)

variable {Transmitter Receiver : Type}

/-- The registrations that `addRoutes` makes for a topic. -/
def Topic.registrations (topic : Topic Transmitter Receiver) : List (Op Transmitter Receiver) :=
  topic.transmitters.map (.registerTransmitter topic.topicName) ++
    topic.receivers.map (.registerReceiver topic.topicName)

/-- The registrations that `removeRoutes` takes back. -/
def Topic.deregistrations (topic : Topic Transmitter Receiver) : List (Op Transmitter Receiver) :=
  topic.transmitters.map (.deregisterTransmitter topic.topicName) ++
    topic.receivers.map (.deregisterReceiver topic.topicName)

namespace RoutedEntity

variable (entity : RoutedEntity Transmitter Receiver)

/-- The calls that `addRoutes` makes before it caches the ports. -/
def additions : List (Op Transmitter Receiver) :=
  entity.connections.map (fun connection => .connect connection.1 connection.2) ++
    entity.topics.flatMap Topic.registrations

/-- The calls that `removeRoutes` makes. -/
def removals : List (Op Transmitter Receiver) :=
  entity.connections.map (fun connection => .disconnect connection.1 connection.2) ++
    entity.topics.flatMap Topic.deregistrations

def topicTransmitters : List (Option Transmitter) := entity.topics.flatMap Topic.transmitters

def topicReceivers : List (Option Receiver) := entity.topics.flatMap Topic.receivers

end RoutedEntity

namespace RoutedEntity

variable {entity : RoutedEntity Transmitter Receiver} {op : Op Transmitter Receiver}

theorem mem_additions_iff : op ∈ entity.additions ↔
    (∃ connection ∈ entity.connections, .connect connection.1 connection.2 = op) ∨
      ∃ topic ∈ entity.topics,
        (∃ tx ∈ topic.transmitters, .registerTransmitter topic.topicName tx = op) ∨
          ∃ rx ∈ topic.receivers, .registerReceiver topic.topicName rx = op := by
  simp only [additions, Topic.registrations, List.mem_append, List.mem_map, List.mem_flatMap]

theorem removals_eq (entity : RoutedEntity Transmitter Receiver) :
    entity.removals = entity.additions.map Op.undo := by
  have topics (topic : Topic Transmitter Receiver) :
      topic.deregistrations = topic.registrations.map Op.undo := by
    simp only [Topic.deregistrations, Topic.registrations, List.map_append, List.map_map]
    rfl
  rw [removals, additions, List.map_append, List.map_map, List.map_flatMap, funext topics]
  rfl

theorem adds_additions : ∀ op ∈ entity.additions, op.Adds := by
  intro op member
  rcases mem_additions_iff.mp member with ⟨connection, -, rfl⟩ | ⟨topic, -, transmitter | receiver⟩
  · trivial
  · obtain ⟨tx, -, rfl⟩ := transmitter
    trivial
  · obtain ⟨rx, -, rfl⟩ := receiver
    trivial

def Needs (entity : RoutedEntity Transmitter Receiver) : Entry Transmitter Receiver → Prop
  | .route tx rx | .routeReversed tx rx => (some tx, some rx) ∈ entity.connections
  | .transmitterPort _ tx | .transmitterTopic _ tx => some tx ∈ entity.topicTransmitters
  | .receiverPort _ rx | .receiverTopic _ rx => some rx ∈ entity.topicReceivers

/-- The ports of all connections and topics refer to components. -/
def Complete (entity : RoutedEntity Transmitter Receiver) : Prop :=
  ∀ op ∈ entity.additions, op.PortsSet = true

/-- The calls of `addRoutes` that take effect. -/
def completed (entity : RoutedEntity Transmitter Receiver) : List (Op Transmitter Receiver) :=
  entity.additions.takeWhile Op.PortsSet

theorem mem_additions_of_completed (member : op ∈ entity.completed) : op ∈ entity.additions :=
  (List.takeWhile_prefix _).subset member

theorem Complete.completed_eq (complete : entity.Complete) : entity.completed = entity.additions :=
  List.takeWhile_eq_self_iff.mpr complete

variable [DecidableEq Transmitter] [DecidableEq Receiver]

theorem untouched_of_not_needs {entry : Entry Transmitter Receiver}
    (unneeded : ¬ entity.Needs entry) : Untouched (write entry) entity.additions := by
  intro op member
  rcases mem_additions_iff.mp member with
    ⟨connection, isConnection, rfl⟩ | ⟨topic, isTopic, transmitter | receiver⟩
  · cases entry with
    | route | routeReversed =>
        refine if_neg fun both => unneeded ?_
        rw [Needs, ← both.1, ← both.2]
        exact isConnection
    | _ => rfl
  · obtain ⟨port, isPort, rfl⟩ := transmitter
    have isNamed : port ∈ entity.topicTransmitters := List.mem_flatMap.mpr ⟨topic, isTopic, isPort⟩
    cases entry with
    | transmitterPort topicName tx =>
        refine if_neg fun both => unneeded ?_
        rw [Needs, ← both.2]
        exact isNamed
    | transmitterTopic topicName tx =>
        refine if_neg fun same => unneeded ?_
        rw [Needs, ← same]
        exact isNamed
    | _ => rfl
  · obtain ⟨port, isPort, rfl⟩ := receiver
    have isNamed : port ∈ entity.topicReceivers := List.mem_flatMap.mpr ⟨topic, isTopic, isPort⟩
    cases entry with
    | receiverPort topicName rx =>
        refine if_neg fun both => unneeded ?_
        rw [Needs, ← both.2]
        exact isNamed
    | receiverTopic topicName rx =>
        refine if_neg fun same => unneeded ?_
        rw [Needs, ← same]
        exact isNamed
    | _ => rfl

/-- The calls of `removeRoutes` reset entries, namely those that the calls of `addRoutes`
change. -/
theorem resets_removals (entry : Entry Transmitter Receiver) :
    ∀ op ∈ entity.removals, write entry op = none ∨ write entry op = some False := by
  intro op member
  rw [removals_eq] at member
  obtain ⟨added, isAdded, rfl⟩ := List.mem_map.mp member
  rw [MessageRouter.write_undo (adds_additions added isAdded)]
  cases write entry added with
  | none => exact .inl rfl
  | some value => exact .inr rfl

theorem untouched_removals_iff (entry : Entry Transmitter Receiver) :
    Untouched (write entry) entity.additions ↔ Untouched (write entry) entity.removals := by
  rw [removals_eq, Untouched, Untouched, List.forall_mem_map]
  refine forall₂_congr fun op member => ?_
  rw [MessageRouter.write_undo (adds_additions op member), Option.map_eq_none_iff]

/-- Calls that take registrations back succeed. -/
theorem step_of_deregistrations (complete : entity.Complete)
    (member : op ∈ entity.topics.flatMap Topic.deregistrations)
    (router : MessageRouter Transmitter Receiver) :
    (MessageRouter.system.step router op).2 = .ok () := by
  have isRemoval : op ∈ entity.removals := List.mem_append_right _ member
  rw [removals_eq] at isRemoval
  obtain ⟨addition, isAddition, rfl⟩ := List.mem_map.mp isRemoval
  have set := (Op.portsSet_undo addition).trans (complete addition isAddition)
  obtain ⟨topic, -, isDeregistration⟩ := List.mem_flatMap.mp member
  rcases List.mem_append.mp isDeregistration with transmitter | receiver
  · obtain ⟨tx, -, same⟩ := List.mem_map.mp transmitter
    rw [← same] at set ⊢
    obtain ⟨tx, rfl⟩ := Option.isSome_iff_exists.mp set
    rfl
  · obtain ⟨rx, -, same⟩ := List.mem_map.mp receiver
    rw [← same] at set ⊢
    obtain ⟨rx, rfl⟩ := Option.isSome_iff_exists.mp set
    rfl

end RoutedEntity

end Gxf.Std
