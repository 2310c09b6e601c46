import Mathlib.Data.Finset.Basic
import Gxf.Core.Result
import Gxf.Lib.Run

/-!
# The tables of the message router

Transmitters and receivers are connected explicitly, or implicitly by a common topic.
The router stores both kinds of routes in two directions.  A map that creates an empty
set for a missing key is a function to sets, since no function of the router tells a
missing key from an empty set.
-/

namespace Gxf.Std

open Gxf.Core Gxf.Lib Function

/-- The ports of one kind that are registered for topics: `topic_and_transmitters_` with
`transmitter_and_topic_`, or `topic_and_receivers_` with `receiver_and_topic_`. -/
structure TopicTable (Port : Type) where
  ports : String → Finset Port
  topic : Port → Option String

namespace TopicTable

variable {Port : Type} [DecidableEq Port]

/-- A table without ports. -/
def empty : TopicTable Port := ⟨fun _ => ∅, fun _ => none⟩

/-- `registerTransmitter` and `registerReceiver`, for a port. -/
def register (table : TopicTable Port) (topicName : String) (port : Port) : TopicTable Port where
  ports := update table.ports topicName (insert port (table.ports topicName))
  topic := update table.topic port (some topicName)

/-- `deregisterTransmitter` and `deregisterReceiver`, for a port. -/
def deregister (table : TopicTable Port) (topicName : String) (port : Port) : TopicTable Port where
  ports := update table.ports topicName ((table.ports topicName).erase port)
  topic := update table.topic port none

/-- Both directions of a table agree. -/
def Consistent (table : TopicTable Port) : Prop :=
  ∀ topicName port, port ∈ table.ports topicName ↔ table.topic port = some topicName

/-- A port belongs to no topic, or to the given one. -/
def FreeFor (table : TopicTable Port) (topicName : String) (port : Port) : Prop :=
  ∀ other, table.topic port = some other → other = topicName

end TopicTable

/-- The tables of the router.  `connectedTransmitters` is what `setTransmitter` leaves in
the receivers. -/
structure MessageRouter (Transmitter Receiver : Type) where
  routes : Transmitter → Finset Receiver
  routesReversed : Receiver → Finset Transmitter
  transmitters : TopicTable Transmitter
  receivers : TopicTable Receiver
  connectedTransmitters : Receiver → Finset Transmitter

namespace MessageRouter

variable {Transmitter Receiver : Type} [DecidableEq Transmitter] [DecidableEq Receiver]

/-- A router without routes. -/
def create : MessageRouter Transmitter Receiver where
  routes _ := ∅
  routesReversed _ := ∅
  transmitters := .empty
  receivers := .empty
  connectedTransmitters _ := ∅

/-- `connect(tx, rx)`.  A handle without a component is `none`. -/
def connect (router : MessageRouter Transmitter Receiver) (tx : Option Transmitter)
    (rx : Option Receiver) : MessageRouter Transmitter Receiver × Except GxfResult Unit :=
  match tx, rx with
  | some tx, some rx =>
      ({ router with
          routes := update router.routes tx (insert rx (router.routes tx))
          routesReversed :=
            update router.routesReversed rx (insert tx (router.routesReversed rx))
          connectedTransmitters := update router.connectedTransmitters rx
            (insert tx (router.connectedTransmitters rx)) }, .ok ())
  | _, _ => (router, .error .GXF_ARGUMENT_NULL)

/-- `disconnect(tx, rx)`.  The receiver is erased before the reverse table is searched. -/
def disconnect (router : MessageRouter Transmitter Receiver) (tx : Option Transmitter)
    (rx : Option Receiver) : MessageRouter Transmitter Receiver × Except GxfResult Unit :=
  match tx, rx with
  | some tx, some rx =>
      if rx ∉ router.routes tx then (router, .error .GXF_ENTITY_COMPONENT_NOT_FOUND)
      else
        let erased := { router with
          routes := update router.routes tx ((router.routes tx).erase rx) }
        if tx ∉ router.routesReversed rx then (erased, .error .GXF_ENTITY_COMPONENT_NOT_FOUND)
        else
          ({ erased with
              routesReversed := update router.routesReversed rx
                ((router.routesReversed rx).erase tx) }, .ok ())
  | _, _ => (router, .error .GXF_ARGUMENT_NULL)

/-- `registerTransmitter(topic_name, tx)`. -/
def registerTransmitter (router : MessageRouter Transmitter Receiver) (topicName : String)
    (tx : Option Transmitter) : MessageRouter Transmitter Receiver × Except GxfResult Unit :=
  match tx with
  | none => (router, .error .GXF_ARGUMENT_NULL)
  | some tx => ({ router with transmitters := router.transmitters.register topicName tx }, .ok ())

/-- `deregisterTransmitter(topic_name, tx)`. -/
def deregisterTransmitter (router : MessageRouter Transmitter Receiver) (topicName : String)
    (tx : Option Transmitter) : MessageRouter Transmitter Receiver × Except GxfResult Unit :=
  match tx with
  | none => (router, .error .GXF_ARGUMENT_NULL)
  | some tx => ({ router with transmitters := router.transmitters.deregister topicName tx }, .ok ())

/-- `registerReceiver(topic_name, rx)`. -/
def registerReceiver (router : MessageRouter Transmitter Receiver) (topicName : String)
    (rx : Option Receiver) : MessageRouter Transmitter Receiver × Except GxfResult Unit :=
  match rx with
  | none => (router, .error .GXF_ARGUMENT_NULL)
  | some rx => ({ router with receivers := router.receivers.register topicName rx }, .ok ())

/-- `deregisterReceiver(topic_name, rx)`. -/
def deregisterReceiver (router : MessageRouter Transmitter Receiver) (topicName : String)
    (rx : Option Receiver) : MessageRouter Transmitter Receiver × Except GxfResult Unit :=
  match rx with
  | none => (router, .error .GXF_ARGUMENT_NULL)
  | some rx => ({ router with receivers := router.receivers.deregister topicName rx }, .ok ())

/-- The receivers connected to a transmitter: those of its connections and those of its
topic. -/
def receiversOf (router : MessageRouter Transmitter Receiver) (tx : Transmitter) :
    Finset Receiver :=
  router.routes tx ∪ (router.transmitters.topic tx).elim ∅ router.receivers.ports

def transmittersOf (router : MessageRouter Transmitter Receiver) (rx : Receiver) :
    Finset Transmitter :=
  router.routesReversed rx ∪ (router.receivers.topic rx).elim ∅ router.transmitters.ports

/-- `getConnectedReceivers(tx)`. -/
def getConnectedReceivers (router : MessageRouter Transmitter Receiver)
    (tx : Option Transmitter) : Except GxfResult (Finset Receiver) :=
  match tx with
  | none => .error .GXF_ARGUMENT_NULL
  | some tx => .ok (router.receiversOf tx)

/-- `getConnectedTransmitters(rx)`. -/
def getConnectedTransmitters (router : MessageRouter Transmitter Receiver)
    (rx : Option Receiver) : Except GxfResult (Finset Transmitter) :=
  match rx with
  | none => .error .GXF_ARGUMENT_NULL
  | some rx => .ok (router.transmittersOf rx)

/-- The calls that change the tables. -/
inductive Op (Transmitter Receiver : Type) where
  | connect (tx : Option Transmitter) (rx : Option Receiver)
  | disconnect (tx : Option Transmitter) (rx : Option Receiver)
  | registerTransmitter (topicName : String) (tx : Option Transmitter)
  | deregisterTransmitter (topicName : String) (tx : Option Transmitter)
  | registerReceiver (topicName : String) (rx : Option Receiver)
  | deregisterReceiver (topicName : String) (rx : Option Receiver)
  deriving DecidableEq, Repr

def system : System (MessageRouter Transmitter Receiver) (Op Transmitter Receiver)
    (Except GxfResult Unit) where
  step router
    | .connect tx rx => router.connect tx rx
    | .disconnect tx rx => router.disconnect tx rx
    | .registerTransmitter topicName tx => router.registerTransmitter topicName tx
    | .deregisterTransmitter topicName tx => router.deregisterTransmitter topicName tx
    | .registerReceiver topicName rx => router.registerReceiver topicName rx
    | .deregisterReceiver topicName rx => router.deregisterReceiver topicName rx

/-! ## Symmetry -/

/-- A receiver is connected to a transmitter exactly when the transmitter is connected to
it. -/
def Symmetric (router : MessageRouter Transmitter Receiver) : Prop :=
  ∀ tx rx receivers transmitters, router.getConnectedReceivers (some tx) = .ok receivers →
      router.getConnectedTransmitters (some rx) = .ok transmitters →
        (rx ∈ receivers ↔ tx ∈ transmitters)

def OneTopic (router : MessageRouter Transmitter Receiver) : Op Transmitter Receiver → Prop
  | .registerTransmitter topicName (some tx) | .deregisterTransmitter topicName (some tx) =>
      router.transmitters.FreeFor topicName tx
  | .registerReceiver topicName (some rx) | .deregisterReceiver topicName (some rx) =>
      router.receivers.FreeFor topicName rx
  | _ => True

/-- Every table agrees with its reverse. -/
structure Consistent (router : MessageRouter Transmitter Receiver) : Prop where
  routes : ∀ tx rx, rx ∈ router.routes tx ↔ tx ∈ router.routesReversed rx
  transmitters : router.transmitters.Consistent
  receivers : router.receivers.Consistent

end MessageRouter

namespace TopicTable

variable {Port : Type} [DecidableEq Port] {table : TopicTable Port}

theorem Consistent.changed (consistent : table.Consistent) {topicName : String} {port : Port}
    (free : table.FreeFor topicName port) :
    (table.register topicName port).Consistent ∧ (table.deregister topicName port).Consistent := by
  constructor
  all_goals
    intro other member
    by_cases samePort : member = port
    · subst samePort
      by_cases sameName : other = topicName
      · simp [TopicTable.register, TopicTable.deregister, sameName]
      · have absent : member ∉ table.ports other :=
          fun present => sameName (free other ((consistent other member).mp present))
        simp [TopicTable.register, TopicTable.deregister, sameName, absent, Ne.symm sameName]
    · have same := consistent other member
      by_cases sameName : other = topicName <;>
        simp_all [TopicTable.register, TopicTable.deregister]

end TopicTable

namespace MessageRouter

variable {Transmitter Receiver : Type} [DecidableEq Transmitter] [DecidableEq Receiver]
variable {router : MessageRouter Transmitter Receiver}

omit [DecidableEq Transmitter] [DecidableEq Receiver] in
theorem consistent_create : Consistent (create : MessageRouter Transmitter Receiver) where
  routes _ _ := iff_of_false (Finset.notMem_empty _) (Finset.notMem_empty _)
  transmitters := fun _ _ => iff_of_false (Finset.notMem_empty _)
    (by simp [create, TopicTable.empty])
  receivers := fun _ _ => iff_of_false (Finset.notMem_empty _) (by simp [create, TopicTable.empty])

namespace Consistent

omit [DecidableEq Transmitter] in
theorem mem_receiversOf (consistent : Consistent router) {tx : Transmitter} {rx : Receiver} :
    rx ∈ router.receiversOf tx ↔ rx ∈ router.routes tx ∨
      ∃ topicName, router.transmitters.topic tx = some topicName ∧
        router.receivers.topic rx = some topicName := by
  rw [receiversOf, Finset.mem_union]
  cases router.transmitters.topic tx with
  | none => simp
  | some topicName => simp [consistent.receivers topicName rx]

section

variable (consistent : Consistent router)
include consistent

omit [DecidableEq Receiver] in
theorem mem_transmittersOf {tx : Transmitter} {rx : Receiver} :
    tx ∈ router.transmittersOf rx ↔ tx ∈ router.routesReversed rx ∨
      ∃ topicName, router.transmitters.topic tx = some topicName ∧
        router.receivers.topic rx = some topicName := by
  rw [transmittersOf, Finset.mem_union]
  cases router.receivers.topic rx with
  | none => simp
  | some topicName => simp [consistent.transmitters topicName tx]

theorem symmetric : Symmetric router := by
  rintro tx rx receivers transmitters ⟨⟩ ⟨⟩
  rw [consistent.mem_receiversOf, consistent.mem_transmittersOf, consistent.routes]

theorem connect (tx : Option Transmitter)
    (rx : Option Receiver) : Consistent (router.connect tx rx).1 := by
  cases tx with
  | none => exact consistent
  | some tx =>
      cases rx with
      | none => exact consistent
      | some rx =>
          refine ⟨fun otherTx otherRx => ?_, consistent.transmitters, consistent.receivers⟩
          have others := consistent.routes otherTx otherRx
          by_cases sameTx : otherTx = tx <;> by_cases sameRx : otherRx = rx <;>
            simp_all [MessageRouter.connect]

theorem disconnect (tx : Option Transmitter)
    (rx : Option Receiver) : Consistent (router.disconnect tx rx).1 := by
  cases tx with
  | none => exact consistent
  | some tx =>
      cases rx with
      | none => exact consistent
      | some rx =>
          rw [MessageRouter.disconnect]
          by_cases connected : rx ∈ router.routes tx
          · have reversed := (consistent.routes tx rx).mp connected
            rw [if_neg (not_not.mpr connected), if_neg (not_not.mpr reversed)]
            refine ⟨fun otherTx otherRx => ?_, consistent.transmitters, consistent.receivers⟩
            have others := consistent.routes otherTx otherRx
            by_cases sameTx : otherTx = tx <;> by_cases sameRx : otherRx = rx <;>
              simp_all
          · rw [if_pos connected]
            exact consistent

theorem step (op : Op Transmitter Receiver)
    (oneTopic : OneTopic router op) : Consistent (system.step router op).1 := by
  cases op with
  | connect tx rx => exact consistent.connect tx rx
  | disconnect tx rx => exact consistent.disconnect tx rx
  | registerTransmitter topicName tx =>
      cases tx with
      | none => exact consistent
      | some tx =>
          exact { consistent with transmitters := (consistent.transmitters.changed oneTopic).1 }
  | deregisterTransmitter topicName tx =>
      cases tx with
      | none => exact consistent
      | some tx =>
          exact { consistent with transmitters := (consistent.transmitters.changed oneTopic).2 }
  | registerReceiver topicName rx =>
      cases rx with
      | none => exact consistent
      | some rx => exact { consistent with receivers := (consistent.receivers.changed oneTopic).1 }
  | deregisterReceiver topicName rx =>
      cases rx with
      | none => exact consistent
      | some rx => exact { consistent with receivers := (consistent.receivers.changed oneTopic).2 }

end

end Consistent

/-- Along a run in which every port belongs to one topic at a time, the connections are
symmetric after every call. -/
theorem run_symmetric (ops : List (Op Transmitter Receiver))
    (oneTopic : system.Along OneTopic create ops) :
    system.Along (fun router op => Symmetric (system.step router op).1) create ops :=
  System.along_of_invariant (fun _ op consistent oneTopic => consistent.step op oneTopic)
    (fun _ op consistent oneTopic => (consistent.step op oneTopic).symmetric)
    consistent_create oneTopic

theorem run_symmetric_topic : system.Along OneTopic (create : MessageRouter Nat Nat)
        [.registerTransmitter "camera" (some 1), .registerReceiver "camera" (some 2)] ∧
      system.Along (fun router op => Symmetric (system.step router op).1)
        (create : MessageRouter Nat Nat)
        [.registerTransmitter "camera" (some 1), .registerReceiver "camera" (some 2)] := by
  have oneTopic : system.Along OneTopic (create : MessageRouter Nat Nat)
      [.registerTransmitter "camera" (some 1), .registerReceiver "camera" (some 2)] := by
    refine ⟨?_, ?_, trivial⟩ <;> rintro other ⟨⟩
  exact ⟨oneTopic, run_symmetric _ oneTopic⟩

/-- A transmitter registered for two topics is only found under the first one from the
side of the receivers, and only under the second one from its own side. -/
theorem two_topics_asymmetric :
    let router := system.run (create : MessageRouter Nat Nat)
      [.registerTransmitter "left" (some 1), .registerTransmitter "right" (some 1),
        .registerReceiver "left" (some 2)]
    router.getConnectedReceivers (some 1) = .ok ∅ ∧
      router.getConnectedTransmitters (some 2) = .ok {1} ∧ ¬Symmetric router := by
  intro router
  have receivers : router.getConnectedReceivers (some 1) = .ok ∅ := rfl
  have transmitters : router.getConnectedTransmitters (some 2) = .ok {1} := rfl
  refine ⟨receivers, transmitters, fun symmetric => ?_⟩
  have found := (symmetric 1 2 ∅ {1} receivers transmitters).mpr (Finset.mem_singleton_self 1)
  exact absurd found (Finset.notMem_empty 2)

end MessageRouter

end Gxf.Std
