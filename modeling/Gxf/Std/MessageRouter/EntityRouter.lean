import Gxf.Std.Entity
import Gxf.Std.MessageRouter.Entities

/-!
# Entities that come and go

The program announces every entity that it activates or deactivates.  The tables of the
router know neither how often a route was made nor who made it, and the caches of the ports
of an entity are never emptied.
-/

namespace Gxf.Std

open Gxf.Core Gxf.Lib MessageRouter Function RoutedEntity

/-- The router with the caches `receivers_` and `transmitters_`.  The functions that read them
do not tell a missing entity from one without ports. -/
structure EntityRouter (Transmitter Receiver : Type) where
  tables : MessageRouter Transmitter Receiver
  receivers : Uid → Finset Receiver
  transmitters : Uid → Finset Transmitter

namespace EntityRouter

variable {Transmitter Receiver : Type} [DecidableEq Transmitter] [DecidableEq Receiver]

/-- A router without entities. -/
def create : EntityRouter Transmitter Receiver := ⟨.create, fun _ => ∅, fun _ => ∅⟩

variable (router : EntityRouter Transmitter Receiver) (eid : Uid)
  (entity : RoutedEntity Transmitter Receiver)

/-- `addRoutes(entity)`. -/
def addRoutes : EntityRouter Transmitter Receiver × Except GxfResult Unit :=
  match MessageRouter.system.perform router.tables entity.additions with
  | (tables, .error code) => ({ router with tables }, .error code)
  | (tables, .ok ()) =>
      ({ tables
         receivers := update router.receivers eid
           (router.receivers eid ∪ entity.receivers.toFinset)
         transmitters := update router.transmitters eid
           (router.transmitters eid ∪ entity.transmitters.toFinset) }, .ok ())

/-- `removeRoutes(entity)`. -/
def removeRoutes : EntityRouter Transmitter Receiver × Except GxfResult Unit :=
  let (tables, result) := MessageRouter.system.perform router.tables entity.removals
  ({ router with tables }, result)

/-- The calls with which the program announces the entities that it activates and
deactivates. -/
inductive Call where
  | addRoutes (eid : Uid)
  | removeRoutes (eid : Uid)
  deriving DecidableEq, Repr

variable (entities : Uid → RoutedEntity Transmitter Receiver)

def system : System (EntityRouter Transmitter Receiver) Call (Except GxfResult Unit) where
  step router
    | .addRoutes eid => router.addRoutes eid (entities eid)
    | .removeRoutes eid => router.removeRoutes (entities eid)

/-- The entities that are present, in the order in which they were added. -/
def present : List Uid → Call → Except GxfResult Unit → List Uid
  | eids, .addRoutes eid, _ => eids ++ [eid]
  | eids, .removeRoutes eid, _ => eids.erase eid

/-- The router after the addition of some entities. -/
def added (eids : List Uid) : EntityRouter Transmitter Receiver :=
  (system entities).run create (eids.map .addRoutes)

/-- Two routers connect the same ports and cache the same ports. -/
structure Alike (left right : EntityRouter Transmitter Receiver) : Prop where
  connectedReceivers : ∀ tx,
    left.tables.getConnectedReceivers tx = right.tables.getConnectedReceivers tx
  connectedTransmitters : ∀ rx,
    left.tables.getConnectedTransmitters rx = right.tables.getConnectedTransmitters rx
  receivers : ∀ eid, left.receivers eid = right.receivers eid
  transmitters : ∀ eid, left.transmitters eid = right.transmitters eid

/-- A call leaves the router as if only the entities still present had been added, and it
succeeds if it is a removal. -/
def Forgets (pair : EntityRouter Transmitter Receiver × List Uid) (call : Call) : Prop :=
  let after := ((system entities).recorded present).step pair call
  (∀ eid, call = .removeRoutes eid → after.2 = .ok ()) ∧ Alike after.1.1 (added entities after.1.2)

/-- An entity whose routes can be taken back: its ports are set, it makes no connection twice,
it shares no connection and no port of a topic with an entity that stays, and it has no ports
of its own, unless it was added a second time. -/
structure Removable (eids : List Uid) (eid : Uid) : Prop where
  connected : ∀ connection ∈ (entities eid).connections, connection.1.isSome ∧ connection.2.isSome
  transmittersSet : ∀ tx ∈ (entities eid).topicTransmitters, tx.isSome
  receiversSet : ∀ rx ∈ (entities eid).topicReceivers, rx.isSome
  once : (entities eid).connections.Nodup
  connections : ∀ other ∈ eids.erase eid,
    (entities eid).connections.Disjoint (entities other).connections
  topicTransmitters : ∀ other ∈ eids.erase eid,
    (entities eid).topicTransmitters.Disjoint (entities other).topicTransmitters
  topicReceivers : ∀ other ∈ eids.erase eid,
    (entities eid).topicReceivers.Disjoint (entities other).topicReceivers
  uncached : eid ∈ eids.erase eid ∨ (entities eid).receivers = [] ∧ (entities eid).transmitters = []

/-- An entity is removed only after it was added, and while its routes can be taken back. -/
def Allowed (pair : EntityRouter Transmitter Receiver × List Uid) : Call → Prop
  | .addRoutes _ => True
  | .removeRoutes eid => eid ∈ pair.2 ∧ Removable entities pair.2 eid

open MessageRouter (Op Entry write)

variable {left right : EntityRouter Transmitter Receiver}

/-- Two routers have the same entries in their tables and in their caches. -/
structure Same (left right : EntityRouter Transmitter Receiver) : Prop where
  contains : ∀ entry, left.tables.Contains entry = right.tables.Contains entry
  receivers : ∀ eid rx, rx ∈ left.receivers eid ↔ rx ∈ right.receivers eid
  transmitters : ∀ eid tx, tx ∈ left.transmitters eid ↔ tx ∈ right.transmitters eid

namespace Same

variable (same : Same left right)

include same

omit [DecidableEq Transmitter] [DecidableEq Receiver] in
theorem topic_transmitters (tx : Transmitter) :
    left.tables.transmitters.topic tx = right.tables.transmitters.topic tx :=
  Option.ext fun topicName => Eq.to_iff (same.contains (.transmitterTopic topicName tx))

omit [DecidableEq Transmitter] [DecidableEq Receiver] in
theorem topic_receivers (rx : Receiver) :
    left.tables.receivers.topic rx = right.tables.receivers.topic rx :=
  Option.ext fun topicName => Eq.to_iff (same.contains (.receiverTopic topicName rx))

theorem alike : Alike left right where
  connectedReceivers tx := by
    cases tx with
    | none => rfl
    | some tx =>
        have routes : left.tables.routes tx = right.tables.routes tx :=
          Finset.ext fun rx => Eq.to_iff (same.contains (.route tx rx))
        have ports : left.tables.receivers.ports = right.tables.receivers.ports :=
          funext fun topicName => Finset.ext fun rx =>
            Eq.to_iff (same.contains (.receiverPort topicName rx))
        simp only [getConnectedReceivers, receiversOf, routes, ports,
          same.topic_transmitters]
  connectedTransmitters rx := by
    cases rx with
    | none => rfl
    | some rx =>
        have routes : left.tables.routesReversed rx = right.tables.routesReversed rx :=
          Finset.ext fun tx => Eq.to_iff (same.contains (.routeReversed tx rx))
        have ports : left.tables.transmitters.ports = right.tables.transmitters.ports :=
          funext fun topicName => Finset.ext fun tx =>
            Eq.to_iff (same.contains (.transmitterPort topicName tx))
        simp only [getConnectedTransmitters, transmittersOf, routes,
          ports, same.topic_receivers]
  receivers eid := Finset.ext (same.receivers eid)
  transmitters eid := Finset.ext (same.transmitters eid)

end Same

variable {router} {entities} {eid} {other : Uid} {eids : List Uid}

theorem tables_addRoutes (router : EntityRouter Transmitter Receiver) (eid : Uid)
    (entity : RoutedEntity Transmitter Receiver) :
    (router.addRoutes eid entity).1.tables =
      (MessageRouter.system.perform router.tables entity.additions).1 := by
  rw [addRoutes]
  split
  · next performed => rw [performed]
  · next performed => rw [performed]

theorem contains_addRoutes (router : EntityRouter Transmitter Receiver) (eid : Uid)
    (entity : RoutedEntity Transmitter Receiver) (entry : Entry Transmitter Receiver) :
    (router.addRoutes eid entity).1.tables.Contains entry =
      lastWrite (write entry) (router.tables.Contains entry) entity.completed := by
  rw [tables_addRoutes]
  exact contains_perform _ entity.adds_additions entry

theorem mem_update_union {Port : Type} [DecidableEq Port] (cache : Uid → Finset Port)
    (ports : List Port) (port : Port) :
    port ∈ update cache eid (cache eid ∪ ports.toFinset) other ↔
      port ∈ cache other ∨ eid = other ∧ port ∈ ports := by
  by_cases isOther : other = eid
  · subst isOther
    rw [update_self, Finset.mem_union, List.mem_toFinset, and_iff_right rfl]
  · rw [update_of_ne isOther, or_iff_left fun both => isOther both.1.symm]

theorem caches_addRoutes (router : EntityRouter Transmitter Receiver) (eid : Uid)
    (entity : RoutedEntity Transmitter Receiver) :
    entity.Complete ∧
        (router.addRoutes eid entity).1.receivers = update router.receivers eid
          (router.receivers eid ∪ entity.receivers.toFinset) ∧
        (router.addRoutes eid entity).1.transmitters = update router.transmitters eid
          (router.transmitters eid ∪ entity.transmitters.toFinset) ∨
      ¬entity.Complete ∧ (router.addRoutes eid entity).1.receivers = router.receivers ∧
        (router.addRoutes eid entity).1.transmitters = router.transmitters := by
  have complete : _ ↔ entity.Complete :=
    perform_eq_ok_iff router.tables entity.adds_additions
  rw [addRoutes]
  split
  · next performed =>
      rw [performed] at complete
      exact .inr ⟨fun all => (nomatch complete.mpr all), rfl, rfl⟩
  · next performed =>
      rw [performed] at complete
      exact .inl ⟨complete.mp rfl, rfl, rfl⟩

theorem mem_receivers_addRoutes (router : EntityRouter Transmitter Receiver) (eid other : Uid)
    (entity : RoutedEntity Transmitter Receiver) (rx : Receiver) :
    rx ∈ (router.addRoutes eid entity).1.receivers other ↔
      rx ∈ router.receivers other ∨ eid = other ∧ entity.Complete ∧ rx ∈ entity.receivers := by
  obtain ⟨complete, filled, -⟩ | ⟨partly, left, -⟩ := router.caches_addRoutes eid entity
  · rw [filled, and_iff_right complete]
    exact mem_update_union router.receivers entity.receivers rx
  · rw [left]
    exact (or_iff_left fun all => partly all.2.1).symm

theorem mem_transmitters_addRoutes (router : EntityRouter Transmitter Receiver)
    (eid other : Uid) (entity : RoutedEntity Transmitter Receiver) (tx : Transmitter) :
    tx ∈ (router.addRoutes eid entity).1.transmitters other ↔ tx ∈ router.transmitters other ∨
        eid = other ∧ entity.Complete ∧ tx ∈ entity.transmitters := by
  obtain ⟨complete, -, filled⟩ | ⟨partly, -, left⟩ := router.caches_addRoutes eid entity
  · rw [filled, and_iff_right complete]
    exact mem_update_union router.transmitters entity.transmitters tx
  · rw [left]
    exact (or_iff_left fun all => partly all.2.1).symm

theorem Same.addRoutes (same : Same left right) (eid : Uid)
    (entity : RoutedEntity Transmitter Receiver) :
    Same (left.addRoutes eid entity).1 (right.addRoutes eid entity).1 where
  contains entry := by rw [contains_addRoutes, contains_addRoutes, same.contains entry]
  receivers other rx := by
    rw [mem_receivers_addRoutes, mem_receivers_addRoutes, same.receivers other rx]
  transmitters other tx := by
    rw [mem_transmitters_addRoutes, mem_transmitters_addRoutes, same.transmitters other tx]

theorem added_concat (eids : List Uid) (eid : Uid) :
    added entities (eids ++ [eid]) = ((added entities eids).addRoutes eid (entities eid)).1 := by
  rw [added, List.map_append, System.run_append]
  rfl

theorem contains_added (eids : List Uid) (entry : Entry Transmitter Receiver) :
    (added entities eids).tables.Contains entry =
      lastWrite (write entry) False (eids.flatMap fun eid => (entities eid).completed) := by
  induction eids using List.reverseRecOn with
  | nil => cases entry <;> exact eq_false nofun
  | append_singleton eids eid ih =>
      rw [added_concat, contains_addRoutes, ih, List.flatMap_append, lastWrite_append,
        List.flatMap_singleton]

section

variable {Port : Type} {cache : EntityRouter Transmitter Receiver → Uid → Finset Port}
  {own : RoutedEntity Transmitter Receiver → List Port}
  (empty : ∀ eid port, port ∉ cache create eid)
  (filled : ∀ router eid other entity port, port ∈ cache (router.addRoutes eid entity).1 other ↔
    port ∈ cache router other ∨ eid = other ∧ entity.Complete ∧ port ∈ own entity)
include empty filled

theorem mem_cache_added (eids : List Uid) (eid : Uid) (port : Port) :
    port ∈ cache (added entities eids) eid ↔
      eid ∈ eids ∧ (entities eid).Complete ∧ port ∈ own (entities eid) := by
  induction eids using List.reverseRecOn with
  | nil => exact iff_of_false (empty eid port) fun all => nomatch all.1
  | append_singleton eids last ih =>
      rw [added_concat, filled, ih, List.mem_append, List.mem_singleton, or_and_right]
      refine or_congr_right ⟨?_, ?_⟩
      · rintro ⟨rfl, complete, member⟩
        exact ⟨rfl, complete, member⟩
      · rintro ⟨rfl, complete, member⟩
        exact ⟨rfl, complete, member⟩

theorem mem_cache_erase
    (uncached : eid ∈ eids.erase eid ∨ own (entities eid) = []) (other : Uid) (port : Port) :
    port ∈ cache (added entities eids) other ↔
      port ∈ cache (added entities (eids.erase eid)) other := by
  rw [mem_cache_added empty filled, mem_cache_added empty filled]
  by_cases isOther : other = eid
  · subst isOther
    rcases uncached with stays | noPorts
    · exact and_congr_left fun _ => iff_of_true (List.mem_of_mem_erase stays) stays
    · rw [noPorts]
      exact iff_of_false (fun all => nomatch all.2.2) fun all => nomatch all.2.2
  · rw [List.mem_erase_of_ne isOther]

end

omit [DecidableEq Transmitter] [DecidableEq Receiver] in
theorem Removable.complete (removable : Removable entities eids eid) : (entities eid).Complete := by
  intro op member
  rcases mem_additions_iff.mp member with
    ⟨connection, isConnection, rfl⟩ | ⟨topic, isTopic, transmitter | receiver⟩
  · have set := removable.connected connection isConnection
    exact Bool.and_eq_true_iff.mpr set
  · obtain ⟨tx, isPort, rfl⟩ := transmitter
    exact removable.transmittersSet tx (List.mem_flatMap.mpr ⟨topic, isTopic, isPort⟩)
  · obtain ⟨rx, isPort, rfl⟩ := receiver
    exact removable.receiversSet rx (List.mem_flatMap.mpr ⟨topic, isTopic, isPort⟩)

omit [DecidableEq Transmitter] [DecidableEq Receiver] in
theorem Removable.not_needs (removable : Removable entities eids eid)
    (stays : other ∈ eids.erase eid) {entry : Entry Transmitter Receiver}
    (needs : (entities eid).Needs entry) : ¬ (entities other).Needs entry := by
  cases entry with
  | route | routeReversed => exact fun also => removable.connections other stays needs also
  | transmitterPort | transmitterTopic =>
      exact fun also => removable.topicTransmitters other stays needs also
  | receiverPort | receiverTopic =>
      exact fun also => removable.topicReceivers other stays needs also

theorem contains_of_connection (member : eid ∈ eids) (complete : (entities eid).Complete)
    {tx : Transmitter} {rx : Receiver}
    (isConnection : (some tx, some rx) ∈ (entities eid).connections) :
    (added entities eids).tables.Contains (.route tx rx) ∧
      (added entities eids).tables.Contains (.routeReversed tx rx) := by
  have isOp : Op.connect (some tx) (some rx) ∈
      eids.flatMap fun eid => (entities eid).completed := by
    refine List.mem_flatMap.mpr ⟨eid, member, ?_⟩
    rw [complete.completed_eq]
    exact mem_additions_iff.mpr (.inl ⟨_, isConnection, rfl⟩)
  have adds (op : Op Transmitter Receiver)
      (isOp : op ∈ eids.flatMap fun eid => (entities eid).completed) : op.Adds := by
    obtain ⟨other, -, isCompleted⟩ := List.mem_flatMap.mp isOp
    exact (entities other).adds_additions op (mem_additions_of_completed isCompleted)
  have makes (op : Op Transmitter Receiver) (isAdding : op.Adds) :
      write (.route tx rx) op = none ∨ write (.route tx rx) op = some True := by
    cases op with
    | connect source target =>
        rw [write]
        split_ifs
        · exact .inr rfl
        · exact .inl rfl
    | registerTransmitter | registerReceiver => exact .inl rfl
    | _ => cases isAdding
  have writes : write (.route tx rx) (Op.connect (some tx) (some rx)) ≠ none := by
    rw [write, if_pos ⟨rfl, rfl⟩]
    exact Option.some_ne_none True
  have alsoReversed : write (.routeReversed tx rx) = write (.route tx rx) := by
    funext op
    cases op <;> rfl
  rw [contains_added, contains_added, alsoReversed, and_self,
    lastWrite_of_mem (fun op isOp => makes op (adds op isOp)) isOp writes]
  trivial

theorem Removable.removals_succeed (removable : Removable entities eids eid) (member : eid ∈ eids)
    (same : Same router (added entities eids)) :
    (MessageRouter.system.perform router.tables (entities eid).removals).2 = .ok () := by
  have complete := removable.complete
  have disconnected := perform_disconnects removable.connected removable.once
    router.tables fun tx rx isConnection => by
      rw [same.contains, same.contains]
      exact contains_of_connection member complete isConnection
  rw [removals, System.perform_append_of_ok disconnected]
  exact System.perform_of_forall
    (fun op isOp tables => step_of_deregistrations complete isOp tables) _

theorem Removable.contains (removable : Removable entities eids eid) (member : eid ∈ eids)
    (entry : Entry Transmitter Receiver) :
    lastWrite (write entry) ((added entities eids).tables.Contains entry) (entities eid).removals =
      (added entities (eids.erase eid)).tables.Contains entry := by
  obtain ⟨before, after, -, split, erased⟩ := List.exists_erase_eq member
  have untouched (other : Uid) (unneeded : ¬ (entities other).Needs entry) :
      Untouched (write entry) (entities other).completed := fun op isOp =>
    untouched_of_not_needs unneeded op (mem_additions_of_completed isOp)
  rw [contains_added, contains_added, ← lastWrite_append, erased]
  nth_rewrite 1 [split]
  refine lastWrite_undo (fun eid => (entities eid).completed) (fun eid => (entities eid).removals)
    (fun touched other stays => ?_) (resets_removals entry) ?_
  · have needs := not_not.mp fun unneeded => touched (untouched eid unneeded)
    exact untouched other (removable.not_needs (erased ▸ stays) needs)
  · rw [removable.complete.completed_eq]
    exact untouched_removals_iff entry

theorem Same.removeRoutes (same : Same router (added entities eids))
    (removable : Removable entities eids eid) (member : eid ∈ eids) :
    (router.removeRoutes (entities eid)).2 = .ok () ∧
      Same (router.removeRoutes (entities eid)).1 (added entities (eids.erase eid)) := by
  have success := removable.removals_succeed member same
  refine ⟨success, ⟨fun entry => ?_, fun other rx => ?_, fun other tx => ?_⟩⟩
  · have read := System.read_perform (MessageRouter.Contains · entry) (fun tables op done =>
      contains_step tables op done entry) success
    rw [same.contains entry, removable.contains member entry] at read
    exact read
  · exact (same.receivers other rx).trans (mem_cache_erase (fun _ => Finset.notMem_empty)
      mem_receivers_addRoutes (removable.uncached.imp_right And.left) other rx)
  · exact (same.transmitters other tx).trans (mem_cache_erase (fun _ => Finset.notMem_empty)
      mem_transmitters_addRoutes (removable.uncached.imp_right And.right) other tx)

theorem same_step (pair : EntityRouter Transmitter Receiver × List Uid) (call : Call)
    (same : Same pair.1 (added entities pair.2)) (allowed : Allowed entities pair call) :
    (∀ eid, call = .removeRoutes eid →
        (((system entities).recorded present).step pair call).2 = .ok ()) ∧
      Same (((system entities).recorded present).step pair call).1.1
        (added entities (((system entities).recorded present).step pair call).1.2) := by
  cases call with
  | addRoutes eid =>
      refine ⟨nofun, ?_⟩
      have next := same.addRoutes eid (entities eid)
      rw [← added_concat] at next
      exact next
  | removeRoutes eid =>
      have removed := same.removeRoutes allowed.2 allowed.1
      exact ⟨fun _ _ => removed.1, removed.2⟩

/-- Along every run in which entities are removed only while their routes can be taken back,
the removals succeed and leave the routes and the caches of the entities still present. -/
theorem run_forgets (entities : Uid → RoutedEntity Transmitter Receiver) (calls : List Call)
    (allowed : ((system entities).recorded present).Along (Allowed entities) (create, []) calls) :
    ((system entities).recorded present).Along (Forgets entities) (create, []) calls := by
  refine System.along_of_invariant
    (fun pair call same allowed => (same_step pair call same allowed).2)
    (fun pair call same allowed => ?_) ?_ allowed
  · exact (same_step pair call same allowed).imp_right Same.alike
  · exact ⟨fun _ => rfl, fun _ _ => Iff.rfl, fun _ _ => Iff.rfl⟩

/-- Two entities with a connection and a topic of their own, the first of which is removed. -/
theorem run_forgets_first :
    let entities : Uid → RoutedEntity Nat Nat := fun eid =>
      if eid = 1 then ⟨[(some 1, some 2)], [⟨"left", [some 1], []⟩], [], []⟩
      else ⟨[(some 3, some 4)], [⟨"right", [some 3], [some 2]⟩], [4], [3]⟩
    let calls := [Call.addRoutes 1, .addRoutes 2, .removeRoutes 1]
    ((system entities).recorded present).Along (Allowed entities) (create, []) calls ∧
      ((system entities).recorded present).Along (Forgets entities) (create, []) calls := by
  intro entities calls
  have allowed : ((system entities).recorded present).Along (Allowed entities) (create, [])
      calls := by
    refine ⟨trivial, trivial, ⟨List.mem_cons_self, ?_⟩, trivial⟩
    have stays (other : Uid) (member : other ∈ [(1 : Uid), 2].erase 1) : other = 2 :=
      List.mem_singleton.mp member
    constructor
    · decide
    · decide
    · decide
    · decide
    · intro other member
      rw [stays other member]
      exact List.disjoint_left.mpr (by decide)
    · intro other member
      rw [stays other member]
      exact List.disjoint_left.mpr (by decide)
    · intro other member
      rw [stays other member]
      exact List.disjoint_left.mpr (by decide)
    · exact .inr ⟨rfl, rfl⟩
  exact ⟨allowed, run_forgets entities calls allowed⟩

/-- Two entities that make the same connection: the first removal takes it away from both, the
second one fails, and the receivers of both stay in the cache. -/
theorem shared_connection_lost :
    let entities : Uid → RoutedEntity Nat Nat := fun _ => ⟨[(some 1, some 2)], [], [2], []⟩
    let calls := [Call.addRoutes 1, .addRoutes 2, .removeRoutes 1, .removeRoutes 2]
    ((system entities).recorded present).Along
        (fun pair call => ∀ eid, call = .removeRoutes eid → eid ∈ pair.2) (create, []) calls ∧
      (system entities).outputs create calls =
        [.ok (), .ok (), .ok (), .error .GXF_ENTITY_COMPONENT_NOT_FOUND] ∧
      ((system entities).run create (calls.take 3)).tables.getConnectedReceivers (some 1) =
        .ok ∅ ∧
      (added entities [2]).tables.getConnectedReceivers (some 1) = .ok {2} ∧
      ((system entities).run create calls).receivers 1 = {2} ∧
      ¬ ((system entities).recorded present).Along (Forgets entities) (create, []) calls := by
  intro entities calls
  have outputs : (system entities).outputs create calls =
      [.ok (), .ok (), .ok (), .error .GXF_ENTITY_COMPONENT_NOT_FOUND] := rfl
  refine ⟨?_, outputs, rfl, rfl, rfl, fun forgets => ?_⟩
  · refine ⟨nofun, nofun, ?_, ?_, trivial⟩
    · rintro eid ⟨⟩
      decide
    · rintro eid ⟨⟩
      decide
  · have success := forgets.2.2.2.1.1 2 rfl
    cases success

end EntityRouter

end Gxf.Std
