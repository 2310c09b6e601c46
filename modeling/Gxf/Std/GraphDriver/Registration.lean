import Gxf.Std.GraphDriver.Driver
import Gxf.Std.GraphDriver.Parameters

/-!
# Refused registrations

The driver checks and records the segments of a worker in one loop.  A registration that is refused
leaves a trace unless it is refused at its first segment.
-/

namespace Gxf.Std

open Gxf.Core
open ComponentParams (Text)

/-- `SegmentInfo`. -/
structure SegmentInfo where
  segmentName : Text
  ipPortAddressMap : List (Text × Text)

/-- `WorkerInfo`. -/
structure WorkerInfo where
  serverIpAddress : Text
  serverPort : Text
  segmentInfoList : List SegmentInfo

/-- What the driver records of the workers. -/
@[ext] structure DriverRecords where
  requestedSegmentNames : Finset Text
  segmentIpAddress : Text → Option Text
  workers : Text → Option (List Text)
  queue : List DriverEvent

namespace DriverRecords

/-- A segment is inserted with its addresses. -/
def insertSegment (records : DriverRecords) (segment : SegmentInfo) : DriverRecords :=
  { records with
    requestedSegmentNames := insert segment.segmentName records.requestedSegmentNames
    segmentIpAddress := segment.ipPortAddressMap.foldl
      (fun addresses pair => Function.update addresses pair.1 (some pair.2))
      records.segmentIpAddress }

/-- The loop over the segments of a worker. -/
def recordSegments (segmentNames : Finset Text) :
    DriverRecords → List SegmentInfo → DriverRecords × Except GxfResult Unit
  | records, [] => (records, .ok ())
  | records, segment :: rest =>
      if segment.segmentName ∉ segmentNames then (records, .error .GXF_ARGUMENT_INVALID)
      else if segment.segmentName ∈ records.requestedSegmentNames then
        (records, .error .GXF_ARGUMENT_INVALID)
      else recordSegments segmentNames (records.insertSegment segment) rest

/-- `onRegisterGraphWorker(resource, payload)`, with what the payload is deserialized to. -/
def onRegisterGraphWorker (segmentNames : Finset Text) (records : DriverRecords)
    (payload : Option WorkerInfo) : DriverRecords × Except GxfResult Unit :=
  match payload with
  | none => (records, .error .GXF_FAILURE)
  | some workerInfo =>
      let recorded := recordSegments segmentNames records workerInfo.segmentInfoList
      match recorded.2 with
      | .error code => (recorded.1, .error code)
      | .ok _ =>
          ({ recorded.1 with
              workers := Function.update recorded.1.workers
                (workerInfo.serverIpAddress ++ ':' :: workerInfo.serverPort)
                (some (workerInfo.segmentInfoList.map SegmentInfo.segmentName))
              queue :=
                if recorded.1.requestedSegmentNames.card = segmentNames.card then
                  recorded.1.queue ++ [.kResolveConnections]
                else recorded.1.queue }, .ok ())

/-- A segment of the graph that no worker has. -/
def Offers (segmentNames : Finset Text) (records : DriverRecords) (name : Text) : Prop :=
  name ∈ segmentNames ∧ name ∉ records.requestedSegmentNames

instance (segmentNames : Finset Text) (records : DriverRecords) (name : Text) :
    Decidable (Offers segmentNames records name) :=
  inferInstanceAs (Decidable (_ ∧ _))

/-- A registration that returns an error changes nothing. -/
def LeavesNoTrace (segmentNames : Finset Text) (records : DriverRecords)
    (payload : Option WorkerInfo) : Prop :=
  ∀ code, (records.onRegisterGraphWorker segmentNames payload).2 = .error code →
    (records.onRegisterGraphWorker segmentNames payload).1 = records

variable {segmentNames : Finset Text} {records : DriverRecords} {segment : SegmentInfo}
  {segments : List SegmentInfo}

theorem recordSegments_cons (offers : Offers segmentNames records segment.segmentName)
    (rest : List SegmentInfo) : recordSegments segmentNames records (segment :: rest) =
      recordSegments segmentNames (records.insertSegment segment) rest := by
  rw [recordSegments, if_neg (not_not_intro offers.1), if_neg offers.2]

theorem recordSegments_of_not (refused : ¬Offers segmentNames records segment.segmentName)
    (rest : List SegmentInfo) : recordSegments segmentNames records (segment :: rest) =
      (records, .error .GXF_ARGUMENT_INVALID) := by
  rw [recordSegments]
  by_cases valid : segment.segmentName ∈ segmentNames
  · rw [if_neg (not_not_intro valid), if_pos (not_not.mp fun free => refused ⟨valid, free⟩)]
  · rw [if_pos valid]

theorem requested_subset (records : DriverRecords) (segments : List SegmentInfo) :
    records.requestedSegmentNames ⊆
      (recordSegments segmentNames records segments).1.requestedSegmentNames := by
  induction segments generalizing records with
  | nil => exact Finset.Subset.refl _
  | cons segment rest ih =>
      by_cases offers : Offers segmentNames records segment.segmentName
      · rw [recordSegments_cons offers]
        exact (Finset.subset_insert _ _).trans (ih (records.insertSegment segment))
      · rw [recordSegments_of_not offers]

theorem recordSegments_ok_iff (segmentNames : Finset Text) (records : DriverRecords)
    (segments : List SegmentInfo) :
    (recordSegments segmentNames records segments).2 = .ok () ↔
      (segments.map SegmentInfo.segmentName).Nodup ∧
        ∀ segment ∈ segments, Offers segmentNames records segment.segmentName := by
  induction segments generalizing records with
  | nil => exact iff_of_true rfl ⟨List.nodup_nil, List.forall_mem_nil _⟩
  | cons segment rest ih =>
      by_cases offers : Offers segmentNames records segment.segmentName
      · rw [recordSegments_cons offers, ih, List.map_cons, List.nodup_cons, List.forall_mem_cons]
        constructor
        · rintro ⟨nodup, all⟩
          refine ⟨⟨fun again => ?_, nodup⟩, offers, fun other member =>
            ⟨(all other member).1, fun already => (all other member).2 ?_⟩⟩
          · obtain ⟨other, member, same⟩ := List.mem_map.mp again
            exact (all other member).2 (same ▸ Finset.mem_insert_self _ _)
          · exact Finset.mem_insert_of_mem already
        · rintro ⟨⟨fresh, nodup⟩, -, all⟩
          refine ⟨nodup, fun other member => ⟨(all other member).1, fun already => ?_⟩⟩
          rcases Finset.mem_insert.mp already with same | before
          · exact fresh (same ▸ List.mem_map_of_mem member)
          · exact (all other member).2 before
      · rw [recordSegments_of_not offers]
        constructor
        · intro returned
          cases returned
        · rintro ⟨-, all⟩
          exact absurd (all segment (List.mem_cons_self ..)) offers

/-- A registration leaves no trace exactly if it cannot be read, is accepted, or is refused at its
first segment. -/
theorem leavesNoTrace_iff (segmentNames : Finset Text) (records : DriverRecords)
    (payload : Option WorkerInfo) :
    LeavesNoTrace segmentNames records payload ↔
      ∀ workerInfo ∈ payload, ∀ first ∈ workerInfo.segmentInfoList.head?,
        ((workerInfo.segmentInfoList.map SegmentInfo.segmentName).Nodup ∧
            ∀ segment ∈ workerInfo.segmentInfoList,
              Offers segmentNames records segment.segmentName) ∨
          ¬Offers segmentNames records first.segmentName := by
  cases payload with
  | none => exact iff_of_true (fun code _ => rfl) fun workerInfo never => by cases never
  | some workerInfo =>
      simp only [Option.mem_some_iff, forall_eq']
      have accepted := recordSegments_ok_iff segmentNames records workerInfo.segmentInfoList
      rw [LeavesNoTrace, onRegisterGraphWorker]
      dsimp only
      cases isSegments : workerInfo.segmentInfoList with
      | nil =>
          exact iff_of_true (fun code failed => by cases failed) fun first never => by cases never
      | cons segment rest =>
          rw [isSegments] at accepted
          simp only [List.head?_cons, Option.mem_some_iff, forall_eq', ← accepted]
          by_cases offers : Offers segmentNames records segment.segmentName
          · cases answer : (recordSegments segmentNames records (segment :: rest)).2 with
            | ok done => exact iff_of_true (fun code failed => by cases failed) (.inl rfl)
            | error code =>
                refine iff_of_false (fun unchanged => ?_) ?_
                · have same := unchanged code rfl
                  have recorded := @requested_subset segmentNames
                    (records.insertSegment segment) rest
                  rw [← recordSegments_cons offers, same] at recorded
                  exact offers.2 (recorded (Finset.mem_insert_self _ _))
                · rintro (ok | refused)
                  · cases ok
                  · exact refused offers
          · rw [recordSegments_of_not offers]
            exact iff_of_true (fun code _ => rfl) (.inr offers)

/-- A worker offers a segment of the graph and an unknown one.  Afterwards it is refused with the
first one alone, which it could have registered before. -/
theorem refused_worker_stays_out :
    let known : Text := "a".toList
    let records : DriverRecords := ⟨∅, fun _ => none, fun _ => none, []⟩
    let offer (names : List Text) : Option WorkerInfo := some ⟨[], [], names.map (⟨·, []⟩)⟩
    let after := (records.onRegisterGraphWorker {known} (offer [known, "b".toList])).1
    ¬LeavesNoTrace {known} records (offer [known, "b".toList]) ∧
      (records.onRegisterGraphWorker {known} (offer [known])).2 = .ok () ∧
      (after.onRegisterGraphWorker {known} (offer [known])).2 = .error .GXF_ARGUMENT_INVALID := by
  intro known records offer after
  refine ⟨fun unchanged => ?_, by decide, by decide⟩
  have same := congrArg requestedSegmentNames (unchanged .GXF_ARGUMENT_INVALID (by decide))
  exact absurd same (by decide)

end DriverRecords

end Gxf.Std
