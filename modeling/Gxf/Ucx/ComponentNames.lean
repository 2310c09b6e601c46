import Gxf.Ucx.UcxEntitySerializer

/-!
# The names in the component headers of UCX

A sequence of components is found again exactly if every name ends in its header.  What the
serializer of a component writes is any bytes that it can take back.
-/

namespace Gxf.Ucx

open Gxf.Lib
open Gxf.Serialization (Tid cString kMaxComponentNameSize)

/-- A component as the entity serializer finds it. -/
structure NamedComponent where
  tid : Tid
  name : SentName
  /-- What the serializer of the component writes. -/
  value : List UInt8

namespace NamedComponent

variable (component : NamedComponent)

def header : ComponentHeader where
  serializedSize := 0
  tid := component.tid
  name := component.name.copied

/-- What is written for a component, unless its name is copied past the header or other memory is
read. -/
def serialize : Option (List UInt8) :=
  if component.name.Fits then
    (strlen? component.header.name.toList).bind fun length =>
      if length ≤ component.name.text.length then
        some (componentHeader.encode component.header ++
          (component.name.text.take length ++ component.value))
      else none
  else none

def described : UInt64 × Tid × List UInt8 := (0, component.tid, component.name.characters)

end NamedComponent

/-- The bytes of `serializeComponents`. -/
def serializeNamed : List NamedComponent → Option (List UInt8)
  | [] => some []
  | component :: components =>
      component.serialize.bind fun bytes => (serializeNamed components).map (bytes ++ ·)

/-- The sizes, types and names that `deserializeComponents` finds and the bytes that are left, where
`consume` is what the serializers of the components leave of theirs. -/
def deserializeNamed (consume : Tid → List UInt8 → Option (List UInt8)) :
    Nat → List UInt8 → Option (List (UInt64 × Tid × List UInt8) × List UInt8)
  | 0, bytes => some ([], bytes)
  | count + 1, bytes =>
      let header := componentHeader.decode bytes
      let body := bytes.drop componentHeader.width
      (strlen? header.name.toList).bind fun length =>
        (consume header.tid (body.drop length)).bind fun rest =>
          (deserializeNamed consume count rest).map fun found =>
            ((header.serializedSize, header.tid, cString (body.take length)) :: found.1, found.2)

/-- The components are found again, and the bytes behind them are left. -/
def RoundTrips (consume : Tid → List UInt8 → Option (List UInt8))
    (components : List NamedComponent) : Prop :=
  ∃ bytes, serializeNamed components = some bytes ∧
    ∀ rest, deserializeNamed consume components.length (bytes ++ rest) =
      some (components.map NamedComponent.described, rest)

namespace NamedComponent

variable {component : NamedComponent}

theorem serialize_eq : component.serialize =
    if component.name.Terminated then
      some (componentHeader.encode component.header ++
        (component.name.text.take component.name.length ++ component.value))
    else none := by
  rw [serialize]
  split
  next fits =>
    rw [header, SentName.strlen?_copied fits]
    by_cases zero : 0 ∈ component.name.behind <;> simp [SentName.Terminated, zero]
  next long => rw [if_neg fun terminated => long (SentName.fits_of_terminated terminated)]

/-- The header and the name of a terminated component are found before its value. -/
theorem deserializeNamed_cons {consume : Tid → List UInt8 → Option (List UInt8)} {count : Nat}
    {rest : List UInt8} (terminated : component.name.Terminated)
    (consumes : ∀ rest, consume component.tid (component.value ++ rest) = some rest) :
    deserializeNamed consume (count + 1) (componentHeader.encode component.header ++
        (component.name.text.take component.name.length ++ component.value) ++ rest) =
      (deserializeNamed consume count rest).map fun found =>
        (component.described :: found.1, found.2) := by
  have length : strlen? component.header.name.toList = some component.name.length :=
    (SentName.strlen?_copied (SentName.fits_of_terminated terminated)).trans (if_pos terminated.1)
  have taken := List.length_take_of_le terminated.2
  rw [deserializeNamed, List.append_assoc, componentHeader.decode_encode,
    List.drop_left' (componentHeader.length_encode _)]
  rw [length, Option.bind_some, List.append_assoc, List.drop_left' taken, List.take_left' taken,
    SentName.cString_take]
  exact congrArg (Option.bind · _) (consumes rest)

end NamedComponent

/-- Components are found again exactly if all names are terminated in their headers. -/
theorem roundTrips_iff {consume : Tid → List UInt8 → Option (List UInt8)}
    {components : List NamedComponent}
    (consumes : ∀ component ∈ components, ∀ rest,
      consume component.tid (component.value ++ rest) = some rest) :
    RoundTrips consume components ↔ ∀ component ∈ components, component.name.Terminated := by
  induction components with
  | nil => exact iff_of_true ⟨[], rfl, fun rest => rfl⟩ (List.forall_mem_nil _)
  | cons component components ih =>
      obtain ⟨first, others⟩ := List.forall_mem_cons.mp consumes
      rw [List.forall_mem_cons, ← ih others]
      by_cases terminated : component.name.Terminated
      · rw [and_iff_right terminated, RoundTrips, serializeNamed,
          NamedComponent.serialize_eq, if_pos terminated, Option.bind_some]
        constructor
        · rintro ⟨bytes, written, found⟩
          obtain ⟨others, wrote, rfl⟩ := Option.map_eq_some_iff.mp written
          refine ⟨others, wrote, fun rest => ?_⟩
          have all := found rest
          rw [List.append_assoc, List.length_cons,
            NamedComponent.deserializeNamed_cons terminated first] at all
          obtain ⟨⟨names, left⟩, isFound, same⟩ := Option.map_eq_some_iff.mp all
          cases same
          exact isFound
        · rintro ⟨others, wrote, found⟩
          refine ⟨_, congrArg (Option.map _) wrote, fun rest => ?_⟩
          rw [List.append_assoc, List.length_cons,
            NamedComponent.deserializeNamed_cons terminated first, found rest]
          rfl
      · refine iff_of_false ?_ fun both => terminated both.1
        rintro ⟨bytes, written, -⟩
        rw [serializeNamed, NamedComponent.serialize_eq, if_neg terminated] at written
        cases written

/-- A component of one byte with a name of one letter. -/
def namedLetter (byte : UInt8) : NamedComponent := ⟨⟨1, 2⟩, letterOver byte, [5]⟩

/-- Two components, where the memory of the headers was zero. -/
theorem roundTrips_iff_zeroed :
    RoundTrips (fun _ bytes => some (bytes.drop 1)) [namedLetter 0, namedLetter 0] :=
  (roundTrips_iff (by simp [namedLetter])).mpr (by decide +kernel)

/-- In memory without a zero the name in the header has no end. -/
theorem name_without_end : ¬RoundTrips (fun _ bytes => some (bytes.drop 1)) [namedLetter 0xcc] := by
  rintro ⟨bytes, written, -⟩
  rw [serializeNamed, NamedComponent.serialize_eq, if_neg] at written
  · cases written
  · intro terminated
    have member := List.mem_of_mem_drop terminated.1
    simp [namedLetter, letterOver] at member

end Gxf.Ucx
