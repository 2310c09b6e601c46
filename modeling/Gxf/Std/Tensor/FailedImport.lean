import Gxf.Std.Tensor.Import

/-!
# Imports that fail

The import stores the context first, which releases the old one, then converts the parts of the
DLPack tensor and replaces the memory.  No error on the way is returned.
-/

namespace Gxf.Std

open Gxf.Core Gxf.Lib

namespace Tensor

/-- A tensor has the elements of a DLPack tensor, with its type, memory and context. -/
structure Mirrors (tensor : Tensor) (dlTensor : DLTensor) : Prop extends
    tensor.Represents dlTensor where
  elementType : primitiveTypeFromDLDataType dlTensor.dtype = .ok tensor.elementType
  bytesPerElement : tensor.bytesPerElement =
    dlTensor.dtype.lanes.toUInt64 * primitiveTypeSize tensor.elementType
  storageType : dlTensor.toStorageType = .ok tensor.memoryBuffer.storageType
  pointer : tensor.memoryBuffer.pointer = dlTensor.data
  size : tensor.memoryBuffer.size = tensor.bytesPerElement * tensor.shape.size
  context : tensor.dlCtx = some dlTensor

/-- What is asked of an import: it reads no memory that is gone and succeeds only if the tensor
describes the DLPack tensor, and if a conversion or the release of the old memory fails, it returns
an error and changes nothing. -/
structure Imports (attributes : PointerAttributes) (tensor : Tensor) (dlTensor : DLTensor)
    (lifetime : Lifetime) (answer : Except GxfResult Unit) : Prop where
  returns : tensor.fromDLPack attributes dlTensor lifetime answer ≠ none
  described : ∀ next, tensor.fromDLPack attributes dlTensor lifetime answer = some (next, .ok ()) →
    next.Mirrors dlTensor
  failed : ¬(dlTensor.Convertible ∧ Replaceable tensor.memoryBuffer dlTensor.data answer) →
    ∃ code, tensor.fromDLPack attributes dlTensor lifetime answer = some (tensor, .error code)

section

variable {attributes : PointerAttributes} {tensor : Tensor} {dlTensor : DLTensor}
  {lifetime : Lifetime} {answer : Except GxfResult Unit}

theorem fromDLPack_ne_error {next : Tensor} {code : GxfResult} :
    tensor.fromDLPack attributes dlTensor lifetime answer ≠ some (next, .error code) := by
  intro fails
  rw [fromDLPack] at fails
  split at fails
  next => cases fails
  next =>
    rw [Option.map_eq_some_iff] at fails
    obtain ⟨status, -, same⟩ := fails
    cases same

theorem fromDLPack_of_convertible (held : lifetime.dangles dlTensor = false)
    (convertible : dlTensor.Convertible) :
    ∃ next, tensor.fromDLPack attributes dlTensor lifetime answer = some (next, .ok ()) ∧
      (Replaceable tensor.memoryBuffer dlTensor.data answer →
        tensor.Importable dlTensor answer → next.Mirrors dlTensor) ∧
      (next.Mirrors dlTensor → tensor.Importable dlTensor answer) := by
  obtain ⟨shape, strides, storageType, elementType, shapeOk, stridesOk, storageOk, elementOk⟩ :=
    convertible
  have wrapped := wrapDLPack_of_ok attributes { tensor with dlCtx := some dlTensor } shapeOk
    stridesOk storageOk elementOk none answer
  refine ⟨_, by rw [fromDLPack, held, if_neg Bool.false_ne_true, wrapped, Option.map_some],
    fun replaceable importable => ?_,
    fun describes => (wrapDLPack_represents_iff wrapped).mp describes.toRepresents⟩
  have represents := (wrapDLPack_represents_iff wrapped).mpr importable
  have memory := wrapMemory_of_replaceable replaceable
    (dlTensor.dtype.lanes.toUInt64 * primitiveTypeSize elementType * shape.size) storageType none
  refine ⟨represents, elementOk, rfl, ?_, ?_, ?_, rfl⟩
  · rw [storageOk, imported, memory]
  · rw [imported, memory]
  · rw [imported, memory]
    rfl

end

/-- For every tensor and every DLPack tensor: the import does what is asked of it exactly if the old
context does not keep what is read, all conversions and the release of the old memory succeed, and
the elements have the same addresses. -/
theorem imports_iff (attributes : PointerAttributes) (tensor : Tensor) (dlTensor : DLTensor)
    (lifetime : Lifetime) (answer : Except GxfResult Unit) :
    tensor.Imports attributes dlTensor lifetime answer ↔
      lifetime.dangles dlTensor = false ∧ dlTensor.Convertible ∧
        Replaceable tensor.memoryBuffer dlTensor.data answer ∧
        tensor.Importable dlTensor answer := by
  constructor
  · rintro ⟨returns, described, failed⟩
    have held : lifetime.dangles dlTensor = false :=
      Bool.eq_false_iff.mpr fun dangles => returns (if_pos dangles)
    have succeeds :
        dlTensor.Convertible ∧ Replaceable tensor.memoryBuffer dlTensor.data answer := by
      by_contra fails
      obtain ⟨code, returned⟩ := failed fails
      exact fromDLPack_ne_error returned
    obtain ⟨next, returned, -, importable⟩ :=
      @fromDLPack_of_convertible attributes _ _ _ _ held succeeds.1
    exact ⟨held, succeeds.1, succeeds.2, importable (described next returned)⟩
  · rintro ⟨held, convertible, replaceable, importable⟩
    obtain ⟨next, returned, describes, -⟩ :=
      @fromDLPack_of_convertible attributes tensor _ _ answer held convertible
    refine ⟨?_, fun other same => ?_, fun fails => absurd ⟨convertible, replaceable⟩ fails⟩
    · rw [returned]
      exact nofun
    · cases returned.symm.trans same
      exact describes replaceable importable

/-- A DLPack tensor of nine dimensions is imported with success. -/
theorem failed_conversion_ignored :
    ¬∀ (attributes : PointerAttributes) (tensor : Tensor) (dlTensor : DLTensor)
        (lifetime : Lifetime) (answer : Except GxfResult Unit),
        tensor.Imports attributes dlTensor lifetime answer := by
  intro claim
  have imports := claim (fun _ => none) {}
    { data := 4096, device := ⟨.kDLCPU, 0⟩, ndim := 9, dtype := ⟨.kDLFloat, 32, 1⟩,
      shape := fun _ => 1, strides := none, byteOffset := 0 } .outlives (.ok ())
  have describes := imports.described _ rfl
  exact absurd describes.rank (by decide)

end Tensor

end Gxf.Std
