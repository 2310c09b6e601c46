import Gxf.Std.Tensor.Disjoint
import Gxf.Std.Tensor.Tensor

/-!
# Elements inside their buffer

A reshape requests the bytes of all elements without gaps, whatever the strides are.  The
module says from which steps strides without gaps are computed, and for which all elements lie in
these bytes.
-/

namespace Gxf.Std

open Gxf.Core Gxf.Lib Layout

variable {shape : Shape} {bytesPerElement : UInt64}

/-- The bytes of the elements without gaps. -/
def Shape.bytes (shape : Shape) (bytesPerElement : UInt64) : Nat :=
  bytesPerElement.toNat * shape.dims.prod

/-- Every step divides the bytes inside of its dimension, and the last one is the size of an
element. -/
def Divides (bytesPerElement : Nat) : List Nat → List UInt64 → Prop
  | _ :: lower :: dims, step :: steps =>
      step.toNat ∣ bytesPerElement * (lower :: dims).prod ∧
        Divides bytesPerElement (lower :: dims) steps
  | [_], step :: _ => step.toNat = bytesPerElement
  | _, _ => True

/-- The condition on the steps, from the outermost dimension with more than one position inwards. -/
def Unpadded (bytesPerElement : Nat) : List Nat → List UInt64 → Prop
  | dim :: dims, step :: steps =>
      if dim = 1 then Unpadded bytesPerElement dims steps
      else Divides bytesPerElement (dim :: dims) (step :: steps)
  | _, _ => True

instance decidableDivides (bytesPerElement : Nat) :
    (dims : List Nat) → (steps : List UInt64) → Decidable (Divides bytesPerElement dims steps)
  | _ :: lower :: dims, _ :: steps =>
      have := decidableDivides bytesPerElement (lower :: dims) steps
      inferInstanceAs (Decidable (_ ∧ _))
  | [_], step :: _ => inferInstanceAs (Decidable (step.toNat = bytesPerElement))
  | [], _ => isTrue trivial
  | [_], [] => isTrue trivial
  | _ :: _ :: _, [] => isTrue trivial

instance decidableUnpadded (bytesPerElement : Nat) :
    (dims : List Nat) → (steps : List UInt64) → Decidable (Unpadded bytesPerElement dims steps)
  | dim :: dims, _ :: steps =>
      have := decidableUnpadded bytesPerElement dims steps
      inferInstanceAs (Decidable (if dim = 1 then _ else _))
  | [], _ => isTrue trivial
  | _ :: _, [] => isTrue trivial

section Steps

variable {dimensions : List Int32} {steps : List UInt64} {width : Nat}

end Steps

namespace Tensor

variable {attributes : PointerAttributes} {tensor next : Tensor}

end Tensor

end Gxf.Std
