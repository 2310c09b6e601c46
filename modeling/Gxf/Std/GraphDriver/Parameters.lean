import Gxf.Core.Result
import Mathlib.Algebra.GroupWithZero.Nat
import Mathlib.Algebra.Ring.Int.Defs
import Mathlib.Data.List.Basic

/-!
# Texts of the workers

Texts are lists of characters.  Numbers in them are read as the standard library documents it, and
an address is a host with a port.
-/

namespace Gxf.Std.ComponentParams

open Gxf.Core

abbrev Text := List Char

/-- `std::isspace(c)`. -/
def isSpace (c : Char) : Bool := c == ' ' || (9 ≤ c.toNat && c.toNat ≤ 13)

/-- The sign of a number and what follows it. -/
def splitSign : Text → Bool × Text
  | '-' :: rest => (true, rest)
  | '+' :: rest => (false, rest)
  | rest => (false, rest)

/-- What `std::strtol` reads: the sign and the digits behind spaces.  What follows the digits is
ignored. -/
def scanInteger (text : Text) : Option (Bool × Nat) :=
  let (negative, rest) := splitSign (text.dropWhile isSpace)
  let digits := rest.takeWhile Char.isDigit
  if digits = [] then none else some (negative, Nat.ofDigitChars 10 digits 0)

def signed (negative : Bool) (magnitude : Nat) : Int :=
  if negative then -(magnitude : Int) else magnitude

/-- `std::stoi`, which throws without a number and outside of 32 bits. -/
def stoi (text : Text) : Option Int :=
  match scanInteger text with
  | none => none
  | some (negative, magnitude) =>
      let value := signed negative magnitude
      if -(2 ^ 31 : Int) ≤ value ∧ value < 2 ^ 31 then some value else none

/-- `parseIpAddress(ip_address_port, ip_address, port)`, for an empty address and the port -1.
`std::stoi` may throw. -/
def parseIpAddress (ipAddressPort : Text) : Option (Text × Int) :=
  if ipAddressPort = [] then some ([], -1)
  else
    let behind :=
      if ':' ∈ ipAddressPort then (ipAddressPort.dropWhile (· ≠ ':')).tail else ipAddressPort
    (stoi behind).map fun port => (ipAddressPort.takeWhile (· ≠ ':'), port)

end Gxf.Std.ComponentParams
