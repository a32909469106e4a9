import Intake.Json.Reader
import Intake.Json.Printer
import Intake.Text.Quoted

set_option autoImplicit false

/-!
# Hexadecimal bytes

Every byte is two digits in either case, the high one first.

## Main definitions

* `Hex.decode` — the bytes that digits write.
* `Hex.Error` — why a text writes none.
-/

namespace Intake

namespace Hex

/-- Why a text writes no bytes. -/
inductive Error where
  /-- The number of digits is odd. -/
  | oddLength
  /-- A byte of the text, at a position counted in bytes, is no digit. -/
  | invalidDigit (byte : UInt8) (position : Nat)
  deriving DecidableEq, Repr

/-- The text of an error; a byte is shown as the character of that number. -/
def Error.message : Error → String
  | .oddLength => "Odd number of digits"
  | .invalidDigit byte position =>
    "Invalid character " ++ quoteOne (Char.ofNat byte.toNat) ++ " at position "
      ++ String.ofList (natChars position)

/-- The value of a digit. -/
def digit? (byte : UInt8) : Option Nat := Json.hexValue? (Char.ofNat byte.toNat)

/-- The bytes of pairs of digits, given the position of the first digit. -/
def decodePairs : Nat → List UInt8 → Except Error (List UInt8)
  | position, high :: low :: rest =>
    match digit? high with
    | none => .error (.invalidDigit high position)
    | some h =>
      match digit? low with
      | none => .error (.invalidDigit low (position + 1))
      | some l => (decodePairs (position + 2) rest).map (UInt8.ofNat (16 * h + l) :: ·)
  | _, _ => .ok []

/-- The bytes that digits write. An odd length is noticed before any digit is looked at. -/
def decode (digits : List UInt8) : Except Error (List UInt8) :=
  if digits.length % 2 = 1 then .error .oddLength else decodePairs 0 digits

/-- The bytes that a text writes. -/
def decodeText (s : String) : Except Error (List UInt8) := decode s.toUTF8.data.toList

end Hex

end Intake
