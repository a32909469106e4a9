import Intake.Data.Codec
import Intake.Encoding.Base64
import Intake.Encoding.Hex

set_option autoImplicit false

/-!
# Encodings of bytes in text

## Main definitions

* `ByteEncoding`, `ByteEncoding.decode` — the encodings.
* `ByteEncoding.Error` — why a text writes no bytes in an encoding.
-/

namespace Intake

/-- How a text writes bytes. -/
inductive ByteEncoding where
  | base64
  | base64Url
  | hex
  deriving DecidableEq, Repr

namespace ByteEncoding

/-- The name of an encoding. -/
def name : ByteEncoding → String
  | .base64 => "base64"
  | .base64Url => "base64-url"
  | .hex => "hex"

/-- The encodings. -/
def all : List ByteEncoding := [.base64, .base64Url, .hex]

/-- Why a text writes no bytes. -/
inductive Error where
  | base64 (error : Base64.Error)
  | hex (error : Hex.Error)
  deriving DecidableEq, Repr

/-- The text of an error. -/
def Error.message : Error → String
  | .base64 error => error.message
  | .hex error => error.message

/-- The bytes that a text writes in an encoding. -/
def decode (encoding : ByteEncoding) (s : String) : Except Error (List UInt8) :=
  match encoding with
  | .base64 => (Base64.decodeText .standard s).mapError .base64
  | .base64Url => (Base64.decodeText .urlSafe s).mapError .base64
  | .hex => (Hex.decodeText s).mapError .hex

end ByteEncoding

instance : DataCodec ByteEncoding where
  dataType := .choice "ByteEncoding" (ByteEncoding.all.map fun e => .unit e.name)
  toDatum e := .unitVariant e.name
  ofDatum?
    | .unitVariant name => ByteEncoding.all.find? fun e => e.name = name
    | _ => none

end Intake
