import Intake.Rule.Text

set_option autoImplicit false

/-!
# The rules for binary data

## Main definitions

* `BytesRule` — bytes, or text that writes bytes in an encoding.
* `HexRule` — text in hexadecimal.
* `UuidRule` — text that writes sixteen bytes in hexadecimal.
-/

namespace Intake

/-- Bytes, or text that writes bytes in an encoding; only the length of the latter is bounded. -/
structure BytesRule where
  encoding : ByteEncoding
  minLength : Option UInt64
  maxLength : Option UInt64

namespace BytesRule

/-- The rule for base 64 without bounds. -/
def plain : BytesRule := ⟨.base64, none, none⟩

instance : Record BytesRule where
  dataType := .record "IsBytes"
    [.of "encoding" plain.encoding, .of "min_length" plain.minLength,
      .of "max_length" plain.maxLength]
  toDatum r := .record
    [fieldDatum "encoding" r.encoding, fieldDatum "min_length" r.minLength,
      fieldDatum "max_length" r.maxLength]
  ofDatum? := ofRecord? <| nextField? fun encoding => nextField? fun minLength =>
    nextField? fun maxLength => endOfRecord? ⟨encoding, minLength, maxLength⟩
  shape := ⟨"IsBytes",
    [.new "encoding" .string, (FieldShape.new "min_length" .int).readFrom "minLength",
      (FieldShape.new "max_length" .int).readFrom "maxLength"]⟩

/-- Takes bytes as they are and decodes text. -/
def check (r : BytesRule) : Value → Except Rejection Value
  | .bytes data => .ok (.bytes data)
  | .string s =>
    match r.encoding.decode s with
    | .error e => .error (.undecodable r.encoding e)
    | .ok data =>
      (checkLength data.length r.minLength r.maxLength .bytes).map fun _ => .bytes data
  | _ => .error .notString

end BytesRule

/-- The text with another text in the place of each of its characters that is the given one. -/
def replaceChar (s : String) (old : Char) (new : String) : String :=
  String.ofList (s.toList.flatMap fun c => if c = old then new.toList else [c])

/-- Text in hexadecimal. Hyphens are taken out, unless the rule is strict. -/
structure HexRule where
  /-- Whether the result is bytes instead of text. -/
  convertToBinary : Bool
  strict : Bool
  minLength : Option UInt64
  maxLength : Option UInt64

namespace HexRule

/-- The rule that keeps text and has no bounds. -/
def plain : HexRule := ⟨false, false, none, none⟩

instance : Record HexRule where
  dataType := .record "IsHex"
    [.of "convert_to_binary" plain.convertToBinary, .of "strict" plain.strict,
      .of "min_length" plain.minLength, .of "max_length" plain.maxLength]
  toDatum r := .record
    [fieldDatum "convert_to_binary" r.convertToBinary, fieldDatum "strict" r.strict,
      fieldDatum "min_length" r.minLength, fieldDatum "max_length" r.maxLength]
  ofDatum? := ofRecord? <| nextField? fun convertToBinary => nextField? fun strict =>
    nextField? fun minLength => nextField? fun maxLength =>
    endOfRecord? ⟨convertToBinary, strict, minLength, maxLength⟩
  shape := ⟨"IsHex",
    [(FieldShape.new "convert_to_binary" .bool).readFrom "convertToBinary", .new "strict" .bool,
      (FieldShape.new "min_length" .int).readFrom "minLength",
      (FieldShape.new "max_length" .int).readFrom "maxLength"]⟩

/-- The text that the digits are read from. -/
def digits (r : HexRule) (s : String) : String := if r.strict then s else replaceChar s '-' ""

/-- Takes digits of bytes within the bounds, as text or as the bytes. -/
def check (r : HexRule) : Value → Except Rejection Value
  | .string s =>
    match Hex.decodeText (r.digits s) with
    | .error _ => .error .notHex
    | .ok data =>
      (checkLength data.length r.minLength r.maxLength .bytes).map fun _ =>
        if r.convertToBinary then .bytes data else .string (r.digits s)
  | _ => .error .notHex

end HexRule

/-- Text of 32 hexadecimal digits, with hyphens anywhere between them. -/
structure UuidRule where
  /-- Whether the result is bytes instead of the text. -/
  convertToBinary : Bool

namespace UuidRule

/-- The rule that keeps text. -/
def plain : UuidRule := ⟨false⟩

instance : Record UuidRule where
  dataType := .record "IsUuid" [.of "convert_to_binary" plain.convertToBinary]
  toDatum r := .record [fieldDatum "convert_to_binary" r.convertToBinary]
  ofDatum? := ofRecord? <| nextField? fun convertToBinary => endOfRecord? ⟨convertToBinary⟩
  shape := ⟨"IsUUID", [(FieldShape.new "convert_to_binary" .bool).readFrom "convertToBinary"]⟩

/-- The text that the digits are read from. -/
def digits (s : String) : String := String.ofList (s.toList.filter (· != '-'))

/-- Takes the digits of sixteen bytes, as the text they stand in or as the bytes. -/
def check (r : UuidRule) : Value → Except Rejection Value
  | .string s =>
    match Hex.decodeText (digits s) with
    | .error _ => .error .notUuid
    | .ok data =>
      if data.length = 16 then .ok (if r.convertToBinary then .bytes data else .string s)
      else .error .notUuid
  | _ => .error .notUuid

end UuidRule

end Intake
