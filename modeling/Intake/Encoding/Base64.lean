import Intake.Json.Printer

set_option autoImplicit false

/-!
# Bytes in base 64

Four symbols of six bits write three bytes. The last group of a text is filled up to four symbols
with padding, and the bits of its last symbol that belong to no byte are zero.

## Main definitions

* `Base64.Alphabet` — the standard alphabet and the one for addresses and file names.
* `Base64.decode` — the bytes that a text writes.
* `Base64.Error` — why a text writes none.
-/

namespace Intake

namespace Base64

/-- The two alphabets, which differ in their last two symbols. -/
inductive Alphabet where
  | standard
  | urlSafe
  deriving DecidableEq, Repr

/-- Why a text writes no bytes. Offsets count bytes of the text. -/
inductive Error where
  /-- A byte that is no symbol, or padding where none may stand. -/
  | invalidSymbol (symbol : UInt8) (offset : Nat)
  /-- A last group of a single symbol. -/
  | invalidLength (length : Nat)
  /-- A last symbol with bits that belong to no byte. -/
  | invalidLastSymbol (symbol : UInt8) (offset : Nat)
  /-- A last group that is not filled up. -/
  | invalidPadding
  deriving DecidableEq, Repr

/-- The text of an error. -/
def Error.message : Error → String
  | .invalidSymbol symbol offset =>
    "Invalid symbol " ++ String.ofList (natChars symbol.toNat) ++ ", offset "
      ++ String.ofList (natChars offset) ++ "."
  | .invalidLength length => "Invalid input length: " ++ String.ofList (natChars length)
  | .invalidLastSymbol symbol offset =>
    "Invalid last symbol " ++ String.ofList (natChars symbol.toNat) ++ ", offset "
      ++ String.ofList (natChars offset) ++ "."
  | .invalidPadding => "Invalid padding"

/-- The padding symbol, `=`. -/
def padding : UInt8 := 61

/-- The six bits of a symbol. -/
def Alphabet.sextet? (alphabet : Alphabet) (symbol : UInt8) : Option Nat :=
  let n := symbol.toNat
  if 65 ≤ n ∧ n ≤ 90 then some (n - 65)
  else if 97 ≤ n ∧ n ≤ 122 then some (n - 97 + 26)
  else if 48 ≤ n ∧ n ≤ 57 then some (n - 48 + 52)
  else
    match alphabet with
    | .standard => if n = 43 then some 62 else if n = 47 then some 63 else none
    | .urlSafe => if n = 45 then some 62 else if n = 95 then some 63 else none

/-- The sextets of symbols without padding, given the offset of the first one. -/
def sextets (alphabet : Alphabet) : Nat → List UInt8 → Except Error (List Nat)
  | _, [] => .ok []
  | offset, symbol :: rest =>
    match alphabet.sextet? symbol with
    | none => .error (.invalidSymbol symbol offset)
    | some s => (sextets alphabet (offset + 1) rest).map (s :: ·)

/-- The bytes of groups of sextets; a last group of two or three sextets writes one byte less than
it has sextets. -/
def pack : List Nat → List UInt8
  | a :: b :: c :: d :: rest =>
    let n := ((a * 64 + b) * 64 + c) * 64 + d
    UInt8.ofNat (n / 65536) :: UInt8.ofNat (n / 256) :: UInt8.ofNat n :: pack rest
  | [a, b, c] =>
    let n := ((a * 64 + b) * 64 + c) / 4
    [UInt8.ofNat (n / 256), UInt8.ofNat n]
  | [a, b] => [UInt8.ofNat ((a * 64 + b) / 16)]
  | _ => []

/-- The sextets of the last group and the length of its padding, given the offset of the group and
the place in it. Padding comes behind at least two symbols, and only padding follows it. -/
def lastGroup (alphabet : Alphabet) (offset : Nat) :
    Nat → List UInt8 → Except Error (List Nat × Nat)
  | _, [] => .ok ([], 0)
  | place, symbol :: rest =>
    if symbol = padding then
      if place < 2 ∨ rest.any (· != padding) then .error (.invalidSymbol symbol (offset + place))
      else .ok ([], rest.length + 1)
    else
      match alphabet.sextet? symbol with
      | none => .error (.invalidSymbol symbol (offset + place))
      | some s => (lastGroup alphabet offset (place + 1) rest).map fun p => (s :: p.1, p.2)

/-- Whether the last of some sextets has bits that belong to no byte. -/
def hasLooseBits : List Nat → Bool
  | [_, b] => b % 16 != 0
  | [_, _, c] => c % 4 != 0
  | _ => false

/-- The bytes of the last group. -/
def decodeLast (alphabet : Alphabet) (offset : Nat) (group : List UInt8) :
    Except Error (List UInt8) :=
  match lastGroup alphabet offset 0 group with
  | .error e => .error e
  | .ok (found, padded) =>
    if found.length < 2 ∧ offset + group.length ≠ 0 then
      .error (.invalidLength (offset + found.length))
    else if (found.length + padded) % 4 ≠ 0 then .error .invalidPadding
    else if hasLooseBits found then
      .error (.invalidLastSymbol (group.getD (found.length - 1) 0) (offset + found.length - 1))
    else .ok (pack found)

/-- The bytes that symbols write. A byte behind full groups that is no symbol is reported before all
other errors, since it is often the end of a line. -/
def decode (alphabet : Alphabet) (symbols : List UInt8) : Except Error (List UInt8) :=
  let count := symbols.length
  let offset := if count % 4 = 0 then count - 4 else count - count % 4
  let last := symbols.getLastD 0
  if count % 4 = 1 ∧ last ≠ padding ∧ alphabet.sextet? last = none then
    .error (.invalidSymbol last (count - 1))
  else
    match sextets alphabet 0 (symbols.take offset) with
    | .error e => .error e
    | .ok full => (decodeLast alphabet offset (symbols.drop offset)).map (pack full ++ ·)

/-- The bytes that a text writes. -/
def decodeText (alphabet : Alphabet) (s : String) : Except Error (List UInt8) :=
  decode alphabet s.toUTF8.data.toList

end Base64

end Intake
