import Intake.Unicode.CaseMap
import Intake.Unicode.Category
import Intake.Unicode.Property

set_option autoImplicit false

/-!
# Letter case

## Main definitions

* `isUpper`, `isLower` — whether a character has the Unicode property of a case.
* `isAlphabetic`, `isNumeric` — whether a character is a letter, or writes a number.
* `lowerChar` — the lower-case form of a character, which for one character takes two.
* `lowerText` — a text in lower case. A capital sigma that ends a word becomes a final sigma.
-/

namespace Intake

open CharProperty

/-- Whether a character is upper case. Among ASCII characters these are the letters `A` to `Z`. -/
def isUpper (c : Char) : Bool :=
  if c.toNat < 128 then c.isUpper
  else charCategory c == "Lu" || otherUppercase.has c.toNat

/-- Whether a character is lower case. Among ASCII characters these are the letters `a` to `z`. -/
def isLower (c : Char) : Bool :=
  if c.toNat < 128 then c.isLower
  else charCategory c == "Ll" || otherLowercase.has c.toNat

/-- Whether a character is alphabetic. -/
def isAlphabetic (c : Char) : Bool :=
  ["Lu", "Ll", "Lt", "Lm", "Lo", "Nl"].contains (charCategory c) || otherAlphabetic.has c.toNat

/-- Whether a character writes a number. -/
def isNumeric (c : Char) : Bool := ["Nd", "Nl", "No"].contains (charCategory c)

/-- The lower-case form of a character. The capital i with a dot keeps its dot as a mark. -/
def lowerChar (c : Char) : List Char :=
  if c.toNat < 128 then [c.toLower]
  else if c.toNat = 0x130 then ['i', Char.ofNat 0x307]
  else [Char.ofNat (lowerPoint c.toNat)]

/-- Whether a character has a case. -/
def isCased (c : Char) : Bool := isUpper c || isLower c || charCategory c == "Lt"

/-- Whether a character is skipped when the case of its surroundings is asked for: marks,
modifiers, format characters and the punctuation that stands inside words. -/
def isCaseIgnorable (c : Char) : Bool :=
  ["Mn", "Me", "Cf", "Lm", "Sk"].contains (charCategory c) || midWord.has c.toNat

/-- Whether the next character with a say about case has a case. -/
def casedNext (cs : List Char) : Bool :=
  match cs.dropWhile isCaseIgnorable with
  | c :: _ => isCased c
  | [] => false

/-- The lower-case form of a text, given the characters before it in reverse. -/
def lowerChars : List Char → List Char → List Char
  | _, [] => []
  | before, c :: after =>
    if c.toNat = 0x3A3 then
      (if casedNext before && !casedNext after then Char.ofNat 0x3C2 else Char.ofNat 0x3C3)
        :: lowerChars (c :: before) after
    else lowerChar c ++ lowerChars (c :: before) after

/-- A text in lower case. -/
def lowerText (s : String) : String := String.ofList (lowerChars [] s.toList)

end Intake
