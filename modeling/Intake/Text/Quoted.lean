import Intake.Unicode.Category
import Intake.Unicode.Property

set_option autoImplicit false

/-!
# Quoted texts in messages

A message shows a text in double quotes and a single character in single ones, with escapes for
what would not be seen: the quote itself, backslashes, control characters, marks that combine with
the character before them, and all characters without a picture of their own.

## Main definitions

* `quoteText` — a text in quotes.
* `quoteOne` — a character in quotes.
-/

namespace Intake

open CharProperty

/-- Whether a character combines with the one before it. -/
def isExtending (c : Char) : Bool :=
  ["Mn", "Me"].contains (charCategory c) || otherGraphemeExtend.has c.toNat

/-- The general categories of characters without a picture of their own. -/
def unseenCategories : List String := ["Cc", "Cf", "Cs", "Co", "Cn", "Zl", "Zp", "Zs"]

/-- Whether a character has a picture of its own. -/
def isPrintable (c : Char) : Bool :=
  c == ' ' ||
    (!unseenCategories.contains (charCategory c) && !otherDefaultIgnorable.has c.toNat)

/-- A natural in hexadecimal without leading zeros. -/
def hexChars (n : Nat) : List Char := Nat.toDigits 16 n

/-- A character between quotes of a kind. -/
def quoteChar (mark c : Char) : List Char :=
  if c = mark then ['\\', c]
  else if c = '\\' then ['\\', '\\']
  else if c = '\n' then ['\\', 'n']
  else if c = '\r' then ['\\', 'r']
  else if c = '\t' then ['\\', 't']
  else if c.toNat = 0 then ['\\', '0']
  else if c.toNat < 127 && decide (32 ≤ c.toNat) then [c]
  else if isExtending c || !isPrintable c then
    '\\' :: 'u' :: '\x7b' :: (hexChars c.toNat ++ ['\x7d'])
  else [c]

/-- A text in double quotes, with escapes. -/
def quoteText (s : String) : String :=
  String.ofList ('"' :: (s.toList.flatMap (quoteChar '"') ++ ['"']))

/-- A character in single quotes, with escapes. -/
def quoteOne (c : Char) : String := String.ofList ('\'' :: (quoteChar '\'' c ++ ['\'']))

end Intake
