set_option autoImplicit false

/-!
# Blank characters

## Main definitions

* `isBlank` — the Unicode property of white space.
* `trimBlanks` — a text without the blanks at its ends.
-/

namespace Intake

/-- White space, as intervals of code points. -/
def blankSpans : List (Nat × Nat) := [
  (9, 13), (0x20, 0x20), (0x85, 0x85), (0xA0, 0xA0), (0x1680, 0x1680), (0x2000, 0x200A),
  (0x2028, 0x2029), (0x202F, 0x202F), (0x205F, 0x205F), (0x3000, 0x3000)]

/-- Whether a character is white space. -/
def isBlank (c : Char) : Bool :=
  blankSpans.any fun s => decide (s.1 ≤ c.toNat) && decide (c.toNat ≤ s.2)

/-- A text without the blanks at its ends. -/
def trimBlanks (cs : List Char) : List Char :=
  ((cs.dropWhile isBlank).reverse.dropWhile isBlank).reverse

end Intake
