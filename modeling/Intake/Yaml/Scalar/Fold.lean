import Intake.Yaml.Cursor

set_option autoImplicit false

/-!
# Folding the lines of a scalar

A scalar that is not a block may go on over several lines. The blanks around a line break do not
belong to it: one line break stands for a space, and of several the first one is dropped.

## Main definitions

* `Yaml.Gap` — what stands between two words of a scalar.
* `Yaml.Gap.fold` — the characters that a gap stands for.
* `Yaml.takeGap` — the gap at a place.
-/

namespace Intake

namespace Yaml

/-- What stands between two words of a scalar. -/
inductive Gap where
  /-- Spaces and tabs on one line. -/
  | blanks (cs : List Char)
  /-- Line breaks, the first one apart, which an escape may have taken away. -/
  | breaks (first more : List Char)
  deriving Repr

namespace Gap

/-- Whether a gap reaches over the end of a line. -/
def isBroken : Gap → Bool
  | .blanks _ => false
  | .breaks _ _ => true

/-- A gap with one more blank; blanks behind a line break are dropped. -/
def addBlank (c : Char) : Gap → Gap
  | .blanks cs => .blanks (cs ++ [c])
  | broken => broken

/-- A gap with one more line break; blanks before it are dropped. -/
def addBreak (c : Char) : Gap → Gap
  | .blanks _ => .breaks [c] []
  | .breaks first more => .breaks first (more ++ [c])

/-- The characters that a gap stands for. -/
def fold : Gap → List Char
  | .blanks cs => cs
  | .breaks ['\n'] [] => [' ']
  | .breaks ['\n'] more => more
  | .breaks first more => first ++ more

end Gap

/-- The gap at a place, continuing one, and the place behind it. Before a column, no line may be set
in by a tab. -/
def takeGap (least : Nat) : Gap → Mark → List Char → Option (Gap × Cursor)
  | gap, m, ' ' :: rest => takeGap least (gap.addBlank ' ') (m.along 1) rest
  | gap, m, '\t' :: rest =>
    if gap.isBroken && decide (m.column < least) then none
    else takeGap least (gap.addBlank '\t') (m.along 1) rest
  | gap, m, '\r' :: '\n' :: rest => takeGap least (gap.addBreak '\n') (m.nextLine 2) rest
  | gap, m, c :: rest =>
    if isBreak c then takeGap least (gap.addBreak (readBreak c)) (m.nextLine c.utf8Size) rest
    else some (gap, ⟨c :: rest, m⟩)
  | gap, m, [] => some (gap, ⟨[], m⟩)

end Yaml

end Intake
