import Intake.Yaml.Scalar.Fold

set_option autoImplicit false

/-!
# Plain scalars

A plain scalar has no quotes. It ends before a colon that a blank follows, before a comment, before
a line that is not set in deep enough, and in flow style before the marks of collections.

## Main definitions

* `Yaml.mayBeginPlain` — whether a plain scalar begins at a place.
* `Yaml.takePlain` — the text of a plain scalar.
-/

namespace Intake

namespace Yaml

/-- Whether a character separates or encloses the items of collections in flow style. -/
def isFlowMark (c : Char) : Bool :=
  c == ',' || c == '[' || c == ']' || c == '\x7b' || c == '\x7d'

/-- Whether a plain scalar begins with a character that another one follows. -/
def mayBeginPlain (flow : Bool) (c : Char) (next : Option Char) : Bool :=
  if c == '-' then !(next.map isGap).getD false
  else if c == '?' || c == ':' then !flow && !endsWord next
  else
    !(endsWord (some c) || isFlowMark c
      || ['#', '&', '*', '!', '|', '>', '\'', '"', '%', '@', '\x60'].contains c)

/-- The word of a plain scalar at a place. In flow style no word may hold a colon directly before a
mark of a collection. -/
def takePlainWord (flow : Bool) : List Char → Option (List Char)
  | [] => some []
  | c :: rest =>
    let next := rest.head?
    if endsWord (some c) || (flow && isFlowMark c) then some []
    else if c = ':' then
      if flow && (next.map fun d => isFlowMark d || d == '?').getD false then none
      else if endsWord next then some []
      else (takePlainWord flow rest).map (c :: ·)
    else (takePlainWord flow rest).map (c :: ·)

/-- The text of a plain scalar, the place behind it and the gap there, and whether that gap reaches
over the end of a line. -/
structure PlainScalar where
  text : List Char
  behind : Cursor
  endsLine : Bool

/-- The words of a plain scalar from a place on, behind a gap. Lines behind the first one are set in
up to a column at least. -/
def takePlainWords (flow : Bool) (least : Nat) : Nat → Gap → Cursor → Option PlainScalar
  | 0, _, _ => none
  | fuel + 1, gap, c =>
    let stop : PlainScalar := ⟨[], c, gap.isBroken⟩
    if c.seesDocumentMark || c.sees '#' then some stop
    else
      match takePlainWord flow c.rest with
      | none => none
      | some [] => some stop
      | some word =>
        let c := c.skip word.length
        match takeGap least (.blanks []) c.mark c.rest with
        | none => none
        | some (next, behind) =>
          let tail? :=
            if !flow && next.isBroken && decide (behind.column < least) then
              some ⟨[], behind, true⟩
            else takePlainWords flow least fuel next behind
          tail?.map fun tail => { tail with text := gap.fold ++ word ++ tail.text }

/-- The text of a plain scalar at a place. Every round takes a word, so the length of the text is
fuel enough. -/
def takePlain (flow : Bool) (least : Nat) (c : Cursor) : Option PlainScalar :=
  takePlainWords flow least (c.rest.length + 1) (.blanks []) c

end Yaml

end Intake
