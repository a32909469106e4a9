import Intake.Pattern.Escape

set_option autoImplicit false

/-!
# Classes in patterns

A class in brackets is a set of characters: single ones, ranges, escapes, named sets and further
classes, joined by operations between sets.

## Main definitions

* `ClassPart` — the set of a part of a class, and how deep its parts lie inside one another.
* `PatternReader.readClass` — a class, behind its opening bracket.

## Implementation notes

The readers take fuel, of which the length of the text always suffices: each call consumes a
character.
-/

namespace Intake

/-- The set of a part of a class. A pattern may not lie too deep inside itself, so the number of
classes, unions and operations inside one another is part of it. -/
structure ClassPart where
  set : CharSet
  depth : Nat

namespace ClassPart

/-- A part without parts of its own. -/
def ofSet (set : CharSet) : ClassPart := ⟨set, 0⟩

/-- The union of the items of a class. -/
def ofItems : List ClassPart → ClassPart
  | [] => .ofSet .empty
  | [p] => p
  | ps => ⟨.unions (ps.map (·.set)), (ps.map (·.depth)).foldl max 0 + 1⟩

end ClassPart

/-- The operations between the sets of a class. -/
inductive SetOperation where
  | intersection
  | difference
  | symmetricDifference

namespace SetOperation

/-- The set that an operation makes of two. -/
def apply : SetOperation → CharSet → CharSet → CharSet
  | .intersection => .inter
  | .difference => .diff
  | .symmetricDifference => .symmDiff

/-- The part that an operation makes of two, each taken with the other cases of its characters. -/
def join (f : PatternFlags) (op : SetOperation) (a b : ClassPart) : ClassPart :=
  ⟨op.apply (f.cased a.set) (f.cased b.set), max a.depth b.depth + 1⟩

end SetOperation

namespace PatternReader

/-- The part of the items read so far, as the right side of an operation that waits for one. -/
def closeItems (f : PatternFlags) (waiting : Option (SetOperation × ClassPart))
    (items : List ClassPart) : ClassPart :=
  match waiting with
  | none => .ofItems items
  | some (op, left) => op.join f left (.ofItems items)

/-- A named set of ASCII characters, behind its opening bracket, and whether it is denied. -/
def readAsciiClass : List Char → Option (Bool × CharSet × List Char)
  | ':' :: cs =>
    let negated := cs.head? == some '^'
    let cs := if negated then cs.drop 1 else cs
    let name := cs.takeWhile (· != ':')
    match cs.drop name.length with
    | ':' :: ']' :: rest =>
      (CharSet.ascii? (String.ofList name)).map fun set => (negated, set, rest)
    | _ => none
  | _ => none

/-- An item of a class: a character or an escape. -/
def readItem (f : PatternFlags) : List Char → Option (Escape × List Char)
  | [] => none
  | '\\' :: cs => readEscape f cs
  | c :: cs => some (.literal c.toNat, cs)

/-- The set of an item that is no end of a range. -/
def itemSet? (f : PatternFlags) : Escape → Option CharSet
  | .literal n => if !f.unicode && decide (128 ≤ n) then none else some (.ofPoints [n])
  | .class set => some set
  | .place _ => none

/-- The first character that counts behind a hyphen. A comment counts here from its first
character on. -/
def peekBehind (f : PatternFlags) (cs : List Char) : Option Char :=
  if f.verbose then
    match cs.dropWhile isBlank with
    | '#' :: comment => (comment.dropWhile isBlank).head?
    | cs => cs.head?
  else cs.head?

/-- An item or a range of a class. A hyphen before a closing bracket or another hyphen makes no
range. -/
def readRange (f : PatternFlags) (cs : List Char) : Option (CharSet × List Char) :=
  match readItem f cs with
  | none => none
  | some (low, rest) =>
    let alone := (itemSet? f low).map fun set => (set, f.skip rest)
    match f.skip rest with
    | [] => none
    | '-' :: behind =>
      if [some ']', some '-'].contains (peekBehind f behind) then alone
      else
        match low, readItem f (f.skip behind) with
        | .literal a, some (.literal b, rest) =>
          if b < a ∨ (¬f.unicode ∧ 128 ≤ b) then none else some (.range a b, rest)
        | _, _ => none
    | _ => alone

/-- Passes over hyphens and counts them. -/
def skipHyphens (f : PatternFlags) : Nat → Nat → List Char → Nat × List Char
  | 0, n, cs => (n, cs)
  | fuel + 1, n, cs =>
    match cs with
    | '-' :: rest => skipHyphens f fuel (n + 1) (f.skip rest)
    | cs => (n, cs)

/-- The items at the front of a class: hyphens, or else a closing bracket, stand for themselves. -/
def readFront (f : PatternFlags) (cs : List Char) : List ClassPart × List Char :=
  match cs with
  | ']' :: rest => ([.ofSet (.ofPoints [93])], rest)
  | cs =>
    let (hyphens, cs) := skipHyphens f cs.length 0 cs
    (List.replicate hyphens (.ofSet (.ofPoints [45])), cs)

mutual

/-- A class, behind its opening bracket. -/
def readClass : Nat → PatternFlags → List Char → Option (ClassPart × List Char)
  | 0, _, _ => none
  | fuel + 1, f, cs =>
    let cs := f.skip cs
    let negated := cs.head? == some '^'
    let (items, cs) := readFront f (if negated then f.skip (cs.drop 1) else cs)
    match readClassItems fuel f none items cs with
    | none => none
    | some (part, rest) =>
      (f.class? negated part.set).map fun set => (⟨set, part.depth + 1⟩, rest)

/-- The items of a class up to its closing bracket. -/
def readClassItems : Nat → PatternFlags → Option (SetOperation × ClassPart) → List ClassPart →
    List Char → Option (ClassPart × List Char)
  | 0, _, _, _, _ => none
  | fuel + 1, f, waiting, items, cs =>
    let push (part : ClassPart) (rest : List Char) :=
      readClassItems fuel f waiting (part :: items) rest
    let go (op : SetOperation) (rest : List Char) :=
      readClassItems fuel f (some (op, closeItems f waiting items)) [] rest
    match f.skip cs with
    | [] => none
    | ']' :: rest => some (closeItems f waiting items, rest)
    | '&' :: '&' :: rest => go .intersection rest
    | '-' :: '-' :: rest => go .difference rest
    | '~' :: '~' :: rest => go .symmetricDifference rest
    | '[' :: rest =>
      match readAsciiClass rest with
      | some (negated, set, rest) =>
        match f.class? negated set with
        | none => none
        | some set => push (.ofSet set) rest
      | none =>
        match readClass fuel f rest with
        | none => none
        | some (part, rest) => push part rest
    | cs =>
      match readRange f cs with
      | none => none
      | some (set, rest) => push (.ofSet set) rest

end

end PatternReader

end Intake
