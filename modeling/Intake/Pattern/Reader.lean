import Intake.Pattern.Class
import Intake.Pattern.Size
import Intake.Text.LetterCase

set_option autoImplicit false

/-!
# Reading patterns

A pattern is a regular expression: literal characters, classes, escapes, places, groups, choices
and repetitions. Flags in parentheses change how the rest of a group is read. There are no
references to groups and no conditions on the surroundings of a match beyond places.

## Main definitions

* `PatternTree.read?` — a text as a pattern.

## Implementation notes

The reader of groups takes fuel, of which the length of the text always suffices: each call consumes
a character.
-/

namespace Intake

namespace PatternReader

/-! ### Repetitions -/

/-- Decimal digits, with what does not count behind each. -/
def readDigits (f : PatternFlags) : Nat → List Char → List Char × List Char
  | 0, cs => ([], cs)
  | fuel + 1, cs =>
    match cs with
    | c :: rest =>
      if c.isDigit then
        let (digits, rest) := readDigits f fuel (f.skip rest)
        (c :: digits, rest)
      else ([], c :: rest)
    | [] => ([], [])

/-- A count, blanks around it. -/
def readCount (f : PatternFlags) (cs : List Char) : Option Nat × List Char :=
  let (digits, rest) := readDigits f cs.length (cs.dropWhile isBlank)
  let n := natOfDigits digits
  (if digits.isEmpty ∨ Nat.pow 2 32 ≤ n then none else some n, f.skip (rest.dropWhile isBlank))

/-- The bounds of a counted repetition, behind the opening brace. -/
def readBounds (f : PatternFlags) (cs : List Char) : Option ((Nat × Option Nat) × List Char) :=
  match readCount f (f.skip cs) with
  | (none, _) => none
  | (some least, rest) =>
    match rest with
    | '\x7d' :: rest => some ((least, some least), rest)
    | ',' :: rest =>
      match f.skip rest with
      | '\x7d' :: rest => some ((least, none), rest)
      | rest =>
        match readCount f rest with
        | (some most, '\x7d' :: rest) =>
          if most < least then none else some ((least, some most), rest)
        | _ => none
    | _ => none

/-- Passes over the sign of a repetition that prefers few turns. -/
def skipLazy : List Char → List Char
  | '?' :: cs => cs
  | cs => cs

/-! ### Groups -/

/-- How a group opens. -/
inductive Opening where
  /-- No group, but flags for the rest of the one around. -/
  | flags (f : PatternFlags)
  | group (f : PatternFlags) (captures : Bool) (name : Option String)

/-- Flags up to a colon or a closing parenthesis, which is left: the flags, whether they are turned
off from here on, and the letters met. -/
def readFlags : PatternFlags → Bool → List Char → List Char → Option (PatternFlags × List Char)
  | f, off, met, c :: cs =>
    if c = ':' ∨ c = ')' then if met.head? == some '-' then none else some (f, c :: cs)
    else if met.contains c then none
    else if c = '-' then readFlags f true (c :: met) cs
    else
      match f.set? (!off) c with
      | none => none
      | some f => readFlags f off (c :: met) cs
  | _, _, _, [] => none

/-- Whether a character may stand in the name of a group. -/
def isNameChar (first : Bool) (c : Char) : Bool :=
  c == '_' || isAlphabetic c || (!first && (['.', '[', ']'].contains c || isNumeric c))

/-- The name of a group up to its closing angle bracket. -/
def readName (cs : List Char) : Option (String × List Char) :=
  let name := cs.takeWhile (· != '>')
  match name, cs.drop name.length with
  | c :: more, '>' :: rest =>
    if isNameChar true c && more.all (isNameChar false) then some (String.ofList name, rest)
    else none
  | _, _ => none

/-- What opens behind an opening parenthesis. -/
def readOpening (f : PatternFlags) (cs : List Char) : Option (Opening × List Char) :=
  let named (cs : List Char) := (readName cs).map fun p => (Opening.group f true (some p.1), p.2)
  match f.skip cs with
  | '?' :: '=' :: _ => none
  | '?' :: '!' :: _ => none
  | '?' :: '<' :: '=' :: _ => none
  | '?' :: '<' :: '!' :: _ => none
  | '?' :: 'P' :: '<' :: rest => named rest
  | '?' :: '<' :: rest => named rest
  | '?' :: rest =>
    match readFlags f false [] rest with
    | some (inner, ':' :: rest) => some (.group inner false none, rest)
    | some (inner, ')' :: behind) =>
      if rest.head? == some ')' then none else some (.flags inner, behind)
    | _ => none
  | rest => some (.group f true none, rest)

/-- The pattern of the items of a branch, in reverse; flags match the empty text. -/
def closeBranch (items : List (Option PatternTree)) : PatternTree :=
  match items.reverse.map fun t => t.getD .empty with
  | [] => .empty
  | [t] => t
  | ts => .sequence ts

/-- The pattern of the branches of a group, in reverse. -/
def closeGroup (branches : List PatternTree) : PatternTree :=
  match branches.reverse with
  | [t] => t
  | ts => .choice ts

/-- The pattern of an escape. -/
def escapeTree? (f : PatternFlags) : Escape → Option PatternTree
  | .literal n => some (f.literal n)
  | .class set => some (.one set 0)
  | .place p => some (.place p)

/-- A group up to its closing parenthesis, which is left, or to the end of the text; the branches
and the items of the last branch read so far are given in reverse. The names of groups met so far
are handed on, since no two groups may share one. -/
def readGroup : Nat → PatternFlags → List String → List PatternTree → List (Option PatternTree) →
    List Char → Option (PatternTree × List String × List Char)
  | 0, _, _, _, _, _ => none
  | fuel + 1, f, names, branches, items, cs =>
    let push (t : PatternTree) (rest : List Char) :=
      readGroup fuel f names branches (some t :: items) rest
    let repeated (least : Nat) (most : Option Nat) (rest : List Char) :=
      match items with
      | some t :: items =>
        readGroup fuel f names branches (some (.turns least most t) :: items) (skipLazy rest)
      | _ => none
    match f.skip cs with
    | [] => some (closeGroup (closeBranch items :: branches), names, [])
    | ')' :: rest => some (closeGroup (closeBranch items :: branches), names, ')' :: rest)
    | '|' :: rest => readGroup fuel f names (closeBranch items :: branches) [] rest
    | '*' :: rest => repeated 0 none rest
    | '+' :: rest => repeated 1 none rest
    | '?' :: rest => repeated 0 (some 1) rest
    | '\x7b' :: rest =>
      match readBounds f rest with
      | none => none
      | some ((least, most), rest) => repeated least most (f.skip rest)
    | '[' :: rest =>
      match readClass (rest.length + 1) f rest with
      | none => none
      | some (part, rest) => push (.one part.set part.depth) rest
    | '.' :: rest =>
      match f.dot? with
      | none => none
      | some t => push t rest
    | '^' :: rest => push (.place f.startSign) rest
    | '$' :: rest => push (.place f.endSign) rest
    | '\\' :: rest =>
      match readEscape f rest with
      | none => none
      | some (escape, rest) =>
        match escapeTree? f escape with
        | none => none
        | some t => push t rest
    | '(' :: rest =>
      match readOpening f rest with
      | none => none
      | some (.flags f, rest) => readGroup fuel f names branches (none :: items) rest
      | some (.group inner captures name, rest) =>
        if (name.map names.contains).getD false then none
        else
          match readGroup fuel inner (name.toList ++ names) [] [] rest with
          | some (t, names, ')' :: rest) =>
            readGroup fuel f names branches (some (.group captures t) :: items) rest
          | _ => none
    | c :: rest => push (f.literal c.toNat) rest

end PatternReader

/-- A text as a pattern, within the limits on patterns. -/
def PatternTree.read? (text : String) : Option PatternTree :=
  let cs := text.toList
  match PatternReader.readGroup (cs.length + 1) .default [] [] [] cs with
  | some (t, _, []) =>
    if t.nesting ≤ maxNesting ∧ t.size ≤ maxSize then some t else none
  | _ => none

end Intake
