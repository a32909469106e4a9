import Intake.Pattern.Tree
import Intake.Text.Blank
import Intake.Unicode.CaseMap

set_option autoImplicit false

/-!
# Flags of patterns

## Main definitions

* `PatternFlags` — how the rest of a group is read.
* `PatternFlags.skip` — passes over what does not count.
* `PatternFlags.class?` — the set that a class means under the flags.
-/

namespace Intake

/-- How the rest of a group is read. -/
structure PatternFlags where
  /-- Letters stand for both cases. -/
  ignoreCase : Bool
  /-- Line starts and ends are meant instead of those of the text. -/
  multiLine : Bool
  /-- The point stands for line feeds too. -/
  dotAll : Bool
  /-- Lines may also end in carriage returns. -/
  anyEnding : Bool
  /-- Blanks and comments do not count. -/
  verbose : Bool
  /-- Classes and cases are those of Unicode. -/
  unicode : Bool

namespace PatternFlags

/-- The flags in the beginning. -/
def default : PatternFlags := ⟨false, false, false, false, false, true⟩

/-- Passes over blanks and comments; inside a comment if so told. -/
def skipBlanks : Bool → List Char → List Char
  | true, c :: cs => skipBlanks (c != '\n') cs
  | false, c :: cs =>
    if isBlank c then skipBlanks false cs
    else if c = '#' then skipBlanks true cs
    else c :: cs
  | _, [] => []

/-- Passes over what does not count. -/
def skip (f : PatternFlags) (cs : List Char) : List Char :=
  if f.verbose then skipBlanks false cs else cs

/-- A set with the other cases of its characters, if cases are ignored. -/
def cased (f : PatternFlags) (set : CharSet) : CharSet :=
  if f.ignoreCase then set.anyCase f.unicode else set

/-- The set of a class, or of a class that is denied. Outside Unicode a class matches single bytes,
and a denied one would match bytes that are no characters. -/
def denied? (f : PatternFlags) (negated : Bool) (set : CharSet) : Option CharSet :=
  if !negated then some set else if f.unicode then some set.complement else none

/-- The set of a class with the other cases of its characters, if cases are ignored, and denied only
after that. -/
def class? (f : PatternFlags) (negated : Bool) (set : CharSet) : Option CharSet :=
  f.denied? negated (f.cased set)

/-- The pattern of a literal character. -/
def literal (f : PatternFlags) (point : Nat) : PatternTree :=
  .one (f.cased (.ofPoints [point])) 0

/-- The pattern of the point. -/
def dot? (f : PatternFlags) : Option PatternTree :=
  if !f.unicode then none
  else if f.dotAll then some (.one .all 0)
  else if f.anyEnding then some (.one (.complement (.ofPoints [10, 13])) 0)
  else some (.one (.complement (.ofPoints [10])) 0)

/-- The place that the start sign means. -/
def startSign (f : PatternFlags) : Place :=
  if !f.multiLine then .textStart else if f.anyEnding then .lineStartAnyEnding else .lineStart

/-- The place that the end sign means. -/
def endSign (f : PatternFlags) : Place :=
  if !f.multiLine then .textEnd else if f.anyEnding then .lineEndAnyEnding else .lineEnd

/-- The flags with one of them on or off. -/
def set? (f : PatternFlags) (on : Bool) : Char → Option PatternFlags
  | 'i' => some { f with ignoreCase := on }
  | 'm' => some { f with multiLine := on }
  | 's' => some { f with dotAll := on }
  | 'R' => some { f with anyEnding := on }
  | 'x' => some { f with verbose := on }
  | 'u' => some { f with unicode := on }
  | 'U' => some f
  | _ => none

end PatternFlags

end Intake
