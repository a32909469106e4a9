import Intake.Pattern.Basic
import Intake.Pattern.Reader
import Intake.Pattern.Search

set_option autoImplicit false

/-!
# The standard engine

The engine that the program runs with. It reads a text as a tree and searches with the tree. Of the
words for a text that is no pattern it has only the first few.

## Main definitions

* `standardEngine` — the engine.
-/

namespace Intake

/-- The engine that the program runs with. -/
instance standardEngine : PatternEngine where
  compile text :=
    match PatternTree.read? text with
    | some t => .ok t.occursIn
    | none => .error "regex parse error"

end Intake
