set_option autoImplicit false

/-!
# Patterns

Which texts are patterns, and where these match, is for an engine to say: it compiles a text, or
tells in words why it does not. Nothing that is built on patterns looks inside the engine.

## Main definitions

* `PatternEngine` — what compiles texts.
* `Pattern`, `Pattern.ofText` — a compiled text, and how to get one.
* `Pattern.Compiled` — whether a pattern is what its text compiles to.
* `PatternEngine.Lawful` — what engines promise about the two patterns that match everything.
-/

namespace Intake

/-- What compiles texts. From a text it makes a test of whether the pattern matches anywhere in
another text, or an error in words. -/
class PatternEngine where
  compile : String → Except String (String → Bool)

/-- A compiled text: the text, and whether it matches anywhere in another text. -/
structure Pattern where
  text : String
  occursIn : String → Bool

namespace Pattern

/-- The pattern that a text compiles to. -/
def ofText [PatternEngine] (text : String) : Except String Pattern :=
  (PatternEngine.compile text).map (Pattern.mk text)

/-- A pattern is what its text compiles to. -/
def Compiled [PatternEngine] (p : Pattern) : Prop := ofText p.text = .ok p

/-- What a text compiles to keeps the text. -/
theorem text_of_ofText [PatternEngine] {text : String} {p : Pattern} (h : ofText text = .ok p) :
    p.text = text := by
  unfold ofText at h
  cases hc : PatternEngine.compile text with
  | error e =>
    rw [hc] at h
    cases h
  | ok occursIn =>
    rw [hc] at h
    cases h
    rfl

/-- What a text compiles to is compiled. -/
theorem compiled_of_ofText [PatternEngine] {text : String} {p : Pattern} (h : ofText text = .ok p) :
    p.Compiled := by
  obtain rfl := text_of_ofText h
  exact h

end Pattern

/-- The pattern that stands for no pattern compiles and matches every text, and so does the empty
pattern if it compiles. -/
structure PatternEngine.Lawful [PatternEngine] : Prop where
  any : ∃ p, Pattern.ofText ".*" = .ok p ∧ ∀ s, p.occursIn s = true
  empty : ∀ p, Pattern.ofText "" = .ok p → ∀ s, p.occursIn s = true

end Intake
