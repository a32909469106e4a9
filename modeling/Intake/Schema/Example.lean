import Intake.Form.Run

set_option autoImplicit false

/-!
# Checking examples

The examples of a form and of the forms within it are run, and every example that turns out other
than declared is reported with its place.

## Main definitions

* `ExampleFailure` — an example that turned out other than declared.
* `Form.checkExamples` — the failures of a form.
-/

namespace Intake

/-- An example that turned out other than declared. -/
structure ExampleFailure where
  location : String
  /-- Whether the example was declared valid. -/
  expectedValid : Bool
  /-- The text of the failure of an example declared valid. -/
  error : Option String
  deriving DecidableEq, Repr

namespace ExampleFailure

/-- A failure in one line. -/
def display (f : ExampleFailure) : String :=
  match f.error, f.expectedValid with
  | some error, _ => f.location ++ ": expected valid, got: " ++ error
  | none, true => f.location ++ ": expected valid"
  | none, false => f.location ++ ": expected invalid, but it validated"

end ExampleFailure

/-- Compares what became of an example with what was declared. -/
def judge (location : String) (invalid : Bool) (failure : Option String) : List ExampleFailure :=
  match invalid, failure with
  | false, some error => [⟨location, true, some error⟩]
  | true, none => [⟨location, false, none⟩]
  | _, _ => []

/-- The place of an example. -/
def exampleLocation (location : String) (i : Nat) : String :=
  location ++ ".examples." ++ String.ofList (natChars i)

/-- The text of a failure. -/
def failureText? {ε α : Type} (display : ε → String) : Except ε α → Option String
  | .error e => some (display e)
  | .ok _ => none

/-- The failures among the examples of a form, counted. -/
def judgeFormExamples (location : String) (form : Form) : Nat → List FormExample →
    List ExampleFailure
  | _, [] => []
  | i, e :: rest =>
    judge (exampleLocation location i) e.invalid
        (failureText? FormError.display (form.validate e.value))
      ++ judgeFormExamples location form (i + 1) rest

/-- The failures among the examples of a field, counted. The values of a form are not there. -/
def judgeFieldExamples (location : String) (chain : List Rule) : Nat → List FieldExample →
    List ExampleFailure
  | _, [] => []
  | i, e :: rest =>
    judge (exampleLocation location i) e.invalid
        (failureText? Rejection.display (runChain chain [] none e.value))
      ++ judgeFieldExamples location chain (i + 1) rest

mutual

/-- The failures of the forms that a rule holds. -/
def Rule.exampleFailures (location : String) : Rule → List ExampleFailure
  | .list chain => Rule.chainFailures location chain
  | .textList chain => Rule.chainFailures location chain
  | .map form _ => Rule.innerFailures location form
  | .or options => Rule.optionFailures location options
  | .switch _ cases fallback _ =>
    Rule.caseFailures location cases ++ Rule.fallbackFailures location fallback
  | _ => []
termination_by structural r => r

/-- The failures of the forms that the rules of a chain hold. -/
def Rule.chainFailures (location : String) : List Rule → List ExampleFailure
  | [] => []
  | r :: rest => r.exampleFailures location ++ Rule.chainFailures location rest
termination_by structural chain => chain

/-- The failures of the form of a rule for maps, if it has one. -/
def Rule.innerFailures (location : String) : Option Form → List ExampleFailure
  | none => []
  | some form => form.exampleFailures location
termination_by structural form => form

/-- The failures of the forms that options hold. -/
def Rule.optionFailures (location : String) : List (List Rule) → List ExampleFailure
  | [] => []
  | chain :: rest => Rule.chainFailures location chain ++ Rule.optionFailures location rest
termination_by structural options => options

/-- The failures of the forms that cases hold. -/
def Rule.caseFailures (location : String) : List (String × List Rule) → List ExampleFailure
  | [] => []
  | (_, chain) :: rest => Rule.chainFailures location chain ++ Rule.caseFailures location rest
termination_by structural cases => cases

/-- The failures of the forms that a fallback holds. -/
def Rule.fallbackFailures (location : String) : Option (List Rule) → List ExampleFailure
  | none => []
  | some chain => Rule.chainFailures location chain
termination_by structural fallback => fallback

/-- The failures of fields and of the forms within them. -/
def Field.exampleFailures (location : String) : List Field → List ExampleFailure
  | [] => []
  | ⟨name, chain, examples⟩ :: rest =>
    let place := location ++ ".fields." ++ name
    judgeFieldExamples place chain 0 examples ++ Rule.chainFailures place chain
      ++ Field.exampleFailures location rest
termination_by structural fields => fields

/-- The failures of a form at a place and of the forms within it. -/
def Form.exampleFailures (location : String) : Form → List ExampleFailure
  | ⟨fields, strict, sanitizeKeys, errorMsg, name, examples, transforms, hook⟩ =>
    judgeFormExamples location
        ⟨fields, strict, sanitizeKeys, errorMsg, name, examples, transforms, hook⟩ 0 examples
      ++ Field.exampleFailures location fields
termination_by structural form => form

end

/-- The failures of a form. Its name stands in front of every place. -/
def Form.checkExamples (form : Form) : List ExampleFailure :=
  form.exampleFailures (form.name.getD "form")

end Intake
