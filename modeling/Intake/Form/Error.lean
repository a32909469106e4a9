import Intake.Fault.Basic

set_option autoImplicit false

/-!
# Errors of forms

A form reports all its failures at once: a message, and under each key the errors found there in the
order of their occurrence. The errors of a form within a form stay structured.

## Main definitions

* `FieldError`, `FieldErrors`, `FormError` — the types.
* `FieldErrors.add` — reporting one more error.
* `FormError.display` — all errors in one line.
* `FormError.toValue`, `FieldErrors.toValue` — errors as data.
* `FormError.toFault` — the error in the form that is shown to users.
-/

namespace Intake

mutual

/-- One error under a key. -/
inductive FieldError where
  | message (text : String)
  | form (error : FormError)

/-- The failure of a form, or of an item of a list. -/
structure FormError where
  message : String
  errors : List (String × List FieldError)

end

/-- Errors under keys, in the order of the first error under each. -/
abbrev FieldErrors := Dict (List FieldError)

/-- Reports an error under a key, behind those already there. -/
def FieldErrors.add (errors : FieldErrors) (key : String) (error : FieldError) : FieldErrors :=
  errors.insert key ((errors.find? key).getD [] ++ [error])

namespace FormError

/-- The code of errors of forms. -/
def code : String := "FORM-ERROR"

/-- The message of forms without one of their own. -/
def defaultMessage : String := "invalid input data"

/-- An error without entries. -/
def bare (message : String) : FormError := ⟨message, []⟩

/-- The errors under a key. -/
def field? (e : FormError) (key : String) : Option (List FieldError) := Dict.find? e.errors key

end FormError

/-- Texts of errors under a key, behind the key. -/
def keyedText (key : String) (texts : List String) : String :=
  key ++ "(" ++ "; ".intercalate texts ++ ")"

/-- A message with a summary behind it, unless there is nothing to sum up. -/
def summarized (message : String) (entries : List String) : String :=
  if entries.isEmpty then message else message ++ ": " ++ ", ".intercalate entries

mutual

/-- The text of an error under a key. -/
def FieldError.display : FieldError → String
  | .message text => text
  | .form e => e.display
termination_by structural e => e

/-- The message of a form with a summary of the errors under each key. -/
def FormError.display : FormError → String
  | ⟨message, errors⟩ => summarized message (entryTexts errors)
termination_by structural e => e

/-- The texts of errors. -/
def errorTexts : List FieldError → List String
  | [] => []
  | e :: rest => e.display :: errorTexts rest
termination_by structural errors => errors

/-- The texts of errors under keys, key by key. -/
def entryTexts : List (String × List FieldError) → List String
  | [] => []
  | (key, errors) :: rest => keyedText key (errorTexts errors) :: entryTexts rest
termination_by structural entries => entries

end

/-- The data of the errors under one key: a single one stands alone. -/
def joinErrors : List Value → Value
  | [v] => v
  | vs => .list vs

/-- The data of an error with a text and the data of its entries. -/
def formErrorValue (text : String) (entries : List (String × Value)) : Value :=
  .map ([("message", .string text), ("code", .string FormError.code)] ++
    if entries.isEmpty then [] else [("data", .map entries)])

mutual

/-- An error under a key as data. -/
def FieldError.toValue : FieldError → Value
  | .message text => .string text
  | .form e => e.toValue
termination_by structural e => e

/-- The error of a form as data. -/
def FormError.toValue : FormError → Value
  | ⟨message, errors⟩ =>
    formErrorValue (summarized message (entryTexts errors)) (entryErrorValues errors)
termination_by structural e => e

/-- Errors as data, one by one. -/
def errorValues : List FieldError → List Value
  | [] => []
  | e :: rest => e.toValue :: errorValues rest
termination_by structural errors => errors

/-- Errors under keys as data, key by key. -/
def entryErrorValues : List (String × List FieldError) → List (String × Value)
  | [] => []
  | (key, errors) :: rest => (key, joinErrors (errorValues errors)) :: entryErrorValues rest
termination_by structural entries => entries

end

/-- Errors under keys as data. -/
def FieldErrors.toValue (errors : FieldErrors) : Value := .map (entryErrorValues errors)

/-- The error in the form that is shown to users, its entries as its datum. -/
def FormError.toFault (e : FormError) : Fault :=
  let fault := Fault.new .external e.display FormError.code
  if e.errors.isEmpty then fault else fault.withData (FieldErrors.toValue e.errors)

end Intake
