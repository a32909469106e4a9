import Intake.Form.Error
import Mathlib.Tactic.Lemma

set_option autoImplicit false

/-!
# What the data of errors tell

Errors that are rendered as data can be told from their data. An error alone under its key is not
taken for several, since no error is rendered as a list. A nested form is rendered with a summary of
its errors behind its message; its errors are told from the data next to the message, so the summary
is known, and what stands before it is the message.

## Main definitions

* `splitErrors` — the data under a key, taken apart again.

## Main results

* `splitErrors_joinErrors` — nothing is lost when errors under one key are joined.
* `FieldErrors.toValue_inj` — errors with the same data are the same.
-/

namespace Intake

/-! ### One key -/

/-- The data of single errors that the data under a key consist of. -/
def splitErrors : Value → List Value
  | .list vs => vs
  | v => [v]

/-- Data of single errors that are no lists are told apart again after they were joined. -/
lemma splitErrors_joinErrors {vs : List Value} (h : ∀ v ∈ vs, ∀ items, v ≠ .list items) :
    splitErrors (joinErrors vs) = vs := by
  match vs with
  | [] => rfl
  | [v] =>
    cases v with
    | list items => exact absurd rfl (h (.list items) List.mem_cons_self items)
    | _ => rfl
  | _ :: _ :: _ => rfl

/-- No error is rendered as a list. -/
lemma FieldError.toValue_ne_list (e : FieldError) (items : List Value) :
    e.toValue ≠ .list items := by
  rcases e with text | ⟨message, errors⟩
  · exact nofun
  · exact nofun

/-- No error among several is rendered as a list. -/
lemma ne_list_of_mem_errorValues (errors : List FieldError) :
    ∀ v ∈ errorValues errors, ∀ items, v ≠ .list items := by
  induction errors with
  | nil => exact List.forall_mem_nil _
  | cons e rest ih => exact List.forall_mem_cons.mpr ⟨e.toValue_ne_list, ih⟩

/-- The data under a key tell the data of the single errors there. -/
lemma errorValues_eq_of_joinErrors_eq {errors others : List FieldError}
    (h : joinErrors (errorValues errors) = joinErrors (errorValues others)) :
    errorValues errors = errorValues others := by
  rw [← splitErrors_joinErrors (ne_list_of_mem_errorValues errors), h,
    splitErrors_joinErrors (ne_list_of_mem_errorValues others)]

/-! ### A nested form -/

/-- Without the summary, which is known, the message is left. -/
lemma summarized_inj {message other : String} {entries : List String} :
    summarized message entries = summarized other entries ↔ message = other := by
  cases entries with
  | nil => rfl
  | cons entry rest =>
    have hsummary (m : String) :
        summarized m (entry :: rest) = m ++ ": " ++ ", ".intercalate (entry :: rest) := rfl
    rw [hsummary, hsummary, String.append_left_inj, String.append_left_inj]

/-- The data of a nested form tell its text and the data of its entries. -/
lemma formErrorValue_inj {text other : String} {entries others : List (String × Value)} :
    formErrorValue text entries = formErrorValue other others ↔
      text = other ∧ entries = others := by
  cases entries <;> cases others <;> simp [formErrorValue]

/-! ### All errors -/

mutual

/-- Errors with the same data are the same. -/
theorem FieldError.eq_of_toValue_eq : ∀ a b : FieldError, a.toValue = b.toValue → a = b
  | .message _, .message _, h => congrArg FieldError.message (Value.string.inj h)
  | .form e, .form f, h => congrArg FieldError.form (FormError.eq_of_toValue_eq e f h)
  | .message _, .form ⟨_, _⟩, h => nomatch h
  | .form ⟨_, _⟩, .message _, h => nomatch h
termination_by structural a => a

/-- Forms that failed with the same data failed with the same message and the same errors. -/
theorem FormError.eq_of_toValue_eq : ∀ a b : FormError, a.toValue = b.toValue → a = b
  | ⟨message, errors⟩, ⟨other, others⟩, h => by
    obtain ⟨htext, hdata⟩ := formErrorValue_inj.mp h
    -- The errors come first: they decide on the summary that the texts end in.
    obtain rfl := eq_of_entryErrorValues_eq errors others hdata
    rw [summarized_inj.mp htext]
termination_by structural a => a

/-- Errors with the same data one by one are the same. -/
theorem eq_of_errorValues_eq : ∀ as bs : List FieldError, errorValues as = errorValues bs → as = bs
  | [], [], _ => rfl
  | [], _ :: _, h => nomatch h
  | _ :: _, [], h => nomatch h
  | a :: as, b :: bs, h => by
    obtain ⟨hfirst, hrest⟩ := List.cons.inj h
    rw [FieldError.eq_of_toValue_eq a b hfirst, eq_of_errorValues_eq as bs hrest]
termination_by structural as => as

/-- Errors with the same data key by key are the same. -/
theorem eq_of_entryErrorValues_eq : ∀ es fs : List (String × List FieldError),
    entryErrorValues es = entryErrorValues fs → es = fs
  | [], [], _ => rfl
  | [], _ :: _, h => nomatch h
  | _ :: _, [], h => nomatch h
  | (key, errors) :: rest, (other, others) :: more, h => by
    obtain ⟨hentry, hrest⟩ := List.cons.inj h
    obtain ⟨hkey, hjoined⟩ := Prod.mk.inj hentry
    have herrors : errors = others :=
      eq_of_errorValues_eq errors others (errorValues_eq_of_joinErrors_eq hjoined)
    rw [hkey, herrors, eq_of_entryErrorValues_eq rest more hrest]
termination_by structural es => es

end

/-- **Rendered errors lose nothing.** Errors have the same data, with the keys in the same order,
only if they are the same: the same keys in the same order, under each key the same errors in the
same order, and the same messages of nested forms, to any depth.

**Proof sketch.** Induction over the errors. The entries of the data are the keys, and under each
key the data of the errors are told apart again (`splitErrors_joinErrors`). An error that is a text
is not taken for a nested form, which is a map. Of a nested form the errors are told from its data
first. So both texts end in the same summary, and the messages before it are the same. -/
theorem FieldErrors.toValue_inj {errors others : FieldErrors} :
    errors.toValue = others.toValue ↔ errors = others := by
  constructor
  · intro h
    exact eq_of_entryErrorValues_eq errors others (Value.map.inj h)
  · intro h
    rw [h]

end Intake
