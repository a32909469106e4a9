import Mathlib.Tactic.Lemma

set_option autoImplicit false

/-!
# Results and failures

Steps that may fail are chained so that the first failure ends the chain. These laws take a chain
that gave a result apart into its steps.

## Main definitions

* `FailsOnly` — a step that fails only with errors of a kind.
* `SameUnless` — two results that are the same unless the second is a failure of some kind.

## Main results

* `map_eq_ok_iff`, `bind_eq_ok_iff` — what a chain that gave a result did.
* `map_eq_error_iff` — a mapped step fails as the step does.
* `mapError_eq_ok_iff`, `mapError_eq_error_iff` — steps with other errors.
* `toOption_bind` — chains when only results count.
* `FailsOnly.map`, `FailsOnly.bind` — chains fail as their steps do.
* `SameUnless.map`, `SameUnless.bind` — chains are the same as their steps are.
-/

namespace Intake

variable {ε ε' α β : Type}

/-- A mapped step gives a result when the step does. -/
lemma map_eq_ok_iff {x : Except ε α} {f : α → β} {b : β} :
    x.map f = .ok b ↔ ∃ a, x = .ok a ∧ f a = b := by
  cases x <;> simp [Except.map]

/-- A mapped step fails as the step does. -/
lemma map_eq_error_iff {x : Except ε α} {f : α → β} {e : ε} :
    x.map f = .error e ↔ x = .error e := by
  cases x <;> simp [Except.map]

/-- A step with another error gives a result when the step does. -/
lemma mapError_eq_ok_iff {x : Except ε α} {f : ε → ε'} {a : α} :
    x.mapError f = .ok a ↔ x = .ok a := by
  cases x with
  | error e => exact iff_of_false nofun nofun
  | ok b =>
    have hok : (.ok b : Except ε α).mapError f = .ok b := rfl
    rw [hok, Except.ok.injEq, Except.ok.injEq]

/-- A step with another error fails when the step does. -/
lemma mapError_eq_error_iff {x : Except ε α} {f : ε → ε'} {e' : ε'} :
    x.mapError f = .error e' ↔ ∃ e, x = .error e ∧ f e = e' := by
  cases x with
  | error e =>
    have herror : (.error e : Except ε α).mapError f = .error (f e) := rfl
    simp [herror]
  | ok b => exact iff_of_false nofun nofun

/-- A step that puts one more item in front gives a result when the step does. -/
lemma map_cons_eq_ok_iff {x : Except ε (List α)} {a : α} {as : List α} :
    x.map (a :: ·) = .ok as ↔ ∃ rest, x = .ok rest ∧ as = a :: rest := by
  rw [map_eq_ok_iff]
  simp only [eq_comm]

/-- Two steps give a result when both do. -/
lemma bind_eq_ok_iff {x : Except ε α} {f : α → Except ε β} {b : β} :
    x.bind f = .ok b ↔ ∃ a, x = .ok a ∧ f a = .ok b := by
  cases x <;> simp [Except.bind]

/-- A test gives a result when it is passed. -/
lemma ite_eq_ok_iff {c : Prop} [Decidable c] {a b : α} {e : ε} :
    (if c then .ok a else .error e : Except ε α) = .ok b ↔ c ∧ b = a := by
  by_cases h : c <;> simp [h, eq_comm]

/-- Two steps when only results count. -/
lemma toOption_bind (x : Except ε α) (f : α → Except ε β) :
    (x.bind f).toOption = x.toOption.bind fun a => (f a).toOption := by
  cases x <;> rfl

/-- Only results count in what is left of a step. -/
lemma toOption_eq_some_iff {x : Except ε α} {a : α} : x.toOption = some a ↔ x = .ok a := by
  cases x <;> simp [Except.toOption]

/-! ### Failures -/

/-- A step fails only with errors of a kind. -/
def FailsOnly (P : ε → Prop) (x : Except ε α) : Prop := ∀ e, x = .error e → P e

/-- A step with a result does not fail. -/
lemma failsOnly_ok (P : ε → Prop) (a : α) : FailsOnly P (.ok a : Except ε α) := nofun

/-- A mapped step fails as the step does. -/
lemma FailsOnly.map {P : ε → Prop} {x : Except ε α} (h : FailsOnly P x) (f : α → β) :
    FailsOnly P (x.map f) := by
  cases x with
  | error e => exact fun _ he => Except.error.inj he ▸ h e rfl
  | ok a => exact failsOnly_ok P (f a)

/-- Two steps fail as either of them does. -/
lemma FailsOnly.bind {P : ε → Prop} {x : Except ε α} {f : α → Except ε β} (h : FailsOnly P x)
    (hf : ∀ a, x = .ok a → FailsOnly P (f a)) : FailsOnly P (x.bind f) := by
  cases x with
  | error e => exact fun _ he => Except.error.inj he ▸ h e rfl
  | ok a => exact hf a rfl

/-! ### Results that are the same up to some failures -/

/-- Two results are the same unless the second is a failure of some kind. -/
def SameUnless (P : ε → Prop) (x y : Except ε α) : Prop :=
  x = y ∨ ∃ e, y = .error e ∧ P e

namespace SameUnless

variable {P : ε → Prop} {x y : Except ε α}

/-- Mapped results are as the results are. -/
lemma map (h : SameUnless P x y) (f : α → β) : SameUnless P (x.map f) (y.map f) := by
  rcases h with rfl | ⟨e, rfl, he⟩
  · exact .inl rfl
  · exact .inr ⟨e, rfl, he⟩

/-- Two steps one after the other are as the steps are. -/
lemma bind {f g : α → Except ε β} (h : SameUnless P x y) (hfg : ∀ a, SameUnless P (f a) (g a)) :
    SameUnless P (x.bind f) (y.bind g) := by
  rcases h with rfl | ⟨e, rfl, he⟩
  · cases x with
    | error e => exact .inl rfl
    | ok a => exact hfg a
  · exact .inr ⟨e, rfl, he⟩

end SameUnless

end Intake
