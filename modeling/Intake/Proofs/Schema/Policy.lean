import Intake.Proofs.Schema.Reading

set_option autoImplicit false

/-!
# Parameters with policies for missing values

A parameter is a reading behind a first rule that says what becomes of a missing value: a default
takes its place, nothing stands for it, or it is rejected.

## Main definitions

* `Reading.Solid`, `Reading.KeepsGiven` — readings that take no missing value, or write none for a
  value that is given.
* `Parameter.orDefault`, `Parameter.option`, `Parameter.orElse`, `Parameter.require` — the policies.

## Main results

* `Column.read?_of_first` — a parameter whose first rule passes on a value.
-/

namespace Intake

/-! ### Chains that keep presence -/

/-- A chain that keeps presence leaves what it gives. -/
lemma settle?_of_keeps {chain : List Rule} (h : ∀ r ∈ chain, r.KeepsPresence) {v : Value}
    (hv : v ≠ .null) :
    settle? chain (some v) v = (Rule.checkNested chain [] none v).toOption.map some := by
  induction chain generalizing v with
  | nil => rfl
  | cons r rest ih =>
    obtain ⟨hr, hrest⟩ := List.forall_mem_cons.mp h
    rw [settle?, Rule.checkNested]
    cases hw : r.check [] none v with
    | error e => rfl
    | ok w =>
      have hne : w ≠ .null := hr v w hv hw
      have hnull : w.isNull = false := by
        cases w with
        | null => exact absurd rfl hne
        | bool | int | float | string | bytes | list | map => rfl
      dsimp only
      rw [if_neg (by simp [hnull])]
      exact ih hrest hne

/-- What a chain that keeps presence gives is not null. -/
lemma checkNested_ne_null {chain : List Rule} (h : ∀ r ∈ chain, r.KeepsPresence) {v w : Value}
    (hv : v ≠ .null) (hw : Rule.checkNested chain [] none v = .ok w) : w ≠ .null := by
  induction chain generalizing v with
  | nil =>
    cases hw
    exact hv
  | cons r rest ih =>
    obtain ⟨hr, hrest⟩ := List.forall_mem_cons.mp h
    rw [Rule.checkNested] at hw
    split at hw
    · cases hw
    · next x hx => exact ih hrest (hr v x hv hx) hw

namespace Column

variable {β : Type} [DataCodec β] (c : Column β) {r : Rule} {rest : List Rule} {v : Value}

omit [DataCodec β] in
/-- A first rule that passes on a value that is there leaves what the others make of it. -/
lemma settled?_of_first (hc : c.chain = r :: rest) (hrest : ∀ r ∈ rest, r.KeepsPresence)
    {w : Value} (hr : r.check [] none v = .ok w) (hw : w ≠ .null) :
    c.settled? v = (Rule.checkNested rest [] none w).toOption.map some := by
  have hnull : w.isNull = false := by
    cases w with
    | null => exact absurd rfl hw
    | bool | int | float | string | bytes | list | map => rfl
  rw [settled?, hc, if_neg (by simp), settle?, hr]
  dsimp only
  rw [if_neg (by simp [hnull]), settle?_of_keeps hrest hw]

/-- A parameter whose first rule passes on a value that is there accepts that value. -/
theorem read?_of_first (hc : c.chain = r :: rest) (hrest : ∀ r ∈ rest, r.KeepsPresence)
    {w : Value} (hr : r.check [] none v = .ok w) (hw : w ≠ .null) :
    c.read? v = acceptAs? β rest c.target c.convert w := by
  rw [read?, c.settled?_of_first hc hrest hr hw, acceptAs?]
  cases hx : Rule.checkNested rest [] none w with
  | error e => rfl
  | ok x =>
    have hpresent : present? (some x) = some x :=
      present?_of_ne_null (checkNested_ne_null hrest hw hx)
    simp only [Except.toOption, Option.map_some, Option.bind_some, hpresent]

/-- A parameter whose first rule gives null is missing. -/
lemma read?_of_null (hc : c.chain = r :: rest) (hr : r.check [] none v = .ok .null) :
    c.read? v = if c.required then none else ofDatum? (toDatum c.fallback) := by
  have hsettled : c.settled? v = some none := by
    rw [settled?, hc, if_neg (by simp), settle?, hr]
    rfl
  rw [read?, hsettled]
  rfl

omit [DataCodec β] in
/-- A first rule that rejects a value leaves nothing. -/
lemma settled?_of_error (hc : c.chain = r :: rest) {e : Rejection}
    (hr : r.check [] none v = .error e) : c.settled? v = none := by
  rw [settled?, hc, if_neg (by simp), settle?, hr]

/-- A parameter whose first rule rejects a value rejects it. -/
lemma read?_of_error (hc : c.chain = r :: rest) {e : Rejection}
    (hr : r.check [] none v = .error e) : c.read? v = none := by
  rw [read?, c.settled?_of_error hc hr]
  rfl

end Column

/-! ### Missing values -/

namespace Reading

variable {β : Type} [DataCodec β]

/-- A reading takes no missing value. -/
def Solid (R : Reading β) : Prop :=
  ∀ v b, R.accept? v = some b → OptionalRule.isMissing v = false

/-- A reading writes no missing value for what it took from a value that is given. -/
def KeepsGiven (R : Reading β) : Prop :=
  ∀ n v b, v.Fits n → R.accept? v = some b → OptionalRule.isMissing v = false →
    OptionalRule.isMissing (R.value b) = false

/-- A reading that takes no missing value writes none. -/
lemma Solid.not_missing {R : Reading β} (h : R.Solid) {n : Nat} {b : β} (hb : R.Sound n b) :
    OptionalRule.isMissing (R.value b) = false :=
  h _ b (R.value_of_sound hb).2.2

/-- A reading that takes no missing value writes none for a value that is given. -/
lemma Solid.keepsGiven {R : Reading β} (h : R.Solid) : R.KeepsGiven :=
  fun _ _ _ hv hb _ => h.not_missing (R.sound_of_accept? hv hb)

/-- What a default is read as, if it is read at all, is written as no missing value. -/
def KeepsDefault (R : Reading β) (d : Value) : Prop :=
  ∀ b, R.accept? d = some b → ∀ n, R.Sound n b ∧ OptionalRule.isMissing (R.value b) = false

/-- It suffices to know the element that a default is read as. -/
lemma keepsDefault_of_accept? {R : Reading β} {d : Value} {b : β} (h : R.accept? d = some b)
    (hb : ∀ n, R.Sound n b ∧ OptionalRule.isMissing (R.value b) = false) : R.KeepsDefault d := by
  intro x hx
  obtain rfl : b = x := Option.some.inj (h.symm.trans hx)
  exact hb

end Reading

/-- A missing value is null or the empty text. -/
lemma ne_null_of_not_missing {v : Value} (h : OptionalRule.isMissing v = false) : v ≠ .null := by
  rintro rfl
  cases h

/-- A reading that takes no missing value takes no null. -/
lemma Reading.Solid.ne_null {β : Type} [DataCodec β] {R : Reading β} (h : R.Solid) {v : Value}
    {b : β} (hb : R.accept? v = some b) : v ≠ .null :=
  ne_null_of_not_missing (h v b hb)

/-- A default takes the place of a missing value. -/
lemma check_orDefault {d : Value} (hd : OptionalRule.isMissing d = false) (v : Value) :
    (Rule.orDefault d).check [] none v =
      .ok (if OptionalRule.isMissing v then d else v) := by
  have hnull : d.isNull = false := by
    cases d with
    | null => cases hd
    | bool | int | float | string | bytes | list | map => rfl
  simp [Rule.orDefault, Rule.check, OptionalRule.apply, OptionalRule.withDefault,
    OptionalRule.substitute, Option.filter, hnull]

/-- A value, or another one in the place of a missing value. -/
def Value.orIfMissing (v d : Value) : Value := if OptionalRule.isMissing v then d else v

/-- What takes the place of a missing value is there. -/
lemma orIfMissing_ne_null {d : Value} (hd : OptionalRule.isMissing d = false) (v : Value) :
    v.orIfMissing d ≠ .null := by
  rw [Value.orIfMissing]
  split_ifs with hmissing
  · exact ne_null_of_not_missing hd
  · exact ne_null_of_not_missing (by simpa using hmissing)

/-- Nothing takes the place of a missing value. -/
lemma check_orNull (v : Value) :
    Rule.orNull.check [] none v = .ok (if OptionalRule.isMissing v then .null else v) := by
  simp [Rule.orNull, Rule.check, OptionalRule.apply, OptionalRule.plain, OptionalRule.substitute]

/-- Only null is rejected as missing. -/
lemma check_required {v : Value} (h : v ≠ .null) : Rule.required.check [] none v = .ok v := by
  cases v with
  | null => exact absurd rfl h
  | bool | int | float | string | bytes | list | map => rfl

/-- An option is accepted like an element that is there. -/
lemma acceptAs?_option {γ : Type} [DataCodec γ] {chain : List Rule} {t target : Target}
    (ht : t = target ∨ t = .optional target) (hkeeps : ∀ r ∈ chain, r.KeepsPresence)
    (convert : Bool) {v : Value} (hv : v ≠ .null) :
    acceptAs? (Option γ) chain t convert v =
      (acceptAs? γ chain target convert v).map some := by
  have hcoerce : ∀ w, w ≠ .null → t.coerce convert w = target.coerce convert w := by
    intro w hw
    rcases ht with rfl | rfl
    · rfl
    · exact coerce_optional hw target convert
  rw [acceptAs?, acceptAs?]
  cases hw : Rule.checkNested chain [] none v with
  | error e => rfl
  | ok w =>
    have hne : w ≠ .null := checkNested_ne_null hkeeps hv hw
    have hread : ∀ x, target.coerce convert w = .ok x →
        (DataCodec.dataType (Option γ)).read x = ((DataCodec.dataType γ).read x).map .present := by
      intro x hx
      have hx : x ≠ .null := coerce_ne_null target hne hx
      cases x with
      | null => exact absurd rfl hx
      | bool | int | float | string | bytes | list | map => rfl
    simp only [Except.toOption, Option.bind_some, readAs?, hcoerce w hne]
    cases hx : target.coerce convert w with
    | error e => rfl
    | ok x =>
      dsimp only [Option.bind_some]
      rw [hread x hx]
      cases (DataCodec.dataType γ).read x <;> rfl

/-! ### Policies -/

namespace Parameter

variable {β : Type} [DataCodec β]

/-- A parameter with a default. It may be left out if the default is read as it. -/
def orDefault (R : Reading β) (hgiven : R.KeepsGiven) (name key : String) (required : Bool)
    (fallback : β) {d : Value} (hd : OptionalRule.isMissing d = false)
    (hdefault : R.KeepsDefault d)
    (leftOut : β → Bool) (hleft : ∀ x, leftOut x = true → R.accept? d = some x) : Parameter β where
  name := name
  key := key
  chain := .orDefault d :: R.chain
  target := R.target
  required := required
  convert := R.convert
  fallback := fallback
  closed := List.forall_mem_cons.mpr ⟨fun _ _ _ => rfl, R.closed⟩
  leftOut := leftOut
  Sound n x := R.Sound n x ∧ OptionalRule.isMissing (R.value x) = false
  sound_of_read? := by
    intro n v x hv h
    rw [Column.read?_of_first _ rfl R.keeps (check_orDefault hd v)] at h
    · split_ifs at h with hmissing
      · exact hdefault x h n
      · have hmissing : OptionalRule.isMissing v = false := by simpa using hmissing
        exact ⟨R.sound_of_accept? hv h, hgiven n v x hv h hmissing⟩
    · split_ifs with hmissing
      · exact ne_null_of_not_missing hd
      · exact ne_null_of_not_missing (by simpa using hmissing)
  read?_of_sound := by
    rintro n x ⟨hx, hmissing⟩
    obtain ⟨hvalue, hwf, haccept⟩ := R.value_of_sound hx
    refine ⟨_, hvalue, hwf, ?_⟩
    split_ifs with hx
    · rw [Column.read?_of_first _ rfl R.keeps (check_orDefault hd .null)
        (ne_null_of_not_missing hd)]
      exact hleft x hx
    · have hcheck := check_orDefault hd (R.value x)
      rw [hmissing, if_neg Bool.false_ne_true] at hcheck
      rw [← haccept]
      exact Column.read?_of_first _ rfl R.keeps hcheck (ne_null_of_not_missing hmissing)

/-- A parameter that may be missing, with a fallback. It may be left out if it is the fallback. -/
def orElse (R : Reading β) (hgiven : R.KeepsGiven) (name key : String) (fallback : β)
    (hfallback : ofDatum? (toDatum fallback) = some fallback)
    (hsound : ∀ n, R.Sound n fallback ∧ OptionalRule.isMissing (R.value fallback) = false)
    (leftOut : β → Bool) (hleft : ∀ x, leftOut x = true → x = fallback) : Parameter β where
  name := name
  key := key
  chain := .orNull :: R.chain
  target := R.target
  required := false
  convert := R.convert
  fallback := fallback
  closed := List.forall_mem_cons.mpr ⟨fun _ _ _ => rfl, R.closed⟩
  leftOut := leftOut
  Sound n x := R.Sound n x ∧ OptionalRule.isMissing (R.value x) = false
  sound_of_read? := by
    intro n v x hv h
    have hcheck := check_orNull v
    split_ifs at hcheck with hmissing
    · rw [Column.read?_of_null _ rfl hcheck, if_neg Bool.false_ne_true, hfallback] at h
      exact Option.some.inj h ▸ hsound n
    · have hmissing : OptionalRule.isMissing v = false := by simpa using hmissing
      rw [Column.read?_of_first _ rfl R.keeps hcheck (ne_null_of_not_missing hmissing)] at h
      exact ⟨R.sound_of_accept? hv h, hgiven n v x hv h hmissing⟩
  read?_of_sound := by
    rintro n x ⟨hx, hmissing⟩
    obtain ⟨hvalue, hwf, haccept⟩ := R.value_of_sound hx
    refine ⟨_, hvalue, hwf, ?_⟩
    split_ifs with hx
    · rw [Column.read?_of_null _ rfl (check_orNull .null), if_neg Bool.false_ne_true, hleft x hx]
      exact hfallback
    · have hcheck := check_orNull (R.value x)
      rw [hmissing, if_neg Bool.false_ne_true] at hcheck
      rw [← haccept]
      exact Column.read?_of_first _ rfl R.keeps hcheck (ne_null_of_not_missing hmissing)

/-- A parameter that may be missing. -/
def option (R : Reading β) (hgiven : R.KeepsGiven) (name key : String) (target : Target)
    (ht : target = R.target ∨ target = .optional R.target) (leftOut : Option β → Bool)
    (hleft : ∀ x, leftOut x = true → x = none) : Parameter (Option β) where
  name := name
  key := key
  chain := .orNull :: R.chain
  target := target
  required := false
  convert := R.convert
  fallback := none
  closed := List.forall_mem_cons.mpr ⟨fun _ _ _ => rfl, R.closed⟩
  leftOut := leftOut
  Sound n x := ∀ b ∈ x, R.Sound n b ∧ OptionalRule.isMissing (R.value b) = false
  sound_of_read? := by
    rintro n v _ hv h b rfl
    have hcheck := check_orNull v
    split_ifs at hcheck with hmissing
    · rw [Column.read?_of_null _ rfl hcheck, if_neg Bool.false_ne_true] at h
      cases h
    · have hmissing : OptionalRule.isMissing v = false := by simpa using hmissing
      have hne : v ≠ .null := ne_null_of_not_missing hmissing
      rw [Column.read?_of_first _ rfl R.keeps hcheck hne,
        acceptAs?_option ht R.keeps R.convert hne] at h
      obtain ⟨_, haccept, hb⟩ := Option.map_eq_some_iff.mp h
      cases hb
      exact ⟨R.sound_of_accept? hv haccept, hgiven n v b hv haccept hmissing⟩
  read?_of_sound := by
    rintro n x hx
    have hrestore : ∀ w, target.restore w = R.target.restore w := by
      intro w
      rcases ht with rfl | rfl <;> rfl
    cases x with
    | none =>
      refine ⟨.null, rfl, ?_, ?_⟩
      · rw [restore_null]
        trivial
      · rw [restore_null, ite_self]
        rw [Column.read?_of_null _ rfl (check_orNull .null)]
        rfl
    | some b =>
      obtain ⟨hb, hmissing⟩ := hx b rfl
      obtain ⟨hvalue, hwf, haccept⟩ := R.value_of_sound hb
      have hne : R.value b ≠ .null := ne_null_of_not_missing hmissing
      refine ⟨_, hvalue, hrestore _ ▸ hwf, ?_⟩
      have hcheck := check_orNull (R.value b)
      rw [hmissing, if_neg Bool.false_ne_true] at hcheck
      have hkept : ¬leftOut (some b) = true := fun h => nomatch hleft (some b) h
      have haccept : acceptAs? β R.chain R.target R.convert (R.value b) = some b := haccept
      have hread := acceptAs?_option (γ := β) ht R.keeps R.convert hne
      rw [haccept, Option.map_some] at hread
      rw [if_neg hkept, hrestore, ← hread]
      exact Column.read?_of_first _ rfl R.keeps hcheck hne

/-- A parameter that must be given. -/
def require (R : Reading β) (hnull : ∀ v b, R.accept? v = some b → v ≠ .null) (name key : String)
    (required : Bool) (fallback : β) : Parameter β where
  name := name
  key := key
  chain := .required :: R.chain
  target := R.target
  required := required
  convert := R.convert
  fallback := fallback
  closed := List.forall_mem_cons.mpr ⟨fun _ _ _ => rfl, R.closed⟩
  leftOut _ := false
  Sound := R.Sound
  sound_of_read? := by
    intro n v x hv h
    by_cases hne : v = .null
    · subst hne
      rw [Column.read?_of_error _ rfl (r := .required) (e := .missing) rfl] at h
      cases h
    · rw [Column.read?_of_first _ rfl R.keeps (check_required hne) hne] at h
      exact R.sound_of_accept? hv h
  read?_of_sound := by
    intro n x hx
    obtain ⟨hvalue, hwf, haccept⟩ := R.value_of_sound hx
    refine ⟨_, hvalue, hwf, ?_⟩
    have hne := hnull _ _ haccept
    rw [if_neg Bool.false_ne_true, ← haccept]
    exact Column.read?_of_first _ rfl R.keeps (check_required hne) hne

/-! ### What the policies read -/

section Read

variable {R : Reading β} {hgiven : R.KeepsGiven} {name key : String} {required : Bool}
  {fallback : β}

/-- A parameter with a default reads what is given, or the default. -/
lemma read?_orDefault {d : Value} {hd : OptionalRule.isMissing d = false}
    {hdefault : R.KeepsDefault d}
    {leftOut : β → Bool} {hleft : ∀ x, leftOut x = true → R.accept? d = some x} (v : Value) :
    (orDefault R hgiven name key required fallback hd hdefault leftOut hleft).toColumn.read? v =
      R.accept? (v.orIfMissing d) :=
  Column.read?_of_first _ rfl R.keeps (check_orDefault hd v) (orIfMissing_ne_null hd v)

/-- A parameter with a fallback reads what is given. -/
lemma read?_orElse {hfallback : ofDatum? (toDatum fallback) = some fallback}
    {hsound : ∀ n, R.Sound n fallback ∧ OptionalRule.isMissing (R.value fallback) = false}
    {leftOut : β → Bool} {hleft : ∀ x, leftOut x = true → x = fallback} (v : Value) :
    (orElse R hgiven name key fallback hfallback hsound leftOut hleft).toColumn.read? v =
      if OptionalRule.isMissing v then some fallback else R.accept? v := by
  have hcheck := check_orNull v
  split_ifs at hcheck ⊢ with hmissing
  · rw [Column.read?_of_null _ rfl hcheck]
    exact hfallback
  · have hne : v ≠ .null := ne_null_of_not_missing (by simpa using hmissing)
    exact Column.read?_of_first _ rfl R.keeps hcheck hne

/-- A parameter that may be missing reads what is given. -/
lemma read?_option {target : Target} {ht : target = R.target ∨ target = .optional R.target}
    {leftOut : Option β → Bool} {hleft : ∀ x, leftOut x = true → x = none} (v : Value) :
    (option R hgiven name key target ht leftOut hleft).toColumn.read? v =
      if OptionalRule.isMissing v then some none else (R.accept? v).map some := by
  have hcheck := check_orNull v
  split_ifs at hcheck ⊢ with hmissing
  · rw [Column.read?_of_null _ rfl hcheck]
    rfl
  · have hne : v ≠ .null := ne_null_of_not_missing (by simpa using hmissing)
    rw [Column.read?_of_first _ rfl R.keeps hcheck hne]
    exact acceptAs?_option ht R.keeps R.convert hne

/-- A parameter that must be given reads what is given. -/
lemma read?_require {hnull : ∀ v b, R.accept? v = some b → v ≠ .null} (v : Value) :
    (require R hnull name key required fallback).toColumn.read? v = R.accept? v := by
  by_cases hne : v = .null
  · subst hne
    rw [Column.read?_of_error _ rfl (r := .required) (e := .missing) rfl, eq_comm,
      Option.eq_none_iff_forall_ne_some]
    exact fun b hb => hnull _ b hb rfl
  · exact Column.read?_of_first _ rfl R.keeps (check_required hne) hne

end Read

end Parameter

end Intake
