import Intake.Proofs.Rule.Bounds
import Intake.Proofs.Schema.Policy
import Intake.Proofs.Value.Loading
import Intake.Schema.Builtin

set_option autoImplicit false

/-!
# Readings of scalars and of dynamic values

## Main definitions

* `Reading.flag`, `Reading.length`, `Reading.integer`, `Reading.float`, `Reading.named` — readings
  of scalars.
* `Reading.text`, `Reading.regexp` — readings of texts and of the texts of patterns.
* `Reading.any`, `Reading.anything`, `Reading.anyMap` — readings of dynamic values.
-/

namespace Intake

/-- A rule that passes values on unchanged takes nothing to null. -/
lemma Rule.keepsPresence_of_same {r : Rule}
    (h : ∀ v w, r.check [] none v = .ok w → w = v) : r.KeepsPresence := by
  intro v w hv hw
  exact h v w hw ▸ hv

/-- What holds of the rule of a chain holds of the chain. -/
lemma forall_mem_singleton {P : Rule → Prop} {r : Rule} (h : P r) : ∀ x ∈ [r], P x := by
  intro x hx
  exact List.mem_singleton.mp hx ▸ h

/-! ### Flags -/

/-- A flag is accepted as it is. -/
lemma acceptAs?_flag_eq_some_iff {v : Value} {b : Bool} :
    acceptAs? Bool [.boolean .plain] .bool false v = some b ↔ v = .bool b := by
  cases v with
  | bool x =>
    have haccept : acceptAs? Bool [.boolean .plain] .bool false (.bool x) = some x := rfl
    simp [haccept]
  | null | int | float | string | bytes | list | map =>
    simp [acceptAs?, checkNested_singleton, Rule.check, BooleanRule.check, BooleanRule.plain,
      Except.toOption]

/-- Flags. -/
def Reading.flag : Reading Bool where
  chain := [.boolean .plain]
  target := .bool
  convert := false
  Sound _ _ := True
  closed := forall_mem_singleton fun _ _ _ => rfl
  keeps := by
    refine forall_mem_singleton ?_
    rintro v w - h
    cases v with
    | bool x =>
      cases h
      exact nofun
    | null | int | float | string | bytes | list | map => cases h
  sound_of_accept? := fun _ _ => trivial
  accept?_of_sound := fun {_ b} _ => ⟨.bool b, rfl, trivial, acceptAs?_flag_eq_some_iff.mpr rfl⟩

/-- Flags are not missing. -/
lemma Reading.flag_solid : Reading.flag.Solid := by
  intro v b h
  rw [acceptAs?_flag_eq_some_iff.mp h]
  rfl

/-! ### Integers -/

/-- An integer rule with a lower bound at most takes integers that are not below it. -/
lemma check_integer_eq_ok_iff {least : Option Int64} {v w : Value} :
    (Rule.integer ⟨false, least, none⟩).check [] none v = .ok w ↔
      ∃ n, IntegerRule.plain.number? v = some n ∧ (∀ m ∈ least, m ≤ n) ∧ w = .int n := by
  have hnumber : (IntegerRule.mk false least none).number? v = IntegerRule.plain.number? v := rfl
  simp [Rule.check, IntegerRule.check_eq_ok_iff, hnumber]

/-- An integer rule takes nothing to null. -/
lemma keepsPresence_integer (least : Option Int64) :
    (Rule.integer ⟨false, least, none⟩).KeepsPresence := by
  rintro v w - h
  obtain ⟨n, -, -, rfl⟩ := check_integer_eq_ok_iff.mp h
  exact nofun

/-- The integer that a missing value is: none. -/
lemma not_missing_of_number? {v : Value} {n : Int64} (h : IntegerRule.plain.number? v = some n) :
    OptionalRule.isMissing v = false := by
  cases v with
  | null | string => cases h
  | bool | int | float | bytes | list | map => rfl

/-- An integer is accepted as it is. -/
lemma acceptAs?_integer_eq_some_iff {v : Value} {n : Int64} :
    acceptAs? Int64 [.integer .plain] .int false v = some n ↔
      IntegerRule.plain.number? v = some n := by
  have hread : ∀ m : Int64, readAs? Int64 .int false (.int m) = some m := by
    intro m
    have hholds : IntType.holds .i64 m.toInt = true :=
      Bool.and_eq_true_iff.mpr ⟨decide_eq_true m.le_toInt,
        decide_eq_true (Int.le_sub_one_of_lt m.toInt_lt)⟩
    refine readAs?_eq_some_iff.mpr ⟨.int m, rfl, .int .i64 m.toInt, ?_, ?_⟩
    · exact if_pos hholds
    · exact congrArg some m.ofInt_toInt
  simp only [acceptAs?_eq_some_iff, checkNested_singleton, IntegerRule.plain,
    check_integer_eq_ok_iff]
  constructor
  · rintro ⟨_, ⟨m, hm, -, rfl⟩, hn⟩
    rw [hread m] at hn
    exact hm.trans hn
  · intro h
    exact ⟨.int n, ⟨n, h, nofun, rfl⟩, hread n⟩

/-- Integers of 64 bits. -/
def Reading.integer : Reading Int64 where
  chain := [.integer .plain]
  target := .int
  convert := false
  Sound _ _ := True
  closed := forall_mem_singleton fun _ _ _ => rfl
  keeps := forall_mem_singleton (keepsPresence_integer none)
  sound_of_accept? := fun _ _ => trivial
  accept?_of_sound := by
    intro n b _
    refine ⟨.int b, ?_, trivial, acceptAs?_integer_eq_some_iff.mpr rfl⟩
    exact congrArg (fun n => Except.ok (Value.int n)) b.ofInt_toInt

/-- Integers are not missing. -/
lemma Reading.integer_solid : Reading.integer.Solid :=
  fun _ _ h => not_missing_of_number? (acceptAs?_integer_eq_some_iff.mp h)

/-- A length is accepted from an integer that is not negative. -/
lemma acceptAs?_length_eq_some_iff {v : Value} {b : UInt64} :
    acceptAs? UInt64 [.integer (.atLeast 0)] .int false v = some b ↔
      ∃ n, IntegerRule.plain.number? v = some n ∧ 0 ≤ n ∧ b = UInt64.ofNat n.toInt.toNat := by
  have hread : ∀ m : Int64, 0 ≤ m →
      readAs? UInt64 .int false (.int m) = some (UInt64.ofNat m.toInt.toNat) := by
    intro m hm
    have hlow : 0 ≤ m.toInt := Int64.le_iff_toInt_le.mp hm
    have hhigh : m.toInt < 2 ^ 63 := m.toInt_lt
    have hholds : IntType.holds .usize m.toInt = true :=
      Bool.and_eq_true_iff.mpr ⟨decide_eq_true hlow,
        decide_eq_true (show m.toInt ≤ 2 ^ 64 - 1 by omega)⟩
    exact readAs?_eq_some_iff.mpr ⟨.int m, rfl, .int .usize m.toInt, if_pos hholds, rfl⟩
  simp only [acceptAs?_eq_some_iff, checkNested_singleton, IntegerRule.atLeast,
    IntegerRule.plain, check_integer_eq_ok_iff]
  constructor
  · rintro ⟨_, ⟨m, hm, hleast, rfl⟩, hb⟩
    have hnonneg : 0 ≤ m := hleast 0 rfl
    rw [hread m hnonneg] at hb
    exact ⟨m, hm, hnonneg, (Option.some.inj hb).symm⟩
  · rintro ⟨m, hm, hnonneg, rfl⟩
    refine ⟨.int m, ⟨m, hm, ?_, rfl⟩, hread m hnonneg⟩
    rintro _ ⟨⟩
    exact hnonneg

/-- Lengths, which stay within the positive integers of 64 bits. -/
def Reading.length : Reading UInt64 where
  chain := [.integer (.atLeast 0)]
  target := .int
  convert := false
  Sound _ b := b.toNat < 2 ^ 63
  closed := forall_mem_singleton fun _ _ _ => rfl
  keeps := forall_mem_singleton (keepsPresence_integer (some 0))
  sound_of_accept? := by
    intro n v b _ h
    obtain ⟨m, -, hm, rfl⟩ := acceptAs?_length_eq_some_iff.mp h
    have hlow : 0 ≤ m.toInt := Int64.le_iff_toInt_le.mp hm
    have hhigh : m.toInt < 2 ^ 63 := m.toInt_lt
    rw [UInt64.toNat_ofNat']
    omega
  accept?_of_sound := by
    intro n b hb
    have hnat : UInt64.ofNat (b.toNat : Int).toNat = b := by simp
    have hint : (Int64.ofInt b.toNat).toInt = b.toNat :=
      Int64.toInt_ofInt_of_le (by omega) (by omega)
    refine ⟨.int (Int64.ofInt b.toNat), ?_, trivial, ?_⟩
    · have hvalue : (toDatum b).toValue =
          .ok (Value.ofUnsigned (UInt64.ofNat (b.toNat : Int).toNat)) := rfl
      rw [hvalue, hnat, Value.ofUnsigned_of_lt hb]
    · refine acceptAs?_length_eq_some_iff.mpr ⟨_, rfl, ?_, ?_⟩
      · rw [Int64.le_iff_toInt_le, hint]
        exact Int.natCast_nonneg _
      · rw [hint, hnat]

/-- Lengths are not missing. -/
lemma Reading.length_solid : Reading.length.Solid := by
  intro v b h
  obtain ⟨n, hn, -⟩ := acceptAs?_length_eq_some_iff.mp h
  exact not_missing_of_number? hn

/-! ### Floats -/

/-- A float rule without bounds takes every number as a float. -/
lemma check_float_eq_ok_iff {v w : Value} :
    (Rule.float .plain).check [] none v = .ok w ↔
      ∃ x, FloatRule.plain.number? v = some x ∧ w = .float x := by
  simp [Rule.check, FloatRule.check_eq_ok_iff, FloatRule.plain]

/-- A float is accepted from a number. -/
lemma acceptAs?_float_eq_some_iff {v : Value} {x : Binary64} :
    acceptAs? Binary64 [.float .plain] .float true v = some x ↔
      FloatRule.plain.number? v = some x := by
  have hread : ∀ y, readAs? Binary64 .float true (.float y) = some y := fun _ => rfl
  simp only [acceptAs?_eq_some_iff, checkNested_singleton, check_float_eq_ok_iff]
  constructor
  · rintro ⟨_, ⟨y, hy, rfl⟩, hx⟩
    rw [hread y] at hx
    exact hy.trans hx
  · intro h
    exact ⟨.float x, ⟨x, h, rfl⟩, hread x⟩

/-- Floats. -/
def Reading.float : Reading Binary64 where
  chain := [.float .plain]
  target := .float
  convert := true
  Sound _ _ := True
  closed := forall_mem_singleton fun _ _ _ => rfl
  keeps := by
    refine forall_mem_singleton ?_
    rintro v w - h
    obtain ⟨x, -, rfl⟩ := check_float_eq_ok_iff.mp h
    exact nofun
  sound_of_accept? := fun _ _ => trivial
  accept?_of_sound := fun {_ b} _ =>
    ⟨.float b, rfl, trivial, acceptAs?_float_eq_some_iff.mpr rfl⟩

/-- Floats are not missing. -/
lemma Reading.float_solid : Reading.float.Solid := by
  intro v b h
  have hnumber := acceptAs?_float_eq_some_iff.mp h
  cases v with
  | null | string => cases hnumber
  | bool | int | float | bytes | list | map => rfl

/-! ### Texts -/

/-- A text is accepted as it is. -/
lemma acceptAs?_text_eq_some_iff {v : Value} {s : String} :
    acceptAs? String [.anyText] .string false v = some s ↔ v = .string s := by
  cases v with
  | string t =>
    have haccept : acceptAs? String [.anyText] .string false (.string t) = some t := rfl
    simp [haccept]
  | null | bool | int | float | bytes | list | map =>
    simp [acceptAs?, checkNested_singleton, Rule.anyText, Rule.check, TextRule.check,
      Except.toOption]

/-- A rule for texts passes them on unchanged. -/
lemma keepsPresence_anyText : Rule.anyText.KeepsPresence := by
  refine Rule.keepsPresence_of_same fun v w h => ?_
  cases v with
  | string s =>
    cases h
    rfl
  | null | bool | int | float | bytes | list | map => cases h

/-- Texts. -/
def Reading.text : Reading String where
  chain := [.anyText]
  target := .string
  convert := false
  Sound _ _ := True
  closed := forall_mem_singleton fun _ _ _ => rfl
  keeps := forall_mem_singleton keepsPresence_anyText
  sound_of_accept? := fun _ _ => trivial
  accept?_of_sound := fun {_ b} _ => ⟨.string b, rfl, trivial, acceptAs?_text_eq_some_iff.mpr rfl⟩

/-- A text that is given is written as given. -/
lemma Reading.text_keepsGiven : Reading.text.KeepsGiven := by
  intro n v s _ h hmissing
  rw [acceptAs?_text_eq_some_iff.mp h] at hmissing
  exact hmissing

/-- A text passes the rules for texts of patterns if it compiles. -/
lemma checkNested_regexp [PatternEngine] (s : String) :
    Rule.checkNested [.anyText, Builtin.isPattern] [] none (.string s) =
      match Pattern.ofText s with
      | .ok _ => .ok (.string s)
      | .error error => .error (.badPattern error) := by
  have hfirst : Rule.anyText.check [] none (.string s) = .ok (.string s) := rfl
  rw [Rule.checkNested, hfirst]
  dsimp only
  rw [checkNested_singleton]
  rfl

/-- The text of a pattern is accepted as it is. -/
lemma acceptAs?_regexp_eq_some_iff [PatternEngine] {v : Value} {s : String} :
    acceptAs? String [.anyText, Builtin.isPattern] .string false v = some s ↔
      v = .string s ∧ ∃ p, Pattern.ofText s = .ok p := by
  cases v with
  | string t =>
    have hread : readAs? String .string false (.string t) = some t := rfl
    rw [acceptAs?, checkNested_regexp]
    cases hpattern : Pattern.ofText t with
    | ok p =>
      simp only [Except.toOption, Option.bind_some, hread, Option.some.injEq, Value.string.injEq]
      constructor
      · rintro rfl
        exact ⟨rfl, p, hpattern⟩
      · exact And.left
    | error error =>
      simp only [Except.toOption, Option.bind_none, reduceCtorEq, Value.string.injEq, false_iff]
      rintro ⟨rfl, p, hp⟩
      cases hpattern.symm.trans hp
  | null | bool | int | float | bytes | list | map =>
    simp [acceptAs?, Rule.checkNested, Rule.anyText, Rule.check, TextRule.check, Except.toOption]

/-- Texts of patterns. -/
def Reading.regexp [PatternEngine] : Reading String where
  chain := [.anyText, Builtin.isPattern]
  target := .string
  convert := false
  Sound _ s := ∃ p, Pattern.ofText s = .ok p
  closed := List.forall_mem_cons.mpr
    ⟨fun _ _ _ => rfl, forall_mem_singleton fun _ _ _ => rfl⟩
  keeps := by
    rintro r hr
    rcases List.mem_cons.mp hr with rfl | hr
    · exact keepsPresence_anyText
    · obtain rfl := List.mem_singleton.mp hr
      refine Rule.keepsPresence_of_same fun v w h => ?_
      cases v with
      | string s =>
        simp only [Builtin.isPattern, Rule.check, CustomRule.ofValues] at h
        split at h <;> cases h
        rfl
      | null | bool | int | float | bytes | list | map => cases h
  sound_of_accept? := fun _ h => (acceptAs?_regexp_eq_some_iff.mp h).2
  accept?_of_sound := fun {_ b} hb =>
    ⟨.string b, rfl, trivial, acceptAs?_regexp_eq_some_iff.mpr ⟨rfl, hb⟩⟩

/-- The text of a pattern that is given is written as given. -/
lemma Reading.regexp_keepsGiven [PatternEngine] : Reading.regexp.KeepsGiven := by
  intro n v s _ h hmissing
  rw [(acceptAs?_regexp_eq_some_iff.mp h).1] at hmissing
  exact hmissing

/-- A rule that chooses among values passes them on unchanged. -/
lemma check_oneOf_eq_ok {r : OneOfRule} {v w : Value}
    (h : (Rule.oneOf r).check [] none v = .ok w) : w = v := by
  rw [Rule.check, OneOfRule.check] at h
  split_ifs at h
  exact (Except.ok.inj h).symm

/-- One of some names. -/
def Reading.named {β : Type} [DataCodec β] (names : List String) (name : β → String)
    (hdatum : ∀ b, toDatum b = .unitVariant (name b))
    (haccept : ∀ b, acceptAs? β [.oneOf ⟨names.map .string⟩] .string false (.string (name b)) =
      some b) : Reading β where
  chain := [.oneOf ⟨names.map .string⟩]
  target := .string
  convert := false
  Sound _ _ := True
  closed := forall_mem_singleton fun _ _ _ => rfl
  keeps := forall_mem_singleton (Rule.keepsPresence_of_same fun _ _ => check_oneOf_eq_ok)
  sound_of_accept? := fun _ _ => trivial
  accept?_of_sound := fun {_ b} _ => ⟨.string (name b), by rw [hdatum b]; rfl, trivial, haccept b⟩

/-- What is written is a text that names something. -/
lemma Reading.named_keepsGiven {β : Type} [DataCodec β] {names : List String} {name : β → String}
    {hdatum : ∀ b, toDatum b = .unitVariant (name b)}
    {haccept : ∀ b, acceptAs? β [.oneOf ⟨names.map .string⟩] .string false (.string (name b)) =
      some b} (hnames : ∀ b, (name b).isEmpty = false) :
    (Reading.named names name hdatum haccept).KeepsGiven := by
  intro n v b _ _ _
  have hvalue : (Reading.named names name hdatum haccept).value b = .string (name b) := by
    rw [Reading.value, hdatum b]
    rfl
  rw [hvalue]
  exact hnames b

/-! ### Dynamic values -/

/-- A well-formed value is taken from its data. -/
lemma ofDatum?_toDatum {v : Value} (hv : v.WellFormed) :
    (ofDatum? v.toDatum : Option Value) = some v := by
  delta DataCodec.ofDatum? instDataCodecValue
  dsimp only
  rw [v.toValue_toDatum hv]

/-- A well-formed value is read as it is. -/
lemma readAs?_any {v : Value} (hv : v.WellFormed) (convert : Bool) :
    readAs? Value .any convert v = some v :=
  readAs?_eq_some_iff.mpr ⟨v, rfl, v.toDatum, DataType.read_dynamic hv, ofDatum?_toDatum hv⟩

/-- Well-formed values, read behind a chain that passes them on unchanged. -/
def Reading.dynamic (chain : List Rule)
    (hchain : ∀ v, Rule.checkNested chain [] none v = .ok v) (hclosed : ∀ r ∈ chain, r.Closed)
    (hkeeps : ∀ r ∈ chain, r.KeepsPresence) : Reading Value where
  chain := chain
  target := .any
  convert := false
  Sound _ v := v.WellFormed
  closed := hclosed
  keeps := hkeeps
  sound_of_accept? := by
    intro n v b hv h
    obtain ⟨w, hw, hb⟩ := acceptAs?_eq_some_iff.mp h
    obtain rfl : v = w := Except.ok.inj ((hchain v).symm.trans hw)
    rw [readAs?_any hv.wellFormed] at hb
    exact Option.some.inj hb ▸ hv.wellFormed
  accept?_of_sound := fun {_ v} hv => ⟨v, v.toValue_toDatum hv, hv,
    acceptAs?_eq_some_iff.mpr ⟨v, hchain v, readAs?_any hv _⟩⟩

/-- A well-formed value is written as it is. -/
lemma Reading.value_dynamic {chain : List Rule}
    {hchain : ∀ v, Rule.checkNested chain [] none v = .ok v} {hclosed : ∀ r ∈ chain, r.Closed}
    {hkeeps : ∀ r ∈ chain, r.KeepsPresence} {v : Value} (h : v.WellFormed) :
    (Reading.dynamic chain hchain hclosed hkeeps).value v = v := by
  have hdatum : (toDatum v).toValue = .ok v := v.toValue_toDatum h
  rw [Reading.value, hdatum]
  rfl

/-- The rules of the empty chain are closed. -/
lemma closed_nil : ∀ r ∈ ([] : List Rule), r.Closed := by
  simp

/-- Well-formed values. -/
def Reading.any : Reading Value :=
  .dynamic [] (fun _ => rfl) closed_nil (fun _ hr => absurd hr List.not_mem_nil)

/-- Well-formed values behind a rule that takes everything. -/
def Reading.anything : Reading Value :=
  .dynamic [.anything] (fun _ => rfl) (forall_mem_singleton fun _ _ _ => rfl)
    (forall_mem_singleton (Rule.keepsPresence_of_same fun _ _ h => (Except.ok.inj h).symm))

/-- A value that is given is written as given. -/
lemma Reading.anything_keepsGiven : Reading.anything.KeepsGiven := by
  intro n v b hv h hmissing
  obtain ⟨w, hw, hb⟩ := acceptAs?_eq_some_iff.mp h
  obtain rfl : v = w := Except.ok.inj hw
  have hread : readAs? Value .any false v = some b := hb
  rw [readAs?_any hv.wellFormed] at hread
  obtain rfl : v = b := Option.some.inj hread
  have hvalue : Reading.anything.value v = v := Reading.value_dynamic hv.wellFormed
  rw [hvalue]
  exact hmissing

/-- The data of entries, one by one. -/
lemma entryData_eq_map (entries : Dict Value) :
    Value.entryData entries = entries.map fun e => (some (.text e.1), some e.2.toDatum) := by
  induction entries with
  | nil => rfl
  | cons e rest ih =>
    obtain ⟨k, v⟩ := e
    rw [Value.entryData, ih]
    rfl

/-- Well-formed entries are read from their data as they are. -/
lemma entriesOfDatum?_entryData {entries : Dict Value} (h : ∀ e ∈ entries, e.2.WellFormed) :
    entriesOfDatum? (Value.entryData entries) = some entries := by
  induction entries with
  | nil => rfl
  | cons e rest ih =>
    obtain ⟨k, v⟩ := e
    obtain ⟨hv, hrest⟩ := List.forall_mem_cons.mp h
    rw [Value.entryData, entriesOfDatum?, ofDatum?_toDatum hv, ih hrest]

/-- Well-formed entries are read as their data. -/
lemma readEntries_dynamic {entries : Dict Value} (h : ∀ e ∈ entries, e.2.WellFormed) :
    readEntries .text DataType.dynamic.read entries = .ok (Value.entryData entries) := by
  induction entries with
  | nil => rfl
  | cons e rest ih =>
    obtain ⟨k, v⟩ := e
    obtain ⟨hv, hrest⟩ := List.forall_mem_cons.mp h
    have hkey : KeyType.text.read k = .ok (.text k) := rfl
    rw [readEntries, hkey]
    dsimp only
    rw [DataType.read_dynamic hv, ih hrest]
    rfl

/-- Any entries coerce as they are. -/
lemma coerceEntries_any (entries : Dict Value) :
    coerceEntries (Target.any.coerce false) entries = .ok entries := by
  refine coerceEntries_eq_ok_iff.mpr ?_
  rw [List.forall₂_same]
  exact fun _ _ => ⟨rfl, rfl⟩

/-- A map of well-formed values is accepted as its entries. -/
lemma acceptAs?_anyMap {entries : Dict Value} (h : ∀ e ∈ entries, e.2.WellFormed) :
    acceptAs? (Dict Value) [MetaForm.anyMap] (.map .any) false (.map entries) = some entries := by
  refine acceptAs?_eq_some_iff.mpr ⟨.map entries, rfl, readAs?_eq_some_iff.mpr
    ⟨.map entries, ?_, .map (Value.entryData entries), ?_, entriesOfDatum?_entryData h⟩⟩
  · rw [Target.coerce_map, coerceEntries_any]
    rfl
  · exact map_eq_ok_iff.mpr ⟨_, readEntries_dynamic h, rfl⟩

/-- Only maps pass the rule for maps. -/
lemma check_anyMap_eq_ok {v w : Value} (h : MetaForm.anyMap.check [] none v = .ok w) :
    w = v ∧ ∃ entries, v = .map entries := by
  cases v with
  | map entries =>
    cases h
    exact ⟨rfl, entries, rfl⟩
  | null | bool | int | float | string | bytes | list => cases h

/-- Maps of any content, which nest less deep than given. -/
def Reading.anyMap : Reading (Dict Value) where
  chain := [MetaForm.anyMap]
  target := .map .any
  convert := false
  Sound n entries := (Value.map entries).WellFormed ∧ Value.depthOfEntries entries ≤ n
  closed := forall_mem_singleton fun _ _ _ => rfl
  keeps := forall_mem_singleton
    (Rule.keepsPresence_of_same fun _ _ h => (check_anyMap_eq_ok h).1)
  sound_of_accept? := by
    intro n v b hv h
    obtain ⟨w, hw, -⟩ := acceptAs?_eq_some_iff.mp h
    rw [checkNested_singleton] at hw
    obtain ⟨-, entries, rfl⟩ := check_anyMap_eq_ok hw
    rw [acceptAs?_anyMap (Value.wellFormed_map_iff.mp hv.wellFormed).2] at h
    obtain rfl := Option.some.inj h
    exact ⟨hv.wellFormed, Nat.le_trans (Nat.le_succ _) hv.depth_le⟩
  accept?_of_sound := by
    rintro n entries ⟨hwf, -⟩
    have hdatum : toDatum entries = (Value.map entries).toDatum :=
      congrArg Datum.map (entryData_eq_map entries).symm
    have hrestore : (Target.map .any).restore (.map entries) = .map entries := by
      rw [Target.restore]
      exact congrArg Value.map (List.map_id _)
    refine ⟨.map entries, hdatum ▸ (Value.map entries).toValue_toDatum hwf, ?_, ?_⟩
    · rwa [hrestore]
    · rw [hrestore]
      exact acceptAs?_anyMap (Value.wellFormed_map_iff.mp hwf).2

/-- Maps are not missing. -/
lemma Reading.anyMap_solid : Reading.anyMap.Solid := by
  intro v b h
  obtain ⟨w, hw, -⟩ := acceptAs?_eq_some_iff.mp h
  rw [show Reading.anyMap.chain = [MetaForm.anyMap] from rfl, checkNested_singleton] at hw
  obtain ⟨-, entries, rfl⟩ := check_anyMap_eq_ok hw
  rfl

/-! ### Lists and records -/

/-- Lists are not missing. -/
lemma Reading.list_solid {β : Type} [DataCodec β] (R : Reading β) (h : R.convert = false) :
    (R.list h).Solid := by
  intro v b hb
  obtain ⟨items, rfl, -⟩ := acceptAs?_list_eq_some_iff.mp hb
  rfl

/-- Records are not missing. -/
lemma Reading.ofSchema_solid {α : Type} [Record α] (S : Schema α) :
    (Reading.ofSchema S).Solid := by
  intro v b hb
  obtain ⟨entries, rfl, -⟩ := S.acceptAs?_eq_some_iff.mp hb
  rfl

end Intake
