import Intake.Proofs.Form.Lists
import Intake.Proofs.Schema.Agreement

set_option autoImplicit false

/-!
# Readings

A reading takes a raw value to an element: rules check it, a target coerces it, and the codec of the
element reads it. Readings of lists and records are made of the readings of their parts.

## Main definitions

* `acceptAs?` — a raw value as an element.
* `Reading` — rules and a target for elements, with their laws.
* `Reading.list`, `Reading.ofSchema` — readings of lists and of records.
-/

namespace Intake

/-- A raw value as an element of a type: rules check it, and the result is coerced and read. -/
def acceptAs? (β : Type) [DataCodec β] (chain : List Rule) (target : Target) (convert : Bool)
    (v : Value) : Option β :=
  (Rule.checkNested chain [] none v).toOption.bind (readAs? β target convert)

/-- A raw value becomes an element when the rules pass it and the result becomes one. -/
lemma acceptAs?_eq_some_iff {β : Type} [DataCodec β] {chain : List Rule} {target : Target}
    {convert : Bool} {v : Value} {b : β} :
    acceptAs? β chain target convert v = some b ↔
      ∃ w, Rule.checkNested chain [] none v = .ok w ∧ readAs? β target convert w = some b := by
  simp [acceptAs?, Option.bind_eq_some_iff, toOption_eq_some_iff]

/-- A rule takes no value that is there to null. -/
def Rule.KeepsPresence (r : Rule) : Prop :=
  ∀ v w, v ≠ .null → r.check [] none v = .ok w → w ≠ .null

/-- Rules and a target for elements of a type, with their laws: what is accepted is sound, and what
is sound is written so that it is accepted. -/
structure Reading (β : Type) [DataCodec β] where
  chain : List Rule
  target : Target
  convert : Bool
  Sound : Nat → β → Prop
  closed : ∀ r ∈ chain, r.Closed
  keeps : ∀ r ∈ chain, r.KeepsPresence
  sound_of_accept? : ∀ {n : Nat} {v : Value} {b : β}, v.Fits n →
    acceptAs? β chain target convert v = some b → Sound n b
  accept?_of_sound : ∀ {n : Nat} {b : β}, Sound n b → ∃ w, (toDatum b).toValue = .ok w ∧
    (target.restore w).WellFormed ∧ acceptAs? β chain target convert (target.restore w) = some b

namespace Reading

variable {β : Type} [DataCodec β]

/-- The element that a raw value becomes. -/
def accept? (R : Reading β) (v : Value) : Option β := acceptAs? β R.chain R.target R.convert v

/-- The value that an element is written as. -/
def value (R : Reading β) (b : β) : Value :=
  R.target.restore ((toDatum b).toValue.toOption.getD .null)

/-- A sound element is accepted from what is written. -/
lemma value_of_sound (R : Reading β) {n : Nat} {b : β} (h : R.Sound n b) :
    (toDatum b).toValue = .ok ((toDatum b).toValue.toOption.getD .null) ∧
      (R.value b).WellFormed ∧ R.accept? (R.value b) = some b := by
  obtain ⟨w, hw, hwf, haccept⟩ := R.accept?_of_sound h
  rw [value, hw]
  exact ⟨rfl, hwf, haccept⟩

end Reading

/-! ### Lists -/

/-- Data are taken as elements one by one. -/
lemma eachOfDatum?_eq_some_iff {β : Type} [DataCodec β] {ds : List Datum} {bs : List β} :
    eachOfDatum? ds = some bs ↔ List.Forall₂ (fun d b => ofDatum? d = some b) ds bs := by
  induction ds generalizing bs with
  | nil => simp [eachOfDatum?, eq_comm]
  | cons d rest ih =>
    rw [eachOfDatum?, List.forall₂_cons_left_iff]
    cases hd : (ofDatum? d : Option β) with
    | none => simp
    | some b =>
      simp only [Option.some.injEq, exists_and_left, exists_eq_left', ← ih]
      cases (eachOfDatum? rest : Option (List β)) <;> simp [eq_comm]

/-- A list whose items have values is written item by item. -/
lemma toValue_list {β : Type} [DataCodec β] {bs : List β} {f : β → Value}
    (h : ∀ b ∈ bs, (toDatum b).toValue = .ok (f b)) :
    (toDatum bs).toValue = .ok (.list (bs.map f)) := by
  refine map_eq_ok_iff.mpr ⟨bs.map f, itemValues_eq_ok_iff.mpr ?_, rfl⟩
  rw [List.forall₂_map_left_iff, List.forall₂_map_right_iff, List.forall₂_same]
  exact h

/-- A list is restored item by item. -/
lemma restore_list {β : Type} (t : Target) (bs : List β) (f : β → Value) :
    (Target.list t).restore (.list (bs.map f)) = .list (bs.map fun b => t.restore (f b)) := by
  rw [Target.restore, List.map_map]
  rfl

section List

variable {β : Type} [DataCodec β]

/-- A list is coerced and read item by item. -/
lemma readAs?_list_eq_some_iff {target : Target} {convert : Bool} {ws : List Value}
    {bs : List β} :
    readAs? (List β) (.list target) convert (.list ws) = some bs ↔
      List.Forall₂ (fun w b => readAs? β target false w = some b) ws bs := by
  have htype : DataCodec.dataType (List β) = .list (DataCodec.dataType β) := rfl
  simp only [readAs?_eq_some_iff, forall₂_comp_iff, htype]
  constructor
  · rintro ⟨w, hw, d, hd, hbs⟩
    obtain ⟨ws', xs, ⟨⟩, rfl, hxs⟩ := coerce_list_eq_ok_iff.mp hw
    obtain ⟨ds, hds, rfl⟩ := map_eq_ok_iff.mp hd
    exact ⟨xs, hxs, ds, readEach_eq_ok_iff.mp hds,
      eachOfDatum?_eq_some_iff.mp hbs⟩
  · rintro ⟨xs, hxs, ds, hds, hbs⟩
    exact ⟨_, coerce_list_eq_ok_iff.mpr ⟨ws, xs, rfl, rfl, hxs⟩, _,
      map_eq_ok_iff.mpr ⟨ds, readEach_eq_ok_iff.mpr hds, rfl⟩,
      eachOfDatum?_eq_some_iff.mpr hbs⟩

/-- A list is accepted item by item. -/
lemma acceptAs?_list_eq_some_iff {chain : List Rule} {target : Target} {convert : Bool} {v : Value}
    {bs : List β} :
    acceptAs? (List β) [.list chain] (.list target) convert v = some bs ↔
      ∃ items, v = .list items ∧
        List.Forall₂ (fun v b => acceptAs? β chain target false v = some b) items bs := by
  simp only [acceptAs?_eq_some_iff, checkNested_singleton, check_list_eq_ok_iff, forall₂_comp_iff]
  constructor
  · rintro ⟨w, ⟨items, ws, rfl, rfl, hws⟩, hread⟩
    exact ⟨items, rfl, ws, hws, readAs?_list_eq_some_iff.mp hread⟩
  · rintro ⟨items, rfl, ws, hws, hread⟩
    exact ⟨.list ws, ⟨items, ws, rfl, rfl, hws⟩, readAs?_list_eq_some_iff.mpr hread⟩

/-- A list rule takes nothing to null. -/
lemma keepsPresence_list (chain : List Rule) : (Rule.list chain).KeepsPresence := by
  rintro v w - h
  obtain ⟨items, ws, -, rfl, -⟩ := check_list_eq_ok_iff.mp h
  exact nofun

/-- Lists of elements that a reading takes. -/
def Reading.list (R : Reading β) (hconvert : R.convert = false) : Reading (List β) where
  chain := [.list R.chain]
  target := .list R.target
  convert := false
  Sound n bs := ∀ b ∈ bs, R.Sound n b
  closed := by
    rintro r hr
    obtain rfl := List.mem_singleton.mp hr
    exact Rule.Closed.list R.closed
  keeps := by
    rintro r hr
    obtain rfl := List.mem_singleton.mp hr
    exact keepsPresence_list R.chain
  sound_of_accept? := by
    intro n v bs hv h b hb
    obtain ⟨items, rfl, hitems⟩ := acceptAs?_list_eq_some_iff.mp h
    obtain ⟨w, hw, haccept⟩ := exists_mem_of_forall₂ hitems hb
    exact R.sound_of_accept? (hv.of_mem_list hw) (hconvert ▸ haccept)
  accept?_of_sound := by
    intro n bs h
    have hitems : List.Forall₂ (fun v b => acceptAs? β R.chain R.target false v = some b)
        (bs.map R.value) bs := by
      rw [List.forall₂_map_left_iff, List.forall₂_same]
      exact fun b hb => hconvert ▸ (R.value_of_sound (h b hb)).2.2
    refine ⟨_, toValue_list fun b hb => (R.value_of_sound (h b hb)).1, ?_, ?_⟩
    · rw [restore_list, Value.wellFormed_list_iff, List.forall_mem_map]
      exact fun b hb => (R.value_of_sound (h b hb)).2.1
    · rw [restore_list]
      exact acceptAs?_list_eq_some_iff.mpr ⟨_, rfl, hitems⟩

end List

/-! ### Records -/

/-- A map that passes a closed form is a map of entries that the form passes. -/
lemma check_ofForm_eq_ok_iff {form : Form} (hform : form.Closed) {v w : Value} :
    (Rule.ofForm form).check [] none v = .ok w ↔
      ∃ entries checked, v = .map entries ∧ w = .map checked ∧
        form.validate entries = .ok checked := by
  cases v with
  | map entries =>
    rw [Rule.ofForm, Rule.check, Rule.runInner, hform, ← Form.validate]
    constructor
    · intro h
      split at h
      · cases h
      · next checked hchecked =>
        cases h
        exact ⟨entries, checked, rfl, rfl, hchecked⟩
    · rintro ⟨_, checked, hentries, rfl, hchecked⟩
      cases hentries
      rw [hchecked]
      rfl
  | null | bool | int | float | string | bytes | list => simp [Rule.ofForm, Rule.check]

/-- A rule for maps that pass a form takes nothing to null. -/
lemma keepsPresence_ofForm {form : Form} (hform : form.Closed) :
    (Rule.ofForm form).KeepsPresence := by
  rintro v w - h
  obtain ⟨entries, checked, -, rfl, -⟩ := (check_ofForm_eq_ok_iff hform).mp h
  exact nofun

section Record

variable {α : Type} [Record α]

/-- The form of a schema is closed. -/
lemma Schema.closed (S : Schema α) : S.form.Closed := Form.closed_of_chains S.fieldwise.closed

/-- A map is read as a record when it becomes one. -/
lemma readAs?_record_eq_some_iff {convert : Bool} {source : Dict Value} {a : α} :
    readAs? α (.record (Record.shape α)) convert (.map source) = some a ↔
      (Record.coerce (.map source) : Except CoerceError α) = .ok a := by
  have hcoerce : ∀ w, (Target.record (Record.shape α)).coerce convert (.map source) = .ok w ↔
      ∃ n, (Record.shape α).coerceInto source [] = .ok n ∧ Value.map n = w :=
    fun w => by rw [Target.coerce_record, map_eq_ok_iff]
  simp only [readAs?_eq_some_iff, Record.coerce_map_eq_ok_iff, hcoerce]
  constructor
  · rintro ⟨_, ⟨n, hn, rfl⟩, hdata⟩
    exact ⟨n, hn, hdata⟩
  · rintro ⟨n, hn, hdata⟩
    exact ⟨_, ⟨n, hn, rfl⟩, hdata⟩

/-- A record is accepted when its schema reads it. -/
lemma Schema.acceptAs?_eq_some_iff (S : Schema α) {convert : Bool} {v : Value} {a : α} :
    acceptAs? α [.ofForm S.form] (.record (Record.shape α)) convert v = some a ↔
      ∃ entries, v = .map entries ∧ S.read? entries = some a := by
  simp only [Intake.acceptAs?_eq_some_iff, checkNested_singleton, check_ofForm_eq_ok_iff S.closed,
    S.read?_eq_some_iff]
  constructor
  · rintro ⟨_, ⟨entries, checked, rfl, rfl, hchecked⟩, ha⟩
    exact ⟨entries, rfl, checked, hchecked, readAs?_record_eq_some_iff.mp ha⟩
  · rintro ⟨entries, rfl, checked, hchecked, ha⟩
    exact ⟨_, ⟨entries, checked, rfl, rfl, hchecked⟩, readAs?_record_eq_some_iff.mpr ha⟩

/-- Records that a schema reads from maps, whose entries nest less deep than the maps. -/
def Reading.ofSchema (S : Schema α) : Reading α where
  chain := [.ofForm S.form]
  target := .record (Record.shape α)
  convert := false
  Sound n a := ∃ k < n, S.Sound k a
  closed := by
    rintro r hr
    obtain rfl := List.mem_singleton.mp hr
    exact Rule.Closed.ofForm S.closed
  keeps := by
    rintro r hr
    obtain rfl := List.mem_singleton.mp hr
    exact keepsPresence_ofForm S.closed
  sound_of_accept? := by
    intro n v a hv h
    obtain ⟨entries, rfl, ha⟩ := S.acceptAs?_eq_some_iff.mp h
    exact ⟨Value.depthOfEntries entries, hv.depth_le,
      S.sound_of_read? hv.wellFormed (Nat.le_refl _) ha⟩
  accept?_of_sound := by
    rintro n a ⟨k, -, h⟩
    obtain ⟨record, restored, hvalue, hrestore, hwf, hread⟩ := S.exists_restored h
    have hrestore : (Target.record (Record.shape α)).restore (.map record) = .map restored :=
      hrestore
    refine ⟨_, hvalue, hrestore ▸ hwf, ?_⟩
    rw [hrestore]
    exact S.acceptAs?_eq_some_iff.mpr ⟨restored, rfl, hread⟩

end Record

end Intake
