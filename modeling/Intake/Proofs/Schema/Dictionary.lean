import Intake.Proofs.Schema.Policy

set_option autoImplicit false

/-!
# Dictionaries of readings

A dictionary is read through a form of one wildcard: the same rule checks the value under every
key, and the keys stay.

## Main definitions

* `Reading.dictionary` — dictionaries of elements that a reading takes.

## Main results

* `acceptAs?_dictionary_eq_some_iff` — a dictionary is accepted entry by entry.
-/

namespace Intake

/-! ### Entry by entry -/

section Dictionary

variable {β : Type} [DataCodec β]

/-- Data under text keys are taken as elements one by one. -/
lemma entriesOfDatum?_eq_some_iff {es : Dict Datum} {bs : Dict β} :
    entriesOfDatum? (keyedData es) = some bs ↔
      List.Forall₂ (fun x b => b.1 = x.1 ∧ ofDatum? x.2 = some b.2) es bs := by
  induction es generalizing bs with
  | nil => simp [entriesOfDatum?, keyedData, eq_comm]
  | cons e rest ih =>
    obtain ⟨k, d⟩ := e
    have hcons : keyedData ((k, d) :: rest) = (some (.text k), some d) :: keyedData rest := rfl
    rw [hcons, entriesOfDatum?, List.forall₂_cons_left_iff]
    cases hd : (ofDatum? d : Option β) with
    | none => simp
    | some b =>
      simp only [Option.some.injEq, Prod.exists, ← ih]
      cases hrest : (entriesOfDatum? (keyedData rest) : Option (Dict β)) with
      | none => simp
      | some cs =>
        constructor
        · intro h
          exact ⟨k, b, cs, ⟨rfl, rfl⟩, rfl, (Option.some.inj h).symm⟩
        · rintro ⟨_, _, _, ⟨rfl, rfl⟩, hcs, rfl⟩
          rw [Option.some.inj hcs]

/-- A dictionary is coerced and read entry by entry. -/
lemma readAs?_dictionary_eq_some_iff {target : Target} {convert : Bool} {ws : Dict Value}
    {bs : Dict β} :
    readAs? (Dict β) (.map target) convert (.map ws) = some bs ↔
      List.Forall₂ (fun e b => b.1 = e.1 ∧ readAs? β target false e.2 = some b.2) ws bs := by
  have htype : DataCodec.dataType (Dict β) = .map .text (DataCodec.dataType β) := rfl
  have hentry : ∀ (e : String × Value) (b : String × β),
      (b.1 = e.1 ∧ readAs? β target false e.2 = some b.2) ↔
        ∃ e' : String × Value, (e'.1 = e.1 ∧ target.coerce false e.2 = .ok e'.2) ∧
          ∃ x : String × Datum, (x.1 = e'.1 ∧ (DataCodec.dataType β).read e'.2 = .ok x.2) ∧
            b.1 = x.1 ∧ ofDatum? x.2 = some b.2 := by
    intro e b
    rw [readAs?_eq_some_iff]
    constructor
    · rintro ⟨hkey, w, hw, d, hd, hb⟩
      exact ⟨(e.1, w), ⟨rfl, hw⟩, (e.1, d), ⟨rfl, hd⟩, hkey, hb⟩
    · rintro ⟨e', ⟨hkey, hw⟩, x, ⟨hkey', hx⟩, hkey'', hb⟩
      exact ⟨by rw [hkey'', hkey', hkey], e'.2, hw, x.2, hx, hb⟩
  simp only [hentry, forall₂_comp_iff]
  rw [readAs?_eq_some_iff, htype]
  constructor
  · rintro ⟨w, hw, d, hd, hbs⟩
    obtain ⟨ws', xs, ⟨⟩, rfl, hxs⟩ := coerce_map_eq_ok_iff.mp hw
    obtain ⟨ds, hds, rfl⟩ := map_eq_ok_iff.mp hd
    obtain ⟨es, hes, rfl⟩ := readEntries_eq_ok_iff.mp hds
    exact ⟨xs, hxs, es, hes, entriesOfDatum?_eq_some_iff.mp hbs⟩
  · rintro ⟨xs, hxs, es, hes, hbs⟩
    exact ⟨_, coerce_map_eq_ok_iff.mpr ⟨ws, xs, rfl, rfl, hxs⟩, _,
      map_eq_ok_iff.mpr ⟨_, readEntries_eq_ok_iff.mpr ⟨es, hes, rfl⟩, rfl⟩,
      entriesOfDatum?_eq_some_iff.mpr hbs⟩

/-! ### Wildcards -/

/-- A rule that gives no null leaves what it gives. -/
lemma settle?_singleton {r : Rule} (h : ∀ v w, r.check [] none v = .ok w → w ≠ .null)
    (v : Value) : settle? [r] none v = (r.check [] none v).toOption.map some := by
  rw [settle?]
  cases hw : r.check [] none v with
  | error e => rfl
  | ok w =>
    have hnull : w.isNull = false := by
      cases w with
      | null => exact absurd rfl (h v _ hw)
      | bool | int | float | string | bytes | list | map => rfl
    dsimp only
    rw [if_neg (by simp [hnull])]
    rfl

/-- A map passes a wildcard entry by entry. -/
lemma validate_wildcard_eq_ok_iff {r : Rule} (hclosed : r.Closed)
    (h : ∀ v w, r.check [] none v = .ok w → w ≠ .null) {entries checked : Dict Value}
    (hentries : entries.Distinct) :
    (Form.new [.wildcard [r]]).validate entries = .ok checked ↔
      List.Forall₂ (fun e w => w.1 = e.1 ∧ r.check [] none e.2 = .ok w.2) entries checked := by
  rw [Form.validate_wildcard_eq_ok_iff (by simp)
    (fun r' hr' => List.mem_singleton.mp hr' ▸ hclosed) hentries]
  have hjoin : ∀ v, (settle? [r] none v).join = (r.check [] none v).toOption := by
    intro v
    rw [settle?_singleton h]
    cases r.check [] none v <;> rfl
  have hsome : ∀ v, (∃ s, settle? [r] none v = some s) ↔
      ∃ w, (r.check [] none v).toOption = some w := by
    intro v
    rw [settle?_singleton h]
    cases r.check [] none v <;> simp [Except.toOption]
  simp only [hjoin, hsome]
  rw [Dict.gather_of_forall_iff]
  simp only [toOption_eq_some_iff]

/-- A form of one wildcard is closed when its rule is. -/
lemma closed_wildcard {r : Rule} (hclosed : r.Closed) : (Form.new [.wildcard [r]]).Closed := by
  refine Form.closed_of_chains fun f hf r' hr' => ?_
  obtain rfl := List.mem_singleton.mp hf
  obtain rfl := List.mem_singleton.mp hr'
  exact hclosed

/-- A dictionary is accepted entry by entry. -/
theorem acceptAs?_dictionary_eq_some_iff {r : Rule} (hclosed : r.Closed)
    (h : ∀ v w, r.check [] none v = .ok w → w ≠ .null) {target : Target} {convert : Bool}
    {v : Value} (hv : v.WellFormed) {bs : Dict β} :
    acceptAs? (Dict β) [.ofForm (.new [.wildcard [r]])] (.map target) convert v = some bs ↔
      ∃ entries, v = .map entries ∧ List.Forall₂
        (fun e b => b.1 = e.1 ∧ acceptAs? β [r] target false e.2 = some b.2) entries bs := by
  have hentry : ∀ (e : String × Value) (b : String × β),
      (b.1 = e.1 ∧ acceptAs? β [r] target false e.2 = some b.2) ↔
        ∃ w : String × Value, (w.1 = e.1 ∧ r.check [] none e.2 = .ok w.2) ∧
          b.1 = w.1 ∧ readAs? β target false w.2 = some b.2 := by
    intro e b
    rw [acceptAs?_eq_some_iff]
    simp only [checkNested_singleton]
    constructor
    · rintro ⟨hkey, w, hw, hb⟩
      exact ⟨(e.1, w), ⟨rfl, hw⟩, hkey, hb⟩
    · rintro ⟨w, ⟨hkey, hw⟩, hkey', hb⟩
      exact ⟨hkey'.trans hkey, w.2, hw, hb⟩
  simp only [hentry, forall₂_comp_iff]
  simp only [acceptAs?_eq_some_iff, checkNested_singleton,
    check_ofForm_eq_ok_iff (closed_wildcard hclosed)]
  constructor
  · rintro ⟨_, ⟨entries, checked, rfl, rfl, hchecked⟩, hread⟩
    have hdistinct := (Value.wellFormed_map_iff.mp hv).1
    exact ⟨entries, rfl, checked, (validate_wildcard_eq_ok_iff hclosed h hdistinct).mp hchecked,
      readAs?_dictionary_eq_some_iff.mp hread⟩
  · rintro ⟨entries, rfl, checked, hchecked, hread⟩
    have hdistinct := (Value.wellFormed_map_iff.mp hv).1
    exact ⟨.map checked, ⟨entries, checked, rfl, rfl,
      (validate_wildcard_eq_ok_iff hclosed h hdistinct).mpr hchecked⟩,
      readAs?_dictionary_eq_some_iff.mpr hread⟩

/-- Entries with new and distinct keys that have values are written one by one. -/
lemma entryValues_of_values {entries : Dict β} {f : β → Value}
    (h : ∀ e ∈ entries, (toDatum e.2).toValue = .ok (f e.2)) (hentries : entries.Distinct)
    {done : Dict Value} (hnew : ∀ key ∈ Dict.keys entries, key ∉ done.keys) :
    Datum.entryValues (entries.map fun e => (some (.text e.1), some (toDatum e.2))) none done =
      .ok (done ++ entries.map fun e => (e.1, f e.2)) := by
  induction entries generalizing done with
  | nil => simp [Datum.entryValues]
  | cons e rest ih =>
    obtain ⟨k, b⟩ := e
    obtain ⟨hb, h⟩ := List.forall_mem_cons.mp h
    obtain ⟨hk, hentries⟩ := List.nodup_cons.mp hentries
    obtain ⟨hfresh, hnew⟩ := List.forall_mem_cons.mp hnew
    have hnext : ∀ key ∈ Dict.keys rest, key ∉ (done.insert k (f b)).keys := by
      intro key hkey hmem
      rcases Dict.mem_keys_insert.mp hmem with rfl | hin
      · exact hk hkey
      · exact hnew key hkey hin
    have hkey : Datum.keyText? (some (.text k)) = .ok (some k) := rfl
    rw [List.map_cons, Datum.entryValues, hkey]
    dsimp only [Datum.valueAt?, Option.or]
    rw [hb]
    dsimp only
    rw [ih h hentries hnext, Dict.insert_of_notMem _ hfresh, List.append_assoc]
    rfl

/-- A dictionary whose elements have values is written entry by entry. -/
lemma toValue_dictionary {bs : Dict β} {f : β → Value} (hbs : bs.Distinct)
    (h : ∀ e ∈ bs, (toDatum e.2).toValue = .ok (f e.2)) :
    (toDatum bs).toValue = .ok (.map (bs.map fun e => (e.1, f e.2))) := by
  have hnew : ∀ key ∈ Dict.keys bs, key ∉ Dict.keys ([] : Dict Value) :=
    fun _ _ => List.not_mem_nil
  exact map_eq_ok_iff.mpr ⟨_, entryValues_of_values h hbs hnew, rfl⟩

omit [DataCodec β] in
/-- A map is restored entry by entry. -/
lemma restore_map (t : Target) (bs : Dict β) (f : β → Value) :
    (Target.map t).restore (.map (bs.map fun e => (e.1, f e.2))) =
      .map (bs.map fun e => (e.1, t.restore (f e.2))) := by
  rw [Target.restore, List.map_map]
  rfl

omit [DataCodec β] in
/-- A map of distinct keys is well formed when the values of its entries are. -/
lemma wellFormed_map_of_entries {bs : Dict β} {f : β → Value} (hbs : bs.Distinct)
    (h : ∀ e ∈ bs, (f e.2).WellFormed) :
    (Value.map (bs.map fun e => (e.1, f e.2))).WellFormed := by
  refine Value.wellFormed_map_iff.mpr ⟨?_, List.forall_mem_map.mpr h⟩
  rw [Dict.Distinct, Dict.keys_map]
  exact hbs

/-- Dictionaries of elements that a reading takes. -/
def Reading.dictionary (R : Reading β) (r : Rule) (hchain : R.chain = [r])
    (hconvert : R.convert = false) (hrule : ∀ v w, r.check [] none v = .ok w → w ≠ .null) :
    Reading (Dict β) where
  chain := [.ofForm (.new [.wildcard [r]])]
  target := .map R.target
  convert := false
  Sound n bs := bs.Distinct ∧ ∀ b ∈ bs, R.Sound n b.2
  closed := by
    rintro r' hr
    obtain rfl := List.mem_singleton.mp hr
    exact Rule.Closed.ofForm (closed_wildcard (R.closed r (hchain ▸ List.mem_singleton_self r)))
  keeps := by
    rintro r' hr
    obtain rfl := List.mem_singleton.mp hr
    exact keepsPresence_ofForm (closed_wildcard (R.closed r (hchain ▸ List.mem_singleton_self r)))
  sound_of_accept? := by
    intro n v bs hv h
    have hclosed := R.closed r (hchain ▸ List.mem_singleton_self r)
    obtain ⟨entries, rfl, hentries⟩ :=
      (acceptAs?_dictionary_eq_some_iff hclosed hrule hv.wellFormed).mp h
    have hkeys : bs.keys = Dict.keys entries :=
      Dict.keys_eq_of_forall₂ (fun _ _ => And.left) hentries
    refine ⟨?_, fun b hb => ?_⟩
    · rw [Dict.Distinct, hkeys]
      exact (Value.wellFormed_map_iff.mp hv.wellFormed).1
    · obtain ⟨e, he, -, haccept⟩ := exists_mem_of_forall₂ hentries hb
      exact R.sound_of_accept? (hv.of_mem_map he) (hchain ▸ hconvert ▸ haccept)
  accept?_of_sound := by
    rintro n bs ⟨hdistinct, h⟩
    have hclosed := R.closed r (hchain ▸ List.mem_singleton_self r)
    have hwf : (Value.map (bs.map fun b => (b.1, R.value b.2))).WellFormed :=
      wellFormed_map_of_entries hdistinct fun b hb => (R.value_of_sound (h b hb)).2.1
    have hrestore : (Target.map R.target).restore
        (.map (bs.map fun b => (b.1, (toDatum b.2).toValue.toOption.getD .null))) =
          .map (bs.map fun b => (b.1, R.value b.2)) :=
      restore_map R.target bs fun b => (toDatum b).toValue.toOption.getD .null
    refine ⟨_, toValue_dictionary (f := fun b => (toDatum b).toValue.toOption.getD .null)
      hdistinct fun b hb => (R.value_of_sound (h b hb)).1, ?_, ?_⟩
    · rw [hrestore]
      exact hwf
    · rw [hrestore]
      refine (acceptAs?_dictionary_eq_some_iff hclosed hrule hwf).mpr ⟨_, rfl, ?_⟩
      rw [List.forall₂_map_left_iff, List.forall₂_same]
      exact fun b hb => ⟨rfl, hchain ▸ hconvert ▸ (R.value_of_sound (h b hb)).2.2⟩

section NotMissing

variable {R : Reading β} {r : Rule} {hchain : R.chain = [r]} {hconvert : R.convert = false}
  {hrule : ∀ v w, r.check [] none v = .ok w → w ≠ .null}

/-- Dictionaries are not missing. -/
lemma Reading.dictionary_not_missing {n : Nat} {bs : Dict β}
    (h : (R.dictionary r hchain hconvert hrule).Sound n bs) :
    OptionalRule.isMissing ((R.dictionary r hchain hconvert hrule).value bs) = false := by
  have hclosed := R.closed r (hchain ▸ List.mem_singleton_self r)
  obtain ⟨-, hwf, haccept⟩ := Reading.value_of_sound _ h
  obtain ⟨entries, heq, -⟩ := (acceptAs?_dictionary_eq_some_iff hclosed hrule hwf).mp haccept
  rw [heq]
  rfl

/-- Dictionaries that are given are not written as missing. -/
lemma Reading.dictionary_keepsGiven : (R.dictionary r hchain hconvert hrule).KeepsGiven :=
  fun _ _ _ hv h _ => dictionary_not_missing (Reading.sound_of_accept? _ hv h)

end NotMissing

end Dictionary

end Intake
