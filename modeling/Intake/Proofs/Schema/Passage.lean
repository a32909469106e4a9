import Intake.Proofs.Schema.Descriptions

set_option autoImplicit false

/-!
# Parameters on their way from a writer to a reader

What is written need not be read as it was: it may be printed in between, and what the reader takes
may be another element than the one that was written. An element is carried to another one when it
is written and the other one is read from what comes through.

## Main definitions

* `Passage` — a way for values, on which floats and bytes may change.
* `Reading.Carries`, `Parameter.Carries`, `Schema.Carries` — elements that are carried to others.

## Main results

* `Parameter.carries_of_sound` — a sound element is carried to itself if its value comes through.
* `Schema.Carries.exists_restore` — a record is carried to another one when its parameters are.
-/

namespace Intake

/-! ### Passages -/

/-- A way for values from a writer to a reader. Bytes may change on it, and a float that is not
finite may become null. -/
structure Passage where
  through : Value → Value
  null : through .null = .null
  bool : ∀ b, through (.bool b) = .bool b
  int : ∀ n, through (.int n) = .int n
  float : ∀ x, through (.float x) = .float x ∨ x.isFinite = false ∧ through (.float x) = .null
  string : ∀ s, through (.string s) = .string s
  list : ∀ items, through (.list items) = .list (items.map through)
  map : ∀ entries, through (.map entries) = .map (entries.map fun e => (e.1, through e.2))
  wellFormed : ∀ {v : Value}, v.WellFormed → (through v).WellFormed

namespace Passage

/-- The way on which nothing changes. -/
def direct : Passage where
  through v := v
  null := rfl
  bool _ := rfl
  int _ := rfl
  float _ := .inl rfl
  string _ := rfl
  list _ := congrArg Value.list (List.map_id _).symm
  map _ := congrArg Value.map (List.map_id _).symm
  wellFormed h := h

variable (P : Passage)

/-- A value comes through as it is. -/
def Keeps (v : Value) : Prop := P.through v = v

@[simp] lemma keeps_bool (b : Bool) : P.Keeps (.bool b) := P.bool b

@[simp] lemma keeps_int (n : Int64) : P.Keeps (.int n) := P.int n

@[simp] lemma keeps_string (s : String) : P.Keeps (.string s) := P.string s

/-- The entries of a map, with the values that come through. -/
def entries (es : Dict Value) : Dict Value := es.map fun e => (e.1, P.through e.2)

/-- Entries stay as they are where nothing changes. -/
lemma entries_direct (es : Dict Value) : direct.entries es = es := List.map_id' es

/-- The keys stay. -/
lemma keys_entries (es : Dict Value) : (P.entries es).keys = es.keys := Dict.keys_map _ es

/-- Under every key stands what comes through. -/
lemma find?_entries (es : Dict Value) (key : String) :
    ((P.entries es).find? key).getD .null = P.through ((es.find? key).getD .null) := by
  induction es with
  | nil => exact P.null.symm
  | cons e rest ih =>
    obtain ⟨k, v⟩ := e
    have hcons : P.entries ((k, v) :: rest) = (k, P.through v) :: P.entries rest := rfl
    rw [hcons, Dict.find?, Dict.find?]
    split_ifs
    · rfl
    · exact ih

end Passage

variable {P : Passage}

/-! ### Readings -/

section Reading

variable {β : Type} [DataCodec β]

/-- An element is written as a well-formed value, and another one is accepted from what comes
through. -/
structure Reading.Carries (P : Passage) (R : Reading β) (b b' : β) : Prop where
  written : (toDatum b).toValue = .ok ((toDatum b).toValue.toOption.getD .null)
  wellFormed : (R.value b).WellFormed
  accepted : R.accept? (P.through (R.value b)) = some b'

namespace Reading

variable {R : Reading β} {b b' : β}

/-- A sound element is carried to itself if its value comes through. -/
lemma carries_of_sound {n : Nat} (h : R.Sound n b) (hkeeps : P.Keeps (R.value b)) :
    R.Carries P b b := by
  obtain ⟨hwritten, hwf, haccept⟩ := R.value_of_sound h
  exact ⟨hwritten, hwf, hkeeps.symm ▸ haccept⟩

/-- What is carried by a reading that takes no missing value comes through as a value that is
there. -/
lemma Carries.not_missing (h : R.Carries P b b') (hR : R.Solid) :
    OptionalRule.isMissing (P.through (R.value b)) = false :=
  hR _ b' h.accepted

/-- Lists are carried item by item. -/
lemma carries_list {hconvert : R.convert = false} {bs bs' : List β}
    (h : List.Forall₂ (R.Carries P) bs bs') : (R.list hconvert).Carries P bs bs' := by
  have hall : ∀ b ∈ bs, ∃ b', R.Carries P b b' := fun b hb =>
    (exists_of_mem_forall₂ h hb).imp fun _ hb' => hb'.2
  have hdatum : (toDatum bs).toValue =
      .ok (.list (bs.map fun b => (toDatum b).toValue.toOption.getD .null)) :=
    toValue_list fun b hb => (hall b hb).elim fun _ hb' => hb'.written
  have hvalue : (R.list hconvert).value bs = .list (bs.map R.value) := by
    rw [value, hdatum]
    exact restore_list R.target bs _
  refine ⟨?_, ?_, ?_⟩
  · rw [hdatum]
    rfl
  · rw [hvalue, Value.wellFormed_list_iff, List.forall_mem_map]
    exact fun b hb => (hall b hb).elim fun _ hb' => hb'.wellFormed
  · rw [hvalue, P.list]
    refine acceptAs?_list_eq_some_iff.mpr ⟨_, rfl, ?_⟩
    rw [List.forall₂_map_left_iff, List.forall₂_map_left_iff]
    exact h.imp fun b b' hb => hconvert ▸ hb.accepted

/-- The value of a map of any content is the map. -/
lemma value_anyMap {entries : Dict Value} (h : (Value.map entries).WellFormed) :
    (toDatum entries).toValue = .ok (.map entries) ∧
      Reading.anyMap.value entries = .map entries := by
  have hdatum : toDatum entries = (Value.map entries).toDatum :=
    congrArg Datum.map (entryData_eq_map entries).symm
  have hvalue : (toDatum entries).toValue = .ok (.map entries) :=
    hdatum ▸ (Value.map entries).toValue_toDatum h
  refine ⟨hvalue, ?_⟩
  rw [value, hvalue]
  exact congrArg Value.map (List.map_id _)

/-- Maps of any content are carried to what comes through. -/
lemma carries_anyMap {entries : Dict Value} (h : (Value.map entries).WellFormed) :
    Reading.anyMap.Carries P entries (P.entries entries) := by
  obtain ⟨hdatum, hvalue⟩ := value_anyMap h
  have hthrough : (Value.map (P.entries entries)).WellFormed := P.map entries ▸ P.wellFormed h
  refine ⟨?_, ?_, ?_⟩
  · rw [hdatum]
    rfl
  · rwa [hvalue]
  · rw [hvalue, P.map]
    exact acceptAs?_anyMap (Value.wellFormed_map_iff.mp hthrough).2

section Dictionary

variable {r : Rule} {hchain : R.chain = [r]} {hconvert : R.convert = false}
  {hrule : ∀ v w, r.check [] none v = .ok w → w ≠ .null} {bs bs' : Dict β}

/-- Dictionaries are carried entry by entry. -/
lemma carries_dictionary (hbs : bs.Distinct)
    (h : List.Forall₂ (fun e e' => e'.1 = e.1 ∧ R.Carries P e.2 e'.2) bs bs') :
    (R.dictionary r hchain hconvert hrule).Carries P bs bs' := by
  have hclosed := R.closed r (hchain ▸ List.mem_singleton_self r)
  have hall : ∀ e ∈ bs, ∃ b', R.Carries P e.2 b' := fun e he =>
    (exists_of_mem_forall₂ h he).elim fun e' he' => ⟨e'.2, he'.2.2⟩
  have hdatum : (toDatum bs).toValue =
      .ok (.map (bs.map fun e => (e.1, (toDatum e.2).toValue.toOption.getD .null))) :=
    toValue_dictionary (f := fun b => (toDatum b).toValue.toOption.getD .null) hbs
      fun e he => (hall e he).elim fun _ hb' => hb'.written
  have hvalue : (R.dictionary r hchain hconvert hrule).value bs =
      .map (bs.map fun e => (e.1, R.value e.2)) := by
    rw [value, hdatum]
    exact restore_map R.target bs fun b => (toDatum b).toValue.toOption.getD .null
  have hwf : (Value.map (bs.map fun e => (e.1, R.value e.2))).WellFormed :=
    wellFormed_map_of_entries hbs fun e he => (hall e he).elim fun _ hb' => hb'.wellFormed
  refine ⟨?_, ?_, ?_⟩
  · rw [hdatum]
    rfl
  · rwa [hvalue]
  · have hthrough := P.wellFormed hwf
    rw [P.map] at hthrough
    rw [hvalue, P.map]
    refine (acceptAs?_dictionary_eq_some_iff hclosed hrule hthrough).mpr ⟨_, rfl, ?_⟩
    rw [List.forall₂_map_left_iff, List.forall₂_map_left_iff]
    exact h.imp fun e e' he => ⟨he.1, hchain ▸ hconvert ▸ he.2.accepted⟩

/-- Dictionaries come through as values that are there. -/
lemma Carries.dictionary_not_missing
    (h : (R.dictionary r hchain hconvert hrule).Carries P bs bs') :
    OptionalRule.isMissing (P.through ((R.dictionary r hchain hconvert hrule).value bs)) =
      false := by
  have hclosed := R.closed r (hchain ▸ List.mem_singleton_self r)
  obtain ⟨entries, heq, -⟩ := (acceptAs?_dictionary_eq_some_iff hclosed hrule
    (P.wellFormed h.wellFormed)).mp h.accepted
  rw [heq]
  rfl

end Dictionary

end Reading

/-! ### Parameters -/

/-- An element is written as a well-formed value, and another one is read from what comes
through. -/
structure Parameter.Carries (P : Passage) (p : Parameter β) (b b' : β) : Prop where
  writes : p.Writes b
  read : p.toColumn.read? (P.through (p.value b)) = some b'

/-- **A sound element is carried to itself if its value comes through.** -/
lemma Parameter.carries_of_sound (p : Parameter β) {n : Nat} {b : β} (h : p.Sound n b)
    (hkeeps : P.Keeps (p.value b)) : p.Carries P b b := by
  obtain ⟨hwrites, hread⟩ := p.value_of_sound h
  exact ⟨hwrites, hkeeps.symm ▸ hread⟩

/-- A value without a policy is carried to what comes through. -/
lemma Parameter.carries_raw {name : String} {v : Value} (h : v.WellFormed) :
    (Parameter.raw name).Carries P v (P.through v) := by
  have hvalue : ∀ w : Value, w.WellFormed → (Parameter.raw name).value w = w := by
    intro w hw
    have hdatum : (toDatum w).toValue = .ok w := w.toValue_toDatum hw
    rw [Parameter.value, hdatum]
    rfl
  obtain ⟨hwrites, -⟩ := (Parameter.raw name).value_of_sound (n := 0) h
  obtain ⟨-, hread⟩ := (Parameter.raw name).value_of_sound (n := 0) (P.wellFormed h)
  rw [hvalue _ (P.wellFormed h)] at hread
  exact ⟨hwrites, (hvalue v h).symm ▸ hread⟩

namespace Reading

variable {R : Reading β} {hgiven : R.KeepsGiven} {name key : String} {required : Bool}
  {fallback b b' : β}

/-- A value that is there is read behind a default as it is. -/
lemma orIfMissing_of_not_missing {v d : Value} (h : OptionalRule.isMissing v = false) :
    v.orIfMissing d = v := by
  rw [Value.orIfMissing, h, if_neg Bool.false_ne_true]

/-- What is written under a policy is well formed. -/
lemma Carries.writes (h : R.Carries P b b') {p : Parameter β} (htarget : p.target = R.target) :
    p.Writes b := by
  refine ⟨⟨_, h.written⟩, ?_⟩
  rw [Parameter.value, htarget]
  split_ifs
  · trivial
  · exact h.wellFormed

/-- What is given is carried as it is by a parameter with a default. -/
lemma Carries.orDefault {d : Value} {hd : OptionalRule.isMissing d = false}
    {hdefault : R.KeepsDefault d}
    {leftOut : β → Bool} {hleft : ∀ b, leftOut b = true → R.accept? d = some b}
    (h : R.Carries P b b')
    (hgiven' : OptionalRule.isMissing (P.through (R.value b)) = false)
    (hout : leftOut b = true → R.accept? d = some b') :
    (Parameter.orDefault R hgiven name key required fallback hd hdefault leftOut
      hleft).Carries P b b' := by
  refine ⟨h.writes rfl, ?_⟩
  have hvalue : (Parameter.orDefault R hgiven name key required fallback hd hdefault leftOut
    hleft).value b = if leftOut b then .null else R.value b := rfl
  rw [hvalue, Parameter.read?_orDefault]
  split_ifs with hb
  · rw [P.null]
    exact hout hb
  · rw [orIfMissing_of_not_missing hgiven']
    exact h.accepted

/-- The default takes the place of what comes through as a missing value. -/
lemma carries_orDefault_missing {d : Value} {hd : OptionalRule.isMissing d = false}
    {hdefault : R.KeepsDefault d}
    {leftOut : β → Bool} {hleft : ∀ b, leftOut b = true → R.accept? d = some b} {n : Nat}
    (h : R.Sound n b) (hwritten : leftOut b = false)
    (hmissing : OptionalRule.isMissing (P.through (R.value b)) = true) {x : β}
    (hx : R.accept? d = some x) :
    (Parameter.orDefault R hgiven name key required fallback hd hdefault leftOut
      hleft).Carries P b x := by
  obtain ⟨hdatum, hwf, -⟩ := R.value_of_sound h
  have hvalue : (Parameter.orDefault R hgiven name key required fallback hd hdefault leftOut
    hleft).value b = R.value b := if_neg (Bool.eq_false_iff.mp hwritten)
  refine ⟨⟨⟨_, hdatum⟩, hvalue.symm ▸ hwf⟩, ?_⟩
  rw [hvalue, Parameter.read?_orDefault, Value.orIfMissing, if_pos hmissing]
  exact hx

/-- What is given is carried as it is by a parameter with a fallback. -/
lemma Carries.orElse {hfallback : ofDatum? (toDatum fallback) = some fallback}
    {hsound : ∀ n, R.Sound n fallback ∧ OptionalRule.isMissing (R.value fallback) = false}
    {leftOut : β → Bool} {hleft : ∀ b, leftOut b = true → b = fallback} (h : R.Carries P b b')
    (hgiven' : OptionalRule.isMissing (P.through (R.value b)) = false)
    (hout : leftOut b = true → b' = fallback) :
    (Parameter.orElse R hgiven name key fallback hfallback hsound leftOut hleft).Carries P b
      b' := by
  refine ⟨h.writes rfl, ?_⟩
  have hvalue : (Parameter.orElse R hgiven name key fallback hfallback hsound leftOut
    hleft).value b = if leftOut b then .null else R.value b := rfl
  have hnull : OptionalRule.isMissing .null = true := rfl
  rw [hvalue, Parameter.read?_orElse]
  by_cases hb : leftOut b = true
  · rw [if_pos hb, P.null, if_pos hnull, hout hb]
  · rw [if_neg hb, hgiven', if_neg Bool.false_ne_true]
    exact h.accepted

/-- What must be given is carried as it is. -/
lemma Carries.require {hnull : ∀ v b, R.accept? v = some b → v ≠ .null}
    (h : R.Carries P b b') :
    (Parameter.require R hnull name key required fallback).Carries P b b' := by
  refine ⟨h.writes rfl, ?_⟩
  rw [Parameter.read?_require]
  exact h.accepted

section Option

variable {target : Target} {ht : target = R.target ∨ target = .optional R.target}
  {leftOut : Option β → Bool} {hleft : ∀ b, leftOut b = true → b = none}

/-- What may be missing has the value of what is there. -/
lemma value_option_some (b : β) :
    (Parameter.option R hgiven name key target ht leftOut hleft).value (some b) = R.value b := by
  have hkept : leftOut (some b) = false := by
    cases h : leftOut (some b) with
    | false => rfl
    | true => cases hleft _ h
  have hvalue : (Parameter.option R hgiven name key target ht leftOut hleft).value (some b) =
      if leftOut (some b) then .null
      else target.restore ((toDatum b).toValue.toOption.getD .null) := rfl
  rw [hvalue, hkept, if_neg Bool.false_ne_true]
  rcases ht with rfl | rfl <;> rfl

/-- What may be missing is carried if it is not there. -/
lemma carries_option_none :
    (Parameter.option R hgiven name key target ht leftOut hleft).Carries P none none := by
  refine Parameter.carries_of_sound _ (n := 0) nofun ?_
  have hvalue : (Parameter.option R hgiven name key target ht leftOut hleft).value none =
      if leftOut none then .null else target.restore .null := rfl
  rw [Passage.Keeps, hvalue, restore_null, ite_self]
  exact P.null

/-- What may be missing is carried as it is if it is there. -/
lemma Carries.option (h : R.Carries P b b')
    (hgiven' : OptionalRule.isMissing (P.through (R.value b)) = false) :
    (Parameter.option R hgiven name key target ht leftOut hleft).Carries P (some b)
      (some b') := by
  refine ⟨⟨⟨_, h.written⟩, (value_option_some b).symm ▸ h.wellFormed⟩, ?_⟩
  rw [value_option_some, Parameter.read?_option, hgiven', if_neg Bool.false_ne_true]
  exact congrArg (Option.map some) h.accepted

/-- What may be missing is carried as its elements are, if these are never missing. -/
lemma carries_option (hR : R.Solid) {x x' : Option β} (h : Option.Rel (R.Carries P) x x') :
    (Parameter.option R hgiven name key target ht leftOut hleft).Carries P x x' := by
  cases h with
  | none => exact carries_option_none
  | some hb => exact hb.option (hb.not_missing hR)

/-- What comes through as a missing value is not there for the reader. -/
lemma carries_option_missing {n : Nat} (h : R.Sound n b)
    (hmissing : OptionalRule.isMissing (P.through (R.value b)) = true) :
    (Parameter.option R hgiven name key target ht leftOut hleft).Carries P (some b) none := by
  obtain ⟨hwritten, hwf, -⟩ := R.value_of_sound h
  refine ⟨⟨⟨_, hwritten⟩, (value_option_some b).symm ▸ hwf⟩, ?_⟩
  rw [value_option_some, Parameter.read?_option, if_pos hmissing]

end Option

end Reading

namespace Parameter

variable {R : Reading β}

/-- Lists that may be missing are carried item by item. -/
lemma carries_listOrElse {hconvert : R.convert = false} {name : String}
    {leftOut : List β → Bool} {hleft : ∀ bs, leftOut bs = true → bs = []} {bs bs' : List β}
    (h : List.Forall₂ (R.Carries P) bs bs') :
    (listOrElse R hconvert name leftOut hleft).Carries P bs bs' := by
  have hlist : (R.list hconvert).Carries P bs bs' := Reading.carries_list h
  delta listOrElse
  refine hlist.orElse (hlist.not_missing (R.list_solid hconvert)) fun hempty => ?_
  obtain rfl := hleft bs hempty
  exact List.forall₂_nil_left_iff.mp h

/-- Lists with a default are carried item by item. -/
lemma carries_listOrDefault {hconvert : R.convert = false} {name : String} {bs bs' : List β}
    (h : List.Forall₂ (R.Carries P) bs bs') :
    (listOrDefault R hconvert name).Carries P bs bs' := by
  have hlist : (R.list hconvert).Carries P bs bs' := Reading.carries_list h
  delta listOrDefault
  exact hlist.orDefault (hlist.not_missing (R.list_solid hconvert)) nofun

end Parameter

end Reading

/-- Texts are carried as they are. -/
lemma Reading.carries_text (s : String) : Reading.text.Carries P s s :=
  Reading.carries_of_sound (n := 0) trivial (P.keeps_string s)

namespace Parameter

variable {name key : String}

/-- Flags are carried as they are. -/
lemma carries_flag {default fallback : Bool} {leftOut : Bool → Bool}
    {hleft : ∀ b, leftOut b = true → b = default} (b : Bool) :
    (flag name key default fallback leftOut hleft).Carries P b b := by
  have hb : Reading.flag.Carries P b b :=
    Reading.carries_of_sound (n := 0) trivial (P.keeps_bool b)
  delta flag
  exact hb.orDefault (hb.not_missing Reading.flag_solid) fun hout =>
    acceptAs?_flag_eq_some_iff.mpr (congrArg Value.bool (hleft b hout).symm)

/-- The parameters of a rule are carried to what comes through. -/
lemma carries_params {entries : Dict Value} (h : (Value.map entries).WellFormed) :
    params.Carries P entries (P.entries entries) := by
  have hentries : Reading.anyMap.Carries P entries (P.entries entries) :=
    Reading.carries_anyMap h
  delta params
  refine hentries.orDefault (hentries.not_missing Reading.anyMap_solid) fun hempty => ?_
  rw [List.isEmpty_iff.mp hempty]
  exact acceptAs?_anyMap (List.forall_mem_nil _)

/-- A name is carried as it is, unless it is empty: then it is missing. -/
lemma exists_carries_label (x : Option String) :
    ∃ x', (label name key).Carries P x x' ∧ (x ≠ some "" → x' = x) := by
  delta label
  cases x with
  | none => exact ⟨none, Reading.carries_option_none, fun _ => rfl⟩
  | some s =>
    have hthrough : P.through (Reading.text.value s) = .string s := P.string s
    by_cases hempty : s = ""
    · subst hempty
      refine ⟨none, Reading.carries_option_missing (n := 0) trivial ?_, fun h => absurd rfl h⟩
      rw [hthrough]
      rfl
    · refine ⟨some s, (Reading.carries_text s).option ?_, fun _ => rfl⟩
      rw [hthrough]
      exact Bool.eq_false_iff.mpr (mt String.isEmpty_iff.mp hempty)

end Parameter

/-! ### Records -/

section Schema

variable {α : Type} [Record α]

/-- A record is carried to another one parameter by parameter. -/
structure Schema.Carries (P : Passage) (S : Schema α) (a a' : α) : Prop where
  rebuild : S.layout.rebuild S.make a' = a'
  params : S.layout.Forall fun _ _ p get => p.Carries P (get a) (get a')

namespace Schema.Carries

variable {S : Schema α} {a a' : α}

/-- **A record that is carried is written into a well-formed map, and the other record is read from
what comes through.**

**Proof sketch.** Under the key of every parameter stands its value, and under the same key of what
comes through stands what becomes of that value, from which the parameter reads its part of the
other record. -/
theorem exists_restored (h : S.Carries P a a') :
    ∃ record restored : Dict Value, (toDatum a).toValue = .ok (.map record) ∧
      restoreValue (.record (Record.shape α)) (.map record) = .map restored ∧
        (Value.map restored).WellFormed ∧ S.read? (P.entries restored) = some a' := by
  obtain ⟨record, restored, hvalue, hrestore, hwf, hkeys, hvalues⟩ :=
    S.outlines.exists_written (h.params.imp fun _ _ _ _ hp => hp.writes)
  refine ⟨record, restored, hvalue, hrestore, hwf, ?_⟩
  have hread : S.layout.read? S.make
      (fun key => ((P.entries restored).find? key).getD .null) = some a' := by
    rw [← h.rebuild]
    refine Layout.read?_of_forall S.make ((h.params.and hvalues).imp ?_)
    rintro β codec p get ⟨hp, heq⟩
    rw [P.find?_entries, heq]
    exact hp.read
  rw [Schema.read?, if_pos (S.unexpected_eq_nil fun key hkey =>
    hkeys key (P.keys_entries restored ▸ hkey)), hread]

/-- A record that is carried is restored to a map, and the other record is read from what comes
through. -/
theorem exists_restore (h : S.Carries P a a') :
    ∃ m, Record.restore a = .ok (.map m) ∧ (Value.map m).WellFormed ∧
      S.read? (P.entries m) = some a' := by
  obtain ⟨record, restored, hvalue, hrestore, hwf, hread⟩ := h.exists_restored
  refine ⟨restored, ?_, hwf, hread⟩
  rw [Record.restore, Record.toValue, hvalue]
  exact congrArg Except.ok hrestore

/-- Parameters that are carried are written, and the others are read from what comes through. -/
lemma exists_writeParameters (h : S.Carries P a a') :
    ∃ params, writeParameters a = .ok params ∧ (Value.map params).WellFormed ∧
      S.read? (P.entries params) = some a' := by
  obtain ⟨m, hm, hwf, hread⟩ := h.exists_restore
  refine ⟨m, ?_, hwf, hread⟩
  rw [writeParameters, hm]
  rfl

/-- Records that are carried are carried as elements. -/
lemma reading (h : S.Carries P a a') : (Reading.ofSchema S).Carries P a a' := by
  obtain ⟨record, restored, hvalue, hrestore, hwf, hread⟩ := h.exists_restored
  have hrestored : (Reading.ofSchema S).value a = .map restored := by
    rw [Reading.value, hvalue]
    exact hrestore
  refine ⟨?_, hrestored ▸ hwf, ?_⟩
  · rw [hvalue]
    rfl
  · rw [hrestored, P.map]
    exact S.acceptAs?_eq_some_iff.mpr ⟨_, rfl, hread⟩

end Schema.Carries

end Schema

end Intake
