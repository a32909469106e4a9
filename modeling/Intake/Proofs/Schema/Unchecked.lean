import Intake.Proofs.Schema.Lossless

set_option autoImplicit false

/-!
# Records whose parameters no rule checks

A record is also read straight from a map, past the rules of a form. It comes back from what it is
written as when every column of its layout is lossless: then the layout without the rules has the
laws of parameters, and these give the laws of the record.

## Main definitions

* `Column.Lossless` — a column whose type is lossless and whose fallback is not lost.
* `Parameter.Lossless`, `Layout.Lossless` — parameters and layouts of lossless columns.
* `Parameter.unchecked`, `Layout.unchecked` — the same without their rules.
* `Outline` — a record that follows a layout of lossless columns.

## Main results

* `Column.Lossless.rereads` — what a lossless column reads is written so that it is read again.
* `Outline.exists_restored` — what a map becomes is written as a map that becomes the same.
* `Outline.lossless_record` — records that follow a layout of lossless columns are lossless.
-/

namespace Intake

/-! ### Columns -/

namespace Column

variable {β : Type} [DataCodec β]

/-- A column whose type is lossless. Its fallback is an element that is read from some value or that
is written as null, and no other element is left out. -/
structure Lossless (c : Column β) (leftOut : β → Bool) : Prop where
  type : Intake.Lossless β c.target c.convert
  fallback : c.required = true ∨ ∃ b, ofDatum? (toDatum c.fallback) = some b ∧
    ((∃ v, v.WellFormed ∧ readAs? β c.target c.convert v = some b) ∨
      (toDatum b).toValue = .ok .null)
  leftOut_eq : ∀ b, leftOut b = true →
    c.required = false ∧ ofDatum? (toDatum c.fallback) = some b := by exact nofun

namespace Lossless

variable {c : Column β} {leftOut : β → Bool}

/-- A column that is required and always written. -/
lemma of_required (h : Intake.Lossless β c.target c.convert) (hrequired : c.required = true)
    (hleft : ∀ b, leftOut b = false := by exact fun _ => rfl) : c.Lossless leftOut where
  type := h
  fallback := .inl hrequired
  leftOut_eq b hb := absurd ((hleft b).symm.trans hb) Bool.false_ne_true

/-- A column whose fallback is read from some value. -/
lemma of_value (h : Intake.Lossless β c.target c.convert) {v : Value} (hv : v.WellFormed)
    (hread : readAs? β c.target c.convert v = some c.fallback)
    (hfallback : ofDatum? (toDatum c.fallback) = some c.fallback)
    (hleft : ∀ b, leftOut b = true → c.required = false ∧ b = c.fallback := by exact nofun) :
    c.Lossless leftOut where
  type := h
  fallback := .inr ⟨c.fallback, hfallback, .inl ⟨v, hv, hread⟩⟩
  leftOut_eq b hb := ⟨(hleft b hb).1, (hleft b hb).2 ▸ hfallback⟩

/-- A column that may be missing. -/
lemma of_none {c : Column (Option β)} {leftOut : Option β → Bool}
    (h : Intake.Lossless (Option β) c.target c.convert) (hfallback : c.fallback = none)
    (hleft : ∀ b, leftOut b = true → c.required = false ∧ b = none := by exact nofun) :
    c.Lossless leftOut where
  type := h
  fallback := .inr ⟨none, by rw [hfallback]; rfl, .inr rfl⟩
  leftOut_eq b hb := ⟨(hleft b hb).1, by rw [(hleft b hb).2, hfallback]; rfl⟩

end Lossless

/-- A column without its rules. -/
def unchecked (c : Column β) : Column β := { c with chain := [] }

/-- What a column writes of an element is read as the element. -/
def Rereads (c : Column β) (leftOut : β → Bool) (b : β) : Prop :=
  ∃ w, (toDatum b).toValue = .ok w ∧ (c.target.restore w).WellFormed ∧
    c.read? (if leftOut b then .null else c.target.restore w) = some b

namespace Lossless

variable {c : Column β} {leftOut : β → Bool} (h : c.Lossless leftOut) {b : β}

include h in
/-- An element that is left out is read from null. -/
lemma read?_null_of_leftOut (hleft : leftOut b = true) : c.unchecked.read? .null = some b := by
  obtain ⟨hrequired, hfallback⟩ := h.leftOut_eq b hleft
  have hnull : c.unchecked.read? .null =
      if c.required then none else ofDatum? (toDatum c.fallback) := read?_null_of_unchecked rfl
  rw [hnull, hrequired, if_neg Bool.false_ne_true, hfallback]

include h in
/-- It is enough that an element is read from the value that it is written as. -/
lemma rereads_of_read? {w : Value} (hw : (toDatum b).toValue = .ok w)
    (hwf : (c.target.restore w).WellFormed)
    (hread : c.unchecked.read? (c.target.restore w) = some b) : c.unchecked.Rereads leftOut b := by
  refine ⟨w, hw, hwf, ?_⟩
  split_ifs with hleft
  · exact h.read?_null_of_leftOut hleft
  · exact hread

include h in
/-- A recovered element is read again, as long as null is read as it when it restores to null. -/
lemma rereads_of_recovered (hb : Recovered c.target c.convert b)
    (hmissing : c.target.restore (writtenValue b) = .null → c.unchecked.read? .null = some b) :
    c.unchecked.Rereads leftOut b := by
  refine h.rereads_of_read? hb.toValue_eq hb.wellFormed ?_
  by_cases hnull : c.target.restore (writtenValue b) = .null
  · rw [hnull]
    exact hmissing hnull
  · exact (read?_of_unchecked rfl hnull).trans hb.readAs?_eq

include h in
/-- What a lossless column reads is written so that it is read again.

**Proof sketch.** A value that is there gives an element that is recovered. A missing value gives
the fallback, which is recovered as well or stands for a missing value again. -/
theorem rereads {v : Value} (hv : v.WellFormed) (hread : c.unchecked.read? v = some b) :
    c.unchecked.Rereads leftOut b := by
  by_cases hnull : v = .null
  · subst hnull
    have hfallback : (if c.required then none else ofDatum? (toDatum c.fallback)) = some b :=
      (read?_null_of_unchecked (c := c.unchecked) rfl).symm.trans hread
    split_ifs at hfallback with hrequired
    obtain ⟨x, hx, hstands⟩ := h.fallback.resolve_left hrequired
    obtain rfl : x = b := Option.some.inj (hx.symm.trans hfallback)
    rcases hstands with ⟨v, hv, hx⟩ | hvalue
    · exact h.rereads_of_recovered (h.type v x hv hx).1 fun _ => hread
    · refine h.rereads_of_read? hvalue ?_ ?_
      · exact (restore_null c.target).symm ▸ trivial
      · exact (restore_null c.target).symm ▸ hread
  · have hthere : readAs? β c.target c.convert v = some b :=
      (read?_of_unchecked (c := c.unchecked) rfl hnull).symm.trans hread
    obtain ⟨hb, hne⟩ := h.type v b hv hthere
    exact h.rereads_of_recovered hb fun hback => absurd hback (restore_ne_null _ (hne hnull))

end Lossless

end Column

namespace Parameter

variable {β : Type} [DataCodec β]

/-- The column of a parameter is lossless. -/
def Lossless (p : Parameter β) : Prop := p.toColumn.Lossless p.leftOut

/-- A lossless column without its rules. -/
def unchecked (c : Column β) (leftOut : β → Bool) (h : c.Lossless leftOut) : Parameter β where
  toColumn := c.unchecked
  closed := closed_nil
  leftOut := leftOut
  Sound _ := c.unchecked.Rereads leftOut
  sound_of_read? := fun hv hread => h.rereads hv.wellFormed hread
  read?_of_sound := id

/-- A lossless column stays lossless without its rules. -/
lemma lossless_unchecked {c : Column β} {leftOut : β → Bool} (h : c.Lossless leftOut) :
    (unchecked c leftOut h).Lossless :=
  ⟨h.type, h.fallback, h.leftOut_eq⟩

end Parameter

/-! ### Layouts -/

namespace Layout

variable {α γ : Type}

/-- The columns of a layout are lossless. -/
def Lossless (L : Layout α γ) : Prop := L.Forall fun _ _ p _ => p.Lossless

/-- A layout of lossless columns without its rules. -/
def unchecked {γ : Type} : (L : Layout α γ) → L.Lossless → Layout α γ
  | .done, _ => .done
  | .field p get rest, h =>
    .field (.unchecked p.toColumn p.leftOut h.1) get (rest.unchecked h.2)

variable {L : Layout α γ} (h : L.Lossless)

/-- No rule is left. -/
lemma chain_of_mem_fields_unchecked : ∀ f ∈ (L.unchecked h).fields, f.chain = [] := by
  induction L with
  | done => exact nofun
  | field p get rest ih => exact List.forall_mem_cons.mpr ⟨rfl, ih h.2⟩

/-- The fields of the shape stay. -/
@[simp] lemma shapes_unchecked : (L.unchecked h).shapes = L.shapes := by
  induction L with
  | done => rfl
  | field p get rest ih => exact congrArg (p.toColumn.shape :: ·) (ih h.2)

/-- The fields of the codec stay. -/
@[simp] lemma data_unchecked : (L.unchecked h).data = L.data := by
  induction L with
  | done => rfl
  | field p get rest ih => exact congrArg (p.toColumn.data :: ·) (ih h.2)

/-- The fields on the way out stay. -/
@[simp] lemma written_unchecked (a : α) : (L.unchecked h).written a = L.written a := by
  induction L with
  | done => rfl
  | field p get rest ih =>
    exact congrArg (fieldUnless (p.leftOut (get a)) p.name (get a) ++ ·) (ih h.2)

/-- Data make the same record. -/
@[simp] lemma assemble?_unchecked (make : γ) (ds : List (String × Datum)) :
    (L.unchecked h).assemble? make ds = L.assemble? make ds := by
  induction L generalizing ds with
  | done => rfl
  | field p get rest ih =>
    rcases ds with _ | ⟨⟨_, d⟩, ds⟩
    · rfl
    · exact congrArg (Option.bind (ofDatum? d)) (funext fun b => ih h.2 (make b) ds)

/-- A record gives back the values that it is made of. -/
lemma recovers_unchecked {make : γ} {P : α → Prop} (hrecovers : L.Recovers make P) :
    (L.unchecked h).Recovers make P := by
  induction L generalizing P with
  | done => exact hrecovers
  | field p get rest ih => exact fun b => ih h.2 (hrecovers b)

/-- A record that follows a layout of lossless columns follows it without the rules. -/
lemma Outlines.unchecked [Record α] {make : γ} (houtlines : L.Outlines make) :
    (L.unchecked h).Outlines make where
  ofDatum?_record ds := by
    rw [assemble?_unchecked]
    exact houtlines.ofDatum?_record ds
  recovers := recovers_unchecked h houtlines.recovers
  flattened := by
    rw [shapes_unchecked]
    exact houtlines.flattened
  embedsRecords := houtlines.embedsRecords
  read_eq_ok_iff := by
    rw [data_unchecked]
    exact houtlines.read_eq_ok_iff
  toDatum_eq a := by
    rw [written_unchecked]
    exact houtlines.toDatum_eq a
  names := by
    rw [shapes_unchecked]
    exact houtlines.names
  keys := by
    rw [shapes_unchecked]
    exact houtlines.keys

/-- Without rules, a map becomes a record when its parameters are read one by one. -/
lemma Outlines.coerce_eq_ok_iff_read? [Record α] {make : γ} (houtlines : L.Outlines make)
    (hchain : ∀ f ∈ L.fields, f.chain = []) {source : Dict Value} {a : α} :
    (Record.coerce (.map source) : Except CoerceError α) = .ok a ↔
      L.read? make (fun key => (source.find? key).getD .null) = some a := by
  have houtcome : ∀ f ∈ L.fields, f.outcome? source = some (source.find? f.name) := by
    intro f hf
    rw [Field.outcome?, hchain f hf]
    rfl
  have hchecked : ∀ f ∈ L.fields, source.find? f.name = f.left? source := by
    intro f hf
    rw [Field.left?, houtcome f hf, Option.join_some]
  have hrecord : ∀ f ∈ L.shapes, (L.coerced source).find? f.name = f.coerced? source :=
    fun f hf => Dict.find?_gather houtlines.names hf
  have houtcomes : ∀ f ∈ L.fields, ∃ s, f.outcome? source = some s :=
    fun f hf => ⟨_, houtcome f hf⟩
  rw [L.read?_eq_some_iff make hchecked hrecord, houtlines.coerce_eq_ok_iff,
    and_iff_right houtcomes]

end Layout

/-! ### Records -/

/-- A record that follows a layout of lossless columns. -/
structure Outline (α : Type) [Record α] where
  {Make : Type}
  /-- The constructor of the record. -/
  make : Make
  layout : Layout α Make
  outlines : layout.Outlines make
  lossless : layout.Lossless

/-- The record of a schema, apart from its form. -/
def Schema.outline {α : Type} [Record α] (S : Schema α) (h : S.layout.Lossless) : Outline α where
  make := S.make
  layout := S.layout
  outlines := S.outlines
  lossless := h

namespace Outline

variable {α : Type} [Record α]

/-- What a map becomes is written as a well-formed map that becomes the same.

**Proof sketch.** Without its rules the layout reads a map as the record does. What it reads is
sound, and what is sound is written so that it is read again. -/
theorem exists_restored (O : Outline α) {source : Dict Value}
    (hsource : (Value.map source).WellFormed) {a : α}
    (h : (Record.coerce (.map source) : Except CoerceError α) = .ok a) :
    ∃ record restored : Dict Value, (toDatum a).toValue = .ok (.map record) ∧
      restoreValue (.record (Record.shape α)) (.map record) = .map restored ∧
        (Value.map restored).WellFormed ∧
          (Record.coerce (.map restored) : Except CoerceError α) = .ok a := by
  have houtlines := O.outlines.unchecked O.lossless
  have hcoerce : ∀ source : Dict Value,
      (Record.coerce (.map source) : Except CoerceError α) = .ok a ↔
        (O.layout.unchecked O.lossless).read? O.make
          (fun key => (source.find? key).getD .null) = some a := fun _ =>
    houtlines.coerce_eq_ok_iff_read? (Layout.chain_of_mem_fields_unchecked O.lossless)
  have hread := (hcoerce source).mp h
  have hsound := Layout.sound_of_read? houtlines.inverts (Value.fits_find? hsource) hread
  have hrebuild := Layout.rebuild_of_yields houtlines.inverts (Layout.yields_of_read? hread)
  obtain ⟨record, restored, hvalue, hrestore, hwf, -, hagain⟩ := houtlines.exists_restored hsound
  exact ⟨record, restored, hvalue, hrestore, hwf, (hcoerce restored).mpr (hrebuild ▸ hagain)⟩

/-- Records that follow a layout of lossless columns are lossless. -/
theorem lossless_record (O : Outline α) (convert : Bool) :
    Lossless α (.record (Record.shape α)) convert := by
  intro v a hwf hread
  obtain ⟨w, hw, -⟩ := readAs?_eq_some_iff.mp hread
  cases v with
  | map source =>
    obtain ⟨record, restored, hvalue, hrestore, hback, hagain⟩ :=
      O.exists_restored hwf (readAs?_record_eq_some_iff.mp hread)
    have hrestore : (Target.record (Record.shape α)).restore (.map record) = .map restored :=
      hrestore
    obtain ⟨hrecovered, hwritten⟩ := recovered_of_toValue hvalue (hrestore.symm ▸ hback)
      (hrestore.symm ▸ readAs?_record_eq_some_iff.mpr hagain)
    exact ⟨hrecovered, fun _ => hwritten.symm ▸ nofun⟩
  | null | bool | int | float | string | bytes | list => cases hw

/-- What a well-formed value becomes is restored to a value that becomes the same. -/
theorem exists_restore (O : Outline α) {source : Value} (hsource : source.WellFormed) {a : α}
    (h : (Record.coerce source : Except CoerceError α) = .ok a) :
    ∃ w, Record.restore a = .ok w ∧ (Record.coerce w : Except CoerceError α) = .ok a := by
  cases source with
  | map source =>
    obtain ⟨record, restored, hvalue, hrestore, -, hagain⟩ := O.exists_restored hsource h
    refine ⟨.map restored, ?_, hagain⟩
    rw [Record.restore, Record.toValue, hvalue]
    dsimp only
    rw [hrestore]
  | null | bool | int | float | string | bytes | list => cases h

end Outline

end Intake
