import Intake.Proofs.Schema.Dictionary
import Intake.Proofs.Schema.Scalar

set_option autoImplicit false

/-!
# Elements that are written as they are read

An element is recovered when what it is written as, restored along a target, is read as the same
element. A type is lossless along a target when every element that is read from a well-formed value
is recovered. Lists, dictionaries and options are lossless when their elements are.

## Main definitions

* `Recovered` — an element is written so that it is read again.
* `Lossless` — whatever is read as an element of a type is recovered.

## Main results

* `Lossless.of_scalarKind?` — types of scalars.
* `Lossless.list`, `Lossless.dictionary`, `Lossless.option` — types with elements.
-/

namespace Intake

/-- The value that an element is written as; null if it has none. -/
def writtenValue {β : Type} [DataCodec β] (b : β) : Value :=
  (toDatum b).toValue.toOption.getD .null

/-- An element is written as a value that restores to a well-formed one, and is read from it. -/
structure Recovered {β : Type} [DataCodec β] (target : Target) (convert : Bool) (b : β) : Prop where
  toValue_eq : (toDatum b).toValue = .ok (writtenValue b)
  wellFormed : (target.restore (writtenValue b)).WellFormed
  readAs?_eq : readAs? β target convert (target.restore (writtenValue b)) = some b

/-- Whatever is read as an element of a type is recovered, and only null is written as null. -/
def Lossless (β : Type) [DataCodec β] (target : Target) (convert : Bool) : Prop :=
  ∀ v (b : β), v.WellFormed → readAs? β target convert v = some b →
    Recovered target convert b ∧ (v ≠ .null → writtenValue b ≠ .null)

/-- An element that is written as a known value. -/
lemma recovered_of_toValue {β : Type} [DataCodec β] {target : Target} {convert : Bool} {b : β}
    {w : Value} (hw : (toDatum b).toValue = .ok w) (hwf : (target.restore w).WellFormed)
    (hread : readAs? β target convert (target.restore w) = some b) :
    Recovered target convert b ∧ writtenValue b = w := by
  have hvalue : writtenValue b = w := by
    rw [writtenValue, hw]
    rfl
  exact ⟨⟨hvalue ▸ hw, hvalue ▸ hwf, hvalue ▸ hread⟩, hvalue⟩

namespace Lossless

/-! ### Scalars -/

/-- Values of a scalar kind are well formed and not null. -/
lemma wellFormed_of_kind {t : Target} {kind : ValueKind} (ht : t.scalarKind? = some kind)
    {x : Value} (hx : x.kind = kind) : x.WellFormed ∧ x ≠ .null := by
  subst hx
  cases x with
  | bool | int | float | string | bytes =>
    refine ⟨trivial, fun hnull => ?_⟩
    cases hnull
  | null | list | map => cases t <;> cases ht

/-- A scalar target is lossless when an element is written as the value that it was read from, up
to restoring. -/
lemma of_scalarKind? {β : Type} [DataCodec β] {t : Target} {kind : ValueKind}
    (ht : t.scalarKind? = some kind) (convert : Bool)
    (h : ∀ x d (b : β), x.kind = kind → (DataCodec.dataType β).read x = .ok d →
      ofDatum? d = some b → ∃ w, (toDatum b).toValue = .ok w ∧ t.restore w = x) :
    Lossless β t convert := by
  intro v b _ hread
  obtain ⟨x, hx, d, hd, hb⟩ := readAs?_eq_some_iff.mp hread
  have hkind : x.kind = kind := kind_of_coerce ht hx
  obtain ⟨hwf, hne⟩ := wellFormed_of_kind ht hkind
  obtain ⟨w, hw, rfl⟩ := h x d b hkind hd hb
  have hagain : t.coerce convert (t.restore w) = .ok (t.restore w) := coerce_of_kind ht hkind _
  obtain ⟨hrecovered, rfl⟩ :=
    recovered_of_toValue hw hwf (readAs?_eq_some_iff.mpr ⟨_, hagain, d, hd, hb⟩)
  refine ⟨hrecovered, fun _ hnull => hne ?_⟩
  rw [hnull, restore_null]

/-- Booleans. -/
lemma bool (convert : Bool) : Lossless Bool .bool convert := by
  refine of_scalarKind? rfl convert fun x d b hx hd hb => ?_
  cases x <;> cases hx
  cases hd
  cases hb
  exact ⟨_, rfl, rfl⟩

/-- Integers of 64 bits. -/
lemma int (convert : Bool) : Lossless Int64 .int convert := by
  refine of_scalarKind? rfl convert fun x d b hx hd hb => ?_
  cases x <;> cases hx
  next n =>
  obtain rfl : Int64.ofInt n.toInt = b := by
    have hd : readInteger .i64 n.toInt = .ok d := hd
    rw [readInteger] at hd
    split_ifs at hd
    cases hd
    exact Option.some.inj hb
  rw [n.ofInt_toInt]
  exact ⟨.int n, congrArg (fun n => Except.ok (Value.int n)) n.ofInt_toInt, rfl⟩

/-- Lengths, which are read from integers that are not negative. -/
lemma length (convert : Bool) : Lossless UInt64 .int convert := by
  refine of_scalarKind? rfl convert fun x d b hx hd hb => ?_
  cases x <;> cases hx
  next n =>
  have hd : readInteger .usize n.toInt = .ok d := hd
  rw [readInteger] at hd
  split_ifs at hd with hholds
  cases hd
  obtain rfl : UInt64.ofNat n.toInt.toNat = b := Option.some.inj hb
  have hlow : 0 ≤ n.toInt := of_decide_eq_true (Bool.and_eq_true_iff.mp hholds).1
  have hhigh : n.toInt < 2 ^ 63 := n.toInt_lt
  have hnat : (UInt64.ofNat n.toInt.toNat).toNat = n.toInt.toNat := by
    rw [UInt64.toNat_ofNat']
    omega
  refine ⟨.int n, ?_, rfl⟩
  have hvalue : (toDatum (UInt64.ofNat n.toInt.toNat)).toValue =
      .ok (Value.ofUnsigned (UInt64.ofNat ((UInt64.ofNat n.toInt.toNat).toNat : Int).toNat)) := rfl
  rw [hvalue, Int.toNat_natCast, hnat, Value.ofUnsigned_of_lt (by omega), hnat,
    Int.toNat_of_nonneg hlow, n.ofInt_toInt]

/-- Floats, bit by bit. -/
lemma float (convert : Bool) : Lossless Binary64 .float convert := by
  refine of_scalarKind? rfl convert fun x d b hx hd hb => ?_
  cases x <;> cases hx
  cases hd
  cases hb
  exact ⟨_, rfl, rfl⟩

/-- Texts. -/
lemma text (convert : Bool) : Lossless String .string convert := by
  refine of_scalarKind? rfl convert fun x d b hx hd hb => ?_
  cases x <;> cases hx
  cases hd
  cases hb
  exact ⟨_, rfl, rfl⟩

/-- A choice among named elements, each of which is written as its name. -/
lemma choice {β : Type} [DataCodec β] {typeName : String} {all : List β} {name : β → String}
    (htype : DataCodec.dataType β = .choice typeName (all.map fun b => .unit (name b)))
    (hdatum : ∀ b, toDatum b = .unitVariant (name b))
    (hof : ∀ s, ofDatum? (Datum.unitVariant s) = all.find? fun b => name b = s)
    (convert : Bool) : Lossless β .string convert := by
  refine of_scalarKind? rfl convert fun x d b hx hd hb => ?_
  cases x <;> cases hx
  next s =>
  rw [htype, DataType.read, List.find?_map] at hd
  have hnames : ((fun x : VariantType => decide (x.name = s)) ∘ fun b : β => .unit (name b)) =
      fun b => decide (name b = s) := rfl
  rw [hnames] at hd
  cases hfind : all.find? fun b => name b = s with
  | none =>
    rw [hfind] at hd
    cases hd
  | some c =>
    rw [hfind] at hd
    obtain rfl : Datum.unitVariant (name c) = d := Except.ok.inj hd
    have hc : name c = s := by simpa using List.find?_some hfind
    have hname : name b = name c := by simpa using List.find?_some ((hof _).symm.trans hb)
    refine ⟨.string s, ?_, rfl⟩
    rw [hdatum b, hname, hc]
    rfl

/-! ### Bytes -/

/-- Bytes are read as integers of 8 bits. -/
lemma readBytes_eq (data : List UInt8) :
    readBytes (.int .u8) data = .ok (data.map toDatum) := by
  induction data with
  | nil => rfl
  | cons b rest ih =>
    have hholds : IntType.holds .u8 b.toNat = true :=
      Bool.and_eq_true_iff.mpr ⟨decide_eq_true (Int.natCast_nonneg _),
        decide_eq_true (show (b.toNat : Int) ≤ 2 ^ 8 - 1 by have := b.toNat_lt; omega)⟩
    have hbyte : (DataType.int .u8).readByte b = .ok (toDatum b) := if_pos hholds
    rw [readBytes, hbyte, ih]
    rfl

/-- Bytes are taken from integers of 8 bits. -/
lemma eachOfDatum?_bytes (data : List UInt8) :
    eachOfDatum? (data.map toDatum) = some data := by
  rw [eachOfDatum?_eq_some_iff, List.forall₂_map_left_iff, List.forall₂_same]
  exact fun b _ => congrArg some b.ofNat_toNat

/-- Integers that bytes are written as restore to bytes. -/
lemma bytesOfItems?_bytes (data : List UInt8) :
    bytesOfItems? (data.map fun b => .int (Int64.ofInt b.toNat)) = some data := by
  induction data with
  | nil => rfl
  | cons b rest ih =>
    have hint : (Int64.ofInt b.toNat).toInt = b.toNat := by
      have := b.toNat_lt
      exact Int64.toInt_ofInt_of_le (by omega) (by omega)
    have hrange : 0 ≤ (b.toNat : Int) ∧ (b.toNat : Int) < 256 := by
      have := b.toNat_lt
      omega
    rw [List.map_cons, bytesOfItems?, hint, if_pos hrange, ih, Int.toNat_natCast, b.ofNat_toNat]
    rfl

/-- Bytes, which are written as a list of integers. -/
lemma bytes (convert : Bool) : Lossless (List UInt8) .bytes convert := by
  refine of_scalarKind? rfl convert fun x d b hx hd hb => ?_
  cases x <;> cases hx
  next data =>
  have hd : (readBytes (.int .u8) data).map .list = .ok d := hd
  obtain ⟨ds, hds, rfl⟩ := map_eq_ok_iff.mp hd
  obtain rfl := Except.ok.inj ((readBytes_eq data).symm.trans hds)
  have hb : eachOfDatum? (data.map toDatum) = some b := hb
  obtain rfl := Option.some.inj ((eachOfDatum?_bytes data).symm.trans hb)
  refine ⟨_, toValue_list (f := fun b => .int (Int64.ofInt b.toNat)) fun _ _ => rfl, ?_⟩
  rw [Target.restore, bytesOfItems?_bytes]

/-! ### Values, lists and dictionaries -/

/-- Dynamic values. -/
lemma any (convert : Bool) : Lossless Value .any convert := by
  intro v b hwf hread
  obtain rfl : v = b := Option.some.inj ((readAs?_any hwf convert).symm.trans hread)
  have hrestore : Target.any.restore v = v := rfl
  obtain ⟨hrecovered, hvalue⟩ := recovered_of_toValue (v.toValue_toDatum hwf)
    (hrestore.symm ▸ hwf) (hrestore.symm ▸ readAs?_any hwf convert)
  exact ⟨hrecovered, fun hne => hvalue.symm ▸ hne⟩

variable {β : Type} [DataCodec β] {target : Target}

/-- Lists of elements that are recovered. -/
lemma list (h : Lossless β target false) (convert : Bool) :
    Lossless (List β) (.list target) convert := by
  intro v bs hwf hread
  obtain ⟨w, hw, -⟩ := readAs?_eq_some_iff.mp hread
  cases v with
  | list vs =>
    have hitems := readAs?_list_eq_some_iff.mp hread
    have hrecovered : ∀ b ∈ bs, Recovered target false b := by
      intro b hb
      obtain ⟨v, hv, hread⟩ := exists_mem_of_forall₂ hitems hb
      exact (h v b (Value.wellFormed_list_iff.mp hwf v hv) hread).1
    have hback : ((Target.list target).restore (.list (bs.map writtenValue))).WellFormed := by
      rw [restore_list, Value.wellFormed_list_iff, List.forall_mem_map]
      exact fun b hb => (hrecovered b hb).wellFormed
    have hagain : readAs? (List β) (.list target) convert
        ((Target.list target).restore (.list (bs.map writtenValue))) = some bs := by
      rw [restore_list, readAs?_list_eq_some_iff, List.forall₂_map_left_iff, List.forall₂_same]
      exact fun b hb => (hrecovered b hb).readAs?_eq
    obtain ⟨hrecovered, hvalue⟩ := recovered_of_toValue
      (toValue_list fun b hb => (hrecovered b hb).toValue_eq) hback hagain
    exact ⟨hrecovered, fun _ => hvalue.symm ▸ nofun⟩
  | null | bool | int | float | string | bytes | map => cases hw

/-- Dictionaries of elements that are recovered. -/
lemma dictionary (h : Lossless β target false) (convert : Bool) :
    Lossless (Dict β) (.map target) convert := by
  intro v bs hwf hread
  obtain ⟨w, hw, -⟩ := readAs?_eq_some_iff.mp hread
  cases v with
  | map entries =>
    obtain ⟨hdistinct, hvalues⟩ := Value.wellFormed_map_iff.mp hwf
    have hentries := readAs?_dictionary_eq_some_iff.mp hread
    have hkeys : bs.Distinct := by
      rw [Dict.Distinct, Dict.keys_eq_of_forall₂ (fun _ _ => And.left) hentries]
      exact hdistinct
    have hrecovered : ∀ b ∈ bs, Recovered target false b.2 := by
      intro b hb
      obtain ⟨e, he, -, hread⟩ := exists_mem_of_forall₂ hentries hb
      exact (h e.2 b.2 (hvalues e he) hread).1
    have hrestore := restore_map target bs writtenValue
    have hback : ((Target.map target).restore
        (.map (bs.map fun b => (b.1, writtenValue b.2)))).WellFormed := by
      rw [hrestore]
      exact wellFormed_map_of_entries (f := fun b => target.restore (writtenValue b)) hkeys
        fun b hb => (hrecovered b hb).wellFormed
    have hagain : readAs? (Dict β) (.map target) convert
        ((Target.map target).restore (.map (bs.map fun b => (b.1, writtenValue b.2)))) =
          some bs := by
      rw [hrestore, readAs?_dictionary_eq_some_iff, List.forall₂_map_left_iff, List.forall₂_same]
      exact fun b hb => ⟨rfl, (hrecovered b hb).readAs?_eq⟩
    obtain ⟨hrecovered, hvalue⟩ := recovered_of_toValue
      (toValue_dictionary hkeys fun b hb => (hrecovered b hb).toValue_eq) hback hagain
    exact ⟨hrecovered, fun _ => hvalue.symm ▸ nofun⟩
  | null | bool | int | float | string | bytes | list => cases hw

/-! ### Options -/

/-- Null coerces to nothing but null. -/
lemma coerce_null {t : Target} {convert : Bool} {w : Value}
    (h : t.coerce convert .null = .ok w) : w = .null := by
  cases t with
  | any | optional =>
    cases h
    rfl
  | bool | int | float | string | bytes =>
    cases convert <;> cases h
  | list | map | record => cases h

/-- Options of elements that are recovered. -/
lemma option {t : Target} {convert : Bool} (ht : t = target ∨ t = .optional target)
    (h : Lossless β target convert) : Lossless (Option β) t convert := by
  have hkeeps : ∀ r ∈ ([] : List Rule), r.KeepsPresence := fun r hr => absurd hr List.not_mem_nil
  have hsome : ∀ {v}, v ≠ .null →
      readAs? (Option β) t convert v = (readAs? β target convert v).map some :=
    fun hv => acceptAs?_option ht hkeeps convert hv
  have hrestore : ∀ w, t.restore w = target.restore w := by
    intro w
    rcases ht with rfl | rfl <;> rfl
  intro v x hwf hread
  by_cases hv : v = .null
  · subst hv
    obtain ⟨w, hw, d, hd, hx⟩ := readAs?_eq_some_iff.mp hread
    obtain rfl := coerce_null hw
    obtain rfl : none = x := by
      cases hd
      exact Option.some.inj hx
    refine ⟨⟨rfl, ?_, ?_⟩, fun hne => absurd rfl hne⟩
    · exact (restore_null t).symm ▸ trivial
    · exact (restore_null t).symm ▸ hread
  · rw [hsome hv] at hread
    obtain ⟨b, hb, rfl⟩ := Option.map_eq_some_iff.mp hread
    obtain ⟨hrecovered, hne⟩ := h v b hwf hb
    have hback : target.restore (writtenValue b) ≠ .null := restore_ne_null target (hne hv)
    refine ⟨⟨hrecovered.toValue_eq, ?_, ?_⟩, fun _ => hne hv⟩
    · exact (hrestore _).symm ▸ hrecovered.wellFormed
    · have hread := hsome hback
      rw [hrecovered.readAs?_eq, ← hrestore] at hread
      exact hread

end Lossless

end Intake
