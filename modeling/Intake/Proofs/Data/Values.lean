import Intake.Data.Codec
import Intake.Data.Reader
import Intake.Proofs.Value.Parts

set_option autoImplicit false

/-!
# Dynamic values as data

A well-formed value is written as data and read back unchanged: every item, every entry in its
place, every byte and the word of every float.

## Main results

* `Value.toValue_toDatum` — a well-formed value is the value of its data.
* `Value.retell_eq_ok` — the visitor builds a well-formed value as it is told it.
* `DataType.read_dynamic` — a well-formed value is read as the data that it is written as.
* `Value.written_and_retold_unchanged` — the three together.
-/

namespace Intake

/-! ### Writing -/

mutual

/-- A well-formed value is the value of its data. -/
theorem Value.toValue_toDatum : ∀ v : Value, v.WellFormed → v.toDatum.toValue = .ok v
  | .null, _ | .bool _, _ | .float _, _ | .string _, _ | .bytes _, _ => rfl
  | .int n, _ => by
    rw [Value.toDatum, Datum.toValue, valueOfInt, Int64.ofInt_toInt]
    all_goals exact nofun
  | .list items, h => by rw [Value.toDatum, Datum.toValue, itemValues_itemData items h]; rfl
  | .map entries, h => by
    rw [Value.toDatum, Datum.toValue, entryValues_entryData entries [] h.2, ← Dict.ofEntries,
      h.1.ofEntries_eq]
    rfl
termination_by structural v => v

/-- Well-formed items are the values of their data. -/
theorem itemValues_itemData :
    ∀ items : List Value, Value.AllWellFormed items →
      Datum.itemValues (Value.itemData items) = .ok items
  | [], _ => rfl
  | v :: rest, h => by
    rw [Value.itemData, Datum.itemValues, v.toValue_toDatum h.1]
    dsimp only
    rw [itemValues_itemData rest h.2]
    rfl
termination_by structural items => items

/-- The data of well-formed entries are inserted as the entries. -/
theorem entryValues_entryData :
    ∀ (entries : List (String × Value)) (done : Dict Value), Value.EntriesWellFormed entries →
      Datum.entryValues (Value.entryData entries) none done =
        .ok (entries.foldl (fun d e => d.insert e.1 e.2) done)
  | [], _, _ => rfl
  | (k, v) :: rest, done, h => by
    have hkey : Datum.keyText? (some (.text k)) = .ok (some k) := rfl
    rw [Value.entryData, Datum.entryValues, hkey]
    dsimp only [Datum.valueAt?, Option.or]
    rw [v.toValue_toDatum h.1]
    dsimp only
    rw [entryValues_entryData rest _ h.2]
    rfl
termination_by structural entries => entries

end

/-! ### Reading -/

namespace Value

mutual

/-- The visitor builds a well-formed value as it is told it. -/
theorem retell_eq_ok : ∀ v : Value, v.WellFormed → v.retell = .ok v
  | .null, _ | .bool _, _ | .int _, _ | .float _, _ | .string _, _ | .bytes _, _ => rfl
  | .list items, h => by
    rw [retell, retellItems_eq_ok items [] h]
    rfl
  | .map entries, h => by
    rw [retell, retellEntries_eq_ok entries [] h.2, ← Dict.ofEntries, h.1.ofEntries_eq]
    rfl
termination_by structural v => v

/-- Well-formed items are pushed behind those already there. -/
theorem retellItems_eq_ok : ∀ items pushed : List Value, AllWellFormed items →
    retellItems items pushed = .ok (pushed.reverse ++ items)
  | [], pushed, _ => by rw [retellItems, List.append_nil]
  | v :: rest, pushed, h => by
    rw [retellItems, retell_eq_ok v h.1]
    dsimp only
    rw [retellItems_eq_ok rest _ h.2, List.reverse_cons, List.append_assoc, List.singleton_append]
termination_by structural items => items

/-- Well-formed entries are inserted one after another. -/
theorem retellEntries_eq_ok : ∀ (entries : List (String × Value)) (done : Dict Value),
    EntriesWellFormed entries →
      retellEntries entries done = .ok (entries.foldl (fun d e => d.insert e.1 e.2) done)
  | [], _, _ => rfl
  | (k, v) :: rest, done, h => by
    rw [retellEntries, retell_eq_ok v h.1]
    dsimp only
    rw [retellEntries_eq_ok rest _ h.2, List.foldl_cons]
termination_by structural entries => entries

end

end Value

/-- A well-formed value is read as the data that it is written as. -/
lemma DataType.read_dynamic {v : Value} (h : v.WellFormed) :
    DataType.dynamic.read v = .ok v.toDatum := by
  rw [DataType.read, v.retell_eq_ok h]
  rfl

namespace Value

/-- **Dynamic values cross the bridge to typed data unchanged.** A well-formed value is written as
data whose value is the value itself, the visitor that is told the value builds it again, and so it
is read as the data that it is written as.

**Proof sketch.** Induction over the value, in each direction. Scalars, bytes and the words of
floats are handed on; items are pushed behind one another; and since no map repeats a key, every
entry is inserted behind those before it. -/
theorem written_and_retold_unchanged (v : Value) (hv : v.WellFormed) :
    v.toDatum.toValue = .ok v ∧ v.retell = .ok v ∧ DataType.dynamic.read v = .ok v.toDatum :=
  ⟨v.toValue_toDatum hv, v.retell_eq_ok hv, DataType.read_dynamic hv⟩

/-- A map out of the order of its keys, with bytes, null, the least integer, NaN and the negative
zero at different depths. -/
def bridgeSample : Value :=
  .map [("z", .list [.bytes [0, 255], .null, .map [("b", .int Int64.minValue), ("a", .list [])]]),
    ("a", .list [.float Binary64.nan, .float (.zero true), .bytes []])]

/-- The sample is well formed. -/
theorem bridgeSample_written_and_retold :
    bridgeSample.WellFormed ∧ bridgeSample.toDatum.toValue = .ok bridgeSample ∧
      bridgeSample.retell = .ok bridgeSample ∧
        DataType.dynamic.read bridgeSample = .ok bridgeSample.toDatum := by
  have hwf : bridgeSample.WellFormed := by
    simp [bridgeSample, WellFormed, AllWellFormed, EntriesWellFormed, Dict.Distinct]
  exact ⟨hwf, written_and_retold_unchanged bridgeSample hwf⟩

end Value

end Intake
