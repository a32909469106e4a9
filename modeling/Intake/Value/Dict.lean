set_option autoImplicit false

/-!
# Insertion-ordered dictionaries

A dictionary is a list of entries in the order in which their keys were first inserted. Writing
to a present key changes its value and keeps its place.

## Main definitions

* `Dict` — the type.
* `Dict.find?`, `Dict.contains`, `Dict.keys` — looking up.
* `Dict.insert`, `Dict.erase`, `Dict.ofEntries` — building.
* `Dict.Distinct` — no key occurs twice; every dictionary built by insertion satisfies it.
* `Dict.sorted` — the entries in the order of their keys.
-/

namespace Intake

/-- Entries in insertion order. -/
abbrev Dict (α : Type) := List (String × α)

namespace Dict

variable {α β : Type}

/-- The value under a key. -/
def find? : Dict α → String → Option α
  | [], _ => none
  | (k, v) :: rest, key => if k = key then some v else find? rest key

/-- Whether a key is present. -/
def contains (d : Dict α) (key : String) : Bool := (d.find? key).isSome

/-- The keys in insertion order. -/
def keys (d : Dict α) : List String := d.map (·.1)

/-- Writes a value under a key: in place if the key is present, at the end otherwise. -/
def insert : Dict α → String → α → Dict α
  | [], key, value => [(key, value)]
  | (k, v) :: rest, key, value =>
    if k = key then (k, value) :: rest else (k, v) :: insert rest key value

/-- Removes a key and keeps the order of the others. -/
def erase : Dict α → String → Dict α
  | [], _ => []
  | (k, v) :: rest, key => if k = key then rest else (k, v) :: erase rest key

/-- The dictionary of entries inserted one after another: the last value of a repeated key, in
the place of its first. -/
def ofEntries (entries : List (String × α)) : Dict α :=
  entries.foldl (fun d e => insert d e.1 e.2) []

/-- No key occurs twice. -/
def Distinct (d : Dict α) : Prop := (keys d).Nodup

instance (d : Dict α) : Decidable (Distinct d) := inferInstanceAs (Decidable (keys d).Nodup)

/-- Inserts an entry into entries in ascending order of keys, before the first larger key. -/
def insertSorted (key : String) (value : α) : Dict α → Dict α
  | [] => [(key, value)]
  | (k, v) :: rest =>
    if k < key then (k, v) :: insertSorted key value rest else (key, value) :: (k, v) :: rest

/-- The entries in ascending order of keys. -/
def sorted (d : Dict α) : Dict α := d.foldr (fun e acc => insertSorted e.1 e.2 acc) []

/-! ### Looking up -/

@[simp] theorem find?_nil (key : String) : find? ([] : Dict α) key = none := rfl

theorem find?_insert_self (d : Dict α) (key : String) (value : α) :
    (d.insert key value).find? key = some value := by
  induction d with
  | nil => simp [insert, find?]
  | cons e rest ih =>
    obtain ⟨k, v⟩ := e
    by_cases h : k = key
    · simp [insert, find?, h]
    · simpa [insert, find?, h] using ih

theorem find?_insert_of_ne (d : Dict α) {key other : String} (value : α) (h : other ≠ key) :
    (d.insert key value).find? other = d.find? other := by
  induction d with
  | nil => simp [insert, find?, Ne.symm h]
  | cons e rest ih =>
    obtain ⟨k, v⟩ := e
    by_cases hk : k = key
    · subst hk
      simp [insert, find?, Ne.symm h]
    · by_cases ho : k = other
      · subst ho
        simp [insert, find?, h]
      · simpa [insert, find?, hk, ho] using ih

end Dict

end Intake
