import Intake.Command.Basic
import Intake.Proofs.Schema.Loaded
import Intake.Proofs.Value.JsonText

set_option autoImplicit false

/-!
# Descriptions that are printed

The description of a form is printed as a JSON text, and the text is read and loaded. JSON has no
form for bytes and for floats that are not finite: where a rule holds none of these, the form that
is loaded does what the other one does.

## Main definitions

* `Passage.json` — the way of a value through a JSON text.
* `Rule.Printable` — rules whose parameters JSON has a form for.

## Main results

* `Rule.comesThrough_json_iff` — the parameters that come through a JSON text.
* `Form.load_through` — a form is loaded from what comes through of its description.
* `Registry.load_describe_print` — a form that was loaded is described, printed, read and loaded
  again.
-/

namespace Intake

/-- The way of a value through a JSON text. -/
def Passage.json : Passage where
  through := Value.throughJson
  null := rfl
  bool _ := rfl
  int _ := rfl
  float x := by
    rw [Value.throughJson]
    split_ifs with hfinite
    · exact .inl rfl
    · exact .inr ⟨Bool.eq_false_iff.mpr hfinite, rfl⟩
  string _ := rfl
  list items := congrArg Value.list (Value.itemsThroughJson_eq_map items)
  map entries := congrArg Value.map (Value.entriesThroughJson_eq_map entries)
  wellFormed := Value.wellFormed_throughJson

/-- JSON has a form for the values in a rule, and no bound on floats is an infinity that keeps out
all numbers. What the rules inside it hold does not count. -/
def Rule.Printable : Rule → Prop
  | .float r => r.min ≠ some (Binary64.infinity false) ∧ r.max ≠ some (Binary64.infinity true)
  | .oneOf r => ∀ v ∈ r.choices, v.Portable
  | .noneOf r => ∀ v ∈ r.values, v.Portable
  | .optional r => ∀ v ∈ r.default, v.Portable
  | _ => True

/-- An infinity does not come through a JSON text, so a bound that is this infinity is lost. -/
lemma Passage.json_bound_iff {x? : Option Binary64} {negative : Bool} :
    (∀ x ∈ x?, Passage.json.Keeps (.float x) ∨ x ≠ Binary64.infinity negative) ↔
      x? ≠ some (Binary64.infinity negative) := by
  have hlost : ¬Passage.json.Keeps (.float (Binary64.infinity negative)) := by
    refine (Value.throughJson_eq_self_iff _).not.mpr ?_
    cases negative <;> exact nofun
  constructor
  · rintro h rfl
    exact (h _ rfl).elim hlost fun hne => hne rfl
  · rintro h x rfl
    exact .inr fun heq => h (congrArg some heq)

/-- The parameters of a rule come through a JSON text if JSON has a form for them. -/
theorem Rule.comesThrough_json_iff (r : Rule) : r.ComesThrough .json ↔ r.Printable := by
  have hkeeps : ∀ v : Value, Passage.json.Keeps v ↔ v.Portable := Value.throughJson_eq_self_iff
  cases r with
  | float r => exact and_congr Passage.json_bound_iff Passage.json_bound_iff
  | oneOf | noneOf | optional => exact forall₂_congr fun v _ => hkeeps v
  | text | integer | boolean | bytes | hex | uuid | time | pattern | required | nil | anything
  | list | textList | map | or | switch | custom => exact Iff.rfl

/-- **A form is loaded from what comes through of its description**, if all rules inside it are told
by their descriptions and come through.

**Proof sketch.** Its rules are rebuilt, so what comes through of its description is sound and
builds a form that does the same. -/
theorem Form.load_through [PatternEngine] {P : Passage} {f : Form} (hwf : f.WellFormed)
    (hmsg : f.errorMsg ≠ some "") (hparts : ∀ s ∈ f.parts, s.Told ∧ s.ComesThrough P)
    {d : FormDescription} (hd : f.describe .builtin = .ok d) :
    ∃ m g, d.toValue = .ok (.map m) ∧ (Value.map m).WellFormed ∧
      Registry.builtin.load (P.entries m) = .ok g ∧ g.Alike f := by
  rw [f.parts_eq_flatMap, List.forall_mem_flatMap] at hparts
  have hrules : ∀ r ∈ f.rules, r.Rebuilt P := fun r hr => Rule.rebuilt_of_parts r (hparts r hr)
  obtain ⟨d', hcarries, hbuilt⟩ := Translation.rebuilds_form hmsg hwf.1 hwf.2 hrules d hd
  obtain ⟨m, hm, hmwf, hread⟩ := hcarries.exists_restore
  have hthrough : (Value.map (P.entries m)).WellFormed := P.map m ▸ P.wellFormed hmwf
  have hsound := FormDescription.schema.sound_of_read? hthrough (Nat.le_refl _) hread
  obtain ⟨g, hg, halike⟩ := hbuilt _ Registry.builtin.resolve (fun _ _ => rfl)
    ⟨_, Nat.lt_succ_self _, hsound⟩
  exact ⟨m, g, hm, hmwf, Registry.load_eq_ok_iff.mpr ⟨d', hread, hg⟩, halike⟩

/-- What JSON keeps of a value is read from its text over several lines. -/
lemma parse_prettyText {floats : Binary64 → Prop} (hfloats : Json.ReadsFloats floats) {v : Value}
    (hv : v.WellFormed) (hlegible : v.toJson.Legible floats) (hdepth : v.toJson.depth < 128) :
    DocumentFormat.json.parse (prettyText v) = .ok v.throughJson := by
  have hnewline : ∀ c ∈ ['\n'], Json.Blank c := by simp [Json.Blank]
  have hread : Value.readJson? (prettyText v) = some v.throughJson :=
    Value.readJson?_pretty hfloats hv hdepth hlegible hnewline
  simp only [DocumentFormat.parse, hread]

/-- **A form that was loaded is described, printed as JSON, read and loaded again**, and what is
loaded gives the same result for every input, in both modes and in every context, if JSON has a form
for the parameters of all rules inside the form. The text must nest fewer than 128 levels, and the
floats in it must be among some that are read as they are printed.

**Proof sketch.** The form is told by its description, since it was loaded. The text of the
description is read as what JSON keeps of it, and from that the form is loaded as one that does the
same. -/
theorem Registry.load_describe_print [PatternEngine] {floats : Binary64 → Prop}
    (hfloats : Json.ReadsFloats floats) {description : Dict Value}
    (hdescription : (Value.map description).WellFormed) {f : Form}
    (h : Registry.builtin.load description = .ok f)
    (hprintable : ∀ s ∈ f.parts, s.Printable)
    (htext : ∀ v, describeForm f = .ok v → v.toJson.Legible floats ∧ v.toJson.depth < 128) :
    ∃ v text m g, describeForm f = .ok v ∧ writeDocument .json v = .ok text ∧
      DocumentFormat.json.parse text = .ok (.map m) ∧ Registry.builtin.load m = .ok g ∧
        ∀ mode input context, g.run mode input context = f.run mode input context := by
  obtain ⟨d, -, hd, -⟩ := Registry.load_describe hdescription h
  obtain ⟨hwf, hmsg, htold⟩ := Registry.told_of_load hdescription h
  have hparts : ∀ s ∈ f.parts, s.Told ∧ s.ComesThrough .json :=
    fun s hs => ⟨htold s hs, s.comesThrough_json_iff.mpr (hprintable s hs)⟩
  obtain ⟨m, g, hm, hmwf, hg, halike⟩ := Form.load_through hwf hmsg hparts hd
  have hdescribe : describeForm f = .ok (.map m) := by
    rw [describeForm, hd]
    exact mapError_eq_ok_iff.mpr hm
  obtain ⟨hlegible, hdepth⟩ := htext _ hdescribe
  have hparse : DocumentFormat.json.parse (prettyText (.map m)) =
      .ok (.map (Passage.json.entries m)) :=
    (parse_prettyText hfloats hmwf hlegible hdepth).trans (congrArg Except.ok (Passage.json.map m))
  refine ⟨.map m, prettyText (.map m), _, g, hdescribe, rfl, hparse, hg, ?_⟩
  intro mode input context
  rw [halike]

section Samples

open Binary64 (infinity)
open Json (half)

/-- A description of fields with chains of rules. -/
def chainsDescription (ds : List (String × List RuleDescription)) : Dict Value :=
  [("fields", .list (ds.map fun d => .map [("name", .string d.1), ("validators", .list
    (d.2.map fun r => .map [("type", .string r.typeName), ("params", .map r.params)]))]))]

/-- A form of fields with chains of rules. -/
def chainsForm (rs : List (String × List Rule)) : Form := .new (rs.map fun r => .new r.1 r.2)

/-- Fields are loaded rule by rule. -/
lemma load_chains [PatternEngine] {ds : List (String × List RuleDescription)}
    {rs : List (String × List Rule)}
    (hparse : FormDescription.parse (chainsDescription ds) =
      .ok ⟨false, false, none, none, [], ds.map fun d => ⟨d.1, d.2, []⟩⟩)
    (h : List.Forall₂ (fun d r => d.1 = r.1 ∧
      List.Forall₂ (fun d r => Registry.builtin.resolve d = .ok r) d.2 r.2) ds rs) :
    Registry.builtin.load (chainsDescription ds) = .ok (chainsForm rs) := by
  rw [Registry.load, hparse]
  refine map_eq_ok_iff.mpr ⟨_, (Translation.isTraversal_buildFields _).eq_ok_iff.mpr ?_, rfl⟩
  rw [List.forall₂_map_left_iff, List.forall₂_map_right_iff]
  refine h.imp ?_
  rintro ⟨_, ds⟩ ⟨name, rs⟩ ⟨rfl, hrs⟩
  exact map_eq_ok_iff.mpr ⟨rs, (Translation.isTraversal_resolveEach _).eq_ok_iff.mpr hrs, rfl⟩

/-- Descriptions of rules for lists of texts and for floats from one half up to the positive
infinity. -/
def boundedRules : List (String × List RuleDescription) :=
  [("tags", [⟨"IsStringList", textsParams⟩]),
    ("size", [⟨"IsFloat",
      [("convert", .bool false), ("min", .float half), ("max", .float (infinity false))]⟩])]

/-- The form of these rules. -/
def boundedForm : Form :=
  chainsForm [("tags", [.textList [.text ⟨some 1, none⟩]]),
    ("size", [.float ⟨false, some half, some (infinity false)⟩])]

/-- The description repeats no key. -/
lemma bounded_wellFormed : (Value.map (chainsDescription boundedRules)).WellFormed := by decide

/-- The text of the description has no float but one half. -/
lemma bounded_legible :
    (Value.map (chainsDescription boundedRules)).toJson.Legible (· = half) := by
  simp [chainsDescription, boundedRules, textsParams, infinity, half, Binary64.isFinite,
    Binary64.exponentField, Value.toJson, Value.toJsonItems, Value.toJsonMembers, Value.jsonOfInt,
    Json.Legible, Json.LegibleItems, Json.LegibleMembers]

/-- The form is described as it was. -/
lemma describe_bounded [PatternEngine] :
    describeForm boundedForm = .ok (.map (chainsDescription boundedRules)) := rfl

/-- The description loads as the form. -/
lemma load_bounded [PatternEngine] :
    Registry.builtin.load (chainsDescription boundedRules) = .ok boundedForm := by
  have hsize : Registry.builtin.resolve ⟨"IsFloat",
      [("convert", .bool false), ("min", .float half), ("max", .float (infinity false))]⟩ =
        .ok (.float ⟨false, some half, some (infinity false)⟩) :=
    (Translation.resolve_eq rfl).trans rfl
  exact load_chains rfl (by simp [boundedRules, resolve_texts, hsize])

/-- A form with a finite and an infinite bound is loaded again from the text of its description, in
which the first one is a numeral and the other one null. -/
theorem Registry.bounded_load_describe_print :
    ∃ v text m g, describeForm boundedForm = .ok v ∧ writeDocument .json v = .ok text ∧
      DocumentFormat.json.parse text = .ok (.map m) ∧ Registry.builtin.load m = .ok g ∧
        ∀ mode input context, g.run mode input context = boundedForm.run mode input context := by
  have hprintable : ∀ s ∈ boundedForm.parts, s.Printable := by
    simp [boundedForm, chainsForm, Form.new, Form.parts, Field.new, Field.allParts, Rule.parts,
      Rule.chainParts, Rule.Printable, infinity, half]
  refine Registry.load_describe_print Json.readsFloats_half bounded_wellFormed load_bounded
    hprintable ?_
  rw [describe_bounded]
  rintro _ ⟨⟩
  exact ⟨bounded_legible, by decide⟩

/-- Descriptions of rules that hold some values. -/
def valuedRules (least most choice value default : Value) : List (String × List RuleDescription) :=
  [("min", [⟨"IsFloat", [("convert", .bool false), ("min", least)]⟩]),
    ("max", [⟨"IsFloat", [("convert", .bool false), ("max", most)]⟩]),
    ("choices", [⟨"IsIn", [("choices", .list [choice])]⟩]),
    ("values", [⟨"IsNotIn", [("values", .list [value])]⟩]),
    ("default", [⟨"IsOptional", [("default", default)]⟩, ⟨"IsList", [("validators", .list [])]⟩])]

/-- The form of these rules. -/
def valuedForm (least most : Option Binary64) (choice value default : Value) : Form :=
  chainsForm [("min", [.float ⟨false, least, none⟩]), ("max", [.float ⟨false, none, most⟩]),
    ("choices", [.oneOf ⟨[choice]⟩]), ("values", [.noneOf ⟨[value]⟩]),
    ("default", [.orDefault default, .list []])]

/-- Descriptions of rules that hold infinities and bytes. -/
def lostRules : List (String × List RuleDescription) :=
  valuedRules (.float (infinity false)) (.float (infinity true)) (.bytes [1])
    (.float (infinity false)) (.bytes [1])

/-- The form of these rules. -/
def lostForm : Form :=
  valuedForm (some (infinity false)) (some (infinity true)) (.bytes [1]) (.float (infinity false))
    (.bytes [1])

/-- Descriptions of rules that hold what JSON keeps of these values. -/
def keptRules : List (String × List RuleDescription) :=
  valuedRules .null .null (.list [.int 1]) .null (.list [.int 1])

/-- The form of these rules. -/
def keptForm : Form := valuedForm none none (.list [.int 1]) .null (.list [.int 1])

/-- Their description loads as the form. -/
lemma load_lost [PatternEngine] :
    Registry.builtin.load (chainsDescription lostRules) = .ok lostForm := by
  refine load_chains rfl (.cons ⟨rfl, .cons ?_ .nil⟩ (.cons ⟨rfl, .cons ?_ .nil⟩
    (.cons ⟨rfl, .cons ?_ .nil⟩ (.cons ⟨rfl, .cons ?_ .nil⟩
      (.cons ⟨rfl, .cons ?_ (.cons ?_ .nil)⟩ .nil)))))
  all_goals exact (Translation.resolve_eq rfl).trans rfl

/-- What JSON keeps of the description loads as the other form. -/
lemma load_kept [PatternEngine] :
    Registry.builtin.load (chainsDescription keptRules) = .ok keptForm := by
  refine load_chains rfl (.cons ⟨rfl, .cons ?_ .nil⟩ (.cons ⟨rfl, .cons ?_ .nil⟩
    (.cons ⟨rfl, .cons ?_ .nil⟩ (.cons ⟨rfl, .cons ?_ .nil⟩
      (.cons ⟨rfl, .cons ?_ (.cons ?_ .nil)⟩ .nil)))))
  all_goals exact (Translation.resolve_eq rfl).trans rfl

/-- What JSON keeps of the description is read from its text. -/
lemma parse_lost : DocumentFormat.json.parse (prettyText (.map (chainsDescription lostRules))) =
    .ok (.map (chainsDescription keptRules)) := by
  have hwf : (Value.map (chainsDescription lostRules)).WellFormed := by decide
  have hlegible : (Value.map (chainsDescription lostRules)).toJson.Legible fun _ => False := by
    simp [lostRules, valuedRules, chainsDescription, infinity, Binary64.isFinite,
      Binary64.exponentField, Value.toJson, Value.toJsonItems, Value.toJsonMembers,
      Json.Legible, Json.LegibleItems, Json.LegibleMembers]
  have hthrough : (Value.map (chainsDescription lostRules)).throughJson =
      .map (chainsDescription keptRules) := rfl
  rw [← hthrough]
  exact parse_prettyText Json.readsFloats_false hwf hlegible (by decide)

/-- The keys under which a form reports errors. -/
def failedKeys : Except FormError (Dict Value) → List String
  | .ok _ => []
  | .error e => Dict.keys e.errors

/-- An input of a number, bytes and nulls. -/
def mixedInput : Dict Value :=
  [("min", .float ⟨0x3ff0000000000000⟩), ("max", .float ⟨0x3ff0000000000000⟩),
    ("choices", .bytes [1]), ("values", .null), ("default", .null)]

/-- **Infinities and bytes are lost in a text.** The form holds infinite bounds, bytes as a choice
and as a default and an infinity as an illegal value. In the text of its description the infinities
are null and the bytes are lists, so what is loaded from it rejects bytes and null, which the form
accepts, and accepts numbers and its default, which the form rejects. -/
theorem Registry.not_load_describe_print :
    ∃ text, Registry.builtin.load (chainsDescription lostRules) = .ok lostForm ∧
      describeForm lostForm = .ok (.map (chainsDescription lostRules)) ∧
        writeDocument .json (.map (chainsDescription lostRules)) = .ok text ∧
          DocumentFormat.json.parse text = .ok (.map (chainsDescription keptRules)) ∧
            Registry.builtin.load (chainsDescription keptRules) = .ok keptForm ∧
              failedKeys (lostForm.run .full mixedInput none) = ["min", "max", "default"] ∧
                failedKeys (keptForm.run .full mixedInput none) = ["choices", "values"] :=
  ⟨_, load_lost, rfl, rfl, parse_lost, load_kept, by decide +kernel, by decide +kernel⟩

end Samples

end Intake
