import Intake.Form.Run
import Mathlib.Data.List.Infix
import Mathlib.Tactic.Lemma

set_option autoImplicit false

/-!
# Chains of fields and chains inside rules

The rules of a field and the rules inside another rule run in the same way, each on the result of
the one before, until one rejects its value. They part at null: it ends the chain of a field, and a
chain inside another rule hands it on. So the chain of a field does what the chain inside another
rule does up to the first null.

## Main definitions

* `Rule.stops` — a chain inside another rule gives null or rejects its value.
* `Rule.firstStop?` — the shortest non-empty prefix of a chain that stops.

## Main results

* `Rule.firstStop?_cons` — where a chain stops is decided by its first rule or behind it.
* `runChain_eq_checkNested_firstStop` — the chain of a field is the chain inside another rule up to
  where it stops.
-/

namespace Intake

/-- The first rule of a chain decides how it goes on: null and rejections end it. -/
lemma runChain_cons (r : Rule) (rest : List Rule) (values : Dict Value)
    (context : Option (Dict Value)) (v : Value) :
    runChain (r :: rest) values context v =
      match r.check values context v with
      | .error e => .error e
      | .ok w => if w.isNull then .ok w else runChain rest values context w := by
  rw [runChain]
  cases r.check values context v with
  | error e => rfl
  | ok w => cases w <;> rfl

namespace Rule

variable (values : Dict Value) (context : Option (Dict Value))

/-- A chain inside another rule gives null or rejects its value. -/
def stops (v : Value) (chain : List Rule) : Bool :=
  match checkNested chain values context v with
  | .error _ => true
  | .ok w => w.isNull

/-- The shortest prefix of a chain, other than the empty one, on which a chain inside another rule
gives null or rejects its value. -/
def firstStop? (v : Value) (chain : List Rule) : Option (List Rule) :=
  chain.inits.tail.find? (stops values context v)

/-- A chain inside another rule runs on, one part behind the other, unless a rule rejects its
value. -/
lemma checkNested_append (before after : List Rule) (v : Value) :
    checkNested (before ++ after) values context v =
      (checkNested before values context v).bind fun w => checkNested after values context w := by
  induction before generalizing v with
  | nil => rfl
  | cons r rest ih =>
    rw [List.cons_append, checkNested, checkNested]
    cases r.check values context v with
    | error e => rfl
    | ok w => exact ih w

/-- A chain whose first rule gives a value stops where the rest does on that value. -/
lemma stops_cons {r : Rule} {v w : Value} (h : r.check values context v = .ok w)
    (rest : List Rule) : stops values context v (r :: rest) = stops values context w rest := by
  simp only [stops, checkNested, h]

/-- Where a chain stops is decided by its first rule, if it gives null or rejects the value, and
else by the rules behind it. -/
lemma firstStop?_cons (r : Rule) (rest : List Rule) (v : Value) :
    firstStop? values context v (r :: rest) =
      match r.check values context v with
      | .error _ => some [r]
      | .ok w =>
        if w.isNull then some [r] else (firstStop? values context w rest).map (r :: ·) := by
  have hinits : rest.inits = [] :: rest.inits.tail := by cases rest <;> simp
  have hprefixes : (r :: rest).inits.tail = [r] :: rest.inits.tail.map (r :: ·) := by
    rw [List.inits_cons, List.tail_cons, hinits, List.map_cons, List.tail_cons]
  unfold firstStop?
  rw [hprefixes]
  cases h : r.check values context v with
  | error e =>
    apply List.find?_cons_of_pos
    simp [stops, checkNested, h]
  | ok w =>
    dsimp only
    split_ifs with hw
    · apply List.find?_cons_of_pos
      simpa [stops, checkNested, h] using hw
    · have hfirst : ¬ stops values context v [r] = true := by simpa [stops, checkNested, h] using hw
      have hrest : stops values context v ∘ (r :: ·) = stops values context w := by
        funext chain
        exact stops_cons values context h chain
      rw [List.find?_cons_of_neg hfirst, List.find?_map, hrest]

/-- Where a chain stops, it has a non-empty prefix that stops. -/
lemma firstStop?_spec {v : Value} {chain before : List Rule}
    (h : firstStop? values context v chain = some before) :
    before <+: chain ∧ before ≠ [] ∧ stops values context v before = true := by
  have hmem : before ∈ chain.inits.tail := List.mem_of_find?_eq_some h
  refine ⟨(List.mem_inits _ _).mp (List.mem_of_mem_tail hmem), ?_, List.find?_some h⟩
  rintro rfl
  cases chain with
  | nil => simp at hmem
  | cons r rest => simp at hmem

end Rule

/-- **The chain of a field is the chain inside another rule up to where it stops.** It gives what
the chain inside another rule gives on the shortest non-empty prefix on which that gives null or
rejects the value, and on the whole chain if there is none. In particular, the two agree whenever no
rule before the last one gives null.

**Proof sketch.** Induction on the chain: a first rule that gives null or rejects the value is the
prefix, and behind any other one the same holds of the rest. If the prefix is not the whole chain
and does not give null, it rejects the value, and then so does the whole chain. -/
theorem runChain_eq_checkNested_firstStop (chain : List Rule) (values : Dict Value)
    (context : Option (Dict Value)) (v : Value) :
    runChain chain values context v =
        Rule.checkNested ((Rule.firstStop? values context v chain).getD chain) values context v ∧
      ((∀ before, before <+: chain → before ≠ [] → before ≠ chain →
          Rule.checkNested before values context v ≠ .ok .null) →
        runChain chain values context v = Rule.checkNested chain values context v) := by
  have hstop : ∀ v, runChain chain values context v =
      Rule.checkNested ((Rule.firstStop? values context v chain).getD chain) values context v := by
    induction chain with
    | nil => intro v; rfl
    | cons r rest ih =>
      intro v
      rw [runChain_cons, Rule.firstStop?_cons]
      cases h : r.check values context v with
      | error e => simp [Rule.checkNested, h]
      | ok w =>
        dsimp only
        split_ifs with hw
        · simp [Rule.checkNested, h]
        · rw [ih w]
          cases Rule.firstStop? values context w rest <;> simp [Rule.checkNested, h]
  refine ⟨hstop v, fun hnull => ?_⟩
  rw [hstop v]
  cases hfirst : Rule.firstStop? values context v chain with
  | none => rfl
  | some before =>
    rw [Option.getD_some]
    obtain ⟨⟨after, happend⟩, hne, hstops⟩ := Rule.firstStop?_spec values context hfirst
    by_cases hwhole : before = chain
    · rw [hwhole]
    · rw [← happend, Rule.checkNested_append]
      have hbefore := hnull before ⟨after, happend⟩ hne hwhole
      cases h : Rule.checkNested before values context v with
      | error e => rfl
      | ok w =>
        have hw : w.isNull = true := by simpa [Rule.stops, h] using hstops
        cases w with
        | null => exact absurd h hbefore
        | _ => cases hw

/-- An optional value that is missing ends the chain of a field, but inside another rule it is
handed on to the rule for text, which rejects it. A chain on a null whose rules give no null before
the last one runs alike in both. -/
theorem missing_runChain_eq_checkNested :
    runChain [.orNull, .anyText] [] none (.string "") = .ok .null ∧
      Rule.checkNested [.orNull, .anyText] [] none (.string "") = .error .notString ∧
      Rule.firstStop? [] none (.string "") [.orNull, .anyText] = some [.orNull] ∧
      runChain [.orDefault (.string "x"), .anyText] [] none .null =
        Rule.checkNested [.orDefault (.string "x"), .anyText] [] none .null := by
  refine ⟨by rfl, by rfl, by rfl, ?_⟩
  apply (runChain_eq_checkNested_firstStop _ [] none .null).2
  intro before hprefix hne hwhole
  have hbefore : before = [.orDefault (.string "x")] := by
    simp only [← List.mem_inits, List.inits_cons] at hprefix
    simp_all
  rw [hbefore]
  exact nofun

end Intake
