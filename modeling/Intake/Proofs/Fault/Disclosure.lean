import Intake.Command.Basic
import Mathlib.Data.List.Forall2
import Mathlib.Tactic.Lemma

set_option autoImplicit false

/-!
# What a report discloses

An external consumer sees the details of external faults only. So two chains of faults that differ
in what is internal, and in the foreign cause at their ends, look the same from outside. An internal
consumer sees every cause as it is.

## Main definitions

* `Fault.chain`, `Fault.causes` — the faults of a chain, and the causes of a fault in order.
* `Fault.LooksLike` — faults that differ in internal details only.
* `Cause.details` — all there is to see of a cause.

## Main results

* `Fault.traceback_external`, `Fault.traceback_internal` — what either consumer sees of the causes.
* `Fault.report_discloses_only_external` — chains that differ in internal details have the same
  external report, and an internal report hides nothing.
* `validationOutcome_external` — an external consumer does not learn which schema rejected an input.
-/

namespace Intake

namespace Fault

/-! ### Chains -/

/-- The faults of a chain, from the outermost to the last one before a foreign cause. -/
def chain (f : Fault) : List Fault := f :: f.sources

mutual

/-- The causes of a fault, the nearest first. -/
def causes : Fault → List Cause
  | ⟨_, _, _, _, cause⟩ =>
    match cause with
    | none => []
    | some c => causesFrom c
termination_by structural f => f

/-- A cause and the causes behind it. -/
def causesFrom : Cause → List Cause
  | .fault f => .fault f :: causes f
  | .foreign message typeName => [.foreign message typeName]
termination_by structural c => c

end

/-- All there is to see of a fault. -/
def details (f : Fault) : Disclosure := ⟨f.message, f.code, f.data⟩

end Fault

/-- All there is to see of a cause: a foreign one shows its message and the name of its type. -/
def Cause.details : Cause → Disclosure
  | .fault f => f.details
  | .foreign message typeName =>
    ⟨message, Fault.foreignCode, some (.map [("type", .string typeName)])⟩

/-- Two faults have the same scope and code, and the same message and datum unless they are
internal. -/
structure Fault.LooksLike (f g : Fault) : Prop where
  scope : f.scope = g.scope
  code : f.code = g.code
  shown : f.scope = .external → f.message = g.message ∧ f.data = g.data

namespace Fault

/-! ### External consumers -/

/-- Faults that look alike are disclosed alike. -/
lemma LooksLike.disclose_eq {f g : Fault} (h : f.LooksLike g) :
    f.disclose .external = g.disclose .external := by
  rw [disclose, disclose, ← h.scope, ← h.code]
  cases hscope : f.scope with
  | external =>
    obtain ⟨hmessage, hdata⟩ := h.shown hscope
    rw [hmessage, hdata]
  | internal => rfl

mutual

/-- An external consumer sees the faults down the chain, each as it is disclosed. -/
lemma traceback_external : ∀ f : Fault,
    f.traceback .external = f.sources.map (disclose .external)
  | ⟨_, _, _, _, none⟩ => rfl
  | ⟨_, _, _, _, some c⟩ => tracebackOf_external c
termination_by structural f => f

/-- An external consumer sees nothing of a foreign cause. -/
lemma tracebackOf_external : ∀ c : Cause,
    tracebackOf .external c = (sourcesOf c).map (disclose .external)
  | .fault f => congrArg (f.disclose .external :: ·) (traceback_external f)
  | .foreign _ _ => rfl
termination_by structural c => c

end

/-- Faults that look alike one by one are disclosed alike one by one. -/
lemma map_disclose_eq {fs gs : List Fault} (h : List.Forall₂ LooksLike fs gs) :
    fs.map (disclose .external) = gs.map (disclose .external) := by
  induction h with
  | nil => rfl
  | cons hfirst _ ih => rw [List.map_cons, List.map_cons, hfirst.disclose_eq, ih]

/-- Chains that look alike have the same external report. -/
lemma report_external_eq {f g : Fault} (h : List.Forall₂ LooksLike f.chain g.chain) :
    f.report .external = g.report .external := by
  obtain ⟨hfirst, hsources⟩ := List.forall₂_cons.mp h
  rw [report, report, traceback_external, traceback_external, hfirst.disclose_eq,
    map_disclose_eq hsources]

/-! ### Internal consumers -/

/-- An internal consumer sees all of a fault. -/
lemma disclose_internal (f : Fault) : f.disclose .internal = f.details := by
  obtain ⟨scope, message, code, data, cause⟩ := f
  cases scope <;> rfl

mutual

/-- An internal consumer sees all of every cause. -/
lemma traceback_internal : ∀ f : Fault, f.traceback .internal = f.causes.map Cause.details
  | ⟨_, _, _, _, none⟩ => rfl
  | ⟨_, _, _, _, some c⟩ => tracebackOf_internal c
termination_by structural f => f

/-- An internal consumer sees all of a cause and of every cause behind it. -/
lemma tracebackOf_internal : ∀ c : Cause,
    tracebackOf .internal c = (causesFrom c).map Cause.details
  | .fault f => by
    rw [tracebackOf, causesFrom, List.map_cons, disclose_internal, traceback_internal f]
    rfl
  | .foreign _ _ => rfl
termination_by structural c => c

end

/-! ### Reports -/

/-- **A report discloses nothing internal to external consumers, and everything to internal ones.**
Two chains of as many faults, which look alike one by one, have the same external report, whatever
foreign causes stand at their ends. An internal report shows the fault and each of its causes, in
order, with their own messages, codes and data.

**Proof sketch.** An external traceback discloses the faults down the chain one by one
(`Fault.traceback_external`), and faults that look alike are disclosed alike. An internal one shows
each cause with all its details (`Fault.traceback_internal`). -/
theorem report_discloses_only_external :
    (∀ f g : Fault, List.Forall₂ LooksLike f.chain g.chain →
      f.report .external = g.report .external ∧ f.disclose .external = g.disclose .external) ∧
    ∀ f : Fault, (f.report .internal).error = f.details ∧
      (f.report .internal).traceback = f.causes.map Cause.details := by
  refine ⟨fun f g h => ⟨report_external_eq h, ?_⟩, fun f => ⟨?_, ?_⟩⟩
  · obtain ⟨hfirst, -⟩ := List.forall₂_cons.mp h
    exact hfirst.disclose_eq
  · exact disclose_internal f
  · exact traceback_internal f

/-- Two failures to load a record, one with an internal datum and one with a foreign cause, look the
same from outside. -/
theorem loading_report_external :
    let offline := (Fault.new .internal "database offline" "DB-ERROR").withData (.string "/var/db")
    let refused := (Fault.new .internal "connection refused" "DB-ERROR").causedByForeign
      "os error 111" "IoError"
    let loading := fun root => (Fault.new .external "request failed" "REQUEST-ERROR").causedBy
      (((Fault.new .external "cannot load record" "LOAD-ERROR").withData
        (.string "record-1")).causedBy root)
    List.Forall₂ LooksLike (loading offline).chain (loading refused).chain ∧
      (loading offline).report .external = (loading refused).report .external := by
  intro offline refused loading
  have h : List.Forall₂ LooksLike (loading offline).chain (loading refused).chain :=
    .cons ⟨rfl, rfl, fun _ => ⟨rfl, rfl⟩⟩ (.cons ⟨rfl, rfl, fun _ => ⟨rfl, rfl⟩⟩
      (.cons ⟨rfl, rfl, nofun⟩ .nil))
  exact ⟨h, (report_discloses_only_external.1 _ _ h).1⟩

end Fault

/-- An external consumer does not learn which schema rejected an input. -/
theorem validationOutcome_external (schema other : String)
    (result : Except FormError (Dict Value)) :
    validationOutcome .external schema result = validationOutcome .external other result := by
  cases result with
  | ok values => rfl
  | error e =>
    have h : List.Forall₂ Fault.LooksLike (rejectionFault schema e).chain
        (rejectionFault other e).chain :=
      .cons ⟨rfl, rfl, fun _ => ⟨rfl, rfl⟩⟩ (.cons ⟨rfl, rfl, nofun⟩ .nil)
    rw [validationOutcome, validationOutcome, Fault.report_external_eq h]

end Intake
