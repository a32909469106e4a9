import Intake.Proofs.Fault.Disclosure

set_option autoImplicit false

/-!
# The text, the sources and the traceback of a fault

The text of a fault, the faults found by asking for its source again and again, and its internal
traceback are three ways to walk down one chain of causes. They meet the same causes in the same
order. A foreign cause is spelled out and traced, and it ends the walk along the sources.

## Main definitions

* `Fault.sourceAfter` — the fault some steps down the chain, each step asking for the source.
* `behindColons` — messages one after another, each behind a colon.

## Main results

* `Fault.display_eq` — the text of a fault spells out its causes.
* `Fault.sourceAfter_succ_eq_some_iff` — the sources are the causes that are faults.
* `Fault.display_traceback_sources` — the three walks agree.
-/

namespace Intake

/-- The messages of some disclosures, each behind a colon. -/
def behindColons (ds : List Disclosure) : String := String.join (ds.map fun d => ": " ++ d.message)

@[simp] lemma behindColons_nil : behindColons [] = "" := by simp [behindColons]

@[simp] lemma behindColons_cons (d : Disclosure) (ds : List Disclosure) :
    behindColons (d :: ds) = ": " ++ d.message ++ behindColons ds := by
  simp [behindColons]

@[simp] lemma behindColons_append (ds es : List Disclosure) :
    behindColons (ds ++ es) = behindColons ds ++ behindColons es := by
  simp [behindColons]

namespace Fault

/-- The fault some steps down the chain, if there is one: the source of the fault one step less
down. -/
def sourceAfter (f : Fault) : Nat → Option Fault
  | 0 => some f
  | k + 1 => (f.sourceAfter k).bind source?

/-! ### The text -/

mutual

/-- **The text of a fault spells out its causes**: its message, and behind it the messages of all
causes in order. -/
theorem display_eq : ∀ f : Fault,
    f.display = f.message ++ behindColons (f.causes.map Cause.details)
  | ⟨_, _, _, _, none⟩ => by simp [display, causes]
  | ⟨_, _, _, _, some c⟩ => by
    rw [causes, ← displayCause_eq c, display, String.append_assoc]
termination_by structural f => f

/-- The text from a cause on spells out the cause and those behind it. -/
theorem displayCause_eq : ∀ c : Cause,
    ": " ++ displayCause c = behindColons ((causesFrom c).map Cause.details)
  | .fault f => by
    rw [displayCause, causesFrom, display_eq f, List.map_cons, behindColons_cons,
      ← String.append_assoc]
    rfl
  | .foreign _ _ => by simp [displayCause, causesFrom, Cause.details]
termination_by structural c => c

end

/-! ### The sources -/

/-- The first step down the chain may be taken by itself. -/
lemma sourceAfter_succ (f : Fault) (k : Nat) :
    f.sourceAfter (k + 1) = f.source?.bind fun g => g.sourceAfter k := by
  induction k with
  | zero => simp [sourceAfter]
  | succ k ih =>
    rw [sourceAfter, ih, Option.bind_assoc]
    rfl

/-- The causes of a fault are its own one and those of its source. -/
lemma causes_eq (f : Fault) :
    f.causes =
      match f.cause with
      | none => []
      | some (.fault g) => .fault g :: g.causes
      | some (.foreign message typeName) => [.foreign message typeName] := by
  obtain ⟨scope, message, code, data, cause⟩ := f
  rcases cause with _ | _ | _ <;> simp [causes, causesFrom]

/-- From a source on, the causes of a fault are the source and the causes of the source. -/
lemma drop_causes {f g : Fault} {k : Nat} (h : f.sourceAfter (k + 1) = some g) :
    f.causes.drop k = .fault g :: g.causes := by
  induction k generalizing f with
  | zero =>
    rw [causes_eq]
    rcases hf : f.cause with _ | p | _ <;> simp_all [sourceAfter, source?]
  | succ k ih =>
    rw [sourceAfter_succ] at h
    rw [causes_eq]
    rcases hf : f.cause with _ | p | _
    · simp [source?, hf] at h
    · simp only [source?, hf, Option.bind_some] at h
      exact ih h
    · simp [source?, hf] at h

/-- A cause that is a fault is met on the way along the sources. -/
lemma sourceAfter_of_getElem? {f g : Fault} {k : Nat} (h : f.causes[k]? = some (.fault g)) :
    f.sourceAfter (k + 1) = some g := by
  induction k generalizing f with
  | zero =>
    rw [causes_eq] at h
    rcases hf : f.cause with _ | p | _ <;> simp_all [sourceAfter, source?]
  | succ k ih =>
    rw [causes_eq] at h
    rcases hf : f.cause with _ | p | _
    · simp [hf] at h
    · rw [sourceAfter_succ]
      simp only [source?, hf, Option.bind_some]
      exact ih (by simpa [hf] using h)
    · simp [hf] at h

/-- **The sources are the causes that are faults**, in the same order and without a gap: a foreign
cause is the last one, and the walk ends before it. -/
theorem sourceAfter_succ_eq_some_iff {f g : Fault} {k : Nat} :
    f.sourceAfter (k + 1) = some g ↔ f.causes[k]? = some (.fault g) := by
  constructor
  · intro h
    have hdrop := drop_causes h
    rw [← List.head?_drop, hdrop, List.head?_cons]
  · exact sourceAfter_of_getElem?

/-! ### The three walks -/

/-- **The text, the sources and the internal traceback of a fault tell of the same causes.** The
traceback shows every cause in order; the text is the message of the fault and behind it, each
behind a colon, the messages of the traceback in order; the sources are, step by step, the causes
that are faults; and the text ends in the text of each source, which stands behind the messages of
the fault and of all causes before that source.

**Proof sketch.** The text spells out the causes (`Fault.display_eq`) and the traceback shows them
(`Fault.traceback_internal`). From a source on, the causes of the fault are the source and the
causes of the source (`Fault.drop_causes`), and these are what the text of the source spells
out. -/
theorem display_traceback_sources (f : Fault) :
    (f.report .internal).traceback = f.causes.map Cause.details ∧
    f.display = f.message ++ behindColons (f.report .internal).traceback ∧
    (∀ k g, f.sourceAfter (k + 1) = some g ↔ f.causes[k]? = some (.fault g)) ∧
    ∀ k g, f.sourceAfter (k + 1) = some g →
      f.display =
        f.message ++ behindColons ((f.report .internal).traceback.take k) ++ ": " ++ g.display := by
  have htraced : (f.report .internal).traceback = f.causes.map Cause.details :=
    traceback_internal f
  refine ⟨htraced, ?_, fun k g => sourceAfter_succ_eq_some_iff, ?_⟩
  · rw [htraced, display_eq]
  · intro k g h
    have hsplit : f.causes = f.causes.take k ++ .fault g :: g.causes := by
      rw [← drop_causes h, List.take_append_drop]
    calc f.display
        = f.message ++ behindColons (f.causes.map Cause.details) := display_eq f
      _ = f.message ++ behindColons ((f.causes.take k).map Cause.details) ++
            (": " ++ g.message ++ behindColons (g.causes.map Cause.details)) := by
          conv_lhs => rw [hsplit]
          rw [List.map_append, behindColons_append, List.map_cons, behindColons_cons,
            ← String.append_assoc]
          rfl
      _ = f.message ++ behindColons ((f.report .internal).traceback.take k) ++ ": " ++
            g.display := by
          rw [htraced, List.map_take, display_eq g]
          simp only [String.append_assoc]

/-- The second source of a failure to load a record, whose own cause is foreign. -/
theorem loading_display_sources :
    let refused := (Fault.new .internal "connection refused" "DB-ERROR").causedByForeign
      "os error 111" "IoError"
    let loading := (Fault.new .external "request failed" "REQUEST-ERROR").causedBy
      ((Fault.new .external "cannot load record" "LOAD-ERROR").causedBy refused)
    loading.sourceAfter 2 = some refused ∧ loading.sourceAfter 3 = none ∧
      loading.display = loading.message ++
        behindColons ((loading.report .internal).traceback.take 1) ++ ": " ++ refused.display := by
  intro refused loading
  exact ⟨rfl, rfl, (display_traceback_sources loading).2.2.2 1 refused rfl⟩

end Fault

end Intake
