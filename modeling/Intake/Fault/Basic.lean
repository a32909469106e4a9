import Intake.Value.Basic

set_option autoImplicit false

/-!
# Chains of scoped errors

A fault is an error with a scope, a code, an optional datum and an optional cause. External faults
are safe to show to anyone; an internal fault shows its message and datum only to consumers that
hold internal scope. A chain of causes may end in a foreign cause, an error that is no fault, known
by its message and the name of its type.

## Main definitions

* `Scope`, `Fault`, `Cause` — the types.
* `Fault.display` — the messages of the chain from the outermost to the root.
* `Fault.source?` — the fault one step down the chain.
* `Fault.disclose`, `Fault.report` — what a consumer of a scope sees.
* `Report.toValue` — a report as data.
-/

namespace Intake

/-- Who may see an error. -/
inductive Scope where
  | external
  | internal
  deriving DecidableEq, Repr, Inhabited

/-- Whether a consumer of one scope sees the details of an error of another. -/
def Scope.sees : Scope → Scope → Bool
  | .external, .internal => false
  | _, _ => true

mutual

/-- An error with a scope, a code, an optional datum and an optional cause. -/
structure Fault where
  scope : Scope
  message : String
  code : String
  data : Option Value
  cause : Option Cause

/-- What a fault was caused by. -/
inductive Cause where
  | fault (f : Fault)
  | foreign (message typeName : String)

end

/-- What a consumer sees of one error. -/
structure Disclosure where
  message : String
  code : String
  data : Option Value

/-- What a consumer sees of an error and of its causes. -/
structure Report where
  error : Disclosure
  traceback : List Disclosure

namespace Fault

/-- The message in place of one that a consumer may not see. -/
def undisclosed : String := "undisclosed error"

/-- The code of foreign causes. -/
def foreignCode : String := "RUST-ERROR"

/-- A fault without datum and cause. -/
def new (scope : Scope) (message code : String) : Fault := ⟨scope, message, code, none, none⟩

/-- The fault with a datum. -/
def withData (f : Fault) (data : Value) : Fault := { f with data := some data }

/-- The fault with another fault as its cause. -/
def causedBy (f parent : Fault) : Fault := { f with cause := some (.fault parent) }

/-- The fault with a foreign cause. -/
def causedByForeign (f : Fault) (message typeName : String) : Fault :=
  { f with cause := some (.foreign message typeName) }

mutual

/-- The messages of the chain, from the outermost to the root, joined by colons. -/
def display : Fault → String
  | ⟨_, message, _, _, cause⟩ =>
    match cause with
    | none => message
    | some c => message ++ ": " ++ displayCause c
termination_by structural f => f

/-- The messages from a cause on. -/
def displayCause : Cause → String
  | .fault f => f.display
  | .foreign message _ => message
termination_by structural c => c

end

/-- The fault one step down the chain; a foreign cause is none. -/
def source? (f : Fault) : Option Fault :=
  match f.cause with
  | some (.fault parent) => some parent
  | _ => none

mutual

/-- The faults down the chain, the outermost one not among them. -/
def sources : Fault → List Fault
  | ⟨_, _, _, _, cause⟩ =>
    match cause with
    | none => []
    | some c => sourcesOf c
termination_by structural f => f

/-- The faults from a cause on. -/
def sourcesOf : Cause → List Fault
  | .fault f => f :: sources f
  | .foreign _ _ => []
termination_by structural c => c

end

/-- What a consumer sees of a fault alone. -/
def disclose (consumer : Scope) (f : Fault) : Disclosure :=
  if consumer.sees f.scope then ⟨f.message, f.code, f.data⟩ else ⟨undisclosed, f.code, none⟩

mutual

/-- What a consumer sees of the causes of a fault, the nearest first. -/
def traceback (consumer : Scope) : Fault → List Disclosure
  | ⟨_, _, _, _, cause⟩ =>
    match cause with
    | none => []
    | some c => tracebackOf consumer c
termination_by structural f => f

/-- What a consumer sees of a cause and its causes. A foreign cause is shown to internal
consumers only. -/
def tracebackOf (consumer : Scope) : Cause → List Disclosure
  | .fault f => f.disclose consumer :: traceback consumer f
  | .foreign message typeName =>
    match consumer with
    | .external => []
    | .internal => [⟨message, foreignCode, some (.map [("type", .string typeName)])⟩]
termination_by structural c => c

end

/-- What a consumer sees of a fault and of its causes. -/
def report (consumer : Scope) (f : Fault) : Report := ⟨f.disclose consumer, f.traceback consumer⟩

end Fault

/-- A disclosure as the entries of a map; an absent datum is left out. -/
def Disclosure.entries (d : Disclosure) : Dict Value :=
  [("message", .string d.message), ("code", .string d.code)] ++
    match d.data with
    | some v => [("data", v)]
    | none => []

/-- A report as data: the error, and the causes unless there are none. -/
def Report.toValue (r : Report) : Value :=
  .map (r.error.entries ++
    if r.traceback.isEmpty then []
    else [("traceback", .list (r.traceback.map fun d => .map d.entries))])

end Intake
