import Intake.Form.Basic
import Intake.Record.Coerce
import Intake.Text.LetterCase

set_option autoImplicit false

/-!
# Running rules and forms

A form runs its fields in order on an input. The chain of a field starts from the raw value under
its name, and every value that a rule gives is stored at once, where the rules of later fields see
it; null ends the chain, and is not stored. Failures are collected, not raised. When no field has
failed, the transforms run, and when none of them has failed, the hook. Unknown keys are reported
last.

## Main definitions

* `Rule.check` — a rule on a value.
* `Rule.checkNested` — a chain inside another rule, where null does not end it.
* `Form.run` — a form on an input.
* `runChain` — a chain as a field runs it, on a single value.

## Implementation notes

Rules and forms are run by one recursion over their structure. The functions that see rules only
through what they do (`checkItems`, `runTransforms`, …) stand outside it.
-/

namespace Intake

/-- How a form treats absent values. -/
inductive RunMode where
  | full
  /-- A rule is skipped when the value that it would run on is null; an absent value counts as
  null. -/
  | update
  deriving DecidableEq, Repr

/-- What a form has found so far: the values stored and the errors reported. -/
structure Progress where
  values : Dict Value
  errors : FieldErrors

namespace Progress

/-- Nothing found yet. -/
def start : Progress := ⟨[], []⟩

/-- One more error. -/
def report (p : Progress) (key : String) (r : Rejection) : Progress :=
  { p with errors := FieldErrors.add p.errors key r.toFieldError }

/-- One more value. -/
def store (p : Progress) (key : String) (v : Value) : Progress :=
  { p with values := p.values.insert key v }

end Progress

/-! ### Parts that see rules through what they do -/

/-- The key of the context under which the rules of a form within a form see the values of the form
around it. -/
def parentKey : String := "_parent"

/-- The context of a form within a form. -/
def innerContext (values : Dict Value) (context : Option (Dict Value)) : Dict Value :=
  (context.getD []).insert parentKey (.map values)

/-- The failure of the item of a list at a place. -/
def itemFailure (i : Nat) (r : Rejection) : Rejection :=
  .form ⟨"validation error in list value", [(String.ofList (natChars i), [r.toFieldError])]⟩

/-- Checks items in order, counting them; the first failure decides. -/
def checkItems (f : Value → Except Rejection Value) :
    Nat → List Value → Except Rejection (List Value)
  | _, [] => .ok []
  | i, v :: rest =>
    match f v with
    | .error r => .error (itemFailure i r)
    | .ok w => (checkItems f (i + 1) rest).map (w :: ·)

/-- The texts of a list of texts. -/
def textsOf : List Value → Except Rejection (List String)
  | [] => .ok []
  | .string s :: rest => (textsOf rest).map (s :: ·)
  | _ :: _ => .error .notText

/-- Runs a rule on texts in order; every result must be text. -/
def checkTexts (f : Value → Except Rejection Value) : List String → Except Rejection (List String)
  | [] => .ok []
  | s :: rest =>
    match f (.string s) with
    | .error r => .error r
    | .ok (.string t) => (checkTexts f rest).map (t :: ·)
    | .ok _ => .error .textLost

/-- Coerces the entries of a map into a record, if there is a shape for it. -/
def coerceEntriesInto (shape : Option Shape) (entries : Dict Value) : Except Rejection Value :=
  match shape with
  | none => .ok (.map entries)
  | some shape => (coerceValue (.record shape) (.map entries)).mapError .coerce

/-- The text under the key of a switch; null counts as absent. -/
def selector (values : Dict Value) (key : String) : Except Rejection (Option String) :=
  match values.find? key with
  | none => .ok none
  | some .null => .ok none
  | some (.string s) => .ok (some s)
  | some _ => .error .selectorNotText

/-- Runs the functions of a transform, each on the result of the one before. -/
def transformValue (values : Dict Value) :
    List (Value → Dict Value → Except Rejection Value) → Value → Except Rejection Value
  | [], v => .ok v
  | f :: rest, v =>
    match f v values with
    | .error r => .error r
    | .ok w => transformValue values rest w

/-- Runs a transform: a failure is reported and changes no value, and null removes the value. -/
def runTransform (p : Progress) (t : Transform) : Progress :=
  match transformValue p.values t.functions ((p.values.find? t.field).getD .null) with
  | .error r => p.report t.field r
  | .ok .null => { p with values := p.values.erase t.field }
  | .ok v => p.store t.field v

/-- Runs transforms in order. -/
def runTransforms (p : Progress) (ts : List Transform) : Progress := ts.foldl runTransform p

/-- Runs a hook: the errors and the message that it reports. -/
def runHook (hook : Option Hook) (values : Dict Value) : HookReport :=
  match hook with
  | none => ⟨[], none⟩
  | some f => f values

/-- The input as a form reads it: with its keys in lower case, if they are sanitized. -/
def sanitize (sanitizeKeys : Bool) (input : Dict Value) : Dict Value :=
  if sanitizeKeys then Dict.ofEntries (input.map fun e => (lowerText e.1, e.2)) else input

/-- The keys of an input that are errors in a form of some field names. -/
def unexpectedKeys (strict : Bool) (names : List String) (input : Dict Value) : List String :=
  if strict && !names.contains Field.wildcardName then
    input.keys.filter fun key => !names.contains key
  else []

/-- Reports unknown keys. -/
def reportUnexpected (errors : FieldErrors) (keys : List String) : FieldErrors :=
  keys.foldl (fun errors key => FieldErrors.add errors key (.message "unexpected field")) errors

/-- What a form does behind its fields: transforms, the hook, and the report of unknown keys. -/
def finish (message : String) (transforms : List Transform) (hook : Option Hook)
    (unexpected : List String) (p : Progress) : Except FormError (Dict Value) :=
  let p := if p.errors.isEmpty then runTransforms p transforms else p
  let report := if p.errors.isEmpty then runHook hook p.values else ⟨p.errors, none⟩
  let errors := reportUnexpected report.errors unexpected
  if errors.isEmpty && report.message.isNone then .ok p.values
  else .error ⟨report.message.getD message, errors⟩

/-- The keys of the input that a field of some name runs on. -/
def visitedKeys (name : String) (input : Dict Value) : List String :=
  if name == Field.wildcardName then input.keys else [name]

/-- Copies the raw value under a key, if there is one. -/
def copyRaw (input : Dict Value) (p : Progress) (key : String) : Progress :=
  match input.find? key with
  | some v => p.store key v
  | none => p

/-! ### The recursion -/

mutual

/-- A rule on a value, given the values of its form so far and the context. -/
def Rule.check : Rule → Dict Value → Option (Dict Value) → Value → Except Rejection Value
  | .text r, _, _, v => r.check v
  | .integer r, _, _, v => r.check v
  | .float r, _, _, v => r.check v
  | .boolean r, _, _, v => r.check v
  | .bytes r, _, _, v => r.check v
  | .hex r, _, _, v => r.check v
  | .uuid r, _, _, v => r.check v
  | .time r, _, _, v => r.check v
  | .pattern r, _, _, v => r.check v
  | .oneOf r, _, _, v => r.check v
  | .noneOf r, _, _, v => r.check v
  | .required, _, _, v => if v.isNull then .error .missing else .ok v
  | .optional r, _, _, v => .ok (r.apply v)
  | .nil r, _, _, v => r.check v
  | .anything, _, _, v => .ok v
  | .list chain, values, context, v =>
    match v with
    | .list items =>
      if chain.isEmpty then .ok (.list items)
      else (checkItems (Rule.checkNested chain values context) 0 items).map .list
    | _ => .error .notList
  | .textList chain, values, context, v =>
    match v with
    | .list items =>
      match textsOf items with
      | .error r => .error r
      | .ok texts =>
        (Rule.checkAllTexts chain values context texts).map fun texts =>
          .list (texts.map .string)
    | _ => .error .notList
  | .map form shape, values, context, v =>
    match v with
    | .map entries =>
      match Rule.runInner form (innerContext values context) entries with
      | .error e => .error (.form e)
      | .ok entries => coerceEntriesInto shape entries
    | _ => .error .notMap
  | .or options, values, context, v =>
    match Rule.firstOption options values context v with
    | some w => .ok w
    | none => .error .noOption
  | .switch key cases fallback exhaustive, values, context, v =>
    match selector values key with
    | .error r => .error r
    | .ok selected =>
      match Rule.checkCase cases selected values context v with
      | some r => r
      | none =>
        match Rule.checkFallback fallback values context v with
        | some r => r
        | none => if exhaustive then .error (.unknownCase (selected.getD "")) else .ok v
  | .custom r, values, context, v => r.run v values context
termination_by structural r => r

/-- A chain inside another rule: the first rejection ends it, and null does not. -/
def Rule.checkNested : List Rule → Dict Value → Option (Dict Value) → Value →
    Except Rejection Value
  | [], _, _, v => .ok v
  | r :: rest, values, context, v =>
    match r.check values context v with
    | .error e => .error e
    | .ok w => Rule.checkNested rest values context w
termination_by structural chain => chain

/-- Runs every rule on all texts before the next rule. -/
def Rule.checkAllTexts : List Rule → Dict Value → Option (Dict Value) → List String →
    Except Rejection (List String)
  | [], _, _, texts => .ok texts
  | r :: rest, values, context, texts =>
    match checkTexts (r.check values context) texts with
    | .error e => .error e
    | .ok texts => Rule.checkAllTexts rest values context texts
termination_by structural chain => chain

/-- Runs the form of a rule for maps, if it has one. -/
def Rule.runInner : Option Form → Dict Value → Dict Value → Except FormError (Dict Value)
  | none, _, entries => .ok entries
  | some form, context, entries => form.run .full entries (some context)
termination_by structural form => form

/-- What the first option that takes a value gives. -/
def Rule.firstOption : List (List Rule) → Dict Value → Option (Dict Value) → Value → Option Value
  | [], _, _, _ => none
  | chain :: rest, values, context, v =>
    match Rule.checkNested chain values context v with
    | .ok w => some w
    | .error _ => Rule.firstOption rest values context v
termination_by structural options => options

/-- Runs the chain of the case selected, if there is one. -/
def Rule.checkCase : List (String × List Rule) → Option String → Dict Value →
    Option (Dict Value) → Value → Option (Except Rejection Value)
  | [], _, _, _, _ => none
  | (name, chain) :: rest, selected, values, context, v =>
    if selected = some name then some (Rule.checkNested chain values context v)
    else Rule.checkCase rest selected values context v
termination_by structural cases => cases

/-- Runs the fallback of a switch, if it has one. -/
def Rule.checkFallback : Option (List Rule) → Dict Value → Option (Dict Value) → Value →
    Option (Except Rejection Value)
  | none, _, _, _ => none
  | some chain, values, context, v => some (Rule.checkNested chain values context v)
termination_by structural fallback => fallback

/-- Runs the chain of a field on the value under a key, from what is found so far. -/
def Rule.runSteps : List Rule → RunMode → String → Option (Dict Value) → Progress → Value →
    Progress
  | [], _, _, _, p, _ => p
  | r :: rest, mode, key, context, p, v =>
    if mode = .update ∧ v.isNull then Rule.runSteps rest mode key context p v
    else
      match r.check p.values context v with
      | .error e => p.report key e
      | .ok .null => p
      | .ok w => Rule.runSteps rest mode key context (p.store key w) w
termination_by structural chain => chain

/-- Runs fields in order on an input. A field without rules copies the raw value. -/
def Field.runAll : List Field → RunMode → Option (Dict Value) → Dict Value → Progress → Progress
  | [], _, _, _, p => p
  | ⟨name, chain, _⟩ :: rest, mode, context, input, p =>
    let visit (p : Progress) (key : String) : Progress :=
      if chain.isEmpty then copyRaw input p key
      else Rule.runSteps chain mode key context p ((input.find? key).getD .null)
    Field.runAll rest mode context input ((visitedKeys name input).foldl visit p)
termination_by structural fields => fields

/-- A form on an input. -/
def Form.run : Form → RunMode → Dict Value → Option (Dict Value) → Except FormError (Dict Value)
  | ⟨fields, strict, sanitizeKeys, errorMsg, _, _, transforms, hook⟩, mode, input, context =>
    let input := sanitize sanitizeKeys input
    let p := Field.runAll fields mode context input .start
    finish (errorMsg.getD FormError.defaultMessage) transforms hook
      (unexpectedKeys strict (fields.map Field.name) input) p
termination_by structural form => form

end

/-- A chain as a field runs it, on a single value: a rejection ends it, and so does null. -/
def runChain (chain : List Rule) (values : Dict Value) (context : Option (Dict Value)) (v : Value) :
    Except Rejection Value :=
  match chain with
  | [] => .ok v
  | r :: rest =>
    match r.check values context v with
    | .error e => .error e
    | .ok .null => .ok .null
    | .ok w => runChain rest values context w

namespace Form

/-- A form on an input without a context. -/
def validate (form : Form) (input : Dict Value) : Except FormError (Dict Value) :=
  form.run .full input none

/-- A form on a value, which must be a map. -/
def validateValue (form : Form) (v : Value) : Except FormError (Dict Value) :=
  match v with
  | .map input => form.validate input
  | _ => .error (.bare "invalid input type: not a map")

/-- The input that query parameters make: a list of texts under every name, in the order of the
names. -/
def queryInput (query : Dict (List String)) : Dict Value :=
  (query.sorted).map fun e => (e.1, .list (e.2.map .string))

/-- A form on query parameters. -/
def validateQuery (form : Form) (query : Dict (List String)) : Except FormError (Dict Value) :=
  form.validate (queryInput query)

end Form

end Intake
