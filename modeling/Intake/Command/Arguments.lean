import Intake.Command.Basic
import Intake.Pattern.Standard

set_option autoImplicit false

/-!
# Arguments of the program

Arguments name a command and give it options. The scope may stand before or behind the name of the
command, and counts as given for the command if it stands in both places. The program compiles
patterns with the standard engine.

## Main definitions

* `Word`, `Word.ofText` — what an argument looks like.
* `Verb` — the names of commands, and what each may be given.
* `Invocation.ofArguments?` — arguments as a command with a scope.
* `Invocation.respond` — all that the program does with arguments.
-/

namespace Intake

/-- What an argument looks like. -/
inductive Word where
  /-- Ends the options. -/
  | separator
  /-- A long option, perhaps with a value behind an equals sign. -/
  | long (name : String) (value : Option String)
  /-- Short flags. -/
  | short (flags : List Char)
  | plain (text : String)
  deriving DecidableEq, Repr

/-- The name of a long option and the value behind the first equals sign. -/
def splitOption (cs : List Char) : Word :=
  match cs.dropWhile (· != '=') with
  | [] => .long (String.ofList cs) none
  | _ :: value => .long (String.ofList (cs.takeWhile (· != '='))) (some (String.ofList value))

/-- What an argument looks like. A single dash is no option. -/
def Word.ofText (text : String) : Word :=
  match text.toList with
  | ['-', '-'] => .separator
  | '-' :: '-' :: cs => splitOption cs
  | '-' :: c :: cs => .short (c :: cs)
  | _ => .plain text

/-- The names of commands. -/
inductive Verb where
  | validate
  | describe
  | check
  | validators
  deriving DecidableEq, Repr

namespace Verb

/-- The command of a name. -/
def ofText? : String → Option Verb
  | "validate" => some .validate
  | "describe" => some .describe
  | "check" => some .check
  | "validators" => some .validators
  | _ => none

/-- The options with a value that may stand behind a command, or in front of it. -/
def valueOptions : Option Verb → List String
  | none => ["scope"]
  | some .validate => ["scope", "schema"]
  | some .describe => ["scope", "schema", "format"]
  | some .check => ["scope", "schema"]
  | some .validators => ["scope"]

/-- Whether a command may be given an input and be told to take it as an update. -/
def takesInput (verb : Verb) : Bool := verb = .validate

end Verb

/-- The scope of a name. -/
def Scope.ofText? : String → Option Scope
  | "external" => some .external
  | "internal" => some .internal
  | _ => none

/-- The format of a name. -/
def DocumentFormat.ofText? : String → Option DocumentFormat
  | "json" => some .json
  | "yaml" => some .yaml
  | _ => none

/-- What has been given, in front of a command or behind it. -/
structure Given where
  scope : Option Scope
  schema : Option String
  input : Option String
  format : Option DocumentFormat
  update : Bool

namespace Given

/-- Nothing given. -/
def nothing : Given := ⟨none, none, none, none, false⟩

/-- Something in a place where nothing was. -/
def once {α : Type} (old new : Option α) : Option (Option α) :=
  if old.isSome then none else new.map some

/-- A path; the empty text is none. -/
def path? (text : String) : Option String := if text.isEmpty then none else some text

/-- One more option with a value. No option may be given twice. -/
def withValue (verb : Option Verb) (name value : String) (g : Given) : Option Given :=
  if !(Verb.valueOptions verb).contains name then none
  else match name with
    | "scope" => (once g.scope (Scope.ofText? value)).map fun v => { g with scope := v }
    | "schema" => (once g.schema (path? value)).map fun v => { g with schema := v }
    | "format" =>
      (once g.format (DocumentFormat.ofText? value)).map fun v => { g with format := v }
    | _ => none

/-- One more flag. Only the flag for more messages may be given twice. -/
def withFlag (verb : Option Verb) (name : String) (g : Given) : Option Given :=
  if name = "verbose" then some g
  else if name = "update" ∧ verb.any Verb.takesInput ∧ !g.update then
    some { g with update := true }
  else none

/-- An argument that is no option. -/
def withInput (verb : Verb) (text : String) (g : Given) : Option Given :=
  if verb.takesInput then (once g.input (path? text)).map fun v => { g with input := v }
  else none

/-- Arguments that are no options, one by one. -/
def withInputs (verb : Verb) : List String → Given → Option Given
  | [], g => some g
  | text :: rest, g => (g.withInput verb text).bind (withInputs verb rest)

/-- The command with what was given behind it. -/
def command? (g : Given) : Verb → Option Command
  | .validate =>
    match g.schema, g.input with
    | some schema, some input => some (.validate schema input g.update)
    | _, _ => none
  | .describe => g.schema.map fun schema => .describe schema (g.format.getD .json)
  | .check => g.schema.map .check
  | .validators => some .listRules

end Given

/-- Reads arguments: in front of a command up to its name, and behind it to the end. The value of an
option may follow as an argument of its own, unless that looks like an option. -/
def readArguments (verb : Option Verb) (g : Given) :
    List String → Option (Given × Option (Verb × List String))
  | [] => some (g, none)
  | text :: rest =>
    match Word.ofText text, verb with
    | .separator, none => none
    | .separator, some verb => (g.withInputs verb rest).map fun g => (g, none)
    | .long name (some value), _ =>
      match g.withValue verb name value with
      | none => none
      | some g => readArguments verb g rest
    | .long name none, _ =>
      if (Verb.valueOptions verb).contains name then
        match rest with
        | [] => none
        | next :: rest =>
          match Word.ofText next with
          | .plain value =>
            match g.withValue verb name value with
            | none => none
            | some g => readArguments verb g rest
          | _ => none
      else
        match g.withFlag verb name with
        | none => none
        | some g => readArguments verb g rest
    | .short flags, _ => if flags.all (· == 'v') then readArguments verb g rest else none
    | .plain name, none => (Verb.ofText? name).map fun verb => (g, some (verb, rest))
    | .plain value, some v =>
      match g.withInput v value with
      | none => none
      | some g => readArguments verb g rest
termination_by arguments => arguments.length

/-- A command with a scope. -/
structure Invocation where
  command : Command
  scope : Scope
  deriving DecidableEq, Repr

/-- What the program shows and the code that it ends with. -/
structure Response where
  exitCode : UInt8
  output : String
  /-- The text of a failure. -/
  failure : Option String
  deriving DecidableEq, Repr

namespace Response

/-- The response to arguments that mean no command. -/
def misuse : Response := ⟨2, "", none⟩

/-- The response that a command ends with. -/
def ofResult : Except CommandFailure Outcome → Response
  | .ok outcome => ⟨if outcome.rejected then 2 else 0, outcome.output, none⟩
  | .error e => ⟨1, "", some e.message⟩

end Response

namespace Invocation

/-- Arguments as a command with a scope. -/
def ofArguments? (arguments : List String) : Option Invocation :=
  match readArguments none .nothing arguments with
  | some (outer, some (verb, rest)) =>
    match readArguments (some verb) .nothing rest with
    | some (inner, _) =>
      (inner.command? verb).map fun command =>
        ⟨command, (inner.scope.or outer.scope).getD .external⟩
    | none => none
  | _ => none

/-- The response to an invocation. -/
def respond (files : Files) (i : Invocation) : Response :=
  .ofResult (i.command.run files i.scope)

end Invocation

/-- The response to arguments. -/
def respondTo (files : Files) (arguments : List String) : Response :=
  match Invocation.ofArguments? arguments with
  | none => .misuse
  | some i => i.respond files

end Intake
