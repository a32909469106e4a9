import Intake.Command.Arguments

set_option autoImplicit false

/-!
# The program

## Main definitions

* `main` — reads the files that the arguments name, and answers.
-/

namespace Intake

/-- Why the system gives no text, as a failure of the file. -/
def FileFailure.ofError : IO.Error → FileFailure
  | .noFileOrDirectory .. => .missing
  | .permissionDenied .. => .denied
  | .inappropriateType _ 21 _ => .directory
  | .inappropriateType .. => .notDirectory
  | e => .other (toString e)

/-- The text of a file. -/
def readText (path : String) : IO (Except FileFailure String) := do
  try
    let bytes ← IO.FS.readBinFile path
    match String.fromUTF8? bytes with
    | some text => return .ok text
    | none => return .error .notUtf8
  catch e => return .error (.ofError e)

/-- The texts of some files. -/
def readFiles (paths : List String) : IO Files := do
  let mut files : Files := fun _ => .error .missing
  for path in paths do
    let text ← readText path
    let others := files
    files := fun p => if p = path then text else others p
  return files

end Intake

open Intake in
/-- Reads the files that the arguments name, and answers. -/
def main (arguments : List String) : IO UInt32 := do
  match Invocation.ofArguments? arguments with
  | none =>
    IO.eprintln "usage: intake [-v] [--scope external|internal] validate|describe|check|validators"
    return Response.misuse.exitCode.toUInt32
  | some i =>
    let response := i.respond (← readFiles i.command.paths)
    IO.print response.output
    match response.failure with
    | some text => IO.eprintln text
    | none => pure ()
    return response.exitCode.toUInt32
