import Stringify.CommandLine.Report

/-!
# The command

Runs the command on the arguments of the process: reads the stub, prints the report and ends with
its exit code.
-/

open Stringify Stringify.CommandLine

/-- The failure of an attempt to read a file. -/
def fileErrorOf : IO.Error → FileError
  | .noFileOrDirectory _ code description => ⟨code.toNat, description⟩
  | .noSuchThing _ code description => ⟨code.toNat, description⟩
  | .inappropriateType _ code description => ⟨code.toNat, description⟩
  | .permissionDenied _ code description => ⟨code.toNat, description⟩
  | error => ⟨0, error.toString⟩

/-- The bytes of a file. -/
def readFile (path : Path) : IO (Except FileError (List UInt8)) := do
  try
    return .ok (← IO.FS.readBinFile path.display).toList
  catch error =>
    return .error (fileErrorOf error)

def main (words : List String) : IO UInt32 := do
  let _release : Release := .late
  let bytes ← match Request.ofWords words with
    | .ok (.report arguments) => readFile (Path.ofString arguments.stub)
    | _ => pure (.error .notFound)
  match run (fun _ => bytes) words with
  | .ok outcome =>
    IO.print outcome.output
    IO.eprint outcome.errors
    return outcome.exitCode.toUInt32
  | .error crash =>
    IO.eprintln crash.message
    return 1
