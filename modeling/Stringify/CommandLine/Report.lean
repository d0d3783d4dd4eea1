import Stringify.CommandLine.Arguments
import Stringify.CommandLine.Path
import Stringify.Json.Reader
import Stringify.Settings.Options
import Stringify.Stub.Module
import Stringify.Ty.Classify

/-!
# Reports

The command reports the verdicts of annotated names, a line for each, and on request the parts to
blame for a finding. It ends with 0 if there are no findings and with 1 otherwise. A stub that
cannot be loaded and a name that is not annotated end it with 2, and nothing is reported then.
-/

namespace Stringify.CommandLine

/-- What the command leaves behind. The notice on its usage, which the errors of a mistake of usage
start with, is laid out for the width of the terminal and left out. -/
structure Outcome where
  exitCode : Nat
  output : String
  errors : String
  deriving DecidableEq, Repr

/-- What ends the command without an outcome. -/
inductive Crash where
  | options (error : OptionsError)
  /-- The path of the stub has a null character. -/
  | nullInPath
  | fault (fault : Stub.Fault)
  deriving DecidableEq, Repr

/-- The wording of what ends the command. -/
def Crash.message : Crash → String
  | .options error => error.message
  | .nullInPath => "embedded null byte"
  | .fault stopped => stopped.message

/-- Why the options of the settings are refused, or why no settings come of them. -/
inductive SettingsFailure where
  | usage (error : UsageError)
  | crash (crash : Crash)
  deriving DecidableEq, Repr

/-- Options must be an object; null stands for no options. -/
def requireObject : Json → Except UsageError (Option Json)
  | .scalar .null => .ok none
  | .object fields => .ok (some (.object fields))
  | _ => .error (.badOptions "options must be a JSON object")

/-- The options that a text writes. -/
def readOptions : Option String → Except UsageError (Option Json)
  | none => .ok none
  | some text =>
    let chars := text.toList
    match Json.read chars with
    | .ok document => requireObject document
    | .error error => .error (.badOptions (error.message chars))

/-- The settings that options give. Values of which no settings can be made are no mistake of
usage. -/
def settingsOf (options : Option Json) : Except SettingsFailure Settings :=
  match Settings.ofOptions options with
  | .ok settings => .ok settings
  | .error error =>
    match error with
    | .namesAreText _ | .flagIsNoBoolean _ => .error (.usage (.badOptions error.message))
    | .notACollection _ | .noSetMember _ => .error (.crash (.options error))

/-- The settings that the arguments ask for: those of the options, then the flag, then the names. -/
def Arguments.settings (arguments : Arguments) : Except SettingsFailure Settings := do
  let options ← (readOptions arguments.options).mapError .usage
  let settings ← settingsOf options
  let settings := if arguments.rejectFunctions then settings.rejecting true else settings
  return settings.ignoring (arguments.ignored.map Text.ofString)

/-- What is reported about a name. -/
structure Entry where
  name : String
  verdict : Verdict
  /-- The names of the parts to blame, if they are asked for and there are any. -/
  blamed : Option (List String)
  deriving DecidableEq, Repr

/-- Why there is no report. -/
inductive ReportFailure where
  | unreadable (error : FileError)
  | refused (error : Stub.Error)
  | fault (fault : Stub.Fault)
  deriving DecidableEq, Repr

/-- The module of a stub, given the bytes of its file. Line ends of all kinds are read as line
feeds. -/
def loadFile [Release] (path : String) (bytes : Except FileError (List UInt8)) :
    Except ReportFailure Stub.Module := do
  match Text.Utf8.decode (← bytes.mapError .unreadable) with
  | .error error => throw (.refused ⟨path, none, .undecodable error⟩)
  | .ok chars =>
    match Stub.Module.load path ((Source.normalizeLineEnds chars).map .ofChar) with
    | .ok module => return module
    | .error (.refused error) => throw (.refused error)
    | .error (.fault fault) => throw (.fault fault)

/-- What is reported about a type. -/
def entryOf (settings : Settings) (explain : Bool) (name : String) (type : Ty) : Entry :=
  let verdict := type.classify settings
  let blamed :=
    if explain && verdict.isFinding then some ((type.offending settings).map Ty.name) else none
  ⟨name, verdict, blamed⟩

/-- The entries of a report on some names of a module, each name once. -/
def entries (module : Stub.Module) (settings : Settings) (explain : Bool) (names : List String) :
    Except Stub.Error (List Entry) :=
  names.eraseDups.mapM fun name => do
    return entryOf settings explain name (← module.value name)

/-- The names that are reported: those asked for, or all annotated ones. -/
def selected (module : Stub.Module) (names : List String) : List String :=
  if names.isEmpty then module.names else names

/-- The report that the arguments ask for. -/
def report [Release] (arguments : Arguments) (settings : Settings)
    (bytes : Except FileError (List UInt8)) : Except ReportFailure (List Entry) := do
  let module ← loadFile (Path.ofString arguments.stub).display bytes
  (entries module settings arguments.explain (selected module arguments.names)).mapError .refused

/-- The lines of an entry. -/
def Entry.text (entry : Entry) : String :=
  let blamed := match entry.blamed with
    | some names => "  offending: " ++ ", ".intercalate names ++ "\n"
    | none => ""
  s!"{entry.name}: {entry.verdict.label}\n" ++ blamed

/-- The outcome of a report. -/
def Outcome.ofEntries (entries : List Entry) : Outcome :=
  let findings := entries.any (·.verdict.isFinding)
  ⟨if findings then 1 else 0, String.join (entries.map Entry.text), ""⟩

/-- The outcome of an error. -/
def Outcome.ofError (message : String) : Outcome :=
  ⟨2, "", s!"error: {message}\n"⟩

/-- The outcome of a mistake of usage. -/
def Outcome.ofUsage (error : UsageError) : Outcome :=
  ⟨2, "", s!"basestr: error: {error.message}\n"⟩

/-- How the command is used. -/
def usage : String :=
  "usage: basestr [-h] [--options OPTIONS] [--ignore-type NAME] [--reject-functions] [--explain] "
    ++ "stub [names ...]\n"

/-- Run the command on the words of a command line. Of the files only the stub is read. -/
def run [Release] (read : Path → Except FileError (List UInt8)) (words : List String) :
    Except Crash Outcome :=
  match Request.ofWords words with
  | .error error => .ok (.ofUsage error)
  | .ok .help => .ok ⟨0, usage, ""⟩
  | .ok (.report arguments) =>
    match arguments.settings with
    | .error (.usage error) => .ok (.ofUsage error)
    | .error (.crash crash) => .error crash
    | .ok settings =>
      let path := Path.ofString arguments.stub
      if path.hasNull then .error .nullInPath
      else match report arguments settings (read path) with
      | .ok entries => .ok (.ofEntries entries)
      | .error (.unreadable error) => .ok (.ofError (error.message path.display))
      | .error (.refused error) => .ok (.ofError error.text.toStringEscaping)
      | .error (.fault fault) => .error (.fault fault)

end Stringify.CommandLine
