import Stringify.Release
import Stringify.Text.Digit
import Stringify.Text.Quoted

/-!
# Command-line arguments

The command takes the path of a stub, names in it, and options. The path and the names are one run
of plain words, which options may precede and follow; plain words after another option are left
over. An option may be shortened as long as it is the only one that starts so, and its value may
follow an equals sign. After two dashes every word is plain.
-/

namespace Stringify.CommandLine

/-- An option of the command. -/
inductive CommandOption where
  | help
  | options
  | ignoreType
  | rejectFunctions
  | explain
  deriving DecidableEq, Repr

namespace CommandOption

/-- The ways to write an option. -/
def spellings : CommandOption → List String
  | .help => ["-h", "--help"]
  | .options => ["--options"]
  | .ignoreType => ["--ignore-type"]
  | .rejectFunctions => ["--reject-functions"]
  | .explain => ["--explain"]

/-- All options in the order in which messages list them. -/
def all : List CommandOption :=
  [.help, .options, .ignoreType, .rejectFunctions, .explain]

/-- Every way to write an option, with the option. -/
def table : List (String × CommandOption) :=
  all.flatMap fun option => option.spellings.map (·, option)

/-- Whether a value follows the option. -/
def takesValue : CommandOption → Bool
  | .options | .ignoreType => true
  | _ => false

/-- How messages name the option. -/
def display (option : CommandOption) : String :=
  "/".intercalate option.spellings

end CommandOption

/-- Why arguments are refused. -/
inductive UsageError where
  /-- A shortened option may stand for several ones. -/
  | ambiguous (written : String) (candidates : List String)
  | missingValue (option : CommandOption)
  /-- A value is given to an option that takes none. -/
  | surplusValue (option : CommandOption) (value : String)
  /-- There are no plain words. -/
  | missingStub
  | leftOver (words : List String)
  | badOptions (message : String)
  deriving DecidableEq, Repr

/-- The wording of a refusal. -/
def UsageError.message : UsageError → String
  | .ambiguous written candidates =>
    s!"ambiguous option: {written} could match " ++ ", ".intercalate candidates
  | .missingValue option => s!"argument {option.display}: expected one argument"
  | .surplusValue option value =>
    s!"argument {option.display}: ignored explicit argument {quotedString value}"
  | .missingStub => "the following arguments are required: stub, names"
  | .leftOver words => "unrecognized arguments: " ++ " ".intercalate words
  | .badOptions message => s!"bad --options: {message}"

/-- What a word of the command line is. -/
inductive Word where
  | plain (text : String)
  /-- The two dashes after which every word is plain. -/
  | separator
  /-- An option, possibly with a value after an equals sign. -/
  | given (option : CommandOption) (value : Option String)
  /-- The short form of an option, which takes no value, with one behind an equals sign or with more
  characters. -/
  | cluster (option : CommandOption) (isAssigned : Bool) (value : List Char)
  /-- A word that looks like an option but is none. -/
  | unknown (text : String)
  deriving DecidableEq, Repr

namespace Word

/-- A word cut at its first equals sign. -/
def cut (chars : List Char) : List Char × Option String :=
  let name := chars.takeWhile (· != '=')
  (name, (chars.drop name.length).tail?.map String.ofList)

/-- Whether a word is a negative number in the digits of any script, and so plain. A line feed may
follow it. -/
def isNegativeNumber (chars : List Char) : Bool :=
  match chars with
  | '-' :: rest =>
    let digits := if rest.getLast? == some '\n' then rest.dropLast else rest
    let fraction := digits.dropWhile Text.isDecimal
    match fraction with
    | [] => !digits.isEmpty
    | '.' :: decimals => !decimals.isEmpty && decimals.all Text.isDecimal
    | _ => false
  | _ => false

/-- The word for an option that is written in full up to the given name. -/
def spelledOut? (name : String) (value : Option String) : Option Word :=
  (CommandOption.table.find? (·.1 == name)).map fun (_, option) =>
    if option = .help && name == "-h" then
      match value with
      | none => .given option none
      | some value => .cluster option true value.toList
    else .given option value

/-- The readings of a word as a shortened option, or as a short option with more characters. -/
def readings (chars : List Char) : List (String × Word) :=
  match chars with
  | '-' :: '-' :: _ =>
    let (start, value) := cut chars
    CommandOption.table.filterMap fun (name, option) =>
      if start.isPrefixOf name.toList then some (name, .given option value) else none
  | '-' :: c :: rest =>
    CommandOption.table.filterMap fun (name, option) =>
      if name.toList == ['-', c] then some (name, .cluster option false rest)
      else if chars.isPrefixOf name.toList then some (name, .given option none)
      else none
  | _ => []

/-- What a word before the separator is. -/
def read (text : String) : Except UsageError Word :=
  let chars := text.toList
  let (name, value) := cut chars
  if text = "--" then .ok .separator
  else if chars.head? != some '-' then .ok (.plain text)
  else match spelledOut? text none with
    | some word => .ok word
    | none =>
      if chars.length = 1 then .ok (.plain text)
      else match value.bind fun value => spelledOut? (String.ofList name) (some value) with
        | some word => .ok word
        | none =>
          match readings chars with
          | [(_, word)] => .ok word
          | [] =>
            if isNegativeNumber chars || chars.contains ' ' then .ok (.plain text)
            else .ok (.unknown text)
          | several => .error (.ambiguous text (several.map Prod.fst))

/-- What the words of a command line are. -/
def readAll : List String → Except UsageError (List Word)
  | [] => .ok []
  | text :: rest => do
    match ← read text with
    | .separator => return .separator :: rest.map .plain
    | word => return word :: (← readAll rest)

end Word

/-- The arguments of the command. -/
structure Arguments where
  stub : String
  names : List String
  /-- The options of the settings as a document. -/
  options : Option String
  /-- More type names that count as useful. -/
  ignored : List String
  rejectFunctions : Bool
  explain : Bool
  deriving DecidableEq, Repr

/-- What the command is asked for. -/
inductive Request where
  | help
  | report (arguments : Arguments)
  deriving DecidableEq, Repr

/-- What some words of a command line say. -/
structure Collected where
  /-- The first run of plain words and separators, the latest first. -/
  run : List Word
  /-- The run is over. -/
  isClosed : Bool
  /-- The words that nothing is made of, the latest first. -/
  leftOver : List String
  options : Option String
  ignored : List String
  rejectFunctions : Bool
  explain : Bool

namespace Collected

/-- What no words say. -/
def empty : Collected :=
  ⟨[], false, [], none, [], false, false⟩

/-- Close the run of plain words if it has begun. -/
def closeRun (collected : Collected) : Collected :=
  { collected with isClosed := collected.isClosed || !collected.run.isEmpty }

/-- Add a plain word or a separator to the run, or to what is left over once the run is over. -/
def addPlain (collected : Collected) (word : Word) (text : String) : Collected :=
  if collected.isClosed then { collected with leftOver := text :: collected.leftOver }
  else { collected with run := word :: collected.run }

/-- Add an option that takes no value. -/
def addFlag (collected : Collected) : CommandOption → Collected
  | .rejectFunctions => { collected with rejectFunctions := true }
  | .explain => { collected with explain := true }
  | _ => collected

/-- Add an option with its value. -/
def addValue (collected : Collected) (value : String) : CommandOption → Collected
  | .options => { collected with options := some value }
  | .ignoreType => { collected with ignored := collected.ignored ++ [value] }
  | _ => collected

end Collected

/-- The value that the characters after the short option for help give to it, which takes none. They
may be the same option again, unless they are assigned in a release that passes over characters that
are no option. -/
def surplusValue? [Release] (isAssigned : Bool) (value : List Char) : Option (List Char) :=
  let others := value.dropWhile (· == 'h')
  if Release.passesOver then
    if isAssigned then some value
    else match others with
      | '=' :: value => some value
      | '-' :: _ => some others
      | _ => none
  else if others.isEmpty && !value.isEmpty then none
  else some others

/-- Go through the words of a command line; `none` if help is asked for. -/
def collect [Release] (collected : Collected) : List Word → Except UsageError (Option Collected)
  | [] => .ok (some collected)
  | .plain text :: rest => collect (collected.addPlain (.plain text) text) rest
  | .separator :: rest => collect (collected.addPlain .separator "--") rest
  | .unknown text :: rest =>
    let collected := collected.closeRun
    collect { collected with leftOver := text :: collected.leftOver } rest
  | .cluster option isAssigned value :: _ =>
    match surplusValue? isAssigned value with
    | some value => .error (.surplusValue option (String.ofList value))
    | none => .ok none
  | .given option none :: rest =>
    if option.takesValue then
      match rest with
      | .plain value :: rest => collect (collected.closeRun.addValue value option) rest
      | _ => .error (.missingValue option)
    else if option = .help then .ok none
    else collect (collected.closeRun.addFlag option) rest
  | .given option (some value) :: rest =>
    if option.takesValue then collect (collected.closeRun.addValue value option) rest
    else .error (.surplusValue option value)

/-- The stub and the names in a run of plain words. A separator right after the stub belongs to it,
and of the names the first that is two dashes is dropped. -/
def splitRun : List Word → Option (String × List String)
  | [] => none
  | .plain stub :: rest =>
    let rest := match rest with
      | .separator :: rest => rest
      | rest => rest
    let names := rest.map fun
      | .plain text => text
      | _ => "--"
    some (stub, names.erase "--")
  | _ :: rest => splitRun rest

/-- What the words of a command line ask for. -/
def Request.ofWords [Release] (words : List String) : Except UsageError Request := do
  match ← collect .empty (← Word.readAll words) with
  | none => return .help
  | some collected =>
    match splitRun collected.run.reverse with
    | none => throw .missingStub
    | some (stub, names) =>
      if !collected.leftOver.isEmpty then throw (.leftOver collected.leftOver.reverse)
      return .report ⟨stub, names, collected.options, collected.ignored, collected.rejectFunctions,
        collected.explain⟩

end Stringify.CommandLine
