import Stringify.Json.Order

/-!
# Settings

The settings of a run are the type names that always count as useful and whether callables are
reported. The names are kept in increasing order without repetition, so settings with equal names
are the same value.
-/

namespace Stringify

/-- Insert a text into an increasing list, unless it is there already. -/
def insertName (name : Text) : List Text → List Text
  | [] => [name]
  | other :: rest =>
    if name = other then other :: rest
    else if name.before other then name :: other :: rest
    else other :: insertName name rest

/-- Insert several texts into an increasing list. -/
def insertNames (sorted names : List Text) : List Text :=
  names.foldl (fun sorted name => insertName name sorted) sorted

/-- The given texts in increasing order, each once. -/
def sortedNames (names : List Text) : List Text :=
  insertNames [] names

/-- The settings of a run. -/
structure Settings where
  /-- The type names that always count as useful, in increasing order. -/
  ignored : List Text
  /-- Entries given among the names that are no texts, in increasing order, of those that count as
  the same the first. No type has such a name. -/
  extras : List Scalar
  /-- Whether callables are reported. -/
  rejectFunctions : Bool
  deriving DecidableEq, Repr

namespace Settings

/-- The type names that count as useful unless others are given. -/
def defaultIgnored : List Text :=
  sortedNames (["Error", "RegExp", "URL", "URLSearchParams"].map Text.ofString)

/-- The settings of a run without options. -/
def default : Settings :=
  ⟨defaultIgnored, [], false⟩

/-- Whether a type of the given name always counts as useful. -/
def ignores (settings : Settings) (name : String) : Bool :=
  settings.ignored.contains (Text.ofString name)

/-- The settings with more names that count as useful. -/
def ignoring (settings : Settings) (names : List Text) : Settings :=
  { settings with ignored := insertNames settings.ignored names }

/-- Whether two settings have the same names and entries and the same flag. -/
def agrees (settings other : Settings) : Bool :=
  settings.ignored == other.ignored && Scalar.areSame settings.extras other.extras
    && settings.rejectFunctions == other.rejectFunctions

/-- The settings with callables reported or not. -/
def rejecting (settings : Settings) (rejectFunctions : Bool) : Settings :=
  { settings with rejectFunctions }

/-- The settings as a list of names and a flag, as options give them. -/
def toOptions (settings : Settings) : List Json × Bool :=
  (settings.ignored.map .text ++ settings.extras.map .scalar, settings.rejectFunctions)

end Settings

end Stringify
