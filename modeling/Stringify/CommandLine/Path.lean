import Stringify.Text.Quoted

/-!
# Paths

A path is shown without empty and current components. A path of two leading slashes keeps both, any
other absolute one has a single slash, and the path of nothing is the current directory. The file of
a path may be unreadable.
-/

namespace Stringify.CommandLine

/-- A path. -/
structure Path where
  /-- The slashes at the front. -/
  root : String
  components : List String
  deriving DecidableEq, Repr

namespace Path

/-- The path that a text writes. -/
def ofString (text : String) : Path :=
  let chars := text.toList
  let slashes := (chars.takeWhile (· == '/')).length
  let components := (Text.cutAt (· == '/') chars).map String.ofList
  { root := if slashes = 0 then "" else if slashes = 2 then "//" else "/"
    components := components.filter fun component => component != "" && component != "." }

/-- How a path is shown. -/
def display (path : Path) : String :=
  let shown := path.root ++ "/".intercalate path.components
  if shown.isEmpty then "." else shown

/-- Whether a path has a null character, which no file name can have. -/
def hasNull (path : Path) : Bool :=
  path.components.any (·.toList.contains '\x00')

end Path

/-- Why a file cannot be read, with the number of the failure in the system. -/
structure FileError where
  code : Nat
  description : String
  deriving DecidableEq, Repr

namespace FileError

/-- A component of the path is missing. -/
def notFound : FileError := ⟨2, "No such file or directory"⟩

/-- The wording of a failure to read the file of a path. -/
def message (error : FileError) (path : String) : String :=
  s!"[Errno {error.code}] {error.description}: {quotedString path}"

end FileError

end Stringify.CommandLine
