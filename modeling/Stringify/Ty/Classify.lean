import Stringify.Host.Classify
import Stringify.Ty.Compose

/-!
# Classification of types

Types answer the questions of the classifier themselves.
-/

namespace Stringify.Ty

/-- The contexts that declare a member, of which only the conversions to text are known. -/
def memberContexts (type : Ty) (member : String) : List (Option String) :=
  if member ∈ stringifiers then type.contexts else []

/-- Whether a context is the root of all classes. -/
def isRoot (context : Option String) : Bool :=
  context == some rootName

/-- Types as a type system. -/
def host : Host Ty where
  hasCallSignatures := hasCallSignatures
  declarations type := type.memberContexts "__str__"
  isBooleanLike := isBooleanLike
  name := name
  union? := parts? .union
  intersection? := parts? .intersection
  isRoot := isRoot

/-- The verdict of a type. -/
def classify (settings : Settings) (type : Ty) : Verdict :=
  host.classify settings type.depth type

/-- The parts of a type to blame for a finding. -/
def offending (settings : Settings) (type : Ty) : List Ty :=
  host.offending settings type.depth type

end Stringify.Ty
