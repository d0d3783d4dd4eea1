import Stringify.Entries
import Stringify.Source.Document
import Stringify.Stub.ClassTable
import Stringify.Stub.Error
import Stringify.Stub.Literal

/-!
# Type hints

A hint is an expression that stands for a type. Names refer to aliases, built-in types and classes,
in this order. Subscripts build unions, intersections, literals and the types of generic classes and
containers. A text stands for the expression that it writes, and that may hold texts again: each is
shorter than the text around it, so their nesting is bounded by the length of the longest one.
-/

namespace Stringify.Stub

open Source (Expr)

/-- What names in hints refer to. -/
structure Scope where
  classes : ClassTable
  aliases : Entries String Ty

/-- The built-in types that declare their own conversion to text. -/
def scalarNames : List String :=
  ["int", "float", "complex", "str", "bytes", "bool"]

/-- The built-in containers under both of their names. -/
def containerNames : List String :=
  ["list", "dict", "set", "frozenset", "tuple", "List", "Dict", "Set", "FrozenSet", "Tuple"]

/-- The name of the type of callables. -/
def callableName : String := "Callable"

/-- The composition of types, which must not be empty. -/
def compose (composition : Composition) (types : List Ty) : Work Ty :=
  match Ty.compose? composition types with
  | some type => .ok type
  | none => .error (.fault (.emptyComposition composition))

namespace Scope

/-- The type of the instances of a class, under a name of its own. -/
def instanceOf (scope : Scope) (className display : String) : Work Ty := do
  let context ← Work.ofFault (scope.classes.stringifierContext className)
  let callSignatures ← Work.ofFault (scope.classes.callSignatures className)
  return .ofInstance display (some context) callSignatures

/-- The type that a plain name stands for, in a hint on the given line. -/
def named (scope : Scope) (line : Nat) (name : String) : Work Ty :=
  match scope.aliases.get? name with
  | some type => .ok type
  | none =>
    if scalarNames.contains name then .ok (.ofScalar name)
    else if name = "None" then .ok .nothing
    else if name = "Any" then .ok .unknown
    else if scope.classes.contains name then scope.instanceOf name name
    else if containerNames.contains name then .ok (.ofInstance name (some name) 0)
    else if name = callableName then .ok (.ofFunction name)
    else Work.refuse line (.unknownType name)

end Scope

/-- What a subscript builds from its arguments. -/
inductive Form where
  | union
  | optional
  | intersection
  | callable
  | literal
  /-- The first argument alone counts. -/
  | annotated
  | instanceOf (className : String)
  | container (name : String)
  | unsupported
  deriving DecidableEq, Repr

/-- What a subscript of the given root builds. -/
def Scope.form (scope : Scope) : Option String → Form
  | none => .unsupported
  | some root =>
    if root = "Union" then .union
    else if root = "Optional" then .optional
    else if root = "Intersection" then .intersection
    else if root = callableName then .callable
    else if root = "Literal" then .literal
    else if root = "Annotated" then .annotated
    else if scope.classes.contains root then .instanceOf root
    else if containerNames.contains root then .container root
    else .unsupported

mutual

/-- The length of the longest text among the operands and arguments of a hint. -/
def longestText : Expr → Nat
  | .constant _ (.text value _) => value.length
  | .binary _ left _ right => max (longestText left) (longestText right)
  | .subscript _ _ index => longestText index
  | .tuple _ items => longestTextOf items
  | _ => 0

/-- The length of the longest text in several hints. -/
def longestTextOf : List Expr → Nat
  | [] => 0
  | item :: rest => max (longestText item) (longestTextOf rest)

end

theorem longestTextOf_le_iff {hints : List Expr} {bound : Nat} :
    longestTextOf hints ≤ bound ↔ ∀ hint ∈ hints, longestText hint ≤ bound := by
  induction hints with
  | nil => simp [longestTextOf]
  | cons hint rest ih => rw [longestTextOf, Nat.max_le, ih, List.forall_mem_cons]

variable [Release]

/-- The type of a literal argument. -/
def literalType (argument : Expr) : Work Ty := do
  let unsupported : Work Ty := do
    Work.refuse argument.line (.unsupportedLiteral (← Work.print argument))
  match evaluate argument with
  | .error .unsupported => unsupported
  | .error .integerOverflow => throw (.fault .integerOverflow)
  | .ok .nothing => return .nothing
  | .ok (.other _) => unsupported
  | .ok (.literal value) =>
    match value.type? with
    | some type => return type
    | none => throw (.fault (.unprintable .integerTooLong))

/-- The type that a subscript builds, where `types` and `first` resolve all of its arguments and the
first one. -/
def Scope.subscripted (scope : Scope) (subscript : Expr) (root : Option String)
    (arguments : List Expr) (types : Unit → Work (List Ty)) (first : Unit → Work Ty) : Work Ty := do
  if arguments.isEmpty then Work.refuse subscript.line (.missingArguments root)
  match scope.form root with
  | .union => compose .union (← types ())
  | .optional =>
    if arguments.length ≠ 1 then Work.refuse subscript.line .optionalArity
    compose .union [← first (), .nothing]
  | .intersection => compose .intersection (← types ())
  | .callable => return .ofFunction (← Work.print subscript)
  | .literal => compose .union (← arguments.mapM literalType)
  | .annotated => first ()
  | .instanceOf className => scope.instanceOf className (← Work.print subscript)
  | .container name => return .ofInstance (← Work.print subscript) (some name) 0
  | .unsupported => Work.refuse subscript.line (.unsupportedGeneric (← Work.print subscript))

mutual

/-- The type that an expression stands for, where `reference` resolves a text on a line. -/
def resolveWith (scope : Scope) (reference : Nat → Text → Work Ty) : Expr → Work Ty
  | .constant _ .nothing => .ok .nothing
  | .constant line (.text value _) => reference line value
  | .binary _ left .bitOr right => do
    let left ← resolveWith scope reference left
    let right ← resolveWith scope reference right
    compose .union [left, right]
  | .subscript line value (.tuple tupleLine items) =>
    scope.subscripted (.subscript line value (.tuple tupleLine items)) value.rootName? items
      (fun _ => resolveAll scope reference items) (fun _ => resolveFirst scope reference items)
  | .subscript line value index =>
    scope.subscripted (.subscript line value index) value.rootName? [index]
      (fun _ => do return [← resolveWith scope reference index])
      (fun _ => resolveWith scope reference index)
  | .name line text => scope.named line text
  | .attribute line _ field => scope.named line field
  | other => do Work.refuse other.line (.unsupportedHint (← Work.print other))

/-- The types that several expressions stand for. -/
def resolveAll (scope : Scope) (reference : Nat → Text → Work Ty) : List Expr → Work (List Ty)
  | [] => .ok []
  | item :: rest => do
    return (← resolveWith scope reference item) :: (← resolveAll scope reference rest)

/-- The type that the first of several expressions stands for. -/
def resolveFirst (scope : Scope) (reference : Nat → Text → Work Ty) : List Expr → Work Ty
  | [] => .ok .nothing
  | item :: _ => resolveWith scope reference item

end

/-- The expression that a text on the given line writes. -/
def readReference (line : Nat) (text : Text) : Work Expr := do
  match (← Work.ofFault (sourceChars text)).map Source.readExpression with
  | some (.ok expression) => return expression
  | _ => Work.refuse line (.badReference text)

/-- The type that an expression stands for, where texts are read inside texts at most `readings`
deep. -/
def resolveWithin (scope : Scope) : (readings : Nat) → Expr → Work Ty
  | 0 => resolveWith scope fun line text => Work.refuse line (.badReference text)
  | readings + 1 => resolveWith scope fun line text => do
    resolveWithin scope readings (← readReference line text)

/-- The type that a hint stands for. -/
def resolve (scope : Scope) (hint : Expr) : Work Ty :=
  resolveWithin scope (longestText hint + 1) hint

end Stringify.Stub
