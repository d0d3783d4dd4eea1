import Stringify.Ty.Basic

/-!
# Building types

Unions and intersections are built flat: a part composed in the same way gives its own parts, of
equal parts the first remains, and a single part stands for itself. There is no empty composition.
-/

namespace Stringify.Ty

/-- The context of the root of all classes. -/
def rootName : String := "object"

/-- The context of the conversion that all callables share. -/
def functionContext : String := "function"

/-- The type of a built-in scalar, which declares its own conversion. -/
def ofScalar (name : String) : Ty :=
  .leaf (.scalar ⟨name, [some name], name = "bool", false⟩)

/-- The type of one literal of a built-in scalar. -/
def ofLiteral (display scalar : String) : Ty :=
  .leaf (.scalar ⟨display, [some scalar], scalar = "bool", true⟩)

/-- The type of the instances of a class whose conversion the context declares. -/
def ofInstance (name : String) (context : Option String) (callSignatures : Int) : Ty :=
  .leaf (.object ⟨name, [context], callSignatures⟩)

/-- The type of callables. -/
def ofFunction (name : String) : Ty :=
  ofInstance name (some functionContext) 1

/-- The type of the absent value. -/
def nothing : Ty :=
  .leaf (.scalar ⟨"None", [some "NoneType"], false, false⟩)

/-- The type that says nothing. -/
def unknown : Ty :=
  .leaf (.object ⟨"Any", [], 0⟩)

/-- The root of all classes. -/
def object : Ty :=
  ofInstance rootName (some rootName) 0

/-- What a type contributes to a composition: its parts if it is composed in the same way. -/
def members (composition : Composition) (type : Ty) : List Ty :=
  (type.parts? composition).getD [type]

/-- The contributions of several types, of equal ones the first. -/
def flatten (composition : Composition) (types : List Ty) : List Ty :=
  (types.flatMap (members composition)).eraseDups

/-- The composition of several types; none if they contribute nothing. -/
def compose? (composition : Composition) (types : List Ty) : Option Ty :=
  match flatten composition types with
  | [] => none
  | [type] => some type
  | parts => some (.composite composition parts)

end Stringify.Ty
