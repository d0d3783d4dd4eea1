/-!
# Type systems

A classifier needs little of a type system. A `Host` answers the questions it asks about the nodes
of a graph of types: whether values can be called, where the text conversion is declared, whether
the type is boolean, what it is called, and what it is composed of.
-/

namespace Stringify

universe u

/-- The answers of a type system about its types. -/
structure Host (Node : Type u) where
  /-- Whether values of the type can be called. -/
  hasCallSignatures : Node → Bool
  /-- The contexts that declare the type's conversion to text. -/
  declarations : Node → List (Option String)
  /-- Whether the type is the boolean one or a boolean literal. -/
  isBooleanLike : Node → Bool
  /-- The name that is compared with the names in the settings. -/
  name : Node → String
  /-- The constituents of a union. -/
  union? : Node → Option (List Node)
  /-- The constituents of an intersection. -/
  intersection? : Node → Option (List Node)
  /-- Whether a context is the root of all classes, whose conversion is the placeholder. -/
  isRoot : Option String → Bool

/-- A question put to a host. -/
inductive Question (Node : Type u) where
  | callSignatures (node : Node)
  | declarations (node : Node)
  | booleanLike (node : Node)
  | name (node : Node)
  | root (context : Option String)
  | intersection (node : Node)
  | union (node : Node)
  deriving DecidableEq, Repr

end Stringify
