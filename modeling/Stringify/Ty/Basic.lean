import Stringify.Verdict

/-!
# Types

A type is a scalar (a built-in value type or a literal), an object type (of a class, a container, a
callable), or composed of other types. Scalars and object types carry the contexts that declare
their conversion to text.

`Ty.fold` is the recursion that every question about a type goes through.
-/

namespace Stringify

/-- A built-in value type or the type of one literal. -/
structure ScalarTy where
  name : String
  contexts : List (Option String)
  isBoolean : Bool
  isLiteral : Bool
  deriving DecidableEq, Repr

/-- The type of the instances of a class, of a container or of a callable. -/
structure ObjectTy where
  name : String
  contexts : List (Option String)
  callSignatures : Int
  deriving DecidableEq, Repr

/-- A type that is not composed. -/
inductive Leaf where
  | scalar (type : ScalarTy)
  | object (type : ObjectTy)
  deriving DecidableEq, Repr

/-- A type. -/
inductive Ty where
  | leaf (shape : Leaf)
  | composite (composition : Composition) (parts : List Ty)

namespace Leaf

/-- The name of the type. -/
def name : Leaf → String
  | .scalar type => type.name
  | .object type => type.name

/-- The contexts that declare the conversion to text. -/
def contexts : Leaf → List (Option String)
  | .scalar type => type.contexts
  | .object type => type.contexts

/-- Whether values can be called. -/
def hasCallSignatures : Leaf → Bool
  | .scalar _ => false
  | .object type => 0 < type.callSignatures

/-- Whether the type is boolean. -/
def isBooleanLike : Leaf → Bool
  | .scalar type => type.isBoolean
  | .object _ => false

end Leaf

namespace Ty

mutual

/-- Structural equality of types. -/
def decEq : (left right : Ty) → Decidable (left = right)
  | .leaf left, .leaf right =>
    if equal : left = right then isTrue (by rw [equal])
    else isFalse (by intro same; injection same; contradiction)
  | .leaf _, .composite _ _ => isFalse (by intro same; cases same)
  | .composite _ _, .leaf _ => isFalse (by intro same; cases same)
  | .composite left lefts, .composite right rights =>
    if equal : left = right then
      match decEqParts lefts rights with
      | isTrue same => isTrue (by rw [equal, same])
      | isFalse other => isFalse (by intro same; injection same; contradiction)
    else isFalse (by intro same; injection same; contradiction)

/-- Structural equality of lists of types. -/
def decEqParts : (left right : List Ty) → Decidable (left = right)
  | [], [] => isTrue rfl
  | [], _ :: _ => isFalse (by intro same; cases same)
  | _ :: _, [] => isFalse (by intro same; cases same)
  | left :: lefts, right :: rights =>
    match decEq left right with
    | isTrue equal =>
      match decEqParts lefts rights with
      | isTrue same => isTrue (by rw [equal, same])
      | isFalse other => isFalse (by intro same; injection same; contradiction)
    | isFalse other => isFalse (by intro same; injection same; contradiction)

end

instance : DecidableEq Ty := decEq

universe u

variable {α : Type u}

mutual

/-- Compute on a type from its leaves up. -/
def fold (ofLeaf : Leaf → α) (ofParts : Composition → List α → α) : Ty → α
  | .leaf shape => ofLeaf shape
  | .composite composition parts => ofParts composition (foldParts ofLeaf ofParts parts)

/-- `fold` on every type of a list. -/
def foldParts (ofLeaf : Leaf → α) (ofParts : Composition → List α → α) : List Ty → List α
  | [] => []
  | part :: rest => fold ofLeaf ofParts part :: foldParts ofLeaf ofParts rest

end

@[simp] theorem foldParts_eq_map (ofLeaf : Leaf → α) (ofParts : Composition → List α → α)
    (parts : List Ty) : foldParts ofLeaf ofParts parts = parts.map (fold ofLeaf ofParts) := by
  induction parts with
  | nil => rfl
  | cons part rest ih => simp [foldParts, ih]

@[simp] theorem fold_leaf (ofLeaf : Leaf → α) (ofParts : Composition → List α → α)
    (shape : Leaf) : fold ofLeaf ofParts (.leaf shape) = ofLeaf shape := rfl

@[simp] theorem fold_composite (ofLeaf : Leaf → α) (ofParts : Composition → List α → α)
    (composition : Composition) (parts : List Ty) :
    fold ofLeaf ofParts (.composite composition parts) =
      ofParts composition (parts.map (fold ofLeaf ofParts)) := by
  simp [fold]

/-- How many compositions enclose one another, the leaf inside included. -/
def depth : Ty → Nat :=
  fold (fun _ => 1) fun _ depths => depths.foldl max 0 + 1

/-- The name of a composed type joins the names of its parts. -/
def joinNames : Composition → List String → String
  | .union, names => " | ".intercalate names
  | .intersection, names => " & ".intercalate names

/-- The name of a type. -/
def name : Ty → String :=
  fold Leaf.name joinNames

/-- Whether values can be called: those of a union when they can on every branch, those of an
intersection when some part permits it. -/
def hasCallSignatures : Ty → Bool :=
  fold Leaf.hasCallSignatures fun
    | .union, parts => parts.all id
    | .intersection, parts => parts.any id

/-- The names of the members that convert a value to text. -/
def stringifiers : List String :=
  ["__str__", "__repr__"]

/-- The contexts that declare the conversion to text. A union has it only if every part does. -/
def contexts : Ty → List (Option String) :=
  fold Leaf.contexts fun
    | .union, parts => if parts.any List.isEmpty then [] else parts.flatten
    | .intersection, parts => parts.flatten

/-- Whether the type is the boolean one or a boolean literal. -/
def isBooleanLike : Ty → Bool
  | .leaf shape => shape.isBooleanLike
  | .composite _ _ => false

/-- The parts of a type composed in the given way. -/
def parts? (composition : Composition) : Ty → Option (List Ty)
  | .leaf _ => none
  | .composite other parts => if other = composition then some parts else none

end Ty

end Stringify
