import Stringify.Stub.Fault

/-!
# Errors of stubs

A stub is refused for a problem, mostly at a line of it. The text of an error starts with the place:
the name of the file, and the line if there is one.
-/

namespace Stringify.Stub

/-- What is wrong with a stub or with a question about it. Expressions are given as printed. -/
inductive Problem where
  /-- The source is no sequence of statements. -/
  | syntaxError
  /-- The source has a null character. -/
  | nullCharacter
  /-- The bytes of the file are no text. -/
  | undecodable (error : Text.Utf8.DecodeError)
  | unsupportedStmt (label : String)
  | shadowedClass (name : String)
  /-- A base class is not given by a name. -/
  | notSimpleBase (printed : String)
  | unknownBase (name : String)
  | nestedClass
  /-- The ancestors of a class cannot be put in line. -/
  | unorderedBases (name : String)
  /-- Something other than a name is annotated. -/
  | notSimpleTarget (printed : String)
  | aliasWithoutValue (name : String)
  /-- A text in the place of a type is no expression. -/
  | badReference (text : Text)
  | unsupportedHint (printed : String)
  | unknownType (name : String)
  | missingArguments (root : Option String)
  | optionalArity
  | unsupportedLiteral (printed : String)
  | unsupportedGeneric (printed : String)
  /-- A name is asked about that is not annotated. -/
  | unknownValue (name : String)
  /-- Any other problem, in words. -/
  | other (message : String)
  deriving DecidableEq, Repr

/-- The wording of a problem. -/
def Problem.message : Problem → String
  | .syntaxError => "invalid syntax"
  | .nullCharacter => Fault.nullCharacter.message
  | .undecodable error => error.message
  | .unsupportedStmt label => s!"unsupported statement: {label}"
  | .shadowedClass name => s!"class name shadowing not supported: {name}"
  | .notSimpleBase printed => s!"only simple inheritance supported: {printed}"
  | .unknownBase name => s!"unknown base class: {name}"
  | .nestedClass => "class inside class not supported"
  | .unorderedBases name => s!"cannot linearize bases of {name}"
  | .notSimpleTarget printed => s!"only simple names can be annotated: {printed}"
  | .aliasWithoutValue name => s!"type alias without value: {name}"
  | .badReference text => s!"bad forward reference: {text.quoted}"
  | .unsupportedHint printed => s!"unsupported annotation: {printed}"
  | .unknownType name => s!"unknown type name: {name}"
  | .missingArguments root => root.getD "None" ++ " needs at least one argument"
  | .optionalArity => "Optional takes exactly one argument"
  | .unsupportedLiteral printed => s!"unsupported literal: {printed}"
  | .unsupportedGeneric printed => s!"unsupported generic annotation: {printed}"
  | .unknownValue name => s!"no annotated name {quotedString name}"
  | .other message => message

/-- A problem with its place. -/
structure Error where
  file : Text
  line : Option Int
  problem : Problem
  deriving DecidableEq, Repr

/-- The text of an error. -/
def Error.text (error : Error) : Text :=
  match error.line with
  | some line => error.file ++ Text.ofString s!":{line}: {error.problem.message}"
  | none => error.file ++ Text.ofString s!": {error.problem.message}"

/-- Why the work on a stub ends early. -/
inductive Stop where
  /-- A problem of the stub, at a line. -/
  | refused (line : Nat) (problem : Problem)
  | fault (fault : Fault)
  deriving DecidableEq, Repr

/-- Work on a stub that may end early. -/
abbrev Work := Except Stop

namespace Work

variable {α : Type}

/-- End the work for a problem at a line. -/
def refuse (line : Nat) (problem : Problem) : Work α :=
  .error (.refused line problem)

/-- Go on with what may be a fault. -/
def ofFault (outcome : Except Fault α) : Work α :=
  outcome.mapError .fault

/-- The printed expression. -/
def print [Release] (expression : Source.Expr) : Work String :=
  expression.print.mapError fun error => .fault (.unprintable error)

end Work

end Stringify.Stub
