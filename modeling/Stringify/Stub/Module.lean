import Stringify.Stub.Draft

/-!
# Stub modules

A stub module holds the classes of a stub and the types of its annotated names. Aliases are resolved
first, in their order, so hints of names may refer to later ones; then the names are, each by its
last hint and in the place of its first one.
-/

namespace Stringify.Stub

open Source (Stmt)

/-- The classes of a stub and the types of its annotated names. -/
structure Module where
  file : Text
  classes : ClassTable
  values : Entries String Ty

/-- Why a stub has no module. -/
inductive LoadFailure where
  | refused (error : Error)
  | fault (fault : Fault)
  deriving DecidableEq, Repr

/-- Put the end of the work on a stub down to a file. -/
def Stop.inFile (file : Text) : Stop → LoadFailure
  | .refused line problem => .refused ⟨file, some line, problem⟩
  | .fault cause => .fault cause

variable [Release]

/-- Resolve aliases in order, each in the scope of those before it. -/
def resolveAliases (classes : ClassTable) : (aliases : Entries String Ty) → List Pending →
    Work (Entries String Ty)
  | aliases, [] => .ok aliases
  | aliases, pending :: rest =>
    if pending.isAlias then do
      let type ← resolve ⟨classes, aliases⟩ pending.hint
      resolveAliases classes (aliases.put pending.name type) rest
    else resolveAliases classes aliases rest

/-- Resolve annotated names in order. -/
def resolveValues (scope : Scope) : (values : Entries String Ty) → List Pending →
    Work (Entries String Ty)
  | values, [] => .ok values
  | values, pending :: rest =>
    if pending.isAlias then resolveValues scope values rest
    else do
      let type ← resolve scope pending.hint
      resolveValues scope (values.put pending.name type) rest

/-- The types of the annotated names of a draft. -/
def Draft.values (draft : Draft) : Work (Entries String Ty) := do
  let aliases ← resolveAliases draft.classes [] draft.pending.toList
  resolveValues ⟨draft.classes, aliases⟩ [] draft.pending.toList

namespace Module

/-- The module of some statements in a file. -/
def ofStmts (file : Text) (stmts : List Stmt) : Except LoadFailure Module :=
  Except.mapError (Stop.inFile file) do
    let draft ← Draft.ofStmts stmts
    return ⟨file, draft.classes, ← draft.values⟩

/-- The module of a source in a file. -/
def load (file source : Text) : Except LoadFailure Module :=
  if file.contains .null then .error (.fault .nullInFileName)
  else do
    match (← (sourceChars source).mapError .fault).map Source.readModule with
    | none => throw (.refused ⟨file, none, .nullCharacter⟩)
    | some (.error line) => throw (.refused ⟨file, some line, .syntaxError⟩)
    | some (.ok stmts) => ofStmts file stmts

/-- The annotated names in the order of their first hints. -/
def names (module : Module) : List String :=
  module.values.keys

/-- The type of an annotated name. -/
def value (module : Module) (name : String) : Except Error Ty :=
  match module.values.get? name with
  | some type => .ok type
  | none => .error ⟨module.file, none, .unknownValue name⟩

end Module

end Stringify.Stub
