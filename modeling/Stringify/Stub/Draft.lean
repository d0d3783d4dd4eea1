import Stringify.Stub.Hint

/-!
# Drafts

A draft collects what the statements of a stub declare, in their order: the classes, and the
annotated names with the hints that are to be resolved later. A class may only refer to classes
above it, while hints may refer to all classes and aliases of the stub.

Statements change the draft as they go, and what a statement did before it is refused is not undone.
-/

namespace Stringify.Stub

open Source (Argument Expr Stmt)

/-- An annotated name whose hint is not resolved yet. -/
structure Pending where
  name : String
  hint : Expr
  /-- The name is an alias for the type, and no value. -/
  isAlias : Bool

/-- What some statements of a stub declare. -/
structure Draft where
  classes : ClassTable
  /-- The annotated names in their order. -/
  pending : Array Pending

/-- The draft of no statements. -/
def Draft.empty : Draft :=
  ⟨.builtin, #[]⟩

/-- Work that changes a draft and may end early. What was changed before the end stays changed. -/
abbrev Drafting := ExceptT Stop (StateM Draft)

namespace Drafting

variable {α β : Type}

/-- Go on with work that leaves the draft alone. -/
def ofWork (work : Work α) : Drafting α :=
  ExceptT.mk (pure work)

theorem run_ofWork (work : Work α) (draft : Draft) :
    (ofWork work).run draft = (work, draft) := rfl

theorem run_get (draft : Draft) : (get : Drafting Draft).run draft = (.ok draft, draft) := rfl

theorem run_bind (first : Drafting α) (next : α → Drafting β) (draft : Draft) :
    (first >>= next).run draft =
      match first.run draft with
      | (.ok value, changed) => (next value).run changed
      | (.error stop, changed) => (.error stop, changed) := by
  unfold ExceptT.run
  simp only [bind, ExceptT.bind, ExceptT.mk, StateT.bind, ExceptT.bindCont]
  cases first draft with
  | mk outcome changed => cases outcome <;> rfl

end Drafting

variable [Release]

/-- The positional ones among the arguments of a class, which are its bases. -/
def basesOf (arguments : List Argument) : List Expr :=
  arguments.filterMap fun
    | .positional value => some value
    | _ => none

/-- The names of base classes, each of which has to be known. -/
def baseNames (classes : ClassTable) : List Expr → Work (List String)
  | [] => .ok []
  | .name line text :: rest => do
    if !classes.contains text then Work.refuse line (.unknownBase text)
    return text :: (← baseNames classes rest)
  | base :: _ => do Work.refuse base.line (.notSimpleBase (← Work.print base))

/-- The names of the functions in the body of a class, which must not hold a class. -/
def methodNames : List Stmt → Work (List String)
  | [] => .ok []
  | .classDef span _ _ _ :: _ => Work.refuse span.first .nestedClass
  | .functionDef _ _ name _ :: rest => do
    return name :: (← methodNames rest)
  | _ :: rest => methodNames rest

/-- The declaration of a class with the given bases and methods. -/
def ClassDecl.of (name : String) (bases methods : List String) : ClassDecl where
  name
  bases := if bases.isEmpty then [Ty.rootName] else bases
  declaresStringifier := Ty.stringifiers.any methods.contains
  declaresCall := methods.contains "__call__"

namespace Draft

/-- Enter a class, which stands on the given line, behind the classes before it. -/
def enterClass (line : Nat) (decl : ClassDecl) : Drafting Unit := do
  match ← .ofWork (Work.ofFault ((← get).classes.ancestors? decl)) with
  | none => .ofWork (Work.refuse line (.unorderedBases decl.name))
  | some ancestors =>
    modify fun draft => { draft with classes := draft.classes.enter decl ancestors }

/-- Take in a class statement on the given line. -/
def addClass (line : Nat) (name : String) (arguments : List Argument) (body : List Stmt) :
    Drafting Unit := do
  let classes := (← get).classes
  if classes.contains name then .ofWork (Work.refuse line (.shadowedClass name))
  let bases ← .ofWork (baseNames classes (basesOf arguments))
  let methods ← .ofWork (methodNames body)
  enterClass line (.of name bases methods)

/-- Keep an annotated name behind those before it. -/
def keepPending (pending : Pending) : Drafting Unit :=
  modify fun draft => { draft with pending := draft.pending.push pending }

/-- Take in an annotation on the given line. A hint that marks an alias gives way to the value. -/
def addHint (line : Nat) (target hint : Expr) (value : Option Expr) : Drafting Unit := do
  match target with
  | .name _ name =>
    if hint.rootName? = some "TypeAlias" then
      match value with
      | some value => keepPending ⟨name, value, true⟩
      | none => .ofWork (Work.refuse line (.aliasWithoutValue name))
    else keepPending ⟨name, hint, false⟩
  | _ => .ofWork do Work.refuse line (.notSimpleTarget (← Work.print target))

/-- Take in one statement. -/
def addStmt : Stmt → Drafting Unit
  | .classDef span name arguments body => addClass span.first name arguments body
  | .annotated span target hint value => addHint span.first target hint value
  | .inert _ => pure ()
  | .functionDef span isAsync _ _ =>
    let label := if isAsync then "AsyncFunctionDef" else "FunctionDef"
    .ofWork (Work.refuse span.first (.unsupportedStmt label))
  | .other span kind _ => .ofWork (Work.refuse span.first (.unsupportedStmt kind.label))

/-- Take in statements up to the first that is refused. -/
def addStmts : List Stmt → Drafting Unit
  | [] => pure ()
  | stmt :: rest => do
    addStmt stmt
    addStmts rest

/-- The draft after some statements, each taken in whether or not those before it are refused. -/
def after (draft : Draft) (stmts : List Stmt) : Draft :=
  stmts.foldl (fun draft stmt => ((addStmt stmt).run draft).2) draft

/-- The draft of some statements, or why it ended early. -/
def ofStmts (stmts : List Stmt) : Work Draft :=
  match (addStmts stmts).run Draft.empty with
  | (.ok (), draft) => .ok draft
  | (.error stop, _) => .error stop

end Draft

end Stringify.Stub
