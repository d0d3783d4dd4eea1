import Stringify.Entries
import Stringify.Stub.Fault
import Stringify.Stub.Linearization

/-!
# Class tables

A class table holds what class statements say and, apart from it, the line of ancestors of each
class, both in the order of declaration. The conversion to text of a class is declared by the first
of its ancestors that declares one, and its instances can be called when some ancestor says so.
-/

namespace Stringify.Stub

/-- What a class statement says. -/
structure ClassDecl where
  name : String
  bases : List String
  /-- The class itself declares a conversion to text. -/
  declaresStringifier : Bool
  /-- The class itself makes its instances callable. -/
  declaresCall : Bool
  deriving DecidableEq, Repr

/-- Classes and their lines of ancestors, in the order of their declaration. -/
structure ClassTable where
  decls : Entries String ClassDecl
  lines : Entries String (List String)
  deriving DecidableEq, Repr

namespace ClassTable

/-- Whether there is a class of the given name. -/
def contains (table : ClassTable) (name : String) : Bool :=
  (table.decls.get? name).isSome

/-- The class of the given name, which has to be there. -/
def decl (table : ClassTable) (name : String) : Except Fault ClassDecl :=
  match table.decls.get? name with
  | some decl => .ok decl
  | none => .error (.unknownClass name)

/-- The line of ancestors of the class of the given name, which has to be there. -/
def line (table : ClassTable) (name : String) : Except Fault (List String) :=
  match table.lines.get? name with
  | some line => .ok line
  | none => .error (.unknownClass name)

/-- The lines of ancestors of several classes. -/
def linesOf (table : ClassTable) : (names : List String) → Except Fault (List (List String))
  | [] => .ok []
  | name :: rest => do
    let line ← table.line name
    return line :: (← table.linesOf rest)

/-- The line of ancestors of one more class, or `none` if they cannot be put in line. -/
def ancestors? (table : ClassTable) (decl : ClassDecl) : Except Fault (Option (List String)) := do
  return linearize decl.name decl.bases (← table.linesOf decl.bases)

/-- The table with one more class and its line of ancestors. -/
def enter (table : ClassTable) (decl : ClassDecl) (line : List String) : ClassTable :=
  ⟨table.decls.put decl.name decl, table.lines.put decl.name line⟩

/-- The first of several classes that declares a conversion to text. -/
def firstDeclaring (table : ClassTable) : (names : List String) → Except Fault (Option String)
  | [] => .ok none
  | name :: rest => do
    if (← table.decl name).declaresStringifier then return some name
    table.firstDeclaring rest

/-- The class that declares the conversion to text of the given one. -/
def stringifierContext (table : ClassTable) (name : String) : Except Fault String := do
  match ← table.firstDeclaring (← table.line name) with
  | some context => return context
  | none => throw (.rootless name)

/-- Whether one of several classes makes its instances callable. -/
def anyCallable (table : ClassTable) : (names : List String) → Except Fault Bool
  | [] => .ok false
  | name :: rest => do
    if (← table.decl name).declaresCall then return true
    table.anyCallable rest

/-- The number of call signatures of the instances of a class: one or none. -/
def callSignatures (table : ClassTable) (name : String) : Except Fault Int := do
  return if ← table.anyCallable (← table.line name) then 1 else 0

/-- The classes that every stub can refer to, each after its bases. -/
def builtinDecls : List ClassDecl :=
  [⟨"object", [], true, false⟩, ⟨"BaseException", ["object"], true, false⟩,
    ⟨"Exception", ["BaseException"], false, false⟩]

/-- Enter several classes, as far as their ancestors can be put in line. -/
def enterAll (table : ClassTable) : List ClassDecl → ClassTable
  | [] => table
  | decl :: rest =>
    match table.ancestors? decl with
    | .ok (some line) => (table.enter decl line).enterAll rest
    | _ => table

/-- The table of the classes that every stub can refer to. -/
def builtin : ClassTable :=
  enterAll ⟨[], []⟩ builtinDecls

/-- None of the built-in classes is refused. -/
theorem builtin_eq : builtin =
    ⟨builtinDecls.map fun decl => (decl.name, decl),
      [("object", ["object"]), ("BaseException", ["BaseException", "object"]),
        ("Exception", ["Exception", "BaseException", "object"])]⟩ := by
  decide

end ClassTable

end Stringify.Stub
