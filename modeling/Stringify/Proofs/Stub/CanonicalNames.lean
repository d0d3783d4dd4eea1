import Stringify.Proofs.Stub.NamedLeaves
import Stringify.Proofs.Stub.Values

/-!
# Names that say how types are judged

A name shows no brackets of compositions, and that of an infinite literal is a word. So two values
of a stub may share a name and be judged differently. They are judged alike if unions stand outside
of intersections and no literal is named like something else. A release that does not fall back to
other quotes may print a formatted text that ends too early, and there the name must show none.
-/

namespace Stringify

open Source (IsLegible Stmt)

/-- The same name stands for a literal in both types or in none. -/
def Ty.SharesLiterals (left right : Ty) : Prop :=
  ∀ shape ∈ left.leaves, ∀ other ∈ right.leaves, shape.name = other.name →
    shape.isLiteral = other.isLiteral

namespace Stub

section Naming

variable [Release] {classes : ClassTable} {left right : Ty}

/-- Types of named leaves look alike if they have the same name. -/
theorem ClassTable.NamesAll.looksLike (names : classes.NamesAll left)
    (namesToo : classes.NamesAll right) (normal : left.Normal) (normalToo : right.Normal)
    (outside : left.UnionsOutside) (outsideToo : right.UnionsOutside)
    (literals : left.SharesLiterals right) (same : left.name = right.name)
    (legible : IsLegible left.name) : Ty.LooksLike left right := by
  have named : Ty.NamesLeaves left right :=
    { closed := fun shape inside => (names shape inside).isClosed
      closedToo := fun shape inside => (namesToo shape inside).isClosed
      alike := fun shape inside other insideToo same legible => (names shape inside).looksLike
        (namesToo other insideToo) same legible (literals shape inside other insideToo same) }
  exact Ty.looksLike_of_name_eq named normal normalToo outside outsideToo same legible

/-- Values with the same name get the same verdict under every configuration, if no intersection in
their types has a union among its parts and no name stands for a literal in one type and for
something else in the other. Where formatted texts may end too early, the name must show none. -/
def Module.NamesTellVerdicts (module : Module) : Prop :=
  ∀ value other left right, module.values.get? value = some left →
    module.values.get? other = some right → left.name = right.name →
    left.UnionsOutside → right.UnionsOutside → left.SharesLiterals right →
    (Release.fallsBack = false → IsLegible left.name) →
    ∀ settings, left.classify settings = right.classify settings

theorem Module.namesTellVerdicts_of_ofStmts {file : Text} {stmts : List Stmt} {module : Module}
    (written : ∀ stmt ∈ stmts, stmt.IsWritten) (made : Module.ofStmts file stmts = .ok module) :
    module.NamesTellVerdicts := by
  intro value other left right stored storedToo same outside outsideToo literals shown
  have names := Module.namesAll_of_ofStmts written made
  have normal := Module.normal_of_ofStmts made
  have legible : IsLegible left.name := by
    cases fallsBack : Release.fallsBack with
    | true => exact Source.isLegible_of_fallsBack fallsBack _
    | false => exact shown fallsBack
  have alike := (names value left stored).looksLike (names other right storedToo)
    (normal value left stored) (normal other right storedToo) outside outsideToo literals same
    legible
  exact alike.classify_eq

end Naming

/-- In a stub that loads, and in a module of well-written statements, names tell verdicts. -/
theorem names_tell_verdicts [Release] :
    (∀ file source module, Module.load file source = .ok module → module.NamesTellVerdicts) ∧
    ∀ file stmts module, (∀ stmt ∈ stmts, stmt.IsWritten) →
      Module.ofStmts file stmts = .ok module → module.NamesTellVerdicts := by
  refine ⟨fun file source module loaded => ?_, fun file stmts module written made =>
    Module.namesTellVerdicts_of_ofStmts written made⟩
  obtain ⟨chars, stmts, _, read, made⟩ := Module.load_eq_ok loaded
  exact Module.namesTellVerdicts_of_ofStmts (Source.isWritten_of_readModule read) made

set_option maxRecDepth 100000 in
/-- The same operands in another form, with one of them repeated, have the same name. The formatted
text in it stands between the same quotes in both. -/
theorem names_tell_verdicts_repeated :
    let _release : Release := .late
    let classes := "class A: ...\nclass B: ...\nclass C:\n def __str__(self): ...\n"
    let values := "x: A | Intersection[B, C[f'\x7bA\x7d']]\n" ++
      "y: Union[A, Intersection[B, C[f\"\x7bA\x7d\"]], A]\n"
    ∃ module left right, Module.load "stub.pyi" (classes ++ values : String) = .ok module ∧
      module.values.get? "x" = some left ∧ module.values.get? "y" = some right ∧
      left.name = "A | B & C[f'\x7bA\x7d']" ∧ right.name = left.name ∧
      ∀ settings, left.classify settings = right.classify settings := by
  intro release classes values
  let both : Ty := .composite .intersection
    [.ofInstance "B" (some "object") 0, .ofInstance "C[f'\x7bA\x7d']" (some "C") 0]
  let type : Ty := .composite .union [.ofInstance "A" (some "object") 0, both]
  have seen : (Module.load "stub.pyi" (classes ++ values : String)).toOption.map (fun module =>
      (module.values.get? "x", module.values.get? "y")) = some (some type, some type) := by
    decide +kernel
  obtain ⟨module, loaded, seen⟩ := toOption_map_eq_some_iff.mp seen
  obtain ⟨first, second⟩ := Prod.mk.inj seen
  have inner : both.UnionsOutside :=
    .intersection (by simp [Ty.ofInstance, Ty.parts?])
      (by simp [Ty.ofInstance, Ty.UnionsOutside.leaf])
  have outside : type.UnionsOutside :=
    .union (List.forall_mem_cons.mpr ⟨.leaf _, List.forall_mem_singleton.mpr inner⟩)
  have literals : type.SharesLiterals type := by
    simp [Ty.SharesLiterals, type, both, Ty.ofInstance, Leaf.isLiteral]
  have alike := names_tell_verdicts.1 "stub.pyi" _ module loaded "x" "y" type type first second rfl
    outside outside literals (by decide)
  exact ⟨module, type, type, loaded, first, second, by rfl, rfl, alike⟩

/-- Two values of a module have the same name, and there is a configuration under which they get
different verdicts. -/
def Module.HasMisleadingName (module : Module) : Prop :=
  ∃ value other left right settings, module.values.get? value = some left ∧
    module.values.get? other = some right ∧ left.name = right.name ∧
    left.classify settings ≠ right.classify settings

/-- A name misleads if two values have it and get different verdicts by default. -/
theorem Module.hasMisleadingName_of_load [Release] {file source : Text} {name : String}
    {verdict another : Verdict} (different : verdict ≠ another)
    (seen : (Module.load file source).toOption.map (fun module =>
      ["x", "y"].map fun value => (module.values.get? value).map fun type =>
        (type.name, type.classify .default)) =
      some [some (name, verdict), some (name, another)]) :
    ∃ module, Module.load file source = .ok module ∧ module.HasMisleadingName := by
  obtain ⟨module, loaded, seen⟩ := toOption_map_eq_some_iff.mp seen
  simp only [List.map_cons, List.map_nil, List.cons.injEq, Option.map_eq_some_iff, Prod.mk.injEq,
    and_true] at seen
  obtain ⟨⟨left, stored, named, judged⟩, right, storedToo, namedToo, judgedToo⟩ := seen
  refine ⟨module, loaded, "x", "y", left, right, .default, stored, storedToo, ?_, ?_⟩
  · rw [named, namedToo]
  · rwa [judged, judgedToo]

set_option maxRecDepth 100000 in
/-- Names do not tell whether a union is a part of an intersection, and whether a literal or a class
is meant. In the first of the releases they do not tell where a formatted text ends either. -/
theorem names_leave_verdicts_open :
    let misleads (release : Release) (source : String) : Prop :=
      ∃ module, @Module.load release "stub.pyi" source = .ok module ∧ module.HasMisleadingName
    let grouped := "class A: ...\nclass B: ...\nclass C:\n def __str__(self): ...\n" ++
      "x: Intersection[A | B, C]\ny: A | Intersection[B, C]\n"
    let infinite := "class inf: ...\nx: Literal[1e999]\ny: inf\n"
    let formatted := "class C:\n def __str__(self): ...\nclass D: ...\n" ++
      "x: C[f\"A'] | D[\\\"'''\\\", f'\x7bx\x7d\\\"\\\"\\\"\"]\n" ++
      "y: C[f\"A\"] | D[\"'''\", f\"\x7bx\x7d\\\"\\\"\\\"\"]\n"
    misleads .late grouped ∧ misleads .late infinite ∧ misleads .early formatted := by
  intro misleads grouped infinite formatted
  refine ⟨?_, ?_, ?_⟩
  · exact @Module.hasMisleadingName_of_load .late _ _ "A | B & C" .always .sometimes (by decide)
      (by decide +kernel)
  · exact @Module.hasMisleadingName_of_load .late _ _ "inf" .always .never (by decide)
      (by decide +kernel)
  · exact @Module.hasMisleadingName_of_load .early _ _
      "C[f'A'] | D[\"'''\", f'\x7bx\x7d\"\"\"']" .always .sometimes (by decide) (by decide +kernel)

end Stub

end Stringify
