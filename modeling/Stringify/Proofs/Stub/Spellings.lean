import Stringify.Proofs.Stub.Aliases
import Stringify.Proofs.Stub.References
import Stringify.Proofs.Ty.Grouping

/-!
# Spellings of annotations

What a hint stands for depends on its parts only through what they stand for. So a type may be
spelled in several ways: a union by its root or by alternatives in any grouping, an optional type as
an alternative to nothing, a literal type value by value, and a hint by a text or by an alias.
-/

namespace Stringify.Stub

open Source (Expr Stmt)

variable {scope : Scope} {hint other changed part : Expr} {arguments operands values : List Expr}
variable {type : Ty} {types : List Ty} {line : Nat} {root : String}

/-- An expression is a subscript with the given root and arguments. -/
def IsSubscript (root : String) (arguments : List Expr) (hint : Expr) : Prop :=
  ∃ line value index, hint = .subscript line value index ∧ value.rootName? = some root ∧
    argumentsOf index = arguments

/-- The second hint is the first one with `other` for `part` where a hint is expected. -/
inductive Replaced (part other : Expr) : Expr → Expr → Prop where
  | here : Replaced part other part other
  | left {line : Nat} {left changed right : Expr} (inside : Replaced part other left changed) :
      Replaced part other (.binary line left .bitOr right) (.binary line changed .bitOr right)
  | right {line : Nat} {left right changed : Expr} (inside : Replaced part other right changed) :
      Replaced part other (.binary line left .bitOr right) (.binary line left .bitOr changed)
  | argument {root : String} {before after : List Expr} {hint argument changedHint changed : Expr}
      (expected : root ∈ ["Union", "Optional", "Intersection"])
      (subscript : IsSubscript root (before ++ argument :: after) hint)
      (changedSubscript : IsSubscript root (before ++ changed :: after) changedHint)
      (inside : Replaced part other argument changed) : Replaced part other hint changedHint
  | annotated {rest : List Expr} {hint argument changedHint changed : Expr}
      (subscript : IsSubscript "Annotated" (argument :: rest) hint)
      (changedSubscript : IsSubscript "Annotated" (changed :: rest) changedHint)
      (inside : Replaced part other argument changed) : Replaced part other hint changedHint

/-- An expression has the given operands from left to right between `|`, grouped in some way. -/
inductive Chain : List Expr → Expr → Prop where
  | single (operand : Expr) : Chain [operand] operand
  | either {former latter : List Expr} {line : Nat} {left right : Expr} (ofLeft : Chain former left)
      (ofRight : Chain latter right) : Chain (former ++ latter) (.binary line left .bitOr right)

theorem Chain.ne_nil (chain : Chain operands hint) : operands ≠ [] := by
  induction chain with
  | single operand => simp
  | either _ _ ihLeft _ => simp [ihLeft]

theorem forall₂_append_left_iff {α β : Type} {related : α → β → Prop} {first second : List α}
    {images : List β} :
    List.Forall₂ related (first ++ second) images ↔
      ∃ former latter, List.Forall₂ related first former ∧ List.Forall₂ related second latter ∧
        images = former ++ latter := by
  induction first generalizing images with
  | nil => simp
  | cons element rest ih =>
      simp only [List.cons_append, List.forall₂_cons_left_iff, ih]
      constructor
      · rintro ⟨image, others, here, ⟨former, latter, left, right, rfl⟩, rfl⟩
        exact ⟨image :: former, latter, ⟨image, former, here, left, rfl⟩, right, rfl⟩
      · rintro ⟨_, latter, ⟨image, former, here, left, rfl⟩, right, rfl⟩
        exact ⟨image, former ++ latter, here, ⟨former, latter, left, right, rfl⟩, rfl⟩

/-! ## Meaning -/

section

variable [Release]

/-- Two hints stand for the same type, or both for none. -/
def SameMeaning (scope : Scope) (hint other : Expr) : Prop :=
  ∀ type, resolve scope hint = .ok type ↔ resolve scope other = .ok type

namespace SameMeaning

theorem refl (hint : Expr) : SameMeaning scope hint hint := fun _ => Iff.rfl

/-- Hints that stand for equal types have the same meaning. -/
theorem of_resolve (resolved : resolve scope hint = .ok type)
    (otherResolved : resolve scope other = .ok type) : SameMeaning scope hint other := by
  intro found
  rw [resolved, otherResolved]

theorem either {left changedLeft right changedRight : Expr} {otherLine : Nat}
    (ofLeft : SameMeaning scope left changedLeft) (ofRight : SameMeaning scope right changedRight) :
    SameMeaning scope (.binary line left .bitOr right)
      (.binary otherLine changedLeft .bitOr changedRight) := by
  intro type
  simp only [resolve_either_iff, ofLeft _, ofRight _]

end SameMeaning

/-! ## Subscripts -/

section Subscripts

variable {others : List Expr} {composition : Composition}

/-- The root that composes the types of its arguments. -/
def rootOf : Composition → String
  | .union => "Union"
  | .intersection => "Intersection"

theorem resolve_rootOf_iff (subscript : IsSubscript (rootOf composition) arguments hint) :
    resolve scope hint = .ok type ↔
      ∃ types, ResolveTo scope arguments types ∧ Ty.compose? composition types = some type := by
  rcases subscript with ⟨line, value, index, rfl, named, rfl⟩
  apply resolve_composed_iff
  rw [named]
  cases composition <;> rfl

theorem resolve_isOptional_iff (subscript : IsSubscript "Optional" arguments hint) :
    resolve scope hint = .ok type ↔
      ∃ inner, ResolveTo scope arguments [inner] ∧
        Ty.compose? .union [inner, .nothing] = some type := by
  rcases subscript with ⟨line, value, index, rfl, named, rfl⟩
  apply resolve_optional_iff
  rw [named]
  rfl

theorem resolve_isAnnotated {argument : Expr} {rest : List Expr}
    (subscript : IsSubscript "Annotated" (argument :: rest) hint) :
    resolve scope hint = resolve scope argument := by
  rcases subscript with ⟨line, value, index, rfl, named, given⟩
  apply resolve_annotated _ given
  rw [named]
  rfl

theorem resolve_isLiteral_iff (subscript : IsSubscript "Literal" values hint) :
    resolve scope hint = .ok type ↔
      ∃ types, List.Forall₂ (fun argument part => literalType argument = .ok part)
        values types ∧ Ty.compose? .union types = some type := by
  rcases subscript with ⟨line, value, index, rfl, named, rfl⟩
  apply resolve_literal_iff
  rw [named]
  rfl

/-- Arguments with the same meaning have the same types. -/
theorem resolveTo_iff (each : List.Forall₂ (SameMeaning scope) arguments others) :
    ResolveTo scope arguments types ↔ ResolveTo scope others types := by
  induction each generalizing types with
  | nil => rfl
  | cons same _ ih => simp only [List.forall₂_cons_left_iff, same _, ih]

/-- Only what the arguments stand for matters. -/
theorem SameMeaning.subscript (expected : root ∈ ["Union", "Optional", "Intersection"])
    (former : IsSubscript root arguments hint) (latter : IsSubscript root others other)
    (each : List.Forall₂ (SameMeaning scope) arguments others) : SameMeaning scope hint other := by
  intro type
  simp only [List.mem_cons, List.not_mem_nil, or_false] at expected
  rcases expected with rfl | rfl | rfl
  · simp only [@resolve_rootOf_iff scope _ _ _ _ .union former,
      @resolve_rootOf_iff scope _ _ _ _ .union latter, resolveTo_iff each]
  · simp only [resolve_isOptional_iff former, resolve_isOptional_iff latter,
      resolveTo_iff each]
  · simp only [@resolve_rootOf_iff scope _ _ _ _ .intersection former,
      @resolve_rootOf_iff scope _ _ _ _ .intersection latter, resolveTo_iff each]

end Subscripts

/-! ## Alternatives -/

theorem normal_of_resolveTo (normal : scope.IsNormal) (each : ResolveTo scope operands types) :
    ∀ part ∈ types, part.Normal := by
  induction each with
  | nil => simp
  | cons resolved _ ih =>
      rw [List.forall_mem_cons]
      exact ⟨normal_of_resolveWithin normal resolved, ih⟩

/-- Alternatives stand for the union of what their operands stand for, however they are grouped. -/
theorem Chain.resolve_iff (normal : scope.IsNormal) (chain : Chain operands hint) :
    resolve scope hint = .ok type ↔
      ∃ types, ResolveTo scope operands types ∧ Ty.compose? .union types = some type := by
  induction chain generalizing type with
  | single operand =>
      have alone (part : Ty) (resolved : resolve scope operand = .ok part) :
          Ty.compose? .union [part] = some part :=
        (normal_of_resolveWithin normal resolved).compose?_singleton .union
      simp only [List.forall₂_cons_left_iff, List.forall₂_nil_left_iff]
      constructor
      · intro resolved
        exact ⟨[type], ⟨type, [], resolved, rfl, rfl⟩, alone type resolved⟩
      · rintro ⟨_, ⟨part, _, resolved, rfl, rfl⟩, composed⟩
        rw [alone part resolved] at composed
        cases composed
        exact resolved
  | @either before after line left right ofLeft ofRight ihLeft ihRight =>
      -- What the operands of two groups stand for is composed group by group or all at once.
      have together {former latter : List Ty} {first second : Ty}
          (each : ResolveTo scope before former) (eachToo : ResolveTo scope after latter)
          (composed : Ty.compose? .union former = some first)
          (composedToo : Ty.compose? .union latter = some second) :=
        Ty.exists_compose?_pair (normal_of_resolveTo normal each)
          (normal_of_resolveTo normal eachToo) composed composedToo
      -- The operands of a group that have types have a union.
      have exists_union {operands : List Expr} {hint : Expr} {types : List Ty}
          (chain : Chain operands hint) (each : ResolveTo scope operands types) :
          ∃ type, Ty.compose? .union types = some type := by
        refine Ty.exists_compose? (fun none => chain.ne_nil ?_) (normal_of_resolveTo normal each)
        rw [none] at each
        exact List.forall₂_nil_right_iff.mp each
      simp only [resolve_either_iff, ihLeft, ihRight, ResolveTo, forall₂_append_left_iff]
      constructor
      · rintro ⟨first, second, ⟨former, each, composed⟩, ⟨latter, eachToo, composedToo⟩, both⟩
        rcases together each eachToo composed composedToo with ⟨whole, paired, atOnce⟩
        obtain rfl := Option.some.inj (both.symm.trans paired)
        exact ⟨former ++ latter, ⟨former, latter, each, eachToo, rfl⟩, atOnce⟩
      · rintro ⟨_, ⟨former, latter, each, eachToo, rfl⟩, atOnce⟩
        rcases exists_union ofLeft each with ⟨first, composed⟩
        rcases exists_union ofRight eachToo with ⟨second, composedToo⟩
        rcases together each eachToo composed composedToo with ⟨whole, paired, again⟩
        obtain rfl := Option.some.inj (atOnce.symm.trans again)
        exact ⟨first, second, ⟨former, each, composed⟩, ⟨latter, eachToo, composedToo⟩, paired⟩

/-! ## Literals -/

/-- A literal type of one value is the type of the value. -/
theorem resolve_literal_single {value : Expr} (single : IsSubscript "Literal" [value] hint) :
    resolve scope hint = .ok type ↔ literalType value = .ok type := by
  have alone (part : Ty) (valued : literalType value = .ok part) :
      Ty.compose? .union [part] = some part :=
    (normal_of_literalType valued).compose?_singleton .union
  simp only [resolve_isLiteral_iff single, List.forall₂_cons_left_iff, List.forall₂_nil_left_iff]
  constructor
  · rintro ⟨_, ⟨part, _, valued, rfl, rfl⟩, composed⟩
    rw [alone part valued] at composed
    cases composed
    exact valued
  · intro valued
    exact ⟨[type], ⟨type, [], valued, rfl, rfl⟩, alone type valued⟩

theorem resolveTo_literals_iff {singles : List Expr}
    (each : List.Forall₂ (fun value => IsSubscript "Literal" [value]) values singles) :
    ResolveTo scope singles types ↔
      List.Forall₂ (fun value part => literalType value = .ok part) values types := by
  induction each generalizing types with
  | nil => simp
  | cons single _ ih => simp only [List.forall₂_cons_left_iff, resolve_literal_single single, ih]

/-! ## Hints inside hints -/

/-- To replace a part of a hint by one with the same meaning leaves the meaning of the hint. -/
theorem Replaced.sameMeaning (replaced : Replaced part other hint changed)
    (same : SameMeaning scope part other) : SameMeaning scope hint changed := by
  induction replaced with
  | here => exact same
  | left _ ih => exact .either ih (.refl _)
  | right _ ih => exact .either (.refl _) ih
  | argument expected subscript changedSubscript _ ih =>
      refine .subscript expected subscript changedSubscript ?_
      have unchanged (hints : List Expr) : List.Forall₂ (SameMeaning scope) hints hints :=
        List.forall₂_same.mpr fun hint _ => .refl hint
      exact List.rel_append (unchanged _) (.cons ih (unchanged _))
  | annotated subscript changedSubscript _ ih =>
      intro type
      rw [resolve_isAnnotated subscript, resolve_isAnnotated changedSubscript]
      exact ih type

/-! ## All spellings -/

/-- A scope of the aliases that some annotations have given. -/
def Scope.IsBuilt (scope : Scope) : Prop :=
  ∃ pendings, resolveAliases scope.classes [] pendings = .ok scope.aliases

theorem Scope.IsBuilt.isNormal (built : scope.IsBuilt) : scope.IsNormal := by
  rcases built with ⟨pendings, run⟩
  have empty : Scope.IsNormal ⟨scope.classes, []⟩ := by simp [Scope.IsNormal]
  exact isNormal_of_resolveAliases empty run

theorem sameMeaning_union (normal : scope.IsNormal) (chain : Chain operands other)
    (subscript : IsSubscript "Union" operands hint) : SameMeaning scope other hint := by
  intro type
  rw [chain.resolve_iff normal, @resolve_rootOf_iff scope _ _ _ _ .union subscript]

theorem sameMeaning_optional {argument : Expr} {nothingLine : Nat}
    (subscript : IsSubscript "Optional" [argument] hint) :
    SameMeaning scope hint
      (.binary line argument .bitOr (.constant nothingLine .nothing)) := by
  intro type
  simp [resolve_isOptional_iff subscript, resolve_either_iff]

theorem sameMeaning_literal {singles : List Expr} (normal : scope.IsNormal)
    (subscript : IsSubscript "Literal" values hint)
    (each : List.Forall₂ (fun value => IsSubscript "Literal" [value]) values singles)
    (chain : Chain singles other) : SameMeaning scope hint other := by
  intro type
  rw [chain.resolve_iff normal, resolve_isLiteral_iff subscript]
  simp only [resolveTo_literals_iff each]

theorem sameMeaning_text {text : Text} {isMarked : Bool} {inner : Expr}
    (read : readReference line text = .ok inner) :
    SameMeaning scope (.constant line (.text text isMarked)) inner := by
  intro type
  rw [resolve_text, read]
  rfl

end

/-- In the scope of some aliases of a stub, a part of a hint may be replaced by one with the same
meaning, and these spellings have the same meaning: alternatives in any grouping and their union; an
optional type and the alternative to nothing; an annotated type and the type; a literal type of
several values and the alternatives of the values; a text and the hint that it writes. In the scope
of all aliases of a stub that makes a module, the name of an alias stands for the type that its hint
stands for, if it is not given again below, and no name that its hint mentions is given to it or to
an alias below it. -/
theorem spellings_mean_the_same [Release] :
    (∀ scope : Scope, scope.IsBuilt →
      (∀ part other hint changed, Replaced part other hint changed →
        SameMeaning scope part other → SameMeaning scope hint changed) ∧
      (∀ operands alternatives hint, Chain operands alternatives →
        IsSubscript "Union" operands hint → SameMeaning scope alternatives hint) ∧
      (∀ argument hint line nothingLine, IsSubscript "Optional" [argument] hint →
        SameMeaning scope hint
          (.binary line argument .bitOr (.constant nothingLine .nothing))) ∧
      (∀ argument rest hint, IsSubscript "Annotated" (argument :: rest) hint →
        SameMeaning scope hint argument) ∧
      (∀ values singles hint alternatives, IsSubscript "Literal" values hint →
        List.Forall₂ (fun value => IsSubscript "Literal" [value]) values singles →
        Chain singles alternatives → SameMeaning scope hint alternatives) ∧
      ∀ line text isMarked inner, readReference line text = .ok inner →
        SameMeaning scope (.constant line (.text text isMarked)) inner) ∧
    ∀ file stmts module, Module.ofStmts file stmts = .ok module →
      ∃ aliases, resolveAliases module.classes [] (stmts.filterMap pendingOf?) = .ok aliases ∧
        ∀ before pending after, stmts.filterMap pendingOf? = before ++ pending :: after →
          pending.isAlias = true →
          (∀ later ∈ after, later.isAlias = true → later.name ≠ pending.name) →
          (∀ name, Mentions pending.hint name →
            ∀ later ∈ pending :: after, later.isAlias = true → later.name ≠ name) →
          ∀ line, ∃ type, resolve ⟨module.classes, aliases⟩ (.name line pending.name) = .ok type ∧
            resolve ⟨module.classes, aliases⟩ pending.hint = .ok type := by
  constructor
  · intro scope built
    have normal := built.isNormal
    refine ⟨?_, ?_, ?_, ?_, ?_, ?_⟩
    · intro part other hint changed replaced same
      exact replaced.sameMeaning same
    · intro operands alternatives hint chain subscript
      exact sameMeaning_union normal chain subscript
    · intro argument hint line nothingLine subscript
      exact sameMeaning_optional subscript
    · intro argument rest hint subscript type
      rw [resolve_isAnnotated subscript]
    · intro values singles hint alternatives subscript each chain
      exact sameMeaning_literal normal subscript each chain
    · intro line text isMarked inner read
      exact sameMeaning_text read
  · intro file stmts module loaded
    rcases exists_aliases_of_ofStmts loaded with ⟨aliases, every, _⟩
    refine ⟨aliases, every, fun before pending after split isAlias last settled line => ?_⟩
    rw [split] at every
    exact exists_resolve_alias isAlias every last settled line

/-- A number or a text in several spellings, and an alias for it. -/
theorem spellings_mean_the_same_intOrStr :
    let _release : Release := .late
    let scope : Scope := ⟨.builtin, []⟩
    let number : Expr := .name 1 "int"
    let word : Expr := .name 1 "str"
    let nothing : Expr := .constant 1 .nothing
    let yes : Expr := .constant 1 (.bool true)
    let subscript (root : String) (arguments : List Expr) : Expr :=
      .subscript 1 (.name 1 root) (.tuple 1 arguments)
    let annotated := subscript "Annotated" [number, word]
    let either : Expr := .binary 1 number .bitOr word
    let declared : Stmt := .annotated ⟨1, 1⟩ (.name 1 "A") (.name 1 "TypeAlias") (some either)
    SameMeaning scope (subscript "Optional" [number]) (subscript "Optional" [annotated]) ∧
    SameMeaning scope (.binary 1 number .bitOr (.binary 1 word .bitOr number))
      (subscript "Union" [number, word, number]) ∧
    SameMeaning scope (subscript "Optional" [number]) (.binary 1 number .bitOr nothing) ∧
    SameMeaning scope annotated number ∧
    SameMeaning scope (subscript "Literal" [yes, nothing])
      (.binary 1 (subscript "Literal" [yes]) .bitOr (subscript "Literal" [nothing])) ∧
    SameMeaning scope (.constant 1 (.text "int" false)) number ∧
    ∃ module aliases type, Module.ofStmts "stub.pyi" [declared] = .ok module ∧
      resolve ⟨module.classes, aliases⟩ (.name 1 "A") = .ok type ∧
      resolve ⟨module.classes, aliases⟩ either = .ok type := by
  intro release scope number word nothing yes subscript annotated either declared
  rcases spellings_mean_the_same with ⟨inScope, ofAliases⟩
  have built : scope.IsBuilt := ⟨[], rfl⟩
  rcases inScope scope built with ⟨replacing, union, optional, first, literal, text⟩
  have isSubscript (root : String) (arguments : List Expr) :
      IsSubscript root arguments (subscript root arguments) := ⟨1, .name 1 root, _, rfl, rfl, rfl⟩
  have same : SameMeaning scope number annotated :=
    .of_resolve (by rfl : resolve scope number = .ok (.ofScalar "int")) (by rfl)
  have replaced : Replaced number annotated (subscript "Optional" [number])
      (subscript "Optional" [annotated]) :=
    .argument (by simp) (isSubscript "Optional" ([] ++ number :: [])) (isSubscript _ _) .here
  have loaded : Module.ofStmts "stub.pyi" [declared] = .ok ⟨"stub.pyi", .builtin, []⟩ := by rfl
  rcases ofAliases _ _ _ loaded with ⟨aliases, _, named⟩
  have split : [declared].filterMap pendingOf? = [] ++ ⟨"A", either, true⟩ :: [] := by rfl
  have settled : ∀ name, Mentions either name →
      ∀ later ∈ [(⟨"A", either, true⟩ : Pending)], later.isAlias = true → later.name ≠ name := by
    intro name mentioned later member _
    rw [List.mem_singleton.mp member]
    change Mentions (.binary 1 (.name 1 "int") .bitOr (.name 1 "str")) name at mentioned
    cases mentioned with
    | left inside =>
        cases inside
        decide
    | right inside =>
        cases inside
        decide
  have written : readReference 1 "int" = .ok number := by cbv
  rcases named _ _ _ split rfl (by simp) settled 1 with ⟨type, ofName, ofHint⟩
  refine ⟨replacing _ _ _ _ replaced same, ?_, optional _ _ _ _ (isSubscript _ _),
    first _ [word] _ (isSubscript _ _), ?_, text _ _ _ _ written, _, aliases, type, loaded, ofName,
    ofHint⟩
  · exact union [number, word, number] _ _
      (.either (.single number) (.either (.single word) (.single number))) (isSubscript _ _)
  · refine literal [yes, nothing] _ _ _ (isSubscript _ _) ?_ (.either (.single _) (.single _))
    exact .cons (isSubscript _ _) (.cons (isSubscript _ _) .nil)

end Stringify.Stub
