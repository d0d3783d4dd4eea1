import Stringify.Proofs.Stub.Annotations

/-!
# Aliases in the scope of all of them

An alias is resolved in the scope of the aliases above it. If neither it nor an alias below it has a
name that its hint mentions, the hint stands for the same type in the scope of all aliases.
-/

namespace Stringify.Stub

open Source (Expr)

variable {scope : Scope} {classes : ClassTable} {aliases others resolved : Entries String Ty}
variable {reference other : Nat → Text → Work Ty} {hint : Expr} {type : Ty} {name : String}
variable {pending : Pending} {before after pendings : List Pending}

/-! ## Mentioned names -/

/-- The arguments that hints are expected for in a subscript of the given root. -/
def argumentHints (root : Option String) (arguments : List Expr) : List Expr :=
  if root = some "Union" ∨ root = some "Optional" ∨ root = some "Intersection" then arguments
  else if root = some "Annotated" then arguments.take 1
  else []

theorem mem_of_mem_argumentHints {root : Option String} {argument : Expr} {arguments : List Expr}
    (member : argument ∈ argumentHints root arguments) : argument ∈ arguments := by
  unfold argumentHints at member
  split at member
  · exact member
  · split at member
    · exact List.mem_of_mem_take member
    · cases member

/-- Hints are expected for the arguments that are resolved. -/
theorem argumentHints_eq {root : Option String} {arguments : List Expr}
    (resolves : (scope.form root).resolvesArguments = true) :
    argumentHints root arguments =
      if scope.form root = .annotated then arguments.take 1 else arguments := by
  cases root with
  | none => cases resolves
  | some root =>
      by_cases union : root = "Union"
      · simp [argumentHints, Scope.form, union]
      by_cases optional : root = "Optional"
      · simp [argumentHints, Scope.form, optional]
      by_cases intersection : root = "Intersection"
      · simp [argumentHints, Scope.form, intersection]
      by_cases annotated : root = "Annotated"
      · simp [argumentHints, Scope.form, annotated, callableName]
      · simp only [Scope.form, union, optional, intersection, annotated, if_false] at resolves
        split_ifs at resolves <;> cases resolves

/-- A name that no other alias was given stands for what it did. -/
theorem Scope.named_of_get?_eq {line : Nat} (same : others.get? name = aliases.get? name)
    (named : Scope.named ⟨classes, aliases⟩ line name = .ok type) :
    Scope.named ⟨classes, others⟩ line name = .ok type := by
  unfold Scope.named at named ⊢
  rw [same]
  exact named

variable [Release]

/-- A name stands where a hint is expected, possibly in a text. -/
inductive Mentions : Expr → String → Prop where
  | name {line : Nat} {text : String} : Mentions (.name line text) text
  | field {line : Nat} {value : Expr} {field : String} :
      Mentions (.attribute line value field) field
  | left {line : Nat} {left right : Expr} {name : String} (inside : Mentions left name) :
      Mentions (.binary line left .bitOr right) name
  | right {line : Nat} {left right : Expr} {name : String} (inside : Mentions right name) :
      Mentions (.binary line left .bitOr right) name
  | argument {line : Nat} {value index argument : Expr} {name : String}
      (member : argument ∈ argumentHints value.rootName? (argumentsOf index))
      (inside : Mentions argument name) : Mentions (.subscript line value index) name
  | text {line : Nat} {value : Text} {isMarked : Bool} {inner : Expr} {name : String}
      (read : readReference line value = .ok inner) (inside : Mentions inner name) :
      Mentions (.constant line (.text value isMarked)) name

/-- Only what the mentioned names stand for matters. -/
theorem StandsFor.of_mentions
    (texts : ∀ line value isMarked type,
      (∀ name, Mentions (.constant line (.text value isMarked)) name →
        others.get? name = aliases.get? name) →
      reference line value = .ok type → other line value = .ok type)
    (stands : StandsFor ⟨classes, aliases⟩ reference hint type)
    (same : ∀ name, Mentions hint name →
      others.get? name = aliases.get? name) :
    StandsFor ⟨classes, others⟩ other hint type := by
  induction stands with
  | nothing => exact .nothing
  | text read => exact .text (texts _ _ _ _ same read)
  | name named => exact .name (Scope.named_of_get?_eq (same _ .name) named)
  | field named => exact .field (Scope.named_of_get?_eq (same _ .field) named)
  | either _ _ composed ihLeft ihRight =>
      exact .either (ihLeft fun name inside => same name (.left inside))
        (ihRight fun name inside => same name (.right inside)) composed
  | composed form lengths _ composed ih =>
      refine .composed form lengths (fun argument part paired => ?_) composed
      refine ih argument part paired fun name inside => same name (.argument ?_ inside)
      rw [argumentHints_eq (by rw [form]; exact Form.resolvesArguments_composing _), form,
        if_neg (Form.composing_ne_annotated _)]
      exact (List.of_mem_zip paired).1
  | optional form alone _ composed ih =>
      refine .optional form alone (ih fun name inside => same name (.argument ?_ inside)) composed
      rw [argumentHints_eq (by rw [form]; rfl), form, alone]
      exact List.mem_singleton_self _
  | annotated form first _ ih =>
      refine .annotated form first (ih fun name inside => same name (.argument ?_ inside))
      rw [argumentHints_eq (by rw [form]; rfl), form, first]
      exact List.mem_singleton_self _
  | ignored ignores => exact .ignored ⟨ignores.form, ignores.built⟩

theorem resolveWithin_of_mentions {readings : Nat}
    (same : ∀ name, Mentions hint name →
      others.get? name = aliases.get? name)
    (found : resolveWithin ⟨classes, aliases⟩ readings hint = .ok type) :
    resolveWithin ⟨classes, others⟩ readings hint = .ok type := by
  induction readings generalizing hint type with
  | zero =>
      refine resolveWithin_eq_ok_iff.mpr ((resolveWithin_eq_ok_iff.mp found).of_mentions ?_ same)
      intro line value isMarked type _ read
      exact absurd read (Work.refuse_ne_ok _ _ _)
  | succ readings ih =>
      refine resolveWithin_eq_ok_iff.mpr ((resolveWithin_eq_ok_iff.mp found).of_mentions ?_ same)
      intro line value isMarked type same read
      rcases bind_eq_ok_iff.mp read with ⟨inner, read, found⟩
      exact bind_eq_ok_iff.mpr
        ⟨inner, read, ih (fun name inside => same name (.text read inside)) found⟩

/-! ## Names of aliases -/

/-- A name that is given to no alias keeps what it stands for. -/
theorem get?_of_resolveAliases (run : resolveAliases classes aliases pendings = .ok resolved)
    (fresh : ∀ pending ∈ pendings, pending.isAlias = true → pending.name ≠ name) :
    resolved.get? name = aliases.get? name := by
  induction pendings generalizing aliases with
  | nil =>
      cases run
      rfl
  | cons pending rest ih =>
      rw [List.forall_mem_cons] at fresh
      rw [resolveAliases] at run
      split at run
      · next isAlias =>
          rcases bind_eq_ok_iff.mp run with ⟨type, _, later⟩
          rw [ih later fresh.2, Entries.get?_put, if_neg (fresh.1 isAlias)]
      · exact ih run fresh.2

/-- In the scope of all aliases, an alias that is not given another type later stands for what its
hint does, if no name that the hint mentions is given to it or to an alias below it. -/
theorem exists_resolve_alias (isAlias : pending.isAlias = true)
    (every : resolveAliases classes [] (before ++ pending :: after) = .ok aliases)
    (last : ∀ later ∈ after, later.isAlias = true → later.name ≠ pending.name)
    (settled : ∀ name, Mentions pending.hint name →
      ∀ later ∈ pending :: after, later.isAlias = true → later.name ≠ name) (line : Nat) :
    ∃ type, resolve ⟨classes, aliases⟩ (.name line pending.name) = .ok type ∧
      resolve ⟨classes, aliases⟩ pending.hint = .ok type := by
  rcases resolveAliases_append.mp every with ⟨earlier, first, rest⟩
  rcases exists_resolve_of_resolveAliases isAlias first every with ⟨type, found, later⟩
  refine ⟨type, ?_, ?_⟩
  · have stored : aliases.get? pending.name = some type := by
      rw [get?_of_resolveAliases later last, Entries.get?_put, if_pos rfl]
    have named : Scope.named ⟨classes, aliases⟩ line pending.name = .ok type := by
      unfold Scope.named
      rw [stored]
    exact named
  · refine resolveWithin_of_mentions (fun name inside => ?_) found
    exact get?_of_resolveAliases rest (settled name inside)

end Stringify.Stub
