import Stringify.Proofs.Stub.Aliases
import Stringify.Proofs.Stub.References

/-!
# Recursion of resolution

A hint is resolved by resolving its operands or arguments, and a text by resolving the hint that it
writes. That hint is no part of the one before it and may be the larger tree, but the texts in it
are shorter. So resolution ends, and the length of the longest text in a hint bounds how many texts
are read inside one another.
-/

namespace Stringify.Stub

open Source (Expr)

variable {scope : Scope} {hint inner argument value index : Expr} {arguments : List Expr}
variable {recurse other : Expr → Work Ty} {line : Nat}

/-! ## Calls -/

theorem sizeOf_lt_of_mem_argumentsOf (member : argument ∈ argumentsOf index) :
    sizeOf argument < sizeOf index + 1 := by
  cases index with
  | tuple place items =>
      have smaller : sizeOf argument < sizeOf items := List.sizeOf_lt_of_mem member
      simp only [Expr.tuple.sizeOf_spec]
      omega
  | _ =>
      obtain rfl := List.mem_singleton.mp member
      exact Nat.lt_succ_self _

section

variable [Release]

/-- Resolving a hint calls for resolving another one: an operand, an argument in the place of a
hint, or what a text writes. -/
inductive Calls : Expr → Expr → Prop where
  | left {line : Nat} {left right : Expr} : Calls (.binary line left .bitOr right) left
  | right {line : Nat} {left right : Expr} : Calls (.binary line left .bitOr right) right
  | argument {line : Nat} {value index argument : Expr}
      (member : argument ∈ argumentHints value.rootName? (argumentsOf index)) :
      Calls (.subscript line value index) argument
  | text {line : Nat} {value : Text} {isMarked : Bool} {inner : Expr}
      (read : readReference line value = .ok inner) :
      Calls (.constant line (.text value isMarked)) inner

/-- Whether a hint is a text, which has to be read. -/
def isText : Expr → Bool
  | .constant _ (.text _ _) => true
  | _ => false

/-- What a text writes has shorter texts only. -/
theorem Calls.longestText_lt (calls : Calls hint inner) (text : isText hint = true) :
    longestText inner < longestText hint := by
  cases calls with
  | left | right | argument => cases text
  | text read =>
      rw [longestText.eq_def (.constant _ _)]
      exact longestText_lt_of_readReference read

/-- The parts of a hint that are called for have no longer texts than it. -/
theorem Calls.longestText_le (calls : Calls hint inner) :
    longestText inner ≤ longestText hint := by
  cases calls with
  | left =>
      rw [longestText.eq_def (.binary _ _ _ _)]
      exact Nat.le_max_left _ _
  | right =>
      rw [longestText.eq_def (.binary _ _ _ _)]
      exact Nat.le_max_right _ _
  | argument member =>
      rw [longestText.eq_def (.subscript _ _ _)]
      exact longestText_le_of_mem_argumentsOf (mem_of_mem_argumentHints member)
  | text read => exact Nat.le_of_lt (Calls.longestText_lt (.text read) rfl)

theorem Calls.sizeOf_lt (calls : Calls hint inner) (part : isText hint = false) :
    sizeOf inner < sizeOf hint := by
  cases calls with
  | left | right => simp only [Expr.binary.sizeOf_spec]; omega
  | argument member =>
      have smaller := sizeOf_lt_of_mem_argumentsOf (mem_of_mem_argumentHints member)
      simp only [Expr.subscript.sizeOf_spec]
      omega
  | text => cases part

/-- No hint calls for others without end: the longest text gets shorter, or the texts get no longer
and the hint gets smaller. -/
theorem wellFounded_calls : WellFounded fun inner hint => Calls hint inner := by
  refine Subrelation.wf (fun {inner hint} calls => ?_)
    (InvImage.wf (fun hint => (longestText hint, sizeOf hint))
      (WellFounded.prod_lex Nat.lt_wfRel.wf Nat.lt_wfRel.wf))
  cases text : isText hint with
  | true => exact .left _ _ (calls.longestText_lt text)
  | false =>
      rcases Nat.lt_or_eq_of_le calls.longestText_le with shorter | same
      · exact .left _ _ shorter
      · exact Prod.lex_def.mpr (.inr ⟨same, calls.sizeOf_lt text⟩)

/-- Along a chain of calls at most one text more is read than the longest text is long. -/
theorem countP_isText_le {later : List Expr} (chain : List.IsChain Calls (hint :: later)) :
    (hint :: later).countP isText ≤ longestText hint + 1 := by
  induction later generalizing hint with
  | nil =>
      rw [List.countP_cons, List.countP_nil]
      split <;> omega
  | cons next later ih =>
      obtain ⟨calls, chain⟩ := List.isChain_cons_cons.mp chain
      have rest := ih chain
      rw [List.countP_cons]
      split
      · next text =>
          have shorter := calls.longestText_lt text
          omega
      · have shorter := calls.longestText_le
        omega

/-! ## Levels -/

/-- The type that the first of several expressions stands for. -/
def firstOf (recurse : Expr → Work Ty) : List Expr → Work Ty
  | [] => .ok .nothing
  | item :: _ => recurse item

/-- One level of resolution, where `recurse` resolves the hints that are called for. -/
def resolveLevel (scope : Scope) (recurse : Expr → Work Ty) : Expr → Work Ty
  | .constant _ .nothing => .ok .nothing
  | .constant line (.text value _) => do recurse (← readReference line value)
  | .binary _ left .bitOr right => do
    let left ← recurse left
    let right ← recurse right
    compose .union [left, right]
  | .subscript line value index =>
    scope.subscripted (.subscript line value index) value.rootName? (argumentsOf index)
      (fun _ => (argumentsOf index).mapM recurse) (fun _ => firstOf recurse (argumentsOf index))
  | .name line text => scope.named line text
  | .attribute line _ field => scope.named line field
  | other => do Work.refuse other.line (.unsupportedHint (← Work.print other))

theorem resolveFirst_eq_firstOf (scope : Scope) (reference : Nat → Text → Work Ty)
    (hints : List Expr) :
    resolveFirst scope reference hints = firstOf (resolveWith scope reference) hints := by
  cases hints <;> rw [resolveFirst, firstOf]

/-- A hint is resolved level by level. -/
theorem resolve_eq_resolveLevel (scope : Scope) (hint : Expr) :
    resolve scope hint = resolveLevel scope (resolve scope) hint := by
  have same : resolve scope = resolveWith scope (referenceOf scope) :=
    funext fun hint => resolve_eq scope hint
  rw [resolve_eq]
  unfold resolveLevel
  split
  · rw [resolveWith]
  · rw [resolveWith]
    rfl
  · rw [resolveWith, same]
  · rw [resolveWith_subscript, resolveAll_eq_mapM, resolveFirst_eq_firstOf, same]
  · rw [resolveWith]
  · rw [resolveWith]
  · next noNothing noText noEither noSubscript noName noAttribute =>
      rw [resolveWith] <;> first | assumption | exact fun _ _ _ _ => noSubscript _ _ _

/-- Only what hints in their places stand for matters to a subscript. -/
theorem subscripted_congr {types others : Unit → Work (List Ty)} {first second : Unit → Work Ty}
    {subscript : Expr} {root : Option String}
    (same : (scope.form root).resolvesArguments = true →
      (scope.form root ≠ .annotated → types () = others ()) ∧ first () = second ()) :
    scope.subscripted subscript root arguments types first =
      scope.subscripted subscript root arguments others second := by
  unfold Scope.subscripted
  cases form : scope.form root with
  | union | intersection =>
      have all := (same (by rw [form]; rfl)).1 (by simp [form])
      simp only [all]
  | optional | annotated =>
      have alone := (same (by rw [form]; rfl)).2
      simp only [alone]
  | callable | literal | instanceOf className | container name | unsupported => rfl

/-- A level depends only on the hints that are called for. -/
theorem resolveLevel_congr (same : ∀ inner, Calls hint inner → recurse inner = other inner) :
    resolveLevel scope recurse hint = resolveLevel scope other hint := by
  unfold resolveLevel
  split
  · rfl
  · exact bind_congr_of_ok fun inner read => same inner (.text read)
  · rw [same _ .left, same _ .right]
  · next line value index =>
      refine subscripted_congr fun resolves => ⟨fun unlike => ?_, ?_⟩
      · refine mapM_congr fun argument member => same argument (.argument ?_)
        rw [argumentHints_eq resolves, if_neg unlike]
        exact member
      · cases given : argumentsOf index with
        | nil => rfl
        | cons argument rest =>
            refine same argument (.argument ?_)
            rw [argumentHints_eq resolves, given]
            split <;> simp
  · rfl
  · rfl
  · rfl

/-- There is one way to resolve hints level by level. -/
theorem eq_resolve_of_levels {resolver : Expr → Work Ty}
    (levels : ∀ hint, resolver hint = resolveLevel scope resolver hint) (hint : Expr) :
    resolver hint = resolve scope hint := by
  induction hint using wellFounded_calls.induction with
  | _ hint ih =>
      rw [levels, resolve_eq_resolveLevel]
      exact resolveLevel_congr ih

/-! ## Bounded readings -/

/-- The type that a hint stands for, where texts are read inside texts at most `readings` deep and
`exhausted` decides about a text that is deeper. -/
def resolveOr (scope : Scope) (exhausted : Nat → Text → Work Ty) : (readings : Nat) → Expr → Work Ty
  | 0 => resolveWith scope exhausted
  | readings + 1 => resolveWith scope fun line text => do
    resolveOr scope exhausted readings (← readReference line text)

/-- With more readings than the longest text is long, no text is too deep. -/
theorem resolveOr_eq_resolve {exhausted : Nat → Text → Work Ty} {readings : Nat}
    (enough : longestText hint < readings) :
    resolveOr scope exhausted readings hint = resolve scope hint := by
  induction readings generalizing hint with
  | zero => exact absurd enough (Nat.not_lt_zero _)
  | succ readings ih =>
      rw [resolveOr, resolve_eq]
      refine resolveWith_congr hint fun line text short => bind_congr_of_ok fun inner read => ih ?_
      have shorter := longestText_lt_of_readReference read
      omega

end

/-- Resolution ends in every scope. No hint calls for others without end; a chain of calls reads at
most one text more than the longest text is long that stands among the operands and arguments of the
hint, so that many readings suffice whatever a deeper text would stand for; and a level depends only
on the hints that it calls for, so there is one way to resolve all of them. -/
theorem resolution_ends [Release] (scope : Scope) :
    (WellFounded fun inner hint => Calls hint inner) ∧
    (∀ hint later, List.IsChain Calls (hint :: later) →
      (hint :: later).countP isText ≤ longestText hint + 1) ∧
    (∀ hint (recurse other : Expr → Work Ty),
      (∀ inner, Calls hint inner → recurse inner = other inner) →
        resolveLevel scope recurse hint = resolveLevel scope other hint) ∧
    (∀ resolver : Expr → Work Ty, (∀ hint, resolver hint = resolveLevel scope resolver hint) ↔
      ∀ hint, resolver hint = resolve scope hint) ∧
    ∀ exhausted readings hint, longestText hint + 1 ≤ readings →
      resolveOr scope exhausted readings hint = resolve scope hint := by
  refine ⟨wellFounded_calls, fun _ _ chain => countP_isText_le chain,
    fun _ _ _ same => resolveLevel_congr same, fun resolver => ⟨eq_resolve_of_levels, ?_⟩,
    fun _ _ _ enough => resolveOr_eq_resolve enough⟩
  intro equal hint
  rw [funext equal]
  exact resolve_eq_resolveLevel scope hint

set_option maxRecDepth 4096 in
/-- A text in a text, as an argument of a union: two texts are read, and six readings suffice. -/
theorem resolution_ends_nested :
    let _release : Release := .late
    let outer : Expr := .constant 1 (.text (.ofString "'int'") false)
    let inner : Expr := .constant 1 (.text (.ofString "int") false)
    let hint : Expr := .subscript 1 (.name 1 "Union") (.tuple 1 [outer, .name 1 "str"])
    let scope : Scope := ⟨.builtin, []⟩
    List.IsChain Calls [hint, outer, inner, .name 1 "int"] ∧
    [hint, outer, inner, .name 1 "int"].countP isText = 2 ∧ 2 ≤ longestText hint + 1 ∧
    ∀ exhausted, resolveOr scope exhausted 6 hint = resolve scope hint := by
  intro release outer inner hint scope
  have quoted : readReference 1 (.ofString "'int'") =
      .ok (.constant 1 (.text (.ofString "int") false)) := by cbv
  have plain : readReference 1 (.ofString "int") = .ok (.name 1 "int") := by cbv
  obtain ⟨-, chains, -, -, bounded⟩ := resolution_ends scope
  have ofHint : Calls hint outer :=
    .argument (by simp [argumentHints, Expr.rootName?, argumentsOf])
  have chain : List.IsChain Calls [hint, outer, inner, .name 1 "int"] :=
    .cons_cons ofHint (.cons_cons (.text quoted) (.cons_cons (.text plain) (.singleton _)))
  exact ⟨chain, rfl, chains hint _ chain, fun exhausted => bounded exhausted 6 hint (by decide)⟩

end Stringify.Stub
