import Stringify.Proofs.Source.Document
import Stringify.Proofs.Stub.Resolution

/-!
# Texts in hints

A text is longer than every text in the expression that it writes. So the bound on the nesting of
texts is never met: a hint is resolved as if each text in it were resolved in turn.
-/

namespace Stringify.Stub

open Source (Expr)

variable {scope : Scope} {reference other : Nat → Text → Work Ty} {hint expression : Expr}
variable {hints : List Expr} {type : Ty} {line : Nat} {text : Text}

theorem length_of_characters {chars : List Char}
    (encoded : Text.Utf8.characters text = .ok chars) : chars.length = text.length := by
  unfold Text.Utf8.characters at encoded
  split at encoded
  · next found =>
      cases encoded
      exact Source.length_of_mapM found
  · cases encoded

/-- Texts up to some length stand for the same in two ways of reading them. -/
def AgreeUpTo (bound : Nat) (reference other : Nat → Text → Work Ty) : Prop :=
  ∀ line (text : Text), text.length ≤ bound → reference line text = other line text

theorem AgreeUpTo.of_le {bound fewer : Nat} (agree : AgreeUpTo bound reference other)
    (less : fewer ≤ bound) : AgreeUpTo fewer reference other :=
  fun line text short => agree line text (Nat.le_trans short less)

theorem isEmpty_eq_false_of_forall₂ {related : Expr → Ty → Prop} {arguments : List Expr}
    {types : List Ty} (each : List.Forall₂ related arguments types) (nonempty : types ≠ []) :
    arguments.isEmpty = false := by
  cases each with
  | nil => exact absurd rfl nonempty
  | cons => rfl

variable [Release]

/-- A text writes the expression that its characters are the source of. -/
theorem exists_of_readReference (read : readReference line text = .ok expression) :
    ∃ chars, sourceChars text = .ok (some chars) ∧
      Source.readExpression chars = .ok expression := by
  unfold readReference at read
  obtain ⟨scanned, found, read⟩ := bind_eq_ok_iff.mp read
  split at read
  · next mapped =>
      cases read
      obtain ⟨chars, rfl, read⟩ := Option.map_eq_some_iff.mp mapped
      exact ⟨chars, mapError_eq_ok_iff.mp found, read⟩
  · cases read

/-- A text is longer than every text in the expression that it writes. -/
theorem longestText_lt_of_readReference (read : readReference line text = .ok expression) :
    longestText expression < text.length := by
  obtain ⟨chars, scanned, found⟩ := exists_of_readReference read
  rw [← length_of_characters (sourceChars_eq_some_iff.mp scanned).1]
  exact Source.longestText_lt_of_readExpression found

/-! ## Depth -/

theorem resolveAll_congr
    (each : ∀ item ∈ hints, resolveWith scope reference item = resolveWith scope other item) :
    resolveAll scope reference hints = resolveAll scope other hints := by
  rw [resolveAll_eq_mapM, resolveAll_eq_mapM, mapM_congr each]

theorem resolveFirst_congr
    (each : ∀ item ∈ hints, resolveWith scope reference item = resolveWith scope other item) :
    resolveFirst scope reference hints = resolveFirst scope other hints := by
  cases hints with
  | nil => rw [resolveFirst, resolveFirst]
  | cons item rest =>
      rw [List.forall_mem_cons] at each
      rw [resolveFirst, resolveFirst, each.1]

/-- Only what texts in a hint stand for matters, and these are no longer than its longest text. -/
theorem resolveWith_congr (hint : Expr) (agree : AgreeUpTo (longestText hint) reference other) :
    resolveWith scope reference hint = resolveWith scope other hint := by
  induction hint using hint_induction with
  | nothing line => rw [resolveWith, resolveWith]
  | text line value isMarked =>
      rw [resolveWith, resolveWith]
      exact agree line value (Nat.le_refl _)
  | either line left right ihLeft ihRight =>
      rw [longestText] at agree
      rw [resolveWith, resolveWith, ihLeft (agree.of_le (Nat.le_max_left _ _)),
        ihRight (agree.of_le (Nat.le_max_right _ _))]
  | subscript line value index each =>
      rw [longestText] at agree
      have equal : ∀ argument ∈ argumentsOf index,
          resolveWith scope reference argument = resolveWith scope other argument :=
        fun argument member =>
          each argument member (agree.of_le (longestText_le_of_mem_argumentsOf member))
      rw [resolveWith_subscript, resolveWith_subscript, resolveAll_congr equal,
        resolveFirst_congr equal]
  | name line text => rw [resolveWith, resolveWith]
  | field line value field => rw [resolveWith, resolveWith]
  | unsupported refusedHint refused => rw [refused, refused]

/-- With readings for more than the longest text, a hint is resolved as it is in the end. -/
theorem resolveWithin_eq_resolve {readings : Nat} (enough : longestText hint < readings) :
    resolveWithin scope readings hint = resolve scope hint := by
  have stable : ∀ (readings more : Nat) (hint : Expr), longestText hint < readings →
      longestText hint < more →
      resolveWithin scope readings hint = resolveWithin scope more hint := by
    intro readings
    induction readings with
    | zero =>
        intro more hint impossible
        exact absurd impossible (Nat.not_lt_zero _)
    | succ readings ih =>
        intro more hint enough enoughToo
        cases more with
        | zero => exact absurd enoughToo (Nat.not_lt_zero _)
        | succ more =>
            rw [resolveWithin_eq, resolveWithin_eq]
            apply resolveWith_congr
            intro line text short
            refine bind_congr_of_ok fun expression read => ?_
            have shorter := longestText_lt_of_readReference read
            exact ih more expression (by omega) (by omega)
  exact stable readings _ hint enough (Nat.lt_succ_self _)

/-- What a text stands for: the hint that it writes is resolved. -/
def referenceOf (scope : Scope) (line : Nat) (text : Text) : Work Ty := do
  resolve scope (← readReference line text)

/-- A hint is resolved with each text in it resolved in turn. -/
theorem resolve_eq (scope : Scope) (hint : Expr) :
    resolve scope hint = resolveWith scope (referenceOf scope) hint := by
  rw [resolve, resolveWithin_eq]
  apply resolveWith_congr
  intro line text short
  refine bind_congr_of_ok fun expression read => ?_
  exact resolveWithin_eq_resolve (Nat.lt_of_lt_of_le (longestText_lt_of_readReference read) short)

theorem resolve_eq_ok_iff :
    resolve scope hint = .ok type ↔ StandsFor scope (referenceOf scope) hint type := by
  rw [resolve_eq, resolveWith_eq_ok_iff]

/-! ## What it takes to resolve a hint -/

/-- Several hints stand for as many types. -/
abbrev ResolveTo (scope : Scope) : List Expr → List Ty → Prop :=
  List.Forall₂ fun hint type => resolve scope hint = .ok type

section Resolving

variable {value index argument left right : Expr} {rest : List Expr} {composition : Composition}

@[simp] theorem resolve_nothing : resolve scope (.constant line .nothing) = .ok .nothing := by
  rw [resolve_eq, resolveWith]

theorem resolve_text {isMarked : Bool} :
    resolve scope (.constant line (.text text isMarked)) =
      (do resolve scope (← readReference line text)) := by
  rw [resolve_eq, resolveWith]
  rfl

theorem resolve_name {name : String} :
    resolve scope (.name line name) = scope.named line name := by
  rw [resolve_eq, resolveWith]

theorem resolve_either_iff :
    resolve scope (.binary line left .bitOr right) = .ok type ↔
      ∃ first second, resolve scope left = .ok first ∧ resolve scope right = .ok second ∧
        Ty.compose? .union [first, second] = some type := by
  rw [resolve_eq, resolveWith]
  simp only [← resolve_eq, bind_eq_ok_iff, compose_eq_ok_iff]
  constructor
  · rintro ⟨first, ofLeft, second, ofRight, composed⟩
    exact ⟨first, second, ofLeft, ofRight, composed⟩
  · rintro ⟨first, second, ofLeft, ofRight, composed⟩
    exact ⟨first, ofLeft, second, ofRight, composed⟩

theorem resolve_composed_iff (form : scope.form value.rootName? = .composing composition) :
    resolve scope (.subscript line value index) = .ok type ↔
      ∃ types, ResolveTo scope (argumentsOf index) types ∧
        Ty.compose? composition types = some type := by
  rw [resolve_eq, resolveWith_subscript, subscripted_composing_iff form]
  simp only [resolveAll_eq_ok_iff, ← resolve_eq]
  refine and_iff_right_of_imp ?_
  rintro ⟨types, each, composed⟩
  exact isEmpty_eq_false_of_forall₂ each (Ty.ne_nil_of_compose? composed)

/-- An optional type has a single argument. -/
theorem resolve_optional_iff (form : scope.form value.rootName? = .optional) :
    resolve scope (.subscript line value index) = .ok type ↔
      ∃ inner, ResolveTo scope (argumentsOf index) [inner] ∧
        Ty.compose? .union [inner, .nothing] = some type := by
  rw [resolve_eq, resolveWith_subscript]
  cases given : argumentsOf index with
  | nil => simp [Scope.subscripted, bind_eq_ok_iff]
  | cons argument rest =>
      cases rest with
      | nil =>
          simp [Scope.subscripted, form, resolveFirst, ← resolve_eq, bind_eq_ok_iff,
            compose_eq_ok_iff]
      | cons second rest => simp [Scope.subscripted, form, bind_eq_ok_iff]

theorem resolve_annotated (form : scope.form value.rootName? = .annotated)
    (first : argumentsOf index = argument :: rest) :
    resolve scope (.subscript line value index) = resolve scope argument := by
  rw [resolve_eq, resolveWith_subscript]
  simp [Scope.subscripted, form, first, resolveFirst, ← resolve_eq]

theorem resolve_literal_iff (form : scope.form value.rootName? = .literal) :
    resolve scope (.subscript line value index) = .ok type ↔
      ∃ types, List.Forall₂ (fun argument part => literalType argument = .ok part)
        (argumentsOf index) types ∧ Ty.compose? .union types = some type := by
  rw [resolve_eq, resolveWith_subscript]
  cases empty : (argumentsOf index).isEmpty with
  | true =>
      simp only [Scope.subscripted, empty, if_true, bind_eq_ok_iff, Work.refuse_ne_ok, false_and,
        exists_const, false_iff]
      rintro ⟨types, each, composed⟩
      have nonempty := isEmpty_eq_false_of_forall₂ each (Ty.ne_nil_of_compose? composed)
      rw [nonempty] at empty
      cases empty
  | false =>
      simp [Scope.subscripted, empty, form, bind_eq_ok_iff, compose_eq_ok_iff, mapM_eq_ok_iff]

end Resolving

end Stringify.Stub
