import Mathlib.Data.List.Forall2
import Stringify.Proofs.Outcome
import Stringify.Proofs.Ty.Normal
import Stringify.Stub.Module

/-!
# What hints stand for

`StandsFor` says by rules what type a hint stands for, given what texts do. Resolution finds that
type and no other. So the types of a stub are normal, and reading texts more deeply does not change
what was found.
-/

namespace Stringify.Stub

open Source (Expr)

variable {scope : Scope} {reference : Nat → Text → Work Ty} {hint value index argument : Expr}
variable {type : Ty} {types : List Ty} {arguments : List Expr} {composition : Composition}
variable {line : Nat}

/-! ## Lists of the same length -/

theorem exists_zip_of_mem_right {α β : Type} {first : List α} {second : List β}
    (lengths : first.length = second.length) {element : β} (member : element ∈ second) :
    ∃ partner, (partner, element) ∈ first.zip second := by
  rw [← List.map_snd_zip (Nat.le_of_eq lengths.symm), List.mem_map] at member
  obtain ⟨⟨partner, _⟩, paired, rfl⟩ := member
  exact ⟨partner, paired⟩

theorem exists_zip_of_mem_left {α β : Type} {first : List α} {second : List β}
    (lengths : first.length = second.length) {element : α} (member : element ∈ first) :
    ∃ partner, (element, partner) ∈ first.zip second := by
  rw [← List.map_fst_zip (Nat.le_of_eq lengths), List.mem_map] at member
  obtain ⟨⟨_, partner⟩, paired, rfl⟩ := member
  exact ⟨partner, paired⟩

/-! ## Normal scopes -/

/-- The aliases of a scope stand for normal types. -/
def Scope.IsNormal (scope : Scope) : Prop :=
  ∀ name type, scope.aliases.get? name = some type → type.Normal

theorem Scope.normal_of_instanceOf {className display : String}
    (built : scope.instanceOf className display = .ok type) : type.Normal := by
  simp only [Scope.instanceOf, bind_eq_ok_iff, pure_eq_ok_iff] at built
  obtain ⟨_, _, _, _, rfl⟩ := built
  exact .leaf _

theorem Scope.normal_of_named {text : String} (normal : scope.IsNormal)
    (named : scope.named line text = .ok type) : type.Normal := by
  unfold Scope.named at named
  split at named
  · next found =>
      cases named
      exact normal text _ found
  · split at named
    · cases named
      exact .leaf _
    · split at named
      · cases named
        exact .leaf _
      · split at named
        · cases named
          exact .leaf _
        · split at named
          · exact Scope.normal_of_instanceOf named
          · split at named
            · cases named
              exact .leaf _
            · split at named
              · cases named
                exact .leaf _
              · cases named

/-! ## Subscripts -/

/-- The arguments of a subscript. -/
def argumentsOf : Expr → List Expr
  | .tuple _ items => items
  | index => [index]

theorem longestTextOf_argumentsOf (index : Expr) :
    longestTextOf (argumentsOf index) = longestText index := by
  fun_cases argumentsOf index with
  | case1 line items => rw [longestText]
  | case2 => simp [longestTextOf]

theorem longestText_le_of_mem_argumentsOf (member : argument ∈ argumentsOf index) :
    longestText argument ≤ longestText index := by
  rw [← longestTextOf_argumentsOf index]
  exact longestTextOf_le_iff.mp (Nat.le_refl _) argument member

/-- The form of the subscripts that compose their arguments. -/
def Form.composing : Composition → Form
  | .union => .union
  | .intersection => .intersection

/-- Whether the arguments of a subscript are resolved. -/
def Form.resolvesArguments : Form → Bool
  | .union | .optional | .intersection | .annotated => true
  | _ => false

namespace Form

theorem composing_injective : Function.Injective composing := by
  intro first second same
  cases first <;> cases second <;> first | rfl | cases same

@[simp] theorem composing_ne_optional (composition : Composition) :
    composing composition ≠ .optional := by
  cases composition <;> simp [composing]

@[simp] theorem composing_ne_annotated (composition : Composition) :
    composing composition ≠ .annotated := by
  cases composition <;> simp [composing]

@[simp] theorem resolvesArguments_composing (composition : Composition) :
    (composing composition).resolvesArguments = true := by
  cases composition <;> rfl

end Form

theorem compose_eq_ok_iff :
    compose composition types = .ok type ↔ Ty.compose? composition types = some type := by
  unfold compose
  split
  · next found => simp [found]
  · next found => simp [found]

variable [Release]

/-- A subscript has the type whatever its arguments stand for. -/
structure Scope.Ignores (scope : Scope) (line : Nat) (value index : Expr) (type : Ty) : Prop where
  form : (scope.form value.rootName?).resolvesArguments = false
  built : ∀ types first, scope.subscripted (.subscript line value index) value.rootName?
    (argumentsOf index) types first = .ok type

section Building

variable {resolveTypes : Unit → Work (List Ty)} {resolveFirst : Unit → Work Ty}

/-- A subscript without arguments is refused. -/
theorem isEmpty_argumentsOf
    (built : scope.subscripted (.subscript line value index) value.rootName? (argumentsOf index)
      resolveTypes resolveFirst = .ok type) : (argumentsOf index).isEmpty = false := by
  cases empty : (argumentsOf index).isEmpty with
  | false => rfl
  | true => simp [Scope.subscripted, empty, bind_eq_ok_iff] at built

theorem subscripted_composing_iff (form : scope.form value.rootName? = .composing composition) :
    scope.subscripted (.subscript line value index) value.rootName? (argumentsOf index)
        resolveTypes resolveFirst = .ok type ↔
      (argumentsOf index).isEmpty = false ∧ ∃ types, resolveTypes () = .ok types ∧
        Ty.compose? composition types = some type := by
  cases empty : (argumentsOf index).isEmpty with
  | true => simp [Scope.subscripted, empty, bind_eq_ok_iff]
  | false =>
      cases composition <;>
        simp [Scope.subscripted, empty, form, Form.composing, bind_eq_ok_iff, compose_eq_ok_iff]

/-- A subscript is built in one of these ways. -/
theorem subscripted_eq_ok
    (built : scope.subscripted (.subscript line value index) value.rootName? (argumentsOf index)
      resolveTypes resolveFirst = .ok type) :
    (∃ composition types, scope.form value.rootName? = .composing composition ∧
      resolveTypes () = .ok types ∧ Ty.compose? composition types = some type) ∨
    (scope.form value.rootName? = .optional ∧ (argumentsOf index).length = 1 ∧
      ∃ inner, resolveFirst () = .ok inner ∧ Ty.compose? .union [inner, .nothing] = some type) ∨
    (scope.form value.rootName? = .annotated ∧ argumentsOf index ≠ [] ∧
      resolveFirst () = .ok type) ∨
    scope.Ignores line value index type := by
  have nonempty := isEmpty_argumentsOf built
  have composing (composition : Composition)
      (form : scope.form value.rootName? = .composing composition) :
      ∃ composition types, scope.form value.rootName? = .composing composition ∧
        resolveTypes () = .ok types ∧ Ty.compose? composition types = some type := by
    obtain ⟨_, types, resolved, composed⟩ := (subscripted_composing_iff form).mp built
    exact ⟨composition, types, form, resolved, composed⟩
  cases form : scope.form value.rootName? with
  | union => exact .inl (form ▸ composing .union form)
  | intersection => exact .inl (form ▸ composing .intersection form)
  | optional =>
      refine .inr (.inl ⟨rfl, ?_⟩)
      simp only [Scope.subscripted, nonempty, form, Bool.false_eq_true, if_false] at built
      split at built
      · simp [bind_eq_ok_iff] at built
      · next alone =>
          simp only [bind_eq_ok_iff, compose_eq_ok_iff] at built
          exact ⟨not_not.mp alone, built⟩
  | annotated =>
      refine .inr (.inr (.inl ⟨rfl, by simpa using nonempty, ?_⟩))
      simpa [Scope.subscripted, nonempty, form] using built
  | callable | literal | instanceOf className | container name | unsupported =>
      refine .inr (.inr (.inr ⟨by rw [form]; rfl, fun types first => ?_⟩))
      simpa [Scope.subscripted, nonempty, form] using built

end Building

/-- The types that are built from a subscript without resolving its arguments: a union of literals,
and a type that goes by what the subscript looks like. -/
inductive Scope.BuildsAlone (scope : Scope) (line : Nat) (value index : Expr) : Ty → Prop where
  | literals {types : List Ty} {type : Ty} (form : scope.form value.rootName? = .literal)
      (typed : (argumentsOf index).mapM literalType = .ok types)
      (composed : Ty.compose? .union types = some type) : BuildsAlone scope line value index type
  | instanceOf {className display : String} {type : Ty}
      (form : scope.form value.rootName? = .instanceOf className)
      (printed : Work.print (.subscript line value index) = .ok display)
      (built : scope.instanceOf className display = .ok type) :
      BuildsAlone scope line value index type
  | callable {display : String} (form : scope.form value.rootName? = .callable)
      (printed : Work.print (.subscript line value index) = .ok display) :
      BuildsAlone scope line value index (.ofFunction display)
  | container {name display : String} (form : scope.form value.rootName? = .container name)
      (printed : Work.print (.subscript line value index) = .ok display) :
      BuildsAlone scope line value index (.ofInstance display (some name) 0)

theorem Scope.ignores_iff : scope.Ignores line value index type ↔
    (argumentsOf index).isEmpty = false ∧ scope.BuildsAlone line value index type := by
  constructor
  · intro ignores
    have built := ignores.built (fun _ => .ok []) (fun _ => .ok .nothing)
    have nonempty := isEmpty_argumentsOf built
    refine ⟨nonempty, ?_⟩
    cases form : scope.form value.rootName? with
    | union | intersection | optional | annotated =>
        simpa [form, Form.resolvesArguments] using ignores.form
    | unsupported => simp [Scope.subscripted, nonempty, form, bind_eq_ok_iff] at built
    | literal =>
        simp only [Scope.subscripted, nonempty, form, Bool.false_eq_true, if_false, bind_eq_ok_iff,
          compose_eq_ok_iff] at built
        obtain ⟨types, typed, composed⟩ := built
        exact .literals form typed composed
    | instanceOf className =>
        simp only [Scope.subscripted, nonempty, form, Bool.false_eq_true, if_false,
          bind_eq_ok_iff] at built
        obtain ⟨display, printed, built⟩ := built
        exact .instanceOf form printed built
    | callable =>
        simp only [Scope.subscripted, nonempty, form, Bool.false_eq_true, if_false, bind_eq_ok_iff,
          pure_eq_ok_iff] at built
        obtain ⟨display, printed, rfl⟩ := built
        exact .callable form printed
    | container name =>
        simp only [Scope.subscripted, nonempty, form, Bool.false_eq_true, if_false, bind_eq_ok_iff,
          pure_eq_ok_iff] at built
        obtain ⟨display, printed, rfl⟩ := built
        exact .container form printed
  · rintro ⟨nonempty, alone⟩
    cases alone with
    | literals form typed composed =>
        refine ⟨by rw [form]; rfl, fun _ _ => ?_⟩
        simp only [Scope.subscripted, nonempty, form, Bool.false_eq_true, if_false, bind_eq_ok_iff]
        exact ⟨_, typed, compose_eq_ok_iff.mpr composed⟩
    | instanceOf form printed built =>
        refine ⟨by rw [form]; rfl, fun _ _ => ?_⟩
        simp only [Scope.subscripted, nonempty, form, Bool.false_eq_true, if_false, bind_eq_ok_iff]
        exact ⟨_, printed, built⟩
    | callable form printed | container form printed =>
        refine ⟨by rw [form]; rfl, fun _ _ => ?_⟩
        simp only [Scope.subscripted, nonempty, form, Bool.false_eq_true, if_false, bind_eq_ok_iff]
        exact ⟨_, printed, rfl⟩

/-! ## The rules -/

/-- What type an expression stands for, where `reference` says what texts do. -/
inductive StandsFor (scope : Scope) (reference : Nat → Text → Work Ty) : Expr → Ty → Prop where
  | nothing {line : Nat} : StandsFor scope reference (.constant line .nothing) .nothing
  | text {line : Nat} {value : Text} {isMarked : Bool} {type : Ty}
      (read : reference line value = .ok type) :
      StandsFor scope reference (.constant line (.text value isMarked)) type
  | name {line : Nat} {text : String} {type : Ty} (named : scope.named line text = .ok type) :
      StandsFor scope reference (.name line text) type
  | field {line : Nat} {value : Expr} {field : String} {type : Ty}
      (named : scope.named line field = .ok type) :
      StandsFor scope reference (.attribute line value field) type
  | either {line : Nat} {left right : Expr} {first second type : Ty}
      (ofLeft : StandsFor scope reference left first)
      (ofRight : StandsFor scope reference right second)
      (composed : Ty.compose? .union [first, second] = some type) :
      StandsFor scope reference (.binary line left .bitOr right) type
  | composed {line : Nat} {value index : Expr} {composition : Composition} {types : List Ty}
      {type : Ty} (form : scope.form value.rootName? = .composing composition)
      (lengths : (argumentsOf index).length = types.length)
      (each : ∀ argument part, (argument, part) ∈ (argumentsOf index).zip types →
        StandsFor scope reference argument part)
      (composed : Ty.compose? composition types = some type) :
      StandsFor scope reference (.subscript line value index) type
  | optional {line : Nat} {value index argument : Expr} {inner type : Ty}
      (form : scope.form value.rootName? = .optional) (alone : argumentsOf index = [argument])
      (ofArgument : StandsFor scope reference argument inner)
      (composed : Ty.compose? .union [inner, .nothing] = some type) :
      StandsFor scope reference (.subscript line value index) type
  | annotated {line : Nat} {value index argument : Expr} {rest : List Expr} {type : Ty}
      (form : scope.form value.rootName? = .annotated)
      (first : argumentsOf index = argument :: rest)
      (ofArgument : StandsFor scope reference argument type) :
      StandsFor scope reference (.subscript line value index) type
  | ignored {line : Nat} {value index : Expr} {type : Ty}
      (ignores : scope.Ignores line value index type) :
      StandsFor scope reference (.subscript line value index) type

/-- Subscripts of all kinds resolve their arguments in the same way. -/
theorem resolveWith_subscript (scope : Scope) (reference : Nat → Text → Work Ty) (line : Nat)
    (value index : Expr) :
    resolveWith scope reference (.subscript line value index) =
      scope.subscripted (.subscript line value index) value.rootName? (argumentsOf index)
        (fun _ => resolveAll scope reference (argumentsOf index))
        (fun _ => resolveFirst scope reference (argumentsOf index)) := by
  have alone : resolveAll scope reference [index] = do
      return [← resolveWith scope reference index] := by
    cases found : resolveWith scope reference index <;>
      simp [resolveAll, found, bind, Except.bind, pure, Except.pure]
  by_cases several : ∃ tupleLine items, index = .tuple tupleLine items
  · obtain ⟨tupleLine, items, rfl⟩ := several
    rw [resolveWith, argumentsOf]
  · have single : ∀ tupleLine items, index = .tuple tupleLine items → False :=
      fun tupleLine items same => several ⟨tupleLine, items, same⟩
    rw [resolveWith, argumentsOf, alone, resolveFirst] <;> exact single

theorem resolveAll_eq_mapM (scope : Scope) (reference : Nat → Text → Work Ty) (hints : List Expr) :
    resolveAll scope reference hints = hints.mapM (resolveWith scope reference) := by
  induction hints with
  | nil =>
      rw [resolveAll]
      rfl
  | cons hint rest ih => rw [resolveAll, ih, List.mapM_cons]

theorem resolveAll_eq_ok_iff :
    resolveAll scope reference arguments = .ok types ↔
      List.Forall₂ (fun argument part => resolveWith scope reference argument = .ok part)
        arguments types := by
  rw [resolveAll_eq_mapM, mapM_eq_ok_iff]

/-- A subscript stands for what it is resolved to, if its arguments do. -/
theorem standsFor_subscript
    (each : ∀ argument ∈ argumentsOf index, ∀ part,
      resolveWith scope reference argument = .ok part → StandsFor scope reference argument part)
    (resolved : resolveWith scope reference (.subscript line value index) = .ok type) :
    StandsFor scope reference (.subscript line value index) type := by
  rw [resolveWith_subscript] at resolved
  rcases subscripted_eq_ok resolved with ⟨composition, types, form, resolvedAll, composed⟩ |
    ⟨form, alone, inner, first, composed⟩ | ⟨form, nonempty, first⟩ | ignores
  · obtain ⟨lengths, parts⟩ := List.forall₂_iff_zip.mp (resolveAll_eq_ok_iff.mp resolvedAll)
    refine .composed form lengths (fun argument part paired => ?_) composed
    exact each argument (List.of_mem_zip paired).1 part (parts paired)
  · obtain ⟨argument, single⟩ := List.length_eq_one_iff.mp alone
    rw [single, resolveFirst] at first
    exact .optional form single (each argument (by simp [single]) inner first) composed
  · obtain ⟨argument, rest, split⟩ := List.exists_cons_of_ne_nil nonempty
    rw [split, resolveFirst] at first
    exact .annotated form split (each argument (by simp [split]) type first)
  · exact .ignored ignores

/-- Expressions by the way in which they are resolved: a subscript after its arguments, and what is
no hint by its refusal. -/
theorem hint_induction {motive : Expr → Prop}
    (nothing : ∀ line, motive (.constant line .nothing))
    (text : ∀ line value isMarked, motive (.constant line (.text value isMarked)))
    (either : ∀ line left right, motive left → motive right →
      motive (.binary line left .bitOr right))
    (subscript : ∀ line value index, (∀ argument ∈ argumentsOf index, motive argument) →
      motive (.subscript line value index))
    (name : ∀ line text, motive (.name line text))
    (field : ∀ line value field, motive (.attribute line value field))
    (unsupported : ∀ other : Expr, (∀ scope reference, resolveWith scope reference other =
      do Work.refuse other.line (.unsupportedHint (← Work.print other))) → motive other) :
    ∀ hint, motive hint := by
  refine resolveWith.induct motive (fun _ => True) (fun items => ∀ item ∈ items, motive item)
    nothing text either ?several ?single name field ?unsupported trivial (fun _ _ _ => trivial)
    (by simp) ?items
  case several =>
    intro line value tupleLine items each _
    exact subscript line value _ each
  case single =>
    intro line value index single ih
    refine subscript line value index ?_
    rw [argumentsOf]
    · simpa using ih
    · exact single
  case unsupported =>
    intro other noNothing noText noEither noSeveral noSubscript noName noAttribute
    refine unsupported other fun scope reference => ?_
    rw [resolveWith]
    all_goals assumption
  case items =>
    intro item rest ih ihRest
    exact List.forall_mem_cons.mpr ⟨ih, ihRest⟩

/-- An expression stands for what it is resolved to. -/
theorem standsFor_of_resolveWith (hint : Expr) :
    ∀ type, resolveWith scope reference hint = .ok type →
      StandsFor scope reference hint type := by
  induction hint using hint_induction with
  | nothing line =>
      intro type resolved
      rw [resolveWith] at resolved
      cases resolved
      exact .nothing
  | text line value isMarked =>
      intro type resolved
      rw [resolveWith] at resolved
      exact .text resolved
  | either line left right ihLeft ihRight =>
      intro type resolved
      rw [resolveWith] at resolved
      simp only [bind_eq_ok_iff, compose_eq_ok_iff] at resolved
      obtain ⟨first, ofLeft, second, ofRight, composed⟩ := resolved
      exact .either (ihLeft first ofLeft) (ihRight second ofRight) composed
  | subscript line value index each =>
      intro type resolved
      exact standsFor_subscript each resolved
  | name line text =>
      intro type resolved
      rw [resolveWith] at resolved
      exact .name resolved
  | field line value field =>
      intro type resolved
      rw [resolveWith] at resolved
      exact .field resolved
  | unsupported other refused =>
      intro type resolved
      simp [refused, bind_eq_ok_iff] at resolved

/-- An expression is resolved to what it stands for. -/
theorem StandsFor.resolveWith_eq (stands : StandsFor scope reference hint type) :
    resolveWith scope reference hint = .ok type := by
  induction stands with
  | nothing => rw [resolveWith]
  | text read => rwa [resolveWith]
  | name named => rwa [resolveWith]
  | field named => rwa [resolveWith]
  | either _ _ composed ihLeft ihRight =>
      rw [resolveWith]
      simp only [bind_eq_ok_iff, compose_eq_ok_iff]
      exact ⟨_, ihLeft, _, ihRight, composed⟩
  | @composed line value index composition types type form lengths _ composed ih =>
      have nonempty : argumentsOf index ≠ [] := by
        intro none
        rw [none, List.length_nil, eq_comm, List.length_eq_zero_iff] at lengths
        exact Ty.ne_nil_of_compose? composed lengths
      have resolved := resolveAll_eq_ok_iff.mpr (List.forall₂_iff_zip.mpr ⟨lengths, ih _ _⟩)
      rw [resolveWith_subscript, subscripted_composing_iff form]
      exact ⟨by simpa using nonempty, types, resolved, composed⟩
  | optional form alone _ composed ih =>
      rw [resolveWith_subscript]
      simp [Scope.subscripted, form, alone, resolveFirst, ih, bind_eq_ok_iff, compose_eq_ok_iff,
        composed]
  | annotated form first _ ih =>
      rw [resolveWith_subscript]
      simp [Scope.subscripted, form, first, resolveFirst, ih]
  | ignored ignores =>
      rw [resolveWith_subscript]
      exact ignores.built _ _

theorem resolveWith_eq_ok_iff :
    resolveWith scope reference hint = .ok type ↔ StandsFor scope reference hint type :=
  ⟨standsFor_of_resolveWith hint type, StandsFor.resolveWith_eq⟩

/-- Texts that stand for more make hints stand for more. -/
theorem StandsFor.mono {deeper : Nat → Text → Work Ty}
    (more : ∀ line text type, reference line text = .ok type → deeper line text = .ok type)
    (stands : StandsFor scope reference hint type) : StandsFor scope deeper hint type := by
  induction stands with
  | nothing => exact .nothing
  | text read => exact .text (more _ _ _ read)
  | name named => exact .name named
  | field named => exact .field named
  | either _ _ composed ihLeft ihRight => exact .either ihLeft ihRight composed
  | composed form lengths _ composed ih => exact .composed form lengths ih composed
  | optional form alone _ composed ih => exact .optional form alone ih composed
  | annotated form first _ ih => exact .annotated form first ih
  | ignored ignores => exact .ignored ignores

/-! ## Depth of reading -/

/-- What texts stand for when they are read inside texts at most so many deep. -/
def referenceWithin (scope : Scope) : (readings : Nat) → Nat → Text → Work Ty
  | 0 => fun line text => Work.refuse line (.badReference text)
  | readings + 1 => fun line text => do
    resolveWithin scope readings (← readReference line text)

theorem resolveWithin_eq (scope : Scope) (readings : Nat) :
    resolveWithin scope readings = resolveWith scope (referenceWithin scope readings) := by
  cases readings <;> rfl

theorem resolveWithin_eq_ok_iff {readings : Nat} :
    resolveWithin scope readings hint = .ok type ↔
      StandsFor scope (referenceWithin scope readings) hint type := by
  rw [resolveWithin_eq, resolveWith_eq_ok_iff]

/-- Reading texts more deeply does not change what is found. -/
theorem resolveWithin_succ {readings : Nat}
    (resolved : resolveWithin scope readings hint = .ok type) :
    resolveWithin scope (readings + 1) hint = .ok type := by
  induction readings generalizing hint type with
  | zero =>
      refine resolveWithin_eq_ok_iff.mpr ((resolveWithin_eq_ok_iff.mp resolved).mono ?_)
      intro line text type found
      exact absurd found (Work.refuse_ne_ok _ _ _)
  | succ readings ih =>
      refine resolveWithin_eq_ok_iff.mpr ((resolveWithin_eq_ok_iff.mp resolved).mono ?_)
      intro line text type found
      obtain ⟨expression, read, resolved⟩ := bind_eq_ok_iff.mp found
      exact bind_eq_ok_iff.mpr ⟨expression, read, ih resolved⟩

theorem resolveWithin_of_le {readings more : Nat} (enough : readings ≤ more)
    (resolved : resolveWithin scope readings hint = .ok type) :
    resolveWithin scope more hint = .ok type := by
  induction enough with
  | refl => exact resolved
  | step _ ih => exact resolveWithin_succ ih

/-- A hint stands for one type at most, however deeply texts are read. -/
theorem resolveWithin_unique {readings more : Nat} {other : Ty}
    (resolved : resolveWithin scope readings hint = .ok type)
    (again : resolveWithin scope more hint = .ok other) : type = other := by
  have left := resolveWithin_of_le (Nat.le_max_left readings more) resolved
  have right := resolveWithin_of_le (Nat.le_max_right readings more) again
  exact Except.ok.inj (left.symm.trans right)

/-- What holds of all types that hints stand for, if it holds of those that their texts do, holds of
all types that are found. -/
theorem resolveWithin_induction {motive : Expr → Ty → Prop} {readings : Nat}
    (step : ∀ reference : Nat → Text → Work Ty,
      (∀ line text type, reference line text = .ok type →
        ∃ expression, readReference line text = .ok expression ∧ motive expression type) →
      ∀ hint type, StandsFor scope reference hint type → motive hint type)
    (resolved : resolveWithin scope readings hint = .ok type) : motive hint type := by
  induction readings generalizing hint type with
  | zero =>
      refine step _ (fun line text type found => ?_) hint type (resolveWithin_eq_ok_iff.mp resolved)
      exact absurd found (Work.refuse_ne_ok _ _ _)
  | succ readings ih =>
      refine step _ (fun line text type found => ?_) hint type (resolveWithin_eq_ok_iff.mp resolved)
      obtain ⟨expression, read, resolved⟩ := bind_eq_ok_iff.mp found
      exact ⟨expression, read, ih resolved⟩

/-! ## What it takes to resolve a hint -/

section Resolving

variable {readings : Nat}

theorem resolveWithin_text_iff {text : Text} {isMarked : Bool} :
    resolveWithin scope readings (.constant line (.text text isMarked)) = .ok type ↔
      ∃ fewer expression, readings = fewer + 1 ∧ readReference line text = .ok expression ∧
        resolveWithin scope fewer expression = .ok type := by
  rw [resolveWithin_eq, resolveWith]
  cases readings with
  | zero => simp [referenceWithin]
  | succ fewer => simp [referenceWithin, bind_eq_ok_iff]

theorem resolveWithin_either_iff {left right : Expr} :
    resolveWithin scope readings (.binary line left .bitOr right) = .ok type ↔
      ∃ first second, resolveWithin scope readings left = .ok first ∧
        resolveWithin scope readings right = .ok second ∧
        Ty.compose? .union [first, second] = some type := by
  simp only [resolveWithin_eq_ok_iff]
  constructor
  · rintro ⟨⟩
    exact ⟨_, _, ‹_›, ‹_›, ‹_›⟩
  · rintro ⟨first, second, ofLeft, ofRight, composed⟩
    exact .either ofLeft ofRight composed

theorem resolveWithin_composed_iff (form : scope.form value.rootName? = .composing composition) :
    resolveWithin scope readings (.subscript line value index) = .ok type ↔
      ∃ types, (argumentsOf index).length = types.length ∧
        (∀ argument part, (argument, part) ∈ (argumentsOf index).zip types →
          resolveWithin scope readings argument = .ok part) ∧
        Ty.compose? composition types = some type := by
  simp only [resolveWithin_eq_ok_iff]
  constructor
  · intro stands
    cases stands with
    | composed again lengths each composed =>
        obtain rfl := Form.composing_injective (form.symm.trans again)
        exact ⟨_, lengths, each, composed⟩
    | optional again => simp [form] at again
    | annotated again => simp [form] at again
    | ignored ignores => simpa [form] using ignores.form
  · rintro ⟨types, lengths, each, composed⟩
    exact .composed form lengths each composed

theorem resolveWithin_optional_iff (form : scope.form value.rootName? = .optional)
    (alone : argumentsOf index = [argument]) :
    resolveWithin scope readings (.subscript line value index) = .ok type ↔
      ∃ inner, resolveWithin scope readings argument = .ok inner ∧
        Ty.compose? .union [inner, .nothing] = some type := by
  simp only [resolveWithin_eq_ok_iff]
  constructor
  · intro stands
    cases stands with
    | composed again => exact absurd (again.symm.trans form) (Form.composing_ne_optional _)
    | optional _ same ofArgument composed =>
        obtain rfl := List.singleton_inj.mp (alone.symm.trans same)
        exact ⟨_, ofArgument, composed⟩
    | annotated again => simp [form] at again
    | ignored ignores => simpa [form, Form.resolvesArguments] using ignores.form
  · rintro ⟨inner, ofArgument, composed⟩
    exact .optional form alone ofArgument composed

theorem resolveWithin_annotated_iff {rest : List Expr}
    (form : scope.form value.rootName? = .annotated)
    (first : argumentsOf index = argument :: rest) :
    resolveWithin scope readings (.subscript line value index) = .ok type ↔
      resolveWithin scope readings argument = .ok type := by
  simp only [resolveWithin_eq_ok_iff]
  constructor
  · intro stands
    cases stands with
    | composed again => exact absurd (again.symm.trans form) (Form.composing_ne_annotated _)
    | optional again => simp [form] at again
    | annotated _ same ofArgument =>
        obtain ⟨rfl, rfl⟩ := List.cons.inj (first.symm.trans same)
        exact ofArgument
    | ignored ignores => simpa [form, Form.resolvesArguments] using ignores.form
  · exact .annotated form first

end Resolving

/-! ## Normality -/

theorem normal_of_literalType (resolved : literalType argument = .ok type) : type.Normal := by
  unfold literalType at resolved
  split at resolved
  · simp [bind_eq_ok_iff] at resolved
  · cases resolved
  · cases resolved
    exact .leaf _
  · simp [bind_eq_ok_iff] at resolved
  · next literal _ =>
      split at resolved
      · next found some =>
          cases resolved
          obtain ⟨display, _, rfl⟩ := Option.map_eq_some_iff.mp some
          exact .leaf _
      · cases resolved

theorem normal_of_mapM_literalType (resolved : arguments.mapM literalType = .ok types) :
    ∀ part ∈ types, part.Normal :=
  forall_of_mapM_eq_ok (fun _ _ _ => normal_of_literalType) resolved

theorem Scope.Ignores.normal (ignores : scope.Ignores line value index type) : type.Normal := by
  cases (Scope.ignores_iff.mp ignores).2 with
  | literals form typed composed =>
      exact (Ty.normal_of_compose? (normal_of_mapM_literalType typed) composed).1
  | instanceOf form printed built => exact Scope.normal_of_instanceOf built
  | callable | container => exact .leaf _

/-- What a hint stands for is normal when the texts and the aliases in it are. -/
theorem StandsFor.normal (normal : scope.IsNormal)
    (normalTexts : ∀ line text type, reference line text = .ok type → type.Normal)
    (stands : StandsFor scope reference hint type) : type.Normal := by
  induction stands with
  | nothing => exact .leaf _
  | text read => exact normalTexts _ _ _ read
  | name named => exact Scope.normal_of_named normal named
  | field named => exact Scope.normal_of_named normal named
  | either _ _ composed ihLeft ihRight =>
      refine (Ty.normal_of_compose? ?_ composed).1
      simp [ihLeft, ihRight]
  | composed form lengths _ composed ih =>
      refine (Ty.normal_of_compose? (fun part member => ?_) composed).1
      obtain ⟨argument, paired⟩ := exists_zip_of_mem_right lengths member
      exact ih argument part paired
  | optional form alone _ composed ih =>
      refine (Ty.normal_of_compose? ?_ composed).1
      simp [ih, Ty.nothing, Ty.Normal.leaf]
  | annotated form first _ ih => exact ih
  | ignored ignores => exact ignores.normal

theorem normal_of_resolveWithin {readings : Nat} (normal : scope.IsNormal)
    (resolved : resolveWithin scope readings hint = .ok type) : type.Normal := by
  refine resolveWithin_induction (motive := fun _ type => type.Normal)
    (fun reference texts hint type stands => ?_) resolved
  refine stands.normal normal fun line text type found => ?_
  obtain ⟨_, _, normalText⟩ := texts line text type found
  exact normalText

/-! ## Aliases and values -/

section Keeping

variable {classes : ClassTable} {good : Ty → Prop} {entries resolved : Entries String Ty}
variable {pendings : List Pending}

omit [Release] in
theorem forall_get?_put {name : String} (holds : good type)
    (known : ∀ other kept, entries.get? other = some kept → good kept) :
    ∀ other kept, (entries.put name type).get? other = some kept → good kept := by
  intro other kept stored
  rw [Entries.get?_put] at stored
  split at stored
  · cases stored
    exact holds
  · exact known other kept stored

/-- What holds of each alias, if it holds of those above it, holds of all aliases. -/
theorem forall_of_resolveAliases
    (each : ∀ pending ∈ pendings, ∀ aliases type,
      (∀ name known, aliases.get? name = some known → good known) →
      resolve ⟨classes, aliases⟩ pending.hint = .ok type → good type)
    (known : ∀ name type, entries.get? name = some type → good type)
    (run : resolveAliases classes entries pendings = .ok resolved) :
    ∀ name type, resolved.get? name = some type → good type := by
  induction pendings generalizing entries with
  | nil =>
      cases run
      exact known
  | cons pending rest ih =>
      rw [List.forall_mem_cons] at each
      rw [resolveAliases] at run
      split at run
      · obtain ⟨type, found, later⟩ := bind_eq_ok_iff.mp run
        exact ih each.2 (forall_get?_put (each.1 _ type known found) known) later
      · exact ih each.2 known run

/-- What holds of each annotated name holds of all of them. -/
theorem forall_of_resolveValues
    (each : ∀ pending ∈ pendings, ∀ type, resolve scope pending.hint = .ok type → good type)
    (known : ∀ name type, entries.get? name = some type → good type)
    (run : resolveValues scope entries pendings = .ok resolved) :
    ∀ name type, resolved.get? name = some type → good type := by
  induction pendings generalizing entries with
  | nil =>
      cases run
      exact known
  | cons pending rest ih =>
      rw [List.forall_mem_cons] at each
      rw [resolveValues] at run
      split at run
      · exact ih each.2 known run
      · obtain ⟨type, found, later⟩ := bind_eq_ok_iff.mp run
        exact ih each.2 (forall_get?_put (each.1 type found) known) later

/-- The aliases of a stub stand for normal types. -/
theorem isNormal_of_resolveAliases (normal : Scope.IsNormal ⟨classes, entries⟩)
    (run : resolveAliases classes entries pendings = .ok resolved) :
    Scope.IsNormal ⟨classes, resolved⟩ := by
  refine forall_of_resolveAliases (fun pending _ aliases type known found => ?_) normal run
  have earlier : Scope.IsNormal ⟨classes, aliases⟩ := known
  exact normal_of_resolveWithin earlier found

end Keeping

end Stringify.Stub
