import Stringify.Proofs.Stub.Aliases
import Stringify.Proofs.Stub.Inheritance

/-!
# Hints that stand for nothing

A hint that is resolved in a sound scope stands for a type, or something in it stops the work: a
hint that is met on the way is refused at its own line, or a literal argument at the line of that,
or the one or the other has no text, no number or no printed form. No question about the classes
and no composition fails.
-/

namespace Stringify.Stub

open Source (Expr)

variable {scope : Scope} {hint argument value index : Expr} {arguments : List Expr}
variable {stop : Stop} {line : Nat} {type : Ty} {types : List Ty}

/-! ## Refusals -/

@[simp] theorem refuse_eq_error_iff {α : Type} {problem : Problem} :
    (Work.refuse line problem : Work α) = .error stop ↔ .refused line problem = stop := by
  simp [Work.refuse]

/-- Nothing comes after a refusal. -/
theorem refuse_bind_eq_error_iff {α β : Type} {problem : Problem} {next : α → Work β} :
    (Work.refuse line problem >>= next) = .error stop ↔ .refused line problem = stop := by
  simp [bind_eq_error_iff, Work.refuse_ne_ok]

/-! ## Promises that are kept -/

/-- The classes of a scope are well ordered, and its aliases stand for normal types. -/
structure Scope.IsSound (scope : Scope) : Prop where
  ordered : scope.classes.WellOrdered
  normal : scope.IsNormal

/-- There is a composition of normal types. -/
theorem compose_ne_error {composition : Composition} (nonempty : types ≠ [])
    (normal : ∀ type ∈ types, type.Normal) : compose composition types ≠ .error stop := by
  obtain ⟨type, composed⟩ : ∃ type, Ty.compose? composition types = some type :=
    Ty.exists_compose? nonempty normal
  simp [compose_eq_ok_iff.mpr composed]

/-- Composing normal types stops the work only where finding them does. -/
theorem eq_error_of_composed {composition : Composition} {work : Work (List Ty)}
    (found : ∀ types, work = .ok types → types ≠ [] ∧ ∀ type ∈ types, type.Normal)
    (failed : (do compose composition (← work)) = .error stop) : work = .error stop := by
  rcases bind_eq_error_iff.mp failed with failed | ⟨types, resolved, failed⟩
  · exact failed
  · obtain ⟨nonempty, normal⟩ := found types resolved
    exact absurd failed (compose_ne_error nonempty normal)

/-- Questions about the classes of a scope have answers. -/
theorem Scope.instanceOf_ne_error {className display : String} (sound : scope.IsSound)
    (declared : scope.classes.contains className = true) :
    scope.instanceOf className display ≠ .error stop := by
  obtain ⟨type, found, -⟩ := exists_instanceOf sound.ordered declared scope.aliases display
  simp [found]

/-- A plain name is refused or stands for something. -/
theorem exists_refused_of_named {name : String} (sound : scope.IsSound)
    (failed : scope.named line name = .error stop) :
    ∃ problem, .refused line problem = stop := by
  unfold Scope.named at failed
  split at failed
  · cases failed
  · split_ifs at failed with _ _ _ declared
    · exact absurd failed (Scope.instanceOf_ne_error sound declared)
    · exact ⟨_, refuse_eq_error_iff.mp failed⟩

/-- Literals are built for one name only. -/
theorem rootName?_of_form_literal {root : Option String} (form : scope.form root = .literal) :
    root = some "Literal" := by
  cases root with
  | none => cases form
  | some root =>
      simp only [Scope.form] at form
      split_ifs at form with _ _ _ _ isLiteral
      exact congrArg some isLiteral

theorem contains_of_form_instanceOf {root : Option String} {className : String}
    (form : scope.form root = .instanceOf className) : scope.classes.contains className = true := by
  cases root with
  | none => cases form
  | some root =>
      simp only [Scope.form] at form
      split_ifs at form with _ _ _ _ _ _ declared
      cases form
      exact declared

theorem ne_nil_of_length_eq {α β : Type} {values : List α} {others : List β}
    (same : values.length = others.length) (nonempty : others ≠ []) : values ≠ [] := by
  rintro rfl
  exact nonempty (List.length_eq_zero_iff.mp same.symm)

variable [Release]

/-! ## Hints -/

/-- Resolving a hint meets another one in it, or in a text in it if `quoted`. -/
inductive Meets : Expr → Bool → Expr → Prop where
  | self {hint : Expr} : Meets hint false hint
  | left {line : Nat} {left right node : Expr} {quoted : Bool} (inside : Meets left quoted node) :
      Meets (.binary line left .bitOr right) quoted node
  | right {line : Nat} {left right node : Expr} {quoted : Bool} (inside : Meets right quoted node) :
      Meets (.binary line left .bitOr right) quoted node
  | argument {line : Nat} {value index argument node : Expr} {quoted : Bool}
      (member : argument ∈ argumentHints value.rootName? (argumentsOf index))
      (inside : Meets argument quoted node) : Meets (.subscript line value index) quoted node
  | text {line : Nat} {value : Text} {isMarked : Bool} {inner node : Expr} {quoted : Bool}
      (read : readReference line value = .ok inner) (inside : Meets inner quoted node) :
      Meets (.constant line (.text value isMarked)) true node

/-- A literal argument stops the work. -/
inductive LiteralStops : Expr → Stop → Prop where
  | refused {argument : Expr} (problem : Problem) :
      LiteralStops argument (.refused argument.line problem)
  | unprintable {argument : Expr} {error : Source.PrintError}
      (unprinted : argument.print = .error error) :
      LiteralStops argument (.fault (.unprintable error))
  /-- An integer is added to an imaginary number and does not fit into a real one. -/
  | overflow {argument : Expr} (evaluated : evaluate argument = .error .integerOverflow) :
      LiteralStops argument (.fault .integerOverflow)
  | tooLong {argument : Expr} {literal : Literal}
      (evaluated : evaluate argument = .ok (.literal literal))
      (undisplayed : literal.display? = none) :
      LiteralStops argument (.fault (.unprintable .integerTooLong))

/-- A hint stops the work itself, whatever hints are met in it. -/
inductive HintStops : Expr → Stop → Prop where
  | refused {hint : Expr} (problem : Problem) : HintStops hint (.refused hint.line problem)
  | unprintable {hint : Expr} {error : Source.PrintError} (unprinted : hint.print = .error error) :
      HintStops hint (.fault (.unprintable error))
  | surrogates {line : Nat} {value : Text} {isMarked : Bool} {error : Text.Utf8.EncodeError}
      (unencoded : Text.Utf8.characters value = .error error) :
      HintStops (.constant line (.text value isMarked)) (.fault (.surrogates error))
  /-- A null character is a fault where it does not make the text one that cannot be read. -/
  | nullCharacter {line : Nat} {value : Text} {isMarked : Bool} {chars : List Char}
      (keeps : Release.refusesNull = false) (encoded : Text.Utf8.characters value = .ok chars)
      (null : '\x00' ∈ chars) :
      HintStops (.constant line (.text value isMarked)) (.fault .nullCharacter)
  | literal {line : Nat} {value index argument : Expr} {stop : Stop}
      (isLiteral : value.rootName? = some "Literal") (member : argument ∈ argumentsOf index)
      (stops : LiteralStops argument stop) : HintStops (.subscript line value index) stop

/-- A hint that is met stops the work. -/
def Fails (hint : Expr) (stop : Stop) : Prop :=
  ∃ quoted node, Meets hint quoted node ∧ HintStops node stop

theorem print_eq_error_iff {expression : Expr} : Work.print expression = .error stop ↔
    ∃ error, expression.print = .error error ∧ .fault (.unprintable error) = stop :=
  mapError_eq_error_iff

/-- What is refused by the printed form of an expression is refused, or there is no such form. -/
theorem printed_eq_error_iff {α : Type} {expression : Expr} {problem : String → Problem} :
    (do Work.refuse line (problem (← Work.print expression)) : Work α) = .error stop ↔
      (∃ error, expression.print = .error error ∧ .fault (.unprintable error) = stop) ∨
        ∃ printed, Work.print expression = .ok printed ∧
          .refused line (problem printed) = stop := by
  simp only [bind_eq_error_iff, print_eq_error_iff, refuse_eq_error_iff]

theorem hintStops_of_printed {α : Type} {problem : String → Problem}
    (failed : (do Work.refuse hint.line (problem (← Work.print hint)) : Work α) = .error stop) :
    HintStops hint stop := by
  obtain ⟨error, unprinted, rfl⟩ | ⟨printed, -, rfl⟩ := printed_eq_error_iff.mp failed
  · exact .unprintable unprinted
  · exact .refused _

/-- A type that is named by the printed form of its hint stops the work only if there is none. -/
theorem hintStops_of_displayed {next : String → Work Ty}
    (named : ∀ display, next display ≠ .error stop)
    (failed : (do next (← Work.print hint)) = .error stop) : HintStops hint stop := by
  rcases bind_eq_error_iff.mp failed with failed | ⟨display, -, failed⟩
  · obtain ⟨error, unprinted, rfl⟩ := print_eq_error_iff.mp failed
    exact .unprintable unprinted
  · exact absurd failed (named display)

theorem literalStops_of_printed {α : Type} {problem : String → Problem}
    (failed : (do Work.refuse argument.line (problem (← Work.print argument)) : Work α) =
      .error stop) : LiteralStops argument stop := by
  obtain ⟨error, unprinted, rfl⟩ | ⟨printed, -, rfl⟩ := printed_eq_error_iff.mp failed
  · exact .unprintable unprinted
  · exact .refused _

theorem literalStops_of_literalType (failed : literalType argument = .error stop) :
    LiteralStops argument stop := by
  unfold literalType at failed
  split at failed
  · exact literalStops_of_printed failed
  · next evaluated =>
      cases failed
      exact .overflow evaluated
  · cases failed
  · exact literalStops_of_printed failed
  · next literal evaluated =>
      split at failed
      · cases failed
      · next untyped =>
          cases failed
          exact .tooLong evaluated (Option.map_eq_none_iff.mp untyped)

/-! ## Subscripts -/

/-- A subscript stops the work itself, or one of its arguments does. -/
theorem subscripted_eq_error {resolveTypes : Unit → Work (List Ty)} {resolveFirst : Unit → Work Ty}
    (sound : scope.IsSound)
    (normalTypes : ∀ types, resolveTypes () = .ok types →
      types.length = (argumentsOf index).length ∧ ∀ type ∈ types, type.Normal)
    (normalFirst : ∀ type, resolveFirst () = .ok type → type.Normal)
    (failed : scope.subscripted (.subscript line value index) value.rootName? (argumentsOf index)
      resolveTypes resolveFirst = .error stop) :
    HintStops (.subscript line value index) stop ∨
    ((∃ composition, scope.form value.rootName? = .composing composition) ∧
      resolveTypes () = .error stop) ∨
    ((scope.form value.rootName? = .optional ∨ scope.form value.rootName? = .annotated) ∧
      argumentsOf index ≠ [] ∧ resolveFirst () = .error stop) := by
  cases empty : (argumentsOf index).isEmpty with
  | true =>
      simp only [Scope.subscripted, empty, if_true] at failed
      obtain rfl := refuse_bind_eq_error_iff.mp failed
      exact .inl (.refused _)
  | false =>
      have nonempty : argumentsOf index ≠ [] := by simpa using empty
      have several (types : List Ty) (resolved : resolveTypes () = .ok types) :
          types ≠ [] ∧ ∀ type ∈ types, type.Normal := by
        obtain ⟨lengths, normal⟩ := normalTypes types resolved
        exact ⟨ne_nil_of_length_eq lengths nonempty, normal⟩
      simp only [Scope.subscripted, empty, Bool.false_eq_true, if_false] at failed
      cases form : scope.form value.rootName? with
      | union =>
          rw [form] at failed
          exact .inr (.inl ⟨⟨.union, rfl⟩, eq_error_of_composed several failed⟩)
      | intersection =>
          rw [form] at failed
          exact .inr (.inl ⟨⟨.intersection, rfl⟩, eq_error_of_composed several failed⟩)
      | optional =>
          rw [form] at failed
          dsimp only at failed
          split at failed
          · obtain rfl := refuse_bind_eq_error_iff.mp failed
            exact .inl (.refused _)
          · rcases bind_eq_error_iff.mp failed with failed | ⟨type, resolved, failed⟩
            · exact .inr (.inr ⟨.inl rfl, nonempty, failed⟩)
            · refine absurd failed (compose_ne_error (by simp) ?_)
              simp [normalFirst type resolved, Ty.nothing, Ty.Normal.leaf]
      | annotated =>
          rw [form] at failed
          exact .inr (.inr ⟨.inr rfl, nonempty, failed⟩)
      | literal =>
          rw [form] at failed
          have unmade := eq_error_of_composed (fun types typed =>
            ⟨ne_nil_of_length_eq (mapM_eq_ok_iff.mp typed).length_eq.symm nonempty,
              normal_of_mapM_literalType typed⟩) failed
          obtain ⟨argument, member, failed⟩ := exists_of_mapM_eq_error unmade
          exact .inl (.literal (rootName?_of_form_literal form) member
            (literalStops_of_literalType failed))
      | instanceOf className =>
          rw [form] at failed
          exact .inl (hintStops_of_displayed (fun _ =>
            Scope.instanceOf_ne_error sound (contains_of_form_instanceOf form)) failed)
      | callable | container name =>
          rw [form] at failed
          exact .inl (hintStops_of_displayed (fun _ made => by cases made) failed)
      | unsupported =>
          rw [form] at failed
          exact .inl (hintStops_of_printed failed)

/-! ## Resolution -/

theorem Fails.of_stops (stops : HintStops hint stop) : Fails hint stop :=
  ⟨false, hint, .self, stops⟩

/-- What stops the work on an argument stops it on the subscript. -/
theorem Fails.of_argument (member : argument ∈ argumentHints value.rootName? (argumentsOf index))
    (fails : Fails argument stop) : Fails (.subscript line value index) stop := by
  obtain ⟨quoted, node, inside, stops⟩ := fails
  exact ⟨quoted, node, .argument member inside, stops⟩

theorem exists_of_resolveAll_eq_error {reference : Nat → Text → Work Ty}
    (failed : resolveAll scope reference arguments = .error stop) :
    ∃ argument ∈ arguments, resolveWith scope reference argument = .error stop := by
  rw [resolveAll_eq_mapM] at failed
  exact exists_of_mapM_eq_error failed

/-- What a hint stands for is normal, as the texts in it are. -/
theorem normal_of_resolveWith {reference : Nat → Text → Work Ty} (sound : scope.IsSound)
    (normalTexts : ∀ line text type, reference line text = .ok type → type.Normal)
    (resolved : resolveWith scope reference hint = .ok type) : type.Normal :=
  (standsFor_of_resolveWith hint type resolved).normal sound.normal normalTexts

theorem normal_of_resolveAll {reference : Nat → Text → Work Ty} (sound : scope.IsSound)
    (normalTexts : ∀ line text type, reference line text = .ok type → type.Normal)
    (resolved : resolveAll scope reference arguments = .ok types) :
    types.length = arguments.length ∧ ∀ type ∈ types, type.Normal := by
  rw [resolveAll_eq_mapM] at resolved
  exact ⟨(mapM_eq_ok_iff.mp resolved).length_eq.symm,
    forall_of_mapM_eq_ok (fun _ _ _ => normal_of_resolveWith sound normalTexts) resolved⟩

theorem normal_of_resolveFirst {reference : Nat → Text → Work Ty} (sound : scope.IsSound)
    (normalTexts : ∀ line text type, reference line text = .ok type → type.Normal)
    (resolved : resolveFirst scope reference arguments = .ok type) : type.Normal := by
  cases arguments with
  | nil =>
      rw [resolveFirst] at resolved
      cases resolved
      exact .leaf _
  | cons argument rest =>
      rw [resolveFirst] at resolved
      exact normal_of_resolveWith sound normalTexts resolved

/-- A hint whose texts fail for what they meet fails for what it meets. -/
theorem fails_of_resolveWith {reference : Nat → Text → Work Ty} (sound : scope.IsSound)
    (normalTexts : ∀ line text type, reference line text = .ok type → type.Normal)
    (texts : ∀ line value isMarked stop, reference line value = .error stop →
      Fails (.constant line (.text value isMarked)) stop) (hint : Expr) :
    ∀ stop, resolveWith scope reference hint = .error stop → Fails hint stop := by
  induction hint using hint_induction with
  | nothing line =>
      intro stop failed
      rw [resolveWith] at failed
      cases failed
  | text line value isMarked =>
      intro stop failed
      rw [resolveWith] at failed
      exact texts line value isMarked stop failed
  | either line left right ihLeft ihRight =>
      intro stop failed
      rw [resolveWith] at failed
      rcases bind_eq_error_iff.mp failed with ofLeft | ⟨first, leftResolved, failed⟩
      · obtain ⟨quoted, node, inside, stops⟩ := ihLeft stop ofLeft
        exact ⟨quoted, node, .left inside, stops⟩
      · rcases bind_eq_error_iff.mp failed with ofRight | ⟨second, rightResolved, failed⟩
        · obtain ⟨quoted, node, inside, stops⟩ := ihRight stop ofRight
          exact ⟨quoted, node, .right inside, stops⟩
        · refine absurd failed (compose_ne_error (by simp) ?_)
          simp [normal_of_resolveWith sound normalTexts leftResolved,
            normal_of_resolveWith sound normalTexts rightResolved]
  | subscript line value index each =>
      intro stop failed
      rw [resolveWith_subscript] at failed
      rcases subscripted_eq_error sound (fun _ => normal_of_resolveAll sound normalTexts)
        (fun _ => normal_of_resolveFirst sound normalTexts) failed
        with stops | ⟨⟨composition, form⟩, failed⟩ | ⟨form, nonempty, failed⟩
      · exact .of_stops stops
      · obtain ⟨argument, member, failed⟩ := exists_of_resolveAll_eq_error failed
        refine .of_argument ?_ (each argument member stop failed)
        rw [argumentHints_eq (by rw [form]; exact Form.resolvesArguments_composing _), form,
          if_neg (Form.composing_ne_annotated _)]
        exact member
      · obtain ⟨argument, rest, split⟩ := List.exists_cons_of_ne_nil nonempty
        rw [split, resolveFirst] at failed
        refine .of_argument ?_ (each argument (by simp [split]) stop failed)
        rcases form with form | form <;> rw [argumentHints_eq (by rw [form]; rfl), form, split] <;>
          simp
  | name line text | field line value field =>
      intro stop failed
      rw [resolveWith] at failed
      obtain ⟨problem, rfl⟩ := exists_refused_of_named sound failed
      exact .of_stops (.refused problem)
  | unsupported other refused =>
      intro stop failed
      rw [refused] at failed
      exact .of_stops (hintStops_of_printed failed)

/-- A text that is not read fails for what it holds, or is no expression. -/
theorem hintStops_of_readReference {value : Text} (isMarked : Bool)
    (failed : readReference line value = .error stop) :
    HintStops (.constant line (.text value isMarked)) stop := by
  unfold readReference at failed
  rcases bind_eq_error_iff.mp failed with failed | ⟨chars, -, failed⟩
  · obtain ⟨fault, unscanned, rfl⟩ := mapError_eq_error_iff.mp failed
    obtain ⟨error, unencoded, rfl⟩ | ⟨keeps, rfl, chars, encoded, null⟩ :=
      sourceChars_eq_error_iff.mp unscanned
    · exact .surrogates unencoded
    · exact .nullCharacter keeps encoded null
  · split at failed
    · cases failed
    · obtain rfl := refuse_eq_error_iff.mp failed
      exact .refused _

/-- A hint that stands for nothing holds one, or writes one in a text, that stops the work. -/
theorem fails_of_resolveWithin {readings : Nat} (sound : scope.IsSound)
    (failed : resolveWithin scope readings hint = .error stop) : Fails hint stop := by
  induction readings generalizing hint stop with
  | zero =>
      rw [resolveWithin_eq] at failed
      refine fails_of_resolveWith sound (fun line text type found => ?_) ?_ hint stop failed
      · exact absurd found (Work.refuse_ne_ok _ _ _)
      · intro line value isMarked stop failed
        rw [referenceWithin, refuse_eq_error_iff] at failed
        subst failed
        exact .of_stops (.refused _)
  | succ readings ih =>
      rw [resolveWithin_eq] at failed
      refine fails_of_resolveWith sound (fun line text type found => ?_) ?_ hint stop failed
      · obtain ⟨inner, -, resolved⟩ := bind_eq_ok_iff.mp found
        exact normal_of_resolveWithin sound.normal resolved
      · intro line value isMarked stop failed
        rcases bind_eq_error_iff.mp failed with failed | ⟨inner, read, failed⟩
        · exact .of_stops (hintStops_of_readReference isMarked failed)
        · obtain ⟨quoted, node, inside, stops⟩ := ih failed
          exact ⟨true, node, .text read inside, stops⟩

end Stringify.Stub
