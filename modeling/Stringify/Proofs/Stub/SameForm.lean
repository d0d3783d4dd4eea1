import Stringify.Proofs.Source.Lines
import Stringify.Proofs.Stub.References

/-!
# Lines and meaning

What a hint stands for does not depend on its lines: they are only reported when it is refused. So a
hint stands for the same type wherever it is written.
-/

namespace Stringify.Stub

open Source (Argument Entry Expr Stmt)

variable {scope : Scope} {hint other value otherValue index otherIndex : Expr}
variable {hints others : List Expr}
variable {type : Ty} {types : List Ty} {line otherLine : Nat}

/-! ## Literals -/

theorem ofConstant?_forgetLines (value : Expr) :
    Number.ofConstant? value.forgetLines = Number.ofConstant? value := by
  cases value with
  | constant line value => cases value <;> rfl
  | _ => rfl

theorem ofSigned?_forgetLines (value : Expr) :
    Number.ofSigned? value.forgetLines = Number.ofSigned? value := by
  cases value with
  | constant line value => cases value <;> rfl
  | unary line operator operand =>
      have ofOperand := ofConstant?_forgetLines operand
      cases operator with
      | plus => exact ofOperand
      | minus => exact congrArg (Option.map Number.neg) ofOperand
      | invert => rfl
      | not => rfl
  | _ => rfl

theorem numberValue_forgetLines (value : Expr) :
    numberValue value.forgetLines = numberValue value := by
  by_cases isBinary : ∃ line left operator right, value = .binary line left operator right
  · obtain ⟨line, left, operator, right, rfl⟩ := isBinary
    simp only [Expr.forgetLines, numberValue, ofSigned?_forgetLines, ofConstant?_forgetLines]
  · have same := ofSigned?_forgetLines value
    cases value with
    | binary line left operator right => exact absurd ⟨_, _, _, _, rfl⟩ isBinary
    | _ => simp only [Expr.forgetLines, numberValue] at same ⊢; rw [same]

mutual

/-- Literal expressions have the same value wherever they are written. -/
theorem evaluate_forgetLines : (value : Expr) → evaluate value.forgetLines = evaluate value
  | .constant _ _ => rfl
  | .tuple _ items => by
    simp only [Expr.forgetLines, evaluate, evaluateItems_forgetLines items]
  | .list _ items => by
    simp only [Expr.forgetLines, evaluate, evaluateItems_forgetLines items]
  | .set _ items => by
    simp only [Expr.forgetLines, evaluate, evaluateKeys_forgetLines items]
  | .dictionary _ entries => by
    simp only [Expr.forgetLines, evaluate, evaluateEntries_forgetLines entries]
  | .call _ function arguments => by
    cases arguments with
    | nil => cases function <;> rfl
    | cons first rest => cases function <;> cases first <;> rfl
  | .unary line operator operand => by
    simpa only [Expr.forgetLines, evaluate] using
      numberValue_forgetLines (.unary line operator operand)
  | .binary line left operator right => by
    simpa only [Expr.forgetLines, evaluate] using
      numberValue_forgetLines (.binary line left operator right)
  | .name _ _ | .attribute _ _ _ | .subscript _ _ _ | .logical _ _ _ | .comparison _ _ _
  | .conditional _ _ _ _ | .lambda _ _ _ | .assignment _ _ _ | .await _ _ | .yield _ _
  | .yieldFrom _ _ | .starred _ _ | .comprehension _ _ _ _ | .dictionaryOf _ _ _ _
  | .slice _ _ _ _ | .formatted _ _ => rfl

theorem evaluateItems_forgetLines : (items : List Expr) →
    evaluateItems (Source.withoutLines items) = evaluateItems items
  | [] => rfl
  | item :: rest => by
    simp only [Source.withoutLines, evaluateItems, evaluate_forgetLines item,
      evaluateItems_forgetLines rest]

theorem evaluateKeys_forgetLines : (items : List Expr) →
    evaluateKeys (Source.withoutLines items) = evaluateKeys items
  | [] => rfl
  | item :: rest => by
    simp only [Source.withoutLines, evaluateKeys, evaluate_forgetLines item,
      evaluateKeys_forgetLines rest]

theorem evaluateEntries_forgetLines : (entries : List Entry) →
    evaluateEntries (Source.entriesWithoutLines entries) = evaluateEntries entries
  | [] => rfl
  | .pair key value :: rest => by
    simp only [Source.entriesWithoutLines, evaluateEntries, evaluate_forgetLines key,
      evaluate_forgetLines value, evaluateEntries_forgetLines rest]
  | .unpacked value :: rest => rfl

end

/-! ## Arguments and names -/

theorem argumentsOf_forgetLines (index : Expr) :
    argumentsOf index.forgetLines = (argumentsOf index).map Expr.forgetLines := by
  cases index with
  | tuple line items => exact Source.withoutLines_eq_map items
  | _ => rfl

/-- Lists of expressions are equal but for lines. -/
abbrev SameForms : List Expr → List Expr → Prop :=
  List.Forall₂ Expr.SameForm

theorem sameForms_iff : SameForms hints others ↔
    hints.map Expr.forgetLines = others.map Expr.forgetLines := by
  rw [← List.forall₂_eq_eq_eq, List.forall₂_map_left_iff, List.forall₂_map_right_iff]
  rfl

theorem sameForms_argumentsOf (same : index.SameForm otherIndex) :
    SameForms (argumentsOf index) (argumentsOf otherIndex) := by
  rw [sameForms_iff, ← argumentsOf_forgetLines, same, argumentsOf_forgetLines]

/-- A plain name stands for the same type wherever it is written. -/
theorem Scope.named_of_line {name : String} (named : scope.named line name = .ok type) :
    scope.named otherLine name = .ok type := by
  unfold Scope.named at named ⊢
  split at named
  · exact named
  · split_ifs at named ⊢ <;> first | exact named | simp at named

theorem exists_partner_of_mem_zip {α β : Type} {related : α → α → Prop} {first second : List α}
    {third : List β} (each : List.Forall₂ related first second) {element : α} {image : β}
    (paired : (element, image) ∈ second.zip third) :
    ∃ partner, (partner, image) ∈ first.zip third ∧ related partner element := by
  induction each generalizing third with
  | nil => simp at paired
  | @cons partner element _ _ here _ ih =>
      cases third with
      | nil => simp at paired
      | cons image rest =>
          rw [List.zip_cons_cons, List.mem_cons] at paired
          rcases paired with same | paired
          · cases same
            exact ⟨partner, by simp, here⟩
          · obtain ⟨found, member, holds⟩ := ih paired
            exact ⟨found, by simp [member], holds⟩

/-! ## Hints -/

variable [Release]

/-- A literal argument has the same type wherever it is written. -/
theorem literalType_of_sameForm (same : value.SameForm other)
    (typed : literalType value = .ok type) : literalType other = .ok type := by
  have evaluated : evaluate other = evaluate value := by
    rw [← evaluate_forgetLines other, ← same, evaluate_forgetLines]
  unfold literalType at typed ⊢
  rw [evaluated]
  split at typed
  · simp [bind_eq_ok_iff] at typed
  · cases typed
  · exact typed
  · simp [bind_eq_ok_iff] at typed
  · exact typed

theorem readReference_eq_ok_iff {text : Text} :
    readReference line text = .ok hint ↔ readReference otherLine text = .ok hint := by
  unfold readReference
  simp only [bind_eq_ok_iff]
  refine exists_congr fun scanned => and_congr_right fun _ => ?_
  split
  · rfl
  · simp

theorem mapM_literalType_of_sameForms (same : SameForms hints others)
    (typed : hints.mapM literalType = .ok types) : others.mapM literalType = .ok types := by
  rw [mapM_eq_ok_iff] at typed ⊢
  induction same generalizing types with
  | nil => exact typed
  | cons here _ ih =>
      cases typed with
      | cons first rest => exact .cons (literalType_of_sameForm here first) (ih rest)

/-- A subscript whose arguments are not resolved is built in the same way wherever it is written. -/
theorem Scope.Ignores.of_sameForm (ignores : scope.Ignores line value index type)
    (sameValue : value.SameForm otherValue) (sameIndex : index.SameForm otherIndex) :
    scope.Ignores otherLine otherValue otherIndex type := by
  have sameArguments := sameForms_argumentsOf sameIndex
  have printsAlike : Work.print (.subscript otherLine otherValue otherIndex) =
      Work.print (.subscript line value index) := by
    rw [Work.print, Work.print, (sameValue.subscript sameIndex).print_eq]
  have sameRoot := sameValue.rootName?_eq
  obtain ⟨nonempty, alone⟩ := Scope.ignores_iff.mp ignores
  refine Scope.ignores_iff.mpr ⟨?_, ?_⟩
  · generalize argumentsOf index = arguments at sameArguments nonempty
    generalize argumentsOf otherIndex = otherArguments at sameArguments
    cases sameArguments with
    | nil => exact nonempty
    | cons => rfl
  · cases alone with
    | literals form typed composed =>
        exact .literals (sameRoot ▸ form) (mapM_literalType_of_sameForms sameArguments typed)
          composed
    | instanceOf form printed built =>
        exact .instanceOf (sameRoot ▸ form) (printsAlike.trans printed) built
    | callable form printed => exact .callable (sameRoot ▸ form) (printsAlike.trans printed)
    | container form printed => exact .container (sameRoot ▸ form) (printsAlike.trans printed)

/-- A hint stands for the same type wherever it is written, if the texts in it do. -/
theorem StandsFor.of_sameForm {reference otherReference : Nat → Text → Work Ty}
    (texts : ∀ line otherLine text type, reference line text = .ok type →
      otherReference otherLine text = .ok type)
    (stands : StandsFor scope reference hint type) (same : hint.SameForm other) :
    StandsFor scope otherReference other type := by
  induction stands generalizing other with
  | nothing =>
      obtain ⟨_, rfl⟩ := same.exists_constant
      exact .nothing
  | text read =>
      obtain ⟨_, rfl⟩ := same.exists_constant
      exact .text (texts _ _ _ _ read)
  | name named =>
      obtain ⟨_, rfl⟩ := same.exists_name
      exact .name (Scope.named_of_line named)
  | field named =>
      obtain ⟨_, _, rfl⟩ := same.exists_attribute
      exact .field (Scope.named_of_line named)
  | either _ _ composed ihLeft ihRight =>
      obtain ⟨_, _, _, rfl, ofLeft, ofRight⟩ := same.exists_binary
      exact .either (ihLeft ofLeft) (ihRight ofRight) composed
  | composed form lengths _ composed ih =>
      obtain ⟨_, _, _, rfl, sameValue, sameIndex⟩ := same.exists_subscript
      have sameArguments := sameForms_argumentsOf sameIndex
      refine .composed (sameValue.rootName?_eq ▸ form) (sameArguments.length_eq ▸ lengths) ?_
        composed
      intro argument part paired
      obtain ⟨partner, member, sameArgument⟩ := exists_partner_of_mem_zip sameArguments paired
      exact ih partner part member sameArgument
  | optional form alone _ composed ih =>
      obtain ⟨_, _, _, rfl, sameValue, sameIndex⟩ := same.exists_subscript
      have sameArguments : SameForms [_] _ := alone ▸ sameForms_argumentsOf sameIndex
      obtain ⟨_, _, sameArgument, none, given⟩ := List.forall₂_cons_left_iff.mp sameArguments
      rw [List.forall₂_nil_left_iff.mp none] at given
      exact .optional (sameValue.rootName?_eq ▸ form) given (ih sameArgument) composed
  | annotated form first _ ih =>
      obtain ⟨_, _, _, rfl, sameValue, sameIndex⟩ := same.exists_subscript
      have sameArguments : SameForms (_ :: _) _ := first ▸ sameForms_argumentsOf sameIndex
      obtain ⟨_, _, sameFirst, _, given⟩ := List.forall₂_cons_left_iff.mp sameArguments
      exact .annotated (sameValue.rootName?_eq ▸ form) given (ih sameFirst)
  | ignored ignores =>
      obtain ⟨_, _, _, rfl, sameValue, sameIndex⟩ := same.exists_subscript
      exact .ignored (ignores.of_sameForm sameValue sameIndex)

/-- A hint stands for the same type wherever it is written. -/
theorem resolve_of_sameForm (same : hint.SameForm other)
    (resolved : resolve scope hint = .ok type) :
    resolve scope other = .ok type := by
  rw [resolve_eq_ok_iff] at resolved ⊢
  refine resolved.of_sameForm (fun line otherLine text type read => ?_) same
  obtain ⟨inner, written, found⟩ := bind_eq_ok_iff.mp read
  exact bind_eq_ok_iff.mpr ⟨inner, readReference_eq_ok_iff.mp written, found⟩

end Stringify.Stub
