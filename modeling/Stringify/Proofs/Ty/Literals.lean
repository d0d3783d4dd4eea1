import Stringify.Proofs.Text.Quoted
import Stringify.Proofs.Ty.Normal
import Stringify.Ty.Literal

/-!
# Unions of literals

The type of a literal is known by its printed form and the built-in type that declares it. Printed
forms tell truth values, integers, texts and byte strings apart, so the union of the types of such
literals has one part for each of the literals, in the order in which they first occur.
-/

namespace Stringify

/-! ## Integers -/

namespace Decimal

theorem toDigits_injective : Function.Injective (Nat.toDigits 10) := by
  intro left right same
  rw [← Nat.ofDigitChars_ten_toDigits (n := left), same, Nat.ofDigitChars_ten_toDigits]

theorem minus_notMem_toDigits (number : Nat) : '-' ∉ Nat.toDigits 10 number := by
  intro member
  have digit := Nat.isDigit_of_mem_toDigits (by decide) (by decide) member
  cases digit

/-- A minus sign is no digit, so the digits and the sign are read off the characters. -/
theorem integerChars_injective : Function.Injective integerChars := by
  intro left right same
  have signs : left < 0 ↔ right < 0 := by
    have sign (value : Int) : '-' ∈ integerChars value ↔ value < 0 := by
      by_cases negative : value < 0 <;> simp [integerChars, negative, minus_notMem_toDigits]
    rw [← sign, same, sign]
  have magnitudes : left.natAbs = right.natAbs := by
    unfold integerChars at same
    simp only [signs, List.append_right_inj] at same
    exact toDigits_injective same
  omega

end Decimal

/-! ## Literals -/

namespace Literal

variable {left right value : Literal} {values : List Literal}

/-- Truth values, integers, texts and byte strings, which are equal when they are printed alike. -/
def IsExact : Literal → Prop
  | .bool _ | .int _ | .text _ | .bytes _ => True
  | .real _ | .complex _ _ => False

/-- Whether a literal is short enough to be shown. -/
def isShort : Literal → Bool
  | .int value => value.natAbs < Nat.pow 10 Decimal.digitLimit
  | _ => true

/-- How a message shows the literal, had integers no bound on their digits. -/
def fullDisplay : Literal → String
  | .bool true => "True"
  | .bool false => "False"
  | .int value => String.ofList (Decimal.integerChars value)
  | .real value => value.realText
  | .complex re im => Decimal.Binary64.complexText re im
  | .text value => value.quoted
  | .bytes value => Text.quotedBytes value

/-- The type of the literal alone, had integers no bound on their digits. -/
def fullType (literal : Literal) : Ty :=
  Ty.ofLiteral literal.fullDisplay literal.kind

theorem display?_eq (value : Literal) :
    value.display? = if value.isShort then some value.fullDisplay else none := by
  cases value with
  | bool value => cases value <;> rfl
  | int value =>
      simp only [display?, Decimal.integerText?, isShort, fullDisplay, decide_eq_true_eq]
  | real value | complex re im | text value | bytes value => rfl

/-- The types of literals are those with all digits, except that an integer with too many digits has
none. -/
theorem type?_eq (value : Literal) :
    value.type? = if value.isShort then some value.fullType else none := by
  rw [type?, display?_eq]
  split <;> rfl

theorem fullType_eq_iff : left.fullType = right.fullType ↔
    left.fullDisplay = right.fullDisplay ∧ left.kind = right.kind := by
  simp only [fullType, Ty.ofLiteral, Ty.leaf.injEq, Leaf.scalar.injEq, ScalarTy.mk.injEq,
    List.cons.injEq, Option.some.injEq, and_true]
  constructor
  · rintro ⟨shown, kinds, -⟩
    exact ⟨shown, kinds⟩
  · rintro ⟨shown, kinds⟩
    exact ⟨shown, kinds, by rw [kinds]⟩

/-- The printed form and the built-in type tell exact literals apart. -/
theorem eq_of_fullType_eq (exact : left.IsExact) (same : left.fullType = right.fullType) :
    left = right := by
  obtain ⟨shown, kinds⟩ := fullType_eq_iff.mp same
  cases left with
  | bool left =>
      cases right with
      | bool right =>
          revert shown
          cases left <;> cases right <;> decide
      | _ => simp [kind] at kinds
  | int left =>
      cases right with
      | int right =>
          exact congrArg int (Decimal.integerChars_injective (String.ofList_injective shown))
      | _ => simp [kind] at kinds
  | text left =>
      cases right with
      | text right => exact congrArg text (Text.quoted_injective shown)
      | _ => simp [kind] at kinds
  | bytes left =>
      cases right with
      | bytes right => exact congrArg bytes (Text.quotedBytes_injective shown)
      | _ => simp [kind] at kinds
  | real value | complex re im => exact exact.elim

/-- What the types of exact literals contribute to a union: one part for each literal. -/
theorem flatten_fullTypes (exact : ∀ value ∈ values, value.IsExact) :
    Ty.flatten .union (values.map fullType) = values.eraseDups.map fullType := by
  have members : (values.map fullType).flatMap (Ty.members .union) = values.map fullType := by
    rw [List.flatMap_map]
    exact List.map_eq_flatMap.symm
  rw [Ty.flatten, members]
  exact eraseDups_map values fun left given _ _ same => eq_of_fullType_eq (exact left given) same

/-- The union of the types of truth values, integers, texts and byte strings has one part for each
of the literals, in the order in which they first occur, or is the type of the only one. -/
theorem literal_unions_keep_each_literal (values : List Literal) (nonempty : values ≠ [])
    (exact : ∀ value ∈ values, value.IsExact) :
    (∀ value ∈ values, value.type? = if value.isShort then some value.fullType else none) ∧
    (∀ left ∈ values, ∀ right ∈ values, left.fullType = right.fullType ↔ left = right) ∧
    Ty.compose? .union (values.map fullType) = some (
      match values.eraseDups with
      | [only] => only.fullType
      | distinct => .composite .union (distinct.map fullType)) := by
  refine ⟨fun value _ => value.type?_eq, fun left given right _ => ?_, ?_⟩
  · exact ⟨eq_of_fullType_eq (exact left given), congrArg fullType⟩
  · rw [Ty.compose?, flatten_fullTypes exact]
    cases distinct : values.eraseDups with
    | nil =>
        obtain ⟨value, given⟩ := List.exists_mem_of_ne_nil values nonempty
        have kept := List.mem_eraseDups.mpr given
        simp [distinct] at kept
    | cons first rest => cases rest <;> rfl

/-- Literals that print nearly alike, and repetitions of two of them. -/
theorem literal_unions_keep_each_literal_alike :
    let values : List Literal := [.bool true, .int 1, .text (.ofString "1"), .bool true,
      .text (.ofString "a"), .bytes [0x61], .int 1]
    let distinct : List Literal := [.bool true, .int 1, .text (.ofString "1"),
      .text (.ofString "a"), .bytes [0x61]]
    values ≠ [] ∧ (∀ value ∈ values, value.IsExact) ∧
      Ty.compose? .union (values.map fullType) =
        some (.composite .union (distinct.map fullType)) := by
  intro values distinct
  have nonempty : values ≠ [] := by simp [values]
  have exact : ∀ value ∈ values, value.IsExact := by simp [values, IsExact]
  have erased : values.eraseDups = distinct := by decide
  obtain ⟨-, -, union⟩ := literal_unions_keep_each_literal values nonempty exact
  rw [erased] at union
  exact ⟨nonempty, exact, union⟩

end Literal

end Stringify
