import Stringify.Proofs.Outcome
import Stringify.Settings.Options

/-!
# Options of which no settings come

Options are refused for a text in the place of the names and for a flag that is no truth value.
Other names of which no set can be made are no reason for a refusal, but no settings come of them
either.
-/

namespace Stringify

variable {options document : Json} {items : List Json} {error : OptionsError}

/-! ## Sets of names -/

/-- Whether a document can be a member of a set. -/
def Json.isMember : Json → Bool
  | .text _ | .scalar _ => true
  | .list _ | .object _ => false

/-- No set can be made of a document: it has no items, or one of them cannot be a member. -/
inductive Json.MakesNoSet : Json → OptionsError → Prop where
  | scalar (value : Scalar) : MakesNoSet (.scalar value) (.notACollection value.kind)
  | list {before : List Json} (members : ∀ item ∈ before, item.isMember = true)
      (inner after : List Json) :
      MakesNoSet (.list (before ++ .list inner :: after)) (.noSetMember "list")
  | object {before : List Json} (members : ∀ item ∈ before, item.isMember = true)
      (fields : List (Text × Json)) (after : List Json) :
      MakesNoSet (.list (before ++ .object fields :: after)) (.noSetMember "dict")

namespace NameEntries

theorem ofItems_cons_eq_error_iff {item : Json} (member : item.isMember = true) :
    ofItems (item :: items) = .error error ↔ ofItems items = .error error := by
  cases item with
  | text name | scalar value => simp [ofItems, bind_eq_error_iff, pure, Except.pure]
  | list inner | object fields => cases member

theorem ofItems_append_eq_error_iff {before : List Json}
    (members : ∀ item ∈ before, item.isMember = true) :
    ofItems (before ++ items) = .error error ↔ ofItems items = .error error := by
  induction before with
  | nil => rfl
  | cons item rest ih =>
      rw [List.forall_mem_cons] at members
      rw [List.cons_append, ofItems_cons_eq_error_iff members.1, ih members.2]

theorem makesNoSet_of_ofItems (failed : ofItems items = .error error) :
    Json.MakesNoSet (.list items) error := by
  induction items with
  | nil => cases failed
  | cons item rest ih =>
      by_cases member : item.isMember = true
      · cases ih ((ofItems_cons_eq_error_iff member).mp failed) with
        | list members => exact .list (List.forall_mem_cons.mpr ⟨member, members⟩) _ _
        | object members => exact .object (List.forall_mem_cons.mpr ⟨member, members⟩) _ _
      · have none : ∀ item ∈ ([] : List Json), item.isMember = true := by simp
        cases item with
        | text name | scalar value => exact absurd rfl member
        | list inner =>
            cases failed
            exact .list none inner rest
        | object fields =>
            cases failed
            exact .object none fields rest

theorem ofJson_eq_error_iff : ofJson document = .error error ↔ document.MakesNoSet error := by
  constructor
  · intro failed
    cases document with
    | scalar value =>
        cases failed
        exact .scalar value
    | text name | object fields => cases failed
    | list items => exact makesNoSet_of_ofItems failed
  · intro nothing
    cases nothing with
    | scalar value => rfl
    | list members | object members => exact (ofItems_append_eq_error_iff members).mpr rfl

end NameEntries

/-! ## Refused options -/

/-- Whether a document is a truth value or null. -/
def Json.isFlag : Json → Bool
  | .scalar .null | .scalar (.bool _) => true
  | _ => false

namespace Settings

/-- Options are refused: a text stands in the place of the names, or else the flag is neither a
truth value nor null. -/
inductive Refuses (options : Json) : OptionsError → Prop where
  | namesAreText {name : Text} (names : options.field? "ignoredTypeNames" = some (.text name)) :
      Refuses options (.namesAreText name.quoted)
  | flagIsNoBoolean {value : Json}
      (names : ∀ name, options.field? "ignoredTypeNames" ≠ some (.text name))
      (flag : options.field? "rejectFunctions" = some value) (other : value.isFlag = false) :
      Refuses options (.flagIsNoBoolean value.display)

/-- Nothing is wrong with options but the names, of which no set can be made. -/
structure LacksSet (options : Json) (error : OptionsError) : Prop where
  flag : ∀ value, options.field? "rejectFunctions" = some value → value.isFlag = true
  names : ∃ value, options.field? "ignoredTypeNames" = some value ∧ value ≠ .scalar .null ∧
    value.MakesNoSet error

theorem flagOfField_eq_error_iff {field : Option Json} :
    flagOfField field = .error error ↔
      ∃ value, field = some value ∧ value.isFlag = false ∧
        error = .flagIsNoBoolean value.display := by
  unfold flagOfField
  split
  · simp
  · simp [Json.isFlag]
  · simp [Json.isFlag]
  · next value given other =>
      have unlike : value.isFlag = false := by
        unfold Json.isFlag
        split <;> simp_all
      refine ⟨fun failed => ⟨value, rfl, unlike, (Except.error.inj failed).symm⟩, ?_⟩
      rintro ⟨_, same, -, rfl⟩
      rw [Option.some.inj same]

theorem exists_flagOfField_iff {field : Option Json} :
    (∃ flag, flagOfField field = .ok flag) ↔ ∀ value, field = some value → value.isFlag = true := by
  cases read : flagOfField field with
  | ok flag =>
      refine ⟨fun _ value given => ?_, fun _ => ⟨flag, rfl⟩⟩
      cases other : value.isFlag with
      | true => rfl
      | false =>
          have failed := flagOfField_eq_error_iff.mpr ⟨value, given, other, rfl⟩
          rw [read] at failed
          cases failed
  | error failure =>
      obtain ⟨value, given, other, -⟩ := flagOfField_eq_error_iff.mp read
      simp [given, other]

theorem ofOptions_of_refuses (refuses : Refuses options error) :
    ofOptions (some options) = .error error := by
  unfold ofOptions
  cases refuses with
  | namesAreText names =>
      simp only [names]
      rfl
  | flagIsNoBoolean names flag other =>
      dsimp only
      split
      · next name text => exact absurd text (names name)
      · exact bind_eq_error_iff.mpr (.inl (flagOfField_eq_error_iff.mpr ⟨_, flag, other, rfl⟩))

theorem ofOptions_of_lacksSet (lacks : LacksSet options error) :
    ofOptions (some options) = .error error := by
  obtain ⟨value, names, notNull, nothing⟩ := lacks.names
  obtain ⟨flag, read⟩ := exists_flagOfField_iff.mpr lacks.flag
  have failed := NameEntries.ofJson_eq_error_iff.mpr nothing
  unfold ofOptions
  simp only [names, read]
  cases value with
  | text name | object fields => cases nothing
  | list items | scalar value =>
      exact bind_eq_error_iff.mpr (.inr ⟨flag, rfl, bind_eq_error_iff.mpr (.inl failed)⟩)

/-- The names are looked at for a text, then the flag, and only then is a set made of the names. -/
theorem ofOptions_eq_error_iff :
    ofOptions (some options) = .error error ↔ Refuses options error ∨ LacksSet options error := by
  refine ⟨fun failed => ?_, fun cause => cause.elim ofOptions_of_refuses ofOptions_of_lacksSet⟩
  unfold ofOptions at failed
  dsimp only at failed
  split at failed
  · next name names =>
      cases failed
      exact .inl (.namesAreText names)
  · next other =>
      rcases bind_eq_error_iff.mp failed with refused | ⟨flag, read, failed⟩
      · obtain ⟨value, given, unlike, rfl⟩ := flagOfField_eq_error_iff.mp refused
        exact .inl (.flagIsNoBoolean other given unlike)
      · split at failed
        · cases failed
        · cases failed
        · next value notNull names =>
            rcases bind_eq_error_iff.mp failed with nothing | ⟨entries, -, failed⟩
            · exact .inr ⟨exists_flagOfField_iff.mp ⟨flag, read⟩, value, names, notNull,
                NameEntries.ofJson_eq_error_iff.mp nothing⟩
            · cases failed

end Settings

end Stringify
