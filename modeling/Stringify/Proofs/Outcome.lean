import Mathlib.Data.List.Forall2
import Stringify.Stub.Error

/-!
# Outcomes

What it takes for work that may end early to come to a value. Proofs about such work take it apart
with these, and do not look at how its steps are put together.
-/

namespace Stringify

variable {ε ε' α β : Type} {first : Except ε α}

/-- Steps in a row come to a value when each of them does. -/
theorem bind_eq_ok_iff {next : α → Except ε β} {result : β} :
    first >>= next = .ok result ↔ ∃ value, first = .ok value ∧ next value = .ok result := by
  cases first with
  | error stop => simp [bind, Except.bind]
  | ok value => simp [bind, Except.bind]

/-- Steps in a row fail when the first one does, or when it comes to a value and the next one
fails. -/
theorem bind_eq_error_iff {next : α → Except ε β} {stop : ε} :
    first >>= next = .error stop ↔
      first = .error stop ∨ ∃ value, first = .ok value ∧ next value = .error stop := by
  cases first with
  | error other => simp [bind, Except.bind]
  | ok value => simp [bind, Except.bind]

/-- What comes after a step matters only for the value that it comes to. -/
theorem bind_congr_of_ok {next other : α → Except ε β}
    (same : ∀ value, first = .ok value → next value = other value) :
    first >>= next = first >>= other := by
  cases first with
  | error stop => rfl
  | ok value => exact same value rfl

theorem pure_eq_ok_iff {value result : α} :
    (pure value : Except ε α) = .ok result ↔ value = result := by
  simp [pure, Except.pure]

/-- Something is seen of an outcome exactly when there is a value, and it is seen of that. -/
theorem toOption_map_eq_some_iff {view : α → β} {seen : β} :
    first.toOption.map view = some seen ↔ ∃ value, first = .ok value ∧ view value = seen := by
  cases first with
  | error stop => simp [Except.toOption]
  | ok value => simp [Except.toOption]

/-- The failure of work that comes to no value. -/
def failure? : Except ε α → Option ε
  | .error stop => some stop
  | .ok _ => none

theorem failure?_eq_some_iff {stop : ε} : failure? first = some stop ↔ first = .error stop := by
  cases first with
  | error other => simp [failure?]
  | ok value => simp [failure?]

/-- Work on several items comes to values when the work on each of them does. -/
theorem mapM_eq_ok_iff {work : α → Except ε β} {items : List α} {values : List β} :
    items.mapM work = .ok values ↔
      List.Forall₂ (fun item value => work item = .ok value) items values := by
  induction items generalizing values with
  | nil =>
      rw [List.mapM_nil, pure_eq_ok_iff, List.forall₂_nil_left_iff]
      exact eq_comm
  | cons item rest ih =>
      simp only [List.mapM_cons, bind_eq_ok_iff, pure_eq_ok_iff, List.forall₂_cons_left_iff, ih]
      constructor
      · rintro ⟨value, here, others, later, rfl⟩
        exact ⟨value, others, here, later, rfl⟩
      · rintro ⟨value, others, here, later, rfl⟩
        exact ⟨value, here, others, later, rfl⟩

/-- What holds of all that the work on an item comes to holds of all the values. -/
theorem forall_of_mapM_eq_ok {work : α → Except ε β} {items : List α} {values : List β}
    {holds : β → Prop}
    (each : ∀ item ∈ items, ∀ value, work item = .ok value → holds value)
    (worked : items.mapM work = .ok values) : ∀ value ∈ values, holds value := by
  induction mapM_eq_ok_iff.mp worked with
  | nil => simp
  | cons here later ih =>
      obtain ⟨ofItem, ofRest⟩ := List.forall_mem_cons.mp each
      exact List.forall_mem_cons.mpr ⟨ofItem _ here, ih ofRest (mapM_eq_ok_iff.mpr later)⟩

/-- Work on several items is the same when the work on each of them is. -/
theorem mapM_congr {work other : α → Except ε β} {items : List α}
    (same : ∀ item ∈ items, work item = other item) : items.mapM work = items.mapM other := by
  induction items with
  | nil => rfl
  | cons item rest ih =>
      rw [List.forall_mem_cons] at same
      rw [List.mapM_cons, List.mapM_cons, same.1, ih same.2]

/-- Work on several items fails only when the work on one of them does. -/
theorem exists_of_mapM_eq_error {work : α → Except ε β} {items : List α} {stop : ε}
    (failed : items.mapM work = .error stop) : ∃ item ∈ items, work item = .error stop := by
  induction items with
  | nil => simp [pure, Except.pure] at failed
  | cons item rest ih =>
      rw [List.mapM_cons] at failed
      rcases bind_eq_error_iff.mp failed with here | ⟨value, -, failed⟩
      · exact ⟨item, by simp, here⟩
      · rcases bind_eq_error_iff.mp failed with later | ⟨values, -, failed⟩
        · obtain ⟨other, member, failed⟩ := ih later
          exact ⟨other, by simp [member], failed⟩
        · simp [pure, Except.pure] at failed

/-- Steps over several items fail at the first item at which a step does. -/
theorem foldlM_eq_error_iff {step : β → α → Except ε β} {items : List α} {state : β} {stop : ε} :
    items.foldlM step state = .error stop ↔
      ∃ before item after between, items = before ++ item :: after ∧
        before.foldlM step state = .ok between ∧ step between item = .error stop := by
  induction items generalizing state with
  | nil => simp [pure, Except.pure]
  | cons first rest ih =>
      rw [List.foldlM_cons, bind_eq_error_iff]
      simp only [ih]
      constructor
      · rintro (failed | ⟨middle, here, before, item, after, between, rfl, earlier, failed⟩)
        · exact ⟨[], first, rest, state, rfl, rfl, failed⟩
        · refine ⟨first :: before, item, after, between, rfl, ?_, failed⟩
          rw [List.foldlM_cons]
          exact bind_eq_ok_iff.mpr ⟨middle, here, earlier⟩
      · rintro ⟨before, item, after, between, split, earlier, failed⟩
        cases before with
        | nil =>
            obtain ⟨rfl, rfl⟩ := List.cons.inj split
            cases earlier
            exact .inl failed
        | cons _ before =>
            obtain ⟨rfl, rfl⟩ := List.cons.inj split
            rw [List.foldlM_cons] at earlier
            obtain ⟨middle, here, earlier⟩ := bind_eq_ok_iff.mp earlier
            exact .inr ⟨middle, here, before, item, after, between, rfl, earlier, failed⟩

theorem mapError_eq_error_iff {change : ε → ε'} {stop : ε'} :
    first.mapError change = .error stop ↔ ∃ cause, first = .error cause ∧ change cause = stop := by
  cases first with
  | error cause =>
      have failed : (Except.error cause : Except ε α).mapError change = .error (change cause) := rfl
      simp [failed]
  | ok value =>
      have kept : (Except.ok value : Except ε α).mapError change = .ok value := rfl
      simp [kept]

theorem mapError_eq_ok_iff {change : ε → ε'} {result : α} :
    first.mapError change = .ok result ↔ first = .ok result := by
  cases first with
  | error stop =>
      have failed : (Except.error stop : Except ε α).mapError change = .error (change stop) := rfl
      simp [failed]
  | ok value =>
      have kept : (Except.ok value : Except ε α).mapError change = .ok value := rfl
      simp [kept]

/-- Work that is refused comes to nothing. -/
@[simp] theorem Stub.Work.refuse_ne_ok (line : Nat) (problem : Stub.Problem) (value : α) :
    Stub.Work.refuse line problem ≠ .ok value := by
  simp [Stub.Work.refuse]

/-! ## Sources -/

namespace Stub

section Sources

variable [Release] {source : Text} {chars : List Char} {fault : Fault}

/-- The characters of a source are those that it encodes, none of them null. -/
theorem sourceChars_eq_some_iff :
    sourceChars source = .ok (some chars) ↔
      Text.Utf8.characters source = .ok chars ∧ '\x00' ∉ chars := by
  simp only [sourceChars, bind_eq_ok_iff, mapError_eq_ok_iff]
  constructor
  · rintro ⟨found, encoded, kept⟩
    split at kept
    · next plain =>
        obtain rfl := Option.some.inj (pure_eq_ok_iff.mp kept)
        exact ⟨encoded, by simpa using plain⟩
    · split at kept <;> cases kept
  · rintro ⟨encoded, plain⟩
    exact ⟨chars, encoded, by rw [if_pos (by simpa using plain)]; rfl⟩

/-- A source that cannot be read has a null character. -/
theorem sourceChars_eq_none_iff :
    sourceChars source = .ok none ↔
      Release.refusesNull = true ∧
        ∃ chars, Text.Utf8.characters source = .ok chars ∧ '\x00' ∈ chars := by
  simp only [sourceChars, bind_eq_ok_iff, mapError_eq_ok_iff]
  constructor
  · rintro ⟨found, encoded, kept⟩
    split at kept
    · cases kept
    · next null =>
        split at kept
        · next refuses => exact ⟨refuses, found, encoded, by simpa using null⟩
        · cases kept
  · rintro ⟨refuses, chars, encoded, null⟩
    exact ⟨chars, encoded, by rw [if_neg (by simpa using null), if_pos refuses]; rfl⟩

/-- A source is a fault for surrogates, or for a null character in some releases. -/
theorem sourceChars_eq_error_iff :
    sourceChars source = .error fault ↔
      (∃ error, Text.Utf8.characters source = .error error ∧ .surrogates error = fault) ∨
      Release.refusesNull = false ∧ .nullCharacter = fault ∧
        ∃ chars, Text.Utf8.characters source = .ok chars ∧ '\x00' ∈ chars := by
  simp only [sourceChars, bind_eq_error_iff, mapError_eq_error_iff, mapError_eq_ok_iff]
  constructor
  · rintro (unencoded | ⟨chars, encoded, failed⟩)
    · exact .inl unencoded
    · split at failed
      · cases failed
      · next null =>
          split at failed
          · cases failed
          · next keeps =>
              cases failed
              exact .inr ⟨by simpa using keeps, rfl, chars, encoded, by simpa using null⟩
  · rintro (unencoded | ⟨keeps, rfl, chars, encoded, null⟩)
    · exact .inl unencoded
    · refine .inr ⟨chars, encoded, ?_⟩
      rw [if_neg (by simpa using null), if_neg (by simpa using keeps)]
      rfl

end Sources

end Stub

end Stringify
