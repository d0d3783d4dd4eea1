import Stringify.Proofs.Outcome
import Stringify.Proofs.Settings.SortedNames
import Stringify.Settings.Options

/-!
# Settings after steps

Settings are made from options, widened by more names, and set to report callables or not, in any
number of steps. As long as the names are texts the settings have one form: their options list the
names in increasing order and give the settings back, and the steps since the last options matter
only for the names that they bring along and for the last flag.
-/

namespace Stringify

/-- The text that a document consists of. -/
def Json.text? : Json → Option Text
  | .text value => some value
  | _ => none

namespace Settings

/-! ## Steps -/

/-- A step that makes settings or changes them. -/
inductive Step where
  /-- Go back to the settings without options. -/
  | reset
  /-- Read the settings from options. -/
  | read (options : Option Json)
  /-- Ignore more names. -/
  | widen (names : List Text)
  /-- Report callables, or do not. -/
  | report (rejectFunctions : Bool)

/-- The settings after a step. Options that are refused leave them as they are. -/
def after (settings : Settings) : Step → Settings
  | .reset => .default
  | .read options =>
    match ofOptions options with
    | .ok given => given
    | .error _ => settings
  | .widen names => settings.ignoring names
  | .report rejectFunctions => settings.rejecting rejectFunctions

/-- The settings after several steps. -/
def afterAll (settings : Settings) (steps : List Step) : Settings :=
  steps.foldl after settings

/-- The document that gives options. -/
def document (options : List Json × Bool) : Json :=
  .object [(.ofString "ignoredTypeNames", .list options.1),
    (.ofString "rejectFunctions", .scalar (.bool options.2))]

/-- The names that a field gives; without it, or when it is null, the default ones. -/
def givenNames : (field : Option Json) → List Text
  | some (.list items) => items.filterMap Json.text?
  | some (.object fields) => fields.map Prod.fst
  | _ => defaultIgnored

/-- The flag that a field gives; without it, or when it is null, the flag is off. -/
def givenFlag : (field : Option Json) → Bool
  | some (.scalar (.bool rejectFunctions)) => rejectFunctions
  | _ => false

namespace Step

/-- The names and the flag that a step starts from anew, if it does. -/
def start? : Step → Option (List Text × Bool)
  | .reset => some (defaultIgnored, false)
  | .read options =>
    match ofOptions options with
    | .ok _ =>
      some (givenNames (options.bind (·.field? "ignoredTypeNames")),
        givenFlag (options.bind (·.field? "rejectFunctions")))
    | .error _ => none
  | .widen _ | .report _ => none

/-- The names that a step brings along. -/
def names : Step → List Text
  | .widen names => names
  | _ => []

/-- The flag that a step sets. -/
def flag? : Step → Option Bool
  | .report rejectFunctions => some rejectFunctions
  | _ => none

/-- No name in a step is something else than a text. -/
def OverTexts : Step → Prop
  | .read options => ∀ items, options.bind (·.field? "ignoredTypeNames") = some (.list items) →
    ∀ value, Json.scalar value ∉ items
  | _ => True

end Step

/-! ## One step -/

variable {settings given : Settings} {options : Option Json} {steps later : List Step}

theorem ofItems_eq_ok {items : List Json} {entries : NameEntries}
    (texts : ∀ value, Json.scalar value ∉ items) (read : NameEntries.ofItems items = .ok entries) :
    entries = ⟨items.filterMap Json.text?, []⟩ := by
  induction items generalizing entries with
  | nil =>
      cases read
      rfl
  | cons item rest ih =>
      have later : ∀ value, Json.scalar value ∉ rest :=
        fun value member => texts value (List.mem_cons_of_mem _ member)
      cases item with
      | scalar value => exact absurd List.mem_cons_self (texts value)
      | list items | object fields => cases read
      | text name =>
          obtain ⟨others, inner, equal⟩ := bind_eq_ok_iff.mp read
          cases equal
          rw [ih later inner]
          rfl

theorem ofJson_eq_ok {document : Json} {entries : NameEntries}
    (texts : ∀ items, document = .list items → ∀ value, Json.scalar value ∉ items)
    (other : ∀ name, document ≠ .text name) (read : NameEntries.ofJson document = .ok entries) :
    entries = ⟨givenNames (some document), []⟩ := by
  cases document with
  | scalar value => cases read
  | text name => exact absurd rfl (other name)
  | list items => exact ofItems_eq_ok (texts items rfl) read
  | object fields =>
      cases read
      rfl

theorem flagOfField_eq_ok {field : Option Json} {flag : Bool}
    (read : flagOfField field = .ok flag) : flag = givenFlag field := by
  unfold flagOfField at read
  split at read <;> cases read <;> rfl

theorem sortedNames_defaultIgnored : sortedNames defaultIgnored = defaultIgnored :=
  sortedNames_eq_self (increasing_sortedNames _)

/-- Options over texts make settings of what they give. -/
theorem ofOptions_eq_ok (texts : (Step.read options).OverTexts)
    (read : ofOptions options = .ok given) :
    given = ⟨sortedNames (givenNames (options.bind (·.field? "ignoredTypeNames"))), [],
      givenFlag (options.bind (·.field? "rejectFunctions"))⟩ := by
  cases options with
  | none =>
      cases read
      rfl
  | some options =>
      simp only [Step.OverTexts, Option.bind_some] at texts ⊢
      unfold ofOptions at read
      dsimp only at read
      generalize options.field? "ignoredTypeNames" = ignored at read texts ⊢
      split at read
      · cases read
      · next notText =>
          obtain ⟨flag, flagRead, read⟩ := bind_eq_ok_iff.mp read
          rw [← flagOfField_eq_ok flagRead]
          split at read
          · cases read
            simp only [givenNames, sortedNames_defaultIgnored]
            rfl
          · cases read
            simp only [givenNames, sortedNames_defaultIgnored]
            rfl
          · next document _ _ =>
              obtain ⟨entries, named, equal⟩ := bind_eq_ok_iff.mp read
              cases equal
              have other : ∀ name, document ≠ .text name := by
                rintro name rfl
                exact notText name rfl
              rw [ofJson_eq_ok (fun items same => texts items (congrArg some same)) other named]
              rfl

variable {step : Step} {names : List Text} {flag : Bool}

/-- A step that starts anew makes settings of its own names and flag. -/
theorem after_of_start (texts : step.OverTexts) (starts : step.start? = some (names, flag)) :
    settings.after step = ⟨sortedNames names, [], flag⟩ := by
  cases step with
  | reset =>
      cases starts
      rw [sortedNames_defaultIgnored]
      rfl
  | read options =>
      cases read : ofOptions options with
      | error stop =>
          rw [Step.start?, read] at starts
          cases starts
      | ok given =>
          rw [Step.start?, read] at starts
          cases starts
          rw [after, read, ofOptions_eq_ok texts read]
  | widen names | report flag => cases starts

/-- Any other step widens the names and may set the flag. -/
theorem after_of_widening (widens : step.start? = none) :
    settings.after step = { settings with
      ignored := insertNames settings.ignored step.names
      rejectFunctions := step.flag?.getD settings.rejectFunctions } := by
  cases step with
  | reset => cases widens
  | read options =>
      cases read : ofOptions options with
      | error stop =>
          rw [after, read]
          rfl
      | ok given =>
          rw [Step.start?, read] at widens
          cases widens
  | widen names | report flag => rfl

/-! ## Canonical settings -/

/-- Names that are texts in increasing order. -/
structure IsCanonical (settings : Settings) : Prop where
  increasing : settings.ignored.Pairwise (· < ·)
  textsOnly : settings.extras = []

theorem isCanonical_of (names : List Text) (flag : Bool) :
    IsCanonical ⟨sortedNames names, [], flag⟩ :=
  ⟨increasing_sortedNames names, rfl⟩

theorem isCanonical_default : IsCanonical default :=
  isCanonical_of _ false

namespace IsCanonical

variable {other : Settings}

theorem after (canonical : settings.IsCanonical) (texts : step.OverTexts) :
    (settings.after step).IsCanonical := by
  cases starts : step.start? with
  | none =>
      rw [after_of_widening starts]
      exact ⟨increasing_insertNames canonical.increasing _, canonical.textsOnly⟩
  | some start =>
      rw [after_of_start texts starts]
      exact isCanonical_of _ _

theorem afterAll (canonical : settings.IsCanonical) (texts : ∀ step ∈ steps, step.OverTexts) :
    (settings.afterAll steps).IsCanonical := by
  induction steps generalizing settings with
  | nil => exact canonical
  | cons step rest ih =>
      obtain ⟨here, later⟩ := List.forall_mem_cons.mp texts
      exact ih (canonical.after here) later

/-- Canonical settings are known by their names and their flag. -/
theorem eq_of_mem_iff (canonical : settings.IsCanonical) (canonicalToo : other.IsCanonical)
    (names : ∀ name, name ∈ settings.ignored ↔ name ∈ other.ignored)
    (flag : settings.rejectFunctions = other.rejectFunctions) : settings = other := by
  have ignored : settings.ignored = other.ignored :=
    canonical.increasing.eq_of_mem_iff canonicalToo.increasing names
  have extras : settings.extras = other.extras :=
    canonical.textsOnly.trans canonicalToo.textsOnly.symm
  cases settings
  cases other
  simp_all

theorem toOptions_eq (canonical : settings.IsCanonical) :
    settings.toOptions = (settings.ignored.map .text, settings.rejectFunctions) := by
  rw [toOptions, canonical.textsOnly, List.map_nil, List.append_nil]

theorem eq_of_toOptions_eq (canonical : settings.IsCanonical) (canonicalToo : other.IsCanonical)
    (same : settings.toOptions = other.toOptions) : settings = other := by
  rw [canonical.toOptions_eq, canonicalToo.toOptions_eq, Prod.mk.injEq] at same
  have injective : Function.Injective Json.text := fun _ _ same => Json.text.inj same
  have ignored := injective.list_map same.1
  exact canonical.eq_of_mem_iff canonicalToo (by simp [ignored]) same.2

theorem agrees_self (canonical : settings.IsCanonical) : settings.agrees settings = true := by
  simp [agrees, canonical.textsOnly, Scalar.areSame]

/-- Settings agree when their options are the same. -/
theorem agrees_iff (canonical : settings.IsCanonical) (canonicalToo : other.IsCanonical) :
    settings.agrees other = true ↔ settings.toOptions = other.toOptions := by
  constructor
  · intro agree
    simp only [agrees, Bool.and_eq_true, beq_iff_eq] at agree
    rw [canonical.eq_of_mem_iff canonicalToo (by simp [agree.1.1]) agree.2]
  · intro same
    rw [← canonical.eq_of_toOptions_eq canonicalToo same]
    exact canonical.agrees_self

end IsCanonical

theorem ofItems_map_text (names : List Text) :
    NameEntries.ofItems (names.map .text) = .ok ⟨names, []⟩ := by
  induction names with
  | nil => rfl
  | cons name rest ih =>
      rw [List.map_cons, NameEntries.ofItems, ih]
      rfl

theorem field?_document_names (options : List Json × Bool) :
    (document options).field? "ignoredTypeNames" = some (.list options.1) := by
  rw [document, Json.field?, Entries.get?, if_pos rfl]

theorem field?_document_flag (options : List Json × Bool) :
    (document options).field? "rejectFunctions" = some (.scalar (.bool options.2)) := by
  have different : Text.ofString "ignoredTypeNames" ≠ Text.ofString "rejectFunctions" := by decide
  rw [document, Json.field?, Entries.get?, if_neg different, Entries.get?, if_pos rfl]

/-- The options of canonical settings give the settings back. -/
theorem IsCanonical.ofOptions_document (canonical : settings.IsCanonical) :
    ofOptions (some (document settings.toOptions)) = .ok settings := by
  unfold ofOptions
  simp only [field?_document_names, field?_document_flag, flagOfField, canonical.toOptions_eq,
    NameEntries.ofJson, ofItems_map_text]
  show Except.ok (⟨sortedNames settings.ignored, [], settings.rejectFunctions⟩ : Settings) = _
  rw [sortedNames_eq_self canonical.increasing, ← canonical.textsOnly]

/-! ## Several steps -/

/-- The names and the flag of the last step that starts anew, or the default ones, and the steps
since then. -/
structure SinceStart (steps : List Step) (names : List Text) (flag : Bool) (later : List Step) :
    Prop where
  widens : ∀ step ∈ later, step.start? = none
  starts : steps = later ∧ names = defaultIgnored ∧ flag = false ∨
    ∃ earlier step, steps = earlier ++ step :: later ∧ step.start? = some (names, flag)

theorem exists_sinceStart (steps : List Step) :
    ∃ names flag later, SinceStart steps names flag later := by
  induction steps with
  | nil => exact ⟨defaultIgnored, false, [], by simp, .inl ⟨rfl, rfl, rfl⟩⟩
  | cons first rest ih =>
      -- A start in the rest comes after the first step, which then does not count.
      obtain ⟨names, flag, later, widens, ⟨rfl, rfl, rfl⟩ | ⟨earlier, step, rfl, starts⟩⟩ := ih
      · cases starts : first.start? with
        | none =>
            exact ⟨_, _, first :: rest, List.forall_mem_cons.mpr ⟨starts, widens⟩,
              .inl ⟨rfl, rfl, rfl⟩⟩
        | some start => exact ⟨start.1, start.2, rest, widens, .inr ⟨[], first, rfl, starts⟩⟩
      · exact ⟨names, flag, later, widens, .inr ⟨first :: earlier, step, rfl, starts⟩⟩

/-- Steps that do not start anew add up to one set of names and one flag. -/
theorem afterAll_of_widening (widens : ∀ step ∈ later, step.start? = none) :
    settings.afterAll later = { settings with
      ignored := insertNames settings.ignored (later.flatMap Step.names)
      rejectFunctions := (later.filterMap Step.flag?).getLastD settings.rejectFunctions } := by
  induction later generalizing settings with
  | nil => rfl
  | cons step rest ih =>
      obtain ⟨here, widens⟩ := List.forall_mem_cons.mp widens
      rw [afterAll, List.foldl_cons, ← afterAll, ih widens, after_of_widening here]
      have flags : ((step :: rest).filterMap Step.flag?).getLastD settings.rejectFunctions =
          (rest.filterMap Step.flag?).getLastD (step.flag?.getD settings.rejectFunctions) := by
        cases flag : step.flag? with
        | none => rw [List.filterMap_cons_none flag, Option.getD_none]
        | some value =>
            rw [List.filterMap_cons_some flag, List.getLastD_cons, Option.getD_some]
      have names : insertNames settings.ignored ((step :: rest).flatMap Step.names) =
          insertNames (insertNames settings.ignored step.names) (rest.flatMap Step.names) := by
        simp [insertNames]
      rw [flags, names]

theorem afterAll_append (settings : Settings) (earlier later : List Step) :
    settings.afterAll (earlier ++ later) = (settings.afterAll earlier).afterAll later :=
  List.foldl_append

/-- Steps that do not start anew may be put in another order, joined, split or repeated. -/
theorem IsCanonical.afterAll_congr (canonical : settings.IsCanonical) {others : List Step}
    (widens : ∀ step ∈ later, step.start? = none) (widensToo : ∀ step ∈ others, step.start? = none)
    (names : ∀ name, name ∈ later.flatMap Step.names ↔ name ∈ others.flatMap Step.names)
    (flags : (later.filterMap Step.flag?).getLast? = (others.filterMap Step.flag?).getLast?) :
    settings.afterAll later = settings.afterAll others := by
  have ignored : insertNames settings.ignored (later.flatMap Step.names) =
      insertNames settings.ignored (others.flatMap Step.names) := by
    refine (increasing_insertNames canonical.increasing _).eq_of_mem_iff
      (increasing_insertNames canonical.increasing _) fun name => ?_
    rw [mem_insertNames, mem_insertNames, names]
  rw [afterAll_of_widening widens, afterAll_of_widening widensToo, ignored,
    List.getLastD_eq_getLast?, List.getLastD_eq_getLast?, flags]

/-- What settings consist of after several steps. -/
theorem afterAll_of_sinceStart (texts : ∀ step ∈ steps, step.OverTexts)
    (since : SinceStart steps names flag later) :
    default.afterAll steps = ⟨insertNames (sortedNames names) (later.flatMap Step.names), [],
      (later.filterMap Step.flag?).getLastD flag⟩ := by
  obtain ⟨widens, ⟨rfl, rfl, rfl⟩ | ⟨earlier, step, rfl, starts⟩⟩ := since
  · rw [afterAll_of_widening widens, sortedNames_defaultIgnored]
    rfl
  · have here : step.OverTexts := texts step (by simp)
    rw [afterAll_append, afterAll, List.foldl_cons, ← afterAll, after_of_start here starts,
      afterAll_of_widening widens]

/-- After any steps over texts, the options of the settings list the names in increasing order, give
the settings back, and tell them from other such settings. The names are those that the settings
started from with all that were added since, the flag is the last one set since, and neither the
order nor the grouping of the steps that do not start anew matters. -/
theorem settings_are_canonical_after (steps : List Step)
    (texts : ∀ step ∈ steps, step.OverTexts) :
    let settings := default.afterAll steps
    (∃ names : List Text, names.Pairwise (· < ·) ∧
      settings.toOptions = (names.map .text, settings.rejectFunctions)) ∧
    (ofOptions (some (document settings.toOptions)) = .ok settings ∧
      settings.agrees settings = true) ∧
    (∀ others : List Step, (∀ step ∈ others, step.OverTexts) →
      (settings.agrees (default.afterAll others) = true ↔
        settings.toOptions = (default.afterAll others).toOptions)) ∧
    (∃ names flag later, SinceStart steps names flag later) ∧
    (∀ names flag later, SinceStart steps names flag later →
      (∀ name, name ∈ settings.ignored ↔ name ∈ names ∨ name ∈ later.flatMap Step.names) ∧
        settings.rejectFunctions = (later.filterMap Step.flag?).getLastD flag) ∧
    (∀ later others : List Step, (∀ step ∈ later ++ others, step.start? = none) →
      (∀ name, name ∈ later.flatMap Step.names ↔ name ∈ others.flatMap Step.names) →
      (later.filterMap Step.flag?).getLast? = (others.filterMap Step.flag?).getLast? →
        settings.afterAll later = settings.afterAll others) := by
  intro settings
  have canonical : settings.IsCanonical := isCanonical_default.afterAll texts
  refine ⟨⟨settings.ignored, canonical.increasing, canonical.toOptions_eq⟩,
    ⟨canonical.ofOptions_document, canonical.agrees_self⟩,
    fun others textsToo => canonical.agrees_iff (isCanonical_default.afterAll textsToo),
    exists_sinceStart steps, ?_, ?_⟩
  · intro names flag later since
    have same : settings = _ := afterAll_of_sinceStart texts since
    rw [same]
    exact ⟨fun name => by rw [mem_insertNames, mem_sortedNames], rfl⟩
  · intro later others widens names flags
    obtain ⟨widens, widensToo⟩ := List.forall_mem_append.mp widens
    exact canonical.afterAll_congr widens widensToo names flags

/-- Names in no order, one of them twice, more names, and options that are refused because their
flag is a text. -/
def mixedSteps : List Step :=
  let names : List Text := [.ofString "URL", .ofString "Date", .ofString "URL"]
  let refused : Json := .object [(.ofString "rejectFunctions", .text (.ofString "no"))]
  [.report true, .read (some (document (names.map .text, false))),
    .widen [.ofString "Error", .ofString "Date"], .report true, .read (some refused),
    .widen [.ofString "Error"]]

theorem settings_are_canonical_after_mixed :
    (∀ step ∈ mixedSteps, step.OverTexts) ∧
      (default.afterAll mixedSteps).toOptions =
        ([.ofString "Date", .ofString "Error", .ofString "URL"].map .text, true) ∧
      ofOptions (some (document (default.afterAll mixedSteps).toOptions)) =
        .ok (default.afterAll mixedSteps) := by
  have texts : ∀ step ∈ mixedSteps, step.OverTexts := by
    simp only [mixedSteps, List.forall_mem_cons, Step.OverTexts, true_and, Option.bind_some]
    refine ⟨?_, ?_, by simp⟩
    · intro items given value member
      rw [field?_document_names] at given
      obtain rfl := Json.list.inj (Option.some.inj given)
      simp at member
    · intro items given
      cases given
  exact ⟨texts, by rfl, (settings_are_canonical_after mixedSteps texts).2.1.1⟩

end Settings

end Stringify
