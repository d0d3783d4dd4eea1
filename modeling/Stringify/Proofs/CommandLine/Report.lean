import Stringify.CommandLine.Report
import Stringify.Proofs.Source.WrittenStatements
import Stringify.Proofs.Stub.Interleaving
import Stringify.Proofs.Stub.Values
import Stringify.Proofs.Ty.Offending

/-!
# Reports and verdicts

Every verdict of a report is found before its first line is written, so a report is complete or
there is none. The exit code tells which, and whether there is a finding among the verdicts.

Each verdict has a line of its own. The parts to blame for it follow in one line if no name of them
has a line feed, but the layouts of formatted texts are printed with theirs, so such names go on in
further lines.
-/

namespace Stringify.CommandLine

variable {module : Stub.Module} {settings : Settings} {explain : Bool} {names : List String}
variable {type : Ty} {name : String} {arguments : Arguments} {words : List String}
variable {read : Path → Except FileError (List UInt8)}

/-! ## Lines -/

/-- A text that no line feed breaks. -/
def IsLine (text : String) : Prop :=
  '\n' ∉ text.toList

instance (text : String) : Decidable (IsLine text) :=
  inferInstanceAs (Decidable ('\n' ∉ text.toList))

/-- The text of several lines. -/
def textOfLines (lines : List String) : String :=
  String.join (lines.map (· ++ "\n"))

theorem textOfLines_append (first second : List String) :
    textOfLines (first ++ second) = textOfLines first ++ textOfLines second := by
  simp [textOfLines, String.join_append]

/-- The lines that the line feeds of a text make of it. -/
def linesIn (text : String) : List String :=
  (text.toList.splitOn '\n').map String.ofList

theorem not_mem_of_mem_splitOn {c : Char} {chars piece : List Char}
    (member : piece ∈ chars.splitOn c) : c ∉ piece := by
  induction chars generalizing piece with
  | nil =>
      obtain rfl := List.mem_singleton.mp member
      exact List.not_mem_nil
  | cons first rest ih =>
      rw [List.splitOn_cons_eq_if_modifyHead] at member
      split at member
      · rcases List.mem_cons.mp member with rfl | member
        · exact List.not_mem_nil
        · exact ih member
      · next other =>
          cases pieces : rest.splitOn c with
          | nil => exact absurd pieces (List.splitOn_ne_nil c rest)
          | cons head others =>
              rw [pieces] at ih member
              rcases List.mem_cons.mp member with rfl | member
              · rw [List.mem_cons, not_or]
                exact ⟨fun same => other (by simp [same]), ih List.mem_cons_self⟩
              · exact ih (List.mem_cons_of_mem _ member)

theorem isLine_of_mem_linesIn {text line : String} (member : line ∈ linesIn text) :
    IsLine line := by
  obtain ⟨piece, inside, rfl⟩ := List.mem_map.mp member
  rw [IsLine, String.toList_ofList]
  exact not_mem_of_mem_splitOn inside

theorem textOfLines_eq_intercalate {lines : List String} (nonempty : lines ≠ []) :
    textOfLines lines = "\n".intercalate lines ++ "\n" := by
  induction lines with
  | nil => exact absurd rfl nonempty
  | cons line rest ih =>
      cases rest with
      | nil => simp [textOfLines]
      | cons next rest =>
          rw [String.intercalate_cons_cons, String.append_assoc, ← ih (List.cons_ne_nil _ _)]
          simp [textOfLines, String.append_assoc]

/-- The lines of a text make the text again. -/
theorem textOfLines_linesIn (text : String) : textOfLines (linesIn text) = text ++ "\n" := by
  rw [textOfLines_eq_intercalate (by simp [linesIn, List.splitOn_ne_nil])]
  congr 1
  rw [← String.toList_inj, String.toList_intercalate, linesIn, List.map_map]
  have same : String.toList ∘ String.ofList = id := funext fun chars => String.toList_ofList
  rw [same, List.map_id]
  exact List.intercalate_splitOn '\n'

/-- A text is one line exactly when it has no line feed. -/
theorem length_linesIn_eq_one_iff {text : String} :
    (linesIn text).length = 1 ↔ IsLine text := by
  constructor
  · intro single
    obtain ⟨line, alone⟩ := List.length_eq_one_iff.mp single
    have whole := textOfLines_linesIn text
    rw [alone] at whole
    have same : line ++ "\n" = text ++ "\n" := by simpa [textOfLines] using whole
    obtain rfl := String.append_left_inj _ |>.mp same
    exact isLine_of_mem_linesIn (alone ▸ List.mem_singleton_self line)
  · intro plain
    rw [linesIn, List.splitOn_eq_singleton plain]
    rfl

/-! ## Modules -/

section

variable [Release]

theorem load_of_loadFile {path : String} {bytes : Except FileError (List UInt8)}
    (loaded : loadFile path bytes = .ok module) :
    ∃ source : Text, Stub.Module.load path source = .ok module := by
  unfold loadFile at loaded
  obtain ⟨content, -, loaded⟩ := bind_eq_ok_iff.mp loaded
  split at loaded
  · cases loaded
  · split at loaded
    · next made =>
        cases loaded
        exact ⟨_, made⟩
    · cases loaded
    · cases loaded

/-- The names of a loaded stub are distinct words. -/
theorem names_of_load {file source : Text} (loaded : Stub.Module.load file source = .ok module) :
    module.names.Nodup ∧ ∀ name ∈ module.names, Source.IsWord name := by
  obtain ⟨chars, stmts, -, read, made⟩ := Stub.Module.load_eq_ok loaded
  rw [Stub.Module.names_eq made]
  refine ⟨nodup_eraseDups _, fun name member => ?_⟩
  obtain ⟨stmt, inside, target⟩ := List.mem_filterMap.mp (List.mem_eraseDups.mp member)
  have written := Source.isWritten_of_readModule read stmt (List.mem_filter.mp inside).1
  unfold Stub.targetName? at target
  split at target
  · obtain rfl := Option.some.inj target
    obtain ⟨ofTarget, -⟩ := written
    cases ofTarget with
    | name word => exact word
  · cases target

/-- A finding about a name of a loaded stub has a part to blame. -/
theorem offending_ne_nil_of_load {file source : Text}
    (loaded : Stub.Module.load file source = .ok module) (found : module.value name = .ok type)
    (finding : type.classify settings ≠ .always) : type.offending settings ≠ [] := by
  obtain ⟨_, stmts, -, -, made⟩ := Stub.Module.load_eq_ok loaded
  refine Ty.offending_ne_nil (Stub.Module.normal_of_ofStmts made name type ?_).full finding
  unfold Stub.Module.value at found
  split at found
  · next stored =>
      cases found
      exact stored
  · cases found

end

/-- A word has no line feed. -/
theorem isLine_of_isWord (word : Source.IsWord name) : IsLine name := by
  intro member
  exact absurd (word.chars _ member) (by decide)

/-- The annotated names are those that have a type. -/
theorem mem_names_iff : name ∈ module.names ↔ ∃ type, module.value name = .ok type := by
  rw [Stub.Module.names, ← Entries.isSome_get?_iff, Stub.Module.value]
  cases module.values.get? name <;> simp

/-! ## Entries -/

/-- The names that a report lists: each of those asked for once, or all annotated ones. -/
def listed (module : Stub.Module) (names : List String) : List String :=
  if names.isEmpty then module.names else names.eraseDups

theorem eraseDups_selected (distinct : module.names.Nodup) :
    (selected module names).eraseDups = listed module names := by
  unfold selected listed
  split
  · exact eraseDups_eq_self distinct
  · rfl

theorem nodup_listed (distinct : module.names.Nodup) : (listed module names).Nodup := by
  rw [← eraseDups_selected distinct]
  exact nodup_eraseDups _

/-- Every listed name is annotated exactly when every name that is asked for is. -/
theorem forall_listed_iff :
    (∀ name ∈ listed module names, name ∈ module.names) ↔ ∀ name ∈ names, name ∈ module.names := by
  unfold listed
  split
  · next none => simp [List.isEmpty_iff.mp none]
  · simp

/-- There are entries exactly when all names have types, and then they are the entries of these. -/
theorem entries_eq_ok_iff {found : List Entry} :
    entries module settings explain names = .ok found ↔
      ∃ types, List.Forall₂ (fun name type => module.value name = .ok type) names.eraseDups types ∧
        found = List.zipWith (entryOf settings explain) names.eraseDups types := by
  rw [entries, mapM_eq_ok_iff]
  simp only [bind_eq_ok_iff, pure_eq_ok_iff]
  generalize names.eraseDups = names
  induction names generalizing found with
  | nil => simp
  | cons name rest ih =>
      simp only [List.forall₂_cons_left_iff, ih]
      constructor
      · rintro ⟨_, _, ⟨type, valued, rfl⟩, ⟨types, each, rfl⟩, rfl⟩
        exact ⟨type :: types, ⟨type, types, valued, each, rfl⟩, rfl⟩
      · rintro ⟨_, ⟨type, types, valued, each, rfl⟩, rfl⟩
        exact ⟨_, _, ⟨type, valued, rfl⟩, ⟨types, each, rfl⟩, rfl⟩

/-- There are types of names exactly when all of them are annotated. -/
theorem exists_types_iff :
    (∃ types, List.Forall₂ (fun name type => module.value name = .ok type) names types) ↔
      ∀ name ∈ names, name ∈ module.names := by
  induction names with
  | nil => simp
  | cons name rest ih =>
      rw [List.forall_mem_cons, ← ih, mem_names_iff]
      constructor
      · rintro ⟨_, found⟩
        cases found with
        | cons here each => exact ⟨⟨_, here⟩, _, each⟩
      · rintro ⟨⟨type, here⟩, types, each⟩
        exact ⟨type :: types, .cons here each⟩

theorem exists_name_of_mem {types : List Ty} (member : type ∈ types)
    (each : List.Forall₂ (fun name type => module.value name = .ok type) names types) :
    ∃ name, module.value name = .ok type := by
  induction each with
  | nil => cases member
  | cons here _ ih =>
      rcases List.mem_cons.mp member with rfl | member
      · exact ⟨_, here⟩
      · exact ih member

/-! ## Lines of entries -/

/-- The lines that name the parts to blame for a finding. -/
def blamedLines (settings : Settings) (type : Ty) : List String :=
  linesIn ("  offending: " ++ ", ".intercalate ((type.offending settings).map Ty.name))

/-- The lines about a name: its verdict and, on request, the parts to blame for a finding. -/
def linesOf (settings : Settings) (explain : Bool) (name : String) (type : Ty) : List String :=
  (name ++ ": " ++ (type.classify settings).label) ::
    if explain = true ∧ type.classify settings ≠ .always then blamedLines settings type else []

theorem isLine_append {first second : String} :
    IsLine (first ++ second) ↔ IsLine first ∧ IsLine second := by
  simp [IsLine]

theorem isLine_intercalate {texts : List String} :
    IsLine (", ".intercalate texts) ↔ ∀ text ∈ texts, IsLine text := by
  induction texts with
  | nil => simp [IsLine]
  | cons first rest ih =>
      cases rest with
      | nil => simp
      | cons next rest =>
          have comma : IsLine ", " := by decide
          rw [String.intercalate_cons_cons, isLine_append, isLine_append, ih,
            List.forall_mem_cons (l := next :: rest), and_iff_left comma]

/-- The parts to blame are named in one line exactly when no name of them has a line feed. -/
theorem length_blamedLines_eq_one_iff :
    (blamedLines settings type).length = 1 ↔
      ∀ part ∈ type.offending settings, IsLine part.name := by
  have opening : IsLine "  offending: " := by decide
  rw [blamedLines, length_linesIn_eq_one_iff, isLine_append, and_iff_right opening,
    isLine_intercalate, List.forall_mem_map]

theorem isLine_label (verdict : Verdict) : IsLine verdict.label := by
  cases verdict <;> decide

/-- The lines about a name without line feeds are lines. -/
theorem isLine_of_mem_linesOf (plain : IsLine name) {line : String}
    (member : line ∈ linesOf settings explain name type) : IsLine line := by
  rcases List.mem_cons.mp member with rfl | member
  · have colon : IsLine ": " := by decide
    exact isLine_append.mpr ⟨isLine_append.mpr ⟨plain, colon⟩, isLine_label _⟩
  · split at member
    · exact isLine_of_mem_linesIn member
    · cases member

theorem text_entryOf : (entryOf settings explain name type).text =
    textOfLines (linesOf settings explain name type) := by
  have opened (lines : List String) : textOfLines ((name ++ ": " ++
      (type.classify settings).label) :: lines) =
      s!"{name}: {(type.classify settings).label}\n" ++ textOfLines lines := by
    simp [textOfLines, toString]
  rw [linesOf, opened]
  by_cases finding : type.classify settings = .always
  · simp [entryOf, Entry.text, textOfLines, finding, Verdict.isFinding]
  · cases explain with
    | true => simp [entryOf, Entry.text, blamedLines, textOfLines_linesIn, finding,
        Verdict.isFinding]
    | false => simp [entryOf, Entry.text, textOfLines]

example : (entryOf .default true "x" (.ofInstance "A" (some "object") 0)).text =
    "x: never\n  offending: A\n" := by
  cbv

theorem join_text_entries (names : List String) (types : List Ty) :
    String.join ((List.zipWith (entryOf settings explain) names types).map Entry.text) =
      textOfLines (List.zipWith (linesOf settings explain) names types).flatten := by
  induction names generalizing types with
  | nil => rfl
  | cons name rest ih =>
      cases types with
      | nil => rfl
      | cons type types =>
          rw [List.zipWith_cons_cons, List.zipWith_cons_cons, List.map_cons, List.flatten_cons,
            textOfLines_append, ← ih, ← text_entryOf]
          simp

/-! ## Settings and findings -/

/-- There is a finding among the entries exactly when there is one among the types. -/
theorem any_isFinding_entries {types : List Ty} (same : names.length = types.length) :
    (List.zipWith (entryOf settings explain) names types).any (·.verdict.isFinding) = true ↔
      ∃ type ∈ types, type.classify settings ≠ .always := by
  induction names generalizing types with
  | nil =>
      obtain rfl := List.eq_nil_of_length_eq_zero same.symm
      simp
  | cons name rest ih =>
      cases types with
      | nil => simp at same
      | cons type types =>
          rw [List.zipWith_cons_cons, List.any_cons, Bool.or_eq_true, ih (Nat.succ.inj same)]
          simp [entryOf, Verdict.isFinding]

theorem exitCode_ofEntries (settings : Settings) (explain : Bool) {types : List Ty}
    (same : names.length = types.length) :
    (Outcome.ofEntries (List.zipWith (entryOf settings explain) names types)).exitCode =
      if ∃ type ∈ types, type.classify settings ≠ .always then 1 else 0 := by
  simp only [Outcome.ofEntries, any_isFinding_entries same]

/-- The settings are those of the options, then of the flag, then of the names. -/
theorem settings_eq_ok_iff : arguments.settings = .ok settings ↔
    ∃ options given, readOptions arguments.options = .ok options ∧
      Settings.ofOptions options = .ok given ∧
      settings = (if arguments.rejectFunctions then given.rejecting true else given).ignoring
        (arguments.ignored.map Text.ofString) := by
  have settled (options : Option Json) (given : Settings) :
      settingsOf options = .ok given ↔ Settings.ofOptions options = .ok given := by
    unfold settingsOf
    cases Settings.ofOptions options with
    | ok found => simp
    | error error => cases error <;> simp
  simp only [Arguments.settings, bind_eq_ok_iff, mapError_eq_ok_iff, pure_eq_ok_iff, settled]
  constructor
  · rintro ⟨options, read, given, found, rfl⟩
    exact ⟨options, given, read, found, rfl⟩
  · rintro ⟨options, given, read, found, rfl⟩
    exact ⟨options, read, given, found, rfl⟩

/-! ## Runs -/

section

variable [Release]

/-- The module of the stub that the arguments name. -/
def stubOf (read : Path → Except FileError (List UInt8)) (arguments : Arguments) :
    Except ReportFailure Stub.Module :=
  loadFile (Path.ofString arguments.stub).display (read (Path.ofString arguments.stub))

/-- What the command makes of a report. -/
def outcomeOf (path : Path) : Except ReportFailure (List Entry) → Except Crash Outcome
  | .ok entries => .ok (.ofEntries entries)
  | .error (.unreadable error) => .ok (.ofError (error.message path.display))
  | .error (.refused error) => .ok (.ofError error.text.toStringEscaping)
  | .error (.fault fault) => .error (.fault fault)

theorem run_of_report (asked : Request.ofWords words = .ok (.report arguments))
    (set : arguments.settings = .ok settings)
    (named : (Path.ofString arguments.stub).hasNull = false) :
    run read words = outcomeOf (Path.ofString arguments.stub)
      (stubOf read arguments >>= fun module =>
        (entries module settings arguments.explain (selected module arguments.names)).mapError
          .refused) := by
  show _ = outcomeOf _ (report arguments settings (read (Path.ofString arguments.stub)))
  simp only [run, asked, set, named, Bool.false_eq_true, if_false]
  cases report arguments settings (read (Path.ofString arguments.stub)) with
  | ok entries => rfl
  | error failure => cases failure <;> rfl

/-- A stub that cannot be loaded is an error. -/
theorem exists_run_of_unloaded (asked : Request.ofWords words = .ok (.report arguments))
    (set : arguments.settings = .ok settings)
    (named : (Path.ofString arguments.stub).hasNull = false)
    (settled : ∀ fault, stubOf read arguments ≠ .error (.fault fault))
    (unloaded : ∀ module, stubOf read arguments ≠ .ok module) :
    ∃ message, run read words = .ok (.ofError message) := by
  rw [run_of_report asked set named]
  cases loaded : stubOf read arguments with
  | ok module => exact absurd loaded (unloaded module)
  | error failure =>
      cases failure with
      | unreadable error | refused error => exact ⟨_, rfl⟩
      | fault fault => exact absurd loaded (settled fault)

theorem run_of_loaded (asked : Request.ofWords words = .ok (.report arguments))
    (set : arguments.settings = .ok settings)
    (named : (Path.ofString arguments.stub).hasNull = false)
    (loaded : stubOf read arguments = .ok module) :
    run read words = outcomeOf (Path.ofString arguments.stub)
      ((entries module settings arguments.explain (selected module arguments.names)).mapError
        .refused) := by
  rw [run_of_report asked set named, loaded]
  rfl

/-- A name that is not annotated is an error. -/
theorem exists_run_of_unknown (asked : Request.ofWords words = .ok (.report arguments))
    (set : arguments.settings = .ok settings)
    (named : (Path.ofString arguments.stub).hasNull = false)
    (loaded : stubOf read arguments = .ok module) (inside : name ∈ arguments.names)
    (unknown : name ∉ module.names) : ∃ message, run read words = .ok (.ofError message) := by
  rw [run_of_loaded asked set named loaded]
  cases found : entries module settings arguments.explain (selected module arguments.names) with
  | error error => exact ⟨_, rfl⟩
  | ok entries =>
      obtain ⟨types, each, -⟩ := entries_eq_ok_iff.mp found
      have chosen : name ∈ (selected module arguments.names).eraseDups := by
        rw [List.mem_eraseDups, selected, if_neg (by simpa using List.ne_nil_of_mem inside)]
        exact inside
      exact absurd (exists_types_iff.mp ⟨types, each⟩ name chosen) unknown

/-- When all names are annotated, their types make the report. -/
theorem exists_run_of_annotated (asked : Request.ofWords words = .ok (.report arguments))
    (set : arguments.settings = .ok settings)
    (named : (Path.ofString arguments.stub).hasNull = false)
    (loaded : stubOf read arguments = .ok module) (distinct : module.names.Nodup)
    (annotated : ∀ name ∈ arguments.names, name ∈ module.names) :
    ∃ types, List.Forall₂ (fun name type => module.value name = .ok type)
        (listed module arguments.names) types ∧
      run read words = .ok (.ofEntries
        (List.zipWith (entryOf settings arguments.explain) (listed module arguments.names)
          types)) := by
  obtain ⟨types, each⟩ := exists_types_iff.mpr (forall_listed_iff.mpr annotated)
  refine ⟨types, each, ?_⟩
  have found : entries module settings arguments.explain (selected module arguments.names) =
      .ok (List.zipWith (entryOf settings arguments.explain) (listed module arguments.names)
        types) := by
    rw [entries_eq_ok_iff, eraseDups_selected distinct]
    exact ⟨types, each, rfl⟩
  rw [run_of_loaded asked set named loaded, found]
  rfl

end

/-- An outcome reports on names that stand for types. Each name has a line with its verdict and, on
request, further lines with the names of the parts to blame for a finding. There are such parts, and
they are named in one line if and only if no name of them has a line feed. -/
structure Outcome.Reports (outcome : Outcome) (settings : Settings) (explain : Bool)
    (names : List String) (types : List Ty) : Prop where
  output : outcome.output =
    textOfLines (List.zipWith (linesOf settings explain) names types).flatten
  lines : ∀ line ∈ (List.zipWith (linesOf settings explain) names types).flatten, IsLine line
  blames : ∀ type ∈ types, type.classify settings ≠ .always → type.offending settings ≠ [] ∧
    ((blamedLines settings type).length = 1 ↔ ∀ part ∈ type.offending settings, IsLine part.name)
  exitCode : outcome.exitCode = if ∃ type ∈ types, type.classify settings ≠ .always then 1 else 0

theorem reports_ofEntries {types : List Ty} (same : names.length = types.length)
    (plain : ∀ name ∈ names, IsLine name)
    (blames : ∀ type ∈ types, type.classify settings ≠ .always → type.offending settings ≠ []) :
    (Outcome.ofEntries (List.zipWith (entryOf settings explain) names types)).Reports settings
      explain names types where
  output := join_text_entries names types
  lines := by
    intro line member
    obtain ⟨lines, inside, member⟩ := List.mem_flatten.mp member
    rw [← List.map_uncurry_zip_eq_zipWith, List.mem_map] at inside
    obtain ⟨⟨name, type⟩, paired, rfl⟩ := inside
    exact isLine_of_mem_linesOf (plain name (List.of_mem_zip paired).1) member
  blames type member finding := ⟨blames type member finding, length_blamedLines_eq_one_iff⟩
  exitCode := exitCode_ofEntries settings explain same

/-- The output, the exit code and the verdicts of a report agree. -/
theorem run_agrees_with_verdicts [Release] (read : Path → Except FileError (List UInt8))
    (words : List String) (arguments : Arguments) (settings : Settings)
    (asked : Request.ofWords words = .ok (.report arguments))
    (set : arguments.settings = .ok settings)
    (named : (Path.ofString arguments.stub).hasNull = false)
    (settled : ∀ fault, stubOf read arguments ≠ .error (.fault fault)) :
    (∃ options given, readOptions arguments.options = .ok options ∧
      Settings.ofOptions options = .ok given ∧
      settings = (if arguments.rejectFunctions then given.rejecting true else given).ignoring
        (arguments.ignored.map Text.ofString)) ∧
    ∃ outcome, run read words = .ok outcome ∧
      (outcome.exitCode = 2 ↔ ∀ module, stubOf read arguments = .ok module →
        ∃ name ∈ arguments.names, name ∉ module.names) ∧
      (outcome.exitCode = 2 → outcome.output = "") ∧
      ∀ module, stubOf read arguments = .ok module →
        (∀ name ∈ arguments.names, name ∈ module.names) →
        (listed module arguments.names).Nodup ∧
        ∃ types, List.Forall₂ (fun name type => module.value name = .ok type)
            (listed module arguments.names) types ∧
          outcome.Reports settings arguments.explain (listed module arguments.names) types := by
  refine ⟨settings_eq_ok_iff.mp set, ?_⟩
  by_cases reported : ∃ module, stubOf read arguments = .ok module ∧
      ∀ name ∈ arguments.names, name ∈ module.names
  · obtain ⟨module, loaded, annotated⟩ := reported
    obtain ⟨source, made⟩ := load_of_loadFile loaded
    obtain ⟨distinct, areWords⟩ := names_of_load made
    obtain ⟨types, each, ran⟩ := exists_run_of_annotated asked set named loaded distinct annotated
    have plain : ∀ name ∈ listed module arguments.names, IsLine name := fun name member =>
      isLine_of_isWord (areWords name (forall_listed_iff.mpr annotated name member))
    have report := @reports_ofEntries settings arguments.explain _ types each.length_eq plain
      fun type member finding =>
        have ⟨name, found⟩ := exists_name_of_mem member each
        offending_ne_nil_of_load made found finding
    have notTwo : (Outcome.ofEntries (List.zipWith (entryOf settings arguments.explain)
        (listed module arguments.names) types)).exitCode ≠ 2 := by
      rw [report.exitCode]
      split <;> decide
    refine ⟨_, ran, ⟨fun two => absurd two notTwo, fun unknown => ?_⟩,
      fun two => absurd two notTwo, ?_⟩
    · obtain ⟨name, inside, missing⟩ := unknown module loaded
      exact absurd (annotated name inside) missing
    · intro other same _
      obtain rfl := Except.ok.inj (loaded.symm.trans same)
      exact ⟨nodup_listed distinct, types, each, report⟩
  · push Not at reported
    have refused : ∃ message, run read words = .ok (.ofError message) := by
      cases loaded : stubOf read arguments with
      | ok module =>
          obtain ⟨name, inside, unknown⟩ := reported module loaded
          exact exists_run_of_unknown asked set named loaded inside unknown
      | error failure =>
          exact exists_run_of_unloaded asked set named settled (by simp [loaded])
    obtain ⟨message, ran⟩ := refused
    refine ⟨_, ran, ⟨fun _ => reported, fun _ => rfl⟩, fun _ => rfl, ?_⟩
    intro module loaded annotated
    obtain ⟨name, inside, unknown⟩ := reported module loaded
    exact absurd (annotated name inside) unknown

set_option maxRecDepth 100000 in
/-- Of two names one is a finding for a part that its line and the next one tell. A name that is
not annotated is an error, as is a stub that is missing. -/
theorem run_agrees_with_verdicts_explained :
    let _release : Release := .late
    let source : String := "class A: ...\nclass B:\n  def __str__(self): ...\nx: A | B\ny: B\n"
    let read : Path → Except FileError (List UInt8) := fun path =>
      if path.display = "b.pyi" then .ok (source.toList.map fun c => UInt8.ofNat c.toNat)
      else .error .notFound
    (∃ outcome module types, run read ["b.pyi", "--explain"] = .ok outcome ∧
      stubOf read ⟨"b.pyi", [], none, [], false, true⟩ = .ok module ∧ module.names = ["x", "y"] ∧
      List.Forall₂ (fun name type => module.value name = .ok type) ["x", "y"] types ∧
      outcome.Reports .default true ["x", "y"] types ∧ outcome.exitCode = 1 ∧
      outcome.output = textOfLines ["x: sometimes", "  offending: A", "y: always"]) ∧
    (∃ outcome, run read ["b.pyi", "x", "z"] = .ok outcome ∧ outcome.exitCode = 2 ∧
      outcome.output = "") ∧
    ∃ outcome, run read ["a.pyi"] = .ok outcome ∧ outcome.exitCode = 2 ∧ outcome.output = "" := by
  intro release source read
  have loaded (arguments : Arguments) (same : arguments.stub = "b.pyi") :
      ∃ module, stubOf read arguments = .ok module ∧ module.names = ["x", "y"] := by
    have seen : (loadFile (Path.ofString "b.pyi").display
        (read (Path.ofString "b.pyi"))).toOption.map Stub.Module.names = some ["x", "y"] := by
      decide +kernel
    rw [stubOf, same]
    exact toOption_map_eq_some_iff.mp seen
  refine ⟨?_, ?_, ?_⟩
  · obtain ⟨module, found, names⟩ := loaded ⟨"b.pyi", [], none, [], false, true⟩ rfl
    obtain ⟨-, outcome, ran, -, -, reported⟩ := run_agrees_with_verdicts read
      ["b.pyi", "--explain"] ⟨"b.pyi", [], none, [], false, true⟩ .default (by rfl) (by rfl)
      (by decide) (by simp [found])
    obtain ⟨-, types, each, report⟩ := reported module found (by simp)
    rw [listed, if_pos (by rfl), names] at each report
    have seen : (run read ["b.pyi", "--explain"]).toOption =
        some ⟨1, textOfLines ["x: sometimes", "  offending: A", "y: always"], ""⟩ := by
      decide +kernel
    rw [ran] at seen
    obtain rfl := Option.some.inj seen
    exact ⟨_, module, types, ran, found, names, each, report, rfl, rfl⟩
  · obtain ⟨module, found, names⟩ := loaded ⟨"b.pyi", ["x", "z"], none, [], false, false⟩ rfl
    obtain ⟨-, outcome, ran, two, nothing, -⟩ := run_agrees_with_verdicts read
      ["b.pyi", "x", "z"] ⟨"b.pyi", ["x", "z"], none, [], false, false⟩ .default (by rfl)
      (by rfl) (by decide) (by simp [found])
    have failed : outcome.exitCode = 2 := by
      refine two.mpr fun other same => ⟨"z", by simp, ?_⟩
      obtain rfl := Except.ok.inj (found.symm.trans same)
      simp [names]
    exact ⟨outcome, ran, failed, nothing failed⟩
  · have absent (arguments : Arguments) (same : arguments.stub = "a.pyi") :
        stubOf read arguments = .error (.unreadable .notFound) := by
      rw [stubOf, same]
      rfl
    obtain ⟨-, outcome, ran, two, nothing, -⟩ := run_agrees_with_verdicts read ["a.pyi"]
      ⟨"a.pyi", [], none, [], false, false⟩ .default (by rfl) (by rfl) (by decide)
      (by simp [absent])
    have failed : outcome.exitCode = 2 := two.mpr (by simp [absent])
    exact ⟨outcome, ran, failed, nothing failed⟩

set_option maxRecDepth 100000 in
/-- The layout of a formatted text is printed with its line feeds, so a part to blame with such a
name is named in several lines, of which one looks like a verdict. -/
theorem run_breaks_line_of_blamed :
    let _release : Release := .late
    let source : String := "class A: ...\nx: A[f'''\x7by:\ny: always\n\x7d''']\n"
    let read : Path → Except FileError (List UInt8) := fun _ =>
      .ok (source.toList.map fun c => UInt8.ofNat c.toNat)
    ∃ outcome module, run read ["t.py", "--explain"] = .ok outcome ∧
      stubOf read ⟨"t.py", [], none, [], false, true⟩ = .ok module ∧ module.names = ["x"] ∧
      outcome.exitCode = 1 ∧ outcome.output = textOfLines
        ["x: never", "  offending: A[f\"\"\"\x7by:", "y: always", "\x7d\"\"\"]"] := by
  intro release source read
  have seen : (run read ["t.py", "--explain"]).toOption.map
      (fun outcome => (outcome.exitCode, outcome.output)) = some (1, textOfLines
        ["x: never", "  offending: A[f\"\"\"\x7by:", "y: always", "\x7d\"\"\"]"]) := by
    decide +kernel
  have listed : (stubOf read ⟨"t.py", [], none, [], false, true⟩).toOption.map
      Stub.Module.names = some ["x"] := by
    decide +kernel
  obtain ⟨outcome, ran, seen⟩ := toOption_map_eq_some_iff.mp seen
  obtain ⟨module, loaded, names⟩ := toOption_map_eq_some_iff.mp listed
  obtain ⟨exitCode, output⟩ := Prod.mk.inj seen
  exact ⟨outcome, module, ran, loaded, names, exitCode, output⟩

end Stringify.CommandLine
