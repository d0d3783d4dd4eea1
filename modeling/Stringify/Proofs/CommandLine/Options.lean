import Stringify.Proofs.CommandLine.Report
import Stringify.Proofs.Settings.Refusals

/-!
# Options on the command line

The text of the options may be anything. Either settings come of it, and the command carries on with
them, or it is a mistake of the user, which the command reports, or no set can be made of the names
in it, which stops the command.
-/

namespace Stringify.CommandLine

open Settings (Refuses LacksSet)

variable {arguments : Arguments} {settings : Settings} {words : List String} {text : String}
variable {options : Json} {error : OptionsError}
variable {read : Path → Except FileError (List UInt8)}

/-! ## Mistakes -/

/-- The text of the options is a mistake of the user, with the message about it. -/
inductive IsMistake (text : String) : String → Prop where
  | unreadable {error : Json.ReadError} (failed : Json.read text.toList = .error error) :
      IsMistake text (error.message text.toList)
  | noObject {document : Json} (read : Json.read text.toList = .ok document)
      (given : document ≠ .scalar .null) (other : ∀ fields, document ≠ .object fields) :
      IsMistake text "options must be a JSON object"
  | refused {options : Json} {error : OptionsError} (read : Json.read text.toList = .ok options)
      (refuses : Refuses options error) : IsMistake text error.message

theorem readOptions_cases (text : String) :
    (∃ message, IsMistake text message ∧ readOptions (some text) = .error (.badOptions message)) ∨
    (Json.read text.toList = .ok .null ∧ readOptions (some text) = .ok none) ∨
    ∃ options, Json.read text.toList = .ok options ∧
      readOptions (some text) = .ok (some options) := by
  simp only [readOptions]
  cases found : Json.read text.toList with
  | error error => exact .inl ⟨_, .unreadable found, rfl⟩
  | ok document =>
      dsimp only
      unfold requireObject
      split
      · exact .inr (.inl ⟨rfl, rfl⟩)
      · next fields => exact .inr (.inr ⟨_, rfl, rfl⟩)
      · next given other => exact .inl ⟨_, .noObject found given other, rfl⟩

theorem readOptions_of_lacksSet (found : Json.read text.toList = .ok options)
    (lacks : LacksSet options error) : readOptions (some text) = .ok (some options) := by
  obtain ⟨value, names, -⟩ := lacks.names
  simp only [readOptions, found]
  cases options with
  | object fields => rfl
  | scalar value | text name | list items => cases names

theorem settingsOf_of_lacksSet (lacks : LacksSet options error) :
    settingsOf (some options) = .error (.crash (.options error)) := by
  obtain ⟨_, _, _, nothing⟩ := lacks.names
  simp only [settingsOf, Settings.ofOptions_of_lacksSet lacks]
  cases nothing <;> rfl

theorem settingsOf_of_refuses (refuses : Refuses options error) :
    settingsOf (some options) = .error (.usage (.badOptions error.message)) := by
  simp only [settingsOf, Settings.ofOptions_of_refuses refuses]
  cases refuses <;> rfl

/-- Options either give settings, are refused or lack a set of names. -/
theorem settingsOf_cases (options : Json) :
    (∃ given, settingsOf (some options) = .ok given) ∨
    (∃ error, Refuses options error ∧
      settingsOf (some options) = .error (.usage (.badOptions error.message))) ∨
    ∃ error, LacksSet options error ∧
      settingsOf (some options) = .error (.crash (.options error)) := by
  cases found : Settings.ofOptions (some options) with
  | ok given =>
      refine .inl ⟨given, ?_⟩
      simp only [settingsOf, found]
  | error error =>
      rcases Settings.ofOptions_eq_error_iff.mp found with refuses | lacks
      · exact .inr (.inl ⟨error, refuses, settingsOf_of_refuses refuses⟩)
      · exact .inr (.inr ⟨error, lacks, settingsOf_of_lacksSet lacks⟩)

/-! ## Settings -/

/-- When the options fail to give settings, so do the arguments. -/
theorem settings_eq_error_of_settingsOf {options : Option Json} {failure : SettingsFailure}
    (found : readOptions arguments.options = .ok options)
    (failed : settingsOf options = .error failure) : arguments.settings = .error failure := by
  simp only [Arguments.settings, found]
  exact bind_eq_error_iff.mpr (.inr ⟨options, rfl, bind_eq_error_iff.mpr (.inl failed)⟩)

theorem exists_settings_of_settingsOf {options : Option Json} {given : Settings}
    (found : readOptions arguments.options = .ok options) (built : settingsOf options = .ok given) :
    ∃ settings, arguments.settings = .ok settings := by
  simp only [Arguments.settings, found]
  exact ⟨_, bind_eq_ok_iff.mpr ⟨options, rfl, bind_eq_ok_iff.mpr ⟨given, built, rfl⟩⟩⟩

/-- The arguments give settings, or the text of the options is a mistake, or its names make no
set. -/
theorem settings_cases (asked : arguments.options = some text) :
    (∃ settings, arguments.settings = .ok settings) ∨
    (∃ message, IsMistake text message ∧
      arguments.settings = .error (.usage (.badOptions message))) ∨
    ∃ options error, Json.read text.toList = .ok options ∧ LacksSet options error ∧
      arguments.settings = .error (.crash (.options error)) := by
  rcases readOptions_cases text with ⟨message, mistake, failed⟩ | ⟨-, found⟩ |
    ⟨options, read, found⟩
  · refine .inr (.inl ⟨message, mistake, ?_⟩)
    rw [← asked] at failed
    simp only [Arguments.settings, failed]
    rfl
  · rw [← asked] at found
    exact .inl (exists_settings_of_settingsOf found rfl)
  · rw [← asked] at found
    rcases settingsOf_cases options with ⟨given, built⟩ | ⟨error, refuses, failed⟩ |
      ⟨error, lacks, failed⟩
    · exact .inl (exists_settings_of_settingsOf found built)
    · exact .inr (.inl ⟨_, .refused read refuses, settings_eq_error_of_settingsOf found failed⟩)
    · exact .inr (.inr ⟨options, error, read, lacks, settings_eq_error_of_settingsOf found failed⟩)

/-- Names that make no set stop the command. -/
theorem settings_of_lacksSet (asked : arguments.options = some text)
    (found : Json.read text.toList = .ok options) (lacks : LacksSet options error) :
    arguments.settings = .error (.crash (.options error)) := by
  refine settings_eq_error_of_settingsOf ?_ (settingsOf_of_lacksSet lacks)
  rw [asked]
  exact readOptions_of_lacksSet found lacks

/-! ## Runs -/

theorem ofUsage_badOptions (message : String) : Outcome.ofUsage (.badOptions message) =
    ⟨2, "", "basestr: error: " ++ ("bad --options: " ++ message) ++ "\n"⟩ := rfl

section Runs

variable [Release]

/-- What the command does once it has settings. -/
def carryOn (read : Path → Except FileError (List UInt8)) (arguments : Arguments)
    (settings : Settings) : Except Crash Outcome :=
  let path := Path.ofString arguments.stub
  if path.hasNull then .error .nullInPath
  else outcomeOf path (report arguments settings (read path))

theorem run_of_settings (asked : Request.ofWords words = .ok (.report arguments))
    (set : arguments.settings = .ok settings) :
    run read words = carryOn read arguments settings := by
  simp only [run, asked, set, carryOn]
  split
  · rfl
  · cases report arguments settings (read (Path.ofString arguments.stub)) with
    | ok entries => rfl
    | error failure => cases failure <;> rfl

theorem carryOn_ne_options (error : OptionsError) :
    carryOn read arguments settings ≠ .error (.options error) := by
  unfold carryOn
  dsimp only
  split
  · simp
  · cases report arguments settings (read (Path.ofString arguments.stub)) with
    | ok entries => simp [outcomeOf]
    | error failure => cases failure <;> simp [outcomeOf]

end Runs

/-- Whatever the text of the options is, the command carries on with the settings that it gives, or
reports the mistake in it and ends with 2, or is stopped. It is stopped exactly when nothing is
wrong with the options but the names, of which no set can be made. -/
theorem run_settles_options [Release] (read : Path → Except FileError (List UInt8))
    (words : List String) (arguments : Arguments) (text : String)
    (asked : Request.ofWords words = .ok (.report arguments))
    (given : arguments.options = some text) :
    ((∃ settings, (∃ options built, readOptions (some text) = .ok options ∧
        Settings.ofOptions options = .ok built ∧
        settings = (if arguments.rejectFunctions then built.rejecting true else built).ignoring
          (arguments.ignored.map Text.ofString)) ∧
        run read words = carryOn read arguments settings) ∨
      (∃ message, IsMistake text message ∧ run read words =
        .ok ⟨2, "", "basestr: error: " ++ ("bad --options: " ++ message) ++ "\n"⟩) ∨
      ∃ error, run read words = .error (.options error)) ∧
    ∀ error, run read words = .error (.options error) ↔
      ∃ options, Json.read text.toList = .ok options ∧ LacksSet options error := by
  constructor
  · rcases settings_cases given with ⟨settings, set⟩ | ⟨message, mistake, failed⟩ |
      ⟨options, error, -, -, failed⟩
    · refine .inl ⟨settings, ?_, run_of_settings asked set⟩
      rw [← given]
      exact settings_eq_ok_iff.mp set
    · refine .inr (.inl ⟨message, mistake, ?_⟩)
      rw [← ofUsage_badOptions]
      simp only [run, asked, failed]
    · refine .inr (.inr ⟨error, ?_⟩)
      simp only [run, asked, failed]
  · intro error
    constructor
    · intro stopped
      rcases settings_cases given with ⟨settings, set⟩ | ⟨message, mistake, failed⟩ |
        ⟨options, other, found, lacks, failed⟩
      · rw [run_of_settings asked set] at stopped
        exact absurd stopped (carryOn_ne_options error)
      · simp only [run, asked, failed] at stopped
        cases stopped
      · simp only [run, asked, failed] at stopped
        cases stopped
        exact ⟨options, found, lacks⟩
    · rintro ⟨options, found, lacks⟩
      simp only [run, asked, settings_of_lacksSet given found lacks]

/-- Options with a number in the place of the names. -/
def numberAsNames : String :=
  "\x7b\"ignoredTypeNames\": 5\x7d"

theorem read_numberAsNames : Json.read numberAsNames.toList =
    .ok (.object [(.ofString "ignoredTypeNames", .scalar (.int 5))]) := by
  cbv

theorem lacksSet_numberAsNames :
    LacksSet (.object [(.ofString "ignoredTypeNames", .scalar (.int 5))])
      (.notACollection "int") where
  flag value given := by
    have absent : Json.field? (.object [(.ofString "ignoredTypeNames", .scalar (.int 5))])
        "rejectFunctions" = none := by
      cbv
    rw [absent] at given
    cases given
  names := ⟨.scalar (.int 5), by cbv, by simp, .scalar (.int 5)⟩

/-- A list in the place of the options is reported; a number in the place of the names stops the
command. -/
theorem run_settles_options_list :
    let _release : Release := .late
    let empty : Path → Except FileError (List UInt8) := fun _ => .ok []
    (∃ message, run empty ["stub.pyi", "--options", "[]"] =
      .ok ⟨2, "", "basestr: error: " ++ ("bad --options: " ++ message) ++ "\n"⟩) ∧
    run empty ["stub.pyi", "--options", numberAsNames] =
      .error (.options (.notACollection "int")) := by
  intro release empty
  constructor
  · obtain ⟨cases, stopped⟩ := run_settles_options empty ["stub.pyi", "--options", "[]"]
      ⟨"stub.pyi", [], some "[]", [], false, false⟩ "[]" (by rfl) rfl
    have list : Json.read "[]".toList = .ok (.list []) := by cbv
    rcases cases with ⟨_, ⟨options, _, found, _⟩, _⟩ | ⟨message, -, reported⟩ | ⟨error, ran⟩
    · simp only [readOptions, list, requireObject] at found
      cases found
    · exact ⟨message, reported⟩
    · obtain ⟨options, found, lacks⟩ := (stopped error).mp ran
      obtain rfl := Except.ok.inj (list.symm.trans found)
      obtain ⟨value, names, -⟩ := lacks.names
      cases names
  · obtain ⟨-, stopped⟩ := run_settles_options empty ["stub.pyi", "--options", numberAsNames]
      ⟨"stub.pyi", [], some numberAsNames, [], false, false⟩ numberAsNames (by rfl) rfl
    exact (stopped _).mpr ⟨_, read_numberAsNames, lacksSet_numberAsNames⟩

/-- A number in the place of the names is not reported as a mistake, and no settings come of it. -/
theorem run_unsettled_of_number :
    let _release : Release := .late
    let empty : Path → Except FileError (List UInt8) := fun _ => .ok []
    ∃ arguments, Request.ofWords ["stub.pyi", "--options", numberAsNames] =
        .ok (.report arguments) ∧ arguments.options = some numberAsNames ∧
      ¬((∃ settings, arguments.settings = .ok settings) ∨
        ∃ message, run empty ["stub.pyi", "--options", numberAsNames] =
          .ok ⟨2, "", "basestr: error: " ++ ("bad --options: " ++ message) ++ "\n"⟩) := by
  intro release empty
  have asked : Request.ofWords ["stub.pyi", "--options", numberAsNames] =
      .ok (.report ⟨"stub.pyi", [], some numberAsNames, [], false, false⟩) := by rfl
  refine ⟨_, asked, rfl, ?_⟩
  have failed : Arguments.settings ⟨"stub.pyi", [], some numberAsNames, [], false, false⟩ =
      .error (.crash (.options (.notACollection "int"))) :=
    settings_of_lacksSet rfl read_numberAsNames lacksSet_numberAsNames
  rintro (⟨settings, set⟩ | ⟨message, reported⟩)
  · rw [failed] at set
    cases set
  · simp only [run, asked, failed] at reported
    cases reported

end Stringify.CommandLine
