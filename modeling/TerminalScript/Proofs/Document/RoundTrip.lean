import TerminalScript.Proofs.Step.RoundTrip
import TerminalScript.Report
import TerminalScript.Sequence

/-!
Documents and reports are read back from what they are written as, whatever fields of other names
stand in any of their objects.
-/

namespace TerminalScript

open Json Document

section Parts

variable {α : Type} {reader : Reader α} {form : α → Value → Prop}

theorem list_of_listed {items : List α} {value : Value}
    (reads : ∀ item value, form item value → reader value = .ok item)
    (listed : Listed form items value) : list reader value = .ok items := by
  cases value with
  | array written =>
      refine mapM_eq_ok.mpr ?_
      exact (List.Forall₂.imp (fun item value holds => reads item value holds) listed).flip
  | _ => exact listed.elim

theorem listed_map {items : List α} {encode : α → Value}
    (forms : ∀ item ∈ items, form item (encode item)) :
    Listed form items (.array (items.map encode)) := by
  rw [Listed, List.forall₂_map_right_iff, List.forall₂_same]
  exact forms

theorem given_of_map {given : Option α} {encode : α → Value} {value : Value}
    (forms : ∀ item, form item (encode item)) (encoded : given.map encode = some value) :
    Given form given value := by
  obtain ⟨item, there, rfl⟩ := Option.map_eq_some_iff.mp encoded
  exact ⟨item, there, forms item⟩

variable {known : List String} {forms : List (String × (Value → Prop))}
  {own fields : List (String × Value)} {name : String}

theorem reads_nested_required {item : α} (encode : α → Value)
    (reads : ∀ value, form item value → reader value = .ok item)
    (shows : Shows known forms own fields) (inside : name ∈ known)
    (formed : forms.lookup name = some (form item)) (holds : Holds own name (some (encode item))) :
    (Record.required name reader).Reads fields item := by
  obtain ⟨_, held, related⟩ := shows.holds_form inside formed holds
  cases related with
  | @some _ value written => exact Record.reads_required held (reads value written)

theorem reads_nested_defaulted {item default : α} (encode : α → Value)
    (reads : ∀ value, form item value → reader value = .ok item)
    (shows : Shows known forms own fields) (inside : name ∈ known)
    (formed : forms.lookup name = some (form item)) (holds : Holds own name (some (encode item))) :
    (Record.defaulted name reader default).Reads fields item := by
  obtain ⟨_, held, related⟩ := shows.holds_form inside formed holds
  cases related with
  | @some _ value written => exact Record.reads_defaulted held (reads value written)

theorem reads_nested_optional {given : Option α} (encode : α → Value)
    (reads : ∀ item value, form item value → reader value = .ok item ∧ value ≠ .null)
    (shows : Shows known forms own fields) (inside : name ∈ known)
    (formed : forms.lookup name = some (Given form given))
    (holds : Holds own name (given.map encode)) :
    (Record.optional name reader).Reads fields given := by
  obtain ⟨other, held, related⟩ := shows.holds_form inside formed holds
  refine Record.reads_defaulted held ?_
  cases given with
  | none =>
      cases related
      rfl
  | some item =>
      cases related with
      | @some _ value holds =>
          obtain ⟨_, ⟨⟩, holds⟩ := holds
          obtain ⟨read, present⟩ := reads item value holds
          exact nullable_of_ne_null present read

end Parts

namespace Matcher

def Written (matcher : Matcher) : Value → Prop :=
  Widened record.names [] matcher.toJson

theorem toFields_distinct (matcher : Matcher) : (matcher.toFields.map Prod.fst).Nodup :=
  List.Nodup.sublist matcher.toFields_names (by decide)

theorem written_toJson (matcher : Matcher) : matcher.Written matcher.toJson :=
  .refl_ofFields (by simp)

theorem read_of_written {matcher : Matcher} {value : Value} (written : matcher.Written value) :
    read value = .ok matcher ∧ value ≠ .null := by
  obtain ⟨fields, rfl, shows⟩ := Widened.ofFields matcher.toFields_distinct written
  exact ⟨Record.readFields_eq_ok.mpr (reads shows.agree), by simp⟩

end Matcher

theorem SchemaVersion.codec : Codec read (.text ∘ name) :=
  .choice fun value => by cases value; rfl

theorem BackendKind.codec : Codec (choice false named) (.text ∘ name) :=
  .choice fun value => by cases value <;> rfl

namespace LaunchSpec

def Written (launch : LaunchSpec) : Value → Prop :=
  Widened record.names
    [("readyMatcher", Given Matcher.Written launch.readyMatcher)]
    launch.toJson

theorem written_toJson (launch : LaunchSpec) : launch.Written launch.toJson := by
  refine .refl_ofFields ?_
  rintro form (_ | ⟨_, ⟨⟩⟩) value member
  have encoded : launch.readyMatcher.map Matcher.toJson = some value := by simpa using member
  exact given_of_map Matcher.written_toJson encoded

theorem read_of_written {launch : LaunchSpec} {value : Value} (written : launch.Written value) :
    read value = .ok launch := by
  obtain ⟨command, args, cwd, backend, cols, rows, startup, matcher⟩ := launch
  obtain ⟨fields, rfl, shows⟩ := Widened.ofFields (by
    simp only [List.append_assoc, List.cons_append, List.nil_append]
    exact List.Nodup.sublist (field_cons_names (field_cons_names (optionalField_append_names
      (field_cons_names (optionalField_append_names (optionalField_append_names
        (optionalField_append_names optionalField_names))))))) (by decide)) written
  refine Record.readFields_eq_ok.mpr (.seq (.seq (.seq (.seq (.seq (.seq (.seq (.map mk
    (Codec.text.reads_required ?_)) (Codec.texts.reads_defaulted ?_))
    (Codec.path.reads_optional ?_)) (BackendKind.codec.reads_required ?_))
    (Codec.word16.reads_optional ?_)) (Codec.word16.reads_optional ?_))
    (Codec.milliseconds.reads_optional ?_)) (reads_nested_optional Matcher.toJson
      (fun _ _ => Matcher.read_of_written) shows (by decide) rfl (by simp [Holds])))
  all_goals exact shows.holds (by decide) rfl (by simp [Holds, @eq_comm Value])

end LaunchSpec

namespace ScenarioDefaults

def Written (defaults : ScenarioDefaults) : Value → Prop :=
  Widened record.names [] defaults.toJson

theorem written_toJson (defaults : ScenarioDefaults) : defaults.Written defaults.toJson :=
  .refl_ofFields (by simp)

theorem read_of_written {defaults : ScenarioDefaults} {value : Value}
    (written : defaults.Written value) : read value = .ok defaults := by
  obtain ⟨wait, poll, lines, post⟩ := defaults
  obtain ⟨fields, rfl, shows⟩ := Widened.ofFields (by
    simp only [List.append_assoc]
    exact List.Nodup.sublist (optionalField_append_names (optionalField_append_names
      (optionalField_append_names optionalField_names))) (by decide)) written
  refine Record.readFields_eq_ok.mpr (.seq (.seq (.seq (.map mk
    (Codec.milliseconds.reads_optional ?_)) (Codec.milliseconds.reads_optional ?_))
    (Codec.count.reads_optional ?_)) (Codec.milliseconds.reads_optional ?_))
  all_goals exact shows.holds (by decide) rfl (by simp [Holds])

end ScenarioDefaults

namespace ArtifactSettings

def Written (settings : ArtifactSettings) : Value → Prop :=
  Widened record.names [] settings.toJson

theorem written_toJson (settings : ArtifactSettings) : settings.Written settings.toJson :=
  .refl_ofFields (by simp)

theorem read_of_written {settings : ArtifactSettings} {value : Value}
    (written : settings.Written value) : read value = .ok settings := by
  obtain ⟨report, directory, redact, patterns⟩ := settings
  rw [Written, toJson, unlessEmpty_eq] at written
  obtain ⟨fields, rfl, shows⟩ := Widened.ofFields (by
    simp only [List.append_assoc, List.cons_append, List.nil_append]
    exact List.Nodup.sublist (optionalField_append_names (optionalField_append_names
      (field_cons_names optionalField_names))) (by decide)) written
  refine Record.readFields_eq_ok.mpr (.seq (.seq (.seq (.map mk
    (Codec.text.reads_optional ?_)) (Codec.path.reads_optional ?_))
    (Codec.boolean.reads_defaulted ?_)) (Codec.texts.reads_unless_empty ?_))
  all_goals exact shows.holds (by decide) rfl (by simp [Holds, @eq_comm Value])

end ArtifactSettings

namespace Scenario

def Written (scenario : Scenario) : Value → Prop :=
  Widened record.names [("launch", scenario.launch.Written),
    ("defaults", scenario.defaults.Written), ("artifacts", scenario.artifacts.Written)]
    scenario.toJson

theorem written_toJson (scenario : Scenario) : scenario.Written scenario.toJson :=
  .refl_ofFields (by simp [LaunchSpec.written_toJson, ScenarioDefaults.written_toJson,
    ArtifactSettings.written_toJson])

theorem read_of_written {scenario : Scenario} {value : Value}
    (written : scenario.Written value) : read value = .ok scenario := by
  obtain ⟨version, name, launch, defaults, artifacts, order⟩ := scenario
  obtain ⟨fields, rfl, shows⟩ := Widened.ofFields (by simp) written
  refine Record.readFields_eq_ok.mpr (.seq (.seq (.seq (.seq (.seq (.map mk
    (SchemaVersion.codec.reads_required ?_)) (Codec.text.reads_required ?_))
    (reads_nested_required LaunchSpec.toJson (fun _ => LaunchSpec.read_of_written) shows
      (by decide) rfl ?_))
    (reads_nested_defaulted ScenarioDefaults.toJson (fun _ => ScenarioDefaults.read_of_written)
      shows (by decide) rfl ?_))
    (reads_nested_defaulted ArtifactSettings.toJson (fun _ => ArtifactSettings.read_of_written)
      shows (by decide) rfl ?_))
    (Codec.texts.reads_required ?_))
  case refine_3 | refine_4 | refine_5 => simp [Holds, @eq_comm Value]
  all_goals exact shows.holds (by decide) rfl (by simp [Holds, @eq_comm Value])

end Scenario

namespace Sequence

def Written (sequence : Sequence) : Value → Prop :=
  Widened record.names
    [("ensure", Given Matcher.Written sequence.ensure),
      ("steps", Listed Step.Written sequence.steps)] sequence.toJson

theorem written_toJson (sequence : Sequence) : sequence.Written sequence.toJson := by
  refine .refl_ofFields ?_
  rintro form (_ | ⟨_, _ | ⟨_, ⟨⟩⟩⟩) value member
  · have encoded : sequence.ensure.map Matcher.toJson = some value := by simpa using member
    exact given_of_map Matcher.written_toJson encoded
  · have encoded : value = .array (sequence.steps.map Step.toJson) := by simpa using member
    rw [encoded]
    exact listed_map fun step _ => step.written_toJson

theorem read_of_written {sequence : Sequence} {value : Value}
    (written : sequence.Written value) : read value = .ok sequence := by
  obtain ⟨version, name, prerequisites, ensure, steps⟩ := sequence
  rw [Written, toJson, unlessEmpty_eq] at written
  obtain ⟨fields, rfl, shows⟩ := Widened.ofFields (by
    simp only [List.append_assoc, List.cons_append, List.nil_append]
    exact List.Nodup.sublist (field_cons_names (field_cons_names (optionalField_append_names
      (optionalField_append_names (field_cons_names (.refl _)))))) (by decide)) written
  refine Record.readFields_eq_ok.mpr (.seq (.seq (.seq (.seq (.map mk
    (SchemaVersion.codec.reads_required ?_)) (Codec.text.reads_required ?_))
    (Codec.texts.reads_unless_empty ?_))
    (reads_nested_optional Matcher.toJson (fun _ _ => Matcher.read_of_written) shows (by decide)
      rfl (by simp [Holds])))
    (reads_nested_required (fun steps => .array (steps.map Step.toJson))
      (fun _ => list_of_listed fun _ _ => Step.read_of_written) shows (by decide) rfl
      (by simp [Holds, @eq_comm Value])))
  all_goals exact shows.holds (by decide) rfl (by simp [Holds, @eq_comm Value])

end Sequence

namespace MacroFile

def Written (file : MacroFile) : Value → Prop :=
  Widened record.names [("macros", Mapped (Listed Step.Written) file.macros)] file.toJson

theorem written_toJson (file : MacroFile) : file.Written file.toJson :=
  .refl_ofFields (by simp [Mapped, listed_map, Step.written_toJson])

theorem readMacros_of_mapped {macros : List (String × List Step)} {value : Value}
    (mapped : Mapped (Listed Step.Written) macros value) : readMacros value = .ok macros := by
  cases value with
  | object written =>
      refine mapM_eq_ok.mpr (List.Forall₂.flip (List.Forall₂.imp ?_ mapped))
      rintro ⟨name, steps⟩ ⟨other, value⟩ ⟨same, listed⟩
      dsimp only at same listed
      subst same
      exact bind_eq_ok.mpr ⟨steps, list_of_listed (fun _ _ => Step.read_of_written) listed, rfl⟩
  | _ => exact mapped.elim

theorem read_of_written {file : MacroFile} {value : Value} (written : file.Written value) :
    read value = .ok file := by
  obtain ⟨version, macros⟩ := file
  obtain ⟨fields, rfl, shows⟩ := Widened.ofFields (by simp) written
  refine Record.readFields_eq_ok.mpr (.seq (.map mk (SchemaVersion.codec.reads_required ?_))
    (reads_nested_required (fun macros => .object (macros.map fun entry =>
      (entry.1, .array (entry.2.map Step.toJson)))) (fun _ => readMacros_of_mapped) shows
      (by decide) rfl (by simp [Holds, @eq_comm Value])))
  exact shows.holds (by decide) rfl (by simp [Holds, @eq_comm Value])

end MacroFile

theorem RunStatus.codec : Codec read (.text ∘ name) :=
  .choice fun value => by cases value <;> rfl

namespace StepResult

def Written (result : StepResult) : Value → Prop :=
  Widened record.names [] result.toJson

theorem written_toJson (result : StepResult) : result.Written result.toJson :=
  .refl_object (by simp)

theorem read_of_written {result : StepResult} {value : Value} (written : result.Written value) :
    read value = .ok result := by
  obtain ⟨id, stepType, status, duration, error⟩ := result
  obtain ⟨fields, rfl, shows⟩ := Widened.object
    ((optionalField_append_names (.refl _)).nodup (by simp)) written
  have failure : Holds fields "error" (some ((error.map Value.text).getD .null)) :=
    shows.holds (by decide) rfl (by simp [Holds, @eq_comm Value])
  refine Record.readFields_eq_ok.mpr (.seq (.seq (.seq (.seq (.map mk
    (Codec.text.reads_optional ?_)) (Codec.text.reads_required ?_))
    (RunStatus.codec.reads_required ?_)) (Codec.milliseconds.reads_required ?_))
    (Record.reads_expected failure (by cases error <;> rfl)))
  all_goals exact shows.holds (by decide) rfl (by simp [Holds, @eq_comm Value])

end StepResult

namespace SequenceResult

def Written (result : SequenceResult) : Value → Prop :=
  Widened record.names [("steps", Listed StepResult.Written result.steps)] result.toJson

theorem written_toJson (result : SequenceResult) : result.Written result.toJson :=
  .refl_object (by simp [listed_map, StepResult.written_toJson])

theorem read_of_written {result : SequenceResult} {value : Value}
    (written : result.Written value) : read value = .ok result := by
  obtain ⟨name, status, duration, steps, artifacts⟩ := result
  obtain ⟨fields, rfl, shows⟩ := Widened.object (by simp) written
  refine Record.readFields_eq_ok.mpr (.seq (.seq (.seq (.seq (.map mk
    (Codec.text.reads_required ?_)) (RunStatus.codec.reads_required ?_))
    (Codec.milliseconds.reads_required ?_))
    (reads_nested_required (fun steps => .array (steps.map StepResult.toJson))
      (fun _ => list_of_listed fun _ _ => StepResult.read_of_written) shows (by decide) rfl
      (by simp [Holds, @eq_comm Value])))
    (Codec.texts.reads_required ?_))
  all_goals exact shows.holds (by decide) rfl (by simp [Holds, @eq_comm Value])

end SequenceResult

namespace RunReport

def Written (report : RunReport) : Value → Prop :=
  Widened record.names [("sequences", Listed SequenceResult.Written report.sequences)]
    report.toJson

theorem written_toJson (report : RunReport) : report.Written report.toJson :=
  .refl_object (by simp [listed_map, SequenceResult.written_toJson])

theorem read_of_written {report : RunReport} {value : Value} (written : report.Written value) :
    read value = .ok report := by
  obtain ⟨version, scenario, started, finished, status, sequences⟩ := report
  obtain ⟨fields, rfl, shows⟩ := Widened.object (by simp) written
  refine Record.readFields_eq_ok.mpr (.seq (.seq (.seq (.seq (.seq (.map mk
    (SchemaVersion.codec.reads_required ?_)) (Codec.text.reads_required ?_))
    (Codec.text.reads_required ?_)) (Codec.text.reads_required ?_))
    (RunStatus.codec.reads_required ?_))
    (reads_nested_required (fun sequences => .array (sequences.map SequenceResult.toJson))
      (fun _ => list_of_listed fun _ _ => SequenceResult.read_of_written) shows (by decide) rfl
      (by simp [Holds, @eq_comm Value])))
  all_goals exact shows.holds (by decide) rfl (by simp [Holds, @eq_comm Value])

end RunReport

theorem readDocument_eq_ok {α : Type} {name : String} {reader : Reader α}
    {check : α → Checked Unit} {value : Value} {document : α} :
    readDocument name reader check value = .ok document ↔
      reader value = .ok document ∧ check document = .ok () := by
  rw [readDocument, mapError_eq_ok, bind_eq_ok]
  constructor
  · rintro ⟨found, read, checked⟩
    obtain ⟨checked, same⟩ := check_bind_eq_ok.mp checked
    cases same
    exact ⟨mapError_eq_ok.mp read, checked⟩
  · rintro ⟨read, checked⟩
    exact ⟨document, mapError_eq_ok.mpr read, check_bind_eq_ok.mpr ⟨checked, rfl⟩⟩

theorem Step.ofJson_eq_ok {value : Value} {step : Step} :
    Step.ofJson value = .ok step ↔ Step.read value = .ok step ∧ step.check = .ok () := by
  rw [Step.ofJson, bind_eq_ok]
  constructor
  · rintro ⟨found, read, checked⟩
    obtain ⟨checked, same⟩ := check_bind_eq_ok.mp checked
    cases same
    exact ⟨mapError_eq_ok.mp read, checked⟩
  · rintro ⟨read, checked⟩
    exact ⟨step, mapError_eq_ok.mpr read, check_bind_eq_ok.mpr ⟨checked, rfl⟩⟩

/-- A document is decoded from its encoding, and from whatever else it can be written as. -/
def Recovered {ε α : Type} (decode : Value → Except ε α) (encode : α → Value)
    (Written : α → Value → Prop) (document : α) : Prop :=
  decode (encode document) = .ok document ∧
    ∀ value, Written document value → decode value = .ok document

theorem recovered {ε α : Type} {decode : Value → Except ε α} {encode : α → Value}
    {Written : α → Value → Prop} {document : α} (encoded : Written document (encode document))
    (decoded : ∀ value, Written document value → decode value = .ok document) :
    Recovered decode encode Written document :=
  ⟨decoded _ encoded, decoded⟩

/-- Documents that keep their rules, and all reports, are read back from their encodings, also with
fields of other names in any of their objects. -/
theorem decode_encode :
    (∀ step : Step, step.check = .ok () →
      Recovered Step.ofJson Step.toJson Step.Written step) ∧
    (∀ sequence : Sequence, sequence.check = .ok () →
      Recovered Sequence.ofJson Sequence.toJson Sequence.Written sequence) ∧
    (∀ file : MacroFile, file.check = .ok () →
      Recovered MacroFile.ofJson MacroFile.toJson MacroFile.Written file) ∧
    (∀ scenario : Scenario, scenario.check = .ok () →
      Recovered Scenario.ofJson Scenario.toJson Scenario.Written scenario) ∧
    ∀ report : RunReport, Recovered RunReport.read RunReport.toJson RunReport.Written report := by
  refine ⟨fun step checked => ?_, fun sequence checked => ?_, fun file checked => ?_,
    fun scenario checked => ?_, fun report => ?_⟩
  · exact recovered step.written_toJson fun _ written =>
      Step.ofJson_eq_ok.mpr ⟨Step.read_of_written written, checked⟩
  · exact recovered sequence.written_toJson fun _ written =>
      readDocument_eq_ok.mpr ⟨Sequence.read_of_written written, checked⟩
  · exact recovered file.written_toJson fun _ written =>
      readDocument_eq_ok.mpr ⟨MacroFile.read_of_written written, checked⟩
  · exact recovered scenario.written_toJson fun _ written =>
      readDocument_eq_ok.mpr ⟨Scenario.read_of_written written, checked⟩
  · exact recovered report.written_toJson fun _ => RunReport.read_of_written

/-- A step that also has a comment, and documents around it. -/
theorem decode_encode_of_expect :
    let step := Step.ofKind (.expect (.ofText "ready"))
    let sequence : Sequence := { name := "look", ensure := some (.ofText "$"), steps := [step] }
    let file : MacroFile := { macros := [("look", [step])] }
    let scenario : Scenario :=
      { name := "demo", launch := { command := "shell", backend := .pty },
        sequenceOrder := ["look"] }
    Step.ofJson (.object
        [("comment", .null), ("type", .text "expect"), ("contains", .text "ready")]) = .ok step ∧
      Sequence.ofJson sequence.toJson = .ok sequence ∧ MacroFile.ofJson file.toJson = .ok file ∧
      Scenario.ofJson scenario.toJson = .ok scenario := by
  intro step sequence file scenario
  obtain ⟨steps, sequences, files, scenarios, _⟩ := decode_encode
  refine ⟨(steps step rfl).2 _ ?_, (sequences sequence rfl).1, (files file rfl).1,
    (scenarios scenario rfl).1⟩
  -- The encoding is sorted by name; how its fields stand does not matter.
  refine Widened.of_perm (sortFields_perm step.fields_distinct)
    ⟨[("type", .text "expect"), ("contains", .text "ready")], [("comment", .null)], ?_, ?_, ?_⟩
  · exact .cons ⟨rfl, rfl⟩ (.cons ⟨rfl, rfl⟩ .nil)
  · intro field member
    rw [List.mem_singleton.mp member]
    exact of_decide_eq_true rfl
  · exact (List.perm_append_singleton _ _).symm

end TerminalScript
