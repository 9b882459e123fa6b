import TerminalScript.Proofs.Capture.Files
import TerminalScript.Proofs.Run.ShortCircuit

/-!
The artifacts of a run. Each passed capture that has somewhere to go stores one file, right in the
directory it goes to, and adds its path to the artifacts of the sequence; no other step stores a
file or adds a path. So the artifacts of a result are told by its steps.
-/

namespace TerminalScript

variable {σ : Type}

structure Shot where
  directory : String
  name : String
  deriving Inhabited, DecidableEq

namespace Shot

def path (shot : Shot) : String :=
  Path.join shot.directory shot.name

structure Leads (files : Files) (shot : Shot) (place : Files.Location) : Prop where
  plain : Path.Plain shot.name
  names : Path.names shot.path = Path.names shot.directory ++ [shot.name]
  absolute : Path.isAbsolute shot.path = Path.isAbsolute shot.directory
  located : files.locate shot.path = .ok place
  inside : ∃ base, files.reach shot.directory = .ok base ∧ place = base ++ [shot.name]

theorem Leads.of_locate {files : Files} {shot : Shot} {place : Files.Location}
    (plain : Path.Plain shot.name) (located : files.locate shot.path = .ok place) :
    shot.Leads files place where
  plain := plain
  names := Path.names_join shot.directory plain
  absolute := Path.isAbsolute_join shot.directory plain
  located := located
  inside := Files.locate_join plain located

theorem Leads.grow {before after : Files} {places : List Files.Location} {shot : Shot}
    {place : Files.Location} (leads : shot.Leads before place)
    (grew : before.Grew after places) : shot.Leads after place :=
  .of_locate leads.plain (grew.locate leads.located)

end Shot

def CaptureWriter.shot? (writer : CaptureWriter) (sequence : String) (step : Step) (index : Nat) :
    Option Shot :=
  match step.kind with
  | .capture name format =>
      (writer.targetDirectory step.common.capturesDir).map fun directory =>
        { directory
          name := writer.fileName sequence
            (Interpreter.captureLabel name step.common.id index) (format.getD .text) }
  | _ => none

/-- Between two stages some captures were stored, each at a place of its own or over an earlier one,
and their paths were added to the artifacts. -/
structure Stored (before after : Stage σ) (shots : List Shot) : Prop where
  artifacts : after.artifacts = before.artifacts ++ shots.map Shot.path
  files : ∃ places, List.Forall₂ (Shot.Leads after.files) shots places ∧
    before.files.Grew after.files places

namespace Stored

variable {before middle after : Stage σ}

theorem of_grew (artifacts : after.artifacts = before.artifacts)
    (grew : before.files.Grew after.files []) : Stored before after [] where
  artifacts := by simp [artifacts]
  files := ⟨[], .nil, grew⟩

theorem of_same (artifacts : after.artifacts = before.artifacts)
    (files : after.files = before.files) : Stored before after [] :=
  of_grew artifacts (files ▸ .refl before.files)

theorem trans {shots later : List Shot} (stored : Stored before middle shots)
    (stored' : Stored middle after later) : Stored before after (shots ++ later) := by
  obtain ⟨places, leads, grew⟩ := stored.files
  obtain ⟨others, leads', grew'⟩ := stored'.files
  constructor
  · rw [stored'.artifacts, stored.artifacts, List.map_append, List.append_assoc]
  · refine ⟨places ++ others, ?_, grew.trans grew'⟩
    exact List.rel_append (leads.imp fun _ _ leads => leads.grow grew') leads'

theorem nonempty {shots : List Shot} (stored : Stored before after shots) :
    "" ∉ shots.map Shot.path := by
  obtain ⟨places, leads, -⟩ := stored.files
  clear stored
  induction leads with
  | nil => simp
  | @cons shot _ _ _ led _ ih =>
      have own : "" ≠ shot.path := (Path.join_ne_empty led.plain.nonempty shot.directory).symm
      exact List.not_mem_cons_of_ne_of_not_mem own ih

end Stored

def Stores {α : Type} (program : Act σ α) (shots : Outcome α → List Shot) : Prop :=
  ∀ stage, Stored stage (ran program.run stage).2 (shots (ran program.run stage).1)

namespace Stores

variable {α β : Type}

theorem bind {program : Act σ α} {next : α → Act σ β} {shots : Outcome β → List Shot}
    (first : Stores program fun _ => []) (later : ∀ value, Stores (next value) shots)
    (failed : ∀ failure, shots (.error failure) = []) : Stores (program >>= next) shots := by
  intro stage
  have idle := first stage
  rcases answered : ran program.run stage with ⟨failure | value, middle⟩
  · rw [ran_run_bind_error answered, failed]
    rwa [answered] at idle
  · rw [ran_run_bind_ok answered]
    rw [answered] at idle
    exact idle.trans (later value middle)

theorem perform (operation : Operation σ α) :
    Stores (Interpreter.perform operation) fun _ => [] :=
  fun _ => .of_same rfl rfl

theorem sleep (interpreter : Interpreter σ) (duration : Nat) :
    Stores (interpreter.sleep duration) fun _ => [] :=
  fun _ => .of_same rfl rfl

end Stores

namespace Interpreter

variable (interpreter : Interpreter σ)

def shown (step : Step) : Operation σ Snapshot :=
  interpreter.snapshot (step.common.scope.getD .screen)
    (interpreter.timing.forStep step.common).scrollbackLines.toNat

def taken (step : Step) (index : Nat) : Outcome Unit → List Shot
  | .ok () => (interpreter.captures.shot? interpreter.sequence step index).toList
  | .error _ => []

theorem writeCapture_stores (directory label : String) (format : CaptureFormat)
    (snapshot : Snapshot) :
    Stores (interpreter.writeCapture directory label format snapshot) fun
      | .ok () => [⟨directory, interpreter.captures.fileName interpreter.sequence label format⟩]
      | .error _ => [] := by
  intro stage
  rw [ran_writeCapture]
  rcases done : interpreter.captures.write directory interpreter.sequence label format snapshot
    stage.files with error | ⟨path, written⟩
  · exact .of_grew rfl (Files.makeDirectories_grew stage.files directory _)
  · obtain ⟨rfl, -⟩ := CaptureWriter.write_eq_ok done
    obtain ⟨place, located, grew⟩ := CaptureWriter.write_grew done
    have plain := interpreter.captures.fileName_plain interpreter.sequence label format
    exact ⟨rfl, [place], .cons (.of_locate plain located) .nil, grew⟩

theorem capture_stores {step : Step} {name : Option String} {format : Option CaptureFormat}
    (capture : step.kind = .capture name format) (index : Nat) :
    Stores (interpreter.execute step index) (interpreter.taken step index) := by
  simp only [execute, capture]
  refine .bind (.perform _) (fun snapshot => ?_) fun _ => rfl
  unfold keepCapture
  split
  · rename_i directory target
    have own : interpreter.taken step index = fun
        | .ok () => [⟨directory, interpreter.captures.fileName interpreter.sequence
            (captureLabel name step.common.id index) (format.getD .text)⟩]
        | .error _ => [] := by
      funext outcome
      cases outcome <;> simp [taken, CaptureWriter.shot?, capture, target]
    rw [own]
    exact interpreter.writeCapture_stores directory _ _ snapshot
  · rename_i target
    have own : interpreter.taken step index (.ok ()) = [] := by
      simp [taken, CaptureWriter.shot?, capture, target]
    exact fun stage => own ▸ .of_same rfl rfl

theorem execute_stores (step : Step) (index : Nat) :
    Stores (interpreter.execute step index) (interpreter.taken step index) := by
  by_cases capture : ∃ name format, step.kind = .capture name format
  · obtain ⟨name, format, capture⟩ := capture
    exact interpreter.capture_stores capture index
  · have own : interpreter.taken step index = fun _ => [] := by
      funext outcome
      cases outcome with
      | error failure => rfl
      | ok answer =>
        simp only [taken, CaptureWriter.shot?]
        split
        · exact absurd ⟨_, _, ‹_›⟩ capture
        · rfl
    rw [own]
    unfold execute
    cases kind : step.kind with
    | line text keys post => exact .bind (.perform _) (fun _ => .sleep interpreter _) fun _ => rfl
    | sleep ms => exact .sleep interpreter _
    | capture name format => exact absurd ⟨name, format, kind⟩ capture
    | call name args => exact fun _ => .of_same rfl rfl
    | mouse action button x y delta modifiers => exact fun _ => .of_same rfl rfl
    | scroll direction amount => exact fun _ => .of_same rfl rfl
    | _ => exact .perform _

/-- The file of a capture that passed holds what the backend showed. -/
theorem capture_filled {step : Step} {name : Option String} {format : Option CaptureFormat}
    (capture : step.kind = .capture name format) {index : Nat} {stage after : Stage σ}
    (passed : ran (interpreter.execute step index).run stage = (.ok (), after)) {shot : Shot}
    (target : interpreter.captures.shot? interpreter.sequence step index = some shot) :
    ∃ snapshot, (ran (interpreter.shown step).run stage.backend).1 = .ok snapshot ∧
      after.files.readText shot.path =
        .ok (interpreter.captures.content (format.getD .text) snapshot) := by
  simp only [CaptureWriter.shot?, capture, Option.map_eq_some_iff] at target
  obtain ⟨directory, target, rfl⟩ := target
  simp only [execute, capture, keepCapture, target] at passed
  rcases showed : ran (interpreter.shown step).run stage.backend with
    ⟨failure | snapshot, backend⟩
  · have failed : ran (perform (interpreter.shown step)).run stage =
        (.error failure, { stage with backend }) := by rw [ran_perform, showed]
    rw [shown] at failed
    rw [ran_run_bind_error failed] at passed
    cases passed
  · have captured : ran (perform (interpreter.shown step)).run stage =
        (.ok snapshot, { stage with backend }) := by rw [ran_perform, showed]
    rw [shown] at captured
    rw [ran_run_bind_ok captured, ran_writeCapture] at passed
    split at passed
    · rename_i path files done
      obtain ⟨rfl, -⟩ := CaptureWriter.write_eq_ok done
      obtain rfl := (Prod.mk.inj passed).2
      exact ⟨snapshot, rfl, CaptureWriter.readText_written done⟩
    · cases passed

end Interpreter

def CaptureWriter.shots (writer : CaptureWriter) (sequence : String) (index : Nat)
    (steps : List Step) (results : List StepResult) : List Shot :=
  ((steps.zip results).zipIdx index).filterMap fun ((step, result), index) =>
    if result.status = .passed then writer.shot? sequence step index else none

namespace CaptureWriter

variable (writer : CaptureWriter) (sequence : String) (index : Nat)

theorem shots_cons (step : Step) (steps : List Step) (result : StepResult)
    (results : List StepResult) :
    writer.shots sequence index (step :: steps) (result :: results) =
      writer.shots sequence index [step] [result] ++
        writer.shots sequence (index + 1) steps results := by
  rw [shots, shots, shots, ← List.filterMap_append]
  rfl

theorem shots_unattempted (steps : List Step) : writer.shots sequence index steps [] = [] := by
  rw [shots, List.zip_nil_right]
  rfl

end CaptureWriter

/-- What a step did: it stored the capture that its result tells of, if any, and the file of the
capture held what the backend showed. -/
structure StepVisit.Captured (interpreter : Interpreter σ) (visit : StepVisit σ) : Prop where
  stored : Stored visit.before visit.after
    (interpreter.captures.shots interpreter.sequence visit.index [visit.step] [visit.result])
  filled : ∀ name format, visit.step.kind = .capture name format →
    visit.result.status = .passed →
    ∀ shot, interpreter.captures.shot? interpreter.sequence visit.step visit.index = some shot →
      ∃ snapshot, (ran (interpreter.shown visit.step).run visit.before.backend).1 = .ok snapshot ∧
        visit.after.files.readText shot.path =
          .ok (interpreter.captures.content (format.getD .text) snapshot)

namespace Interpreter

variable (interpreter : Interpreter σ)

theorem shots_ofOutcome (step : Step) (index started finished : Nat) (outcome : Outcome Unit) :
    interpreter.captures.shots interpreter.sequence index [step]
        [StepResult.ofOutcome step started finished outcome] =
      interpreter.taken step index outcome := by
  cases outcome with
  | error failure => rfl
  | ok answer =>
      simp only [CaptureWriter.shots, taken, StepResult.ofOutcome, List.zip_cons_cons,
        List.zip_nil_left, List.zipIdx_cons, List.zipIdx_nil, List.filterMap_cons, if_true]
      cases interpreter.captures.shot? interpreter.sequence step index <;> rfl

theorem make_captured (step : Step) (index : Nat) (stage : Stage σ) :
    (StepVisit.make interpreter step index stage).Captured interpreter := by
  have stores := interpreter.execute_stores step index stage
  rw [StepVisit.make, ran_runStep]
  rcases executed : ran (interpreter.execute step index).run stage with ⟨outcome, after⟩
  rw [executed] at stores
  constructor
  · simpa only [shots_ofOutcome] using stores
  · intro name format capture passed shot target
    cases outcome with
    | error failure => simp [StepResult.ofOutcome] at passed
    | ok answer => exact interpreter.capture_filled capture executed target

theorem visits_captured {index : Nat} {steps : List Step} {stage : Stage σ} {visit : StepVisit σ}
    (member : visit ∈ interpreter.visits index steps stage) : visit.Captured interpreter := by
  obtain ⟨step, _, index, before, rfl⟩ := interpreter.visits_made member
  exact interpreter.make_captured step index before

theorem visits_stored (index : Nat) (steps : List Step) (stage : Stage σ) :
    let visits := interpreter.visits index steps stage
    Stored stage (StepVisit.last stage visits)
      (interpreter.captures.shots interpreter.sequence index steps
        (visits.map StepVisit.result)) := by
  induction steps generalizing index stage with
  | nil => exact .of_same rfl rfl
  | cons step rest ih =>
      let visit := StepVisit.make interpreter step index stage
      have first : Stored stage visit.after
          (interpreter.captures.shots interpreter.sequence index [step] [visit.result]) :=
        (interpreter.make_captured step index stage).stored
      simp only [visits]
      split
      · rw [List.map_singleton, CaptureWriter.shots_cons, CaptureWriter.shots_unattempted,
          List.append_nil]
        exact first
      · rw [List.map_cons, CaptureWriter.shots_cons, StepVisit.last_cons]
        exact first.trans (ih (index + 1) visit.after)

end Interpreter

namespace ScenarioRunner

variable (runner : ScenarioRunner) (backend : Backend σ)

theorem visit_stored (process : Nat) (sequence : PlannedSequence) (stage : Stage σ) :
    let visit := runner.visit backend process sequence stage
    Stored visit.before visit.after
      (runner.captures.shots sequence.name 0 sequence.steps visit.result.steps) := by
  intro visit
  have idle : Stored visit.before visit.ready [] := .of_same rfl rfl
  have visited : visit.steps = runner.stepVisits backend sequence visit.ready visit.readiness := rfl
  have told : visit.result.steps = visit.steps.map StepVisit.result := rfl
  have ended : visit.after = StepVisit.last visit.ready visit.steps := rfl
  rw [told, ended, visited]
  cases visit.readiness with
  | error failure =>
      rw [stepVisits, List.map_nil, CaptureWriter.shots_unattempted]
      exact idle
  | ok answer =>
      exact idle.trans ((runner.interpreter backend sequence).visits_stored 0 sequence.steps _)

theorem visit_captured (process : Nat) (sequence : PlannedSequence) (stage : Stage σ)
    {step : StepVisit σ} (member : step ∈ (runner.visit backend process sequence stage).steps) :
    step.Captured (runner.interpreter backend sequence) := by
  let visit := runner.visit backend process sequence stage
  have visited : visit.steps = runner.stepVisits backend sequence visit.ready visit.readiness := rfl
  replace member : step ∈ visit.steps := member
  rw [visited] at member
  cases readiness : visit.readiness with
  | error failure => simp [readiness, stepVisits] at member
  | ok answer =>
      rw [readiness] at member
      exact Interpreter.visits_captured _ member

end ScenarioRunner

/-- The artifacts of a sequence are the paths of the captures that its steps stored, in their order,
each right in the directory it was to go to, whatever the names in it are. -/
theorem run_artifacts {runner : ScenarioRunner} {backend : Backend σ} {epoch : Int}
    {stage last : Stage σ} {report : RunReport}
    (finished : ran (runner.run backend epoch).run stage = (.ok report, last)) :
    ∃ process launched,
      ran (Interpreter.perform (runner.start backend)).run stage = (.ok process, launched) ∧
      let visits := runner.visits backend process runner.plan.sequences launched
      report.sequences = visits.map SequenceVisit.result ∧
      ∀ visit ∈ visits,
        let shots := runner.captures.shots visit.sequence.name 0 visit.sequence.steps
          visit.result.steps
        visit.result.artifacts = shots.map Shot.path ∧
        Stored visit.before visit.after shots ∧
        ∀ step ∈ visit.steps, step.Captured (runner.interpreter backend visit.sequence) := by
  obtain ⟨process, launched, started, results, _, _⟩ := started_of_run_ok finished
  refine ⟨process, launched, started, results, ?_⟩
  intro visit member
  obtain ⟨sequence, _, before, rfl⟩ := ScenarioRunner.visits_made member
  have stored := runner.visit_stored backend process sequence before
  exact ⟨stored.artifacts, stored, fun step => runner.visit_captured backend process sequence before⟩

def album : ScenarioRunner where
  plan :=
    { scenario :=
        { name := "/trip", launch := { command := "shell", backend := .pty },
          sequenceOrder := ["..", "home"] }
      ready := none
      sequences :=
        [{ name := "..", ensure := none,
            steps := [.line "hello", .ofKind (.capture (some "../../etc/passwd") none),
              { kind := .capture none none, common := { capturesDir := some "/tmp/" } }] },
          { name := "home", ensure := none,
            steps := [{ kind := .capture none none, common := { capturesDir := some "/bin/sh" } },
              .line "exit"] }] }
  timing := {}
  captures := ⟨"/trip", some "caps", none⟩

theorem run_artifacts_of_album :
    ∃ report last process launched,
      ran (album.run (Scripted.backend {}) 0).run ⟨{}, .standard, []⟩ = (.ok report, last) ∧
      report.sequences.map SequenceResult.artifacts =
        [["caps/_trip-..-.._.._etc_passwd.txt", "/tmp/_trip-..-step-3.txt"], []] ∧
      let visits := album.visits (Scripted.backend {}) process album.plan.sequences launched
      report.sequences = visits.map SequenceVisit.result ∧
      ∀ visit ∈ visits,
        let shots := album.captures.shots visit.sequence.name 0 visit.sequence.steps
          visit.result.steps
        visit.result.artifacts = shots.map Shot.path ∧
        Stored visit.before visit.after shots ∧
        ∀ step ∈ visit.steps,
          step.Captured (album.interpreter (Scripted.backend {}) visit.sequence) := by
  have artifacts :
      ((ran (album.run (Scripted.backend {}) 0).run ⟨{}, .standard, []⟩).1.toOption.map
        fun report => report.sequences.map SequenceResult.artifacts) =
      some [["caps/_trip-..-.._.._etc_passwd.txt", "/tmp/_trip-..-step-3.txt"], []] := by
    decide +kernel
  rcases finished : ran (album.run (Scripted.backend {}) 0).run ⟨{}, .standard, []⟩ with
    ⟨failure | report, last⟩
  · rw [finished] at artifacts
    cases artifacts
  · rw [finished] at artifacts
    obtain ⟨process, launched, _, stored⟩ := run_artifacts finished
    exact ⟨report, last, process, launched, rfl, Option.some.inj artifacts, stored⟩

end TerminalScript
