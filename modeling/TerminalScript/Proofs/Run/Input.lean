import TerminalScript.Proofs.Run.Progress

/-!
The input of a run on the scripted backend: it is what the executed steps ask for, in their order,
and nothing else. Waits, looks, captures and steps that are not supported give none.
-/

namespace TerminalScript

open Scripted (State Script Input)

theorem cut_eq_splitOn (separator : Char) (part rest : List Char) :
    Path.cut separator part rest =
      (rest.splitOn separator).modifyHead (part.reverse ++ ·) := by
  induction rest generalizing part with
  | nil => simp [Path.cut, List.splitOn_nil]
  | cons c rest ih =>
      rw [Path.cut, List.splitOn, List.splitOnP_cons_eq_if_modifyHead]
      by_cases separates : c = separator
      · rw [if_pos separates, if_pos (beq_iff_eq.mpr separates), ih, List.splitOn]
        change _ :: List.modifyHead id _ = _
        simp
      · rw [if_neg separates, if_neg (mt beq_iff_eq.mp separates), ih, List.splitOn]
        simp [Function.comp_def]

theorem Interpreter.splitKeys_eq (keys : String) :
    splitKeys keys = (keys.toList.splitOn ' ').map String.ofList := by
  rw [splitKeys, cut_eq_splitOn]
  change (List.modifyHead id _).map _ = _
  rw [List.modifyHead_id, id]

namespace Step

def sentLine (step : Step) : List String :=
  match step.kind with
  | .line text none _ => [text]
  | _ => []

def sentText (step : Step) : List String :=
  match step.kind with
  | .line text (some _) _ => [text]
  | _ => []

def sentKeys (step : Step) : List String :=
  match step.kind with
  | .line _ (some keys) _ => keys
  | .sendKeys keys => (keys.toList.splitOn ' ').map String.ofList
  | .keys keys => keys
  | _ => []

def pasted (step : Step) : List String :=
  match step.kind with
  | .paste text => [text]
  | _ => []

def newSize (step : Step) : Option (UInt16 × UInt16) :=
  match step.kind with
  | .resize cols rows => some (cols, rows)
  | _ => none

end Step

/-- The input after some steps is the input before them and what each of them prescribes, in their
order; the size is that of the last that changes it. -/
structure Prescribed (executed : List Step) (before after : Input) : Prop where
  sentLines : after.sentLines = before.sentLines ++ executed.flatMap Step.sentLine
  sentText : after.sentText = before.sentText ++ executed.flatMap Step.sentText
  sentKeys : after.sentKeys = before.sentKeys ++ executed.flatMap Step.sentKeys
  pasted : after.pasted = before.pasted ++ executed.flatMap Step.pasted
  size : (after.cols, after.rows) =
    (executed.filterMap Step.newSize).getLast?.getD (before.cols, before.rows)

namespace Prescribed

theorem trans {early late : List Step} {before middle after : Input}
    (first : Prescribed early before middle) (second : Prescribed late middle after) :
    Prescribed (early ++ late) before after where
  sentLines := by
    rw [second.sentLines, first.sentLines, List.append_assoc, List.flatMap_append]
  sentText := by
    rw [second.sentText, first.sentText, List.append_assoc, List.flatMap_append]
  sentKeys := by
    rw [second.sentKeys, first.sentKeys, List.append_assoc, List.flatMap_append]
  pasted := by
    rw [second.pasted, first.pasted, List.append_assoc, List.flatMap_append]
  size := by
    rw [second.size, first.size, List.filterMap_append, List.getLast?_append, Option.getD_or]

theorem given (input : Input) (step : Step) : Prescribed [step] input (input.given step) where
  sentLines := by grind [Input.given, Step.sentLine]
  sentText := by grind [Input.given, Step.sentText]
  sentKeys := by grind [Input.given, Step.sentKeys, Interpreter.splitKeys_eq]
  pasted := by grind [Input.given, Step.pasted]
  size := by
    have changed : ((input.given step).cols, (input.given step).rows) =
        step.newSize.getD (input.cols, input.rows) := by
      grind [Input.given, Step.newSize]
    rw [changed]
    cases asked : step.newSize <;> simp [asked]

theorem foldl (executed : List Step) (input : Input) :
    Prescribed executed input (executed.foldl Input.given input) := by
  induction executed generalizing input with
  | nil => constructor <;> simp
  | cons step rest ih => exact (given input step).trans (ih _)

end Prescribed

variable {scenario : Scenario} {sequences : List Sequence} {files : List MacroFile}
  {selected : Option String} {plan : RunPlan} {runner : ScenarioRunner}

/-- A run that fails gives no input. A report tells which steps were executed, and the input is what
these steps prescribe. -/
theorem run_input (checked : ∀ sequence ∈ sequences, sequence.check = .ok ())
    (built : RunPlan.build scenario sequences files selected = .ok plan)
    (made : ScenarioRunner.new plan = .ok runner) (directory : Option String) (script : Script)
    (epoch : Int) (stage last : Stage State) (outcome : Outcome RunReport)
    (finished : ran ((runner.withCaptures directory).run (Scripted.backend script) epoch).run
      stage = (outcome, last)) :
    (∀ failure, outcome = .error failure → last.backend.input = stage.backend.input) ∧
    (∀ report, outcome = .ok report → report.Tells (plan.attempts report) ∧
      Prescribed ((plan.attempts report).flatMap Attempt.steps) stage.backend.input
        last.backend.input) := by
  have prepared := ScenarioRunner.prepared checked built made directory
  have moved := (ScenarioRunner.run_moved prepared script epoch stage).input
  rw [finished] at moved
  constructor
  · rintro failure rfl
    exact moved
  · rintro report rfl
    refine ⟨?_, moved ▸ Prescribed.foldl _ _⟩
    have told := ScenarioRunner.tells_of_run_ok finished
    rwa [prepared.same] at told

def desk : ScenarioRunner where
  plan :=
    { scenario :=
        { name := "desk", launch := { command := "editor", backend := .pty },
          sequenceOrder := ["write"] }
      ready := none
      sequences :=
        [{ name := "write", ensure := none,
           steps := [.line "open", .ofKind (.line "title" (some ["Enter"]) none),
            .ofKind (.sendKeys "C-a x"), .ofKind (.paste "text"), .ofKind (.resize 100 30),
            .ofKind (.scroll .down none), .line "close"] }] }
  timing := {}
  captures := ⟨"desk", none, none⟩

def deskSequences : List Sequence :=
  desk.plan.sequences.map fun sequence => { name := sequence.name, steps := sequence.steps }

/-- Scrolling is not supported, so the last line is never sent; nothing is if the launch fails. -/
theorem run_input_of_desk :
    (∀ sequence ∈ deskSequences, sequence.check = .ok ()) ∧
    RunPlan.build desk.plan.scenario deskSequences [] none = .ok desk.plan ∧
    ScenarioRunner.new desk.plan = .ok desk ∧
    (∃ report last,
      ran (desk.run (Scripted.backend {}) 0).run ⟨{}, .standard, []⟩ = (.ok report, last) ∧
      report.Tells (desk.plan.attempts report) ∧
      Prescribed ((desk.plan.attempts report).flatMap Attempt.steps) (State.input {})
        last.backend.input ∧
      last.backend.input = ⟨["open"], ["title"], ["Enter", "C-a", "x"], ["text"], 100, 30⟩) ∧
    ∃ failure last,
      ran (desk.run (Scripted.backend { failLaunch := true }) 0).run ⟨{}, .standard, []⟩ =
        (.error failure, last) ∧
      last.backend.input = State.input {} := by
  have checked : ∀ sequence ∈ deskSequences, sequence.check = .ok () := by
    intro sequence member
    rw [List.mem_singleton.mp member]
    rfl
  have built : RunPlan.build desk.plan.scenario deskSequences [] none = .ok desk.plan := by cbv
  have made : ScenarioRunner.new desk.plan = .ok desk := rfl
  refine ⟨checked, built, made, ?_, ?_⟩
  · have given : (ran (desk.run (Scripted.backend {}) 0).run ⟨{}, .standard, []⟩).1.isOk = true ∧
        (ran (desk.run (Scripted.backend {}) 0).run ⟨{}, .standard, []⟩).2.backend.input =
          ⟨["open"], ["title"], ["Enter", "C-a", "x"], ["text"], 100, 30⟩ := by
      decide +kernel
    rcases finished : ran (desk.run (Scripted.backend {}) 0).run ⟨{}, .standard, []⟩ with
      ⟨failure | report, last⟩
    · rw [finished] at given
      cases given.1
    · rw [finished] at given
      obtain ⟨_, told⟩ :=
        run_input checked built made none {} 0 ⟨{}, .standard, []⟩ last (.ok report) finished
      obtain ⟨tells, prescribed⟩ := told report rfl
      exact ⟨report, last, rfl, tells, prescribed, given.2⟩
  · have refused :=
      run_input checked built made none { failLaunch := true } 0 ⟨{}, .standard, []⟩ _ _ rfl
    exact ⟨_, _, rfl, refused.1 _ rfl⟩

end TerminalScript
