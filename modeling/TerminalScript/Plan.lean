import TerminalScript.Macro.Expansion
import TerminalScript.Matcher.Compiled

/-!
Plans: everything about a run that is settled before a process is launched.
-/

namespace TerminalScript

structure PlannedSequence where
  name : String
  ensure : Option Matcher
  steps : List Step
  deriving Inhabited

structure RunPlan where
  scenario : Scenario
  ready : Option CompiledMatcher
  sequences : List PlannedSequence
  deriving Inhabited

namespace RunPlan

def select (index : SequenceIndex) (scenario : Scenario) : Option String → Outcome Scenario
  | none => .ok scenario
  | some name =>
      match index.lookup name with
      | some _ => .ok { scenario with sequenceOrder := [name] }
      | none => .error (.sequenceReference name)

def find (index : SequenceIndex) (name : String) : Outcome Sequence :=
  match index.lookup name with
  | some sequence => .ok sequence
  | none => .error (.sequenceReference name)

def planSequence (library : MacroLibrary) (sequence : Sequence) : Outcome PlannedSequence := do
  let steps ← expand library sequence.steps
  pure { name := sequence.name, ensure := sequence.ensure, steps }

def build (scenario : Scenario) (sequences : List Sequence) (files : List MacroFile)
    (selected : Option String) : Outcome RunPlan := do
  let library ← MacroLibrary.merge files
  let index ← SequenceIndex.ofList sequences
  let scenario ← select index scenario selected
  scenario.check.mapError Failure.schema
  let ordered ← scenario.sequenceOrder.mapM (find index)
  let sequences ← ordered.mapM (planSequence library)
  let ready ← scenario.launch.readyMatcher.mapM CompiledMatcher.compile
  pure { scenario, ready, sequences }

end RunPlan

end TerminalScript
