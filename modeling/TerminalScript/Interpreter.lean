import TerminalScript.Backend.Basic
import TerminalScript.Capture
import TerminalScript.Report
import TerminalScript.Timing

/-!
Running the steps of a sequence. A step that fails is recorded as failed and stops nothing here.
-/

namespace TerminalScript

structure Stage (σ : Type) where
  backend : σ
  files : Files
  artifacts : List String := []

abbrev Act (σ α : Type) := ExceptT Failure (StateM (Stage σ)) α

structure Interpreter (σ : Type) where
  backend : Backend σ
  timing : Timing
  captures : CaptureWriter
  sequence : String

namespace Interpreter

variable {σ : Type} (interpreter : Interpreter σ)

def perform {α : Type} (operation : Operation σ α) : Act σ α :=
  ExceptT.mk fun stage =>
    let (outcome, backend) := operation.run.run stage.backend
    (outcome, { stage with backend })

def sleep (duration : Nat) : Act σ Unit :=
  modify fun stage => { stage with backend := interpreter.backend.sleep duration stage.backend }

def splitKeys (keys : String) : List String :=
  (Path.cut ' ' [] keys.toList).map String.ofList

def part (wanted : Bool) (capture : Operation σ String) : Operation σ (Option String) :=
  if wanted then do
    let text ← capture
    pure (some text)
  else pure none

def snapshot (scope : Scope) (lines : Nat) : Operation σ Snapshot := do
  let screen ← part (scope = .screen || scope = .both) interpreter.backend.captureScreen
  let scrollback ←
    part (scope = .scrollback || scope = .both) (interpreter.backend.captureScrollback lines)
  let transcript ← part (scope = .transcript) interpreter.backend.captureTranscript
  pure { screen, scrollback, transcript }

def captureLabel (name id : Option String) (index : Nat) : String :=
  (name.orElse fun _ => id).getD ("step-" ++ toString (index + 1))

def writeCapture (directory label : String) (format : CaptureFormat) (snapshot : Snapshot) :
    Act σ Unit := do
  -- If the file cannot be written, its directory may have been made.
  let stage ← get
  match interpreter.captures.write directory interpreter.sequence label format snapshot
      stage.files with
  | .ok (path, files) => set { stage with files, artifacts := stage.artifacts ++ [path] }
  | .error error => do
      set { stage with files := stage.files.withDirectories directory }
      throw (.file error)

def keepCapture (stepDirectory : Option String) (label : String) (format : CaptureFormat)
    (snapshot : Snapshot) : Act σ Unit :=
  match interpreter.captures.targetDirectory stepDirectory with
  | some directory => interpreter.writeCapture directory label format snapshot
  | none => pure ()

def waitFor (matcher : Matcher) (surface : Surface) (absent : Bool) (timing : Timing) :
    Operation σ Unit := do
  let compiled ← ExceptT.mk (pure (CompiledMatcher.compile matcher))
  interpreter.backend.awaitMatch compiled surface absent timing.waitTimeout.toNat timing.poll.toNat

def expect (matcher : Matcher) (surface : Surface) (scope : Scope) : Operation σ Unit := do
  let compiled ← ExceptT.mk (pure (CompiledMatcher.compile matcher))
  let text ← surface.read interpreter.backend
  if !compiled.isMatch text then throw (.unmet (.notFound compiled.description scope.name))

def expectCount (matcher : Matcher) (equals atLeast atMost : Option UInt64) (surface : Surface) :
    Operation σ Unit := do
  let compiled ← ExceptT.mk (pure (CompiledMatcher.compile matcher))
  let text ← surface.read interpreter.backend
  ExceptT.mk (pure (checkCount (compiled.count text) equals atLeast atMost compiled.description))

def typeLine (text : String) : Option (List String) → Operation σ Unit
  | some keys => do
      interpreter.backend.sendText text
      interpreter.backend.sendKeys keys
  | none => interpreter.backend.sendLine text

def unsupported (step : Step) : Failure :=
  .unsupportedStep step.typeName interpreter.backend.name

def execute (step : Step) (index : Nat) : Act σ Unit :=
  let backend := interpreter.backend
  let timing := interpreter.timing.forStep step.common
  let lines := timing.scrollbackLines.toNat
  let scope := step.common.scope.getD .screen
  let surface := Surface.ofScope scope lines
  match step.kind with
  | .line text submitKeys postTypeMs => do
      perform (interpreter.typeLine text submitKeys)
      interpreter.sleep (postTypeMs.getD timing.postType).toNat
  | .sendKeys keys => perform (backend.sendKeys (splitKeys keys))
  | .keys keys => perform (backend.sendKeys keys)
  | .paste text => perform (backend.paste text)
  | .sleep ms => interpreter.sleep ms.toNat
  | .resize cols rows => perform (backend.resize cols rows)
  | .waitFor matcher => perform (interpreter.waitFor matcher surface false timing)
  | .waitForNot matcher => perform (interpreter.waitFor matcher surface true timing)
  | .expect matcher => perform (interpreter.expect matcher surface scope)
  | .expectCount matcher equals atLeast atMost =>
      perform (interpreter.expectCount matcher equals atLeast atMost surface)
  | .waitForExit => perform (backend.waitForExit timing.waitTimeout.toNat)
  | .capture name format => do
      let snapshot ← perform (interpreter.snapshot scope lines)
      interpreter.keepCapture step.common.capturesDir (captureLabel name step.common.id index)
        (format.getD .text) snapshot
  | .waitForStable stableMs =>
      perform (backend.waitForStable stableMs.toNat timing.waitTimeout.toNat)
  | .call .. => throw (interpreter.unsupported step)
  | .mouse .. => throw (interpreter.unsupported step)
  | .scroll .. => throw (interpreter.unsupported step)

def runStep (step : Step) (index : Nat) : StateM (Stage σ) StepResult := do
  let started := interpreter.backend.now (← get).backend
  let outcome ← (interpreter.execute step index).run
  let finished := interpreter.backend.now (← get).backend
  let (status, error) := match outcome with
    | .ok () => (RunStatus.passed, none)
    | .error failure => (RunStatus.failed, some failure.message)
  pure
    { id := step.common.id, stepType := step.typeName, status,
      durationMs := (finished - started).toUInt64, error }

end Interpreter

end TerminalScript
