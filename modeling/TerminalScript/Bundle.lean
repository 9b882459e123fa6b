import TerminalScript.Files.Basic
import TerminalScript.Sequence

/-!
A scenario with its sequences and macros. A scenario's file lies beside a directory of sequences and
one of macros, either of which may be missing.
-/

namespace TerminalScript

structure Bundle where
  scenario : Scenario
  sequences : List Sequence
  macros : List MacroFile
  deriving Inhabited

inductive BundleFault
  | unreadable (path : String) (error : FileError)
  | invalid (kind : String) (path : String) (failure : Failure)
  deriving Inhabited

def BundleFault.chain : BundleFault → List String
  | unreadable path error => ["Failed to read " ++ path, error.message]
  | invalid kind path failure => ("Invalid " ++ kind ++ " " ++ path) :: failure.chain

namespace Bundle

def loadDocument {α : Type} (files : Files) (kind : String) (ofText : String → Outcome α)
    (path : String) : Except BundleFault α := do
  let text ← (files.readText path).mapError (.unreadable path)
  (ofText text).mapError (.invalid kind path)

def documentPaths (files : Files) (directory : String) : List String :=
  let isDocument (entry : String × FileEntry) : Bool :=
    entry.2 ≠ .directory && Path.extension? entry.1 = some "json"
  let names := ((files.list directory).filter isDocument).map (·.1)
  (names.mergeSort fun left right => left ≤ right).map (Path.join directory)

def load (files : Files) (path : String) : Except BundleFault Bundle := do
  let scenario ← loadDocument files "scenario" Scenario.ofText path
  let base := (Path.parent? path).getD "."
  let sequences ← (documentPaths files (Path.join base "sequences")).mapM
    (loadDocument files "sequence" Sequence.ofText)
  let macros ← (documentPaths files (Path.join base "macros")).mapM
    (loadDocument files "macro file" MacroFile.ofText)
  pure { scenario, sequences, macros }

end Bundle

end TerminalScript
