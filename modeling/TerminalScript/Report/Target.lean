import TerminalScript.Files.Basic
import TerminalScript.Report

/-!
Where the report of a run goes.
-/

namespace TerminalScript

inductive ReportTarget
  | standardOutput
  | file (path : String)
  deriving Inhabited, DecidableEq

namespace ReportTarget

def resolve (candidates : List (Option String)) : ReportTarget :=
  match candidates.findSome? id with
  | none => standardOutput
  | some path => if path = "stdout" then standardOutput else file path

def writeFile (files : Files) (path : String) (report : RunReport) : Except FileError Files := do
  let files ← match Path.parent? path with
    | some parent => files.createDirectories parent
    | none => pure files
  files.write path (Text.encode (report.toText ++ "\n"))

end ReportTarget

end TerminalScript
