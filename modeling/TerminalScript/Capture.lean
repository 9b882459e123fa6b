import TerminalScript.Files.Basic
import TerminalScript.Redaction
import TerminalScript.Scenario
import TerminalScript.Text.Plain

/-!
Captures: snapshots of the terminal's text, written to files whose names tell the scenario, the
sequence and the step.
-/

namespace TerminalScript

open Json

structure Snapshot where
  screen : Option String := none
  scrollback : Option String := none
  transcript : Option String := none
  deriving Inhabited, DecidableEq

namespace Snapshot

def parts (snapshot : Snapshot) : List (String × String) :=
  [("screen", snapshot.screen), ("scrollback", snapshot.scrollback),
    ("transcript", snapshot.transcript)].filterMap fun (name, part) => part.map (name, ·)

def render (snapshot : Snapshot) (format : CaptureFormat) : String :=
  match format with
  | .text => separated "\n" (snapshot.parts.map fun part => Text.plain part.2)
  | .ansi => separated "\n" (snapshot.parts.map (·.2))
  | .json => (Value.object (snapshot.parts.map fun part => (part.1, .text part.2))).pretty

end Snapshot

structure CaptureWriter where
  scenario : String
  directory : Option String
  redactor : Option Redactor
  deriving Inhabited

def sanitizeChar (c : Char) : Char :=
  if c.isAlphanum || c = '-' || c = '_' || c = '.' then c else '_'

def sanitize (name : String) : String :=
  String.ofList (name.toList.map sanitizeChar)

namespace CaptureWriter

def new (scenario : String) (settings : ArtifactSettings) : Outcome CaptureWriter := do
  let redactor ←
    if settings.redact then some <$> Redactor.new settings.redactPatterns else pure none
  pure { scenario, directory := settings.capturesDir, redactor }

def withDirectory (directory : String) (writer : CaptureWriter) : CaptureWriter :=
  { writer with directory := some directory }

def targetDirectory (writer : CaptureWriter) (stepDirectory : Option String) : Option String :=
  stepDirectory.orElse fun _ => writer.directory

def fileName (writer : CaptureWriter) (sequence label : String) (format : CaptureFormat) :
    String :=
  sanitize writer.scenario ++ "-" ++ sanitize sequence ++ "-" ++ sanitize label ++ "." ++
    format.extension

def content (writer : CaptureWriter) (format : CaptureFormat) (snapshot : Snapshot) : String :=
  let rendered := snapshot.render format
  match writer.redactor with
  | some redactor => redactor.redact rendered
  | none => rendered

def write (writer : CaptureWriter) (directory sequence label : String) (format : CaptureFormat)
    (snapshot : Snapshot) (files : Files) : Except FileError (String × Files) := do
  let files ← files.createDirectories directory
  let path := Path.join directory (writer.fileName sequence label format)
  let files ← files.write path (Text.encode (writer.content format snapshot))
  pure (path, files)

end CaptureWriter

end TerminalScript
