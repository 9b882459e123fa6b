import TerminalScript.Backend.Options
import TerminalScript.Files.Basic
import TerminalScript.Toml.Parser

/-!
The configuration of a machine: settings that do not belong in a scenario. It is read from a file
that need not exist.
-/

namespace TerminalScript

open Json Document

structure Configuration where
  backend : BackendOptions := {}
  report : Option String := none
  capturesDir : Option String := none
  deriving Inhabited, DecidableEq

inductive ConfigurationFault
  | file (error : FileError)
  | malformed
  deriving Inhabited, DecidableEq

def ConfigurationFault.message : ConfigurationFault → String
  | file error => error.message
  | malformed => "TOML parse error"

namespace Configuration

def record : Record Configuration :=
  mk <$> .defaulted "backend" BackendOptions.readOpen {} <*> .optional "report" text <*>
    .optional "captures_dir" path

def read : Reader Configuration :=
  record.read "HarnessConfig"

def toJson (configuration : Configuration) : Value :=
  .ofFields
    [("backend", configuration.backend.toJson),
      ("report", (configuration.report.map Value.text).getD .null),
      ("captures_dir", (configuration.capturesDir.map Value.text).getD .null)]

def ofText (text : String) : Except ConfigurationFault Configuration :=
  match Toml.parse? text with
  | some table => (read table).mapError fun _ => .malformed
  | none => .error .malformed

def load (files : Files) (path : String) : Except ConfigurationFault Configuration := do
  -- A file that does not exist leaves every setting as it is by default.
  match files.exists? path with
  | none => pure {}
  | some _ =>
      let text ← (files.readText path).mapError .file
      ofText text

end Configuration

end TerminalScript
