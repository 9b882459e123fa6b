import TerminalScript.Scenario

/-!
The options of the backends that drive real processes.
-/

namespace TerminalScript

open Json Document

structure BackendOptions where
  program : Option String := none
  sessionPrefix : String := "tuimuppet"
  cols : UInt16 := 120
  rows : UInt16 := 40
  transcriptLimit : UInt64 := 2000000
  transcriptRetain : UInt64 := 1000000
  stabilitySample : UInt64 := 50
  scrollbackLines : UInt64 := 2000
  deriving Inhabited, DecidableEq

namespace BackendOptions

def standard : BackendOptions := {}

def record : Record BackendOptions :=
  mk <$> .optional "tmux_bin" path <*>
    .defaulted "session_prefix" text standard.sessionPrefix <*>
    .defaulted "cols" word16 standard.cols <*> .defaulted "rows" word16 standard.rows <*>
    .defaulted "transcript_limit_bytes" count standard.transcriptLimit <*>
    .defaulted "transcript_retain_bytes" count standard.transcriptRetain <*>
    .defaulted "stability_sample_ms" milliseconds standard.stabilitySample <*>
    .defaulted "scrollback_lines" count standard.scrollbackLines

def read : Reader BackendOptions :=
  record.read "BackendOptions"

def readOpen : Reader BackendOptions
  -- As an array the options may be followed by more elements, which are passed over.
  | .array items => read (.array (items.take record.checks.length))
  | other => read other

def toJson (options : BackendOptions) : Value :=
  .ofFields
    [("tmux_bin", (options.program.map Value.text).getD .null),
      ("session_prefix", .text options.sessionPrefix),
      ("cols", .number (.natural options.cols.toUInt64)),
      ("rows", .number (.natural options.rows.toUInt64)),
      ("transcript_limit_bytes", .number (.natural options.transcriptLimit)),
      ("transcript_retain_bytes", .number (.natural options.transcriptRetain)),
      ("stability_sample_ms", .number (.natural options.stabilitySample)),
      ("scrollback_lines", .number (.natural options.scrollbackLines))]

def forLaunch (options : BackendOptions) (launch : LaunchSpec) : BackendOptions :=
  { options with cols := launch.cols.getD options.cols, rows := launch.rows.getD options.rows }

end BackendOptions

end TerminalScript
