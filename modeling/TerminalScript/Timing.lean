import TerminalScript.Scenario

/-!
How long to wait, how often to look and how far back: a step's own field wins over the scenario's
default, and that over the built-in value.
-/

namespace TerminalScript

structure Timing where
  waitTimeout : UInt64 := 15000
  poll : UInt64 := 200
  scrollbackLines : UInt64 := 2000
  postType : UInt64 := 0
  deriving Inhabited, DecidableEq

namespace Timing

def ofDefaults (defaults : ScenarioDefaults) : Timing :=
  let builtin : Timing := {}
  { waitTimeout := defaults.waitTimeoutMs.getD builtin.waitTimeout
    poll := defaults.pollMs.getD builtin.poll
    scrollbackLines := defaults.scrollbackLines.getD builtin.scrollbackLines
    postType := defaults.postTypeMs.getD builtin.postType }

def forStep (timing : Timing) (common : StepCommon) : Timing :=
  { waitTimeout := common.timeoutMs.getD timing.waitTimeout
    poll := common.pollMs.getD timing.poll
    scrollbackLines := common.scrollbackLines.getD timing.scrollbackLines
    postType := timing.postType }

end Timing

end TerminalScript
