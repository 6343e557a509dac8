import CommandShell.Builtin.Banner
import CommandShell.Builtin.FileCommands
import CommandShell.Builtin.InformationCommands

/-!
# The built-ins

Which of them does what.
-/

namespace CommandShell.Builtin

/-- Runs a built-in with its arguments. -/
def run (programs : Programs) (b : Builtin) (s : Shell) (args : List String) : Outcome :=
  match b with
  | .aliasing => defineAlias s args
  | .banner => printBanner programs s args
  | .cat => printFile s args
  | .cd => changeDirectory s args
  | .clear => Outcome.well (s.tell .clear)
  | .date => showDate s
  | .echo => Outcome.well (s.writeLine (Text.spaced args))
  | .exit => Outcome.well s.requestExit
  | .find => findEntries s args
  | .genpass => makePassword s args
  | .greet => showGreeting s
  | .help => showHelp s
  | .history => showHistory s args
  | .ls => listDirectory s args
  | .mkdir => makeDirectory s args
  | .pwd => printDirectory s
  | .qrcode => qrCode s args
  | .rm => remove s args
  | .sysinfo => systemInformation s
  | .touch => touchFile s args

end CommandShell.Builtin
