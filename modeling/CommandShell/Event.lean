import CommandShell.Calendar
import CommandShell.Console

/-!
# Output events

What a shell tells its user, in order. Program output passes through verbatim; messages of the shell itself
are markup. A pair of consoles, one for output and one for errors, shows the events.
-/

namespace CommandShell

/-- One thing told to the user. -/
inductive Event where
  /-- Output of a program or of a built-in, verbatim. -/
  | write (text : String)
  /-- Error output of a program, verbatim. -/
  | writeError (text : String)
  /-- A message in markup. -/
  | info (message : String)
  /-- A warning, shown verbatim. -/
  | warning (message : String)
  /-- An error, shown verbatim. -/
  | error (message : String)
  /-- The screen is emptied. -/
  | clear
deriving DecidableEq, Repr

namespace Event

/-- What an event writes to the output console and to the error console. -/
def shown (output errors : Console) : Event → String × String
  | write text => (text, "")
  | writeError text => ("", errors.programError text)
  | info message => (output.message message, "")
  | warning message => ("", errors.message (Markup.within "yellow" (Markup.escape message)))
  | error message => ("", errors.verbatim .red message)
  | clear => (output.clear, "")

/-- The greeting of an interactive shell. -/
def welcome : List Event :=
  [info (Markup.within "cyan" "Welcome to Enhanced Shell!"),
    info (Markup.within "cyan" "Type \"help\" to see available commands.")]

/-- The moment at which a line is run. -/
def timestamp (now : Instant) : Event :=
  info (Markup.within "bright_black" (Markup.escape ("[" ++ (Moment.ofInstant now).isoText ++ "]")))

/-- The farewell of an interactive shell. -/
def goodbye : Event := info (Markup.within "yellow" "Goodbye!")

/-- The sign of an interrupt. -/
def interrupted : Event := info "^C"

/-- What several events write to the two consoles. -/
def showAll (output errors : Console) (events : List Event) : String × String :=
  let both := events.map (shown output errors)
  (String.join (both.map (·.1)), String.join (both.map (·.2)))

end Event

end CommandShell
