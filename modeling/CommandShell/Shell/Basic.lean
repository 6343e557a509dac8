import CommandShell.Event
import CommandShell.Execution.Executor
import CommandShell.History
import CommandShell.Registry

/-!
# Shells

The state of a shell: what is registered, the history, which aliases are being expanded, whether the user
asked to leave, the machine it runs on, and what it has told the user so far.
-/

namespace CommandShell

/-- The state of a shell. -/
structure Shell where
  registry : Registry
  history : History
  /-- The aliases that are being expanded. -/
  expanding : List String
  exitRequested : Bool
  control : Control
  machine : Machine
  /-- What has been told to the user, in order. -/
  events : List Event
deriving DecidableEq, Repr

namespace Shell

/-- A shell to which nothing has happened yet. -/
def start (registry : Registry) (history : History) (control : Control) (machine : Machine) : Shell :=
  ⟨registry, history, [], false, control, machine, []⟩

/-- Tells the user something. -/
def tell (s : Shell) (e : Event) : Shell := { s with events := s.events ++ [e] }

/-- Tells the user several things in turn. -/
def tellAll (s : Shell) (es : List Event) : Shell := { s with events := s.events ++ es }

/-- Writes a text, with a line feed at its end. -/
def writeLine (s : Shell) (text : String) : Shell := s.tell (.write (Text.endLine text))

/-- Tells the user a message in markup. -/
def inform (s : Shell) (message : String) : Shell := s.tell (.info message)

/-- The files and the working directory. -/
def files (s : Shell) : Files := s.machine.files

/-- The shell with other files, or another working directory. -/
def setFiles (s : Shell) (files : Files) : Shell := { s with machine := { s.machine with files } }

/-- The user asks to leave. -/
def requestExit (s : Shell) : Shell := { s with exitRequested := true }

end Shell

/-- How a built-in fails. -/
inductive Failure where
  | complaint (c : Complaint)
  | mishap (m : Mishap)
  | interrupted
deriving DecidableEq, Repr

/-- A shell after a built-in, and how that failed if it did. -/
abbrev Outcome := Shell × Option Failure

namespace Outcome

/-- The built-in went well. -/
def well (s : Shell) : Outcome := (s, none)

/-- The built-in complains. -/
def complain (s : Shell) (c : Complaint) : Outcome := (s, some (.complaint c))

/-- Something went wrong that the built-in does not reckon with. -/
def fail (s : Shell) (m : Mishap) : Outcome := (s, some (.mishap m))

/-- A call failed that the built-in undertook for what the user named. -/
def refuse (s : Shell) (target : String) : CallFault → Outcome
  | .system fault => complain s (.system fault target)
  | .embeddedNull => fail s .embeddedNull

end Outcome

end CommandShell
