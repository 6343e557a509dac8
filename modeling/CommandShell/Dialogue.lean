import CommandShell.Settings.Basic
import CommandShell.Shell.Running

/-!
# Dialogues

An interactive shell asks for lines until the user leaves or nothing more comes. A line that is not blank is
run; an interrupt ends the line that is being run, and nothing that goes wrong within a line ends the
dialogue. In the end the history is saved, if it is kept at all.
-/

namespace CommandShell

/-- What comes back when the user is asked for a line. -/
inductive Reply where
  | line (text : String)
  /-- A line during which the user interrupts, as soon as so many more processes have been started. -/
  | interruptedLine (text : String) (starts : Nat)
  /-- The key that empties the screen, and after it an empty line. -/
  | clearScreen
  /-- The user interrupts instead of giving a line. -/
  | interrupt
  | endOfInput
deriving DecidableEq, Repr

/-- What the line editor shows. -/
inductive EditorEvent where
  | prompt (text : String)
  | screenCleared
deriving DecidableEq, Repr

/-- An interactive shell. -/
structure Dialogue where
  shell : Shell
  settings : Settings
  /-- The history is saved in the end. -/
  keepsHistory : Bool
  /-- What the line editor has shown, in order. -/
  editor : List EditorEvent
deriving DecidableEq, Repr

namespace Dialogue

/-- What is said when the history cannot be saved. -/
def unsavedText : String := "Could not save history file"

/-- What is said of a mishap during a line. -/
def unexpectedText (m : Mishap) : String := "Unexpected error: " ++ m.text

/-- A dialogue that begins with the greeting. -/
def start (shell : Shell) (settings : Settings) (keepsHistory : Bool) : Dialogue :=
  ⟨shell.tellAll Event.welcome, settings, keepsHistory, []⟩

/-- The prompt: a name and the working directory. There is none in a directory that is no longer there, nor
when the home directory cannot be told. -/
def promptText (d : Dialogue) : Except Mishap String :=
  match d.shell.files.workingDirectory? with
  | none => .error (.system .noEntry none)
  | some directory =>
    match d.shell.machine.environment.homePath with
    | none => .error .noHome
    | some home => .ok (d.settings.promptName ++ "[" ++ (Path.ofText directory).abbreviate home ++ "]➜ ")

/-- Shows something in the line editor. -/
def display (d : Dialogue) (e : EditorEvent) : Dialogue := { d with editor := d.editor ++ [e] }

/-- Asks the user for a line. -/
def ask (d : Dialogue) : Except Mishap Dialogue := d.promptText.map fun text => d.display (.prompt text)

/-- Tells the user something. -/
def tell (d : Dialogue) (e : Event) : Dialogue := { d with shell := d.shell.tell e }

/-- Runs a line and tells the user if it was left before its end. -/
def runLine (programs : Programs) (d : Dialogue) (line : String) : Dialogue :=
  match d.shell.run programs line with
  | (s, none) => { d with shell := s }
  | (s, some .interrupted) => { d with shell := s.tell .interrupted }
  | (s, some (.mishap m)) => { d with shell := s.tell (.error (unexpectedText m)) }

/-- Takes a line: without the blanks around it, it is run if anything is left. -/
def take (programs : Programs) (d : Dialogue) (line : String) : Dialogue :=
  let trimmed := Text.trim line
  if trimmed.isEmpty then d
  else
    let stamped := if d.settings.showTimestamp then d.tell (.timestamp d.shell.machine.now) else d
    stamped.runLine programs trimmed

/-- The dialogue at another moment. -/
def setClock (d : Dialogue) (now : Instant) : Dialogue :=
  { d with shell := { d.shell with machine := { d.shell.machine with now } } }

/-- The user will interrupt as soon as so many more processes have been started. -/
def expectInterrupt (d : Dialogue) (starts : Nat) : Dialogue :=
  { d with shell := { d.shell with machine := { d.shell.machine with interruption := .afterStarts starts } } }

/-- What the user's reply leads to; none if nothing more will come. -/
def receive (programs : Programs) (d : Dialogue) : Reply → Option Dialogue
  | .line text => some (d.take programs text)
  | .interruptedLine text starts => some ((d.expectInterrupt starts).take programs text)
  | .clearScreen => some ((d.tell .clear).display .screenCleared)
  | .interrupt => some (d.tell .interrupted)
  | .endOfInput => none

/-- Ends a dialogue. -/
def close (d : Dialogue) : Except Mishap Dialogue :=
  if d.keepsHistory then
    match d.shell.history.save d.shell.files with
    | .ok (files, saved) =>
      let kept : Dialogue := { d with shell := d.shell.setFiles files }
      .ok ((if saved then kept else kept.tell (.warning unsavedText)).tell .goodbye)
    | .error fault => .error (Mishap.ofCall "" fault)
  else .ok (d.tell .goodbye)

/-- Ends a dialogue as far as it can be ended. -/
def finish (d : Dialogue) : Dialogue × Option Mishap :=
  match d.close with
  | .ok closed => (closed, none)
  | .error m => (d, some m)

/-- Carries a dialogue on with the user's replies, and to its end when they run out; a mishap at the prompt
breaks it off. -/
def converse (programs : Programs) (d : Dialogue) : List Reply → Dialogue × Option Mishap
  | [] =>
    if d.shell.exitRequested then d.finish
    else
      match d.ask with
      | .error m => (d, some m)
      | .ok asked => asked.finish
  | reply :: rest =>
    if d.shell.exitRequested then d.finish
    else
      match d.ask with
      | .error m => (d, some m)
      | .ok asked =>
        match asked.receive programs reply with
        | some after => after.converse programs rest
        | none => asked.finish

end Dialogue

end CommandShell
