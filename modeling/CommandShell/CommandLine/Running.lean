import CommandShell.CommandLine.Basic
import CommandShell.Dialogue
import CommandShell.Settings.Reading

/-!
# Running a command line

The settings are read, the history is loaded, and then one line is run or a dialogue is held. Settings that do
not suit, a history that is no text, and a mishap outside a dialogue's lines end the program early.
-/

namespace CommandShell

/-- Why the program ends early. -/
inductive Abort where
  | settings (fault : Settings.ReadFault)
  | escape (e : Escape)
deriving DecidableEq, Repr

/-- What the program leaves behind. -/
structure Finished where
  files : Files
  /-- What it told the user, in order. -/
  events : List Event
  /-- What the line editor showed, in order. -/
  editor : List EditorEvent
  abort : Option Abort
deriving DecidableEq, Repr

namespace Finished

/-- The status with which the program ends. -/
def status (f : Finished) : Nat := if f.abort.isSome then 1 else 0

end Finished

/-- The status of a program whose command line makes no sense. -/
def misuseStatus : Nat := 2

namespace CommandLine

/-- Reads the settings and loads the history. -/
def prepare (machine : Machine) (historyFile : Path) (c : CommandLine) : Except Abort (Settings × Shell) := do
  let settings ← (Settings.readWithFile [] machine.environment machine.files historyFile).mapError .settings
  let empty := History.empty settings.maxHistorySize (if c.keepsHistory then some settings.historyFile else none)
  let history ← (empty.load machine.files).mapError fun m => .escape (.mishap m)
  let control : Control := ⟨settings.terminateOnInterrupt, settings.killGraceSeconds⟩
  return (settings, Shell.start Registry.builtins history control machine)

/-- Runs the program, given the user's replies if there is a dialogue. -/
def run (programs : Programs) (machine : Machine) (historyFile : Path) (c : CommandLine) (replies : List Reply) :
    Finished :=
  match c.prepare machine historyFile with
  | .error abort => ⟨machine.files, [], [], some abort⟩
  | .ok (settings, shell) =>
    match c.command with
    | some line =>
      let (after, escape) := shell.run programs line
      ⟨after.files, after.events, [], escape.map .escape⟩
    | none =>
      let (after, mishap) := (Dialogue.start shell settings c.keepsHistory).converse programs replies
      ⟨after.shell.files, after.shell.events, after.editor, mishap.map fun m => .escape (.mishap m)⟩

end CommandLine

end CommandShell
