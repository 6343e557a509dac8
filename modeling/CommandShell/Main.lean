import CommandShell.CommandLine.Running
import CommandShell.Program.Standard
import CommandShell.System
import Std.Time.DateTime.Timestamp

/-!
# The program

Reads the command line and the user's lines and shows what the shell tells. The shell starts in the home
directory of a small system, which lives in memory as long as the program does.
-/

namespace CommandShell

/-- The directory in which the program starts. -/
def startLocation : Location := ["root"]

/-- The files that the program starts with. -/
def startFiles : Files := ⟨Tree.minimal Programs.standard.names, .ofLocation startLocation⟩

/-- Where the history is kept by default. -/
def defaultHistory : Path := (Path.ofText (Files.locationText startLocation)).child ".myshell_history"

/-- The variables that programs start with. -/
def startEnvironment : Environment := ⟨[("HOME", Files.locationText startLocation), ("PATH", "/usr/bin:/bin")]⟩

/-- The settings that the surroundings give. -/
def readEnvironment : IO Environment :=
  Settings.Field.all.foldlM (fun env field => do
    let name := Text.upper (Settings.variablePrefix ++ field.name)
    return env.change name (← IO.getEnv name)) startEnvironment

/-- The time of day. -/
def readClock : IO Instant := do
  let now ← Std.Time.Timestamp.now
  return ⟨now.toSecondsSinceUnixEpoch.val, (now.val.nano.val / 1000).toNat⟩

/-- Shows events on the two standard consoles. -/
def present (events : List Event) : IO Unit := do
  let console : Console := ⟨← (← IO.getStdout).isTty, true⟩
  let (out, errors) := Event.showAll console console events
  IO.print out
  IO.eprint errors

/-- Shows what a dialogue has told and not yet shown. -/
def Dialogue.present (d : Dialogue) : IO Dialogue := do
  CommandShell.present d.shell.events
  return { d with shell := { d.shell with events := [] } }

/-- The user's next reply. -/
def readReply : IO Reply := do
  let text ← (← IO.getStdin).getLine
  return if text.isEmpty then .endOfInput else .line text

/-- Complains about a mishap; the status to end with. -/
def endWith (m : Option Mishap) : IO UInt32 := do
  match m with
  | none => return 0
  | some m =>
    IO.eprintln m.text
    return 1

/-- Ends a dialogue; the status to end with. -/
def Dialogue.leave (d : Dialogue) : IO UInt32 := do
  let (closed, mishap) := d.finish
  discard closed.present
  endWith mishap

/-- Holds a dialogue; the status to end with. -/
partial def Dialogue.hold (d : Dialogue) : IO UInt32 := do
  let d ← d.present
  if d.shell.exitRequested then d.leave
  else
    match d.ask with
    | .error m => endWith (some m)
    | .ok asked =>
      IO.print ((asked.promptText.toOption).getD "")
      (← IO.getStdout).flush
      let reply ← readReply
      match (asked.setClock (← readClock)).receive Programs.standard reply with
      | some after => after.hold
      | none => asked.leave

/-- What is said of reasons to end early. -/
def Abort.text : Abort → String
  | settings (.refused (.unsuitable faults)) =>
    "Unsuitable settings: " ++
      String.intercalate ", " (faults.map fun (field, fault) => field.name ++ " " ++ fault.word)
  | settings (.refused (.unknownLevel name)) => Settings.unknownLevelText name
  | settings (.system fault) => (Mishap.system fault (some Settings.environmentFile)).text
  | settings .undecodable => Mishap.undecodable.text
  | escape (.mishap m) => m.text
  | escape .interrupted => ""

/-- How the program is called. -/
def usageText : String := "Usage: commandshell [--command LINE | -c LINE] [--no-history] [--help]"

/-- Does what a command line asks; the status to end with. -/
def CommandLine.perform (c : CommandLine) : IO UInt32 := do
  let machine : Machine := ⟨startFiles, ← readEnvironment, ← readClock, .usual, 0, .never⟩
  match c.command, c.prepare machine defaultHistory with
  | none, .ok (settings, shell) => (Dialogue.start shell settings c.keepsHistory).hold
  | _, _ =>
    let done := c.run Programs.standard machine defaultHistory []
    present done.events
    if let some abort := done.abort then IO.eprintln abort.text
    return UInt32.ofNat done.status

end CommandShell

/-- The program. -/
def main (words : List String) : IO UInt32 :=
  match CommandShell.CommandLine.read words with
  | .run c => c.perform
  | .help => do
    IO.println CommandShell.usageText
    return 0
  | .misuse => do
    IO.eprintln CommandShell.usageText
    return UInt32.ofNat CommandShell.misuseStatus
