import CommandShell.Calendar
import CommandShell.Environment
import CommandShell.Files.Operation

/-!
# The machine of a shell

What a shell finds around it: files and the working directory, the environment, a clock, the facts about the
hardware, and the interrupts that are to come.
-/

namespace CommandShell

/-- Facts about the system and the hardware. -/
structure Host where
  system : String
  release : String
  machine : String
  processor : String
  /-- The system's description of its processors, if it can be read. -/
  processorInfo : Option String
  /-- The number of processors as two sources give it; zero means unknown. -/
  processors : Int
  otherProcessors : Int
  totalMemory : Int
  freeMemory : Int
  /-- When the system was started, in seconds since 1970. -/
  bootTime : Rat
deriving DecidableEq, Repr

namespace Host

/-- The facts about a system of which nothing particular is known. -/
def usual : Host where
  system := "Linux"
  release := "6.1.0"
  machine := "x86_64"
  processor := ""
  processorInfo := none
  processors := 4
  otherProcessors := 4
  totalMemory := 0
  freeMemory := 0
  bootTime := 0

end Host

/-- When the user interrupts. -/
inductive Interruption where
  | never
  /-- As soon as so many more processes have been started; at least one. -/
  | afterStarts (count : Nat)
  /-- As soon as every process of a plan has been started and a text is out. -/
  | whenShown (text : Bytes)
  /-- It has come, and the processes that there are are asked to end as soon as they wait. -/
  | atPause
deriving DecidableEq, Repr

/-- The machine that a shell runs on. -/
structure Machine where
  files : Files
  environment : Environment
  now : Instant
  host : Host
  /-- How many random choices have been made. -/
  drawn : Nat
  interruption : Interruption
deriving DecidableEq, Repr

namespace Machine

/-- Counts the start of a process; tells whether the user interrupts now. -/
def countStart (m : Machine) : Machine × Bool :=
  match m.interruption with
  | .afterStarts count =>
    if count ≤ 1 then ({ m with interruption := .never }, true)
    else ({ m with interruption := .afterStarts (count - 1) }, false)
  | _ => (m, false)

end Machine

end CommandShell
