import CommandShell.Number.Natural

/-!
# Signals in scripts

How scripts name signals, and what they say of programs that ended by one.
-/

namespace CommandShell.Script

/-- The signals that have a name, with their numbers. -/
def signalNames : List (String × Nat) :=
  [("HUP", 1), ("INT", 2), ("QUIT", 3), ("KILL", 9), ("USR1", 10), ("USR2", 12), ("PIPE", 13), ("ALRM", 14),
    ("TERM", 15)]

/-- The number of a signal that a text names, by a number or by a name, with or without the letters in front. -/
def signalNumber? (text : String) : Option Nat :=
  let name := if text.startsWith "SIG" then String.ofList (text.toList.drop 3) else text
  match signalNames.lookup name with
  | some number => some number
  | none => Number.readNatural? name.toList

/-- What a script says of a program that it started when that ended by a signal. -/
def signalText : Nat → String
  | 9 => "Killed\n"
  | 15 => "Terminated\n"
  | 1 => "Hangup\n"
  | _ => ""

end CommandShell.Script
