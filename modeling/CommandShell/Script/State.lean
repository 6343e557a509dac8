import CommandShell.Number.Natural
import CommandShell.Program.Basic
import CommandShell.Script.Field
import CommandShell.Script.Reading

/-!
# The state of a running script

Variables, functions, open descriptors, what has been written and what is to be done when the script is asked
to end. A part of a script in parentheses, or a stage of a pipeline, has a state of its own.
-/

namespace CommandShell.Script

/-- Where a descriptor of a script leads. -/
inductive Outlet where
  | output
  | errors
  | file (handle : Handle)
  | closed
deriving DecidableEq, Repr

/-- What a script does when it is asked to end. -/
inductive Trap where
  | usual
  | ignored
  | handler (script : String)
deriving DecidableEq, Repr

/-- The state of a running script. -/
structure State where
  /-- The name under which it complains. -/
  name : String
  line : Nat
  args : List String
  bindings : List (String × String)
  exported : List String
  /-- The variables that may not change any more. -/
  fixed : List String
  functions : List (String × Command)
  /-- The values that variables had before the function that is running made them its own; none outside
  functions. -/
  hidden : Option (List (String × Option String))
  files : Files
  input : Stream
  outlets : List (Nat × Outlet)
  output : Bytes
  /-- What follows the output. -/
  tail : Tail
  errors : Bytes
  status : Nat
  /-- The status of the last command substitution. -/
  substituted : Nat
  trap : Trap
  /-- What is done at the end. -/
  atExit : Option String
  /-- A command that fails ends the script. -/
  endsOnFailure : Bool
  /-- A parameter without a value ends the script. -/
  needsValues : Bool
  /-- How the running command ends decides what comes next, so that it may fail. -/
  tested : Bool
  outputFile : Option Location
  awaited : Option Bytes
  /-- The script is asked to end as soon as it waits. -/
  asked : Bool
deriving Repr

/-- How a script goes on after a command. -/
inductive Flow where
  | next
  | exit (code : Nat)
  | killed (signal : Nat)
  | waits (left : Option Rat) (reaction : Reaction)
  | leaveLoop
  | nextRound
  | leaveFunction (code : Nat)
deriving DecidableEq, Repr

namespace State

/-- The number by which a script knows itself. -/
def ownNumber : String := "4242"

/-- The value of a variable. -/
def find? (s : State) (name : String) : Option String := s.bindings.lookup name

/-- Sets a variable. -/
def assign (s : State) (name value : String) : State :=
  if s.bindings.any (·.1 = name) then
    { s with bindings := s.bindings.map fun v => if v.1 = name then (name, value) else v }
  else { s with bindings := s.bindings ++ [(name, value)] }

/-- Removes a variable. -/
def drop (s : State) (name : String) : State := { s with bindings := s.bindings.filter (·.1 ≠ name) }

/-- Where a descriptor leads. -/
def outlet (s : State) (descriptor : Nat) : Outlet := (s.outlets.lookup descriptor).getD .closed

/-- Opens or changes a descriptor. -/
def setOutlet (s : State) (descriptor : Nat) (outlet : Outlet) : State :=
  { s with outlets := (descriptor, outlet) :: s.outlets.filter (·.1 ≠ descriptor) }

/-- Writes to where a descriptor leads. -/
def writeTo (s : State) (outlet : Outlet) (bytes : Bytes) : State :=
  match outlet with
  | .output => { s with output := s.output ++ bytes }
  | .errors => { s with errors := s.errors ++ bytes }
  | .file handle => { s with files := s.files.addTo bytes handle }
  | .closed => s

/-- Writes to the output. -/
def print (s : State) (bytes : Bytes) : State := s.writeTo (s.outlet 1) bytes

/-- Says what is wrong. -/
def complain (s : State) (text : String) : State :=
  s.writeTo (s.outlet 2) (Text.encode (s.name ++ ": " ++ toString s.line ++ ": " ++ text ++ "\n"))

/-- The environment of the programs that a script starts. -/
def environment (s : State) : Environment := ⟨s.bindings.filter fun v => s.exported.contains v.1⟩

/-- The value of a parameter. -/
def parameter (s : State) (name : String) : Option String :=
  match name with
  | "#" => some (toString (s.args.length - 1))
  | "?" => some (toString s.status)
  | "$" => some ownNumber
  | "@" | "*" => some (Text.spaced (s.args.drop 1))
  | "!" | "-" => some ""
  | _ =>
    match Number.readNatural? name.toList with
    | some n => s.args[n]?
    | none => s.find? name

/-- What a tilde and a name stand for: a home directory, or themselves if there is none. -/
def homeFor (s : State) (name : String) : String :=
  let home := if name.isEmpty then s.find? "HOME" else Environment.accountHomes.lookup name
  home.getD ("~" ++ name)

/-- Opens a state within a command substitution or the stage of a pipeline. -/
def inside (s : State) : State :=
  { s with output := [], tail := .ended, outlets := (1, .output) :: s.outlets.filter (·.1 ≠ 1), atExit := none }

/-- The state after a part of the script that had a state of its own, of which the files, what was written and
the status remain. -/
def leaving (s inner : State) : State :=
  { s with
    files := inner.files.seenFrom s.files.place, input := inner.input, output := inner.output,
    tail := inner.tail, errors := inner.errors, status := inner.status }

/-- What a part of the script with a state of its own means for the script. -/
def rejoin (s inner : State) (flow : Flow) : State × Flow :=
  let after := s.leaving inner
  match flow with
  | .exit code | .leaveFunction code => ({ after with status := code }, .next)
  | .killed signal => (after, .killed signal)
  | .waits left reaction => (after, .waits left reaction)
  | .next | .leaveLoop | .nextRound => (after, .next)

/-- A command that failed ends the script if failures are to do so. -/
def settle (s : State) (flow : Flow) : State × Flow :=
  if flow = .next && s.endsOnFailure && !s.tested && s.status ≠ 0 then (s, .exit s.status) else (s, flow)

/-- The state after a command that ended with a status. -/
def done (s : State) (code : Nat) : State × Flow := ({ s with status := code }, .next)

/-- A fault that ends the script. -/
def abort (s : State) (text : String) : State × Flow := (s.complain text, .exit 2)

/-- The state after a syntax fault, which ends the script. -/
def abortAt (s : State) (label : String) (fault : SyntaxFault) : State × Flow :=
  ({ s with line := fault.line } : State).abort (label ++ fault.text)

end State

/-- Goes on after a command, unless something else is to happen. -/
def goOn (outcome : State × Flow) (next : State → State × Flow) : State × Flow :=
  match outcome with
  | (s, .next) => next s
  | other => other

end CommandShell.Script
