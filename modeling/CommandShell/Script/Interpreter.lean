import CommandShell.Script.Running

/-!
# The interpreter of scripts

The program that runs scripts: a text given on its command line, the text of a file, or its input.
-/

namespace CommandShell.Script

/-- The state in which a script begins. -/
def start (i : Invocation) (name : String) (args : List String) : State :=
  let bindings := i.environment.bindings
  let s : State :=
    { name, line := 1, args := name :: args, bindings, exported := bindings.map (·.1) ++ ["PWD"], fixed := []
      functions := [], hidden := none, files := i.files, input := i.input
      outlets := [(1, .output), (2, .errors)], output := [], tail := .ended, errors := [], status := 0
      substituted := 0, trap := .usual, atExit := none, endsOnFailure := false, needsValues := false
      tested := false, outputFile := i.outputFile, awaited := i.awaited
      asked := i.asked }
  match i.files.workingDirectory? with
  | some text => s.assign "PWD" text
  | none => s

/-- As many steps as a script may take. -/
def stepLimit : Nat := 20000

/-- What a script that is over, or waits, leaves behind. -/
def State.result (s : State) (files : Files) (flow : Flow) : Run :=
  let ending : Ending := match flow with
    | .exit code | .leaveFunction code => .done (.exited code)
    | .killed signal => .done (.killed signal)
    | .waits left reaction => .waiting left reaction
    | .next | .leaveLoop | .nextRound => .done (.exited s.status)
  let tail : Tail := match ending, s.tail with
    | .done _, _ => .ended
    | .waiting .., .repeating first others => .repeating first others
    | .waiting .., _ => .stalled
  ⟨s.files.seenFrom files.place, ⟨s.output, tail⟩, s.errors, ending⟩

/-- What a script does that is asked to end while it waits, if it is: once the program that it waits for is done, it does
what it has kept for the request. A script that goes on afterwards is taken to wait on. -/
def State.whenAsked (caller : Caller) (s : State) (flow : Flow) : State × Flow :=
  match s.asked, s.trap, flow with
  | true, .handler script, .waits (some _) _ =>
    match runExit caller stepLimit (runText caller stepLimit { s with trap := .usual } script) with
    | (after, .exit code) => (after, .exit code)
    | _ => (s, flow)
  | _, _, _ => (s, flow)

/-- Runs a script from its beginning to its end. -/
def runAs (caller : Caller) (i : Invocation) (name : String) (args : List String) (text : String) : Run :=
  let (s, flow) := runExit caller stepLimit (runText caller stepLimit (start i name args) text)
  let (s, flow) := s.whenAsked caller flow
  s.result i.files flow

/-- The interpreter. -/
def interpret (caller : Caller) (i : Invocation) : Run :=
  match i.args with
  | "-c" :: text :: name :: args => runAs caller i name args text
  | ["-c", text] => runAs caller i i.name [] text
  | ["-c"] => i.complain (i.name ++ ": 0: -c requires an argument\n") 2
  | [] | "-s" :: _ | "-" :: _ => runAs caller { i with input := .empty } i.name [] (Text.decode i.input.head)
  | file :: args =>
    match i.files.read file with
    | .ok bytes => runAs caller i file args (Text.decode bytes)
    | .error fault =>
      i.complain (i.name ++ ": 0: cannot open " ++ file ++ ": " ++ openFaultText false fault ++ "\n") 2

end CommandShell.Script
