import CommandShell.Script.OwnCommand

/-!
# Running scripts

A script is run command by command in a state. Programs are started through a function that is given; the fuel
bounds the number of steps, so that a script which never ends waits instead.
-/

namespace CommandShell.Script

/-- Starts a program by its name on the system. -/
abbrev Caller := String → Invocation → Run

/-- Whether some octets occur within others. -/
def occursIn (wanted : Bytes) : Bytes → Bool
  | [] => wanted.isEmpty
  | b :: rest => wanted.isPrefixOf (b :: rest) || occursIn wanted rest

/-- Whether a program reads the input that it shares with the script. -/
def readsInput (name : String) (args : List String) : Bool :=
  ["tr", "tee", "cut"].contains name ||
    (["cat", "tac", "rev", "head", "tail", "wc", "sort", "uniq", "sh"].contains name &&
      args.all (fun a => a.startsWith "-"))

/-- What stands for no end: the script waits. -/
def endless (s : State) : State × Flow := (s, .waits none .usual)

namespace State

/-- What a program started now has yet to wait for. -/
def nowAwaited (s : State) : Option Bytes :=
  s.awaited.map fun text => if occursIn text s.output || occursIn text s.errors then [] else text

/-- The program for a command; a file without a program to run it by is a script. -/
def findProgram (s : State) (env : Environment) (command : String) (args : List String) :
    Except CallFault Executable :=
  if command.isEmpty then .error (.system .permission)
  else
    match Launch.find s.files env command args with
    | .error (.system .notExecutable) => .ok ⟨"sh", command, command :: args⟩
    | found => found

/-- The file that a program's output goes to. -/
def outputLocation (s : State) : Option Location :=
  match s.outlet 1 with
  | .file (.file spot) => some spot
  | .output => s.outputFile
  | _ => none

/-- Starts a program and takes over what it wrote. -/
def call (s : State) (caller : Caller) (env : Environment) (asked : Bool) (executable : Executable) :
    State × Ending :=
  let result := caller executable.program
    { name := executable.name, args := executable.args, environment := env, files := s.files, input := s.input,
      outputFile := s.outputLocation, awaited := s.nowAwaited, asked }
  let after := { s with
    files := result.files.seenFrom s.files.place
    input := if readsInput executable.program executable.args then { s.input with head := [] } else s.input
    tail := if s.outlet 1 = Outlet.output then result.output.tail else s.tail }
  ((after.writeTo (s.outlet 1) result.output.head).writeTo (s.outlet 2) result.errors, result.ending)

/-- Says why a program cannot be started. -/
def refuseProgram (s : State) (label command : String) : CallFault → State
  | .system fault =>
    if Launch.saysNothingThere fault then { s.complain (label ++ ": not found") with status := 127 }
    else
      { s.complain (label ++ ": " ++ fault.text) with status := if Launch.namesFile command then 126 else 127 }
  | .embeddedNull => { s with status := 127 }

/-- Lets the variables that a function made its own be as they were before. -/
def restoreHidden (s : State) : State :=
  (s.hidden.getD []).foldl (fun (t : State) (name, value) =>
    match value with
    | some text => t.assign name text
    | none => t.drop name) s

end State

/-- The signal and the targets that the words after `kill` name. -/
def readKill (args : List String) : Option Nat × List String :=
  match args with
  | "-s" :: name :: rest => (signalNumber? name, rest)
  | first :: rest =>
    match first.toList with
    | '-' :: name => (signalNumber? (String.ofList name), rest)
    | _ => (some Status.terminateSignal, args)
  | [] => (some Status.terminateSignal, [])

/-- Runs a program in the place of the script. -/
def becomeProgram (caller : Caller) (s : State) (env : Environment) (command : String) (args : List String) :
    State × Flow :=
  match s.findProgram env command args with
  | .error fault =>
    let refused := s.refuseProgram ("exec: " ++ command) command fault
    (refused, .exit refused.status)
  | .ok executable =>
    match s.call caller env (s.asked && s.trap ≠ .ignored) executable with
    | (after, .done (.exited code)) => ({ after with status := code }, .exit code)
    | (after, .done (.killed signal)) => (after, .killed signal)
    | (after, .waiting left reaction) =>
      (after, .waits left (if s.trap = .ignored then .ignores else reaction))

mutual

/-- How a script takes it to be asked to end while a program that it started goes on for some time. -/
def reactionWhile (caller : Caller) : Nat → State → Option Rat → Reaction
  | 0, _, _ => .usual
  | fuel + 1, s, left =>
    match s.trap, left with
    | .usual, _ => .usual
    | .ignored, _ | .handler _, none => .ignores
    | .handler script, some seconds =>
      match runText caller fuel { s with trap := .usual } script with
      | (_, .exit code) => .ends seconds (.exited code)
      | (_, .killed signal) => .ends seconds (.killed signal)
      | _ => .ignores

/-- Runs a program. -/
def runProgram (caller : Caller) : Nat → State → Environment → String → List String → State × Flow
  | 0, s, _, _, _ => endless s
  | fuel + 1, s, env, command, args =>
    match s.findProgram env command args with
    | .error fault => (s.refuseProgram command command fault, .next)
    | .ok executable =>
      let (after, ending) := s.call caller env false executable
      match ending with
      | .done (.exited code) => after.done code
      | .done (.killed signal) =>
        (after.writeTo (after.outlet 2) (Text.encode (signalText signal))).done (128 + signal)
      | .waiting left _ => (after, .waits left (reactionWhile caller fuel after left))

/-- Sends a signal; the script knows no other process than itself. -/
def sendSignal (caller : Caller) : Nat → State → List String → State × Flow
  | 0, s, _ => endless s
  | fuel + 1, s, args =>
    match readKill args with
    | (none, _) => s.refuse "kill" "Illegal option" 2
    | (some _, []) =>
      s.refuse "kill" "Usage: kill [-s sigspec | -signum | -sigspec] [pid | job]... or\nkill -l [exitstatus]" 2
    | (some signal, targets) =>
      match targets.find? fun t => !t.toList.all (·.isDigit) with
      | some bad => s.refuse "kill" ("Illegal number: " ++ bad) 2
      | none =>
        if !targets.contains State.ownNumber then s.refuse "kill" "No such process\n" 1
        else if signal = 0 then s.done 0
        else if signal = Status.terminateSignal then
          match s.trap with
          | .usual => (s, .killed signal)
          | .ignored => s.done 0
          | .handler script => goOn (runText caller fuel s script) fun s => s.done 0
        else (s, .killed signal)

/-- Runs the script in a file. -/
def runFile (caller : Caller) : Nat → State → List String → State × Flow
  | 0, s, _ => endless s
  | _ + 1, s, [] => s.done 0
  | fuel + 1, s, file :: _ =>
    if !Launch.namesFile file then s.abort (".: " ++ file ++ ": not found")
    else
      match s.files.read file with
      | .error fault => s.abort (".: cannot open " ++ file ++ ": " ++ openFaultText false fault)
      | .ok bytes =>
        match runText caller fuel s (Text.decode bytes) with
        | (s, .leaveFunction code) => s.done code
        | other => other

/-- Runs a command of the script itself. -/
def runBuiltin (caller : Caller) : Nat → State → Environment → String → List String → State × Flow
  | 0, s, _, _, _ => endless s
  | fuel + 1, s, env, name, args =>
    match name with
    | "." => runFile caller fuel s args
    | "command" =>
      match args with
      | [] => s.done 0
      | "-v" :: names => s.locateAll names
      | "-V" :: names => s.describeAll names
      | command :: rest =>
        if ownNames.contains command then runBuiltin caller fuel s env command rest
        else runProgram caller fuel s env command rest
    | "eval" =>
      let (lines, fault) := read (Text.spaced args)
      goOn (runLines caller fuel { s with status := 0 } lines) fun s =>
        match fault with
        | some f => s.abortAt "eval: " f
        | none => (s, .next)
    | "exec" =>
      match args with
      | [] => s.done 0
      | command :: rest => becomeProgram caller s env command rest
    | "kill" => sendSignal caller fuel s args
    | _ => s.runOwn name args

/-- Calls a function. -/
def callFunction (caller : Caller) : Nat → State → Command → List String → State × Flow
  | 0, s, _, _ => endless s
  | fuel + 1, s, body, args =>
    let (after, flow) := run caller fuel { s.setArgs args with hidden := some [] } body
    let left := { after.restoreHidden with args := s.args, hidden := s.hidden }
    match flow with
    | .leaveFunction code => left.done code
    | other => (left, other)

/-- Runs a simple command whose words have been expanded. -/
def runWords (caller : Caller) : Nat → State → List (String × String) → List String → State × Flow
  | 0, s, _, _ => endless s
  | _ + 1, s, _, [] => s.done s.substituted
  | fuel + 1, s, assigned, name :: args =>
    let env := assigned.foldl (fun env (n, v) => env.put n v) s.environment
    match s.functions.lookup name with
    | some body => callFunction caller fuel s body args
    | none =>
      if ownNames.contains name then runBuiltin caller fuel s env name args
      else runProgram caller fuel s env name args

/-- Runs the stages of a pipeline, each with the output of the one before as its input; the input of the script
is that of the first one. The pipeline is over when every stage has ended. -/
def runStages (caller : Caller) : Nat → State → Option Stream → Option Flow → List Command → State × Flow
  | 0, s, _, _, _ => endless s
  | _ + 1, s, _, waits, [] => (s, waits.getD .next)
  | fuel + 1, s, left, waits, [last] =>
    let (inner, flow) := runWithExit caller fuel { s with atExit := none } last
    let (after, flow) := s.rejoin inner flow
    let after := { after with input := left.getD after.input }
    match flow with
    | .next => (after, waits.getD .next)
    | other => (after, other)
  | fuel + 1, s, left, waits, stage :: rest =>
    let (inner, flow) := runWithExit caller fuel s.inside stage
    let left := left.getD inner.input
    let piped := { s with
      files := inner.files.seenFrom s.files.place, errors := inner.errors
      input := ⟨inner.output, match flow, inner.tail with
        | .waits .., .repeating first others => .repeating first others
        | .waits .., _ => .stalled
        | _, _ => .ended⟩ }
    match flow, inner.tail with
    | .killed signal, _ => ({ piped with input := left }, .killed signal)
    | .waits .., .repeating .. => runStages caller fuel piped (some left) waits rest
    | .waits .., _ => runStages caller fuel piped (some left) (some flow) rest
    | _, _ => runStages caller fuel piped (some left) waits rest

/-- Repeats a command while, or until, a condition holds. -/
def runLoop (caller : Caller) : Nat → State → Bool → Command → Command → State × Flow
  | 0, s, _, _, _ => endless s
  | fuel + 1, s, stopsOn, condition, body =>
    goOn (runTested caller fuel s condition) fun t =>
      if (t.status = 0) = stopsOn then ({ t with status := s.status }, .next)
      else
        match run caller fuel t body with
        | (s, .next) | (s, .nextRound) => runLoop caller fuel s stopsOn condition body
        | (s, .leaveLoop) => s.done 0
        | other => other

/-- Runs a command once for each word. -/
def runEach (caller : Caller) : Nat → State → String → List String → Command → State × Flow
  | 0, s, _, _, _ => endless s
  | _ + 1, s, _, [], _ => (s, .next)
  | fuel + 1, s, name, word :: rest, body =>
    match run caller fuel (s.assign name word) body with
    | (s, .next) | (s, .nextRound) => runEach caller fuel s name rest body
    | (s, .leaveLoop) => (s, .next)
    | other => other

/-- Runs the first branch with a pattern that stands for a text. -/
def runBranches (caller : Caller) : Nat → State → String → List (List Word × Command) → State × Flow
  | 0, s, _, _ => endless s
  | _ + 1, s, _, [] => s.done 0
  | fuel + 1, s, text, (patterns, body) :: rest =>
    s.expanding (matchesAny (fun s text => runText caller fuel s text) text patterns) fun s found =>
      if found then run caller fuel { s with status := 0 } body else runBranches caller fuel s text rest

/-- Runs a command with redirections around it. -/
def runRedirected (caller : Caller) : Nat → State → List Redirect → Command → State × Flow
  | 0, s, _, _ => endless s
  | fuel + 1, s, redirects, body =>
    s.expanding (expandTargets (fun s text => runText caller fuel s text) redirects) fun s targets =>
      match s.openTargets targets with
      | .error failed => (failed.restore s targets).done 2
      | .ok opened =>
        let (after, flow) := run caller fuel opened body
        (after.restore s targets, flow)

/-- Runs a command on which what follows depends. -/
def runTested (caller : Caller) : Nat → State → Command → State × Flow
  | 0, s, _ => endless s
  | fuel + 1, s, command =>
    let (after, flow) := run caller fuel { s with tested := true } command
    ({ after with tested := s.tested }, flow)

/-- Does what is to be done at the end. -/
def runExit (caller : Caller) : Nat → State × Flow → State × Flow
  | 0, outcome => outcome
  | fuel + 1, (s, flow) =>
    let code? : Option Nat := match flow with
      | .exit code | .leaveFunction code => some code
      | .next | .leaveLoop | .nextRound => some s.status
      | .killed _ | .waits .. => none
    match s.atExit, code? with
    | some script, some code =>
      match runText caller fuel { s with atExit := none, status := code } script with
      | (after, .exit last) => (after, .exit last)
      | (after, _) => (after, .exit code)
    | _, _ => (s, flow)

/-- Runs a command, and what is to be done at its end. -/
def runWithExit (caller : Caller) : Nat → State → Command → State × Flow
  | 0, s, _ => endless s
  | fuel + 1, s, command => runExit caller fuel (run caller fuel s command)

/-- Runs a simple command. -/
def runSimple (caller : Caller) :
    Nat → State → List (String × Word) → List Word → List Redirect → State × Flow
  | 0, s, _, _, _ => endless s
  | fuel + 1, s, assignments, words, redirects =>
    let runInner : Runner := fun s text => runText caller fuel s text
    ({ s with substituted := 0 } : State).expanding (expandWords runInner words) fun s expanded =>
      s.expanding (expandTargets runInner redirects) fun s targets =>
        let special := expanded.head?.any specialNames.contains
        match s.openTargets targets with
        | .error failed => ({ failed.restore s targets with status := 2 }, if special then .exit 2 else .next)
        | .ok opened =>
          opened.expanding (assignAll runInner assignments) fun t assigned =>
            let kept := if expanded.isEmpty || special then t else { t with bindings := s.bindings }
            if expanded = ["exec"] then kept.done 0
            else
              let (after, flow) := runWords caller fuel kept assigned expanded
              (after.restore s targets, flow)

/-- Runs a pipeline. -/
def runPipeline (caller : Caller) : Nat → State → Bool → List Command → State × Flow
  | 0, s, _, _ => endless s
  | fuel + 1, s, negated, stages =>
    let inner := { s with tested := s.tested || negated }
    let (after, flow) := match stages with
      | [only] => run caller fuel inner only
      | _ => runStages caller fuel inner none none stages
    let after := { after with tested := s.tested }
    match flow with
    | .next => if negated then after.done (if after.status = 0 then 1 else 0) else after.settle .next
    | other => (after, other)

/-- Runs a command. -/
def run (caller : Caller) : Nat → State → Command → State × Flow
  | 0, s, _ => endless s
  | fuel + 1, s, command =>
    let runInner : Runner := fun s text => runText caller fuel s text
    match command with
    | .nothing => (s, .next)
    | .simple line assignments words redirects =>
      let (after, flow) := runSimple caller fuel { s with line } assignments words redirects
      after.settle flow
    | .pipeline negated stages => runPipeline caller fuel s negated stages
    | .both first second =>
      goOn (runTested caller fuel s first) fun s =>
        if s.status = 0 then run caller fuel s second else (s, .next)
    | .either first second =>
      goOn (runTested caller fuel s first) fun s =>
        if s.status = 0 then (s, .next) else run caller fuel s second
    | .inTurn first second => goOn (run caller fuel s first) fun s => run caller fuel s second
    | .background body =>
      let (inner, _) := run caller fuel { s with atExit := none } body
      ({ s.leaving inner with input := s.input, tail := s.tail, status := 0 }, .next)
    | .choice condition yes no =>
      goOn (runTested caller fuel s condition) fun s =>
        if s.status = 0 then run caller fuel s yes
        else
          match no with
          | .nothing => s.done 0
          | _ => run caller fuel s no
    | .loop stopsOn condition body => runLoop caller fuel { s with status := 0 } stopsOn condition body
    | .each name none body => runEach caller fuel { s with status := 0 } name (s.args.drop 1) body
    | .each name (some words) body =>
      s.expanding (expandWords runInner words) fun s expanded =>
        runEach caller fuel { s with status := 0 } name expanded body
    | .select subject branches =>
      s.expanding (expandText runInner subject) fun s text => runBranches caller fuel s text branches
    | .group line body redirects => runRedirected caller fuel { s with line } redirects body
    | .subshell line body redirects =>
      let inside := { s with line, atExit := none }
      let (inner, flow) := runExit caller fuel (runRedirected caller fuel inside redirects body)
      let (after, flow) := s.rejoin inner flow
      after.settle flow
    | .define name body =>
      ({ s with functions := (name, body) :: s.functions.filter (·.1 ≠ name), status := 0 }, .next)

/-- Runs commands in turn. -/
def runLines (caller : Caller) : Nat → State → List Command → State × Flow
  | 0, s, _ => endless s
  | _ + 1, s, [] => (s, .next)
  | fuel + 1, s, line :: rest =>
    match run caller fuel s line with
    | (s, .next) | (s, .leaveLoop) | (s, .nextRound) => runLines caller fuel s rest
    | other => other

/-- Runs the text of a script, up to a fault in it. -/
def runText (caller : Caller) : Nat → State → String → State × Flow
  | 0, s, _ => endless s
  | fuel + 1, s, text =>
    let (lines, fault) := read text
    goOn (runLines caller fuel s lines) fun s =>
      match fault with
      | some f => s.abortAt "" f
      | none => (s, .next)

end

end CommandShell.Script
