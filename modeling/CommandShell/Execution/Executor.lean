import CommandShell.Event
import CommandShell.Execution.Termination
import CommandShell.Execution.Wiring
import CommandShell.Failure
import CommandShell.Machine
import CommandShell.Number.Binary64
import CommandShell.Program.Launch

/-!
# Carrying out plans

A plan becomes processes: one, or one with a file in place of a standard stream, or a pipeline. The plan is
over when every process has ended and everything they wrote has been told to the user. An interrupt ends the
processes that are still running, if that is wanted.
-/

namespace CommandShell

/-- How interrupted processes are treated. -/
structure Control where
  /-- They are asked to end. -/
  terminates : Bool
  /-- How long they are waited for, in seconds. -/
  grace : Binary64
deriving DecidableEq, Repr

namespace Control

/-- The period of grace; one that is not a number of seconds has no end. -/
def patience (c : Control) : Option Rat := c.grace.toRat?

end Control

/-- What comes of a plan. -/
structure Execution where
  machine : Machine
  events : List Event
  /-- The status of each process that was started; none if it is still running. -/
  children : List (Option Status)
  /-- The status of each stage; none if it could not be started. -/
  result : Except Stop (List (Option Status))
deriving Repr

namespace Execution

/-- As many octets as are read at a time. -/
def chunkSize : Nat := 4096

/-- The texts that come out of a stream, piece by piece. -/
def texts (bytes : Bytes) : List String := Text.decodePieces (Text.piecesOf chunkSize bytes)

/-- The events of what a process writes to its output. -/
def outputEvents (s : Stream) : List Event := (texts s.head).map .write

/-- The events of what a process writes to its error stream. -/
def errorEvents (bytes : Bytes) : List Event := (texts bytes).map .writeError

/-- A plan that stops before its processes have run. -/
def stopped (m : Machine) (stop : Stop) : Execution := ⟨m, [], [], .error stop⟩

/-- What a program is given by a machine. -/
def invocation (m : Machine) (e : Executable) (input : Stream) (outputFile : Option Location) : Invocation where
  name := e.name
  args := e.args
  environment := m.environment
  files := m.files
  input
  outputFile
  awaited := match m.interruption with
    | .whenShown text => some text
    | .atPause => some []
    | _ => none
  asked := m.interruption = .atPause

/-- A process, as it is found when the user interrupts. -/
def childOf (r : Run) : Child :=
  match r.ending with
  | .done status => .done status
  | .waiting _ reaction => .waiting reaction

/-- A process that was started a moment ago. -/
def justStarted : Child := .waiting .usual

/-- Interrupts processes. -/
def interrupt (control : Control) (m : Machine) (events : List Event) (children : List Child) : Execution :=
  let children :=
    if control.terminates then (Termination.run control.patience none children).children else children
  ⟨{ m with interruption := .never }, events, children.map (·.ended), .error (.escape .interrupted)⟩

/-- The status of a process that has run to its end; one that never ends has none. -/
def statusOf (r : Run) : Option Status :=
  match r.ending with
  | .done status => some status
  | .waiting .. => none

/-- The end of a plan whose processes have run: their statuses, or what an interrupt makes of them. -/
def conclude (control : Control) (m : Machine) (events : List Event) (runs : List (Option Run)) : Execution :=
  match m.interruption with
  | .whenShown _ => interrupt control m events ((runs.filterMap id).map childOf)
  | _ => ⟨m, events, (runs.filterMap id).map statusOf, .ok (runs.map fun r => r.bind statusOf)⟩

/-- The stop of a command that cannot be started. -/
def startStop (command : String) : CallFault → Stop
  | .system fault => .error (.spawn command fault)
  | .embeddedNull => .escape (.mishap .embeddedNull)

/-- Finds the program of a stage. -/
def find (m : Machine) (stage : Stage) : Except CallFault Executable :=
  Launch.find m.files m.environment stage.command stage.args

/-- Runs one stage by itself with some input; what it writes goes to the user, or to a file. -/
def single (programs : Programs) (control : Control) (m : Machine) (stage : Stage) (input : Stream)
    (target : Option Handle) : Execution :=
  match find m stage with
  | .error fault => stopped m (startStop stage.command fault)
  | .ok executable =>
    let (m, interrupted) := m.countStart
    if interrupted then interrupt control m [] [justStarted]
    else
      let outputFile := match target with
        | some (.file spot) => some spot
        | _ => none
      let r := programs.run executable.program (invocation m executable input outputFile)
      let files := r.files.seenFrom m.files.place
      match target with
      | none => conclude control { m with files } (outputEvents r.output ++ errorEvents r.errors) [some r]
      | some handle =>
        conclude control { m with files := files.addTo r.output.head handle } (errorEvents r.errors) [some r]

/-- Runs a stage with a file as its input. -/
def withInput (programs : Programs) (control : Control) (m : Machine) (stage : Stage) (path : String) :
    Execution :=
  match m.files.read (Path.ofText path).text with
  | .error (.system fault) => stopped m (.error (.fileRead path fault))
  | .error .embeddedNull => stopped m (.escape (.mishap .embeddedNull))
  | .ok bytes => single programs control m stage (.ofBytes bytes) none

/-- Runs a stage with a file as its output; the file is opened first, whether the program can be started or
not. -/
def withOutput (programs : Programs) (control : Control) (m : Machine) (stage : Stage) (keep : Bool)
    (path : String) : Execution :=
  match m.files.openForWriting keep path with
  | .error (.system fault) => stopped m (.error (.fileWrite path fault))
  | .error .embeddedNull => stopped m (.escape (.mishap .embeddedNull))
  | .ok (files, handle) => single programs control { m with files } stage .empty (some handle)

/-- What happens when the stages of a pipeline are started in turn; an interrupt is noticed at the next
attempt. -/
def happenings (m : Machine) (interrupted : Bool) : List Stage → Machine × List (Happening Executable Escape)
  | [] => (m, [])
  | stage :: rest =>
    if interrupted then
      let (last, others) := happenings m interrupted rest
      (last, ⟨none, .broken .interrupted, none⟩ :: others)
    else
      match find m stage with
      | .ok executable =>
        let (counted, now) := m.countStart
        let (last, others) := happenings counted now rest
        (last, ⟨none, .started executable, none⟩ :: others)
      | .error (.system fault) =>
        let (last, others) := happenings m interrupted rest
        (last, ⟨none, .refused fault, none⟩ :: others)
      | .error .embeddedNull =>
        let (last, others) := happenings m interrupted rest
        (last, ⟨none, .broken (.mishap .embeddedNull), none⟩ :: others)

/-- The errors of the stages that could not be started, in order. -/
def refusals (stages : List Stage) (happened : List (Happening Executable Escape)) : List Event :=
  (stages.zip happened).filterMap fun (stage, h) =>
    match h.start with
    | .refused fault => some (.error (ShellError.spawn stage.command fault).message)
    | _ => none

/-- A writer without end is stopped as soon as nobody reads on. -/
def stopWriter (r : Run) (readerEnded : Bool) : Run :=
  match r.output.tail with
  | .repeating .. => if readerEnded then { r with ending := .done (.killed Status.pipeSignal) } else r
  | _ => r

/-- Runs processes in order, each with the output of the one before as its input; a stage without a process
leaves nothing to read. -/
def runAll (programs : Programs) (m : Machine) (input : Stream) :
    List (Option Executable) → Machine × List (Option Run)
  | [] => (m, [])
  | none :: rest =>
    let (last, runs) := runAll programs m .empty rest
    (last, none :: runs)
  | some executable :: rest =>
    let r := programs.run executable.program (invocation m executable input none)
    let m := { m with files := r.files.seenFrom m.files.place }
    let (last, runs) := runAll programs m r.output rest
    let readerEnded := match runs with
      | some next :: _ => (statusOf next).isSome
      | none :: _ => true
      | [] => false
    (last, some (stopWriter r readerEnded) :: runs)

/-- What a pipeline tells the user: the output of the last process, and the errors of all. -/
def pipelineEvents (runs : List (Option Run)) : List Event :=
  let output := match runs.getLast? with
    | some (some r) => outputEvents r.output
    | _ => []
  output ++ (runs.filterMap id).flatMap fun r => errorEvents r.errors

/-- Runs a pipeline. If its wiring breaks, the processes already started are ended, whatever interrupts do; they have
got as far as they get without waiting. -/
def pipeline (programs : Programs) (control : Control) (m : Machine) (stages : List Stage) : Execution :=
  let (started, happened) := happenings m false stages
  let wiring := Wiring.wire (fun n => (happened[n]?).getD ⟨none, .broken .interrupted, none⟩) stages.length
  let processes := wiring.processes
  match wiring.broken with
  | some cause =>
    let children := (processes.filterMap id).map fun _ => justStarted
    let ended := (Termination.run control.patience none children).children
    let (left, _) := runAll programs { started with interruption := .atPause } .empty processes
    ⟨{ left with interruption := .never }, refusals (stages.take processes.length) happened, ended.map (·.ended),
      .error (.escape cause)⟩
  | none =>
    let refused := refusals stages happened
    let interruptedLast := match m.interruption, started.interruption with
      | .afterStarts _, .never => true
      | _, _ => false
    if interruptedLast then interrupt control started refused ((processes.filterMap id).map fun _ => justStarted)
    else
      let (last, runs) := runAll programs started .empty processes
      conclude control last (refused ++ pipelineEvents runs) runs

/-- Carries out a plan. -/
def run (programs : Programs) (control : Control) (m : Machine) : Plan → Execution
  | .command stage => single programs control m stage .empty none
  | .redirected stage ⟨.read, path⟩ => withInput programs control m stage path
  | .redirected stage ⟨.truncate, path⟩ => withOutput programs control m stage false path
  | .redirected stage ⟨.append, path⟩ => withOutput programs control m stage true path
  | .pipeline first second others => pipeline programs control m (first :: second :: others)

/-- The status of the last stage. -/
def lastStatus (statuses : List (Option Status)) : Option Status := statuses.getLast?.bind id

end Execution

end CommandShell
