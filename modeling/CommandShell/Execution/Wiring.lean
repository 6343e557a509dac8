import CommandShell.Files.Fault

/-!
# Wiring a pipeline

The stages of a pipeline are started from first to last, and a pipe is made before each stage but the last.
The one who starts them holds, when a stage's turn comes, the reading end of the pipe before it and nothing
else; when the attempt to start it is over, both that end and the writing end of the stage's own pipe are
closed. A stage that cannot be started is reported and leaves its pipe empty. If anything else breaks,
whatever is held is closed, what was prepared for the streams is dropped, and the processes already started
are told to end.

What happens at each stage is given from outside, so that the loop can be followed through every turn of
events.
-/

namespace CommandShell

/-- An end of a pipe; pipes are numbered by the stage that writes to them. -/
inductive PipeEnd where
  | reading (pipe : Nat)
  | writing (pipe : Nat)
deriving DecidableEq, Repr

/-- How the attempt to start a stage ends. -/
inductive Start (Process Cause : Type) where
  | started (process : Process)
  | refused (fault : SystemFault)
  | broken (cause : Cause)
deriving DecidableEq, Repr

/-- What happens at a stage when its turn comes. -/
structure Happening (Process Cause : Type) where
  /-- What breaks when its pipe is made, if anything does. -/
  pipe : Option Cause
  start : Start Process Cause
  /-- What breaks when a refusal is reported, if anything does. -/
  report : Option Cause
deriving DecidableEq, Repr

/-- A stream that has to be read to its end. -/
inductive Pump where
  | errors (stage : Nat)
  | output (stage : Nat)
deriving DecidableEq, Repr

/-- One step of the wiring. -/
inductive WiringStep where
  | opened (pipe : Nat)
  /-- The attempt to start a stage is over; with the ends that stand for its input and its output. -/
  | tried (stage : Nat) (input output : Option PipeEnd)
  | closed (e : PipeEnd)
  | reported (stage : Nat)
  | dropped (pumps : List Pump)
  /-- The processes of the stages begun so far are told to end; those of stages that were refused are none. -/
  | ended
deriving DecidableEq, Repr

/-- What comes of the wiring. -/
structure Wiring (Process Cause : Type) where
  steps : List WiringStep
  processes : List (Option Process)
  pumps : List Pump
  /-- What broke the loop, if it was left early. -/
  broken : Option Cause
deriving DecidableEq, Repr

namespace Wiring

variable {Process Cause : Type}

/-- Closes an end if one is held. -/
def close : Option PipeEnd → List WiringStep
  | some e => [.closed e]
  | none => []

/-- Leaves the loop early: closes what is held, drops the pumps, ends the processes. -/
def unwind (held : List (Option PipeEnd)) (processes : List (Option Process)) (pumps : List Pump) (cause : Cause) :
    Wiring Process Cause :=
  ⟨held.flatMap close ++ [.dropped pumps, .ended], processes, pumps, some cause⟩

/-- Steps that come before. -/
def after (steps : List WiringStep) (w : Wiring Process Cause) : Wiring Process Cause :=
  { w with steps := steps ++ w.steps }

/-- Starts the remaining stages, from `stage` on. `held` is the reading end of the pipe before the stage. -/
def wireFrom (happens : Nat → Happening Process Cause) (stage : Nat) (held : Option PipeEnd)
    (processes : List (Option Process)) (pumps : List Pump) : Nat → Wiring Process Cause
  | 0 => ⟨[], processes, pumps, none⟩
  | remaining + 1 =>
    let isLast := remaining = 0
    let h := happens stage
    match (if isLast then none else h.pipe) with
    | some cause => unwind [held] processes pumps cause
    | none =>
      let next : Option PipeEnd := if isLast then none else some (.reading stage)
      let output : Option PipeEnd := if isLast then none else some (.writing stage)
      let opened : List WiringStep := if isLast then [] else [.opened stage]
      let tried := opened ++ [.tried stage held output]
      let closing := close held ++ close output
      match h.start with
      | .broken cause => (unwind [next] processes pumps cause).after (tried ++ closing)
      | .refused _ =>
        match h.report with
        | some cause => (unwind [next] processes pumps cause).after (tried ++ [.reported stage] ++ closing)
        | none =>
          (wireFrom happens (stage + 1) next (processes ++ [none]) pumps remaining).after
            (tried ++ [.reported stage] ++ closing)
      | .started process =>
        let pumps := pumps ++ [.errors stage] ++ (if isLast then [.output stage] else [])
        (wireFrom happens (stage + 1) next (processes ++ [some process]) pumps remaining).after (tried ++ closing)

/-- Starts the stages of a pipeline. -/
def wire (happens : Nat → Happening Process Cause) (stages : Nat) : Wiring Process Cause :=
  wireFrom happens 0 none [] [] stages

end Wiring

end CommandShell
