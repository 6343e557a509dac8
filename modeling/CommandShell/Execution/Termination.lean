import CommandShell.Program.Basic

/-!
# Ending processes

Processes that are still running are asked to end, and those that have not done so when a period of grace is
over are killed. An interrupt that comes while the period of grace is waited out breaks it off, and then
nobody is killed.
-/

namespace CommandShell

/-- A process that was started. -/
structure Child where
  /-- Its status, once it has ended and that has been noticed. -/
  ended : Option Status
  /-- When, in seconds from now, it ends of its own accord. -/
  leaves : Option (Rat × Status)
  reaction : Reaction
deriving DecidableEq, Repr

/-- A request to end. -/
inductive Signal where
  | terminate
  | kill
deriving DecidableEq, Repr

namespace Child

/-- A process that ended. -/
def done (status : Status) : Child := ⟨some status, none, .ignores⟩

/-- A process that waits. -/
def waiting (reaction : Reaction) : Child := ⟨none, none, reaction⟩

/-- A process that is running. -/
def isRunning (c : Child) : Bool := c.ended.isNone

/-- When and how a process ends that is asked to now. -/
def endOnRequest (c : Child) : Option (Rat × Status) :=
  match c.reaction, c.leaves with
  | .ends delay status, some (own, ownStatus) =>
    if own ≤ delay then some (own, ownStatus) else some (delay, status)
  | .ends delay status, none => some (delay, status)
  | .ignores, leaves => leaves

/-- Whether a process has ended by a time after it was asked to. -/
def endsBy (c : Child) (time : Option Rat) : Option Status :=
  match c.endOnRequest, time with
  | some (moment, status), some t => if moment ≤ t then some status else none
  | some (_, status), none => some status
  | none, _ => none

end Child

/-- What comes of ending some processes. -/
structure Termination where
  /-- The signals sent, each with the number of the process, in order. -/
  signals : List (Nat × Signal)
  children : List Child
  /-- A further interrupt broke it off. -/
  brokenOff : Bool
deriving DecidableEq, Repr

namespace Termination

/-- The numbers of the processes that have a property. -/
def numbersWhere (p : Child → Bool) (children : List Child) : List Nat :=
  (children.zipIdx.filter fun (c, _) => p c).map (·.2)

/-- The later of two times. -/
def later (s t : Rat) : Rat := if s ≤ t then t else s

/-- The earlier of two times. -/
def earlier (s t : Rat) : Rat := if s ≤ t then s else t

/-- The time at which the last of the running processes has ended; `none` if one of them never does. -/
def allEnded (children : List Child) : Option Rat :=
  (children.filter Child.isRunning).foldl
    (fun latest c =>
      match latest, c.endOnRequest with
      | some t, some (moment, _) => some (later t moment)
      | _, _ => none)
    (some 0)

/-- What has become of the processes a time after they were asked to end. -/
def settle (time : Option Rat) (children : List Child) : List Child :=
  children.map fun c =>
    if c.isRunning then
      match c.endsBy time with
      | some status => .done status
      | none => c
    else c

/-- Asks the running processes to end, waits for the period of grace (`none`: without limit) or until all have
ended, and kills the rest. `again` is when a further interrupt comes, if one does. -/
def run (grace : Option Rat) (again : Option Rat) (children : List Child) : Termination :=
  if children.all (!·.isRunning) then ⟨[], children, false⟩
  else
    let requests := (numbersWhere Child.isRunning children).map fun n => (n, Signal.terminate)
    let waitsUntil : Option Rat := match allEnded children, grace with
      | some t, some g => some (earlier t g)
      | some t, none => some t
      | none, g => g
    let interrupted := match again, waitsUntil with
      | some a, some t => decide (a < t)
      | some _, none => true
      | none, _ => false
    if interrupted then ⟨requests, settle again children, true⟩
    else
      let settled := settle grace children
      let kills := (numbersWhere Child.isRunning settled).map fun n => (n, Signal.kill)
      ⟨requests ++ kills,
        settled.map fun c => if c.isRunning then .done (.killed Status.killSignal) else c, false⟩

end Termination

end CommandShell
