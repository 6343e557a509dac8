import CommandShell.Builtin.Table
import CommandShell.Shell.Basic
import CommandShell.Text.Quoted

/-!
# Running lines

A line is recorded and its segments are run in order until the user has asked to leave. A segment is a plan; a
lone command whose name is registered is run by the shell itself, and everything else by programs. Errors are
reported at the end of their segment and do not stop the line.

An alias is not expanded again within its own expansion. So the aliases that are not being expanded become
fewer with every expansion (`unexpanded_lt`), which is why running a segment comes to an end.
-/

namespace CommandShell

namespace Registry

/-- The names that stand for aliases. -/
def aliasNames (r : Registry) : List String :=
  r.actions.filterMap fun (name, action) => if action.isAlias then some name else none

private theorem mem_of_lookup {name : String} {action : Action} {actions : List (String × Action)}
    (h : actions.lookup name = some action) : (name, action) ∈ actions := by
  induction actions with
  | nil => simp at h
  | cons entry rest ih =>
    obtain ⟨key, value⟩ := entry
    by_cases hk : name = key
    · subst hk
      simp_all
    · have : (name == key) = false := by simpa using hk
      rw [List.lookup_cons, this] at h
      exact List.mem_cons_of_mem _ (ih h)

theorem mem_aliasNames {r : Registry} {name line : String} (h : r.find? name = some (.aliasOf line)) :
    name ∈ r.aliasNames := by
  have := mem_of_lookup h
  exact List.mem_filterMap.2 ⟨(name, .aliasOf line), this, by simp [Action.isAlias]⟩

end Registry

namespace Shell

/-- The number of aliases that are not being expanded. -/
def unexpanded (s : Shell) : Nat := (s.registry.aliasNames.filter (!s.expanding.contains ·)).length

/-- The shell while an alias is being expanded. -/
def expand (s : Shell) (name : String) : Shell := { s with expanding := name :: s.expanding }

/-- The shell after the expansion of an alias. -/
def endExpansion (s : Shell) (name : String) : Shell := { s with expanding := s.expanding.filter (· ≠ name) }

theorem unexpanded_lt {s : Shell} {name line : String} (h : s.registry.find? name = some (.aliasOf line))
    (hn : s.expanding.contains name = false) : (s.expand name).unexpanded < s.unexpanded := by
  have hm := Registry.mem_aliasNames h
  have heq : s.registry.aliasNames.filter (!(s.expand name).expanding.contains ·) =
      (s.registry.aliasNames.filter (!s.expanding.contains ·)).filter (· ≠ name) := by
    rw [List.filter_filter]
    refine List.filter_congr fun x _ => ?_
    by_cases hx : x = name <;> simp [expand, hx]
  unfold unexpanded
  show ((s.registry.aliasNames.filter (!(s.expand name).expanding.contains ·))).length < _
  rw [heq]
  refine List.length_filter_lt_length_iff_exists.2 ⟨name, ?_, by simp⟩
  exact List.mem_filter.2 ⟨hm, by simpa using hn⟩

/-- Runs a handler with its arguments. -/
def runHandler (programs : Programs) (rerun : Shell → String → Shell × Option Escape) (s : Shell) (stage : Stage)
    (handler : Handler) : Shell × Option Stop :=
  let error (c : Complaint) (name : String) : Option Stop := some (.error (.builtin name c))
  match handler with
  | .builtin b =>
    match Builtin.run programs b s stage.args with
    | (s, none) => (s, none)
    | (s, some (.complaint c)) => (s, error c b.name)
    | (s, some (.mishap m)) => (s, error (.mishap m) stage.command)
    | (s, some .interrupted) => (s, some (.escape .interrupted))
  | .record label => (s.tell (.write (label ++ Text.asciiList stage.args ++ "\n")), none)
  | .fail text => (s, error (.mishap (.raised text)) stage.command)
  | .refuse name => (s, error (.words (Text.spaced stage.args)) name)
  | .rerun line =>
    match rerun s line with
    | (s, none) => (s, none)
    | (s, some (.mishap m)) => (s, error (.mishap m) stage.command)
    | (s, some .interrupted) => (s, some (.escape .interrupted))

/-- Runs a stage if its command is registered, and tells whether it was. An alias becomes the segment of its
command line and the arguments. -/
def dispatchWith (programs : Programs) (rerun : Shell → String → Shell × Option Escape) (s : Shell)
    (runInner : (t : Shell) → t.unexpanded < s.unexpanded → String → Shell × Option Escape) (stage : Stage) :
    Shell × Except Stop Bool :=
  match h : s.registry.find? stage.command with
  | none => (s, .ok false)
  | some (.native handler _) =>
    match runHandler programs rerun s stage handler with
    | (after, none) => (after.endExpansion stage.command, .ok true)
    | (after, some stop) => (after.endExpansion stage.command, .error stop)
  | some (.aliasOf line) =>
    if hn : s.expanding.contains stage.command = false then
      match runInner (s.expand stage.command) (unexpanded_lt h hn) (Text.spaced (line :: stage.args)) with
      | (after, none) => (after.endExpansion stage.command, .ok true)
      | (after, some (.mishap m)) =>
        (after.endExpansion stage.command, .error (.error (.builtin stage.command (.mishap m))))
      | (after, some .interrupted) => (after.endExpansion stage.command, .error (.escape .interrupted))
    else (s, .ok false)

/-- Has programs carry out a plan, and complains if the last of them does not end well. -/
def execute (programs : Programs) (s : Shell) (plan : Plan) : Shell × Option Stop :=
  let e := Execution.run programs s.control s.machine plan
  let after := ({ s with machine := e.machine } : Shell).tellAll e.events
  match e.result with
  | .error stop => (after, some stop)
  | .ok statuses =>
    match Execution.lastStatus statuses with
    | some status =>
      if status.toInt = 0 then (after, none)
      else (after, some (.error (.status plan.lastStage.command status.toInt)))
    | none => (after, none)

/-- Ends a segment: an error is reported, and anything else that stops it goes on. -/
def report : Shell × Option Stop → Shell × Option Escape
  | (s, none) => (s, none)
  | (s, some (.error e)) => (s.tell (.error e.message), none)
  | (s, some (.escape e)) => (s, some e)

/-- Runs what a segment reads as. -/
def runReadWith (programs : Programs) (rerun : Shell → String → Shell × Option Escape) (s : Shell)
    (runInner : (t : Shell) → t.unexpanded < s.unexpanded → String → Shell × Option Escape) :
    Except ParseError Plan → Shell × Option Stop
  | .error e => (s, some (.error (.parse e)))
  | .ok (.command stage) =>
    match dispatchWith programs rerun s runInner stage with
    | (after, .ok true) => (after, none)
    | (after, .ok false) => execute programs after (.command stage)
    | (after, .error stop) => (after, some stop)
  | .ok plan => execute programs s plan

/-- Runs a segment. -/
def runSegmentWith (programs : Programs) (rerun : Shell → String → Shell × Option Escape) (s : Shell)
    (segment : String) : Shell × Option Escape :=
  report (runReadWith programs rerun s (fun t _ text => runSegmentWith programs rerun t text)
    (Plan.ofSegment segment))
termination_by s.unexpanded

/-- Runs segments in order until the user has asked to leave, or something stops the line. -/
def runSegments (runOne : Shell → String → Shell × Option Escape) (s : Shell) :
    List String → Shell × Option Escape
  | [] => (s, none)
  | segment :: rest =>
    if s.exitRequested then (s, none)
    else
      match runOne s segment with
      | (after, none) => runSegments runOne after rest
      | (after, some e) => (after, some e)

/-- How many lines may be run within one another. -/
def nestingLimit : Nat := 100

/-- What is said of lines that are run within one another without end. -/
def nestingText : String := "maximum recursion depth exceeded"

/-- Runs a line that may have lines run within it, up to a depth. -/
def runNested (programs : Programs) : Nat → Shell → String → Shell × Option Escape
  | 0, s, _ => (s, some (.mishap (.raised nestingText)))
  | depth + 1, s, line =>
    runSegments (runSegmentWith programs (runNested programs depth)) { s with history := s.history.append line }
      (segments line)

/-- Records a line and runs its segments. -/
def run (programs : Programs) (s : Shell) (line : String) : Shell × Option Escape :=
  runNested programs nestingLimit s line

/-- Runs a segment. -/
def runSegment (programs : Programs) (s : Shell) (segment : String) : Shell × Option Escape :=
  runSegmentWith programs (runNested programs (nestingLimit - 1)) s segment

/-- Runs a stage if its command is registered, and tells whether it was. -/
def dispatch (programs : Programs) (s : Shell) (stage : Stage) : Shell × Except Stop Bool :=
  let rerun := runNested programs (nestingLimit - 1)
  dispatchWith programs rerun s (fun t _ text => runSegmentWith programs rerun t text) stage

end Shell

end CommandShell
