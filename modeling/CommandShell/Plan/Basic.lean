import CommandShell.Plan.Token

/-!
# Plans

What a segment asks for: one command, one command with a redirection, or a pipeline. A plan has at least one
stage by construction, and a redirection only ever comes with a single stage.
-/

namespace CommandShell

/-- One program to run: its name and its arguments. -/
structure Stage where
  command : String
  args : List String
deriving DecidableEq, Repr

/-- Which way a redirection leads. -/
inductive RedirectionKind where
  /-- The file is read as standard input. -/
  | read
  /-- Standard output replaces the file's content. -/
  | truncate
  /-- Standard output is added to the file's content. -/
  | append
deriving DecidableEq, Repr

/-- A file that stands in for a standard stream. -/
structure Redirection where
  kind : RedirectionKind
  path : String
deriving DecidableEq, Repr

/-- What a segment asks for. -/
inductive Plan where
  | command (stage : Stage)
  | redirected (stage : Stage) (redirection : Redirection)
  | pipeline (first second : Stage) (others : List Stage)
deriving DecidableEq, Repr

namespace Stage

/-- The stage that a text's words make, if it has any. -/
def ofText? (s : String) : Option Stage :=
  match Text.words s with
  | [] => none
  | command :: args => some ⟨command, args⟩

/-- The name and the arguments together. -/
def words (s : Stage) : List String := s.command :: s.args

end Stage

namespace RedirectionKind

/-- The operator that asks for a redirection. -/
def operator : RedirectionKind → Operator
  | read => .readFrom
  | truncate => .writeTo
  | append => .appendTo

end RedirectionKind

namespace Plan

/-- The stages from first to last. -/
def stages : Plan → List Stage
  | command stage => [stage]
  | redirected stage _ => [stage]
  | pipeline first second others => first :: second :: others

/-- The stage whose status is the plan's status. -/
def lastStage : Plan → Stage
  | command stage => stage
  | redirected stage _ => stage
  | pipeline _ second others => (second :: others).getLast (List.cons_ne_nil _ _)

/-- The redirection, if there is one. -/
def redirection? : Plan → Option Redirection
  | redirected _ redirection => some redirection
  | _ => none

/-- A lone command: the only kind of plan that a registered action can take over. -/
def isSimple : Plan → Bool
  | command _ => true
  | _ => false

/-- A plan of several stages. -/
def isPipeline : Plan → Bool
  | pipeline .. => true
  | _ => false

end Plan

end CommandShell
