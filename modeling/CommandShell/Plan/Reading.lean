import CommandShell.Plan.Basic

/-!
# Reading segments and plans

A line is cut into segments at every semicolon. A segment becomes a plan by the first rule that applies: a
source to read, a pipeline, a file to append to, a file to write to, a plain command.
-/

namespace CommandShell

/-- The segments of a line: the parts between semicolons, trimmed, the empty ones left out. -/
def segments (line : String) : List String :=
  (((Text.splitAtChar ';' line.toList).map Text.trimChars).filter (!·.isEmpty)).map String.ofList

/-- Why a segment makes no plan. -/
inductive PlanFault where
  | emptyCommand
  | missingCommand
  | missingFile (op : Operator)
  | emptyStage
deriving DecidableEq, Repr

/-- The wording of a fault. -/
def PlanFault.reason : PlanFault → String
  | emptyCommand => "empty command"
  | missingCommand => "missing command"
  | missingFile op => "missing file after '" ++ op.symbol ++ "'"
  | emptyStage => "empty pipeline stage"

/-- A segment that makes no plan. -/
structure ParseError where
  segment : String
  fault : PlanFault
deriving DecidableEq, Repr

namespace Plan

/-- The characters of a text from one position up to another. -/
def slice (cs : List Char) (start stop : Nat) : String := String.ofList ((cs.drop start).take (stop - start))

/-- A command with a redirection: the operator stands between the given positions. -/
def readRedirected (text : String) (kind : RedirectionKind) (start stop : Nat) : Except PlanFault Plan :=
  let cs := text.toList
  match Stage.ofText? (slice cs 0 start) with
  | none => .error .missingCommand
  | some stage =>
    let path := String.ofList (Text.trimChars (cs.drop stop))
    if path.isEmpty then .error (.missingFile kind.operator) else .ok (.redirected stage ⟨kind, path⟩)

/-- The texts between operators that stand at the given positions, and those before the first and after the
last. -/
def slicesBetween (cs : List Char) (start : Nat) : List (Nat × Nat) → List String
  | [] => [String.ofList (cs.drop start)]
  | (first, after) :: others => slice cs start first :: slicesBetween cs after others

/-- A pipeline whose operators stand at the given positions. -/
def readPipeline (text : String) (pipes : List (Nat × Nat)) : Except PlanFault Plan :=
  match (slicesBetween text.toList 0 pipes).mapM Stage.ofText? with
  | some (first :: second :: others) => .ok (.pipeline first second others)
  | _ => .error .emptyStage

/-- The plan of a trimmed text. -/
def readTrimmed (text : String) : Except PlanFault Plan :=
  let tokens := Token.scan text
  let pipes := Token.occurrences .pipe tokens
  match Token.occurrences .readFrom tokens, pipes, Token.occurrences .appendTo tokens,
      Token.occurrences .writeTo tokens with
  | (start, stop) :: _, _, _, _ => readRedirected text .read start stop
  | [], _ :: _, _, _ => readPipeline text pipes
  | [], [], (start, stop) :: _, _ => readRedirected text .append start stop
  | [], [], [], (start, stop) :: _ => readRedirected text .truncate start stop
  | [], [], [], [] =>
    match Stage.ofText? text with
    | some stage => .ok (.command stage)
    | none => .error .missingCommand

/-- The plan of a segment, or why there is none. -/
def ofSegment (segment : String) : Except ParseError Plan :=
  let text := Text.trim segment
  if (Token.scan text).isEmpty then .error ⟨segment, .emptyCommand⟩
  else (readTrimmed text).mapError (ParseError.mk text)

end Plan

end CommandShell
