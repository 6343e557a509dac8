import CommandShell.Program.Option

/-!
# What programs read

A program that filters text reads the files that its operands name, one after another, or its input if there
are none or a dash stands for it. A file that cannot be read is complained about, and reading goes on with the
next.
-/

namespace CommandShell.Program

/-- What one operand leads to. -/
inductive Source where
  /-- The program's own input. -/
  | input
  | file (name : String) (bytes : Bytes)
  | failed (name : String) (fault : SystemFault)
deriving DecidableEq, Repr

/-- Opens what an operand names. -/
def sourceOf (i : Invocation) (operand : String) : Source :=
  if operand = "-" then .input
  else
    match i.files.read operand with
    | .ok bytes => .file operand bytes
    | .error (.system fault) => .failed operand fault
    | .error .embeddedNull => .failed operand .invalid

/-- What the operands lead to; without operands it is the input. -/
def sourcesOf (i : Invocation) (operands : List String) : List Source :=
  if operands.isEmpty then [.input] else operands.map (sourceOf i)

/-- The octets of the input if it has ended; the input is used up by whoever reads it first. -/
def wholeInput? (i : Invocation) : Option Bytes :=
  match i.input.tail with
  | .ended => some i.input.head
  | _ => none

/-- The lines of some octets, without the line feeds; an unfinished last line is a line. -/
def linesOf : Bytes → List Bytes
  | [] => []
  | b :: rest =>
    if b = 10 then [] :: linesOf rest
    else
      match linesOf rest, rest with
      | line :: lines, _ :: _ => (b :: line) :: lines
      | lines, _ => [b] :: lines

/-- Lines, each with a line feed. -/
def unlines (lines : List Bytes) : Bytes := lines.flatMap (· ++ [10])

/-- Cuts octets after each line feed. -/
def pieces : Bytes → List Bytes
  | [] => []
  | b :: rest =>
    if b = 10 then [b] :: pieces rest
    else
      match pieces rest with
      | piece :: more => (b :: piece) :: more
      | [] => [[b]]

/-- A filter of the whole text of its sources. -/
def filter (i : Invocation) (operands : List String) (complaint : String → SystemFault → String)
    (f : Bytes → Bytes) : Run :=
  let sources := sourcesOf i operands
  let errors := String.join (sources.map fun
    | .failed name fault => complaint name fault
    | _ => "")
  let failed := sources.any fun
    | .failed .. => true
    | _ => false
  if sources.contains .input && (wholeInput? i).isNone then i.await [] (Text.encode errors)
  else
    let collect : List Source × Bytes → Source → List Source × Bytes := fun (seen, bytes) source =>
      (seen ++ [source], bytes ++ match source with
        | .input => if seen.contains .input then [] else i.input.head
        | .file _ content => content
        | .failed .. => [])
    let text := (sources.foldl collect ([], [])).2
    i.finish (f text) (Text.encode errors) (if failed then 1 else 0)

/-- What most programs say of a file that they cannot open. -/
def cannotOpen (program name : String) (fault : SystemFault) : String :=
  if fault = .isDirectory then program ++ ": error reading " ++ quoteAlways name ++ ": " ++ fault.text ++ "\n"
  else program ++ ": cannot open " ++ quoteAlways name ++ " for reading: " ++ fault.text ++ "\n"

end CommandShell.Program
