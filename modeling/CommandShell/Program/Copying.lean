import CommandShell.Program.Source

/-!
# Programs that pass text on

`cat` joins its sources, `tac` turns the order of lines around, `rev` that of characters in each line, and
`tee` writes what it reads to files as well.
-/

namespace CommandShell.Program

/-- Where joining stands. -/
structure Joining where
  stream : Stream
  errors : String
  failed : Bool
  /-- The input has been read. -/
  used : Bool
deriving DecidableEq, Repr

/-- Adds one source to what has been joined. Nothing comes after a stream that does not end. -/
def joinSource (i : Invocation) (options : Bytes → Bytes) (state : Joining) (operand : String) : Joining :=
  if state.stream.tail ≠ .ended then state
  else
    match sourceOf i operand with
    | .input =>
      if state.used then state
      else { state with stream := ⟨state.stream.head ++ options i.input.head, i.input.tail⟩, used := true }
    | .failed name fault =>
      { state with errors := state.errors ++ about i.name name fault, failed := true }
    | .file name bytes =>
      let same : Bool :=
        match i.files.resolve true name, i.outputFile with
        | .ok (.present spot _), some target => spot = target && !bytes.isEmpty
        | _, _ => false
      if same then
        { state with
          errors := state.errors ++ i.name ++ ": " ++ quoteName name ++ ": input file is output file\n"
          failed := true }
      else { state with stream := ⟨state.stream.head ++ options bytes, .ended⟩ }

/-- Numbers the lines of a text. -/
def numberLines (text : Bytes) : Bytes :=
  let number (n : Nat) : Bytes :=
    let digits := toString n
    Text.encode (String.ofList (List.replicate (6 - digits.length) ' ') ++ digits ++ "\t")
  ((pieces text).zipIdx 1).flatMap fun (line, n) => number n ++ line

/-- Joins files. -/
def cat (i : Invocation) : Run :=
  withOptions i ⟨['n', 'u'], [], [("number", 'n')], false⟩ 1 fun given operands =>
    let options := if gave given 'n' then numberLines else id
    let start : Joining := ⟨.empty, "", false, false⟩
    let state := (if operands.isEmpty then ["-"] else operands).foldl (joinSource i options) start
    let ending : Ending :=
      match state.stream.tail with
      | .ended => .done (.exited (if state.failed then 1 else 0))
      | _ => .waiting none .usual
    ⟨i.files, state.stream, Text.encode state.errors, ending⟩

/-- The lines from last to first. -/
def tac (i : Invocation) : Run :=
  withOptions i ⟨[], [], [], false⟩ 1 fun _ operands =>
    filter i operands (fun name fault => i.name ++ ": failed to open " ++ quoteAlways name ++ " for reading: " ++
      fault.text ++ "\n") fun text => (pieces text).reverse.flatten

/-- Each line with its characters from last to first. -/
def rev (i : Invocation) : Run :=
  withOptions i ⟨[], [], [], false⟩ 1 fun _ operands =>
    filter i operands (fun name fault => i.name ++ ": cannot open " ++ name ++ ": " ++ fault.text ++ "\n")
      fun text => (pieces text).flatMap fun line =>
        if line.getLast? = some 10 then line.dropLast.reverse ++ [10] else line.reverse

/-- Opens the files of `tee`; gives the files, the open ones and what is said of the others. -/
def openAll (name : String) (keep : Bool) (files : Files) : List String → Files × List Handle × String
  | [] => (files, [], "")
  | operand :: rest =>
    match files.openForWriting keep operand with
    | .ok (opened, handle) =>
      let (last, handles, errors) := openAll name keep opened rest
      (last, handle :: handles, errors)
    | .error (.system fault) =>
      let (last, handles, errors) := openAll name keep files rest
      (last, handles, about name operand fault ++ errors)
    | .error .embeddedNull => openAll name keep files rest

/-- Writes what it reads to its output and to files. -/
def tee (i : Invocation) : Run :=
  withOptions i ⟨['a', 'i'], [], [("append", 'a')], false⟩ 1 fun given operands =>
    let (files, handles, errors) := openAll i.name (gave given 'a') i.files operands
    let files := handles.foldl (fun f h => f.addTo i.input.head h) files
    let ending : Ending := if i.input.tail = .ended then .done (.exited (if errors.isEmpty then 0 else 1))
      else .waiting none .usual
    ⟨files, i.input, Text.encode errors, ending⟩

end CommandShell.Program
