import CommandShell.Shell.Basic
import CommandShell.Text.Line

/-!
# Built-ins that work on files

Each takes its operand as a path in normal form and names it in complaints as the user wrote it.
-/

namespace CommandShell.Builtin

/-- The first argument that is no option. -/
def firstOperand? (args : List String) : Option String := args.find? fun a => !a.startsWith "-"

/-- The text that the system gets for a path. -/
def pathText (operand : String) : String := (Path.ofText operand).text

/-- Why a path has no home directory to start from: no account has the name at its front, or the name is no
name. -/
def homeless (p : Path) : Mishap :=
  if (p.names.headD "").toList.contains (Char.ofNat 0) then .embeddedNull else .noHome

/-- Changes the working directory; without an operand, to the home directory. -/
def changeDirectory (s : Shell) (args : List String) : Outcome :=
  let env := s.machine.environment
  let target? : Option String := match args with
    | target :: _ => some target
    | [] => env.homePath.map Path.text
  match target? with
  | none => Outcome.fail s .noHome
  | some target =>
    let path := Path.ofText target
    match env.expandHome path with
    | none => Outcome.fail s (homeless path)
    | some path =>
      match s.files.changeDirectory path.text with
      | .ok files => Outcome.well (s.setFiles files)
      | .error fault => Outcome.refuse s target fault

/-- Prints the working directory. -/
def printDirectory (s : Shell) : Outcome :=
  match s.files.workingDirectory? with
  | some text => Outcome.well (s.writeLine text)
  | none => Outcome.fail s (.system .noEntry none)

/-- Makes a directory and those above it. -/
def makeDirectory (s : Shell) (args : List String) : Outcome :=
  match args with
  | [] => Outcome.complain s .missingDirectoryName
  | operand :: _ =>
    let path := Path.ofText operand
    match s.files.makeDirectories path.root path.names with
    | .ok files => Outcome.well (s.setFiles files)
    | .error fault => Outcome.refuse s operand fault

/-- The options that let a directory be removed with what is in it. -/
def recursiveOptions : List String := ["-r", "-rf"]

/-- Removes an entry, and with an option for it a directory with what is in it. -/
def remove (s : Shell) (args : List String) : Outcome :=
  match firstOperand? args with
  | none => Outcome.complain s .missingEntryName
  | some operand =>
    let path := pathText operand
    if recursiveOptions.any args.contains then
      match s.files.isDirectory path with
      | .error fault => Outcome.complain s (.system fault operand)
      | .ok true =>
        match s.files.isLink path with
        | .error fault => Outcome.complain s (.system fault operand)
        | .ok true => unlinkUnlessAbsent operand path
        | .ok false =>
          match s.files.removeTree path with
          | (files, none) => Outcome.well (s.setFiles files)
          | (files, some fault) => Outcome.refuse (s.setFiles files) operand fault
      | .ok false => unlinkUnlessAbsent operand path
    else
      match s.files.unlink path with
      | .ok files => Outcome.well (s.setFiles files)
      | .error fault => Outcome.refuse s operand fault
where
  /-- Removes an entry that is no directory; there need not be one. -/
  unlinkUnlessAbsent (operand path : String) : Outcome :=
    match s.files.unlink path with
    | .ok files => Outcome.well (s.setFiles files)
    | .error (.system .noEntry) => Outcome.well s
    | .error fault => Outcome.refuse s operand fault

/-- Makes a file if it is not there. -/
def touchFile (s : Shell) (args : List String) : Outcome :=
  match args with
  | [] => Outcome.complain s .missingFileName
  | operand :: _ =>
    match s.files.touch (pathText operand) with
    | .ok files => Outcome.well (s.setFiles files)
    | .error fault => Outcome.refuse s operand fault

/-- Prints a file, with its line ends made uniform. -/
def printFile (s : Shell) (args : List String) : Outcome :=
  match args with
  | [] => Outcome.complain s .missingFileName
  | operand :: _ =>
    match s.files.read (pathText operand) with
    | .ok bytes =>
      Outcome.well (s.writeLine (String.ofList (Text.uniformNewlines (Text.decode bytes).toList)))
    | .error fault => Outcome.refuse s operand fault

/-- The options that show names which begin with a dot. -/
def hiddenOptions : List String := ["-a", "-la", "-al"]

/-- How an entry is shown in a listing: directories and programs are marked. -/
def listed (files : Files) (path name : String) : Except SystemFault String := do
  let shown := Markup.escape name
  if ← files.isDirectory path then return Markup.within "blue" (shown ++ "/")
  if (← files.isFile path) && files.isExecutable path then return Markup.within "green" (shown ++ "*")
  return shown

/-- Shows the entries of a directory one after another; a fault ends it. -/
def listEntries (directory : Path) : Shell → List String → Outcome
  | s, [] => Outcome.well s
  | s, name :: rest =>
    let path := (directory.child name).text
    match listed s.files path name with
    | .ok shown => listEntries directory (s.inform shown) rest
    | .error fault => Outcome.fail s (.system fault (some path))

/-- Lists a directory. -/
def listDirectory (s : Shell) (args : List String) : Outcome :=
  let operand := match firstOperand? args with
    | some "" | none => "."
    | some operand => operand
  let directory := Path.ofText operand
  match s.files.list directory.text with
  | .error fault => Outcome.refuse s operand fault
  | .ok names =>
    let showsHidden := hiddenOptions.any args.contains
    listEntries directory s (names.filter fun name => showsHidden || !name.startsWith ".")

/-- Prints the entries below a directory whose names hold a pattern, each directory before its content. A
directory that cannot be listed is reported in its place. The fuel is the number of levels. -/
def findBelow (pattern : String) : Nat → Shell → Path → Outcome
  | 0, s, _ => Outcome.well s
  | fuel + 1, s, directory =>
    match s.files.list directory.text with
    | .error (.system fault) =>
      Outcome.well (s.tell (.error ("find: " ++ (Complaint.system fault directory.text).text)))
    | .error .embeddedNull => Outcome.fail s .embeddedNull
    | .ok names =>
      names.foldl
        (fun (state : Outcome) name =>
          match state with
          | (s, some failure) => (s, some failure)
          | (s, none) =>
            let entry := directory.child name
            let s := if Text.occurs pattern name then s.writeLine entry.text else s
            match s.files.isDirectory entry.text, s.files.isLink entry.text with
            | .error fault, _ => Outcome.fail s (.system fault (some entry.text))
            | .ok false, _ => Outcome.well s
            | .ok true, .error fault => Outcome.fail s (.system fault (some entry.text))
            | .ok true, .ok true => Outcome.well s
            | .ok true, .ok false => findBelow pattern fuel s entry)
        (Outcome.well s)

/-- The option that a pattern follows. -/
def nameOption : String := "-name"

/-- Finds entries by their names. -/
def findEntries (s : Shell) (args : List String) : Outcome :=
  match args with
  | first :: _ :: _ =>
    match (args.dropWhile (· ≠ nameOption)).drop 1 with
    | pattern :: _ => findBelow pattern (s.files.tree.depth + 1) s (Path.ofText first)
    | [] => Outcome.complain s .findPattern
  | _ => Outcome.complain s .findUsage

end CommandShell.Builtin
