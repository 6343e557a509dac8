import CommandShell.Program.Basic

/-!
# Finding programs

A command with a slash names its file; any other is looked for in the directories of the search path. A file
that cannot be run does not end the search, but its fault is remembered and wins over those that say that
nothing is there. A file that begins with a number sign and an exclamation mark is run by the interpreter that
its first line names.
-/

namespace CommandShell

/-- A program to run: its name on the system, the name it is called by, and its arguments. -/
structure Executable where
  program : String
  name : String
  args : List String
deriving DecidableEq, Repr

namespace Launch

/-- The longest argument, in octets, its end mark included. -/
def longestArgument : Nat := 131072

/-- The search path of an environment that has none. -/
def standardPath : String := "/bin:/usr/bin"

/-- How many interpreters may stand behind one another. -/
def interpreterLimit : Nat := 5

/-- As much of a file as is looked at to find its interpreter. -/
def markLength : Nat := 256

/-- The blanks within the first line. -/
def isMarkBlank (b : UInt8) : Bool := b = 32 || b = 9

/-- The interpreter that a file names, and its argument if there is one; `none` if it names none. -/
def interpreter? (bytes : Bytes) : Option (String × Option String) :=
  match bytes.take markLength with
  | 0x23 :: 0x21 :: rest =>
    let line := ((rest.takeWhile (· ≠ 10)).dropWhile isMarkBlank).reverse.dropWhile isMarkBlank |>.reverse
    let name := line.takeWhile (!isMarkBlank ·)
    let argument := (line.drop name.length).dropWhile isMarkBlank
    if name.isEmpty then none
    else some (Text.decode name, if argument.isEmpty then none else some (Text.decode argument))
  | _ => none

/-- What runs when the file at a path is run. The fuel is the number of interpreters still allowed. -/
def executableAt (files : Files) : Nat → String → String → List String → Except SystemFault Executable
  | fuel, path, name, args =>
    match files.resolve true path with
    | .error (.system fault) => .error fault
    | .error .embeddedNull => .error .invalid
    | .ok (.vacant ..) => .error .noEntry
    | .ok (.removed _) => .error .permission
    | .ok (.present _ e) =>
      match e.content with
      | .program program => if e.executable then .ok ⟨program, name, args⟩ else .error .permission
      | .file bytes =>
        if !e.executable then .error .permission
        else
          match interpreter? bytes, fuel with
          | none, _ => .error .notExecutable
          | some _, 0 => .error .tooManyLinks
          | some (interpreter, argument), fuel + 1 =>
            executableAt files fuel interpreter interpreter (argument.toList ++ path :: args)
      | _ => .error .permission

/-- Whether a command names its file. -/
def namesFile (command : String) : Bool := command.toList.contains '/'

/-- A directory and a name within it. -/
def joined (directory name : String) : String :=
  if directory.isEmpty || directory.endsWith "/" then directory ++ name else directory ++ "/" ++ name

/-- The paths at which a command is looked for, in order. -/
def candidates (env : Environment) (command : String) : List String :=
  if namesFile command then [command]
  else
    ((Text.splitAtChar ':' ((env.find? "PATH").getD standardPath).toList).map String.ofList).map
      fun directory => joined directory command

/-- A fault that only says that there is nothing. -/
def saysNothingThere (fault : SystemFault) : Bool := fault = .noEntry || fault = .notDirectory

/-- The first candidate that can be run. A fault that has been remembered wins over the last one. -/
def firstExecutable (files : Files) (name : String) (args : List String) (remembered : Option SystemFault)
    (last : SystemFault) : List String → Except SystemFault Executable
  | [] => .error (remembered.getD last)
  | path :: rest =>
    match executableAt files interpreterLimit path name args with
    | .ok executable => .ok executable
    | .error fault =>
      firstExecutable files name args
        (if remembered.isNone && !saysNothingThere fault then some fault else remembered) fault rest

/-- Finds the program for a command and its arguments. -/
def find (files : Files) (env : Environment) (command : String) (args : List String) :
    Except CallFault Executable :=
  if (command :: args).any (·.toList.contains (Char.ofNat 0)) then .error .embeddedNull
  else if (command :: args).any (·.utf8ByteSize ≥ longestArgument) then .error (.system .argumentsTooLong)
  else (firstExecutable files command args none .noEntry (candidates env command)).mapError .system

end Launch

end CommandShell
