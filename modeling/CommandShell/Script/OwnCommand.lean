import CommandShell.Program.Launch
import CommandShell.Program.Printing
import CommandShell.Script.Condition
import CommandShell.Script.Expansion
import CommandShell.Script.Signal

/-!
# Commands that scripts run themselves

The commands that need no other command to be run: those that write, that ask questions, and that change variables,
options, arguments, the working directory or what is done when the script ends.
-/

namespace CommandShell.Script

/-- The status that a text writes; it is taken modulo 256. -/
def readCode? (text : String) : Option Nat := (Number.readNatural? text.toList).map (· % 256)

/-- The part of a word before its first equals sign. -/
def nameBefore (word : String) : String := String.ofList (word.toList.takeWhile (· ≠ '='))

/-- The part of a word after its first equals sign. -/
def valueAfter? (word : String) : Option String :=
  match word.toList.dropWhile (· ≠ '=') with
  | _ :: value => some (String.ofList value)
  | [] => none

/-- A line that has been read: its octets, each with the mark of having stood after a backslash. -/
abbrev ReadLine := List (UInt8 × Bool)

namespace ReadLine

/-- A blank between words. -/
def separates (b : UInt8 × Bool) : Bool := (b.1 = 32 || b.1 = 9 || b.1 = 10) && !b.2

/-- The text of a line. -/
def text (line : ReadLine) : String := Text.decode (line.map (·.1))

end ReadLine

/-- Takes a line off the front of some octets; there is nothing after it if no line feed ends it. A backslash makes
the next octet one of the line, or joins the next line to it, unless it is to stand for itself. -/
def takeLine (raw : Bool) : Bytes → ReadLine × Option Bytes
  | [] => ([], none)
  | 10 :: rest => ([], some rest)
  | 0x5C :: rest =>
    if raw then let (line, after) := takeLine raw rest; ((0x5C, false) :: line, after)
    else
      match rest with
      | [] => ([], none)
      | 10 :: joined => takeLine raw joined
      | b :: others => let (line, after) := takeLine raw others; ((b, true) :: line, after)
  | b :: rest => let (line, after) := takeLine raw rest; ((b, false) :: line, after)

namespace State

/-- A complaint of a command, and its status. -/
def refuse (s : State) (command text : String) (code : Nat) : State × Flow :=
  (s.complain (command ++ ": " ++ text)).done code

/-- Writes a line. -/
def printLine (s : State) (text : String) : State := s.print (Text.encode (text ++ "\n"))

/-- Gives each variable a word of a line, and the last one all the rest. -/
def giveWords (s : State) (line : ReadLine) : List String → State
  | [] => s
  | [last] => s.assign last (ReadLine.text (Text.trimBy ReadLine.separates line))
  | first :: rest =>
    let line := line.dropWhile ReadLine.separates
    let word := line.takeWhile (!ReadLine.separates ·)
    (s.assign first (ReadLine.text word)).giveWords (line.drop word.length) rest

/-- The path of the program for a command. -/
def programPath? (s : State) (command : String) : Option String :=
  (Launch.candidates s.environment command).find? fun path =>
    match Launch.executableAt s.files Launch.interpreterLimit path command [] with
    | .ok _ | .error .notExecutable => true
    | .error _ => false

/-- What kind of command a name stands for, in words. -/
def describe? (s : State) (name : String) : Option String :=
  if reservedWords.contains name then some (name ++ " is a shell keyword")
  else if (s.functions.lookup name).isSome then some (name ++ " is a shell function")
  else if specialNames.contains name then some (name ++ " is a special shell builtin")
  else if plainNames.contains name then some (name ++ " is a shell builtin")
  else (s.programPath? name).map fun path => name ++ " is " ++ path

/-- What a name stands for: itself, or the path of a program. -/
def locate? (s : State) (name : String) : Option String :=
  if reservedWords.contains name || (s.functions.lookup name).isSome || ownNames.contains name then some name
  else s.programPath? name

/-- Turns options on or off. -/
def switch (s : State) (on : Bool) (letters : List Char) : State :=
  { s with
    endsOnFailure := if letters.contains 'e' then on else s.endsOnFailure
    needsValues := if letters.contains 'u' then on else s.needsValues }

/-- The state with other arguments. -/
def setArgs (s : State) (args : List String) : State := { s with args := s.args.take 1 ++ args }

/-- Sets options and arguments. -/
def configure (s : State) : List String → State
  | [] => s
  | "--" :: rest => s.setArgs rest
  | word :: rest =>
    match word.toList with
    | '-' :: c :: cs => (s.switch true (c :: cs)).configure rest
    | '+' :: c :: cs => (s.switch false (c :: cs)).configure rest
    | _ => s.setArgs (word :: rest)

/-- Writes as a format says. -/
def printFormatted (s : State) (args : List String) : State × Flow :=
  match (if args.head? = some "--" then args.drop 1 else args) with
  | [] => s.refuse "printf" "usage: printf format [arg ...]" 2
  | format :: rest =>
    let (output, faults) := Program.printfWith .plainFormat format rest
    let texts := faults.filterMap (·.plainText?)
    let said := texts.foldl (fun (s : State) text => s.complain ("printf: " ++ text)) s
    let stopped := faults.any fun
      | .invalidDirective _ => true
      | _ => false
    (said.print output).done (if stopped then 2 else if texts.isEmpty then 0 else 1)

/-- Changes the working directory; a dash stands for the one before. -/
def changeDirectory (s : State) (args : List String) : State × Flow :=
  let back := args.head? = some "-"
  let target := if back then (s.find? "OLDPWD").getD "" else args.head?.getD ((s.find? "HOME").getD "")
  match s.files.changeDirectory target with
  | .ok files =>
    let s := { s.assign "OLDPWD" ((s.find? "PWD").getD "") with files, exported := s.exported ++ ["OLDPWD"] }
    let s := match files.workingDirectory? with
      | some text => s.assign "PWD" text
      | none => s
    (if back then s.printLine target else s).done 0
  | .error _ => s.refuse "cd" ("can't cd to " ++ target) 2

/-- Leaves the script, or a function, with a status. -/
def leave (s : State) (command : String) (flow : Nat → Flow) : List String → State × Flow
  | [] => (s, flow s.status)
  | code :: _ =>
    match readCode? code with
    | some n => (s, flow n)
    | none => s.abort (command ++ ": Illegal number: " ++ code)

/-- Sets the variables that come with a value, each after something else has been done about its name. -/
def define (s : State) (command : String) (args : List String) (prepare : State → String → State) :
    State × Flow :=
  match args.find? fun word => (valueAfter? word).isSome && s.fixed.contains (nameBefore word) with
  | some word => s.abort (command ++ ": " ++ fixedText (nameBefore word))
  | none =>
    (args.foldl (fun s word =>
      let name := nameBefore word
      match valueAfter? word with
      | some value => (prepare s name).assign name value
      | none => prepare s name) s).done 0

/-- Gives a function variables of its own. -/
def makeLocal (s : State) (args : List String) : State × Flow :=
  match s.hidden with
  | none => s.abort "local: not in a function"
  | some _ =>
    s.define "local" args fun s name =>
      { s with hidden := s.hidden.map fun kept => (name, s.find? name) :: kept }

/-- Removes variables or functions. -/
def unset (s : State) : List String → State
  | "-f" :: names => { s with functions := s.functions.filter fun f => !names.contains f.1 }
  | names => names.foldl drop s

/-- Drops arguments. -/
def shift (s : State) (args : List String) : State × Flow :=
  match Number.readNatural? (args.headD "1").toList with
  | none => s.abort ("shift: Illegal number: " ++ args.headD "")
  | some count =>
    if count > s.args.length - 1 then s.abort "shift: can't shift that many"
    else (s.setArgs (s.args.drop (count + 1))).done 0

/-- Settles what is done when the script is asked to end, or ends. -/
def setTrap (s : State) : List String → State
  | [] => s
  | action :: signals =>
    let trap : Trap := if action.isEmpty then .ignored else if action = "-" then .usual else .handler action
    let asked := signals.any fun name => signalNumber? name = some Status.terminateSignal
    let atEnd := signals.any fun name => name = "EXIT" || name = "0"
    { s with
      trap := if asked then trap else s.trap
      atExit := if !atEnd then s.atExit else if action = "-" then none else some action }

/-- Answers a question; the bracket that opens one has to be closed. -/
def ask (s : State) (command : String) (args : List String) : State × Flow :=
  if command = "[" && !args.getLast?.any (·.startsWith "]") then s.refuse command "missing ]" 2
  else
    match answer s.files (if command = "[" then args.dropLast else args) with
    | .ok yes => s.done (if yes then 0 else 1)
    | .error text => s.refuse command text 2

/-- Reads a line into variables. -/
def readVariables (s : State) (args : List String) : State × Flow :=
  let (options, names) := (args.takeWhile (·.startsWith "-"), args.dropWhile (·.startsWith "-"))
  if names.isEmpty then s.refuse "read" "arg count" 2
  else
    let (line, rest) := takeLine (options.any (·.toList.contains 'r')) s.input.head
    let after := { s with input := { s.input with head := rest.getD [] } }
    (after.giveWords line names).done (if rest.isSome then 0 else 1)

/-- Says what kinds of commands names stand for. -/
def describeAll (s : State) (names : List String) : State × Flow :=
  let said := names.foldl (fun s name => s.printLine ((s.describe? name).getD (name ++ ": not found"))) s
  said.done (if names.any fun name => (s.describe? name).isNone then 127 else 0)

/-- Says what names stand for. -/
def locateAll (s : State) (names : List String) : State × Flow :=
  match names.filterMap s.locate? with
  | [] => s.done 127
  | found => (found.foldl printLine s).done 0

/-- Runs a command that needs no other command to be run; the commands without an effect are the rest. -/
def runOwn (s : State) (command : String) (args : List String) : State × Flow :=
  match command with
  | "[" | "test" => s.ask command args
  | "break" => (s, .leaveLoop)
  | "cd" => s.changeDirectory args
  | "continue" => (s, .nextRound)
  | "echo" => (s.print (Program.plainEcho args)).done 0
  | "exit" => s.leave command .exit args
  | "export" => s.define command args fun s name => { s with exported := s.exported ++ [name] }
  | "false" => s.done 1
  | "local" => s.makeLocal args
  | "printf" => s.printFormatted args
  | "pwd" => (s.printLine (s.files.workingDirectory?.getD "")).done 0
  | "read" => s.readVariables args
  | "readonly" =>
    goOn (s.define command args fun s _ => s) fun s =>
      ({ s with fixed := s.fixed ++ args.map nameBefore }, .next)
  | "return" => s.leave command .leaveFunction args
  | "set" => (s.configure args).done 0
  | "shift" => s.shift args
  | "trap" => (s.setTrap args).done 0
  | "type" => s.describeAll args
  | "umask" => (if args.isEmpty then s.printLine "0022" else s).done 0
  | "unset" => (s.unset args).done 0
  | _ => s.done 0

end State

end CommandShell.Script
