import CommandShell.Program.Copying
import CommandShell.Program.Excerpt
import CommandShell.Program.FileTools
import CommandShell.Program.Order
import CommandShell.Program.Printing
import CommandShell.Program.Replacing
import CommandShell.Script.Interpreter

/-!
# The standard programs

The programs that a system of this kind provides, as one table.
-/

namespace CommandShell.Program

/-- The seconds that a word of `sleep` asks for. -/
def pauseOf? (s : String) : Option Rat :=
  let cs := s.toList
  let (digits, factor) : List Char × Nat := match cs.getLast? with
    | some 's' => (cs.dropLast, 1)
    | some 'm' => (cs.dropLast, 60)
    | some 'h' => (cs.dropLast, 3600)
    | some 'd' => (cs.dropLast, 86400)
    | _ => (cs, 1)
  match Number.readMagnitude? digits with
  | some (n, e) => if e < -400 ∨ e > 400 then some 0 else some (Number.scaled n e * factor)
  | none => none

/-- Lets time pass. -/
def sleep (i : Invocation) : Run :=
  withOptions i ⟨[], [], [], false⟩ 1 fun _ operands =>
    if operands.isEmpty then i.complain (misuse i.name "missing operand") 1
    else
      let bad := operands.filter fun s => (pauseOf? s).isNone
      if !bad.isEmpty then
        let said (s : String) : String := i.name ++ ": invalid time interval " ++ quoteOperand s ++ "\n"
        i.complain (String.join (bad.map said) ++ hint i.name) 1
      else
        let seconds := (operands.filterMap pauseOf?).foldl (· + ·) 0
        match i.awaited with
        | none => i.finish [] [] 0
        | some text =>
          if seconds = 0 || (!text.isEmpty && seconds < 1) then i.finish [] [] 0
          else ⟨i.files, ⟨[], .stalled⟩, [], .waiting (some seconds) .usual⟩

/-- Prints the working directory. -/
def pwd (i : Invocation) : Run :=
  match i.files.workingDirectory? with
  | some text => i.finish (Text.encode (text ++ "\n")) [] 0
  | none => i.complain (i.name ++ ": couldn't find directory entry in '..' with matching i-node\n") 1

/-- The last name of a path. -/
def basename (i : Invocation) : Run :=
  match i.args with
  | [] => i.complain (misuse i.name "missing operand") 1
  | path :: rest =>
    let names := Route.namesOf path
    let name := match names.getLast? with
      | some name => name
      | none => if path.isEmpty then "" else "/"
    let name := match rest with
      | ending :: _ =>
        if name.endsWith ending && name ≠ ending then
          String.ofList (name.toList.take (name.length - ending.length))
        else name
      | [] => name
    i.finish (Text.encode (name ++ "\n")) [] 0

/-- A path without its last name. -/
def dirname (i : Invocation) : Run :=
  if i.args.isEmpty then i.complain (misuse i.name "missing operand") 1
  else
    let above (path : String) : String :=
      let trimmed := path.toList.reverse.dropWhile (· = '/')
      let rest := (trimmed.dropWhile (· ≠ '/')).dropWhile (· = '/')
      if !rest.isEmpty then String.ofList rest.reverse
      else if path.startsWith "/" then "/" else "."
    i.finish (Text.encode (String.join (i.args.map fun path => above path ++ "\n"))) [] 0

/-- Prints the environment, or runs a program in a changed one. -/
def env (call : Script.Caller) (i : Invocation) : Run :=
  let (given, words) : Bool × List String := match i.args with
    | "-i" :: rest | "-" :: rest => (true, rest)
    | "--" :: rest => (false, rest)
    | args => (false, args)
  match words.head?.filter fun w => w.startsWith "-" && w.length > 1 with
  | some w => i.complain (misuse i.name (OptionFault.unknown ((w.toList[1]?).getD '-')).text) 125
  | none =>
    let isSetting (w : String) : Bool := w.toList.contains '=' && !w.startsWith "="
    let settings := words.takeWhile isSetting
    let base : Environment := if given then ⟨[]⟩ else i.environment
    let changed := settings.foldl
      (fun env w =>
        let name := String.ofList (w.toList.takeWhile (· ≠ '='))
        env.put name (String.ofList (w.toList.drop (name.length + 1))))
      base
    match words.drop settings.length with
    | [] => i.finish (Text.encode (String.join (changed.bindings.map fun (n, v) => n ++ "=" ++ v ++ "\n"))) [] 0
    | command :: args =>
      match Launch.find i.files changed command args with
      | .ok executable =>
        call executable.program
          { i with name := executable.name, args := executable.args, environment := changed }
      | .error (.system .notExecutable) =>
        call "sh" { i with name := "/bin/sh", args := command :: args, environment := changed }
      | .error (.system fault) =>
        i.complain (i.name ++ ": " ++ quoteAlways command ++ ": " ++ fault.text ++ "\n")
          (if Launch.saysNothingThere fault then 127 else 126)
      | .error .embeddedNull => i.finish [] [] 125

/-- Answers a question about files or texts. -/
def test (bracket : Bool) (i : Invocation) : Run :=
  if bracket && i.args.getLast? ≠ some "]" then i.complain (i.name ++ ": missing ']'\n") 2
  else
    match Script.answer i.files (if bracket then i.args.dropLast else i.args) with
    | .ok b => i.finish [] [] (if b then 0 else 1)
    | .error text => i.complain (i.name ++ ": " ++ text ++ "\n") 2

/-- What empties the screen of the usual terminal. -/
def clear (i : Invocation) : Run :=
  let esc := String.singleton (Char.ofNat 27)
  i.finish (Text.encode (esc ++ "[H" ++ esc ++ "[2J" ++ esc ++ "[3J")) [] 0

/-- The programs that start no others. -/
def plainPrograms : List (String × (Invocation → Run)) :=
  [("[", test true), ("basename", basename), ("cat", cat), ("clear", clear), ("cut", cut), ("dirname", dirname),
    ("echo", echo), ("false", fun i => i.finish [] [] 1), ("head", head), ("ls", ls), ("mkdir", mkdir),
    ("printf", printf), ("pwd", pwd), ("rev", rev), ("rm", rm), ("rmdir", rmdir), ("seq", seq), ("sleep", sleep),
    ("sort", sort), ("tac", tac), ("tail", tail), ("tee", tee), ("test", test false), ("touch", touch), ("tr", tr),
    ("true", fun i => i.finish [] [] 0), ("uniq", uniq), ("wc", wc), ("yes", yes)]

/-- Runs a program by its name. The fuel bounds how deep programs start one another. -/
def runNamed : Nat → String → Invocation → Run
  | 0, _, i => i.await [] []
  | fuel + 1, name, i =>
    match plainPrograms.lookup name with
    | some program => program i
    | none => if name = "env" then env (runNamed fuel) i else Script.interpret (runNamed fuel) i

end CommandShell.Program

namespace CommandShell.Programs

/-- The programs that every system has. -/
def standard : Programs where
  names := ["dash", "env", "sh"] ++ Program.plainPrograms.map (·.1)
  run := Program.runNamed 40

end CommandShell.Programs
