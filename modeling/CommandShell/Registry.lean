import CommandShell.Text.Blank

/-!
# Registered commands

The names that a shell runs itself instead of starting a program. A name stands for a handler or for an alias,
a command line that takes the place of the name. Names are not empty and hold no blank.
-/

namespace CommandShell

/-- The commands that every shell can register. -/
inductive Builtin where
  | aliasing
  | banner
  | cat
  | cd
  | clear
  | date
  | echo
  | exit
  | find
  | genpass
  | greet
  | help
  | history
  | ls
  | mkdir
  | pwd
  | qrcode
  | rm
  | sysinfo
  | touch
deriving DecidableEq, Repr

namespace Builtin

/-- Every built-in. -/
def all : List Builtin :=
  [aliasing, banner, cat, cd, clear, date, echo, exit, find, genpass, greet, help, history, ls, mkdir, pwd, qrcode,
    rm, sysinfo, touch]

/-- The name under which a built-in is registered. -/
def name : Builtin → String
  | aliasing => "alias"
  | banner => "banner"
  | cat => "cat"
  | cd => "cd"
  | clear => "clear"
  | date => "date"
  | echo => "echo"
  | exit => "exit"
  | find => "find"
  | genpass => "genpass"
  | greet => "greet"
  | help => "help"
  | history => "history"
  | ls => "ls"
  | mkdir => "mkdir"
  | pwd => "pwd"
  | qrcode => "qrcode"
  | rm => "rm"
  | sysinfo => "sysinfo"
  | touch => "touch"

/-- What a built-in does, in words. -/
def description : Builtin → String
  | aliasing => "Define a command alias: alias name=command"
  | banner => "Print text as an ASCII art banner"
  | cat => "Print a file"
  | cd => "Change the working directory"
  | clear => "Clear the screen"
  | date => "Print the current date and time"
  | echo => "Print the arguments"
  | exit => "Save history and leave the shell"
  | find => "Find entries by name: find <dir> -name <pattern>"
  | genpass => "Generate a random password"
  | greet => "Print a welcome message"
  | help => "List built-in commands"
  | history => "Show recent input lines"
  | ls => "List a directory"
  | mkdir => "Create a directory and its parents"
  | pwd => "Print the working directory"
  | qrcode => "Print a QR code image URL for some text"
  | rm => "Remove a file, or a directory with -r"
  | sysinfo => "Show operating system and hardware details"
  | touch => "Create a file or update its timestamp"

end Builtin

/-- What runs when a name that is no alias is called. -/
inductive Handler where
  | builtin (b : Builtin)
  /-- Writes a label and the arguments. -/
  | record (label : String)
  /-- Fails in a way that nobody foresaw. -/
  | fail (text : String)
  /-- Fails under a name of its own, with the arguments as the reason. -/
  | refuse (name : String)
  /-- Gives the shell a line to run. -/
  | rerun (line : String)
deriving DecidableEq, Repr

/-- What a name stands for. -/
inductive Action where
  | native (handler : Handler) (description : String)
  | aliasOf (commandLine : String)
deriving DecidableEq, Repr

namespace Action

/-- The word for the kind of an action. -/
def kind : Action → String
  | native .. => "native"
  | aliasOf _ => "alias"

/-- What an action does, in words. -/
def description : Action → String
  | native _ text => text
  | aliasOf commandLine => "alias for '" ++ commandLine ++ "'"

/-- Whether an action is an alias. -/
def isAlias : Action → Bool
  | native .. => false
  | aliasOf _ => true

end Action

/-- The registered names, each of them once. -/
structure Registry where
  actions : List (String × Action)
deriving DecidableEq, Repr

namespace Registry

/-- Nothing is registered. -/
def empty : Registry := ⟨[]⟩

/-- A name that can be typed as one word. -/
def isName (name : String) : Bool := !name.isEmpty && name.toList.all (!Text.isBlank ·)

/-- Registers an action; what the name stood for before is forgotten. `none` if it is no name. -/
def enrol? (r : Registry) (name : String) (action : Action) : Option Registry :=
  if isName name then some ⟨r.actions.filter (·.1 ≠ name) ++ [(name, action)]⟩ else none

/-- Registers an alias for a command line. -/
def addAlias? (r : Registry) (name commandLine : String) : Option Registry :=
  r.enrol? name (.aliasOf (Text.trim commandLine))

/-- What a name stands for. -/
def find? (r : Registry) (name : String) : Option Action := r.actions.lookup name

/-- Whether a name is registered. -/
def has (r : Registry) (name : String) : Bool := (r.find? name).isSome

/-- The names in the order of their code points. -/
def names (r : Registry) : List String := (r.actions.map (·.1)).mergeSort fun a b => a ≤ b

/-- The aliases and their command lines, in the order of their names. -/
def aliases (r : Registry) : List (String × String) :=
  r.names.filterMap fun name =>
    match r.find? name with
    | some (.aliasOf commandLine) => some (name, commandLine)
    | _ => none

/-- The registry of a new shell. -/
def builtins : Registry :=
  ⟨Builtin.all.map fun b => (b.name, .native (.builtin b) b.description)⟩

/-- The commands that one may expect of a shell, whatever is registered. -/
def standardCommands : List String := ["ls", "cd", "pwd", "cat", "mkdir"]

/-- The words that can complete a line: the registered names and the standard commands, each once, in
order. -/
def completionWords (r : Registry) : List String :=
  ((r.names ++ standardCommands.filter (!r.has ·))).mergeSort fun a b => a ≤ b

end Registry

end CommandShell
