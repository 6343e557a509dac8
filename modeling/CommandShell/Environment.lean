import CommandShell.Path

/-!
# Environments

Named texts that a program inherits. Setting a variable that is there keeps its position, and a new one comes
last.
-/

namespace CommandShell

/-- The variables of a program, in the order in which they were first set. -/
structure Environment where
  bindings : List (String × String)
deriving DecidableEq, Repr

namespace Environment

/-- The value of a variable. -/
def find? (env : Environment) (name : String) : Option String := env.bindings.lookup name

/-- Sets a variable. -/
def put (env : Environment) (name value : String) : Environment :=
  if env.bindings.any (·.1 = name) then
    ⟨env.bindings.map fun v => if v.1 = name then (name, value) else v⟩
  else ⟨env.bindings ++ [(name, value)]⟩

/-- Removes a variable. -/
def erase (env : Environment) (name : String) : Environment := ⟨env.bindings.filter (·.1 ≠ name)⟩

/-- Sets a variable, or removes it if there is no value. -/
def change (env : Environment) (name : String) : Option String → Environment
  | some value => env.put name value
  | none => env.erase name

/-- The home directories of the accounts that every system has. -/
def accountHomes : List (String × String) :=
  [("root", "/root"), ("daemon", "/usr/sbin"), ("bin", "/bin"), ("sys", "/dev"), ("mail", "/var/mail"),
    ("nobody", "/nonexistent")]

/-- The home directory as the environment names it, or else that of the account. -/
def home (env : Environment) : String := (env.find? "HOME").getD "/root"

/-- A path whose tilde has been replaced by a home directory; `none` if there is none for it. -/
def expandHome (env : Environment) (p : Path) : Option Path :=
  p.expandHome env.home fun name => accountHomes.lookup name

/-- The home directory as a path. -/
def homePath (env : Environment) : Option Path := env.expandHome (Path.ofText "~")

end Environment

end CommandShell
