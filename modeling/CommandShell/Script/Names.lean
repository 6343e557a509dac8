/-!
# Names that scripts know

Reserved words and the names of the commands that a script runs itself. A function may take the place of some
of these commands, but not of the special ones.
-/

namespace CommandShell.Script

/-- The words with a meaning of their own where a command can begin. -/
def reservedWords : List String :=
  ["!", "case", "do", "done", "elif", "else", "esac", "fi", "for", "if", "in", "then", "until", "while", "\x7b",
    "\x7d"]

/-- The commands with which a script does not let a function share its name. -/
def specialNames : List String :=
  [".", ":", "break", "continue", "eval", "exec", "exit", "export", "readonly", "return", "set", "shift",
    "times", "trap", "unset"]

/-- The other commands that a script runs itself. -/
def plainNames : List String :=
  ["[", "alias", "cd", "command", "echo", "false", "hash", "jobs", "kill", "local", "printf", "pwd", "read",
    "test", "true", "type", "umask", "unalias", "wait"]

/-- The commands that a script runs itself. -/
def ownNames : List String := specialNames ++ plainNames

end CommandShell.Script
