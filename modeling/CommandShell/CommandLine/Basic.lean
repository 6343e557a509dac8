/-!
# Command lines

The words after the name of the program. One option gives a line to run instead of a dialogue, and another
leaves the history alone. Everything else is a misuse, except the request for help.
-/

namespace CommandShell

/-- What is asked of the program. -/
structure CommandLine where
  /-- The line to run; without one there is a dialogue. -/
  command : Option String
  /-- The history is loaded at the start, and saved after a dialogue. -/
  keepsHistory : Bool
deriving DecidableEq, Repr

/-- What the words of a command line ask for. -/
inductive Request where
  | run (c : CommandLine)
  | help
  | misuse
deriving DecidableEq, Repr

namespace CommandLine

/-- A command line without words. -/
def plain : CommandLine := ⟨none, true⟩

/-- One option, and the value written in the same word. -/
inductive Switch where
  | command (value : Option String)
  | noHistory
  | help
deriving DecidableEq, Repr

/-- The option in a word; none if there is no such option, or if it does not take the value that is
written. -/
def switch? (word : String) : Option Switch :=
  let name := word.toList.takeWhile (· ≠ '=')
  let value := word.toList.drop (name.length + 1)
  let valued := name.length < word.length
  match String.ofList name, word.toList with
  | "--command", _ => some (.command (if valued then some (String.ofList value) else none))
  | "--no-history", _ => if valued then none else some .noHistory
  | "--help", _ => if valued then none else some .help
  | _, '-' :: 'c' :: rest => some (.command (if rest.isEmpty then none else some (String.ofList rest)))
  | _, _ => none

/-- A word that is an option, or should be one. -/
def isSwitch (word : String) : Bool := word.startsWith "-" && word ≠ "-"

/-- What the words read so far ask for. -/
structure Draft where
  line : CommandLine
  /-- The next word is the line to run. -/
  awaitsLine : Bool
  helps : Bool
  hasOperands : Bool
deriving DecidableEq, Repr

/-- What is asked for once every word has been read. -/
def Draft.request (d : Draft) : Request :=
  if d.awaitsLine then .misuse
  else if d.helps then .help
  else if d.hasOperands then .misuse
  else .run d.line

/-- A line to run replaces any before it. -/
def Draft.give (d : Draft) (line : String) : Draft :=
  { d with line := { d.line with command := some line }, awaitsLine := false }

/-- Reads words, given what those before them ask for. -/
def readFrom (d : Draft) : List String → Request
  | [] => d.request
  | word :: rest =>
    if d.awaitsLine then readFrom (d.give word) rest
    else if word = "--" then ({ d with hasOperands := d.hasOperands || !rest.isEmpty } : Draft).request
    else if !isSwitch word then readFrom { d with hasOperands := true } rest
    else
      match switch? word with
      | some (.command (some line)) => readFrom (d.give line) rest
      | some (.command none) => readFrom { d with awaitsLine := true } rest
      | some .noHistory => readFrom { d with line := { d.line with keepsHistory := false } } rest
      | some .help => readFrom { d with helps := true } rest
      | none => .misuse

/-- Reads the words after the name of the program. -/
def read (words : List String) : Request := readFrom ⟨plain, false, false, false⟩ words

end CommandLine

end CommandShell
