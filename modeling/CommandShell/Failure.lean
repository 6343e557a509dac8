import CommandShell.Calendar
import CommandShell.Files.Fault
import CommandShell.Number.Integer
import CommandShell.Plan.Reading
import CommandShell.Text.Quoted

/-!
# What can go wrong

Errors that a shell reports at the end of a segment, as causes; mishaps, which nobody foresaw, and which a
built-in turns into an error of its own; and the reasons for which a line is left altogether.
-/

namespace CommandShell

/-- Something that a command does not reckon with. -/
inductive Mishap where
  /-- A text handed to the system holds the null character. -/
  | embeddedNull
  /-- The system refuses something, at a path if it is known. -/
  | system (fault : SystemFault) (path : Option String)
  /-- There is no home directory for a name. -/
  | noHome
  | notAnInteger (text : String)
  | tooManyDigits (count : Nat)
  /-- A failure with a text of its own. -/
  | raised (text : String)
  /-- Octets that are no text. -/
  | undecodable
deriving DecidableEq, Repr

namespace Mishap

/-- The most characters of a quoted text in a message. -/
def quoteLimit : Nat := 200

/-- What is said of a mishap. -/
def text : Mishap → String
  | embeddedNull => CallFault.nullText
  | system fault path =>
    "[Errno " ++ toString fault.number ++ "] " ++ fault.text ++
      match path with
      | some p => ": " ++ Text.quoted p
      | none => ""
  | noHome => "Could not determine home directory."
  | notAnInteger s =>
    "invalid literal for int() with base 10: " ++ String.ofList ((Text.quoted s).toList.take quoteLimit)
  | tooManyDigits count =>
    "Exceeds the limit (" ++ toString Number.digitLimit ++ " digits) for integer string conversion: value has " ++
      toString count ++ " digits; use sys.set_int_max_str_digits() to increase the limit"
  | raised s => if s.isEmpty then "RuntimeError" else s
  | undecodable => "invalid text"

/-- The mishap of a call that fails at a path. -/
def ofCall (path : String) : CallFault → Mishap
  | .system fault => system fault (some path)
  | .embeddedNull => embeddedNull

/-- The mishap of a text that is no integer. -/
def ofInteger (s : String) : Number.IntegerFault → Mishap
  | .malformed => notAnInteger s
  | .tooLong count => tooManyDigits count

end Mishap

/-- Why a built-in fails. -/
inductive Complaint where
  /-- The system refuses something for what the user named. -/
  | system (fault : SystemFault) (target : String)
  | missingDirectoryName
  | missingEntryName
  | missingFileName
  | invalidCount (text : String)
  | aliasFormat
  | findUsage
  | findPattern
  | nothingToEncode
  | mishap (m : Mishap)
  /-- A reason in words. -/
  | words (text : String)
deriving DecidableEq, Repr

/-- The wording of a complaint. -/
def Complaint.text : Complaint → String
  | system fault target => fault.text ++ ": " ++ target
  | missingDirectoryName => "missing directory name"
  | missingEntryName => "missing file or directory name"
  | missingFileName => "missing file name"
  | invalidCount s => "invalid count: " ++ s
  | aliasFormat => "Invalid alias format. Use: alias name=command"
  | findUsage => "Usage: find [path] -name [pattern]"
  | findPattern => "Missing name pattern"
  | nothingToEncode => "Please provide data to encode as QR"
  | mishap m => m.text
  | words s => s

/-- An error of a segment. -/
inductive ShellError where
  | parse (error : ParseError)
  | spawn (command : String) (fault : SystemFault)
  | fileRead (path : String) (fault : SystemFault)
  | fileWrite (path : String) (fault : SystemFault)
  | builtin (name : String) (complaint : Complaint)
  /-- The last program of a segment did not end well. -/
  | status (command : String) (code : Int)
deriving DecidableEq, Repr

/-- The wording of an error. -/
def ShellError.message : ShellError → String
  | parse e => "Error: " ++ e.fault.reason ++ ": " ++ e.segment
  | spawn command fault => "Error: " ++ command ++ ": " ++ fault.text
  | fileRead path fault => "Error reading input file: " ++ path ++ ": " ++ fault.text
  | fileWrite path fault => "Error writing output file: " ++ path ++ ": " ++ fault.text
  | builtin name complaint => name ++ ": " ++ complaint.text
  | status command code => "Error: " ++ command ++ " exited with status " ++ toString code

/-- Why a line is left before its end. -/
inductive Escape where
  | mishap (m : Mishap)
  /-- The user interrupted it. -/
  | interrupted
deriving DecidableEq, Repr

/-- Why a segment stops. -/
inductive Stop where
  | error (e : ShellError)
  | escape (e : Escape)
deriving DecidableEq, Repr

end CommandShell
