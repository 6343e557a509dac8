/-!
# System faults

The reasons for which the system refuses an operation, each with its number and its text.
-/

namespace CommandShell

/-- Why the system refuses an operation. -/
inductive SystemFault where
  | notPermitted
  | noEntry
  | argumentsTooLong
  | notExecutable
  | permission
  | busy
  | alreadyThere
  | notDirectory
  | isDirectory
  | invalid
  | nameTooLong
  | notEmpty
  | tooManyLinks
deriving DecidableEq, Repr

namespace SystemFault

/-- The number of a fault. -/
def number : SystemFault → Nat
  | notPermitted => 1
  | noEntry => 2
  | argumentsTooLong => 7
  | notExecutable => 8
  | permission => 13
  | busy => 16
  | alreadyThere => 17
  | notDirectory => 20
  | isDirectory => 21
  | invalid => 22
  | nameTooLong => 36
  | notEmpty => 39
  | tooManyLinks => 40

/-- The text of a fault. -/
def text : SystemFault → String
  | notPermitted => "Operation not permitted"
  | noEntry => "No such file or directory"
  | argumentsTooLong => "Argument list too long"
  | notExecutable => "Exec format error"
  | permission => "Permission denied"
  | busy => "Device or resource busy"
  | alreadyThere => "File exists"
  | notDirectory => "Not a directory"
  | isDirectory => "Is a directory"
  | invalid => "Invalid argument"
  | nameTooLong => "File name too long"
  | notEmpty => "Directory not empty"
  | tooManyLinks => "Too many levels of symbolic links"

/-- The faults that say there is nothing at a path; to ask whether something is there does not fail on
them. -/
def meansAbsent : SystemFault → Bool
  | noEntry | notDirectory | tooManyLinks => true
  | _ => false

end SystemFault

/-- Why a call that takes a path, or another text, fails. -/
inductive CallFault where
  | system (fault : SystemFault)
  /-- A text handed to the system must not hold the null character. -/
  | embeddedNull
deriving DecidableEq, Repr

/-- What is said of a text that holds the null character. -/
def CallFault.nullText : String := "embedded null byte"

end CommandShell
