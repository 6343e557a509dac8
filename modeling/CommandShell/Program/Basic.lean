import CommandShell.Environment
import CommandShell.Files.Operation

/-!
# Programs

What a program is given and what comes of it. A program reads its whole input and is done, or it waits: for
input that does not come, or for time to pass. How it takes it to be asked to end while it waits is part of
what comes of it. Output that repeats itself for ever is a stream with a repeating tail.
-/

namespace CommandShell

/-- How a program ended. -/
inductive Status where
  | exited (code : Nat)
  | killed (signal : Nat)
deriving DecidableEq, Repr

namespace Status

/-- The status as one number; a signal counts below zero. -/
def toInt : Status → Int
  | exited code => code
  | killed signal => -signal

/-- The number of the signal that asks a program to end. -/
def terminateSignal : Nat := 15

/-- The number of the signal that ends a program whatever it does. -/
def killSignal : Nat := 9

/-- The number of the signal for output that nobody reads. -/
def pipeSignal : Nat := 13

end Status

/-- What follows the octets that a stream has delivered. -/
inductive Tail where
  /-- Nothing: the stream has ended. -/
  | ended
  /-- Nothing yet: whoever writes to the stream waits. -/
  | stalled
  /-- The same octets again and again; there is at least one. -/
  | repeating (first : UInt8) (others : Bytes)
deriving DecidableEq, Repr

/-- The octets that pass from one program to the next. -/
structure Stream where
  head : Bytes
  tail : Tail
deriving DecidableEq, Repr

namespace Stream

/-- A stream of some octets. -/
def ofBytes (bytes : Bytes) : Stream := ⟨bytes, .ended⟩

/-- The empty stream. -/
def empty : Stream := ofBytes []

/-- Some octets before a stream. -/
def prepend (bytes : Bytes) (s : Stream) : Stream := { s with head := bytes ++ s.head }

/-- The first octets of a stream, up to a number of them. -/
def take (s : Stream) (count : Nat) : Bytes :=
  match s.tail with
  | .repeating first others =>
    let cycle := first :: others
    let missing := count - s.head.length
    (s.head ++ (List.replicate (missing / cycle.length + 1) cycle).flatten).take count
  | _ => s.head.take count

end Stream

/-- What a program that waits does when it is asked to end. -/
inductive Reaction where
  /-- It ends, after some seconds. -/
  | ends (delay : Rat) (status : Status)
  | ignores
deriving DecidableEq, Repr

namespace Reaction

/-- What a program does that has not said what to do. -/
def usual : Reaction := ends 0 (.killed Status.terminateSignal)

end Reaction

/-- What has become of a program. -/
inductive Ending where
  | done (status : Status)
  /-- The program waits: so many seconds, or without end. -/
  | waiting (left : Option Rat) (reaction : Reaction)
deriving DecidableEq, Repr

/-- What a program is given. -/
structure Invocation where
  /-- The name under which it was called. -/
  name : String
  args : List String
  environment : Environment
  files : Files
  input : Stream
  /-- The file that its output goes to, if it is a file. -/
  outputFile : Option Location
  /-- Without a text, every pause is waited out; with one, only pauses shorter than a second until the text is
  out. -/
  awaited : Option Bytes
  /-- The program is asked to end as soon as it waits. -/
  asked : Bool
deriving DecidableEq, Repr

/-- What comes of a program. -/
structure Run where
  files : Files
  output : Stream
  errors : Bytes
  ending : Ending
deriving DecidableEq, Repr

/-- The programs of a system. -/
structure Programs where
  names : List String
  run : String → Invocation → Run

namespace Invocation

/-- The program is done, with what it wrote. -/
def finish (i : Invocation) (output errors : Bytes) (code : Nat) : Run :=
  ⟨i.files, .ofBytes output, errors, .done (.exited code)⟩

/-- The program waits for more input. -/
def await (i : Invocation) (output errors : Bytes) : Run :=
  ⟨i.files, ⟨output, .stalled⟩, errors, .waiting none .usual⟩

/-- The program says what is wrong, and is done. -/
def complain (i : Invocation) (message : String) (code : Nat) : Run := i.finish [] (Text.encode message) code

end Invocation

end CommandShell
