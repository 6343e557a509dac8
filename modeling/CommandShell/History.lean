import CommandShell.Failure
import CommandShell.Files.Operation
import CommandShell.Text.Line

/-!
# History

The lines that a shell was given, the most recent ones up to a cap. Positions count from one, and the last
line has the position that the number of lines is. The cap may be any integer; one below one keeps nothing.
-/

namespace CommandShell

/-- The lines of a history and where it is kept. -/
structure History where
  maxSize : Int
  file : Option Path
  entries : List String
deriving DecidableEq, Repr

namespace History

/-- A history without lines. -/
def empty (maxSize : Int) (file : Option Path) : History := ⟨maxSize, file, []⟩

/-- Adds a line and drops the oldest ones beyond the cap. -/
def append (h : History) (line : String) : History :=
  let entries := h.entries ++ [line]
  { h with entries := entries.drop ((entries.length : Int) - h.maxSize).toNat }

/-- Adds several lines in turn. -/
def appendAll (h : History) (lines : List String) : History := lines.foldl append h

/-- Pairs lines with their positions, from a first one on. -/
def numberedFrom (first : Nat) : List String → List (Nat × String)
  | [] => []
  | line :: rest => (first, line) :: numberedFrom (first + 1) rest

/-- The last lines with their positions; without a limit, all of them. -/
def tail (h : History) (limit : Option Int) : List (Nat × String) :=
  let total := h.entries.length
  let wanted : Int :=
    match limit with
    | none => total
    | some n => if n > total then total else n
  if wanted ≤ 0 then [] else numberedFrom (total - wanted.toNat + 1) (h.entries.drop (total - wanted.toNat))

/-- The entries from a position on; a negative position counts from the end. -/
def fromPosition (position : Int) (entries : List String) : List String :=
  if position < 0 then entries.drop ((entries.length : Int) + position).toNat else entries.drop position.toNat

/-- The text that is kept in the file. -/
def written (h : History) : String := String.intercalate "\n" (fromPosition (-h.maxSize) h.entries)

/-- The lines that a kept text holds. -/
def linesOfText (text : List Char) : List String :=
  ((Text.linesOf (Text.uniformNewlines text)).filter (!·.isEmpty)).map String.ofList

/-- Adds the lines of the file. A file that is not there, or that cannot be read, adds none. -/
def load (h : History) (files : Files) : Except Mishap History :=
  match h.file with
  | none => .ok h
  | some path =>
    match files.isThere path.text with
    | .error fault => .error (.system fault (some path.text))
    | .ok false => .ok h
    | .ok true =>
      match files.read path.text with
      | .error _ => .ok h
      | .ok bytes =>
        match Text.decode? bytes with
        | some text => .ok (h.appendAll (linesOfText text.toList))
        | none => .error .undecodable

/-- Writes the lines to the file, and tells whether that went well; without a file there is nothing to do. -/
def save (h : History) (files : Files) : Except CallFault (Files × Bool) :=
  match h.file with
  | none => .ok (files, true)
  | some path =>
    match files.write path.text (Text.encode h.written) with
    | .ok done => .ok (done, true)
    | .error (.system _) => .ok (files, false)
    | .error .embeddedNull => .error .embeddedNull

end History

end CommandShell
