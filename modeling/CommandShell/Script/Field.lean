import CommandShell.Files.Operation
import CommandShell.Script.Pattern

/-!
# Fields of words

An expanded word is a row of fragments. What was not quoted in it is cut at blanks, and each field that comes of it
stands for the names of the files that match it.
-/

namespace CommandShell.Script

/-- A piece of an expanded word: a text, and whether it was quoted. -/
structure Fragment where
  text : String
  quoted : Bool
deriving DecidableEq, Repr

/-- A blank between fields. -/
def isSeparator (c : Char) : Bool := c = ' ' || c = '\t' || c = '\n'

/-- The fields that fragments make; the flag tells whether a field has begun. -/
def splitFields (current : List Fragment) (begun : Bool) : List Fragment → List (List Fragment)
  | [] => if begun then [current.reverse] else []
  | f :: rest =>
    if f.quoted then splitFields (f :: current) true rest
    else splitText current begun f.text.toList [] (splitFields · · rest)
where
  /-- Cuts one text at blanks and hands the last field, and whether it has begun, to what follows. -/
  splitText (current : List Fragment) (begun : Bool) (cs : List Char) (word : List Char)
      (goOn : List Fragment → Bool → List (List Fragment)) : List (List Fragment) :=
    let withWord : List Fragment :=
      if word.isEmpty then current else ⟨String.ofList word.reverse, false⟩ :: current
    match cs with
    | [] => goOn withWord (begun || !word.isEmpty)
    | c :: rest =>
      if isSeparator c then
        if begun || !word.isEmpty then withWord.reverse :: splitText [] false rest [] goOn
        else splitText [] false rest [] goOn
      else splitText current begun rest (c :: word) goOn

/-- The characters of fragments, each with the mark of having been quoted. -/
def marked (fragments : List Fragment) : Marked := fragments.flatMap fun f => mark f.quoted f.text

/-- Cuts marked characters at slashes. -/
def splitAtSlash : Marked → List Marked
  | [] => [[]]
  | (c, quoted) :: rest =>
    match splitAtSlash rest with
    | [] => [[]]
    | part :: parts => if c = '/' then [] :: part :: parts else ((c, quoted) :: part) :: parts

/-- The text of marked characters. -/
def plainText (cs : Marked) : String := String.ofList (cs.map (·.1))

/-- The paths that the names of a pattern stand for, each after a beginning. -/
def pathsMatching (files : Files) (beginning : String) : List Marked → List String
  | [] => []
  | [last] => step last
  | part :: rest => (step part).flatMap fun path => pathsMatching files (path ++ "/") rest
where
  /-- The paths that one name stands for. -/
  step (part : Marked) : List String :=
    let names := pattern part
    let hidden := part.head?.any (·.1 = '.')
    if isOpen names then
      match files.list (if beginning.isEmpty then "." else beginning) with
      | .ok found =>
        (found.filter fun name => (hidden || !name.startsWith ".") && matchesPattern names name.toList).map
          (beginning ++ ·)
      | .error _ => []
    else
      let path := beginning ++ plainText part
      match part, files.resolve false path with
      | [], _ => [path]
      | _, .ok (.present ..) => [path]
      | _, _ => []

/-- The names that a field stands for: those of the files that match it, or the field itself. -/
def expandField (files : Files) (field : List Fragment) : List String :=
  let cs := marked field
  if !isOpen (pattern cs) then [plainText cs]
  else
    match pathsMatching files "" (splitAtSlash cs) with
    | [] => [plainText cs]
    | found => found

end CommandShell.Script
