import CommandShell.Environment
import CommandShell.Text.Line

/-!
# Environment files

A file of lines `name=value`. A value may stand in single or double quotes, which may hold line breaks and
escaped quotes; a comment begins with a number sign, after a value only if a blank comes before it. What makes
no binding is skipped up to the end of its line. A value may refer to a variable as `${name}`, or as
`${name:-default}` if the variable may be missing.
-/

namespace CommandShell.Settings.EnvironmentFile

/-- A blank that ends no line. -/
def isInlineBlank (c : Char) : Bool := Text.isBlank c && c ≠ '\r' && c ≠ '\n'

/-- Ends a line. -/
def isBreak (c : Char) : Bool := c = '\r' || c = '\n'

/-- Drops the rest of a line and its end. -/
def dropLine (cs : List Char) : List Char :=
  match cs.dropWhile (!isBreak ·) with
  | '\r' :: '\n' :: rest => rest
  | _ :: rest => rest
  | [] => []

/-- What follows the end of a line, if nothing but blanks comes before that end. -/
def endOfLine? (cs : List Char) : Option (List Char) :=
  match cs.dropWhile isInlineBlank with
  | [] => some []
  | '\r' :: '\n' :: rest => some rest
  | c :: rest => if isBreak c then some rest else none

/-- Drops a comment, with the blanks before it. -/
def dropComment (cs : List Char) : List Char :=
  match cs.dropWhile isInlineBlank with
  | '#' :: rest => rest.dropWhile (!isBreak ·)
  | _ => cs

/-- The text up to a quote that no backslash precedes, and what follows the quote. -/
def untilQuote? (quote : Char) : List Char → Option (List Char × List Char)
  | [] => none
  | '\\' :: c :: rest =>
    if c = quote then (untilQuote? quote rest).map fun (s, after) => ('\\' :: c :: s, after)
    else (untilQuote? quote (c :: rest)).map fun (s, after) => ('\\' :: s, after)
  | c :: rest =>
    if c = quote then some ([], rest) else (untilQuote? quote rest).map fun (s, after) => (c :: s, after)

/-- The text in quotes: up to the first quote that is not escaped, or else up to the last one at all. -/
def quotedText? (quote : Char) (cs : List Char) : Option (List Char × List Char) :=
  match untilQuote? quote cs with
  | some found => some found
  | none =>
    let backwards := cs.reverse.dropWhile (· ≠ quote)
    match backwards with
    | [] => none
    | _ :: before => some (before.reverse, cs.drop backwards.length)

/-- The character that a backslash and a letter stand for within double quotes. -/
def escaped? : Char → Option Char
  | '\\' => some '\\'
  | '\'' => some '\''
  | '"' => some '"'
  | 'a' => some (Char.ofNat 7)
  | 'b' => some (Char.ofNat 8)
  | 'f' => some (Char.ofNat 12)
  | 'n' => some '\n'
  | 'r' => some '\r'
  | 't' => some '\t'
  | 'v' => some (Char.ofNat 11)
  | _ => none

/-- The character that a backslash and another stand for within single quotes. -/
def escapedInSingle? : Char → Option Char
  | '\\' => some '\\'
  | '\'' => some '\''
  | _ => none

/-- Replaces escapes; a backslash that escapes nothing stays. -/
def unescape (meaning : Char → Option Char) : List Char → List Char
  | '\\' :: c :: rest =>
    match meaning c with
    | some d => d :: unescape meaning rest
    | none => '\\' :: unescape meaning (c :: rest)
  | c :: rest => c :: unescape meaning rest
  | [] => []

/-- A value without quotes ends before a comment. The flag tells whether a blank has just been read. -/
def beforeComment (afterBlank : Bool) : List Char → List Char
  | [] => []
  | c :: rest => if c = '#' && afterBlank then [] else c :: beforeComment (Text.isBlank c) rest

/-- What reading finds and what it leaves, or where it could not go on. -/
abbrev Reading (α : Type) := Except (List Char) (α × List Char)

/-- The value at the front of a text. -/
def readValue (cs : List Char) : Reading (List Char) :=
  match cs with
  | '\'' :: rest =>
    match quotedText? '\'' rest with
    | some (s, after) => .ok (unescape escapedInSingle? s, after)
    | none => .error cs
  | '"' :: rest =>
    match quotedText? '"' rest with
    | some (s, after) => .ok (unescape escaped? s, after)
    | none => .error cs
  | _ => .ok (Text.trimChars (beforeComment false (cs.takeWhile (!isBreak ·))), cs.dropWhile (!isBreak ·))

/-- The word that may stand before a name. -/
def dropExport (cs : List Char) : List Char :=
  match cs with
  | 'e' :: 'x' :: 'p' :: 'o' :: 'r' :: 't' :: c :: rest =>
    if isInlineBlank c then rest.dropWhile isInlineBlank else cs
  | _ => cs

/-- The name at the front of a text; a comment has none. -/
def readName (cs : List Char) : Reading (Option (List Char)) :=
  match cs with
  | '#' :: _ => .ok (none, cs)
  | '\'' :: rest =>
    let name := rest.takeWhile (· ≠ '\'')
    match rest.drop name.length with
    | _ :: after => if name.isEmpty then .error cs else .ok (some name, after)
    | [] => .error cs
  | _ =>
    let name := cs.takeWhile fun c => c ≠ '=' && c ≠ '#' && !Text.isBlank c
    if name.isEmpty then .error cs else .ok (some name, cs.drop name.length)

/-- One line: a name, and a value unless there is no equals sign. -/
def readLine (cs : List Char) : Except (List Char) (Option (List Char × Option (List Char)) × List Char) := do
  let (name, rest) ← readName (dropExport cs)
  let rest := rest.dropWhile isInlineBlank
  let (value, rest) ← match rest with
    | '=' :: after => (readValue (after.dropWhile isInlineBlank)).map fun (s, r) => (some s, r)
    | _ => .ok (none, rest)
  let rest := dropComment rest
  match endOfLine? rest with
  | some after => return (name.map fun n => (n, value), after)
  | none => .error rest

/-- The bindings of a text in order; the fuel is the number of its characters. -/
def bindingsFrom : Nat → List Char → List (String × Option String)
  | 0, _ => []
  | fuel + 1, cs =>
    match cs.dropWhile Text.isBlank with
    | [] => []
    | rest@(_ :: _) =>
      match readLine rest with
      | .ok (some (name, value), after) =>
        (String.ofList name, value.map String.ofList) :: bindingsFrom fuel after
      | .ok (none, after) => bindingsFrom fuel after
      | .error stuck => bindingsFrom fuel (dropLine stuck)

/-- The bindings of a file, in order. -/
def bindings (text : String) : List (String × Option String) :=
  let cs := Text.uniformNewlines text.toList
  bindingsFrom (cs.length + 1) cs

/-- A reference to a variable that has just been opened: its name, its default, what follows it. -/
def readReference? (cs : List Char) : Option (String × Option String × List Char) :=
  let name := cs.takeWhile fun c => c ≠ '}' && c ≠ ':'
  match cs.drop name.length with
  | '}' :: after => some (String.ofList name, none, after)
  | ':' :: '-' :: rest =>
    let default := rest.takeWhile (· ≠ '}')
    match rest.drop default.length with
    | _ :: after => some (String.ofList name, some (String.ofList default), after)
    | [] => none
  | _ => none

/-- Replaces references by what they refer to; the fuel is the number of characters. -/
def expandFrom (value? : String → Option (Option String)) : Nat → List Char → List Char
  | 0, cs => cs
  | _ + 1, [] => []
  | fuel + 1, '$' :: '{' :: rest =>
    match readReference? rest with
    | some (name, default, after) =>
      let value := match value? name with
        | some found => found.getD ""
        | none => default.getD ""
      value.toList ++ expandFrom value? fuel after
    | none => '$' :: expandFrom value? fuel ('{' :: rest)
  | fuel + 1, c :: rest => c :: expandFrom value? fuel rest

/-- The variables of a file. A reference sees the variables before it, and then those of the environment. -/
def definitions (env : Environment) (text : String) : List (String × Option String) :=
  (bindings text).foldl
    (fun (known : List (String × Option String)) (name, value) =>
      let value? (other : String) : Option (Option String) :=
        match known.lookup other with
        | some found => some found
        | none => (env.find? other).map some
      let expanded := value.map fun s => String.ofList (expandFrom value? (s.length + 1) s.toList)
      known.filter (·.1 ≠ name) ++ [(name, expanded)])
    []

end CommandShell.Settings.EnvironmentFile
