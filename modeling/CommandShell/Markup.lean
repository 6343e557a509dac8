import CommandShell.Text.Blank

/-!
# Colour markup

A message may hold tags in square brackets: `[red]` begins a stretch of text in a colour and `[/red]` ends it.
A backslash before a tag makes it plain text, and two backslashes before a tag are one. Only what looks like a
tag is treated so; any other bracket is itself. `escape` writes a text so that rendering shows it verbatim,
and `render` cuts a message into runs of one colour.
-/

namespace CommandShell

/-- The colours of a character terminal. -/
inductive Colour where
  | black
  | red
  | green
  | yellow
  | blue
  | magenta
  | cyan
  | white
  | brightBlack
deriving DecidableEq, Repr

namespace Colour

/-- The colour of a name. -/
def ofName? : String → Option Colour
  | "black" => some black
  | "red" => some red
  | "green" => some green
  | "yellow" => some yellow
  | "blue" => some blue
  | "magenta" => some magenta
  | "cyan" => some cyan
  | "white" => some white
  | "bright_black" => some brightBlack
  | _ => none

/-- The number that selects a colour on a terminal. -/
def code : Colour → String
  | black => "30"
  | red => "31"
  | green => "32"
  | yellow => "33"
  | blue => "34"
  | magenta => "35"
  | cyan => "36"
  | white => "37"
  | brightBlack => "90"

end Colour

namespace Markup

/-- The characters that can follow the bracket of a tag. -/
def beginsTag (c : Char) : Bool := ('a' ≤ c && c ≤ 'z') || c == '#' || c == '/' || c == '@'

/-- The characters up to the first closing bracket, and those after it; none if an opening bracket or the end
comes before. -/
def upToClose? : List Char → Option (List Char × List Char)
  | [] => none
  | ']' :: rest => some ([], rest)
  | c :: rest => if c = '[' then none else (upToClose? rest).map fun (body, after) => (c :: body, after)

/-- The body of a tag whose opening bracket has just been read, and what follows its closing bracket. -/
def tag? : List Char → Option (List Char × List Char)
  | [] => none
  | c :: rest =>
    if beginsTag c then (upToClose? rest).map fun (body, after) => (c :: body, after) else none

theorem length_of_upToClose? {cs body after : List Char} (h : upToClose? cs = some (body, after)) :
    body.length + after.length + 1 = cs.length := by
  fun_induction upToClose? cs generalizing body with
  | case1 => simp at h
  | case2 rest =>
    obtain ⟨rfl, rfl⟩ := by simpa using h
    simp
  | case3 => simp at h
  | case4 c rest _ _ ih =>
    obtain ⟨⟨body', after'⟩, hb, he⟩ := Option.map_eq_some_iff.1 h
    obtain ⟨rfl, rfl⟩ := by simpa using he
    have := ih hb
    simp only [List.length_cons]
    omega

theorem length_of_tag? {cs body after : List Char} (h : tag? cs = some (body, after)) :
    body.length + after.length + 1 = cs.length := by
  fun_cases tag? cs with
  | case1 => simp [tag?] at h
  | case2 c rest hc =>
    simp only [tag?, hc, if_true] at h
    obtain ⟨⟨body', after'⟩, hb, he⟩ := Option.map_eq_some_iff.1 h
    obtain ⟨rfl, rfl⟩ := by simpa using he
    have := length_of_upToClose? hb
    simp only [List.length_cons]
    omega
  | case3 c rest hc => simp [tag?, hc] at h

/-- A piece of a message as it is read. -/
inductive Piece where
  /-- Text outside tags, a bracket after a backslash included. -/
  | plain (text : List Char)
  /-- A tag with the given number of backslashes before it. -/
  | tag (slashes : Nat) (body : List Char)
deriving DecidableEq, Repr

/-- A piece of plain text; no characters make no piece. -/
def plainPiece (reversed : List Char) : List Piece :=
  if reversed.isEmpty then [] else [.plain reversed.reverse]

/-- Cuts a text into pieces, given the plain text before it, in reverse, and the number of backslashes read
since. -/
def piecesFrom (plain : List Char) (slashes : Nat) : List Char → List Piece
  | [] => plainPiece (List.replicate slashes '\\' ++ plain)
  | c :: rest =>
    if c = '\\' then piecesFrom plain (slashes + 1) rest
    else if c = '[' then
      match h : tag? rest with
      | some (body, after) =>
        have : after.length < rest.length := by have := length_of_tag? h; omega
        plainPiece plain ++ .tag slashes body :: piecesFrom [] 0 after
      | none => piecesFrom ('[' :: (List.replicate slashes '\\' ++ plain)) 0 rest
    else piecesFrom (c :: (List.replicate slashes '\\' ++ plain)) 0 rest
termination_by cs => cs.length

/-- The pieces of a message in order. -/
def pieces (cs : List Char) : List Piece := piecesFrom [] 0 cs

/-- A number of backslashes. -/
def backslashes (n : Nat) : List Char := List.replicate n '\\'

/-- A tag as it is written. -/
def bracketed (body : List Char) : List Char := '[' :: body ++ [']']

/-- One piece of a text to be shown verbatim: what looks like a tag gets twice its backslashes and one
more. -/
def escapePiece : Piece → List Char
  | .plain text => text
  | .tag slashes body => backslashes (2 * slashes + 1) ++ bracketed body

/-- A text that ends in one backslash, and not in two, gets another, so that a tag after it stays a tag. -/
def closeBackslash (cs : List Char) : List Char :=
  match cs.reverse with
  | '\\' :: '\\' :: _ => cs
  | '\\' :: _ => cs ++ ['\\']
  | _ => cs

/-- The characters of a text in escaped form. -/
def escapeChars (cs : List Char) : List Char := closeBackslash ((pieces cs).flatMap escapePiece)

/-- A text written so that rendering shows it verbatim. -/
def escape (s : String) : String := String.ofList (escapeChars s.toList)

/-- In text outside tags a backslash before a bracket vanishes. -/
def unslash : List Char → List Char
  | [] => []
  | '\\' :: '[' :: rest => '[' :: unslash rest
  | c :: rest => c :: unslash rest

/-- Text of one colour; without a colour it is left to the terminal. -/
structure Run where
  colour : Option Colour
  text : List Char
deriving DecidableEq, Repr

/-- The colours of the tags that are open, the innermost first. -/
abbrev Open := List (String × Option Colour)

/-- Closes the innermost tag of a name; the empty name closes whichever is innermost. -/
def close (name : String) (opened : Open) : Open :=
  if name.isEmpty then opened.drop 1 else opened.eraseP (·.1 = name)

/-- The runs of some pieces, given the tags that are open and the text, in reverse, that is not yet in a
run. -/
def runsFrom (opened : Open) (text : List Char) : List Piece → List Run
  | [] => finishRun
  | .plain cs :: rest => runsFrom opened ((unslash cs).reverse ++ text) rest
  | .tag slashes body :: rest =>
    let text := backslashes (slashes / 2) ++ text
    if slashes % 2 = 1 then runsFrom opened ((bracketed body).reverse ++ text) rest
    else
      let run : List Run := if text.isEmpty then [] else [⟨(opened.head?.bind (·.2)), text.reverse⟩]
      match body with
      | '/' :: name => run ++ runsFrom (close (String.ofList name) opened) [] rest
      | _ =>
        let name := String.ofList body
        run ++ runsFrom ((name, Colour.ofName? name) :: opened) [] rest
where
  finishRun : List Run := if text.isEmpty then [] else [⟨(opened.head?.bind (·.2)), text.reverse⟩]

/-- The runs of a message; a message without an opening bracket is one run as it stands. -/
def render (s : String) : List Run :=
  let cs := s.toList
  if cs.contains '[' then runsFrom [] [] (pieces cs) else if cs.isEmpty then [] else [⟨none, cs⟩]

/-- A message within the tags of a colour. -/
def within (colour message : String) : String := "[" ++ colour ++ "]" ++ message ++ "[/" ++ colour ++ "]"

end Markup

end CommandShell
