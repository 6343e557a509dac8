import CommandShell.Markup
import CommandShell.Text.Width

/-!
# Consoles

How styled text reaches a terminal, and how it reaches a file or a pipe. Everything printed ends its line.
Control characters that would move the cursor are left out; on a terminal each run of a line stands between
the codes that switch its colour on and off.
-/

namespace CommandShell

/-- What a console is connected to. -/
structure Console where
  /-- A terminal understands control sequences. -/
  terminal : Bool
  /-- Colours are wanted; without a terminal there are none anyway. -/
  coloured : Bool
deriving DecidableEq, Repr

namespace Console

/-- A console that is a file or a pipe. -/
def plain : Console := ⟨false, true⟩

/-- The character that begins a control sequence. -/
def escapeChar : Char := Char.ofNat 0x1B

/-- The sequence that selects a colour, or with `0` goes back to none. -/
def select (code : String) : List Char := escapeChar :: '[' :: code.toList ++ ['m']

/-- The bell, the backspace, and the characters that move to another line or back in this one. -/
def isDropped (c : Char) : Bool := let n := c.toNat; n = 7 || n = 8 || n = 11 || n = 12 || n = 13

/-- Replaces each tab by the spaces that lead to the next multiple of eight columns, from a given column
on. -/
def expandTabs (column : Nat) : List Char → List Char
  | [] => []
  | '\n' :: rest => '\n' :: expandTabs 0 rest
  | '\t' :: rest => List.replicate (8 - column % 8) ' ' ++ expandTabs (column + (8 - column % 8)) rest
  | c :: rest => c :: expandTabs (column + Text.columns c) rest

/-- The column after some characters. -/
def columnAfter (column : Nat) : List Char → Nat
  | [] => column
  | '\n' :: rest => columnAfter 0 rest
  | '\t' :: rest => columnAfter (column + (8 - column % 8)) rest
  | c :: rest => columnAfter (column + Text.columns c) rest

/-- One stretch of a line in its colour. -/
def stretch (console : Console) (colour : Option Colour) (cs : List Char) : List Char :=
  match colour with
  | some c =>
    if console.terminal && console.coloured && !cs.isEmpty then select c.code ++ cs ++ select "0" else cs
  | none => cs

/-- One run; a line feed stands outside the colour codes. -/
def run (console : Console) (r : Markup.Run) : List Char :=
  List.intercalate ['\n'] ((Text.splitAtChar '\n' r.text).map (console.stretch r.colour))

/-- The runs as they are shown, from a given column on. -/
def runs (console : Console) (column : Nat) : List Markup.Run → List Char
  | [] => []
  | r :: rest =>
    let kept := r.text.filter (!isDropped ·)
    console.run { r with text := expandTabs column kept } ++ console.runs (columnAfter column kept) rest

/-- Prints a message in markup and ends the line. -/
def message (console : Console) (text : String) : String :=
  String.ofList (console.runs 0 (Markup.render text)) ++ "\n"

/-- Prints a text in one colour, as it stands, and ends the line. -/
def verbatim (console : Console) (colour : Colour) (text : String) : String :=
  String.ofList (console.runs 0 [⟨some colour, text.toList⟩]) ++ "\n"

/-- The output of a program's error stream: red on a terminal, and otherwise untouched. -/
def programError (console : Console) (text : String) : String :=
  if console.terminal && console.coloured then
    String.ofList (select Colour.red.code ++ text.toList ++ select "0")
  else text

/-- What empties the screen. -/
def clear (console : Console) : String :=
  if console.terminal then String.ofList [escapeChar, '[', '2', 'J', escapeChar, '[', 'H'] else ""

end Console

end CommandShell
