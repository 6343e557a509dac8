/-!
# Lines

Three conventions on where a line ends: a line feed, a carriage return or the pair of them (the convention of
text files, made uniform by `uniformNewlines`), and the wider set of line boundaries at which a text is cut
into lines. A final boundary ends the last line and does not begin an empty one.
-/

namespace CommandShell.Text

/-- Every carriage return, with the line feed after it if there is one, becomes a line feed. -/
def uniformNewlines : List Char → List Char
  | [] => []
  | '\r' :: '\n' :: rest => '\n' :: uniformNewlines rest
  | c :: rest => (if c = '\r' then '\n' else c) :: uniformNewlines rest

/-- The characters at which a text is cut into lines. -/
def isLineBoundary (c : Char) : Bool :=
  let n := c.toNat
  (0x0A ≤ n && n ≤ 0x0D) || (0x1C ≤ n && n ≤ 0x1E) || n == 0x85 || n == 0x2028 || n == 0x2029

/-- The lines of a text after an unfinished line, which is kept in reverse. -/
def linesAux (line : List Char) : List Char → List (List Char)
  | [] => if line.isEmpty then [] else [line.reverse]
  | '\r' :: '\n' :: rest => line.reverse :: linesAux [] rest
  | c :: rest => if isLineBoundary c then line.reverse :: linesAux [] rest else linesAux (c :: line) rest

/-- The lines of a text without their boundaries; a carriage return and a line feed are one boundary. -/
def linesOf (cs : List Char) : List (List Char) := linesAux [] cs

/-- The lines of a text. -/
def lines (s : String) : List String := (linesOf s.toList).map String.ofList

end CommandShell.Text
