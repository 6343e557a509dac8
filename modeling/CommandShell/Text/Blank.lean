/-!
# Blanks, trimming and words

Words are the maximal runs of characters that are not blank. Two facts tie the three notions together: a
trimmed text neither begins nor ends with a blank, and a word holds no blank at all.
-/

namespace CommandShell.Text

/-- The characters that separate words: the separators and line breaks of Unicode and four control
characters. -/
def isBlank (c : Char) : Bool :=
  let n := c.toNat
  (0x09 ≤ n && n ≤ 0x0D) || (0x1C ≤ n && n ≤ 0x20) || n == 0x85 || n == 0xA0 || n == 0x1680 ||
    (0x2000 ≤ n && n ≤ 0x200A) || n == 0x2028 || n == 0x2029 || n == 0x202F || n == 0x205F || n == 0x3000

/-- A text without the characters of a class at its two ends. -/
def trimBy {α : Type} (p : α → Bool) (cs : List α) : List α :=
  ((cs.dropWhile p).reverse.dropWhile p).reverse

/-- A text without the blanks at its two ends. -/
def trimChars (cs : List Char) : List Char := trimBy isBlank cs

/-- Splits off the first run of characters outside a class; used one word at a time. -/
def wordsAux (word : List Char) : List Char → List (List Char)
  | [] => if word.isEmpty then [] else [word.reverse]
  | c :: rest =>
    if isBlank c then
      if word.isEmpty then wordsAux [] rest else word.reverse :: wordsAux [] rest
    else wordsAux (c :: word) rest

/-- The words of a text, in order. -/
def wordsOf (cs : List Char) : List (List Char) := wordsAux [] cs

/-- The words of a text, in order. -/
def words (s : String) : List String := (wordsOf s.toList).map String.ofList

/-- A text without the blanks at its two ends. -/
def trim (s : String) : String := String.ofList (trimChars s.toList)

/-- Splits at every occurrence of one character; there is always one part more than there are occurrences. -/
def splitAtChar (sep : Char) : List Char → List (List Char)
  | [] => [[]]
  | c :: rest =>
    match splitAtChar sep rest with
    | [] => [[]]
    | part :: parts => if c = sep then [] :: part :: parts else (c :: part) :: parts

/-- Texts joined by single spaces. -/
def spaced (parts : List String) : String := String.intercalate " " parts

/-- Whether one text occurs within another. -/
def occursIn (pattern : List Char) : List Char → Bool
  | [] => pattern.isEmpty
  | c :: rest => pattern.isPrefixOf (c :: rest) || occursIn pattern rest

/-- Whether one text occurs within another. -/
def occurs (pattern text : String) : Bool := occursIn pattern.toList text.toList

/-- The text with a line feed at its end: one is added unless it is there already. -/
def endLine (s : String) : String := if s.endsWith "\n" then s else s ++ "\n"

end CommandShell.Text
