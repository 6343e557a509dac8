import CommandShell.Text.Blank

/-!
# Patterns of scripts

A star stands for any text, a question mark for any character, and brackets for one of several characters.
What was quoted stands for itself.
-/

namespace CommandShell.Script

/-- A part of a pattern. -/
inductive PatternPart where
  | anyText
  | anyChar
  | char (c : Char)
  /-- One of the characters in some ranges, or one of all others. -/
  | oneOf (negated : Bool) (ranges : List (Char × Char))
deriving DecidableEq, Repr

namespace PatternPart

/-- Whether a part that stands for one character stands for this one. -/
def accepts (p : PatternPart) (c : Char) : Bool :=
  match p with
  | anyText => false
  | anyChar => true
  | char d => c = d
  | oneOf negated ranges => (ranges.any fun (first, last) => first ≤ c && c ≤ last) != negated

end PatternPart

/-- Characters, each with the mark of having been quoted. -/
abbrev Marked := List (Char × Bool)

/-- A text of which everything was quoted, or nothing. -/
def mark (quoted : Bool) (text : String) : Marked := text.toList.map (·, quoted)

/-- The ranges before the closing bracket, and what follows it; a bracket that comes first is a character like
any other. -/
def readRanges (first : Bool) : Marked → Option (List (Char × Char) × Marked)
  | [] => none
  | (']', false) :: rest =>
    if first then (readRanges false rest).map fun (ranges, after) => ((']', ']') :: ranges, after)
    else some ([], rest)
  | (a, _) :: ('-', false) :: (b, quoted) :: rest =>
    if b = ']' && !quoted then some ([(a, a), ('-', '-')], rest)
    else (readRanges false rest).map fun (ranges, after) => ((a, b) :: ranges, after)
  | (a, _) :: rest => (readRanges false rest).map fun (ranges, after) => ((a, a) :: ranges, after)

/-- What brackets hold, after the opening one, and what follows them. -/
def readBrackets? : Marked → Option (PatternPart × Marked)
  | ('!', false) :: rest | ('^', false) :: rest =>
    (readRanges true rest).map fun (ranges, after) => (.oneOf true ranges, after)
  | cs => (readRanges true cs).map fun (ranges, after) => (.oneOf false ranges, after)

/-- The parts of a pattern. The fuel is the number of characters. -/
def patternFrom : Nat → Marked → List PatternPart
  | 0, _ => []
  | _ + 1, [] => []
  | fuel + 1, ('*', false) :: rest => .anyText :: patternFrom fuel rest
  | fuel + 1, ('?', false) :: rest => .anyChar :: patternFrom fuel rest
  | fuel + 1, ('[', false) :: rest =>
    match readBrackets? rest with
    | some (part, after) => part :: patternFrom fuel after
    | none => .char '[' :: patternFrom fuel rest
  | fuel + 1, (c, _) :: rest => .char c :: patternFrom fuel rest

/-- A pattern. -/
def pattern (cs : Marked) : List PatternPart := patternFrom (cs.length + 1) cs

/-- Whether a pattern stands for more than one text. -/
def isOpen (parts : List PatternPart) : Bool :=
  parts.any fun
    | .char _ => false
    | _ => true

/-- The ends of a text, the longest first. -/
def endsOf : List Char → List (List Char)
  | [] => [[]]
  | c :: rest => (c :: rest) :: endsOf rest

/-- Whether a pattern stands for a text. -/
def matchesPattern : List PatternPart → List Char → Bool
  | [], cs => cs.isEmpty
  | .anyText :: rest, cs => (endsOf cs).any (matchesPattern rest)
  | p :: rest, c :: after => p.accepts c && matchesPattern rest after
  | _ :: _, [] => false

/-- The lengths of the parts of a text that a pattern stands for, at its front or at its end, in rising
order. -/
def matchLengths (parts : List PatternPart) (front : Bool) (cs : List Char) : List Nat :=
  (List.range (cs.length + 1)).filter fun n =>
    matchesPattern parts (if front then cs.take n else cs.drop (cs.length - n))

/-- A text without the longest, or the shortest, part that a pattern stands for, at its front or its end. -/
def withoutMatch (parts : List PatternPart) (front longest : Bool) (text : String) : String :=
  let cs := text.toList
  let lengths := matchLengths parts front cs
  match if longest then lengths.getLast? else lengths.head? with
  | some n => String.ofList (if front then cs.drop n else cs.take (cs.length - n))
  | none => text

end CommandShell.Script
