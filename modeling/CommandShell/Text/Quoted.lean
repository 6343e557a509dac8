import CommandShell.Text.Printable

/-!
# Quoted text

Two ways to write a text unambiguously on one line: for messages, between single or double quotes with the
unprintable characters escaped; for records, between double quotes in ASCII alone.
-/

namespace CommandShell.Text

/-- The digits of `n` in base sixteen, in lower case, at least `width` of them. -/
def hexDigits (width n : Nat) : List Char :=
  let digits := Nat.toDigits 16 n
  List.replicate (width - digits.length) '0' ++ digits

/-- A character within quotes: the quote in use, the backslash and what cannot be printed are escaped, by the
shortest of the three numeric forms that holds the code point. -/
def quotedChar (quote c : Char) : List Char :=
  if c = quote ∨ c = '\\' then ['\\', c]
  else if c = '\t' then ['\\', 't']
  else if c = '\n' then ['\\', 'n']
  else if c = '\r' then ['\\', 'r']
  else if isPrintable c then [c]
  else if c.toNat < 0x100 then '\\' :: 'x' :: hexDigits 2 c.toNat
  else if c.toNat < 0x10000 then '\\' :: 'u' :: hexDigits 4 c.toNat
  else '\\' :: 'U' :: hexDigits 8 c.toNat

/-- A text between quotes: single ones, or double ones if it holds single quotes and no double quote. -/
def quoted (s : String) : String :=
  let cs := s.toList
  let quote := if cs.contains '\'' && !cs.contains '"' then '"' else '\''
  String.ofList (quote :: cs.flatMap (quotedChar quote) ++ [quote])

/-- A character within double quotes in ASCII; one beyond sixteen bits becomes a surrogate pair. -/
def asciiQuotedChar (c : Char) : List Char :=
  let n := c.toNat
  if c = '"' ∨ c = '\\' then ['\\', c]
  else if c = '\n' then ['\\', 'n']
  else if c = '\r' then ['\\', 'r']
  else if c = '\t' then ['\\', 't']
  else if n = 8 then ['\\', 'b']
  else if n = 12 then ['\\', 'f']
  else if 0x20 ≤ n ∧ n < 0x7F then [c]
  else if n < 0x10000 then '\\' :: 'u' :: hexDigits 4 n
  else
    let m := n - 0x10000
    ('\\' :: 'u' :: hexDigits 4 (0xD800 + m / 0x400)) ++ ('\\' :: 'u' :: hexDigits 4 (0xDC00 + m % 0x400))

/-- A text between double quotes in ASCII. -/
def asciiQuoted (s : String) : String := String.ofList ('"' :: s.toList.flatMap asciiQuotedChar ++ ['"'])

/-- Texts in brackets, quoted in ASCII and separated by a comma and a space. -/
def asciiList (parts : List String) : String := "[" ++ String.intercalate ", " (parts.map asciiQuoted) ++ "]"

end CommandShell.Text
