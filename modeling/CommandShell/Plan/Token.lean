import CommandShell.Text.Blank

/-!
# Tokens of a segment

Scanning cuts a segment into words and operators. Blanks only separate; an operator character is an operator
wherever it stands, and of several `>` in a row as many pairs as possible are taken from the left.
-/

namespace CommandShell

/-- The operators of a segment. -/
inductive Operator where
  | pipe
  | readFrom
  | appendTo
  | writeTo
deriving DecidableEq, Repr

namespace Operator

/-- The written form of an operator. -/
def symbol : Operator → String
  | pipe => "|"
  | readFrom => "<"
  | appendTo => ">>"
  | writeTo => ">"

/-- The operator that one character writes. -/
def ofChar? (c : Char) : Option Operator :=
  if c = '|' then some pipe else if c = '<' then some readFrom else if c = '>' then some writeTo else none

end Operator

/-- What a token says. -/
inductive Lexeme where
  | word (text : String)
  | operator (op : Operator)
deriving DecidableEq, Repr

/-- A lexeme and the positions of its first character and of the one after its last. -/
structure Token where
  lexeme : Lexeme
  start : Nat
  stop : Nat
deriving DecidableEq, Repr

namespace Token

/-- The characters of a token. -/
def text (t : Token) : String :=
  match t.lexeme with
  | .word s => s
  | .operator op => op.symbol

/-- The token of a word that ends before position `stop`; no characters make no token. -/
def endWord (stop : Nat) (reversed : List Char) : List Token :=
  if reversed.isEmpty then []
  else [⟨.word (String.ofList reversed.reverse), stop - reversed.length, stop⟩]

/-- Scans from position `pos` on, within a word whose characters so far are kept in reverse. -/
def scanFrom (pos : Nat) (word : List Char) : List Char → List Token
  | [] => endWord pos word
  | '>' :: '>' :: rest => endWord pos word ++ ⟨.operator .appendTo, pos, pos + 2⟩ :: scanFrom (pos + 2) [] rest
  | c :: rest =>
    match Operator.ofChar? c with
    | some op => endWord pos word ++ ⟨.operator op, pos, pos + 1⟩ :: scanFrom (pos + 1) [] rest
    | none =>
      if Text.isBlank c then endWord pos word ++ scanFrom (pos + 1) [] rest
      else scanFrom (pos + 1) (c :: word) rest

/-- The tokens of a text, in order. -/
def scan (s : String) : List Token := scanFrom 0 [] s.toList

/-- The positions before and after each occurrence of an operator. -/
def occurrences (op : Operator) (tokens : List Token) : List (Nat × Nat) :=
  (tokens.filter (·.lexeme = .operator op)).map fun t => (t.start, t.stop)

end Token

end CommandShell
