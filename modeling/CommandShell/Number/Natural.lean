/-!
# Reading natural numbers

A natural number written in the ten digits of ASCII, with nothing around them.
-/

namespace CommandShell.Number

/-- The number that digits write in base ten. -/
def ofDigits (digits : List Nat) : Nat := digits.foldl (fun n d => 10 * n + d) 0

/-- The value of a digit of ASCII. -/
def asciiDigit? (c : Char) : Option Nat := if c.isDigit then some (c.toNat - 0x30) else none

/-- The digits of ASCII at the front of a text, and the rest. -/
def takeDigits : List Char → List Nat × List Char
  | [] => ([], [])
  | c :: rest =>
    match asciiDigit? c with
    | some d => let (ds, after) := takeDigits rest; (d :: ds, after)
    | none => ([], c :: rest)

/-- The number at the front of a text, zero if there is none, and what follows it. -/
def takeNatural (cs : List Char) : Nat × List Char :=
  let (digits, rest) := takeDigits cs
  (ofDigits digits, rest)

/-- The number that a text writes. -/
def readNatural? (cs : List Char) : Option Nat :=
  match takeDigits cs with
  | (d :: ds, []) => some (ofDigits (d :: ds))
  | _ => none

end CommandShell.Number
