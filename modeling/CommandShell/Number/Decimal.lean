import CommandShell.Number.Binary64
import CommandShell.Number.Integer

/-!
# Reading decimal fractions

A sign, digits with a point anywhere among them, and an exponent; or the name of an infinity or of the
undefined number. Only the digits of ASCII count.
-/

namespace CommandShell.Number

/-- The exponent that ends a number; no characters are the exponent zero. -/
def readExponent? : List Char → Option Int
  | [] => some 0
  | c :: rest =>
    if c = 'e' ∨ c = 'E' then
      let (negative, digits) := splitSign rest
      match takeDigits digits with
      | (ds@(_ :: _), []) => some (if negative then -(ofDigits ds) else ofDigits ds)
      | _ => none
    else none

/-- A decimal fraction without its sign: its digits, the place of the point among them, its exponent. -/
def readMagnitude? (cs : List Char) : Option (Nat × Int) := do
  let (whole, rest) := takeDigits cs
  let (part, rest) := match rest with
    | '.' :: after => takeDigits after
    | _ => ([], rest)
  let exponent ← readExponent? rest
  if whole.isEmpty && part.isEmpty then none
  else some (ofDigits (whole ++ part), exponent - part.length)

/-- The number that a text writes, without blanks around it. -/
def readDecimal? (cs : List Char) : Option Binary64 :=
  let (negative, rest) := splitSign cs
  match String.ofList (rest.map Char.toLower) with
  | "inf" | "infinity" => some (.infinite negative)
  | "nan" => some .undefined
  | _ => (readMagnitude? rest).map fun (n, e) => .ofDecimal negative n e

end CommandShell.Number
