import CommandShell.Number.Natural
import CommandShell.Text.Blank
import CommandShell.Text.Digit

/-!
# Reading integers

A written integer may have blanks around it and a sign in front. Its digits may come from any script, and
single underscores may stand between them. A text of more than 4300 digits is refused, however it goes on
after them.
-/

namespace CommandShell.Number

/-- Why a text is no integer. -/
inductive IntegerFault where
  | malformed
  /-- There are more digits than an integer may be written with. -/
  | tooLong (digits : Nat)
deriving DecidableEq, Repr

/-- The greatest number of digits of a written integer. -/
def digitLimit : Nat := 4300

/-- Takes a minus or a plus sign off the front; tells whether it was a minus. -/
def splitSign : List Char → Bool × List Char
  | '-' :: rest => (true, rest)
  | '+' :: rest => (false, rest)
  | cs => (false, cs)

/-- The digits at the front of a text, single underscores between them left out, with what follows; `none` if
an underscore is not between two digits. -/
def digitsFrom (afterDigit : Bool) : List Char → Option (List Nat × List Char)
  | [] => if afterDigit then some ([], []) else none
  | c :: rest =>
    match Text.decimalValue? c with
    | some d => (digitsFrom true rest).map fun (ds, after) => (d :: ds, after)
    | none =>
      if !afterDigit then none
      else if c = '_' then digitsFrom false rest
      else some ([], c :: rest)

/-- The integer that a text writes. -/
def readInteger (s : String) : Except IntegerFault Int :=
  let (negative, cs) := splitSign (Text.trimChars s.toList)
  match digitsFrom false cs with
  | none => .error .malformed
  | some (digits, after) =>
    if digits.length > digitLimit then .error (.tooLong digits.length)
    else if !after.isEmpty then .error .malformed
    else .ok (if negative then -(ofDigits digits) else ofDigits digits)

end CommandShell.Number
