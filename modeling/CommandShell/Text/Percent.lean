import CommandShell.Text.Utf8

/-!
# Percent encoding

A text is written in letters, digits and a few signs; every other octet of its UTF-8 form becomes a percent
sign and two upper-case hexadecimal digits.
-/

namespace CommandShell.Text

/-- The octets that stand for themselves. -/
def isUnreserved (b : UInt8) : Bool :=
  let n := b.toNat
  (0x30 ≤ n && n ≤ 0x39) || (0x41 ≤ n && n ≤ 0x5A) || (0x61 ≤ n && n ≤ 0x7A) ||
    (encode "-_.~!*'()").contains b

/-- The upper-case hexadecimal digit of a number below sixteen. -/
def upperHexDigit (n : Nat) : Char := Char.ofNat (if n < 10 then 0x30 + n else 0x41 + (n - 10))

/-- One octet in its written form. -/
def percentOctet (b : UInt8) : List Char :=
  if isUnreserved b then [Char.ofNat b.toNat]
  else ['%', upperHexDigit (b.toNat / 16), upperHexDigit (b.toNat % 16)]

/-- A text in percent-encoded form. -/
def percentEncode (s : String) : String := String.ofList ((encode s).flatMap percentOctet)

/-- The value of a hexadecimal digit. -/
def hexValue? (c : Char) : Option Nat :=
  let n := c.toNat
  if 0x30 ≤ n ∧ n ≤ 0x39 then some (n - 0x30)
  else if 0x41 ≤ n ∧ n ≤ 0x46 then some (n - 0x41 + 10)
  else if 0x61 ≤ n ∧ n ≤ 0x66 then some (n - 0x61 + 10)
  else none

/-- The octets of a percent-encoded form; `none` if a percent sign is not followed by two hexadecimal digits
or a character is not ASCII. -/
def percentOctets? : List Char → Option Bytes
  | [] => some []
  | '%' :: a :: b :: rest => do
    let high ← hexValue? a
    let low ← hexValue? b
    let more ← percentOctets? rest
    return UInt8.ofNat (high * 16 + low) :: more
  | c :: rest =>
    if c = '%' ∨ 0x80 ≤ c.toNat then none else (percentOctets? rest).map (UInt8.ofNat c.toNat :: ·)

/-- The text that a percent-encoded form stands for. -/
def percentDecode? (s : String) : Option String := (percentOctets? s.toList).bind decode?

end CommandShell.Text
