import CommandShell.Program.Basic
import CommandShell.Text.Quoted

/-!
# Messages of programs

How programs name files and options in what they say is wrong. A name that a command line could not hold as it
stands is quoted so that it could, and octets that are not printable ASCII are written in base eight.
-/

namespace CommandShell.Program

/-- The characters that keep a name from standing as it is. -/
def needsQuotes (b : UInt8) : Bool :=
  let n := b.toNat
  n ≤ 0x20 || 0x7F ≤ n || (Text.encode "!\"$&'()*;<=>?[\\^\x60\x7b|\x7d").contains b

/-- Printable ASCII. -/
def isPlain (b : UInt8) : Bool := let n := b.toNat; 0x20 ≤ n && n < 0x7F

/-- Three digits in base eight. -/
def octalDigits (n : Nat) : String := toString (n / 64) ++ toString (n / 8 % 8) ++ toString (n % 8)

/-- An octet that is not printable, as it is written between dollar quotes. -/
def escapedOctet (b : UInt8) : String :=
  match b.toNat with
  | 7 => "\\a"
  | 8 => "\\b"
  | 9 => "\\t"
  | 10 => "\\n"
  | 11 => "\\v"
  | 12 => "\\f"
  | 13 => "\\r"
  | n => "\\" ++ octalDigits n

/-- The octets of a name between single quotes; `dollar` tells that a dollar quote is open. -/
def quoteOctets (dollar : Bool) : Bytes → String
  | [] => "'"
  | b :: rest =>
    if isPlain b then
      let shown := if b.toNat = 0x27 then "'\\''" else String.singleton (Char.ofNat b.toNat)
      (if dollar then "''" else "") ++ shown ++ quoteOctets false rest
    else (if dollar then "" else "'$'") ++ escapedOctet b ++ quoteOctets true rest

/-- Whether a name cannot stand as it is. -/
def mustQuote (bytes : Bytes) : Bool :=
  bytes.isEmpty || bytes.any needsQuotes ||
    match bytes with
    | b :: _ => b = 0x23 || b = 0x7E
    | [] => false

/-- A name between quotes. -/
def quoteAlways (name : String) : String :=
  let bytes := Text.encode name
  if bytes.contains 0x27 && bytes.all (fun b => isPlain b && !(Text.encode "\"$\\\x60").contains b) then
    "\"" ++ name ++ "\""
  else "'" ++ quoteOctets false bytes

/-- A name, between quotes if it needs them. -/
def quoteName (name : String) : String :=
  if mustQuote (Text.encode name) then quoteAlways name else name

/-- An octet within plain quotes. -/
def plainQuotedOctet (b : UInt8) : String :=
  if b.toNat = 0x27 then "\\'"
  else if b.toNat = 0x5C then "\\\\"
  else if isPlain b then String.singleton (Char.ofNat b.toNat)
  else escapedOctet b

/-- An operand between plain quotes. -/
def quoteOperand (s : String) : String :=
  "'" ++ String.join ((Text.encode s).map plainQuotedOctet) ++ "'"

/-- What a program says about a file. -/
def about (program file : String) (fault : SystemFault) : String :=
  program ++ ": " ++ quoteName file ++ ": " ++ fault.text ++ "\n"

/-- The line that ends a complaint about the command line. -/
def hint (program : String) : String := "Try '" ++ program ++ " --help' for more information.\n"

/-- A complaint about the command line. -/
def misuse (program text : String) : String := program ++ ": " ++ text ++ "\n" ++ hint program

end CommandShell.Program
