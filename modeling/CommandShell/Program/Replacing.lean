import CommandShell.Program.Source

/-!
# Replacing octets

`tr` replaces, deletes or squeezes octets of its input. A set of octets is written with ranges, escapes and
names of classes.
-/

namespace CommandShell.Program

/-- Why a set cannot be read. -/
inductive SetFault where
  | reversedRange (first last : UInt8)
  | unknownClass (name : Bytes)
deriving DecidableEq, Repr

/-- The octets from one to another. -/
def octetRange (first last : Nat) : Bytes := (List.range (last + 1 - first)).map fun n => UInt8.ofNat (first + n)

/-- The octets of a named class of ASCII. -/
def classOctets? (name : Bytes) : Option Bytes :=
  let ofAscii (p : Nat → Bool) : Option Bytes := some ((octetRange 0 127).filter fun b => p b.toNat)
  let lower (n : Nat) : Bool := 0x61 ≤ n && n ≤ 0x7A
  let upper (n : Nat) : Bool := 0x41 ≤ n && n ≤ 0x5A
  let digit (n : Nat) : Bool := 0x30 ≤ n && n ≤ 0x39
  let isName (s : String) : Bool := name = Text.encode s
  if isName "lower" then ofAscii lower
  else if isName "upper" then ofAscii upper
  else if isName "digit" then ofAscii digit
  else if isName "alpha" then ofAscii fun n => lower n || upper n
  else if isName "alnum" then ofAscii fun n => lower n || upper n || digit n
  else if isName "space" then ofAscii fun n => n = 32 || (9 ≤ n && n ≤ 13)
  else if isName "blank" then ofAscii fun n => n = 32 || n = 9
  else if isName "cntrl" then ofAscii fun n => n < 32 || n = 127
  else if isName "print" then ofAscii fun n => 32 ≤ n && n < 127
  else if isName "graph" then ofAscii fun n => 32 < n && n < 127
  else if isName "punct" then ofAscii fun n => 32 < n && n < 127 && !(lower n || upper n || digit n)
  else if isName "xdigit" then ofAscii fun n => digit n || (0x41 ≤ n && n ≤ 0x46) || (0x61 ≤ n && n ≤ 0x66)
  else none

/-- The value of an octal digit. -/
def octalValue? (b : UInt8) : Option Nat := if 0x30 ≤ b && b ≤ 0x37 then some (b.toNat - 0x30) else none

/-- The octet that an escape stands for, after its backslash, and what follows. -/
def setEscape : Bytes → UInt8 × Bytes
  | [] => (0x5C, [])
  | b :: rest =>
    match octalValue? b with
    | some x =>
      match rest with
      | c :: more =>
        match octalValue? c, more with
        | some y, d :: after =>
          match octalValue? d with
          | some z =>
            if x * 64 + y * 8 + z < 256 then (UInt8.ofNat (x * 64 + y * 8 + z), after)
            else (UInt8.ofNat (x * 8 + y), more)
          | none => (UInt8.ofNat (x * 8 + y), more)
        | some y, [] => (UInt8.ofNat (x * 8 + y), [])
        | none, _ => (UInt8.ofNat x, rest)
      | [] => (UInt8.ofNat x, [])
    | none =>
      let meant : UInt8 := match b.toNat with
        | 0x61 => 7
        | 0x62 => 8
        | 0x66 => 12
        | 0x6E => 10
        | 0x72 => 13
        | 0x74 => 9
        | 0x76 => 11
        | _ => b
      (meant, rest)

/-- A member of a set as it is written: an octet, and whether a dash after it may begin a range. -/
inductive SetItem where
  | octet (b : UInt8)
  | dash
  | named (name : Bytes)
deriving DecidableEq, Repr

/-- The items of a set; the fuel is the number of octets. -/
def setItems : Nat → Bytes → List SetItem
  | 0, _ => []
  | _ + 1, [] => []
  | fuel + 1, 0x5C :: rest => let (b, after) := setEscape rest; .octet b :: setItems fuel after
  | fuel + 1, 0x2D :: rest => .dash :: setItems fuel rest
  | fuel + 1, 0x5B :: 0x3A :: rest =>
    let name := rest.takeWhile (· ≠ 0x3A)
    match rest.drop name.length with
    | 0x3A :: 0x5D :: after => .named name :: setItems fuel after
    | _ => .octet 0x5B :: setItems fuel (0x3A :: rest)
  | fuel + 1, b :: rest => .octet b :: setItems fuel rest

/-- The octets of a set. -/
def setOctets : List SetItem → Except SetFault Bytes
  | [] => .ok []
  | .octet a :: .dash :: .octet b :: rest =>
    if b < a then .error (.reversedRange a b) else (setOctets rest).map (octetRange a.toNat b.toNat ++ ·)
  | .octet a :: rest => (setOctets rest).map (a :: ·)
  | .dash :: rest => (setOctets rest).map (0x2D :: ·)
  | .named name :: rest =>
    match classOctets? name with
    | some members => (setOctets rest).map (members ++ ·)
    | none => .error (.unknownClass name)

/-- Reads a set. -/
def readSet (s : String) : Except SetFault Bytes :=
  let bytes := Text.encode s
  setOctets (setItems (bytes.length + 1) bytes)

/-- The wording of a fault. -/
def SetFault.text : SetFault → String
  | reversedRange first last =>
    let shown (b : UInt8) : String := if isPlain b then String.singleton (Char.ofNat b.toNat) else escapedOctet b
    "range-endpoints of '" ++ shown first ++ "-" ++ shown last ++ "' are in reverse collating sequence order"
  | unknownClass name => "invalid character class '" ++ Text.decode name ++ "'"

/-- The octets that are not in a set. -/
def complement (members : Bytes) : Bytes := (octetRange 0 255).filter (!members.contains ·)

/-- Keeps one of several equal octets in a row that are in a set. -/
def squeeze (members : Bytes) : Bytes → Bytes
  | a :: b :: rest =>
    if a = b && members.contains a then squeeze members (b :: rest) else a :: squeeze members (b :: rest)
  | bytes => bytes

/-- The octet that takes the place of another: the one at its place in the second set, whose last octet stands
for all that it lacks. -/
def replacement (first second : Bytes) (b : UInt8) : UInt8 :=
  match (first.reverse.idxOf? b).map (first.length - 1 - ·) with
  | some n => (second[n]?).getD (second.getLast?.getD b)
  | none => b

/-- Applies a function to what a stream delivers; what repeats is changed once. -/
def mapStream (f : Bytes → Bytes) (s : Stream) : Stream :=
  match s.tail with
  | .repeating first others =>
    match f (first :: others) with
    | a :: rest => ⟨f s.head, .repeating a rest⟩
    | [] => ⟨f s.head, .stalled⟩
  | other => ⟨f s.head, other⟩

/-- Replaces, deletes or squeezes octets. -/
def tr (i : Invocation) : Run :=
  withOptions i ⟨['d', 's', 'c', 'C', 't'], [],
      [("delete", 'd'), ("squeeze-repeats", 's'), ("complement", 'c'), ("truncate-set1", 't')], true⟩ 1
    fun given operands =>
      let deletes := gave given 'd'
      let squeezes := gave given 's'
      let most := if deletes && !squeezes then 1 else 2
      let least := if deletes = squeezes then 2 else 1
      match operands with
      | [] => i.complain (misuse i.name "missing operand") 1
      | a :: rest =>
        if operands.length < least then
          i.complain (i.name ++ ": missing operand after " ++ quoteOperand a ++ "\n" ++
            (if squeezes then "Two strings must be given when both deleting and squeezing repeats.\n"
              else "Two strings must be given when translating.\n") ++ hint i.name) 1
        else
          match operands.drop most with
          | extra :: _ =>
            i.complain (i.name ++ ": extra operand " ++ quoteOperand extra ++ "\n" ++
              (if operands.length = 2 then
                "Only one string may be given when deleting without squeezing repeats.\n" else "") ++
              hint i.name) 1
          | [] =>
            match readSet a, rest.mapM readSet with
            | .error fault, _ => i.complain (i.name ++ ": " ++ fault.text ++ "\n") 1
            | _, .error fault => i.complain (i.name ++ ": " ++ fault.text ++ "\n") 1
            | .ok members, .ok others =>
              let first := if gave given 'c' || gave given 'C' then complement members else members
              let second := others.head?
              let replaces := !deletes && second.isSome
              if replaces && (second.getD []).isEmpty && !first.isEmpty then
                i.complain (i.name ++ ": when not truncating set1, string2 must be non-empty\n") 1
              else
                let first := if gave given 't' && replaces then first.take (second.getD []).length else first
                let change (bytes : Bytes) : Bytes :=
                  let bytes := if deletes then bytes.filter (!first.contains ·)
                    else if replaces then bytes.map (replacement first (second.getD [])) else bytes
                  if squeezes then squeeze (second.getD first) bytes else bytes
                let output := mapStream change i.input
                let ending : Ending := match output.tail with
                  | .ended => .done (.exited 0)
                  | _ => .waiting none .usual
                ⟨i.files, output, [], ending⟩

end CommandShell.Program
