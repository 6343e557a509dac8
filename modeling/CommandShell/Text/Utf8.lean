/-!
# UTF-8

Reading octets one at a time. The machine stands between characters or within one; an octet that cannot go on
with the character begun gives that character up and is read again from between characters, so each longest
run of octets that begins some character but does not complete it is given up as one. Since the machine moves
octet by octet, cutting the octets into pieces changes nothing (`Decoder.run_append`).
-/

namespace CommandShell

/-- A sequence of octets. -/
abbrev Bytes := List UInt8

namespace Text

/-- The octets of a text. -/
def encodeChars (cs : List Char) : Bytes := cs.flatMap String.utf8EncodeChar

/-- The octets of a text. -/
def encode (s : String) : Bytes := encodeChars s.toList

/-- The character that stands for octets which are no character. -/
def replacement : Char := Char.ofNat 0xFFFD

/-- Where reading stands. -/
inductive Decoder where
  /-- Between characters. -/
  | idle
  /-- Within a character: the bits read, the octets still owed, and the least and greatest octet that may
  follow. -/
  | within (bits owed low high : Nat)
deriving DecidableEq, Repr

namespace Decoder

/-- One octet from between characters: a whole character, one begun, or (`none`) an octet that begins none. -/
def start (b : UInt8) : List (Option Char) × Decoder :=
  let n := b.toNat
  if n < 0x80 then ([some (Char.ofNat n)], idle)
  else if 0xC2 ≤ n ∧ n ≤ 0xDF then ([], within (n - 0xC0) 1 0x80 0xBF)
  else if n = 0xE0 then ([], within 0 2 0xA0 0xBF)
  else if n = 0xED then ([], within 0xD 2 0x80 0x9F)
  else if 0xE1 ≤ n ∧ n ≤ 0xEF then ([], within (n - 0xE0) 2 0x80 0xBF)
  else if n = 0xF0 then ([], within 0 3 0x90 0xBF)
  else if 0xF1 ≤ n ∧ n ≤ 0xF3 then ([], within (n - 0xF0) 3 0x80 0xBF)
  else if n = 0xF4 then ([], within 4 3 0x80 0x8F)
  else ([none], idle)

/-- One octet; `none` among the results is a character given up. -/
def step : Decoder → UInt8 → List (Option Char) × Decoder
  | idle, b => start b
  | within bits owed low high, b =>
    let n := b.toNat
    if low ≤ n ∧ n ≤ high then
      let bits := bits * 64 + (n - 0x80)
      if owed ≤ 1 then ([some (Char.ofNat bits)], idle) else ([], within bits (owed - 1) 0x80 0xBF)
    else
      let (found, next) := start b
      (none :: found, next)

/-- Some octets in turn. -/
def run : Decoder → Bytes → List (Option Char) × Decoder
  | d, [] => ([], d)
  | d, b :: rest =>
    let (found, next) := d.step b
    let (more, last) := next.run rest
    (found ++ more, last)

/-- What the end of the octets gives up. -/
def finish : Decoder → List (Option Char)
  | idle => []
  | within .. => [none]

theorem run_append (d : Decoder) (xs ys : Bytes) :
    d.run (xs ++ ys) = ((d.run xs).1 ++ ((d.run xs).2.run ys).1, ((d.run xs).2.run ys).2) := by
  induction xs generalizing d with
  | nil => simp [run]
  | cons b rest ih => simp [run, ih, List.append_assoc]

end Decoder

/-- The characters of some octets, with `none` for each run of octets given up. -/
def scan (bytes : Bytes) : List (Option Char) :=
  let (found, last) := Decoder.idle.run bytes
  found ++ last.finish

/-- The text of some octets, with the replacement character for what is no character. -/
def decode (bytes : Bytes) : String :=
  String.ofList ((scan bytes).map (·.getD replacement))

/-- The text of some octets if every one of them belongs to a character. -/
def decode? (bytes : Bytes) : Option String :=
  ((scan bytes).mapM id).map String.ofList

/-- The texts that reading piece after piece delivers, the empty ones left out. -/
def decodePieces (pieces : List Bytes) : List String :=
  let deliver (found : List (Option Char)) : List String :=
    if found.isEmpty then [] else [String.ofList (found.map (·.getD replacement))]
  let rec go (d : Decoder) : List Bytes → List String
    | [] => deliver d.finish
    | piece :: rest =>
      let (found, next) := d.run piece
      deliver found ++ go next rest
  go .idle pieces

/-- Cuts a sequence into pieces of a given size, one octet at least; the last may be shorter. -/
def piecesOf (size : Nat) : Bytes → List Bytes
  | [] => []
  | b :: rest => (b :: rest.take (size - 1)) :: piecesOf size (rest.drop (size - 1))
termination_by bytes => bytes.length

end Text

end CommandShell
