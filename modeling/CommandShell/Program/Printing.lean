import CommandShell.Number.Decimal
import CommandShell.Program.Option

/-!
# Programs that print their arguments

`echo` prints its arguments with spaces between them, `printf` as a format says, `seq` prints numbers and
`yes` prints its arguments for ever. An escape is a backslash and what it announces.
-/

namespace CommandShell.Program

/-- What an escape comes to: some octets, or that printing ends here. -/
inductive Escaped where
  | octets (bytes : Bytes)
  | stop
deriving DecidableEq, Repr

/-- The value of up to `most` digits in a base, and what follows them; `none` if there is no digit. -/
def digitsIn? (value? : Char → Option Nat) (base most : Nat) (cs : List Char) : Option (Nat × List Char) :=
  let digits := (cs.take most).takeWhile fun c => (value? c).isSome
  if digits.isEmpty then none
  else some (digits.foldl (fun n c => n * base + (value? c).getD 0) 0, cs.drop digits.length)

/-- The value of an octal digit. -/
def octalDigit? (c : Char) : Option Nat := if '0' ≤ c && c ≤ '7' then some (c.toNat - 0x30) else none

/-- The value of a hexadecimal digit. -/
def hexDigit? (c : Char) : Option Nat :=
  if c.isDigit then some (c.toNat - 0x30)
  else if 'a' ≤ c && c ≤ 'f' then some (c.toNat - 0x61 + 10)
  else if 'A' ≤ c && c ≤ 'F' then some (c.toNat - 0x41 + 10)
  else none

/-- Which escapes are known. -/
structure EscapeRules where
  /-- Octal digits need a zero in front. -/
  zeroFirst : Bool
  /-- Octal digits may stand without a zero in front. -/
  bareOctal : Bool
  hexadecimal : Bool
  escapeLetter : Bool
  stops : Bool
  quote : Bool
deriving DecidableEq, Repr

/-- The escapes in the arguments of `echo`. -/
def EscapeRules.echo : EscapeRules := ⟨true, true, true, true, true, false⟩

/-- The escapes in a format. -/
def EscapeRules.format : EscapeRules := ⟨false, true, true, true, true, true⟩

/-- The escapes in an argument that a format asks to be read. -/
def EscapeRules.argument : EscapeRules := ⟨true, true, true, true, true, true⟩

/-- The escapes that a shell's own `echo` knows. -/
def EscapeRules.plain : EscapeRules := ⟨true, false, false, false, true, false⟩

/-- The escapes in a format of a shell's own `printf`. -/
def EscapeRules.plainFormat : EscapeRules := ⟨false, true, false, true, false, true⟩

/-- The octet that a letter stands for. -/
def letterOctet? (rules : EscapeRules) : Char → Option UInt8
  | 'a' => some 7
  | 'b' => some 8
  | 'f' => some 12
  | 'n' => some 10
  | 'r' => some 13
  | 't' => some 9
  | 'v' => some 11
  | '\\' => some 0x5C
  | 'e' => if rules.escapeLetter then some 27 else none
  | '"' => if rules.quote then some 0x22 else none
  | _ => none

/-- What an escape comes to, after its backslash, and what follows it. -/
def readEscape (rules : EscapeRules) (cs : List Char) : Escaped × List Char :=
  let octet (n : Nat) : Escaped := .octets [UInt8.ofNat (n % 256)]
  match cs with
  | [] => (.octets [0x5C], [])
  | c :: rest =>
    if c = 'c' && rules.stops then (.stop, [])
    else if c = '0' && rules.zeroFirst then
      match digitsIn? octalDigit? 8 3 rest with
      | some (n, after) => (octet n, after)
      | none => (octet 0, rest)
    else if (octalDigit? c).isSome && rules.bareOctal then
      match digitsIn? octalDigit? 8 3 cs with
      | some (n, after) => (octet n, after)
      | none => (.octets [0x5C], cs)
    else if c = 'x' && rules.hexadecimal then
      match digitsIn? hexDigit? 16 2 rest with
      | some (n, after) => (octet n, after)
      | none => (.octets (Text.encode "\\x"), rest)
    else
      match letterOctet? rules c with
      | some b => (.octets [b], rest)
      | none => (.octets (0x5C :: Text.encodeChars [c]), rest)

/-- Replaces escapes; the flag tells whether printing ends. The fuel is the number of characters. -/
def unescaped (rules : EscapeRules) : Nat → List Char → Bytes × Bool
  | 0, _ => ([], false)
  | _ + 1, [] => ([], false)
  | fuel + 1, '\\' :: rest =>
    match readEscape rules rest with
    | (.stop, _) => ([], true)
    | (.octets bytes, after) => let (more, stops) := unescaped rules fuel after; (bytes ++ more, stops)
  | fuel + 1, c :: rest => let (more, stops) := unescaped rules fuel rest; (Text.encodeChars [c] ++ more, stops)

/-- Replaces escapes in a text. -/
def unescapedText (rules : EscapeRules) (s : String) : Bytes × Bool :=
  unescaped rules (s.length + 1) s.toList

/-- The options at the front of the arguments of `echo`. -/
def echoOptions (letters : List Char) : List String → List Char × List String
  | [] => ([], [])
  | word :: rest =>
    match word.toList with
    | '-' :: c :: cs =>
      if (c :: cs).all letters.contains then
        let (given, words) := echoOptions letters rest
        (c :: cs ++ given, words)
      else ([], word :: rest)
    | _ => ([], word :: rest)

/-- Prints words with spaces between them, and a line feed unless it is not wanted. -/
def echoText (escapes? : Option EscapeRules) (lineFeed : Bool) (words : List String) : Bytes :=
  let text := Text.spaced words
  match escapes? with
  | none => Text.encode text ++ (if lineFeed then [10] else [])
  | some rules =>
    let (bytes, stops) := unescapedText rules text
    bytes ++ (if lineFeed && !stops then [10] else [])

/-- Prints its arguments. -/
def echo (i : Invocation) : Run :=
  let (given, words) := echoOptions ['n', 'e', 'E'] i.args
  let last := (given.filter fun c => c = 'e' || c = 'E').getLast?
  i.finish (echoText (if last = some 'e' then some .echo else none) (!given.contains 'n') words) [] 0

/-- Prints its arguments as the echo of a shell does. -/
def plainEcho (args : List String) : Bytes :=
  match args with
  | "-n" :: words => echoText (some .plain) false words
  | words => echoText (some .plain) true words

/-- How a directive of a format pads what it prints. -/
structure Padding where
  left : Bool
  zeros : Bool
  plus : Bool
  space : Bool
  alternate : Bool
  width : Nat
  precision : Option Nat
deriving DecidableEq, Repr

/-- A piece of a format. -/
inductive FormatPiece where
  | text (bytes : Bytes)
  | stop
  | directive (padding : Padding) (letter : Char)
  | invalid (directive : String)
deriving DecidableEq, Repr

/-- A directive, after its percent sign. -/
def readDirective (cs : List Char) : FormatPiece × List Char :=
  let flags := cs.takeWhile fun c => ['-', '+', ' ', '#', '0'].contains c
  let (width, rest) := Number.takeNatural (cs.drop flags.length)
  let (precision, rest) := match rest with
    | '.' :: after => let (n, others) := Number.takeNatural after; (some n, others)
    | _ => (none, rest)
  match rest with
  | c :: after =>
    if ['s', 'd', 'i', 'u', 'o', 'x', 'X', 'c', 'b'].contains c then
      let has (flag : Char) : Bool := flags.contains flag
      (.directive ⟨has '-', has '0', has '+', has ' ', has '#', width, precision⟩ c, after)
    else (.invalid (String.ofList ('%' :: cs.take (cs.length - after.length))), after)
  | [] => (.invalid (String.ofList ('%' :: cs)), [])

/-- The pieces of a format; the fuel is the number of characters. -/
def formatPieces (rules : EscapeRules) : Nat → List Char → List FormatPiece
  | 0, _ => []
  | _ + 1, [] => []
  | fuel + 1, '%' :: '%' :: rest => .text [0x25] :: formatPieces rules fuel rest
  | fuel + 1, '%' :: rest => let (piece, after) := readDirective rest; piece :: formatPieces rules fuel after
  | fuel + 1, '\\' :: rest =>
    match readEscape rules rest with
    | (.stop, _) => [.stop]
    | (.octets bytes, after) => .text bytes :: formatPieces rules fuel after
  | fuel + 1, c :: rest => .text (Text.encodeChars [c]) :: formatPieces rules fuel rest

/-- Fills up to a width. -/
def padded (p : Padding) (bytes : Bytes) : Bytes :=
  let missing := p.width - bytes.length
  if p.left then bytes ++ List.replicate missing 32 else List.replicate missing 32 ++ bytes

/-- What is wrong with what is to be printed. -/
inductive PrintFault where
  | notNumeric (arg : String)
  | onlyInPart (arg : String)
  | invalidDirective (directive : String)
  | excess (arg : String)
deriving DecidableEq, Repr

/-- The wording of a fault. -/
def PrintFault.text : PrintFault → String
  | notNumeric arg => quoteOperand arg ++ ": expected a numeric value"
  | onlyInPart arg => quoteOperand arg ++ ": value not completely converted"
  | invalidDirective directive => directive ++ ": invalid conversion specification"
  | excess arg => "warning: ignoring excess arguments, starting with " ++ quoteOperand arg

/-- The wording of a fault in a shell; too many arguments are none there. -/
def PrintFault.plainText? : PrintFault → Option String
  | notNumeric arg => some (arg ++ ": expected numeric value")
  | onlyInPart arg => some (arg ++ ": not completely converted")
  | invalidDirective directive => some (directive ++ ": invalid directive")
  | excess _ => none

/-- The number that an argument writes, and what is wrong with it. -/
def readNumber (s : String) : Int × Option PrintFault :=
  match s.toList with
  | '\'' :: c :: _ | '"' :: c :: _ => (c.toNat, none)
  | cs =>
    let (negative, rest) := Number.splitSign (cs.dropWhile fun c => c = ' ' || c = '\t' || c = '\n')
    let (n, after, found) : Nat × List Char × Bool :=
      match rest with
      | '0' :: 'x' :: digits | '0' :: 'X' :: digits =>
        match digitsIn? hexDigit? 16 digits.length digits with
        | some (n, after) => (n, after, true)
        | none => (0, rest.drop 1, true)
      | '0' :: digits =>
        match digitsIn? octalDigit? 8 digits.length digits with
        | some (n, after) => (n, after, true)
        | none => (0, digits, true)
      | _ => let (n, after) := Number.takeNatural rest; (n, after, after.length < rest.length)
    let value : Int := if negative then -n else n
    if !found then (0, some (.notNumeric s))
    else if after.isEmpty then (value, none)
    else (value, some (.onlyInPart s))

/-- A number as a directive prints it. -/
def numberText (p : Padding) (letter : Char) (n : Int) : Bytes :=
  let magnitude : Nat := if letter = 'd' || letter = 'i' then n.natAbs else (n % Nat.pow 2 64).toNat
  let digits := match letter with
    | 'o' => Nat.toDigits 8 magnitude
    | 'x' => Nat.toDigits 16 magnitude
    | 'X' => (Nat.toDigits 16 magnitude).map Char.toUpper
    | _ => Nat.toDigits 10 magnitude
  let digits := match p.precision with
    | some least => List.replicate (least - digits.length) '0' ++ digits
    | none => digits
  let sign := if letter = 'd' || letter = 'i' then
      (if n < 0 then ['-'] else if p.plus then ['+'] else if p.space then [' '] else [])
    else if p.alternate && magnitude ≠ 0 then
      (match letter with
        | 'x' => ['0', 'x']
        | 'X' => ['0', 'X']
        | 'o' => ['0']
        | _ => [])
    else []
  let zeros := if p.zeros && !p.left && p.precision.isNone then p.width - sign.length - digits.length else 0
  padded p (Text.encodeChars (sign ++ List.replicate zeros '0' ++ digits))

/-- Where printing by a format stands. -/
structure Printed where
  output : Bytes
  faults : List PrintFault
  args : List String
  stopped : Bool
deriving DecidableEq, Repr

/-- Prints one piece of a format. -/
def printPiece (state : Printed) (piece : FormatPiece) : Printed :=
  if state.stopped then state
  else
    match piece with
    | .text bytes => { state with output := state.output ++ bytes }
    | .stop => { state with stopped := true }
    | .invalid directive =>
      { state with faults := state.faults ++ [.invalidDirective directive], stopped := true }
    | .directive p letter =>
      let arg := state.args.head?
      let state := { state with args := state.args.drop 1 }
      let limited (bytes : Bytes) : Bytes := match p.precision with
        | some n => bytes.take n
        | none => bytes
      match letter with
      | 's' => { state with output := state.output ++ padded p (limited (Text.encode (arg.getD ""))) }
      | 'c' => { state with output := state.output ++ padded p ((Text.encode (arg.getD "")).take 1) }
      | 'b' =>
        let (bytes, stops) := unescapedText .argument (arg.getD "")
        { state with output := state.output ++ padded p (limited bytes), stopped := stops }
      | _ =>
        let (n, fault) := match arg with
          | some s => readNumber s
          | none => (0, none)
        { state with output := state.output ++ numberText p letter n, faults := state.faults ++ fault.toList }

/-- Goes through a format again and again until the arguments are used up. The fuel is the number of
arguments. -/
def printAll (format : List FormatPiece) : Nat → Printed → Printed
  | 0, state => state
  | fuel + 1, state =>
    let next := format.foldl printPiece state
    if next.stopped || next.args.isEmpty || next.args.length = state.args.length then next
    else printAll format fuel next

/-- Prints by a format: what comes out, and what is wrong. -/
def printfWith (rules : EscapeRules) (format : String) (args : List String) : Bytes × List PrintFault :=
  let start : Printed := ⟨[], [], args, false⟩
  let state := printAll (formatPieces rules (format.length + 1) format.toList) (args.length + 1) start
  let unused := !state.stopped && state.args.length = args.length
  let excess := if unused then (state.args.head?.map .excess).toList else []
  (state.output, state.faults ++ excess)

/-- Prints by a format. -/
def printf (i : Invocation) : Run :=
  let args := match i.args with
    | "--" :: rest => rest
    | args => args
  match args with
  | [] => i.complain (misuse i.name "missing operand") 1
  | format :: rest =>
    let (output, faults) := printfWith .format format rest
    let failed := faults.any fun
      | .excess _ => false
      | _ => true
    i.finish output (Text.encode (String.join (faults.map fun f => i.name ++ ": " ++ f.text ++ "\n")))
      (if failed then 1 else 0)

/-- Prints its arguments, or `y`, again and again. -/
def yes (i : Invocation) : Run :=
  let words := match i.args with
    | "--" :: rest => rest
    | args => args
  match Text.encode ((if words.isEmpty then "y" else Text.spaced words) ++ "\n") with
  | first :: others => ⟨i.files, ⟨[], .repeating first others⟩, [], .waiting none .usual⟩
  | [] => i.finish [] [] 0

/-- The numbers from one on in steps, up to a last one. The fuel is the number of steps. -/
def countUp : Nat → Int → Int → Int → List Int
  | 0, _, _, _ => []
  | fuel + 1, first, step, last =>
    if (0 < step && last < first) || (step < 0 && first < last) then []
    else first :: countUp fuel (first + step) step last

/-- An integer of ASCII digits. -/
def readWhole? (s : String) : Option Int :=
  let (negative, rest) := Number.splitSign s.toList
  (Number.readNatural? rest).map fun n => if negative then -n else n

/-- The command line of `seq`. -/
structure SequenceOptions where
  separator : String
  equalWidth : Bool
  operands : List String
deriving DecidableEq, Repr

/-- Reads the command line of `seq`, on which a dash may also begin a number. The flag tells that a word for
the option of the separator comes next. -/
def readSequence (wantsSeparator : Bool) (found : SequenceOptions) :
    List String → Except OptionFault SequenceOptions
  | [] => if wantsSeparator then .error (.missingValue 's') else .ok found
  | word :: rest =>
    if wantsSeparator then readSequence false { found with separator := word } rest
    else if (readWhole? word).isSome || !word.startsWith "-" || word = "-" then
      readSequence false { found with operands := found.operands ++ [word] } rest
    else
      match word.toList with
      | ['-', 'w'] => readSequence false { found with equalWidth := true } rest
      | ['-', 's'] => readSequence true found rest
      | '-' :: 's' :: cs => readSequence false { found with separator := String.ofList cs } rest
      | '-' :: '-' :: _ => .error (.unknownWord word)
      | _ :: c :: _ => .error (.unknown c)
      | _ => .ok found

/-- Prints numbers. -/
def seq (i : Invocation) : Run :=
  match readSequence false ⟨"\n", false, []⟩ i.args with
  | .error fault => i.complain (misuse i.name fault.text) 1
  | .ok options =>
    match options.operands with
    | [] => i.complain (misuse i.name "missing operand") 1
    | _ :: _ :: _ :: extra :: _ => i.complain (misuse i.name ("extra operand " ++ quoteOperand extra)) 1
    | _ =>
      match options.operands.find? fun s => (readWhole? s).isNone with
      | some bad => i.complain (misuse i.name ("invalid floating point argument: " ++ quoteOperand bad)) 1
      | none =>
        let (first, step, last) : Int × Int × Int := match options.operands.filterMap readWhole? with
          | [last] => (1, 1, last)
          | [first, last] => (first, 1, last)
          | [first, step, last] => (first, step, last)
          | _ => (1, 1, 0)
        if step = 0 then
          i.complain
            (misuse i.name ("invalid Zero increment value: " ++ quoteOperand ((options.operands[1]?).getD ""))) 1
        else
          let shown := countUp ((last - first).natAbs / step.natAbs + 1) first step last
          let width := if options.equalWidth then (shown.map fun n => (toString n).length).foldl max 0 else 0
          let text (n : Int) : String :=
            let digits := toString n.natAbs
            let sign := if n < 0 then "-" else ""
            sign ++ String.ofList (List.replicate (width - sign.length - digits.length) '0') ++ digits
          let out := String.intercalate options.separator (shown.map text)
          i.finish (Text.encode (if shown.isEmpty then "" else out ++ "\n")) [] 0

end CommandShell.Program
