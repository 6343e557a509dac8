import CommandShell.Number.Natural
import CommandShell.Program.Source

/-!
# Programs that show a part

`head` shows the beginning of its sources and `tail` their end, in lines or in octets; `cut` shows parts of
each line and `wc` shows counts alone. `head` is the one program that need not read its input to the end.
-/

namespace CommandShell.Program

/-- An amount: how many, and whether it is counted from the other end. -/
structure Amount where
  count : Nat
  fromOther : Bool
deriving DecidableEq, Repr

/-- An amount with the sign that turns it around. -/
def readAmount? (sign : Char) (s : String) : Option Amount :=
  match s.toList with
  | c :: rest =>
    if c = sign then (Number.readNatural? rest).map (⟨·, true⟩)
    else if c = '-' ∨ c = '+' then (Number.readNatural? rest).map (⟨·, false⟩)
    else (Number.readNatural? (c :: rest)).map (⟨·, false⟩)
  | [] => none

/-- A dash and digits as the first word mean a number of lines. -/
def oldStyle (args : List String) : List String :=
  match args with
  | word :: rest =>
    match word.toList with
    | '-' :: digits => if (Number.readNatural? digits).isSome then "-n" :: String.ofList digits :: rest else args
    | _ => args
  | [] => []

/-- The title of a part among several. -/
def title (first : Bool) (name : String) : Bytes :=
  Text.encode ((if first then "" else "\n") ++ "==> " ++ name ++ " <==\n")

/-- The first part of some octets. -/
def headOf (byLine : Bool) (amount : Amount) (bytes : Bytes) : Bytes :=
  if byLine then
    let lines := pieces bytes
    (lines.take (if amount.fromOther then lines.length - amount.count else amount.count)).flatten
  else bytes.take (if amount.fromOther then bytes.length - amount.count else amount.count)

/-- The last part of some octets. -/
def tailOf (byLine : Bool) (amount : Amount) (bytes : Bytes) : Bytes :=
  if byLine then
    let lines := pieces bytes
    (lines.drop (if amount.fromOther then amount.count - 1 else lines.length - amount.count)).flatten
  else bytes.drop (if amount.fromOther then amount.count - 1 else bytes.length - amount.count)

/-- As many octets of a stream as hold a number of lines; a repeating tail is unrolled once per line
wanted. -/
def enough (byLine : Bool) (count : Nat) (s : Stream) : Bytes :=
  match s.tail with
  | .repeating _ others =>
    if byLine then s.take (s.head.length + (others.length + 1) * (count + 1)) else s.take count
  | _ => s.head

/-- The part of the input that `head` shows; `none` if it has to wait for more. -/
def headOfInput? (byLine : Bool) (amount : Amount) (s : Stream) : Option Bytes :=
  let shown := headOf byLine amount (enough byLine amount.count s)
  match s.tail with
  | .ended => some shown
  | .repeating .. => if amount.fromOther then none else some shown
  | .stalled =>
    if amount.fromOther then none
    else if byLine then
      if (shown.filter (· = 10)).length = amount.count then some shown else none
    else if shown.length = amount.count then some shown else none

/-- Shows parts of sources; `part` gives the part of some octets and `inputPart` that of the input. -/
def excerpt (i : Invocation) (titles : Bool) (operands : List String) (part : Bytes → Bytes)
    (inputPart : Option Bytes) : Run :=
  let step : (Bytes × String × Bool × Bool) → Source → (Bytes × String × Bool × Bool) :=
    fun (out, errors, shown, stuck) source =>
      if stuck then (out, errors, shown, stuck)
      else
        let titled (name : String) : Bytes := if titles then title (!shown) name else []
        match source with
        | .failed name fault =>
          (out ++ (if titles && fault = .isDirectory then titled name else []),
            errors ++ cannotOpen i.name name fault, shown || (titles && fault = .isDirectory), false)
        | .file name bytes => (out ++ titled name ++ part bytes, errors, true, false)
        | .input =>
          match inputPart with
          | some bytes => (out ++ titled "standard input" ++ bytes, errors, true, false)
          | none => (out, errors, shown, true)
  let (out, errors, _, stuck) := (sourcesOf i operands).foldl step ([], "", false, false)
  if stuck then i.await out (Text.encode errors)
  else i.finish out (Text.encode errors) (if errors.isEmpty then 0 else 1)

/-- The options of `head` and `tail`. -/
def excerptOptions : OptionSet :=
  ⟨['q', 'v'], ['n', 'c'],
    [("lines", 'n'), ("bytes", 'c'), ("quiet", 'q'), ("silent", 'q'), ("verbose", 'v')], false⟩

/-- What `head` and `tail` have in common. -/
def excerptWith (i : Invocation) (sign : Char) (part : Bool → Amount → Bytes → Bytes)
    (inputPart : Bool → Amount → Option Bytes) : Run :=
  withOptions { i with args := oldStyle i.args } excerptOptions 1 fun given operands =>
    let chosen := (given.filter fun g => g.letter = 'n' || g.letter = 'c').getLast?
    let byLine := (chosen.map (·.letter)).getD 'n' = 'n'
    let text := (chosen.map (·.value)).getD "10"
    match readAmount? sign text with
    | none =>
      i.complain (i.name ++ ": invalid number of " ++ (if byLine then "lines" else "bytes") ++ ": " ++
        quoteOperand text ++ "\n") 1
    | some amount =>
      let titles := gave given 'v' || (operands.length > 1 && !gave given 'q')
      excerpt i titles operands (part byLine amount) (inputPart byLine amount)

/-- Shows the beginning. -/
def head (i : Invocation) : Run :=
  excerptWith i '-' headOf fun byLine amount => headOfInput? byLine amount i.input

/-- Shows the end. -/
def tail (i : Invocation) : Run :=
  excerptWith i '+' tailOf fun byLine amount => (wholeInput? i).map (tailOf byLine amount)

/-- Blanks of ASCII. -/
def isSpace (b : UInt8) : Bool := b = 32 || (9 ≤ b && b ≤ 13)

/-- The number of words. -/
def wordCount (inWord : Bool) : Bytes → Nat
  | [] => if inWord then 1 else 0
  | b :: rest => if isSpace b then (if inWord then 1 else 0) + wordCount false rest else wordCount true rest

/-- The number of lines, words and octets, and the length of the longest line. -/
structure Counts where
  lines : Nat
  words : Nat
  octets : Nat
  longest : Nat
deriving DecidableEq, Repr

/-- Counts some octets. -/
def countsOf (bytes : Bytes) : Counts :=
  ⟨(bytes.filter (· = 10)).length, wordCount false bytes, bytes.length,
    ((linesOf bytes).map (·.length)).foldl max 0⟩

/-- The counts that are asked for, in their fixed order. -/
def chosenCounts (given : List Given) (c : Counts) : List Nat :=
  let wanted := if given.isEmpty then ['l', 'w', 'c'] else given.map (·.letter)
  (if wanted.contains 'l' then [c.lines] else []) ++ (if wanted.contains 'w' then [c.words] else []) ++
    (if wanted.contains 'm' then [c.octets] else []) ++ (if wanted.contains 'c' then [c.octets] else []) ++
    (if wanted.contains 'L' then [c.longest] else [])

/-- A number in at least so many columns. -/
def rightAligned (width n : Nat) : String :=
  let digits := toString n
  String.ofList (List.replicate (width - digits.length) ' ') ++ digits

/-- Counts lines, words and octets. -/
def wc (i : Invocation) : Run :=
  withOptions i ⟨['c', 'l', 'w', 'm', 'L'], [],
      [("bytes", 'c'), ("lines", 'l'), ("words", 'w'), ("chars", 'm'), ("max-line-length", 'L')], false⟩ 1
    fun given operands =>
      let sources := sourcesOf i operands
      if sources.contains .input && (wholeInput? i).isNone then i.await [] []
      else
        let single := sources.length = 1 && (chosenCounts given (countsOf [])).length = 1
        let opened := sources.filter fun
          | .failed _ fault => fault = .isDirectory
          | _ => true
        let total := (sources.map fun
          | .file _ bytes => bytes.length
          | _ => 0).foldl (· + ·) 0
        let minimum := if opened.any (fun
          | .file .. => false
          | _ => true) then 7 else 1
        let width := if single then 1 else max minimum (toString total).length
        let row (name : String) (c : Counts) : String :=
          Text.spaced ((chosenCounts given c).map (rightAligned width)) ++
            (if name.isEmpty then "" else " " ++ quoteWhole name) ++ "\n"
        let step : (String × String × Counts × Bool) → Source → (String × String × Counts × Bool) :=
          fun (out, errors, sum, used) source =>
            let add (c : Counts) : Counts :=
              ⟨sum.lines + c.lines, sum.words + c.words, sum.octets + c.octets, max sum.longest c.longest⟩
            match source with
            | .failed name fault =>
              let shown := if fault = .isDirectory then row name (countsOf []) else ""
              (out ++ shown, errors ++ about i.name name fault, sum, used)
            | .file name bytes => (out ++ row name (countsOf bytes), errors, add (countsOf bytes), used)
            | .input =>
              let c := countsOf (if used then [] else i.input.head)
              (out ++ row (if operands.isEmpty then "" else "-") c, errors, add c, true)
        let (out, errors, sum, _) := sources.foldl step ("", "", countsOf [], false)
        let out := if sources.length > 1 then out ++ row "total" sum else out
        i.finish (Text.encode out) (Text.encode errors) (if errors.isEmpty then 0 else 1)
where
  /-- A name with a line feed is quoted. -/
  quoteWhole (name : String) : String := if name.toList.contains '\n' then quoteName name else name

/-- A range of positions, counted from one. -/
structure Span where
  first : Nat
  last : Option Nat
deriving DecidableEq, Repr

/-- Why a list of positions cannot be read. -/
inductive SpanFault where
  | zero
  | noEnd
  | twoDashes
  | decreasing
  | notNumber (rest : String)
deriving DecidableEq, Repr

/-- The wording of a fault in a list of fields, or of other positions. -/
def SpanFault.text (fields : Bool) : SpanFault → String
  | zero => (if fields then "fields" else "byte/character positions") ++ " are numbered from 1"
  | noEnd => "invalid range with no endpoint: -"
  | twoDashes => if fields then "invalid field range" else "invalid byte or character range"
  | decreasing => "invalid decreasing range"
  | notNumber rest =>
    (if fields then "invalid field value " else "invalid byte/character position ") ++ quoteOperand rest

/-- What has been read of a range: what stands before its dash if there was one, and the number since. -/
structure SpanDraft where
  first : Option (Option Nat)
  number : Option Nat

/-- The range that a draft is at its end. -/
def SpanDraft.finish : SpanDraft → Except SpanFault Span
  | ⟨none, number⟩ => if number.getD 0 = 0 then .error .zero else .ok ⟨number.getD 0, number⟩
  | ⟨some none, none⟩ => .error .noEnd
  | ⟨some first, none⟩ => .ok ⟨first.getD 1, none⟩
  | ⟨some first, some last⟩ =>
    if last < first.getD 1 then .error .decreasing else .ok ⟨first.getD 1, some last⟩

/-- Ranges between commas or blanks: a position, or two with a dash, either of which may be left out. -/
def readSpansFrom (draft : SpanDraft) : List Char → Except SpanFault (List Span)
  | [] => return [← draft.finish]
  | c :: rest =>
    if c = ',' || c = ' ' || c = '\t' then return (← draft.finish) :: (← readSpansFrom ⟨none, none⟩ rest)
    else if c = '-' then
      if draft.first.isSome then .error .twoDashes
      else if draft.number = some 0 then .error .zero
      else readSpansFrom ⟨some draft.number, none⟩ rest
    else
      match Number.asciiDigit? c with
      | some d => readSpansFrom { draft with number := some (10 * draft.number.getD 0 + d) } rest
      | none => .error (.notNumber (String.ofList (c :: rest)))

/-- Ranges between commas or blanks. -/
def readSpans (s : String) : Except SpanFault (List Span) := readSpansFrom ⟨none, none⟩ s.toList

/-- Whether some range covers a position. -/
def covers (spans : List Span) (n : Nat) : Bool :=
  spans.any fun s => s.first ≤ n && s.last.all (n ≤ ·)

/-- Cuts octets at a separator. -/
def fieldsOf (separator : UInt8) : Bytes → List Bytes
  | [] => [[]]
  | b :: rest =>
    match fieldsOf separator rest with
    | field :: more => if b = separator then [] :: field :: more else (b :: field) :: more
    | [] => [[b]]

/-- Shows chosen octets, or chosen fields, of each line. -/
def cut (i : Invocation) : Run :=
  withOptions i ⟨['s', 'n'], ['b', 'c', 'f', 'd'],
      [("bytes", 'b'), ("characters", 'c'), ("fields", 'f'), ("delimiter", 'd'), ("only-delimited", 's')], false⟩ 1
    fun given operands =>
      let list? := (given.filter fun g => g.letter = 'b' || g.letter = 'c' || g.letter = 'f').getLast?
      match list? with
      | none => i.complain (misuse i.name "you must specify a list of bytes, characters, or fields") 1
      | some list =>
        match readSpans list.value with
        | .error fault => i.complain (misuse i.name (fault.text (list.letter = 'f'))) 1
        | .ok spans =>
          let separator := ((valueOf? given 'd').bind fun s => (Text.encode s).head?).getD 9
          let chosen {α : Type} (xs : List α) : List α :=
            (xs.zipIdx 1).filterMap fun (x, n) => if covers spans n then some x else none
          let line (bytes : Bytes) : Bytes :=
            if list.letter = 'f' then
              let fields := fieldsOf separator bytes
              if fields.length = 1 then (if gave given 's' then [] else bytes ++ [10])
              else (chosen fields).intersperse [separator] |>.flatten |> (· ++ [10])
            else chosen bytes ++ [10]
          filter i operands (fun name fault => about i.name name fault) fun text => (linesOf text).flatMap line

end CommandShell.Program
