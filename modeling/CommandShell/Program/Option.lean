import CommandShell.Program.Message

/-!
# Options of programs

A word that begins with a dash holds one-letter options, and one that begins with two dashes names an option
by a word or by the beginning of one. An option may take a value, from the rest of its word or from the next
word. Two dashes alone end the options. Other words are operands wherever they stand, unless the program ends
its options at the first.
-/

namespace CommandShell.Program

/-- An option that was given, and its value. -/
structure Given where
  letter : Char
  value : String
deriving DecidableEq, Repr

/-- Why options cannot be read. -/
inductive OptionFault where
  | unknown (letter : Char)
  | unknownWord (word : String)
  | missingValue (letter : Char)
  | missingWordValue (name : String)
  | needlessValue (name : String)
  | ambiguous (word : String) (names : List String)
deriving DecidableEq, Repr

/-- The wording of a fault. -/
def OptionFault.text : OptionFault → String
  | unknown letter => "invalid option -- '" ++ String.singleton letter ++ "'"
  | unknownWord word => "unrecognized option '" ++ word ++ "'"
  | missingValue letter => "option requires an argument -- '" ++ String.singleton letter ++ "'"
  | missingWordValue name => "option '--" ++ name ++ "' requires an argument"
  | needlessValue name => "option '--" ++ name ++ "' doesn't allow an argument"
  | ambiguous word names =>
    "option '" ++ word ++ "' is ambiguous; possibilities:" ++
      String.join (names.map fun name => " '--" ++ name ++ "'")

/-- The options that a program knows: letters alone, letters with a value, and long names of either. -/
structure OptionSet where
  flags : List Char
  valued : List Char
  long : List (String × Char)
  endsAtOperand : Bool
deriving DecidableEq, Repr

/-- An option that takes the next word as its value: its letter, and its long name if it was written so. -/
structure Pending where
  letter : Char
  name : Option String
deriving DecidableEq, Repr

/-- The fault of a pending option after which no word comes. -/
def Pending.fault (p : Pending) : OptionFault :=
  match p.name with
  | some name => .missingWordValue name
  | none => .missingValue p.letter

/-- The options in one word, after the dash, and the last one of them if it takes the next word as its
value. -/
def lettersOf (known : OptionSet) : List Char → Except OptionFault (List Given × Option Pending)
  | [] => .ok ([], none)
  | c :: rest =>
    if known.flags.contains c then
      (lettersOf known rest).map fun (given, pending) => (⟨c, ""⟩ :: given, pending)
    else if known.valued.contains c then
      if rest.isEmpty then .ok ([], some ⟨c, none⟩) else .ok ([⟨c, String.ofList rest⟩], none)
    else .error (.unknown c)

/-- The option that a long name, or the beginning of one, stands for. -/
def longNamed (known : OptionSet) (word name : String) : Except OptionFault (String × Char) :=
  match known.long.lookup name with
  | some letter => .ok (name, letter)
  | none =>
    match known.long.filter fun (long, _) => long.startsWith name with
    | [] => .error (.unknownWord word)
    | first :: more =>
      if more.all (·.2 = first.2) then .ok first
      else .error (.ambiguous ("--" ++ name) ((first :: more).map (·.1)))

/-- The option in a word that begins with two dashes; its value may follow an equals sign. -/
def longOf (known : OptionSet) (word : String) : Except OptionFault (List Given × Option Pending) := do
  let body := word.toList.drop 2
  let name := String.ofList (body.takeWhile (· ≠ '='))
  let value := body.dropWhile (· ≠ '=')
  let (name, letter) ← longNamed known word name
  if known.valued.contains letter then
    if value.isEmpty then return ([], some ⟨letter, some name⟩)
    else return ([⟨letter, String.ofList (value.drop 1)⟩], none)
  else if value.isEmpty then return ([⟨letter, ""⟩], none)
  else throw (.needlessValue name)

/-- Cuts words into options and operands; a pending option takes the next word as its value. -/
def readFrom (known : OptionSet) (pending : Option Pending) :
    List String → Except OptionFault (List Given × List String)
  | [] =>
    match pending with
    | some p => .error p.fault
    | none => .ok ([], [])
  | word :: rest =>
    match pending with
    | some p => do
      let (more, operands) ← readFrom known none rest
      return (⟨p.letter, word⟩ :: more, operands)
    | none =>
      if word = "--" then .ok ([], rest)
      else
        match word.toList with
        | '-' :: '-' :: _ => do
          let (given, pending) ← longOf known word
          let (more, operands) ← readFrom known pending rest
          return (given ++ more, operands)
        | '-' :: c :: cs => do
          let (given, pending) ← lettersOf known (c :: cs)
          let (more, operands) ← readFrom known pending rest
          return (given ++ more, operands)
        | _ =>
          if known.endsAtOperand then .ok ([], word :: rest)
          else do
            let (more, operands) ← readFrom known none rest
            return (more, word :: operands)

/-- Cuts words into options and operands. -/
def readOptions (known : OptionSet) (words : List String) : Except OptionFault (List Given × List String) :=
  readFrom known none words

/-- Whether an option was given. -/
def gave (given : List Given) (letter : Char) : Bool := given.any (·.letter = letter)

/-- The last value given for an option. -/
def valueOf? (given : List Given) (letter : Char) : Option String :=
  ((given.filter (·.letter = letter)).getLast?).map (·.value)

/-- Runs a program with its options, or complains about them. -/
def withOptions (i : Invocation) (known : OptionSet) (code : Nat) (body : List Given → List String → Run) : Run :=
  match readOptions known i.args with
  | .ok (given, operands) => body given operands
  | .error fault => i.complain (misuse i.name fault.text) code

end CommandShell.Program
