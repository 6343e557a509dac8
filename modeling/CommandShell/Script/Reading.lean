import CommandShell.Script.Names
import CommandShell.Script.Token

/-!
# Reading scripts

Commands from tokens. Reserved words count only where a command can begin. A script is read line by line: what
stands on one line, or begins there, is read before any of it is run, and a fault in a later line comes to
light only when that line is reached.
-/

namespace CommandShell.Script

/-- What is wrong with a script. -/
inductive SyntaxCause where
  | token (fault : TokenFault)
  | unexpected (what : String) (expected : Option String)
  | loopVariable
  | functionName
deriving DecidableEq, Repr

/-- What is wrong with a script, and the line reached when that comes to light. -/
structure SyntaxFault where
  cause : SyntaxCause
  line : Nat
deriving DecidableEq, Repr

/-- The wording of a fault. -/
def SyntaxCause.text : SyntaxCause → String
  | .token .openQuote => "Syntax error: Unterminated quoted string"
  | .token .openBackquote => "Syntax error: EOF in backquote substitution"
  | .token .openBrace => "Syntax error: Missing '\x7d'"
  | .token .openParenthesis => "Syntax error: end of file unexpected (expecting \")\")"
  | .token .openArithmetic => "Syntax error: Missing '))'"
  | .unexpected what none => "Syntax error: " ++ what ++ " unexpected"
  | .unexpected what (some expected) => "Syntax error: " ++ what ++ " unexpected (expecting " ++ expected ++ ")"
  | .loopVariable => "Syntax error: Bad for loop variable"
  | .functionName => "Syntax error: Bad function name"

/-- The wording of a fault. -/
def SyntaxFault.text (f : SyntaxFault) : String := f.cause.text

/-- The text of a word that is a single literal without quotes. -/
def bareText? : Lexeme → Option String
  | .word [.literal text false] _ => some text
  | _ => none

/-- The words and operators at which a list of commands ends. -/
def closers : List String := ["do", "done", "elif", "else", "esac", "fi", "then", "\x7d"]

/-- A text in double quotes, as messages name it. -/
def inQuotes (text : String) : String := "\"" ++ text ++ "\""

/-- A token as messages name it; whether it stands where reserved words count makes a difference. -/
def Lexeme.shown (reserved : Bool) : Lexeme → String
  | .word [.literal text false] _ => if reserved && reservedWords.contains text then inQuotes text else "word"
  | .word .. => "word"
  | .operator text _ => inQuotes text
  | .redirect .. => "redirection"
  | .lineEnd _ => "newline"
  | .finish _ | .fault .. => "end of file"

/-- What has been read, or a fault. -/
abbrev Reads := Except SyntaxFault

/-- The fault that the next token is not what is expected. -/
def unexpected {α : Type} (reserved : Bool) (expected : Option String) (ts : List Lexeme) : Reads α :=
  match ts with
  | .fault fault line :: _ => .error ⟨.token fault, line⟩
  | t :: _ => .error ⟨.unexpected (t.shown reserved) expected, t.line⟩
  | [] => .error ⟨.unexpected "end of file" expected, 1⟩

/-- Drops line ends. -/
def skipLines : List Lexeme → List Lexeme
  | .lineEnd _ :: rest => skipLines rest
  | ts => ts

/-- Whether the next token ends a list of commands. -/
def atCloser (ts : List Lexeme) : Bool :=
  match ts with
  | [] | .finish _ :: _ | .operator ")" _ :: _ | .operator ";;" _ :: _ => true
  | t :: _ => (bareText? t).any closers.contains

/-- Whether the next token is a reserved word. -/
def isAt (word : String) (ts : List Lexeme) : Bool := ts.head?.any fun t => bareText? t = some word

/-- Takes a reserved word. -/
def expect (word : String) (ts : List Lexeme) : Reads (List Lexeme) :=
  if isAt word ts then .ok (ts.drop 1) else unexpected true (some (inQuotes word)) ts

/-- Takes an operator. -/
def expectOperator (text : String) (ts : List Lexeme) : Reads (List Lexeme) :=
  match ts with
  | .operator found _ :: rest => if found = text then .ok rest else unexpected true (some (inQuotes text)) ts
  | _ => unexpected true (some (inQuotes text)) ts

/-- The parts of a value; a tilde at its front is one. -/
def valueParts (value : List Char) : Word :=
  match value with
  | [] => []
  | '~' :: rest =>
    let name := rest.takeWhile isTildeChar
    match rest.drop name.length with
    | [] => [.tilde (String.ofList name)]
    | after => [.tilde (String.ofList name), .literal (String.ofList after) false]
  | _ => [.literal (String.ofList value) false]

/-- The name and the value of a word that is an assignment. -/
def assignment? (w : Word) : Option (String × Word) :=
  match w with
  | .literal text false :: rest =>
    let name := text.toList.takeWhile isNameChar
    match text.toList.drop name.length with
    | '=' :: value =>
      if isName (String.ofList name) then some (String.ofList name, valueParts value ++ rest) else none
    | _ => none
  | _ => none

/-- Redirections that stand in a row. -/
def readRedirects : List Lexeme → Reads (List Redirect × List Lexeme)
  | .redirect descriptor operator _ :: .word target _ :: rest => do
    let (more, after) ← readRedirects rest
    return (⟨descriptor, operator, target⟩ :: more, after)
  | .redirect _ _ _ :: rest => unexpected false none rest
  | ts => .ok ([], ts)

/-- The parts of a simple command. -/
structure Simple where
  assignments : List (String × Word)
  words : List Word
  redirects : List Redirect
deriving DecidableEq, Repr

/-- The words and redirections of a simple command, after those read before. -/
def readSimple (found : Simple) : List Lexeme → Reads (Simple × List Lexeme)
  | .redirect descriptor operator _ :: .word target _ :: rest =>
    readSimple { found with redirects := found.redirects ++ [⟨descriptor, operator, target⟩] } rest
  | .redirect _ _ _ :: rest => unexpected false none rest
  | .word w _ :: rest =>
    match found.words, assignment? w with
    | [], some a => readSimple { found with assignments := found.assignments ++ [a] } rest
    | _, _ => readSimple { found with words := found.words ++ [w] } rest
  | ts => .ok (found, ts)

/-- Words in a row. -/
def readWords : List Lexeme → List Word × List Lexeme
  | .word w _ :: rest => let (ws, after) := readWords rest; (w :: ws, after)
  | ts => ([], ts)

/-- The words of a loop over words; without any it goes over the arguments. -/
def readLoopWords (ts : List Lexeme) : Reads (Option (List Word) × List Lexeme) :=
  let next := skipLines ts
  if isAt "in" next then
    let (words, after) := readWords (next.drop 1)
    match after with
    | .operator ";" _ :: rest | .lineEnd _ :: rest => .ok (some words, rest)
    | _ => unexpected false none after
  else
    match next with
    | .operator ";" _ :: rest => .ok (none, rest)
    | _ => .ok (none, next)

/-- The patterns of a branch, up to the parenthesis after them. -/
def readPatterns : List Lexeme → Reads (List Word × List Lexeme)
  | .word w _ :: .operator "|" _ :: rest => do
    let (more, after) ← readPatterns rest
    return (w :: more, after)
  | .word w _ :: .operator ")" _ :: rest => .ok ([w], rest)
  | .word _ _ :: rest => unexpected false (some (inQuotes ")")) rest
  | ts => unexpected false (some (inQuotes ")")) (if ts.length > 1 then ts.drop 1 else ts)

/-- A body with redirections around it, if there are any. -/
def Command.redirected (body : Command) (line : Nat) (redirects : List Redirect) : Command :=
  if redirects.isEmpty then body else .group line body redirects

mutual

/-- A list of commands within another command, up to what closes it. -/
def readList : Nat → List Lexeme → Reads (Command × List Lexeme)
  | 0, ts => .ok (.nothing, ts)
  | fuel + 1, ts => do
    let (first, after) ← readAndOr fuel (skipLines ts)
    readRest fuel first after

/-- The rest of a list of commands. -/
def readRest : Nat → Command → List Lexeme → Reads (Command × List Lexeme)
  | 0, first, ts => .ok (first, ts)
  | fuel + 1, first, ts =>
    let goOn (first : Command) (rest : List Lexeme) : Reads (Command × List Lexeme) := do
      let rest := skipLines rest
      if atCloser rest then return (first, rest)
      let (second, after) ← readAndOr fuel rest
      readRest fuel (.inTurn first second) after
    match ts with
    | .operator ";" _ :: rest | .lineEnd _ :: rest => goOn first rest
    | .operator "&" _ :: rest => goOn (.background first) rest
    | _ => .ok (first, ts)

/-- Pipelines joined by what depends on how they end. -/
def readAndOr : Nat → List Lexeme → Reads (Command × List Lexeme)
  | 0, ts => .ok (.nothing, ts)
  | fuel + 1, ts => do
    let (first, after) ← readPipeline fuel ts
    readMore fuel first after

/-- What is joined to a command read before. -/
def readMore : Nat → Command → List Lexeme → Reads (Command × List Lexeme)
  | 0, first, ts => .ok (first, ts)
  | fuel + 1, first, ts =>
    match ts with
    | .operator "&&" _ :: rest => do
      let (second, after) ← readPipeline fuel (skipLines rest)
      readMore fuel (.both first second) after
    | .operator "||" _ :: rest => do
      let (second, after) ← readPipeline fuel (skipLines rest)
      readMore fuel (.either first second) after
    | _ => .ok (first, ts)

/-- Commands joined by pipes. -/
def readPipeline : Nat → List Lexeme → Reads (Command × List Lexeme)
  | 0, ts => .ok (.nothing, ts)
  | fuel + 1, ts => do
    let negated := isAt "!" ts
    let (first, after) ← readCommand fuel (if negated then ts.drop 1 else ts)
    let (others, last) ← readStages fuel after
    if others.isEmpty && !negated then return (first, last)
    return (.pipeline negated (first :: others), last)

/-- The commands after the first of a pipeline. -/
def readStages : Nat → List Lexeme → Reads (List Command × List Lexeme)
  | 0, ts => .ok ([], ts)
  | fuel + 1, ts =>
    match ts with
    | .operator "|" _ :: rest => do
      let (stage, after) ← readCommand fuel (skipLines rest)
      let (others, last) ← readStages fuel after
      return (stage :: others, last)
    | _ => .ok ([], ts)

/-- A choice, after the word that begins it, up to the word that ends it. -/
def readChoice : Nat → List Lexeme → Reads (Command × List Lexeme)
  | 0, ts => .ok (.nothing, ts)
  | fuel + 1, ts => do
    let (condition, after) ← readList fuel ts
    let (yes, after) ← readList fuel (← expect "then" after)
    if isAt "elif" after then
      let (no, last) ← readChoice fuel (after.drop 1)
      return (.choice condition yes no, last)
    else if isAt "else" after then
      let (no, last) ← readList fuel (after.drop 1)
      return (.choice condition yes no, ← expect "fi" last)
    else return (.choice condition yes .nothing, ← expect "fi" after)

/-- The condition and the body of a loop. -/
def readLoop : Nat → Bool → List Lexeme → Reads (Command × List Lexeme)
  | 0, _, ts => .ok (.nothing, ts)
  | fuel + 1, stopsOn, ts => do
    let (condition, after) ← readList fuel ts
    let (body, last) ← readList fuel (← expect "do" after)
    return (.loop stopsOn condition body, ← expect "done" last)

/-- A loop over words, after the word that begins it. -/
def readEach : Nat → List Lexeme → Reads (Command × List Lexeme)
  | 0, ts => .ok (.nothing, ts)
  | fuel + 1, ts =>
    match ts with
    | .word w line :: rest => do
      let name := (bareText? (.word w line)).getD ""
      if !isName name then throw ⟨.loopVariable, line⟩
      let (words, after) ← readLoopWords rest
      let (body, last) ← readList fuel (← expect "do" (skipLines after))
      return (.each name words body, ← expect "done" last)
    | .fault .. :: _ => unexpected false none ts
    | t :: _ => .error ⟨.loopVariable, t.line⟩
    | [] => .error ⟨.loopVariable, 1⟩

/-- The branches of a selection, up to the word that ends it. -/
def readBranches : Nat → List Lexeme → Reads (List (List Word × Command) × List Lexeme)
  | 0, ts => .ok ([], ts)
  | fuel + 1, ts => do
    let ts := skipLines ts
    if isAt "esac" ts then return ([], ts.drop 1)
    let (patterns, after) ← readPatterns (match ts with
      | .operator "(" _ :: rest => rest
      | _ => ts)
    let after := skipLines after
    let (body, after) ← if atCloser after then pure (.nothing, after) else readList fuel after
    match skipLines after with
    | .operator ";;" _ :: rest => do
      let (more, last) ← readBranches fuel rest
      return ((patterns, body) :: more, last)
    | next =>
      if isAt "esac" next then return ([(patterns, body)], next.drop 1)
      else unexpected true (some (inQuotes ";;")) next

/-- A selection, after the word that begins it. -/
def readSelection : Nat → List Lexeme → Reads (Command × List Lexeme)
  | 0, ts => .ok (.nothing, ts)
  | fuel + 1, ts =>
    match ts with
    | .word subject _ :: rest => do
      let (branches, last) ← readBranches fuel (← expect "in" (skipLines rest))
      return (.select subject branches, last)
    | _ => unexpected false (some "word") ts

/-- A simple command, or the definition of a function. -/
def readPlain : Nat → List Lexeme → Reads (Command × List Lexeme)
  | 0, ts => .ok (.nothing, ts)
  | fuel + 1, ts =>
    match ts with
    | .word w line :: .operator "(" n :: rest => do
      if (assignment? w).isSome then return ← unexpected true none (.operator "(" n :: rest)
      let after ← expectOperator ")" rest
      let name := (bareText? (.word w line)).getD ""
      if !isName name || specialNames.contains name then throw ⟨.functionName, line⟩
      let (body, last) ← readCommand fuel (skipLines after)
      return (.define name body, last)
    | _ => do
      let line := (ts.head?.map Lexeme.line).getD 1
      let (found, last) ← readSimple ⟨[], [], []⟩ ts
      return (.simple line found.assignments found.words found.redirects, last)

/-- One command. -/
def readCommand : Nat → List Lexeme → Reads (Command × List Lexeme)
  | 0, ts => .ok (.nothing, ts)
  | fuel + 1, ts =>
    let line := (ts.head?.map Lexeme.line).getD 1
    let withRedirects (body : Command) (after : List Lexeme) : Reads (Command × List Lexeme) := do
      let (redirects, last) ← readRedirects after
      return (body.redirected line redirects, last)
    match ts with
    | .operator "(" _ :: rest => do
      let (body, after) ← readList fuel rest
      let (redirects, last) ← readRedirects (← expectOperator ")" after)
      return (.subshell line body redirects, last)
    | .redirect .. :: _ => readPlain fuel ts
    | t :: rest =>
      match bareText? t with
      | some "\x7b" => do
        let (body, after) ← readList fuel rest
        withRedirects (.group line body []) (← expect "\x7d" after)
      | some "if" => do
        let (body, after) ← readChoice fuel rest
        withRedirects body after
      | some "while" => do
        let (body, after) ← readLoop fuel false rest
        withRedirects body after
      | some "until" => do
        let (body, after) ← readLoop fuel true rest
        withRedirects body after
      | some "for" => do
        let (body, after) ← readEach fuel rest
        withRedirects body after
      | some "case" => do
        let (body, after) ← readSelection fuel rest
        withRedirects body after
      | some text => if reservedWords.contains text then unexpected true none ts else readPlain fuel ts
      | none =>
        match t with
        | .word .. => readPlain fuel ts
        | _ => unexpected true none ts
    | [] => unexpected true none ts

end

/-- The commands that begin on the next line, after what has been read of it, and what follows them. -/
def readLine (fuel : Nat) (first : Command) : Nat → List Lexeme → Reads (Command × List Lexeme)
  | 0, ts => .ok (first, ts)
  | steps + 1, ts =>
    match ts with
    | [] | .finish _ :: _ => .ok (first, [])
    | .lineEnd _ :: rest => .ok (first, rest)
    | _ => do
      let (next, after) ← readAndOr fuel ts
      match after with
      | .operator ";" _ :: rest => readLine fuel (.inTurn first next) steps rest
      | .operator "&" _ :: rest => readLine fuel (.inTurn first (.background next)) steps rest
      | [] | .finish _ :: _ | .lineEnd _ :: _ => readLine fuel (.inTurn first next) steps after
      | _ => unexpected true none after

/-- The lines of a script, each with the commands that begin on it, and the fault at which reading ends if
there is one. The fuel is the number of tokens. -/
def readLines (fuel : Nat) : Nat → List Lexeme → List Command × Option SyntaxFault
  | 0, _ => ([], none)
  | _ + 1, [] => ([], none)
  | steps + 1, ts =>
    match readLine fuel .nothing (ts.length + 1) ts with
    | .error fault => ([], some fault)
    | .ok (line, rest) => let (more, fault) := readLines fuel steps rest; (line :: more, fault)

/-- Reads a script. -/
def read (script : String) : List Command × Option SyntaxFault :=
  let ts := tokens script
  readLines (8 * ts.length + 8) (ts.length + 1) ts

end CommandShell.Script
