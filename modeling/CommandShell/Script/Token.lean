import CommandShell.Script.Basic

/-!
# Tokens of scripts

A script is cut into words, operators and line ends. Quotes and expansions belong to the word in which they
stand. The last token is the end of the script, or what keeps the script from being read any further.
-/

namespace CommandShell.Script

/-- Why a script cannot be cut into tokens. -/
inductive TokenFault where
  | openQuote
  | openBackquote
  | openBrace
  | openParenthesis
  | openArithmetic
deriving DecidableEq, Repr

/-- A token of a script, and the line that has been reached with it. -/
inductive Lexeme where
  | word (parts : Word) (line : Nat)
  | operator (text : String) (line : Nat)
  | redirect (descriptor : Nat) (operator : RedirectOperator) (line : Nat)
  | lineEnd (line : Nat)
  | finish (line : Nat)
  | fault (fault : TokenFault) (line : Nat)
deriving DecidableEq, Repr

/-- The line that has been reached with a token. -/
def Lexeme.line : Lexeme → Nat
  | word _ n | operator _ n | redirect _ _ n | lineEnd n | finish n | fault _ n => n

/-- The text up to a parenthesis that closes one already opened, and what follows. The fuel is the number of
characters. -/
def untilClose : Nat → Nat → List Char → Option (List Char × List Char)
  | 0, _, _ => none
  | _ + 1, _, [] => none
  | fuel + 1, depth, c :: rest =>
    let keep (d : Nat) : Option (List Char × List Char) :=
      (untilClose fuel d rest).map fun (s, after) => (c :: s, after)
    if c = '(' then keep (depth + 1)
    else if c = ')' then if depth = 0 then some ([], rest) else keep (depth - 1)
    else if c = '\'' then
      let quoted := rest.takeWhile (· ≠ '\'')
      match rest.drop quoted.length with
      | _ :: after => (untilClose fuel depth after).map fun (s, last) => (c :: quoted ++ '\'' :: s, last)
      | [] => none
    else if c = '\\' then
      match rest with
      | d :: after => (untilClose fuel depth after).map fun (s, last) => (c :: d :: s, last)
      | [] => none
    else keep depth

/-- The text up to the brace that closes one already opened, and what follows. -/
def untilBrace (depth : Nat) : List Char → Option (List Char × List Char)
  | [] => none
  | c :: rest =>
    if c = '\x7d' && depth = 0 then some ([], rest)
    else
      let depth := if c = '\x7b' then depth + 1 else if c = '\x7d' then depth - 1 else depth
      (untilBrace depth rest).map fun (s, after) => (c :: s, after)

/-- The text up to a backquote, and what follows. A backslash makes the next character one of the text if it
is a dollar sign, a backslash or a backquote, and within double quotes also if it is one of those. -/
def untilBackquote (quoted : Bool) : List Char → Option (List Char × List Char)
  | [] => none
  | '\x60' :: rest => some ([], rest)
  | '\\' :: c :: rest =>
    let kept := if ['$', '\\', '\x60'].contains c || (quoted && c = '"') then [c] else ['\\', c]
    (untilBackquote quoted rest).map fun (s, after) => (kept ++ s, after)
  | c :: rest => (untilBackquote quoted rest).map fun (s, after) => (c :: s, after)

/-- The characters of a name. -/
def isNameChar (c : Char) : Bool := c.isAlphanum || c = '_'

/-- Whether a text is a name. -/
def isName (s : String) : Bool :=
  !s.isEmpty && s.toList.all isNameChar && !s.toList.head?.any (·.isDigit)

/-- What is made of a parameter, as it stands after its name in braces. -/
def readUse (cs : List Char) : Use :=
  let text (n : Nat) : String := String.ofList (cs.drop n)
  match cs with
  | ':' :: '-' :: _ => .orElse true (text 2)
  | ':' :: '=' :: _ => .orAssign true (text 2)
  | ':' :: '+' :: _ => .ifGiven true (text 2)
  | ':' :: '?' :: _ => .orFail true (text 2)
  | '-' :: _ => .orElse false (text 1)
  | '=' :: _ => .orAssign false (text 1)
  | '+' :: _ => .ifGiven false (text 1)
  | '?' :: _ => .orFail false (text 1)
  | '%' :: '%' :: _ => .without false true (text 2)
  | '%' :: _ => .without false false (text 1)
  | '#' :: '#' :: _ => .without true true (text 2)
  | '#' :: _ => .without true false (text 1)
  | _ => .value

/-- A parameter in braces. -/
def bracedParameter (quoted : Bool) (body : List Char) : Part :=
  match body with
  | '#' :: name@(_ :: _) => .parameter (String.ofList name) .length quoted
  | _ =>
    let name := if body.head?.any isNameChar then body.takeWhile isNameChar else body.take 1
    .parameter (String.ofList name) (readUse (body.drop name.length)) quoted

/-- What begins with a dollar sign; `none` if the dollar sign stands for itself. -/
def readExpansion (fuel : Nat) (quoted : Bool) (cs : List Char) :
    Except TokenFault (Option (Part × List Char)) :=
  match cs with
  | '(' :: '(' :: rest =>
    match untilClose fuel 0 rest with
    | some (s, ')' :: after) => .ok (some (.arithmetic (String.ofList s) quoted, after))
    | _ => .error .openArithmetic
  | '(' :: rest =>
    match untilClose fuel 0 rest with
    | some (s, after) => .ok (some (.command (String.ofList s) quoted, after))
    | none => .error .openParenthesis
  | '{' :: rest =>
    match untilBrace 0 rest with
    | some (body, after) => .ok (some (bracedParameter quoted body, after))
    | none => .error .openBrace
  | c :: rest =>
    if c.isDigit || ['#', '*', '@', '?', '$', '!', '-'].contains c then
      .ok (some (.parameter (String.singleton c) .value quoted, rest))
    else if isNameChar c then
      let name := cs.takeWhile isNameChar
      .ok (some (.parameter (String.ofList name) .value quoted, cs.drop name.length))
    else .ok none
  | [] => .ok none

/-- Adds a literal character to the parts of a word, which are kept from last to first. -/
def addLiteral (c : Char) (quoted : Bool) : Word → Word
  | .literal text q :: parts =>
    if q = quoted then .literal (text.push c) q :: parts
    else .literal (String.singleton c) quoted :: .literal text q :: parts
  | parts => .literal (String.singleton c) quoted :: parts

/-- Where reading a word stands. -/
inductive Quoting where
  | bare
  | double
deriving DecidableEq, Repr

/-- Ends a word. -/
def isWordEnd (c : Char) : Bool := [' ', '\t', '\n', ';', '&', '|', '<', '>', '(', ')'].contains c

/-- A character of the name after a tilde. -/
def isTildeChar (c : Char) : Bool := !isWordEnd c && c ∉ ['/', '\'', '"', '\\', '$', '\x60']

/-- What follows a dollar sign or a backquote in a word, if the character is one of the two. -/
def readSpecial (fuel : Nat) (quoted : Bool) (c : Char) (rest : List Char) :
    Except TokenFault (Option (Part × List Char)) :=
  if c = '$' then readExpansion fuel quoted rest
  else if c = '\x60' then
    match untilBackquote quoted rest with
    | some (script, after) => .ok (some (.command (String.ofList script) quoted, after))
    | none => .error .openBackquote
  else .ok none

/-- The parts of the word at the front of a text, given those before it from last to first; and what follows
the word. The fuel is the number of characters. -/
def readWord : Nat → Quoting → Word → List Char → Except TokenFault (Word × List Char)
  | 0, _, parts, cs => .ok (parts.reverse, cs)
  | _ + 1, .bare, parts, [] => .ok (parts.reverse, [])
  | _ + 1, .double, _, [] => .error .openQuote
  | fuel + 1, .bare, parts, c :: rest =>
    if isWordEnd c then .ok (parts.reverse, c :: rest)
    else if c = '\'' then
      let quoted := rest.takeWhile (· ≠ '\'')
      match rest.drop quoted.length with
      | _ :: after => readWord fuel .bare (.literal (String.ofList quoted) true :: parts) after
      | [] => .error .openQuote
    else if c = '"' then readWord fuel .double (.literal "" true :: parts) rest
    else if c = '\\' then
      match rest with
      | '\n' :: after => readWord fuel .bare parts after
      | d :: after => readWord fuel .bare (addLiteral d true parts) after
      | [] => .ok ((addLiteral '\\' true parts).reverse, [])
    else if c = '~' && parts.isEmpty then
      let name := rest.takeWhile isTildeChar
      let after := rest.drop name.length
      if after.head?.all fun d => isWordEnd d || d = '/' then
        readWord fuel .bare [.tilde (String.ofList name)] after
      else readWord fuel .bare (addLiteral c false parts) rest
    else
      match readSpecial fuel false c rest with
      | .error fault => .error fault
      | .ok (some (part, after)) => readWord fuel .bare (part :: parts) after
      | .ok none => readWord fuel .bare (addLiteral c false parts) rest
  | fuel + 1, .double, parts, c :: rest =>
    if c = '"' then readWord fuel .bare parts rest
    else if c = '\\' then
      match rest with
      | '\n' :: after => readWord fuel .double parts after
      | d :: after =>
        if ['$', '\x60', '"', '\\'].contains d then readWord fuel .double (addLiteral d true parts) after
        else readWord fuel .double (addLiteral '\\' true parts) rest
      | [] => .error .openQuote
    else
      match readSpecial fuel true c rest with
      | .error fault => .error fault
      | .ok (some (part, after)) => readWord fuel .double (part :: parts) after
      | .ok none => readWord fuel .double (addLiteral c true parts) rest

/-- An operator, or the direction of a redirection. -/
inductive Sign where
  | operator (text : String)
  | redirect (descriptor : Nat) (operator : RedirectOperator)
deriving DecidableEq, Repr

/-- The operator at the front of a text, and what follows it. -/
def readSign? : List Char → Option (Sign × List Char)
  | '&' :: '&' :: rest => some (.operator "&&", rest)
  | '|' :: '|' :: rest => some (.operator "||", rest)
  | ';' :: ';' :: rest => some (.operator ";;", rest)
  | '>' :: '>' :: rest => some (.redirect 1 .append, rest)
  | '>' :: '&' :: rest => some (.redirect 1 .duplicate, rest)
  | '<' :: '&' :: rest => some (.redirect 0 .duplicate, rest)
  | '>' :: '|' :: rest => some (.redirect 1 .output, rest)
  | '>' :: rest => some (.redirect 1 .output, rest)
  | '<' :: rest => some (.redirect 0 .input, rest)
  | '&' :: rest => some (.operator "&", rest)
  | '|' :: rest => some (.operator "|", rest)
  | ';' :: rest => some (.operator ";", rest)
  | '(' :: rest => some (.operator "(", rest)
  | ')' :: rest => some (.operator ")", rest)
  | _ => none

/-- The sign at the front of a text; a digit before a redirection names its descriptor. -/
def readNumberedSign? (cs : List Char) : Option (Sign × List Char) :=
  match cs with
  | c :: rest =>
    if c.isDigit then
      match readSign? rest with
      | some (.redirect _ operator, after) => some (.redirect (c.toNat - 0x30) operator, after)
      | _ => none
    else readSign? cs
  | [] => none

/-- A sign as a token. -/
def Sign.lexeme (line : Nat) : Sign → Lexeme
  | operator text => .operator text line
  | redirect descriptor direction => .redirect descriptor direction line

/-- The number of line feeds in a text. -/
def lineFeeds (cs : List Char) : Nat := (cs.filter (· = '\n')).length

/-- The tokens of a script. The fuel is the number of characters. -/
def tokensFrom : Nat → Nat → List Char → List Lexeme
  | 0, line, _ => [.finish line]
  | _ + 1, line, [] => [.finish line]
  | fuel + 1, line, c :: rest =>
    if c = ' ' || c = '\t' then tokensFrom fuel line rest
    else if c = '\n' then .lineEnd (line + 1) :: tokensFrom fuel (line + 1) rest
    else if c = '#' then tokensFrom fuel line (rest.dropWhile (· ≠ '\n'))
    else
      match c, rest with
      | '\\', '\n' :: after => tokensFrom fuel (line + 1) after
      | _, _ =>
        match readNumberedSign? (c :: rest) with
        | some (sign, after) => sign.lexeme line :: tokensFrom fuel line after
        | none =>
          match readWord fuel .bare [] (c :: rest) with
          | .ok (parts, after) =>
            let reached := line + lineFeeds ((c :: rest).take (rest.length + 1 - after.length))
            .word parts reached :: tokensFrom fuel reached after
          | .error fault => [.fault fault (line + lineFeeds rest)]

/-- The tokens of a script. -/
def tokens (script : String) : List Lexeme := tokensFrom (2 * script.length + 2) 1 script.toList

end CommandShell.Script
