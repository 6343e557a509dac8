import CommandShell.Text.Utf8

/-!
# Scripts

The commands of a small command language: words with quotes and expansions, redirections, pipelines, lists,
conditions, loops and functions.
-/

namespace CommandShell.Script

/-- What is made of the value of a parameter. The flag of the middle ones tells that an empty value counts as
none. -/
inductive Use where
  | value
  | length
  /-- A text in place of no value. -/
  | orElse (emptyToo : Bool) (text : String)
  /-- The same, and the parameter takes the text as its value. -/
  | orAssign (emptyToo : Bool) (text : String)
  /-- A text in place of any value. -/
  | ifGiven (emptyToo : Bool) (text : String)
  /-- A complaint if there is no value. -/
  | orFail (emptyToo : Bool) (text : String)
  /-- The value without the part that matches a pattern, at its front or its end, the longest or the
  shortest. -/
  | without (front longest : Bool) (pattern : String)
deriving DecidableEq, Repr

/-- A part of a word; quoted parts are neither split nor matched against file names. -/
inductive Part where
  | literal (text : String) (quoted : Bool)
  /-- A tilde at the front of a word, and the name after it. -/
  | tilde (name : String)
  | parameter (name : String) (use : Use) (quoted : Bool)
  | command (script : String) (quoted : Bool)
  | arithmetic (expression : String) (quoted : Bool)
deriving DecidableEq, Repr

/-- A word before its expansion. -/
abbrev Word := List Part

/-- Which way a redirection of a script leads. -/
inductive RedirectOperator where
  | input
  | output
  | append
  /-- The descriptor becomes the same as another. -/
  | duplicate
deriving DecidableEq, Repr

/-- A redirection. -/
structure Redirect where
  descriptor : Nat
  operator : RedirectOperator
  target : Word
deriving DecidableEq, Repr

/-- A command. -/
inductive Command where
  | simple (line : Nat) (assignments : List (String × Word)) (words : List Word) (redirects : List Redirect)
  | pipeline (negated : Bool) (stages : List Command)
  | both (first second : Command)
  | either (first second : Command)
  | inTurn (first second : Command)
  | background (body : Command)
  | choice (condition yes no : Command)
  | loop (stopsOn : Bool) (condition body : Command)
  | each (name : String) (words : Option (List Word)) (body : Command)
  /-- The first branch with a pattern that matches the subject is taken. -/
  | select (subject : Word) (branches : List (List Word × Command))
  | group (line : Nat) (body : Command) (redirects : List Redirect)
  | subshell (line : Nat) (body : Command) (redirects : List Redirect)
  | define (name : String) (body : Command)
  | nothing
deriving Repr

end CommandShell.Script
