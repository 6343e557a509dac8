import CommandShell.Number.Integer
import CommandShell.Script.State

/-!
# Conditions of scripts

The questions that `test` answers: about texts, about integers and about files.
-/

namespace CommandShell.Script

/-- An answer, or a complaint. -/
abbrev Answer := Except String Bool

/-- The integer that a text writes. -/
def readTestNumber (s : String) : Except String Int :=
  let (negative, digits) := Number.splitSign s.toList
  match Number.readNatural? digits with
  | some n => .ok (if negative then -n else n)
  | none => .error ("Illegal number: " ++ s)

/-- A question about one text. -/
def unary? (files : Files) (operator operand : String) : Option Bool :=
  let found? (follow : Bool) : Option Entry := match files.resolve follow operand with
    | .ok (.present _ e) => some e
    | _ => none
  match operator with
  | "-n" => some (!operand.isEmpty)
  | "-z" => some operand.isEmpty
  | "-e" => some (found? true).isSome
  | "-f" => some ((found? true).any (·.isFile))
  | "-d" => some ((found? true).any (·.isDirectory))
  | "-L" | "-h" => some ((found? false).any (·.isLink))
  | "-r" => some ((found? true).any (·.readable))
  | "-w" => some ((found? true).any (·.writable))
  | "-x" => some ((found? true).any (·.executable))
  | "-s" => some ((found? true).any fun e => match e.content with
    | .file bytes => !bytes.isEmpty
    | .directory => true
    | _ => false)
  | "-t" => some false
  | _ => none

/-- A question about two texts. -/
def binary? (operator a b : String) : Option Answer :=
  let numbers (p : Int → Int → Bool) : Option Answer := some do
    let x ← readTestNumber a
    let y ← readTestNumber b
    return p x y
  match operator with
  | "=" => some (.ok (a = b))
  | "!=" => some (.ok (a ≠ b))
  | "<" => some (.ok (a < b))
  | ">" => some (.ok (b < a))
  | "-eq" => numbers fun x y => x = y
  | "-ne" => numbers fun x y => x ≠ y
  | "-lt" => numbers fun x y => x < y
  | "-le" => numbers fun x y => x ≤ y
  | "-gt" => numbers fun x y => x > y
  | "-ge" => numbers fun x y => x ≥ y
  | _ => none

/-- Whether a word asks a question about two texts. -/
def isBinary (operator : String) : Bool := (binary? operator "0" "0").isSome

/-- Whether the first of some words asks a question about the next one. It is a text itself if nothing
follows, or if another question about two texts follows it. -/
def asksUnary (files : Files) : List String → Bool
  | operator :: second :: rest => (unary? files operator "").isSome && (rest.isEmpty || !isBinary second)
  | _ => false

mutual

/-- The answer to the question at the front of some words, and the words from the last one that belongs to it
on. The fuel bounds the depth. -/
def primary (files : Files) : Nat → List String → Except String (Bool × List String)
  | 0, ws => .ok (false, ws)
  | fuel + 1, ws =>
    match ws with
    | [] => .ok (false, [])
    | "(" :: ")" :: rest => .ok (false, ")" :: rest)
    | "(" :: w :: rest => do
      let (b, last) ← anyOf files fuel (w :: rest)
      match last.drop 1 with
      | ")" :: after => return (b, ")" :: after)
      | _ => throw "closing paren expected"
    | a :: rest =>
      if asksUnary files ws then .ok ((unary? files a (rest.headD "")).getD false, rest)
      else
        match rest with
        | [operator] =>
          if isBinary operator then .error (operator ++ ": argument expected") else .ok (!a.isEmpty, ws)
        | operator :: b :: after =>
          match binary? operator a b with
          | some result => result.map (·, b :: after)
          | none => .ok (!a.isEmpty, ws)
        | [] => .ok (!a.isEmpty, ws)

/-- An answer that an exclamation mark may turn round. -/
def negation (files : Files) : Nat → List String → Except String (Bool × List String)
  | 0, ws => .ok (false, ws)
  | fuel + 1, ws =>
    match ws with
    | "!" :: rest => (negation files fuel rest).map fun (b, last) => (!b, last)
    | _ => primary files fuel ws

/-- Whether all of several answers are yes. -/
def allOf (files : Files) : Nat → List String → Except String (Bool × List String)
  | 0, ws => .ok (false, ws)
  | fuel + 1, ws => do
    let (b, last) ← negation files fuel ws
    match last.drop 1 with
    | "-a" :: rest => (allOf files fuel rest).map fun (c, after) => (b && c, after)
    | _ => return (b, last)

/-- Whether one of several answers is yes. -/
def anyOf (files : Files) : Nat → List String → Except String (Bool × List String)
  | 0, ws => .ok (false, ws)
  | fuel + 1, ws => do
    let (b, last) ← allOf files fuel ws
    match last.drop 1 with
    | "-o" :: rest => (anyOf files fuel rest).map fun (c, after) => (b || c, after)
    | _ => return (b, last)

end

/-- Answers a question. Three words of which the middle one asks about two texts are that question, whatever
the others are. -/
def answer (files : Files) (ws : List String) : Answer := do
  let direct : Option Answer := match ws with
    | [a, operator, b] => binary? operator a b
    | _ => none
  match direct with
  | some result => result
  | none =>
    let inner := if ws.length = 3 || ws.length = 4 then
        (if ws.head? = some "(" && ws.getLast? = some ")" then (ws.drop 1).dropLast else ws) else ws
    let (b, last) ← anyOf files (4 * inner.length + 4) inner
    match last with
    | w :: _ :: _ => throw (w ++ ": unexpected operator")
    | _ => return b

end CommandShell.Script
