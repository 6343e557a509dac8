import CommandShell.Number.Natural
import CommandShell.Script.Field
import CommandShell.Script.Token

/-!
# Arithmetic in scripts

Integer expressions with the usual precedence: products before sums before comparisons. A name stands for the
value of a variable.
-/

namespace CommandShell.Script

/-- A token of an expression. -/
inductive Term where
  | number (n : Int)
  | symbol (s : String)
deriving DecidableEq, Repr

/-- The tokens of an expression. The fuel is the number of characters. -/
def terms (value : String → Int) : Nat → List Char → List Term
  | 0, _ => []
  | _ + 1, [] => []
  | fuel + 1, c :: rest =>
    if isSeparator c || c = '$' then terms value fuel rest
    else if c.isDigit then
      let (n, after) := Number.takeNatural (c :: rest)
      .number n :: terms value fuel after
    else if isNameChar c then
      let name := (c :: rest).takeWhile isNameChar
      .number (value (String.ofList name)) :: terms value fuel ((c :: rest).drop name.length)
    else
      match c, rest with
      | '=', '=' :: after => .symbol "==" :: terms value fuel after
      | '!', '=' :: after => .symbol "!=" :: terms value fuel after
      | '<', '=' :: after => .symbol "<=" :: terms value fuel after
      | '>', '=' :: after => .symbol ">=" :: terms value fuel after
      | _, _ => .symbol (String.singleton c) :: terms value fuel rest

/-- The value of an operator, and how strongly it binds; `none` if it is none. -/
def operator? : String → Option (Nat × (Int → Int → Option Int))
  | "*" => some (3, fun a b => some (a * b))
  | "/" => some (3, fun a b => if b = 0 then none else some (Int.tdiv a b))
  | "%" => some (3, fun a b => if b = 0 then none else some (Int.tmod a b))
  | "+" => some (2, fun a b => some (a + b))
  | "-" => some (2, fun a b => some (a - b))
  | "<" => some (1, fun a b => some (if a < b then 1 else 0))
  | ">" => some (1, fun a b => some (if a > b then 1 else 0))
  | "<=" => some (1, fun a b => some (if a ≤ b then 1 else 0))
  | ">=" => some (1, fun a b => some (if a ≥ b then 1 else 0))
  | "==" => some (1, fun a b => some (if a = b then 1 else 0))
  | "!=" => some (1, fun a b => some (if a = b then 0 else 1))
  | _ => none

mutual

/-- The value of an operand. -/
def operand : Nat → List Term → Option (Int × List Term)
  | 0, _ => none
  | fuel + 1, ts =>
    match ts with
    | .number n :: rest => some (n, rest)
    | .symbol "-" :: rest => (operand fuel rest).map fun (n, after) => (-n, after)
    | .symbol "+" :: rest => operand fuel rest
    | .symbol "!" :: rest => (operand fuel rest).map fun (n, after) => (if n = 0 then 1 else 0, after)
    | .symbol "(" :: rest => do
      let (n, after) ← expression fuel 0 rest
      match after with
      | .symbol ")" :: last => return (n, last)
      | _ => none
    | _ => none

/-- The value of an expression of operators that bind at least so strongly. -/
def expression : Nat → Nat → List Term → Option (Int × List Term)
  | 0, _, _ => none
  | fuel + 1, least, ts => do
    let (n, after) ← operand fuel ts
    continueWith fuel least n after

/-- Goes on with the operators after a value. -/
def continueWith : Nat → Nat → Int → List Term → Option (Int × List Term)
  | 0, _, _, _ => none
  | fuel + 1, least, n, ts =>
    match ts with
    | .symbol s :: rest =>
      match operator? s with
      | some (strength, apply) =>
        if strength < least then some (n, ts)
        else do
          let (m, after) ← expression fuel (strength + 1) rest
          continueWith fuel least (← apply n m) after
      | none => some (n, ts)
    | _ => some (n, ts)

end

/-- The value of an expression; an empty one is zero. -/
def evaluate? (value : String → Int) (text : String) : Option Int :=
  let ts := terms value (text.length + 1) text.toList
  if ts.isEmpty then some 0
  else
    match expression (4 * ts.length + 4) 0 ts with
    | some (n, []) => some n
    | _ => none

end CommandShell.Script
