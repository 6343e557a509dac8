import CommandShell.Number.Natural
import CommandShell.Program.Source

/-!
# Programs that order lines

`sort` puts lines in the order of their octets, or of the numbers that they begin with; `uniq` keeps one of
several equal lines in a row.
-/

namespace CommandShell.Program

/-- The order of octets. -/
def octetsLe : Bytes → Bytes → Bool
  | [], _ => true
  | _ :: _, [] => false
  | a :: as, b :: bs => if a = b then octetsLe as bs else a < b

/-- The number that a line begins with; no number is zero. -/
def leadingNumber (line : Bytes) : Rat :=
  let cs := (line.dropWhile fun b => b = 32 || b = 9).map fun b => Char.ofNat b.toNat
  let (negative, cs) := match cs with
    | '-' :: after => (true, after)
    | _ => (false, cs)
  let (whole, rest) := Number.takeDigits cs
  let places := match rest with
    | '.' :: after => (Number.takeDigits after).1
    | _ => []
  let size : Rat :=
    Number.ofDigits whole + mkRat (Number.ofDigits places) (Nat.pow 10 places.length)
  if negative then -size else size

/-- A letter of ASCII as a capital. -/
def capital (b : UInt8) : UInt8 := if 0x61 ≤ b && b ≤ 0x7A then b - 0x20 else b

/-- How lines compare. -/
structure SortOrder where
  numeric : Bool
  reverse : Bool
  foldCase : Bool
  unique : Bool
deriving DecidableEq, Repr

/-- Whether two lines are the same to an order. -/
def SortOrder.same (o : SortOrder) (a b : Bytes) : Bool :=
  if o.numeric then leadingNumber a = leadingNumber b
  else if o.foldCase then a.map capital = b.map capital
  else a = b

/-- Whether one line may come before another; lines that compare equal are in the order of their octets. -/
def SortOrder.le (o : SortOrder) (a b : Bytes) : Bool :=
  let plain (x y : Bytes) : Bool :=
    if o.same x y then (if o.unique then true else octetsLe x y)
    else if o.numeric then leadingNumber x ≤ leadingNumber y
    else if o.foldCase then octetsLe (x.map capital) (y.map capital)
    else octetsLe x y
  if o.unique && o.same a b then true
  else if o.reverse then plain b a else plain a b

/-- Keeps the first of several lines in a row that are the same, with their number. -/
def grouped (same : Bytes → Bytes → Bool) : List Bytes → List (Nat × Bytes)
  | [] => []
  | line :: rest =>
    match grouped same rest with
    | (n, next) :: more => if same line next then (n + 1, line) :: more else (1, line) :: (n, next) :: more
    | [] => [(1, line)]

/-- Orders lines. -/
def sort (i : Invocation) : Run :=
  withOptions i ⟨['r', 'n', 'u', 'f', 's', 'b'], [],
      [("reverse", 'r'), ("numeric-sort", 'n'), ("unique", 'u'), ("ignore-case", 'f'), ("stable", 's')], false⟩ 2
    fun given operands =>
      let order : SortOrder := ⟨gave given 'n', gave given 'r', gave given 'f', gave given 'u'⟩
      match (sourcesOf i operands).findSome? (fun
        | .failed name fault => some (name, fault)
        | _ => none) with
      | some (name, fault) =>
        let what := if fault = .isDirectory then "read failed: " else "cannot read: "
        i.complain (i.name ++ ": " ++ what ++ quoteName name ++ ": " ++ fault.text ++ "\n") 2
      | none =>
        filter i operands (about i.name) fun text =>
          let lines := (linesOf text).mergeSort order.le
          unlines (if order.unique then (grouped order.same lines).map (·.2) else lines)

/-- Keeps one of several equal lines in a row. -/
def uniq (i : Invocation) : Run :=
  withOptions i ⟨['c', 'd', 'u', 'i'], [],
      [("count", 'c'), ("repeated", 'd'), ("unique", 'u'), ("ignore-case", 'i')], false⟩ 1
    fun given operands =>
      match operands with
      | _ :: _ :: third :: _ => i.complain (misuse i.name ("extra operand " ++ quoteOperand third)) 1
      | _ =>
        let same (a b : Bytes) : Bool := if gave given 'i' then a.map capital = b.map capital else a = b
        let shown (group : Nat × Bytes) : Bytes :=
          if (gave given 'd' && group.1 = 1) || (gave given 'u' && group.1 > 1) then []
          else
            let digits := toString group.1
            (if gave given 'c' then
              Text.encode (String.ofList (List.replicate (7 - digits.length) ' ') ++ digits ++ " ") else []) ++
              group.2 ++ [10]
        let refused (name : String) (fault : SystemFault) : String :=
          if fault = .isDirectory then
            i.name ++ ": error reading " ++ quoteAlways name ++ ": " ++ fault.text ++ "\n"
          else about i.name name fault
        let run := filter i (operands.take 1) refused fun text => (grouped same (linesOf text)).flatMap shown
        match operands with
        | [_, target] =>
          match run.ending, i.files.openForWriting false target with
          | .done (.exited 0), .ok (files, handle) =>
            { run with files := files.addTo run.output.head handle, output := .empty }
          | .done (.exited 0), .error (.system fault) => i.complain (about i.name target fault) 1
          | _, _ => run
        | _ => run

end CommandShell.Program
