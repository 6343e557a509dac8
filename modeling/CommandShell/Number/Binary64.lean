/-!
# Double precision

Numbers of the binary format of 64 bits, each finite one as the exact fraction that it is. Every operation
takes the exact result and rounds it once, to the nearest number of the format, a tie going to the even one.
-/

namespace CommandShell

/-- A number of the format. -/
inductive Binary64 where
  /-- The sign counts for zero too. -/
  | finite (negative : Bool) (magnitude : Rat)
  | infinite (negative : Bool)
  | undefined
deriving DecidableEq, Repr

namespace Number

/-- The nearest integer, a tie going to the even one. -/
def roundHalfEven (q : Rat) : Int :=
  let low := q.floor
  let rest := q - low
  if rest < 1 / 2 then low
  else if rest > 1 / 2 then low + 1
  else if low % 2 = 0 then low else low + 1

/-- A power of two. -/
def powerOfTwo (e : Int) : Rat := if 0 ≤ e then Nat.pow 2 e.toNat else mkRat 1 (Nat.pow 2 (-e).toNat)

/-- The exponent of the greatest power of two that is not above a positive fraction. -/
def binaryExponent (q : Rat) : Int :=
  let guess : Int := (Nat.log2 q.num.natAbs : Int) - Nat.log2 q.den
  if powerOfTwo guess ≤ q then guess else guess - 1

/-- The nearest number of the format to a fraction that is not negative; `none` if that is beyond the
greatest. -/
def nearest? (q : Rat) : Option Rat :=
  if q ≤ 0 then some 0
  else
    let unit := max (binaryExponent q - 52) (-1074)
    let rounded := (roundHalfEven (q / powerOfTwo unit) : Rat) * powerOfTwo unit
    if rounded < powerOfTwo 1024 then some rounded else none

/-- The fraction `n · 10 ^ e`. -/
def scaled (n : Nat) (e : Int) : Rat :=
  if 0 ≤ e then ((n * Nat.pow 10 e.toNat : Nat) : Rat) else mkRat n (Nat.pow 10 (-e).toNat)

/-- The number of digits of `n` in base ten; zero has none. -/
def digitCount (n : Nat) : Nat := if n = 0 then 0 else (Nat.toDigits 10 n).length

/-- Rounds to two places, a tie going to the even neighbour, and writes the result out in full. -/
def twoPlaces (q : Rat) : String :=
  let hundredths := (roundHalfEven (q * 100)).natAbs
  let rest := hundredths % 100
  (if q < 0 then "-" else "") ++ toString (hundredths / 100) ++ "." ++ toString (rest / 10) ++
    toString (rest % 10)

end Number

namespace Binary64

/-- The nearest number to a fraction. -/
def ofRat (q : Rat) : Binary64 :=
  let negative := q < 0
  match Number.nearest? (if negative then -q else q) with
  | some magnitude => .finite negative magnitude
  | none => .infinite negative

/-- The nearest number to an integer, unless it is beyond the greatest. -/
def ofInt? (n : Int) : Option Binary64 :=
  match ofRat n with
  | .infinite _ => none
  | x => some x

/-- The number nearest to `n · 10 ^ e`; exponents far outside the format are not computed. -/
def ofDecimal (negative : Bool) (n : Nat) (e : Int) : Binary64 :=
  let size := Number.digitCount n + e
  if n = 0 ∨ size < -400 then .finite negative 0
  else if size > 400 then .infinite negative
  else
    match Number.nearest? (Number.scaled n e) with
    | some magnitude => .finite negative magnitude
    | none => .infinite negative

/-- The value of a finite number. -/
def toRat? : Binary64 → Option Rat
  | .finite negative magnitude => some (if negative then -magnitude else magnitude)
  | _ => none

/-- Below zero; an undefined number is not. -/
def isNegative : Binary64 → Bool
  | .finite negative magnitude => negative && magnitude ≠ 0
  | .infinite negative => negative
  | .undefined => false

/-- The sum, difference or quotient of two fractions, rounded to the format; beyond its range, the exact
value. -/
def round (q : Rat) : Rat := ((ofRat q).toRat?).getD q

end Binary64

end CommandShell
