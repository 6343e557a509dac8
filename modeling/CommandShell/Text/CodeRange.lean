/-!
# Ranges of code points

A character class of the Unicode character database is a list of ranges of code points.
-/

namespace CommandShell.Text

/-- The code points from `first` to `last`, both included. -/
structure CodeRange where
  first : Nat
  last : Nat
deriving DecidableEq, Repr

/-- Some range of the list contains the character. -/
def CodeRange.covers (ranges : List CodeRange) (c : Char) : Bool :=
  ranges.any fun range => range.first ≤ c.toNat && c.toNat ≤ range.last

theorem CodeRange.covers_iff {ranges : List CodeRange} {c : Char} :
    covers ranges c = true ↔ ∃ range ∈ ranges, range.first ≤ c.toNat ∧ c.toNat ≤ range.last := by
  simp [covers]

end CommandShell.Text
