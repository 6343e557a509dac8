import CommandShell.Text.Blank
import CommandShell.Text.Digit
import CommandShell.Text.WordCharacter

/-!
# Classes of characters

Blanks as ranges of code points, so that it can be read off the tables that no word character and no digit is one
(`Text.isBlank_of_isWord`, `Text.isBlank_of_isDigit`).
-/

namespace CommandShell.Text

/-- The characters that `isBlank` tells, in ranges. -/
def blankRanges : List CodeRange :=
  [⟨0x09, 0x0D⟩, ⟨0x1C, 0x20⟩, ⟨0x85, 0x85⟩, ⟨0xA0, 0xA0⟩, ⟨0x1680, 0x1680⟩, ⟨0x2000, 0x200A⟩, ⟨0x2028, 0x2029⟩,
   ⟨0x202F, 0x202F⟩, ⟨0x205F, 0x205F⟩, ⟨0x3000, 0x3000⟩]

theorem covers_blankRanges {c : Char} (h : isBlank c = true) : CodeRange.covers blankRanges c = true := by
  simp only [isBlank, Bool.or_eq_true, Bool.and_eq_true, decide_eq_true_eq, beq_iff_eq] at h
  simp only [CodeRange.covers, blankRanges, List.any_cons, List.any_nil, Bool.or_false, Bool.or_eq_true,
    Bool.and_eq_true, decide_eq_true_eq]
  omega

/-- Two ranges without a code point in common. -/
def CodeRange.Apart (range other : CodeRange) : Prop := range.last < other.first ∨ other.last < range.first

instance (range other : CodeRange) : Decidable (range.Apart other) := inferInstanceAs (Decidable (_ ∨ _))

theorem isBlank_of_covers {ranges : List CodeRange} {c : Char} (h : CodeRange.covers ranges c = true)
    (hapart : ∀ range ∈ ranges, ∀ blank ∈ blankRanges, range.Apart blank) : isBlank c = false := by
  rw [← Bool.not_eq_true]
  intro hblank
  obtain ⟨range, hrange, hfirst, hlast⟩ := CodeRange.covers_iff.1 h
  obtain ⟨blank, hmem, hfirst', hlast'⟩ := CodeRange.covers_iff.1 (covers_blankRanges hblank)
  rcases hapart range hrange blank hmem with hbefore | hbehind
  · omega
  · omega

theorem isBlank_of_isWord {c : Char} (h : isWord c = true) : isBlank c = false :=
  isBlank_of_covers (show CodeRange.covers wordRanges c = true from h) (by decide +kernel)

/-! ### Digits -/

/-- The ten digits of each script. -/
def decimalRanges : List CodeRange := decimalZeros.map fun first => ⟨first, first + 9⟩

theorem isSome_decimalValue? (c : Char) : (decimalValue? c).isSome = CodeRange.covers decimalRanges c := by
  rw [Bool.eq_iff_iff, CodeRange.covers_iff, decimalValue?, Option.isSome_map, List.find?_isSome]
  simp only [decimalRanges, List.mem_map, Bool.and_eq_true, decide_eq_true_eq]
  constructor
  · rintro ⟨first, hmem, hle, hlt⟩
    exact ⟨_, ⟨first, hmem, rfl⟩, hle, Nat.le_of_lt_succ hlt⟩
  · rintro ⟨_, ⟨first, hmem, rfl⟩, hle, hle'⟩
    exact ⟨first, hmem, hle, Nat.lt_succ_of_le hle'⟩

theorem isDigit_of_isSome {c : Char} (h : (decimalValue? c).isSome = true) : isDigit c = true := by
  rw [isDigit, h, Bool.true_or]

theorem isBlank_of_isDigit {c : Char} (h : isDigit c = true) : isBlank c = false := by
  rw [isDigit, isSome_decimalValue?, Bool.or_eq_true] at h
  rcases h with h | h
  · exact isBlank_of_covers h (by decide)
  · exact isBlank_of_covers h (by decide)

end CommandShell.Text
