import CommandShell.Number.Integer
import CommandShell.Proofs.Text.Classes
import CommandShell.Proofs.Text.Parts
import Mathlib.Data.Nat.Digits.Defs

/-!
# Reading a text of digits

What is read from a text in which every character is a digit (`Number.readInteger_of_digits`): its value in base ten, if
all are decimal digits and there are not too many of them, and an error otherwise. Signs that only stand for a digit end
the number, and then the text is no integer.
-/

namespace CommandShell.Number

open Text (decimalValue? isDigit)

/-- The last digit counts ones, and each digit ten times as much as the one behind it. -/
theorem ofDigits_eq (digits : List Nat) : ofDigits digits = Nat.ofDigits 10 digits.reverse := by
  induction digits using List.reverseRecOn with
  | nil => rfl
  | append_singleton front d ih =>
    rw [List.reverse_append, List.reverse_singleton, List.singleton_append, Nat.ofDigits_cons, ← ih, ofDigits,
      List.foldl_append]
    show 10 * ofDigits front + d = d + 10 * ofDigits front
    omega

/-! ### Decimal digits at the front -/

/-- The values of the decimal digits at the front of a text. -/
def leadingDecimals : List Char → List Nat
  | [] => []
  | c :: rest =>
    match decimalValue? c with
    | some d => d :: leadingDecimals rest
    | none => []

theorem leadingDecimals_cons_some {c : Char} {d : Nat} (h : decimalValue? c = some d) (rest : List Char) :
    leadingDecimals (c :: rest) = d :: leadingDecimals rest := by
  rw [leadingDecimals, h]

theorem leadingDecimals_cons_none {c : Char} (h : decimalValue? c = none) (rest : List Char) :
    leadingDecimals (c :: rest) = [] := by
  rw [leadingDecimals, h]

theorem length_leadingDecimals_le (cs : List Char) : (leadingDecimals cs).length ≤ cs.length := by
  induction cs with
  | nil => exact Nat.le_refl _
  | cons c rest ih =>
    cases hc : decimalValue? c with
    | none =>
      rw [leadingDecimals_cons_none hc]
      exact Nat.zero_le _
    | some d =>
      rw [leadingDecimals_cons_some hc, List.length_cons, List.length_cons]
      omega

/-- The values of all the characters, if all are decimal digits. -/
theorem mapM_decimalValue? (cs : List Char) :
    cs.mapM decimalValue? = if (leadingDecimals cs).length = cs.length then some (leadingDecimals cs) else none := by
  induction cs with
  | nil => rfl
  | cons c rest ih =>
    rw [List.mapM_cons]
    cases hc : decimalValue? c with
    | none =>
      rw [leadingDecimals_cons_none hc, if_neg (by simp)]
      rfl
    | some d =>
      rw [leadingDecimals_cons_some hc, ih, List.length_cons, List.length_cons]
      by_cases hall : (leadingDecimals rest).length = rest.length
      · rw [if_pos hall, if_pos (by omega)]
        rfl
      · rw [if_neg hall, if_neg (by omega)]
        rfl

theorem length_leadingDecimals_eq_iff {cs : List Char} :
    (leadingDecimals cs).length = cs.length ↔ ∀ c ∈ cs, decimalValue? c ≠ none := by
  induction cs with
  | nil => simp [leadingDecimals]
  | cons c rest ih =>
    rw [List.forall_mem_cons]
    cases hc : decimalValue? c with
    | none => simp [leadingDecimals_cons_none hc]
    | some d => simp [leadingDecimals_cons_some hc, ih]

/-! ### Texts of digits -/

/-- Between digits nothing is left out, and reading stops at the first sign that is no decimal digit. -/
private theorem digitsFrom_true {cs : List Char} (h : ∀ c ∈ cs, isDigit c = true) :
    digitsFrom true cs = some (leadingDecimals cs, cs.drop (leadingDecimals cs).length) := by
  induction cs with
  | nil => rfl
  | cons c rest ih =>
    obtain ⟨hdigit, hrest⟩ := List.forall_mem_cons.1 h
    cases hc : decimalValue? c with
    | none =>
      have hunderscore : c ≠ '_' := by
        rintro rfl
        exact absurd hdigit (by decide)
      rw [digitsFrom, hc, leadingDecimals_cons_none hc]
      simp [hunderscore]
    | some d =>
      rw [digitsFrom, hc, leadingDecimals_cons_some hc, ih hrest]
      rfl

private theorem digitsFrom_false {c : Char} {rest : List Char} (h : ∀ d ∈ c :: rest, isDigit d = true) :
    digitsFrom false (c :: rest) =
      if leadingDecimals (c :: rest) = [] then none
      else some (leadingDecimals (c :: rest), (c :: rest).drop (leadingDecimals (c :: rest)).length) := by
  cases hc : decimalValue? c with
  | none =>
    rw [digitsFrom, hc, leadingDecimals_cons_none hc]
    rfl
  | some d =>
    rw [digitsFrom, hc, leadingDecimals_cons_some hc, digitsFrom_true (List.forall_mem_cons.1 h).2]
    rfl

/-- Neither blanks nor a sign stand at the front of digits. -/
private theorem splitSign_trimChars {c : Char} {rest : List Char} (h : ∀ d ∈ c :: rest, isDigit d = true) :
    splitSign (Text.trimChars (c :: rest)) = (false, c :: rest) := by
  have hword : Text.IsWord (c :: rest) := ⟨List.cons_ne_nil _ _, fun d hd => Text.isBlank_of_isDigit (h d hd)⟩
  have hdigit := h c List.mem_cons_self
  rw [Text.trimChars_of_trimmed hword.trimmed]
  unfold splitSign
  split
  · next heq =>
    rw [(List.cons.inj heq).1] at hdigit
    exact absurd hdigit (by decide)
  · next heq =>
    rw [(List.cons.inj heq).1] at hdigit
    exact absurd hdigit (by decide)
  · rfl

theorem readInteger_of_digits {s : String} (hne : s ≠ "") (h : ∀ c ∈ s.toList, isDigit c = true) :
    readInteger s =
      if digitLimit < (leadingDecimals s.toList).length then .error (.tooLong (leadingDecimals s.toList).length)
      else if (leadingDecimals s.toList).length = s.toList.length then
        .ok (ofDigits (leadingDecimals s.toList))
      else .error .malformed := by
  obtain ⟨c, rest, hcs⟩ := List.exists_cons_of_ne_nil (show s.toList ≠ [] by simpa using hne)
  rw [readInteger, hcs]
  rw [hcs] at h
  have hlength := length_leadingDecimals_le (c :: rest)
  rw [splitSign_trimChars h]
  dsimp only
  rw [digitsFrom_false h]
  by_cases hnone : leadingDecimals (c :: rest) = []
  · rw [if_pos hnone, hnone]
    simp
  · rw [if_neg hnone]
    dsimp only
    by_cases hmany : digitLimit < (leadingDecimals (c :: rest)).length
    · rw [if_pos hmany, if_pos hmany]
    · rw [if_neg hmany, if_neg hmany]
      by_cases hall : (leadingDecimals (c :: rest)).length = (c :: rest).length
      · rw [hall, List.drop_length]
        simp
      · have hbehind : ((c :: rest).drop (leadingDecimals (c :: rest)).length).isEmpty = false := by
          rw [List.isEmpty_eq_false_iff, ← List.length_pos_iff, List.length_drop]
          omega
        rw [if_neg hall, hbehind]
        rfl

end CommandShell.Number
