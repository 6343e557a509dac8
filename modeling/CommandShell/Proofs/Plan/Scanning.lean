import CommandShell.Plan.Reading
import CommandShell.Proofs.Text.Parts

/-!
# Operators of a scanned text

Scanning and searching a text agree on where its operators stand. A word never swallows an operator, so the first
`<`, `|` or `>>` that scanning finds is the first one in the text; the same holds of `>` in a text without `>>`, where
every `>` is an operator of its own (`head?_occurrences`). The stages of a pipeline stand between the `|` of its text
(`slicesBetween_pipes`).
-/

namespace CommandShell

namespace Operator

theorem ofChar?_eq_none_iff {c : Char} : ofChar? c = none ↔ c ≠ '|' ∧ c ≠ '<' ∧ c ≠ '>' := by
  unfold ofChar?
  repeat' split
  all_goals simp_all

/-- An operator begins a text when its character does, and for `>>` when two of them do. -/
theorem symbol_prefix_iff {op : Operator} {c : Char} {rest : List Char} :
    op.symbol.toList <+: c :: rest ↔
      if op = appendTo then c = '>' ∧ rest.head? = some '>' else ofChar? c = some op := by
  cases op
  case appendTo => cases rest <;> simp [symbol, eq_comm]
  all_goals
    simp only [symbol, ofChar?]
    by_cases h₁ : c = '|' <;> by_cases h₂ : c = '<' <;> by_cases h₃ : c = '>' <;> simp_all [eq_comm]

theorem symbol_of_ofChar? {op : Operator} {c : Char} (h : ofChar? c = some op) : op.symbol.toList = [c] := by
  unfold ofChar? at h
  repeat' split at h
  all_goals
    cases h
    all_goals simp_all [symbol]

theorem isBlank_of_ofChar? {op : Operator} {c : Char} (h : ofChar? c = some op) : Text.isBlank c = false := by
  have hs := symbol_of_ofChar? h
  cases op with
  | appendTo => simp [symbol] at hs
  | pipe | readFrom | writeTo =>
    simp only [symbol] at hs
    obtain rfl := List.singleton_inj.1 hs
    decide

/-- No operator begins with a character that writes none. -/
theorem not_symbol_prefix {c : Char} (h : ofChar? c = none) (op : Operator) (rest : List Char) :
    ¬ op.symbol.toList <+: c :: rest := by
  rw [symbol_prefix_iff, h]
  split
  · exact fun hc => (ofChar?_eq_none_iff.1 h).2.2 hc.1
  · simp

end Operator

namespace Token

@[simp] theorem occurrences_append (op : Operator) (ts us : List Token) :
    occurrences op (ts ++ us) = occurrences op ts ++ occurrences op us := by
  simp [occurrences]

@[simp] theorem occurrences_endWord (op : Operator) (stop : Nat) (word : List Char) :
    occurrences op (endWord stop word) = [] := by
  unfold endWord
  split <;> simp [occurrences]

theorem occurrences_cons_operator (op o : Operator) (start stop : Nat) (ts : List Token) :
    occurrences op (⟨.operator o, start, stop⟩ :: ts) =
      if o = op then (start, stop) :: occurrences op ts else occurrences op ts := by
  by_cases h : o = op <;> simp [occurrences, h]

/-- The places before and after the first occurrence of a pattern in a text that begins at `pos`. -/
def placeOf (pos : Nat) (pattern cs : List Char) : Option (Nat × Nat) :=
  (Text.cutAt? pattern cs).map fun (before, _) => (pos + before.length, pos + before.length + pattern.length)

private theorem placeOf_front {pos : Nat} {pattern rest : List Char} {c : Char} (h : pattern <+: c :: rest) :
    placeOf pos pattern (c :: rest) = some (pos, pos + pattern.length) := by
  have : pattern.isPrefixOf (c :: rest) = true := List.isPrefixOf_iff_prefix.2 h
  simp [placeOf, Text.cutAt?, this]

private theorem placeOf_cons {pos : Nat} {pattern rest : List Char} {c : Char} (h : ¬ pattern <+: c :: rest) :
    placeOf pos pattern (c :: rest) = placeOf (pos + 1) pattern rest := by
  have : ¬ pattern.isPrefixOf (c :: rest) = true := fun hp => h (List.isPrefixOf_iff_prefix.1 hp)
  cases hc : Text.cutAt? pattern rest <;> simp [placeOf, Text.cutAt?, this, hc]
  omega

/-- Scanning and searching find the same first occurrence of an operator. Of `>` this holds in texts without
`>>`, since scanning takes as many pairs as it can. -/
theorem head?_occurrences {op : Operator} (pos : Nat) (word cs : List Char)
    (h : op = .writeTo → ¬ ['>', '>'] <:+: cs) :
    (occurrences op (scanFrom pos word cs)).head? = placeOf pos op.symbol.toList cs := by
  fun_induction scanFrom pos word cs with
  | case1 pos word => cases op <;> simp [placeOf, Text.cutAt?, Operator.symbol]
  | case2 pos word rest ih =>
    -- A `>>` begins here. It is the first occurrence of itself, and no other operator begins with either `>`.
    have hne : op ≠ .writeTo := fun hop => h hop ⟨[], rest, rfl⟩
    rw [occurrences_append, occurrences_endWord, List.nil_append, occurrences_cons_operator]
    by_cases hop : op = .appendTo
    · subst hop
      rw [placeOf_front (by simp [Operator.symbol])]
      rfl
    · have hnot : ∀ r, ¬ op.symbol.toList <+: '>' :: r := by
        intro r hp
        rw [Operator.symbol_prefix_iff, if_neg hop] at hp
        exact hne (Option.some.inj hp).symm
      rw [placeOf_cons (hnot _), placeOf_cons (hnot _), if_neg (Ne.symm hop)]
      exact ih fun hop' => absurd hop' hne
  | case3 pos word c rest hpair o ho ih =>
    -- A single operator begins here, and it is no half of a `>>`.
    have hnp : ¬ (c = '>' ∧ rest.head? = some '>') := by
      rintro ⟨rfl, hr⟩
      obtain ⟨tail, rfl⟩ := List.head?_eq_some_iff.1 hr
      exact hpair tail rfl rfl
    rw [occurrences_append, occurrences_endWord, List.nil_append, occurrences_cons_operator]
    by_cases hop : o = op
    · subst hop
      rw [Operator.symbol_of_ofChar? ho, placeOf_front ⟨rest, rfl⟩, if_pos rfl]
      rfl
    · rw [placeOf_cons, if_neg hop]
      · exact ih fun hw hi => h hw (hi.trans (List.suffix_cons c rest).isInfix)
      · rw [Operator.symbol_prefix_iff]
        split
        · exact hnp
        · rw [ho]
          exact fun he => hop (Option.some.inj he)
  | case4 pos word c rest _ ho hb ih =>
    rw [occurrences_append, occurrences_endWord, List.nil_append,
      placeOf_cons (Operator.not_symbol_prefix ho op rest)]
    exact ih fun hw hi => h hw (hi.trans (List.suffix_cons c rest).isInfix)
  | case5 pos word c rest _ ho hb ih =>
    rw [placeOf_cons (Operator.not_symbol_prefix ho op rest)]
    exact ih fun hw hi => h hw (hi.trans (List.suffix_cons c rest).isInfix)

/-- The places of every occurrence of a character. -/
def placesOf (c : Char) (pos : Nat) : List Char → List (Nat × Nat)
  | [] => []
  | d :: rest => if d = c then (pos, pos + 1) :: placesOf c (pos + 1) rest else placesOf c (pos + 1) rest

/-- Every `|` of a text is an operator of its own. -/
theorem occurrences_pipe (pos : Nat) (word cs : List Char) :
    occurrences .pipe (scanFrom pos word cs) = placesOf '|' pos cs := by
  fun_induction scanFrom pos word cs with
  | case1 pos word => simp [placesOf]
  | case2 pos word rest ih => simp [placesOf, occurrences_cons_operator, ih]
  | case3 pos word c rest _ o ho ih =>
    have hc : c = '|' ↔ o = .pipe := by
      constructor
      · rintro rfl
        exact (Option.some.inj ho).symm
      · rintro rfl
        have := Operator.symbol_of_ofChar? ho
        simpa [Operator.symbol, eq_comm] using this
    rw [occurrences_append, occurrences_endWord, List.nil_append, occurrences_cons_operator, ih]
    simp only [placesOf, hc]
  | case4 pos word c rest _ ho hb ih =>
    have hc : c ≠ '|' := (Operator.ofChar?_eq_none_iff.1 ho).1
    simp [placesOf, hc, ih]
  | case5 pos word c rest _ ho hb ih =>
    have hc : c ≠ '|' := (Operator.ofChar?_eq_none_iff.1 ho).1
    simp [placesOf, hc, ih]

private theorem endWord_eq_nil_iff {stop : Nat} {word : List Char} : endWord stop word = [] ↔ word = [] := by
  cases word <;> simp [endWord]

/-- Scanning finds nothing in blanks, and something in every other text. -/
theorem scanFrom_eq_nil_iff (pos : Nat) (word cs : List Char) :
    scanFrom pos word cs = [] ↔ word = [] ∧ ∀ c ∈ cs, Text.isBlank c = true := by
  fun_induction scanFrom pos word cs with
  | case1 pos word => simp [endWord_eq_nil_iff]
  | case2 pos word rest ih =>
    have : Text.isBlank '>' = false := by decide
    simp [this]
  | case3 pos word c rest _ o ho ih => simp [Operator.isBlank_of_ofChar? ho]
  | case4 pos word c rest _ ho hb ih => simp [endWord_eq_nil_iff, hb, ih]
  | case5 pos word c rest _ ho hb ih => simp [hb, ih]

end Token

namespace Plan

/-- The texts between the places of a character are the parts into which it splits the text. -/
theorem slicesBetween_placesOf (sep : Char) (front cs part : List Char) (parts : List (List Char)) {start : Nat}
    (hstart : start ≤ front.length) (h : Text.splitAtChar sep cs = part :: parts) :
    slicesBetween (front ++ cs) start (Token.placesOf sep front.length cs) =
      String.ofList (front.drop start ++ part) :: parts.map String.ofList := by
  -- `front` is what has been passed already, and the part that is being read begins in it at `start`.
  induction cs generalizing front start part parts with
  | nil =>
    obtain ⟨rfl, rfl⟩ := List.cons.inj h
    simp [Token.placesOf, slicesBetween]
  | cons c rest ih =>
    obtain ⟨p, ps, hrest⟩ := List.exists_cons_of_ne_nil (Text.splitAtChar_ne_nil sep rest)
    have hfront : front ++ c :: rest = (front ++ [c]) ++ rest := by simp
    have hlen : front.length + 1 = (front ++ [c]).length := by simp
    by_cases hc : c = sep
    · subst hc
      rw [Text.splitAtChar_cons_self, hrest] at h
      obtain ⟨rfl, rfl⟩ := List.cons.inj h
      have hslice : slice (front ++ c :: rest) start front.length = String.ofList (front.drop start) := by
        simp [slice, List.drop_append_of_le_length hstart]
      have hnext := ih (front ++ [c]) p ps (Nat.le_refl _) hrest
      rw [← hfront, ← hlen, hlen, List.drop_length] at hnext
      simp only [Token.placesOf, if_true, slicesBetween, hslice]
      rw [hlen, hnext]
      simp
    · rw [Text.splitAtChar_cons_of_ne hc hrest] at h
      obtain ⟨rfl, rfl⟩ := List.cons.inj h
      simp only [Token.placesOf, hc, if_false]
      rw [hfront, hlen, ih (front ++ [c]) p ps (by simp; omega) hrest, List.drop_append_of_le_length hstart]
      simp

theorem slicesBetween_pipes (cs : List Char) :
    slicesBetween cs 0 (Token.occurrences .pipe (Token.scanFrom 0 [] cs)) =
      (Text.splitAtChar '|' cs).map String.ofList := by
  obtain ⟨part, parts, h⟩ := List.exists_cons_of_ne_nil (Text.splitAtChar_ne_nil '|' cs)
  rw [Token.occurrences_pipe, h]
  exact slicesBetween_placesOf '|' [] cs part parts (Nat.le_refl 0) h

end Plan

end CommandShell
