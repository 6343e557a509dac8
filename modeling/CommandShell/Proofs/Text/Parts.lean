import CommandShell.Text.Blank
import Mathlib.Data.List.Infix
import Mathlib.Data.List.TakeWhile

/-!
# Parts of a text

How a text falls into parts: at the first occurrence of a pattern (`cutAt?`), at every occurrence of one
character (`splitAtChar`), at its ends (`trimChars`) and at its blanks (`wordsOf`). The key facts: `cutAt?` finds
the first occurrence and nothing but that (`cutAt?_eq_some_iff`, `cutAt?_eq_none_iff`), a blank between two texts
separates their words (`wordsOf_append_blank`), and a word is a stretch of its text (`mem_wordsOf`).
-/

namespace CommandShell.Text

/-! ### The first occurrence of a pattern -/

/-- What stands before and after the first occurrence of a pattern. -/
def cutAt? (pattern : List Char) : List Char → Option (List Char × List Char)
  | [] => if pattern.isEmpty then some ([], []) else none
  | c :: rest =>
    if pattern.isPrefixOf (c :: rest) then some ([], (c :: rest).drop pattern.length)
    else (cutAt? pattern rest).map fun (before, after) => (c :: before, after)

/-- A pattern stands between two texts, and nowhere earlier. -/
structure CutAt (pattern cs before after : List Char) : Prop where
  eq : cs = before ++ pattern ++ after
  first : ∀ b a, cs = b ++ pattern ++ a → before.length ≤ b.length

theorem cutAt?_eq_none_iff {pattern cs : List Char} : cutAt? pattern cs = none ↔ ¬ pattern <:+: cs := by
  induction cs with
  | nil => simp [cutAt?]
  | cons c rest ih =>
    unfold cutAt?
    by_cases hp : pattern <+: c :: rest
    · have : pattern.isPrefixOf (c :: rest) = true := List.isPrefixOf_iff_prefix.2 hp
      simp [this, hp.isInfix]
    · have : ¬ pattern.isPrefixOf (c :: rest) = true := fun h => hp (List.isPrefixOf_iff_prefix.1 h)
      simp [this, ih, List.infix_cons_iff, hp]

private theorem cutAt?_sound {pattern cs before after : List Char} (h : cutAt? pattern cs = some (before, after)) :
    CutAt pattern cs before after := by
  induction cs generalizing before with
  | nil =>
    unfold cutAt? at h
    split at h
    · next hp =>
      obtain ⟨rfl, rfl⟩ := Prod.mk.inj (Option.some.inj h)
      simp only [List.isEmpty_iff] at hp
      exact ⟨by simp [hp], fun b a _ => by simp⟩
    · cases h
  | cons c rest ih =>
    unfold cutAt? at h
    split at h
    · next hp =>
      obtain ⟨rfl, rfl⟩ := Prod.mk.inj (Option.some.inj h)
      obtain ⟨a, ha⟩ := List.isPrefixOf_iff_prefix.1 hp
      exact ⟨by simp [← ha], fun b a _ => by simp⟩
    · next hp =>
      obtain ⟨⟨b', a'⟩, hc, he⟩ := Option.map_eq_some_iff.1 h
      obtain ⟨rfl, rfl⟩ := Prod.mk.inj he
      have hi := ih hc
      refine ⟨by simp [hi.eq], fun b a hb => ?_⟩
      cases b with
      | nil => exact absurd (List.isPrefixOf_iff_prefix.2 ⟨a, by simpa using hb.symm⟩) hp
      | cons d b =>
        have hb' : rest = b ++ pattern ++ a := (List.cons.inj hb).2
        have := hi.first b a hb'
        simpa using this

/-- `cutAt?` finds the first occurrence. -/
theorem cutAt?_eq_some_iff {pattern cs before after : List Char} :
    cutAt? pattern cs = some (before, after) ↔ CutAt pattern cs before after := by
  constructor
  · exact cutAt?_sound
  · intro h
    cases hc : cutAt? pattern cs with
    | none => exact absurd ⟨before, after, h.eq.symm⟩ (cutAt?_eq_none_iff.1 hc)
    | some found =>
      obtain ⟨b, a⟩ := found
      have hs := cutAt?_sound hc
      have hlen : b.length = before.length := Nat.le_antisymm (hs.first _ _ h.eq) (h.first _ _ hs.eq)
      have he : b ++ pattern ++ a = before ++ pattern ++ after := hs.eq.symm.trans h.eq
      simp only [List.append_assoc] at he
      obtain ⟨rfl, hrest⟩ := List.append_inj he hlen
      rw [List.append_cancel_left hrest]

theorem cutAt?_singleton_eq_none_iff {c : Char} {cs : List Char} : cutAt? [c] cs = none ↔ c ∉ cs := by
  rw [cutAt?_eq_none_iff, List.singleton_infix_iff]

theorem CutAt.notWithin {pattern cs before after : List Char} (h : CutAt pattern cs before after)
    (hne : pattern ≠ []) : ¬ pattern <:+: before := by
  rintro ⟨b, a, rfl⟩
  have hfirst := h.first b (a ++ pattern ++ after) (by simp [h.eq])
  have hpos := List.length_pos_of_ne_nil hne
  rw [List.length_append, List.length_append] at hfirst
  omega

private theorem front_of_pattern {pattern front back : List Char} {d : Char} (hd : d ∉ pattern)
    (h : pattern <+: front ++ d :: back) : pattern <+: front := by
  rcases List.prefix_or_prefix_of_prefix h (List.prefix_append front (d :: back)) with hp | ⟨r, rfl⟩
  · exact hp
  · cases r with
    | nil => simp
    | cons c r =>
      obtain ⟨rfl, -⟩ := List.cons_prefix_cons.1 ((List.prefix_append_right_inj front).1 h)
      simp at hd

/-- A pattern within two texts around a character that it does not hold lies within one of them. -/
theorem infix_of_infix_append_cons {pattern front back : List Char} {d : Char} (hne : pattern ≠ [])
    (hd : d ∉ pattern) (h : pattern <:+: front ++ d :: back) : pattern <:+: front ∨ pattern <:+: back := by
  induction front with
  | nil =>
    rcases List.infix_cons_iff.1 h with hp | hi
    · obtain ⟨c, rest, rfl⟩ := List.exists_cons_of_ne_nil hne
      obtain ⟨rfl, -⟩ := List.cons_prefix_cons.1 hp
      simp at hd
    · exact .inr hi
  | cons c front ih =>
    rcases List.infix_cons_iff.1 h with hp | hi
    · exact .inl (front_of_pattern hd hp).isInfix
    · exact (ih hi).imp_left fun hf => hf.trans (List.suffix_cons c front).isInfix

/-- A pattern that stands after a character which it does not hold, and not before, stands there first. -/
theorem cutAt_append_cons {pattern front : List Char} {d : Char} (hd : d ∉ pattern) (h : ¬ pattern <:+: front)
    (after : List Char) : CutAt pattern (front ++ d :: (pattern ++ after)) (front ++ [d]) after := by
  refine ⟨by simp, fun b a he => ?_⟩
  by_contra hlt
  simp only [List.length_append, List.length_cons, List.length_nil, not_le] at hlt
  have hb : b <+: front ++ d :: (pattern ++ after) := ⟨pattern ++ a, by rw [he]; simp⟩
  obtain ⟨r, rfl⟩ := List.prefix_of_prefix_length_le hb (List.prefix_append _ _) (by omega)
  have hr : r ++ d :: (pattern ++ after) = pattern ++ a := by simpa using he
  exact h ((front_of_pattern hd ⟨a, hr.symm⟩).isInfix.trans ⟨b, [], by simp⟩)

/-- What comes after a text does not move the first occurrence of a pattern in it. -/
theorem CutAt.append {pattern cs before after : List Char} (h : CutAt pattern cs before after) (back : List Char) :
    CutAt pattern (cs ++ back) before (after ++ back) := by
  refine ⟨by simp [h.eq], fun b a he => ?_⟩
  by_contra hlt
  have hlength : cs.length = before.length + pattern.length + after.length := by simp [h.eq]; omega
  have hb : b ++ pattern <+: cs ++ back := ⟨a, he.symm⟩
  have hshort : (b ++ pattern).length ≤ cs.length := by
    rw [List.length_append]
    omega
  obtain ⟨r, hr⟩ := List.prefix_of_prefix_length_le hb (List.prefix_append cs back) hshort
  exact hlt (h.first b r hr.symm)

/-! ### Splitting at a character -/

theorem splitAtChar_ne_nil (sep : Char) (cs : List Char) : splitAtChar sep cs ≠ [] := by
  induction cs with
  | nil => simp [splitAtChar]
  | cons c rest ih =>
    unfold splitAtChar
    split
    · simp
    · split <;> simp

theorem splitAtChar_cons_self (sep : Char) (rest : List Char) :
    splitAtChar sep (sep :: rest) = [] :: splitAtChar sep rest := by
  cases h : splitAtChar sep rest with
  | nil => exact absurd h (splitAtChar_ne_nil sep rest)
  | cons part parts => simp [splitAtChar, h]

theorem splitAtChar_cons_of_ne {sep c : Char} (hc : c ≠ sep) {rest part : List Char} {parts : List (List Char)}
    (h : splitAtChar sep rest = part :: parts) : splitAtChar sep (c :: rest) = (c :: part) :: parts := by
  simp [splitAtChar, h, hc]

/-- A text without the character is one part. -/
theorem splitAtChar_of_notMem {sep : Char} {cs : List Char} (h : sep ∉ cs) : splitAtChar sep cs = [cs] := by
  induction cs with
  | nil => rfl
  | cons c rest ih =>
    simp only [List.mem_cons, not_or] at h
    exact splitAtChar_cons_of_ne (Ne.symm h.1) (ih h.2)

/-- The character between two texts separates their parts. -/
theorem splitAtChar_append_cons (sep : Char) (cs rest : List Char) :
    splitAtChar sep (cs ++ sep :: rest) = splitAtChar sep cs ++ splitAtChar sep rest := by
  induction cs with
  | nil => exact splitAtChar_cons_self sep rest
  | cons c cs ih =>
    by_cases hc : c = sep
    · subst hc
      rw [List.cons_append, splitAtChar_cons_self, splitAtChar_cons_self, ih, List.cons_append]
    · obtain ⟨part, parts, hparts⟩ := List.exists_cons_of_ne_nil (splitAtChar_ne_nil sep cs)
      rw [hparts, List.cons_append] at ih
      rw [List.cons_append, splitAtChar_cons_of_ne hc ih, splitAtChar_cons_of_ne hc hparts, List.cons_append]

/-- A first part without the character is split off. -/
theorem splitAtChar_append {sep : Char} {cs : List Char} (h : sep ∉ cs) (rest : List Char) :
    splitAtChar sep (cs ++ sep :: rest) = cs :: splitAtChar sep rest := by
  rw [splitAtChar_append_cons, splitAtChar_of_notMem h, List.singleton_append]

/-- A text is either one part, or its first part ends at the first occurrence of the character. -/
theorem splitAtChar_cases (sep : Char) (cs : List Char) :
    (sep ∉ cs ∧ splitAtChar sep cs = [cs]) ∨
      ∃ before after, cs = before ++ sep :: after ∧ sep ∉ before ∧
        splitAtChar sep cs = before :: splitAtChar sep after := by
  by_cases h : sep ∈ cs
  · obtain ⟨before, after, rfl, hn⟩ := List.eq_append_cons_of_mem h
    exact .inr ⟨before, after, rfl, hn, splitAtChar_append hn after⟩
  · exact .inl ⟨h, splitAtChar_of_notMem h⟩

/-- The parts are stretches of the text, without the character. -/
theorem mem_splitAtChar {sep : Char} {cs part : List Char} (h : part ∈ splitAtChar sep cs) :
    part <:+: cs ∧ sep ∉ part := by
  rcases splitAtChar_cases sep cs with ⟨hn, he⟩ | ⟨before, after, hcs, hn, he⟩
  · rw [he, List.mem_singleton] at h
    subst h
    exact ⟨List.infix_rfl, hn⟩
  · rw [he, List.mem_cons] at h
    rcases h with rfl | h
    · exact ⟨⟨[], sep :: after, by simp [hcs]⟩, hn⟩
    · have hlt : after.length < cs.length := by simp [hcs]; omega
      obtain ⟨hi, hp⟩ := mem_splitAtChar h
      have hsuf : after <:+: cs := ⟨before ++ [sep], [], by simp [hcs]⟩
      exact ⟨hi.trans hsuf, hp⟩
termination_by cs.length

/-- Every other character stands in a part. -/
theorem exists_mem_splitAtChar {sep c : Char} (hne : c ≠ sep) {cs : List Char} (h : c ∈ cs) :
    ∃ part ∈ splitAtChar sep cs, c ∈ part := by
  rcases splitAtChar_cases sep cs with ⟨-, he⟩ | ⟨before, after, hcs, -, he⟩
  · exact ⟨cs, by simp [he], h⟩
  · rw [he]
    rw [hcs, List.mem_append, List.mem_cons] at h
    rcases h with h | rfl | h
    · exact ⟨before, List.mem_cons_self .., h⟩
    · exact absurd rfl hne
    · have hlt : after.length < cs.length := by simp [hcs]; omega
      obtain ⟨part, hpart, hc⟩ := exists_mem_splitAtChar hne h
      exact ⟨part, List.mem_cons_of_mem _ hpart, hc⟩
termination_by cs.length

/-- There are at least two parts when the character occurs. -/
theorem splitAtChar_of_mem {sep : Char} {cs : List Char} (h : sep ∈ cs) :
    ∃ first second others, splitAtChar sep cs = first :: second :: others := by
  rcases splitAtChar_cases sep cs with ⟨hn, -⟩ | ⟨before, after, -, -, he⟩
  · exact absurd h hn
  · cases ha : splitAtChar sep after with
    | nil => exact absurd ha (splitAtChar_ne_nil sep after)
    | cons second others => exact ⟨before, second, others, by rw [he, ha]⟩

/-- What comes after a text without the character belongs to its last part. -/
theorem exists_splitAtChar_append {sep : Char} {back : List Char} (hback : sep ∉ back) (cs : List Char) :
    ∃ parts last, splitAtChar sep cs = parts ++ [last] ∧ splitAtChar sep (cs ++ back) = parts ++ [last ++ back] := by
  rcases splitAtChar_cases sep cs with ⟨hn, he⟩ | ⟨before, after, hcs, hn, he⟩
  · have hnone : sep ∉ cs ++ back := by simp [hn, hback]
    exact ⟨[], cs, he, splitAtChar_of_notMem hnone⟩
  · have hlt : after.length < cs.length := by simp [hcs]; omega
    obtain ⟨parts, last, hparts, happend⟩ := exists_splitAtChar_append hback after
    refine ⟨before :: parts, last, by rw [he, hparts, List.cons_append], ?_⟩
    have heq : cs ++ back = before ++ sep :: (after ++ back) := by simp [hcs]
    rw [heq, splitAtChar_append hn, happend, List.cons_append]
termination_by cs.length

/-! ### The ends of a text -/

/-- Neither the first nor the last character is a blank. -/
def Trimmed (cs : List Char) : Prop :=
  (∀ c ∈ cs.head?, isBlank c = false) ∧ ∀ c ∈ cs.getLast?, isBlank c = false

private theorem dropWhile_blank_eq_nil_iff {cs : List Char} :
    cs.dropWhile isBlank = [] ↔ ∀ c ∈ cs, isBlank c = true := List.dropWhile_eq_nil_iff

private theorem head?_dropWhile_blank (cs : List Char) :
    ∀ c ∈ (cs.dropWhile isBlank).head?, isBlank c = false := by
  intro c hc
  have := List.head?_dropWhile_not isBlank cs
  rw [Option.mem_def.1 hc] at this
  simpa using this

theorem trimChars_eq_nil_iff {cs : List Char} : trimChars cs = [] ↔ ∀ c ∈ cs, isBlank c = true := by
  unfold trimChars trimBy
  rw [List.reverse_eq_nil_iff, dropWhile_blank_eq_nil_iff]
  simp only [List.mem_reverse]
  constructor
  · intro h c hc
    by_cases hd : cs.dropWhile isBlank = []
    · exact dropWhile_blank_eq_nil_iff.1 hd c hc
    · obtain ⟨d, rest, hd'⟩ := List.exists_cons_of_ne_nil hd
      have hf := head?_dropWhile_blank cs d (by simp [hd'])
      rw [h d (by simp [hd'])] at hf
      cases hf
  · intro h c hc
    exact h c ((List.dropWhile_suffix isBlank).subset hc)

theorem trimChars_within (cs : List Char) : trimChars cs <:+: cs := by
  unfold trimChars trimBy
  have h1 : (cs.dropWhile isBlank).reverse.dropWhile isBlank <:+ (cs.dropWhile isBlank).reverse :=
    List.dropWhile_suffix isBlank
  have h2 := List.reverse_prefix.2 h1
  rw [List.reverse_reverse] at h2
  exact h2.isInfix.trans (List.dropWhile_suffix isBlank).isInfix

/-- What trimming takes away are the blanks before and after. -/
theorem exists_eq_trimChars_append (cs : List Char) :
    ∃ front back, cs = front ++ trimChars cs ++ back ∧ (∀ c ∈ front, isBlank c = true) ∧
      ∀ c ∈ back, isBlank c = true := by
  have hfront := List.takeWhile_append_dropWhile (p := isBlank) (l := cs)
  have hback := List.takeWhile_append_dropWhile (p := isBlank) (l := (cs.dropWhile isBlank).reverse)
  refine ⟨cs.takeWhile isBlank, ((cs.dropWhile isBlank).reverse.takeWhile isBlank).reverse, ?_, ?_, ?_⟩
  · unfold trimChars trimBy
    rw [List.append_assoc, ← List.reverse_append, hback, List.reverse_reverse, hfront]
  · intro c hc
    exact List.mem_takeWhile_imp hc
  · intro c hc
    exact List.mem_takeWhile_imp (List.mem_reverse.1 hc)

/-- A class without blanks has the same characters in a text before and after trimming, in the same order. -/
theorem filter_trimChars {p : Char → Bool} (h : ∀ c, isBlank c = true → p c = false) (cs : List Char) :
    (trimChars cs).filter p = cs.filter p := by
  obtain ⟨front, back, hcs, hfront, hback⟩ := exists_eq_trimChars_append cs
  have hf : front.filter p = [] := List.filter_eq_nil_iff.2 fun c hc => by simp [h c (hfront c hc)]
  have hb : back.filter p = [] := List.filter_eq_nil_iff.2 fun c hc => by simp [h c (hback c hc)]
  conv_rhs => rw [hcs]
  rw [List.filter_append, List.filter_append, hf, hb, List.nil_append, List.append_nil]

/-- Trimming takes away no character but blanks. -/
theorem mem_trimChars_iff {cs : List Char} {c : Char} (h : isBlank c = false) : c ∈ trimChars cs ↔ c ∈ cs := by
  have hkept : (trimChars cs).filter (!isBlank ·) = cs.filter (!isBlank ·) :=
    filter_trimChars (fun d hd => by simp [hd]) cs
  have hmem : ∀ ds : List Char, c ∈ ds.filter (!isBlank ·) ↔ c ∈ ds := by simp [List.mem_filter, h]
  rw [← hmem, hkept, hmem]

/-- What trimming leaves is trimmed. -/
theorem trimmed_trimChars (cs : List Char) : Trimmed (trimChars cs) := by
  constructor
  · intro c hc
    unfold trimChars trimBy at hc
    have h1 : (cs.dropWhile isBlank).reverse.dropWhile isBlank <:+ (cs.dropWhile isBlank).reverse :=
      List.dropWhile_suffix isBlank
    have h2 := List.reverse_prefix.2 h1
    rw [List.reverse_reverse] at h2
    obtain ⟨rest, hrest⟩ := h2
    refine head?_dropWhile_blank cs c ?_
    rw [← hrest, Option.mem_def, List.head?_append, Option.mem_def.1 hc]
    rfl
  · intro c hc
    unfold trimChars trimBy at hc
    rw [List.getLast?_reverse] at hc
    exact head?_dropWhile_blank _ c hc

private theorem dropWhile_blank_of_head? {cs : List Char} (h : ∀ c ∈ cs.head?, isBlank c = false) :
    cs.dropWhile isBlank = cs := by
  cases cs with
  | nil => rfl
  | cons c rest => simp [h c (by simp)]

/-- Blanks before and after a trimmed text are what trimming takes away. -/
theorem trimChars_append {front cs back : List Char} (hf : ∀ c ∈ front, isBlank c = true) (h : Trimmed cs)
    (hb : ∀ c ∈ back, isBlank c = true) : trimChars (front ++ cs ++ back) = cs := by
  cases hcs : cs with
  | nil =>
    rw [trimChars_eq_nil_iff]
    intro c hc
    simp only [List.append_nil, List.mem_append] at hc
    exact hc.elim (hf c) (hb c)
  | cons d rest =>
    rw [← hcs]
    have hne : cs ≠ [] := by simp [hcs]
    have hhead : (cs ++ back).dropWhile isBlank = cs ++ back := by
      apply dropWhile_blank_of_head?
      intro c hc
      rw [List.head?_append_of_ne_nil _ hne] at hc
      exact h.1 c hc
    have hlast : cs.reverse.dropWhile isBlank = cs.reverse := by
      apply dropWhile_blank_of_head?
      intro c hc
      rw [List.head?_reverse] at hc
      exact h.2 c hc
    unfold trimChars trimBy
    rw [List.append_assoc, List.dropWhile_append_of_pos hf, hhead, List.reverse_append,
      List.dropWhile_append_of_pos (fun c hc => hb c (List.mem_reverse.1 hc)), hlast, List.reverse_reverse]

/-- A trimmed text stays as it is. -/
theorem trimChars_of_trimmed {cs : List Char} (h : Trimmed cs) : trimChars cs = cs := by
  have hnil : ∀ c ∈ ([] : List Char), isBlank c = true := by simp
  have := trimChars_append hnil h hnil
  simpa using this

theorem toList_trim (s : String) : (trim s).toList = trimChars s.toList := String.toList_ofList

theorem trim_of_trimmed {s : String} (h : Trimmed s.toList) : trim s = s := by
  rw [trim, trimChars_of_trimmed h, String.ofList_toList]

/-- Trimming a text that ends in no blank takes away what is before it. -/
theorem exists_eq_append_trimChars {cs : List Char} (h : ∀ c ∈ cs.getLast?, isBlank c = false) :
    ∃ front, cs = front ++ trimChars cs ∧ ∀ c ∈ front, isBlank c = true := by
  obtain ⟨front, back, hcs, hfront, hback⟩ := exists_eq_trimChars_append cs
  have hnil : back = [] := by
    by_contra hne
    have hlast : back.getLast hne ∈ cs.getLast? := by
      rw [hcs, List.getLast?_append_of_ne_nil _ hne, List.getLast?_eq_getLast_of_ne_nil hne]
      rfl
    have hblank := hback _ (List.getLast_mem hne)
    rw [h _ hlast] at hblank
    cases hblank
  rw [hnil, List.append_nil] at hcs
  exact ⟨front, hcs, hfront⟩

/-- Two trimmed texts stay trimmed with anything between them. -/
theorem Trimmed.append {front back : List Char} (hf : Trimmed front) (hb : Trimmed back) (hfne : front ≠ [])
    (hbne : back ≠ []) (middle : List Char) : Trimmed (front ++ (middle ++ back)) := by
  constructor
  · intro c hc
    rw [List.head?_append_of_ne_nil _ hfne] at hc
    exact hf.1 c hc
  · intro c hc
    rw [← List.append_assoc, List.getLast?_append_of_ne_nil _ hbne] at hc
    exact hb.2 c hc

/-! ### Words -/

/-- A word has characters, and none of them is a blank. -/
def IsWord (w : List Char) : Prop := w ≠ [] ∧ ∀ c ∈ w, isBlank c = false

private theorem wordsAux_append_blank (word cs rest : List Char) {d : Char} (hd : isBlank d = true) :
    wordsAux word (cs ++ d :: rest) = wordsAux word cs ++ wordsOf rest := by
  induction cs generalizing word with
  | nil => cases word <;> simp [wordsAux, wordsOf, hd]
  | cons c cs ih =>
    simp only [List.cons_append, wordsAux]
    by_cases hc : isBlank c
    · cases word <;> simp [hc, ih]
    · simp [hc, ih]

/-- A blank between two texts separates their words. -/
theorem wordsOf_append_blank (cs rest : List Char) {d : Char} (hd : isBlank d = true) :
    wordsOf (cs ++ d :: rest) = wordsOf cs ++ wordsOf rest := wordsAux_append_blank [] cs rest hd

private theorem wordsAux_of_word (word : List Char) {cs : List Char} (h : ∀ c ∈ cs, isBlank c = false)
    (hne : word.reverse ++ cs ≠ []) : wordsAux word cs = [word.reverse ++ cs] := by
  induction cs generalizing word with
  | nil =>
    have : word ≠ [] := by simpa using hne
    simp [wordsAux, this]
  | cons c rest ih =>
    have hc : isBlank c = false := h c (by simp)
    have := ih (c :: word) (fun d hd => h d (by simp [hd])) (by simp)
    simpa [wordsAux, hc] using this

theorem wordsOf_of_isWord {w : List Char} (h : IsWord w) : wordsOf w = [w] := by
  have := wordsAux_of_word [] h.2 (by simpa using h.1)
  simpa [wordsOf] using this

private theorem mem_wordsAux (word : List Char) {cs w : List Char} (hword : ∀ c ∈ word, isBlank c = false)
    (h : w ∈ wordsAux word cs) : IsWord w ∧ w <:+: word.reverse ++ cs := by
  induction cs generalizing word with
  | nil =>
    unfold wordsAux at h
    split at h
    · cases h
    · next hne =>
      rw [List.mem_singleton] at h
      subst h
      refine ⟨⟨by simpa using hne, fun c hc => hword c (List.mem_reverse.1 hc)⟩, by simp⟩
  | cons c rest ih =>
    unfold wordsAux at h
    by_cases hc : isBlank c
    · have hrest : ∀ {v : List Char}, w ∈ wordsAux [] rest → IsWord w ∧ w <:+: v ++ c :: rest := by
        intro v hw
        obtain ⟨hi, hx⟩ := ih [] (by simp) hw
        refine ⟨hi, hx.trans ⟨v ++ [c], [], by simp⟩⟩
      simp only [hc, if_true] at h
      split at h
      · exact hrest h
      · next hne =>
        rcases List.mem_cons.1 h with rfl | hw
        · exact ⟨⟨by simpa using hne, fun d hd => hword d (List.mem_reverse.1 hd)⟩, ⟨[], c :: rest, by simp⟩⟩
        · exact hrest hw
    · simp only [hc] at h
      have := ih (c :: word) (by simpa [hc] using hword) h
      simpa using this

/-- A word of a text is a stretch of it, with characters and without blanks. -/
theorem mem_wordsOf {cs w : List Char} (h : w ∈ wordsOf cs) : IsWord w ∧ w <:+: cs := by
  have := mem_wordsAux [] (by simp) h
  simpa using this

private theorem wordsAux_ne_nil {word : List Char} (h : word ≠ []) (cs : List Char) : wordsAux word cs ≠ [] := by
  induction cs generalizing word with
  | nil => simp [wordsAux, h]
  | cons c rest ih =>
    unfold wordsAux
    split
    · simp [h]
    · exact ih (by simp)

/-- A text without words is blank. -/
theorem wordsOf_eq_nil_iff {cs : List Char} : wordsOf cs = [] ↔ ∀ c ∈ cs, isBlank c = true := by
  induction cs with
  | nil => simp [wordsOf, wordsAux]
  | cons c rest ih =>
    by_cases hc : isBlank c
    · simpa [wordsOf, wordsAux, hc] using ih
    · simp [wordsOf, wordsAux, hc, wordsAux_ne_nil]

/-- Blanks around a text make no words. -/
theorem wordsOf_trimChars (cs : List Char) : wordsOf (trimChars cs) = wordsOf cs := by
  obtain ⟨front, back, hcs, hfront, hback⟩ := exists_eq_trimChars_append cs
  have hleft : ∀ rest, wordsOf (front ++ rest) = wordsOf rest := by
    intro rest
    clear hcs
    induction front with
    | nil => rfl
    | cons d front ih =>
      obtain ⟨hd, hfront⟩ := List.forall_mem_cons.1 hfront
      rw [← ih hfront]
      simp [wordsOf, wordsAux, hd]
  have hright : ∀ cs, wordsOf (cs ++ back) = wordsOf cs := by
    intro cs
    cases back with
    | nil => rw [List.append_nil]
    | cons d rest =>
      obtain ⟨hd, hrest⟩ := List.forall_mem_cons.1 hback
      rw [wordsOf_append_blank cs rest hd, wordsOf_eq_nil_iff.2 hrest, List.append_nil]
  conv_rhs => rw [hcs]
  rw [List.append_assoc, hleft, hright]

theorem IsWord.trimmed {w : List Char} (h : IsWord w) : Trimmed w :=
  ⟨fun c hc => h.2 c (List.mem_of_head? hc), fun c hc => h.2 c (List.mem_of_getLast? hc)⟩

theorem toList_spaced (parts : List String) :
    (spaced parts).toList = List.intercalate [' '] (parts.map String.toList) := String.toList_intercalate

/-- Words joined by single spaces are the words of the text. -/
theorem wordsOf_intercalate {ws : List (List Char)} (h : ∀ w ∈ ws, IsWord w) :
    wordsOf (List.intercalate [' '] ws) = ws := by
  induction ws with
  | nil => rfl
  | cons w ws ih =>
    have hw := wordsOf_of_isWord (h w (by simp))
    cases ws with
    | nil => rw [List.intercalate_singleton, hw]
    | cons v ws =>
      have hblank : isBlank ' ' = true := by decide
      rw [List.intercalate_cons_cons, List.append_assoc, List.singleton_append, wordsOf_append_blank _ _ hblank, hw,
        ih fun u hu => h u (List.mem_cons_of_mem _ hu)]
      rfl

/-- Words joined by single spaces have no blank at their ends, and there is at least one character. -/
theorem trimmed_intercalate {ws : List (List Char)} (sep : List Char) (h : ∀ w ∈ ws, Trimmed w ∧ w ≠ [])
    (hne : ws ≠ []) : Trimmed (List.intercalate sep ws) ∧ List.intercalate sep ws ≠ [] := by
  induction ws with
  | nil => exact absurd rfl hne
  | cons w ws ih =>
    obtain ⟨hw, hwne⟩ := h w (by simp)
    cases ws with
    | nil =>
      rw [List.intercalate_singleton]
      exact ⟨hw, hwne⟩
    | cons v ws =>
      obtain ⟨ht, htne⟩ := ih (fun u hu => h u (List.mem_cons_of_mem _ hu)) (by simp)
      rw [List.intercalate_cons_cons, List.append_assoc]
      exact ⟨hw.append ht hwne htne sep, by simp [hwne]⟩

/-- A character of joined texts stands in one of them, or in what joins them. -/
theorem mem_of_mem_intercalate {ws : List (List Char)} {sep : List Char} {c : Char}
    (h : c ∈ List.intercalate sep ws) : c ∈ sep ∨ ∃ w ∈ ws, c ∈ w := by
  induction ws with
  | nil => simp at h
  | cons w ws ih =>
    cases ws with
    | nil =>
      rw [List.intercalate_singleton] at h
      exact .inr ⟨w, by simp, h⟩
    | cons v ws =>
      rw [List.intercalate_cons_cons, List.mem_append, List.mem_append] at h
      rcases h with (h | h) | h
      · exact .inr ⟨w, by simp, h⟩
      · exact .inl h
      · exact (ih h).imp_right fun ⟨u, hu, hc⟩ => ⟨u, List.mem_cons_of_mem _ hu, hc⟩

theorem mem_intercalate_of_mem {ws : List (List Char)} (sep : List Char) {w : List Char} (hw : w ∈ ws) {c : Char}
    (hc : c ∈ w) : c ∈ List.intercalate sep ws := by
  induction ws with
  | nil => simp at hw
  | cons v ws ih =>
    cases ws with
    | nil =>
      obtain rfl := List.mem_singleton.1 hw
      rwa [List.intercalate_singleton]
    | cons u ws =>
      rw [List.intercalate_cons_cons, List.mem_append, List.mem_append]
      rcases List.mem_cons.1 hw with rfl | hw
      · exact .inl (.inl hc)
      · exact .inr (ih hw)

/-- A pattern without a space in words joined by spaces lies within one of them. -/
theorem infix_of_infix_intercalate {ws : List (List Char)} {pattern : List Char} (hne : pattern ≠ [])
    (hd : ' ' ∉ pattern) (h : pattern <:+: List.intercalate [' '] ws) : ∃ w ∈ ws, pattern <:+: w := by
  induction ws with
  | nil => exact absurd (List.infix_nil.1 h) hne
  | cons w ws ih =>
    cases ws with
    | nil =>
      rw [List.intercalate_singleton] at h
      exact ⟨w, by simp, h⟩
    | cons v ws =>
      rw [List.intercalate_cons_cons, List.append_assoc] at h
      rcases infix_of_infix_append_cons hne hd h with hw | hr
      · exact ⟨w, by simp, hw⟩
      · obtain ⟨u, hu, hi⟩ := ih hr
        exact ⟨u, List.mem_cons_of_mem _ hu, hi⟩

end CommandShell.Text
