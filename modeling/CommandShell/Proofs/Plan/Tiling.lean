import CommandShell.Proofs.Plan.Grammar

/-!
# Tokens tile their text

Scanning finds the tokens of a text by longest match. That is said of any list of tokens by `Token.Munched`: its tokens
stand in the text, one after another, with nothing but blanks between them; a word is not cut in two, and neither is
`>>`. The key fact is that a text has one list of that kind and no other, which scanning finds
(`Token.munched_iff_scan`). For the proof such a list is read from left to right as a tiling of the text: blanks, a
token, and a tiling of the rest (`Token.Tiles`).
-/

namespace CommandShell.Token

def IsWord (t : Token) : Prop := ∃ w, t.lexeme = .word w

/-- The token takes up a position. -/
def Covers (t : Token) (n : Nat) : Prop := t.start ≤ n ∧ n < t.stop

/-- Two tokens side by side that longest match does not leave: two words, or a `>` and another `>` after it. -/
def Clash (t u : Token) : Prop :=
  t.stop = u.start ∧ (t.IsWord ∧ u.IsWord ∨ t.lexeme = .operator .writeTo ∧ u.text.toList.head? = some '>')

/-- The tokens of a text that begins at `pos`, by longest match. -/
structure Munched (pos : Nat) (cs : List Char) (ts : List Token) : Prop where
  within : ∀ t ∈ ts, pos ≤ t.start ∧ t.start < t.stop ∧ t.stop ≤ pos + cs.length
  text : ∀ t ∈ ts, t.text.toList = (cs.drop (t.start - pos)).take (t.stop - t.start)
  ordered : ts.Pairwise fun t u => t.stop ≤ u.start
  /-- What no token covers is blank. -/
  blank : ∀ n c, cs[n]? = some c → (∀ t ∈ ts, ¬ t.Covers (pos + n)) → Text.isBlank c = true
  words : ∀ t ∈ ts, ∀ w, t.lexeme = .word w → Plan.IsPlainWord w
  apart : ∀ t ∈ ts, ∀ u ∈ ts, ¬ t.Clash u

/-- If the token is a word, it is one that can be typed. -/
def Sound (t : Token) : Prop := ∀ w, t.lexeme = .word w → Plan.IsPlainWord w

/-- Blanks, a token, and a tiling of what comes after it. -/
inductive Tiles : Nat → List Char → List Token → Prop
  | nil {pos : Nat} {cs : List Char} (h : ∀ c ∈ cs, Text.isBlank c = true) : Tiles pos cs []
  | cons {pos : Nat} {cs gap rest : List Char} {t : Token} {ts : List Token}
      (hcs : cs = gap ++ (t.text.toList ++ rest)) (hgap : ∀ c ∈ gap, Text.isBlank c = true)
      (hstart : t.start = pos + gap.length) (hstop : t.stop = t.start + t.text.toList.length) (hsound : t.Sound)
      (hnext : ∀ u ∈ ts.head?, ¬ t.Clash u) (h : Tiles t.stop rest ts) : Tiles pos cs (t :: ts)

/-! ### The characters of one token -/

private theorem ofChar?_of_isPlainWord {w : String} (h : Plan.IsPlainWord w) :
    ∀ c ∈ w.toList, Operator.ofChar? c = none := by
  intro c hc
  rw [Operator.ofChar?_eq_none_iff]
  refine ⟨?_, ?_, ?_⟩
  · rintro rfl; exact h.2 (.inr (.inr hc))
  · rintro rfl; exact h.2 (.inl hc)
  · rintro rfl; exact h.2 (.inr (.inl hc))

private theorem isPlainWord_of_forall {w : String} (hne : w.toList ≠ [])
    (h : ∀ c ∈ w.toList, Text.isBlank c = false ∧ Operator.ofChar? c = none) : Plan.IsPlainWord w := by
  refine ⟨⟨hne, fun c hc => (h c hc).1⟩, ?_⟩
  rintro (hc | hc | hc) <;> simpa [Operator.ofChar?] using (h _ hc).2

private theorem ofChar?_of_symbol (op : Operator) : ∀ c ∈ op.symbol.toList, Operator.ofChar? c ≠ none := by
  cases op <;> simp [Operator.symbol, Operator.ofChar?]

theorem Sound.text_ne_nil {t : Token} (h : t.Sound) : t.text.toList ≠ [] := by
  obtain ⟨⟨w⟩ | ⟨op⟩, start, stop⟩ := t
  · exact (h w rfl).1.1
  · cases op <;> simp [text, Operator.symbol]

theorem Sound.not_blank {t : Token} (h : t.Sound) : ∀ c ∈ t.text.toList, Text.isBlank c = false := by
  obtain ⟨⟨w⟩ | ⟨op⟩, start, stop⟩ := t
  · exact (h w rfl).1.2
  · intro c hc
    cases hop : Operator.ofChar? c with
    | none => exact absurd hop (ofChar?_of_symbol op c hc)
    | some o => exact Operator.isBlank_of_ofChar? hop

/-- Any character of a token tells whether it is a word. -/
theorem Sound.isWord_iff {t : Token} (h : t.Sound) {c : Char} (hc : c ∈ t.text.toList) :
    t.IsWord ↔ Operator.ofChar? c = none := by
  obtain ⟨⟨w⟩ | ⟨op⟩, start, stop⟩ := t
  · have := ofChar?_of_isPlainWord (h w rfl) c hc
    simp [IsWord, this]
  · have := ofChar?_of_symbol op c hc
    simp [IsWord, this]

private theorem symbol_injective {op o : Operator} (h : op.symbol = o.symbol) : op = o := by
  cases op <;> cases o <;> simp_all [Operator.symbol]

theorem Sound.lexeme_eq {t u : Token} (ht : t.Sound) (hu : u.Sound) (h : t.text = u.text) :
    t.lexeme = u.lexeme := by
  obtain ⟨c, rest, hc⟩ := List.exists_cons_of_ne_nil ht.text_ne_nil
  have hiff : t.IsWord ↔ u.IsWord := by
    rw [ht.isWord_iff (c := c) (by simp [hc]), hu.isWord_iff (c := c) (by simp [← h, hc])]
  obtain ⟨⟨w⟩ | ⟨op⟩, start, stop⟩ := t <;> obtain ⟨⟨v⟩ | ⟨o⟩, start', stop'⟩ := u
  · exact congrArg Lexeme.word h
  · simp [IsWord] at hiff
  · simp [IsWord] at hiff
  · exact congrArg Lexeme.operator (symbol_injective h)

/-! ### Tilings are unique -/

theorem Tiles.start_le {pos : Nat} {cs : List Char} {ts : List Token} (h : Tiles pos cs ts) :
    ∀ t ∈ ts, pos ≤ t.start ∧ t.start < t.stop ∧ t.stop ≤ pos + cs.length := by
  induction h with
  | nil => simp
  | @cons pos cs gap rest t ts hcs hgap hstart hstop hsound hnext h ih =>
    have hpos := List.length_pos_of_ne_nil hsound.text_ne_nil
    have hlen : cs.length = gap.length + (t.text.toList.length + rest.length) := by simp [hcs]
    intro u hu
    rcases List.mem_cons.1 hu with rfl | hu
    · omega
    · have := ih u hu
      omega

theorem Tiles.mem_head? {pos : Nat} {cs : List Char} {ts : List Token} (h : Tiles pos cs ts) {t : Token} (ht : t ∈ ts)
    (hpos : t.start = pos) : t ∈ ts.head? := by
  cases h with
  | nil => simp at ht
  | @cons _ _ gap rest u us hcs hgap hstart hstop hsound hnext h =>
    rcases List.mem_cons.1 ht with rfl | hmem
    · simp
    · have := h.start_le t hmem
      have := List.length_pos_of_ne_nil hsound.text_ne_nil
      omega

private theorem takeWhile_gap {gap : List Char} (hgap : ∀ c ∈ gap, Text.isBlank c = true) {t : Token} (h : t.Sound)
    (rest : List Char) : (gap ++ (t.text.toList ++ rest)).takeWhile Text.isBlank = gap := by
  obtain ⟨c, cs, htext⟩ := List.exists_cons_of_ne_nil h.text_ne_nil
  have hc : Text.isBlank c = false := h.not_blank c (by simp [htext])
  rw [List.takeWhile_append_of_pos hgap, htext]
  simp [hc]

theorem Tiles.exists_first {pos : Nat} {c : Char} {cs : List Char} {ts : List Token} (h : Tiles pos (c :: cs) ts)
    (hc : Text.isBlank c = false) : ∃ u ∈ ts.head?, u.start = pos ∧ u.Sound ∧ u.text.toList.head? = some c := by
  generalize htext : c :: cs = text at h
  cases h with
  | nil h =>
    have := h c (by simp [← htext])
    simp [hc] at this
  | @cons _ _ gap rest u ts hcs hgap hstart hstop hsound hnext h =>
    cases gap with
    | nil =>
      obtain ⟨d, ds, hd⟩ := List.exists_cons_of_ne_nil hsound.text_ne_nil
      have hcd : c = d := by
        rw [hd, ← htext] at hcs
        exact (List.cons.inj hcs).1
      exact ⟨u, by simp, by simpa using hstart, hsound, by simp [hd, hcd]⟩
    | cons d gap =>
      rw [← htext] at hcs
      obtain ⟨rfl, -⟩ := List.cons.inj hcs
      have := hgap c (by simp)
      simp [hc] at this

/-- Of two tokens that begin alike the longer one is no longer, since the tokens after the shorter one would clash with
it. -/
private theorem eq_nil_of_longer {t u : Token} {a rest : List Char} {ts : List Token} (ht : t.Sound) (hu : u.Sound)
    (hlonger : u.text.toList = t.text.toList ++ a) (h : Tiles t.stop (a ++ rest) ts)
    (hnext : ∀ v ∈ ts.head?, ¬ t.Clash v) : a = [] := by
  cases a with
  | nil => rfl
  | cons c a =>
    exfalso
    have hc : c ∈ u.text.toList := by simp [hlonger]
    obtain ⟨v, hv, hstart, hsound, hhead⟩ := h.exists_first (hu.not_blank c hc)
    have hcv : c ∈ v.text.toList := List.mem_of_head? hhead
    obtain ⟨d, ds, hd⟩ := List.exists_cons_of_ne_nil ht.text_ne_nil
    have hwords : t.IsWord ↔ u.IsWord := by
      rw [ht.isWord_iff (c := d) (by simp [hd]), hu.isWord_iff (c := d) (by simp [hlonger, hd])]
    by_cases hword : t.IsWord
    · -- The longer word goes on with a character of a word, and so another word begins right after the shorter one.
      have hplain := (hu.isWord_iff hc).1 (hwords.1 hword)
      exact hnext v hv ⟨hstart.symm, .inl ⟨hword, (hsound.isWord_iff hcv).2 hplain⟩⟩
    · have hword' : ¬ u.IsWord := fun h => hword (hwords.2 h)
      obtain ⟨⟨w⟩ | ⟨op⟩, start, stop⟩ := t
      · exact hword ⟨w, rfl⟩
      obtain ⟨⟨w⟩ | ⟨o⟩, start', stop'⟩ := u
      · exact hword' ⟨w, rfl⟩
      -- The only operator that another one begins with is `>`.
      have hsymbols : o.symbol.toList = op.symbol.toList ++ c :: a := hlonger
      have hwrite : op = .writeTo ∧ c = '>' := by
        cases op <;> cases o <;> simp [Operator.symbol] at hsymbols ⊢
        exact hsymbols.1.symm
      obtain ⟨rfl, rfl⟩ := hwrite
      exact hnext v hv ⟨hstart.symm, .inr ⟨rfl, hhead⟩⟩

theorem Tiles.unique {pos : Nat} {cs : List Char} {ts us : List Token} (h : Tiles pos cs ts) (h' : Tiles pos cs us) :
    ts = us := by
  induction h generalizing us with
  | @nil pos cs hblank =>
    cases h' with
    | nil => rfl
    | @cons _ _ gap rest u us hcs hgap hstart hstop hsound hnext h =>
      obtain ⟨c, cs', hc⟩ := List.exists_cons_of_ne_nil hsound.text_ne_nil
      have hnot := hsound.not_blank c (by simp [hc])
      have := hblank c (by simp [hcs, hc])
      simp [hnot] at this
  | @cons pos cs gap rest t ts hcs hgap hstart hstop hsound hnext h ih =>
    cases h' with
    | nil hblank =>
      obtain ⟨c, cs', hc⟩ := List.exists_cons_of_ne_nil hsound.text_ne_nil
      have hnot := hsound.not_blank c (by simp [hc])
      have := hblank c (by simp [hcs, hc])
      simp [hnot] at this
    | @cons _ _ gap' rest' u us hcs' hgap' hstart' hstop' hsound' hnext' h' =>
      have hgaps : gap = gap' := by
        rw [← takeWhile_gap hgap hsound rest, ← hcs, hcs']
        exact takeWhile_gap hgap' hsound' rest'
      subst hgaps
      have hafter : t.text.toList ++ rest = u.text.toList ++ rest' := List.append_cancel_left (hcs.symm.trans hcs')
      have htext : t.text.toList = u.text.toList := by
        rcases List.append_eq_append_iff.1 hafter with ⟨a, hu, hrest⟩ | ⟨a, ht, hrest⟩
        · rw [hu, eq_nil_of_longer hsound hsound' hu (hrest ▸ h) hnext, List.append_nil]
        · rw [ht, eq_nil_of_longer hsound' hsound ht (hrest ▸ h') hnext', List.append_nil]
      have hlexeme := hsound.lexeme_eq hsound' (String.toList_inj.1 htext)
      have hstarts : t.start = u.start := hstart.trans hstart'.symm
      have hstops : t.stop = u.stop := by rw [hstop, hstop', hstarts, htext]
      obtain ⟨lexeme, start, stop⟩ := t
      obtain ⟨lexeme', start', stop'⟩ := u
      obtain ⟨rfl, rfl, rfl⟩ : lexeme = lexeme' ∧ start = start' ∧ stop = stop' := ⟨hlexeme, hstarts, hstops⟩
      have hrests : rest = rest' := by
        rw [htext] at hafter
        exact List.append_cancel_left hafter
      subst hrests
      rw [ih h']

/-! ### Scanning makes a tiling -/

private theorem Tiles.blank_cons {pos : Nat} {c : Char} {cs : List Char} {ts : List Token} (hc : Text.isBlank c = true)
    (h : Tiles (pos + 1) cs ts) : Tiles pos (c :: cs) ts := by
  cases h with
  | nil h => exact .nil (List.forall_mem_cons.2 ⟨hc, h⟩)
  | @cons _ _ gap rest t ts hcs hgap hstart hstop hsound hnext h =>
    have hcs' : c :: cs = (c :: gap) ++ (t.text.toList ++ rest) := by simp [hcs]
    refine .cons hcs' (List.forall_mem_cons.2 ⟨hc, hgap⟩) ?_ hstop hsound hnext h
    rw [hstart, List.length_cons]
    omega

/-- A word before a text that begins with no word. -/
private theorem Tiles.endWord_append {pos : Nat} {word cs : List Char} {ts : List Token} (hpos : word.length ≤ pos)
    (hword : ∀ c ∈ word, Text.isBlank c = false ∧ Operator.ofChar? c = none)
    (hnext : ∀ u ∈ ts.head?, u.start = pos → ¬ u.IsWord) (h : Tiles pos cs ts) :
    Tiles (pos - word.length) (word.reverse ++ cs) (endWord pos word ++ ts) := by
  cases word with
  | nil => simpa [endWord] using h
  | cons c word =>
    have hplain : Plan.IsPlainWord (String.ofList (c :: word).reverse) := by
      apply isPlainWord_of_forall
      · simp
      · intro d hd
        rw [String.toList_ofList, List.mem_reverse] at hd
        exact hword d hd
    have htext : (c :: word).reverse ++ cs = [] ++ ((String.ofList (c :: word).reverse).toList ++ cs) := by simp
    refine .cons htext (List.forall_mem_nil _) rfl ?_ ?_ ?_ h
    · simp only [text, String.toList_ofList, List.length_reverse]
      omega
    · rintro w hw
      obtain rfl := Lexeme.word.inj hw
      exact hplain
    · rintro u hu ⟨hstart, ⟨-, hu'⟩ | ⟨hwrite, -⟩⟩
      · exact hnext u hu hstart.symm hu'
      · cases hwrite

private theorem Tiles.operator_cons {pos : Nat} {op : Operator} {cs : List Char} {ts : List Token}
    (hnext : op = .writeTo → cs.head? ≠ some '>') (h : Tiles (pos + op.symbol.toList.length) cs ts) :
    Tiles pos (op.symbol.toList ++ cs) (⟨.operator op, pos, pos + op.symbol.toList.length⟩ :: ts) := by
  have htext : op.symbol.toList ++ cs = [] ++ (op.symbol.toList ++ cs) := rfl
  refine .cons htext (List.forall_mem_nil _) rfl rfl nofun ?_ h
  rintro u hu ⟨hstart, ⟨⟨w, hw⟩, -⟩ | ⟨hwrite, hhead⟩⟩
  · cases hw
  · cases h with
    | nil => simp at hu
    | @cons _ _ gap rest u' us hcs hgap hstart' hstop hsound hnext' h =>
      obtain rfl : u' = u := by simpa using hu
      -- The token stands right behind the operator, and so begins what comes after it.
      have hgap : gap = [] := by
        rw [← List.length_eq_zero_iff]
        dsimp only at hstart
        omega
      apply hnext (Lexeme.operator.inj hwrite)
      rw [hcs, hgap, List.nil_append, List.head?_append, hhead]
      rfl

theorem tiles_scanFrom (pos : Nat) (word cs : List Char) (hpos : word.length ≤ pos)
    (hword : ∀ c ∈ word, Text.isBlank c = false ∧ Operator.ofChar? c = none) :
    Tiles (pos - word.length) (word.reverse ++ cs) (scanFrom pos word cs) := by
  fun_induction scanFrom pos word cs with
  | case1 pos word =>
    have hnil : Tiles pos [] [] := .nil (List.forall_mem_nil _)
    simpa using hnil.endWord_append hpos hword (by simp)
  | case2 pos word rest ih =>
    have hrest := ih (Nat.zero_le _) (List.forall_mem_nil _)
    have hpair : Tiles pos ('>' :: '>' :: rest) (⟨.operator .appendTo, pos, pos + 2⟩ :: scanFrom (pos + 2) [] rest) :=
      @Tiles.operator_cons pos .appendTo rest _ (by simp) hrest
    exact hpair.endWord_append hpos hword (by simp [IsWord])
  | case3 pos word c rest hpair op hop ih =>
    have hrest := ih (Nat.zero_le _) (List.forall_mem_nil _)
    have hsymbol := Operator.symbol_of_ofChar? hop
    have hnext : op = .writeTo → rest.head? ≠ some '>' := by
      rintro rfl hhead
      obtain ⟨tail, rfl⟩ := List.head?_eq_some_iff.1 hhead
      obtain rfl : c = '>' := (List.singleton_inj.1 hsymbol).symm
      exact hpair tail rfl rfl
    have hsingle : Tiles pos (c :: rest) (⟨.operator op, pos, pos + 1⟩ :: scanFrom (pos + 1) [] rest) := by
      have hrest' : Tiles (pos + op.symbol.toList.length) rest (scanFrom (pos + 1) [] rest) := by
        simpa [hsymbol] using hrest
      simpa [hsymbol] using hrest'.operator_cons hnext
    exact hsingle.endWord_append hpos hword (by simp [IsWord])
  | case4 pos word c rest _ hop hblank ih =>
    have hrest := ih (Nat.zero_le _) (List.forall_mem_nil _)
    refine (hrest.blank_cons hblank).endWord_append hpos hword ?_
    intro u hu hstart
    have := (hrest.start_le u (List.mem_of_head? hu)).1
    simp at this
    omega
  | case5 pos word c rest _ hop hblank ih =>
    have hc : Text.isBlank c = false ∧ Operator.ofChar? c = none := ⟨by simpa using hblank, hop⟩
    have hrest := ih (by simp; omega) (List.forall_mem_cons.2 ⟨hc, hword⟩)
    simpa using hrest

/-! ### Tilings are the lists of tokens by longest match -/

theorem Tiles.munched {pos : Nat} {cs : List Char} {ts : List Token} (h : Tiles pos cs ts) : Munched pos cs ts := by
  induction h with
  | @nil pos cs hblank =>
    exact ⟨nofun, nofun, .nil, fun n c hc _ => hblank c (List.mem_of_getElem? hc), nofun, nofun⟩
  | @cons pos cs gap rest t ts hcs hgap hstart hstop hsound hnext h ih =>
    have hpos := List.length_pos_of_ne_nil hsound.text_ne_nil
    have hlater := h.start_le
    have hwithin := (Tiles.cons hcs hgap hstart hstop hsound hnext h).start_le
    have hlen : t.stop - pos = gap.length + t.text.toList.length := by omega
    have hdrop : cs.drop (t.stop - pos) = rest := by
      rw [hlen, hcs, ← List.append_assoc, ← List.length_append, List.drop_left]
    refine ⟨hwithin, ?_, ?_, ?_, ?_, ?_⟩
    · intro u hu
      rcases List.mem_cons.1 hu with rfl | hu
      · have hgap' : u.start - pos = gap.length := by omega
        have htext : u.stop - u.start = u.text.toList.length := by omega
        rw [hgap', htext, hcs, List.drop_left, List.take_left]
      · have hle := hlater u hu
        have hsum : u.start - pos = (t.stop - pos) + (u.start - t.stop) := by omega
        rw [ih.text u hu, hsum, ← List.drop_drop, hdrop]
    · exact List.pairwise_cons.2 ⟨fun u hu => (hlater u hu).1, ih.ordered⟩
    · intro n c hc hnot
      by_cases hn : n < gap.length
      · apply hgap c
        rw [hcs, List.getElem?_append_left hn] at hc
        exact List.mem_of_getElem? hc
      · -- Behind the blanks what is not covered stands behind the token.
        have hbehind : t.stop ≤ pos + n := by
          have := hnot t (by simp)
          unfold Covers at this
          omega
        apply ih.blank (pos + n - t.stop) c
        · rw [← hdrop, List.getElem?_drop, ← hc]
          congr 1
          omega
        · intro u hu
          have := hnot u (by simp [hu])
          rwa [Nat.add_sub_cancel' hbehind]
    · intro u hu
      rcases List.mem_cons.1 hu with rfl | hu
      · exact hsound
      · exact ih.words u hu
    · intro u hu v hv hclash
      have hstops := hclash.1
      rcases List.mem_cons.1 hu with hut | hut <;> rcases List.mem_cons.1 hv with hvt | hvt
      · subst hut hvt
        omega
      · subst hut
        exact hnext v (h.mem_head? hvt hstops.symm) hclash
      · subst hvt
        have := hlater u hut
        omega
      · exact ih.apart u hut v hvt hclash

theorem Munched.tiles {pos : Nat} {cs : List Char} {ts : List Token} (h : Munched pos cs ts) : Tiles pos cs ts := by
  induction ts generalizing pos cs with
  | nil =>
    refine .nil fun c hc => ?_
    obtain ⟨n, hn⟩ := List.mem_iff_getElem?.1 hc
    exact h.blank n c hn nofun
  | cons t ts ih =>
    obtain ⟨hstart, hne, hstop⟩ := h.within t (by simp)
    obtain ⟨hlater, hordered⟩ := List.pairwise_cons.1 h.ordered
    have htext := h.text t (by simp)
    have hlen : t.text.toList.length = t.stop - t.start := by
      rw [htext, List.length_take, List.length_drop]
      omega
    have hstops : t.start - pos + (t.stop - t.start) = t.stop - pos := by omega
    have hcs : cs = cs.take (t.start - pos) ++ (t.text.toList ++ cs.drop (t.stop - pos)) := by
      rw [htext, ← hstops, ← List.drop_drop, List.take_append_drop, List.take_append_drop]
    refine .cons hcs ?_ ?_ ?_ (h.words t (by simp)) ?_ (ih ?_)
    · intro c hc
      obtain ⟨n, hn⟩ := List.mem_iff_getElem?.1 hc
      rw [List.getElem?_take] at hn
      split at hn
      · next hlt =>
        apply h.blank n c hn
        intro u hu hcovers
        unfold Covers at hcovers
        rcases List.mem_cons.1 hu with rfl | hu
        · omega
        · have := hlater u hu
          omega
      · cases hn
    · rw [List.length_take]
      omega
    · omega
    · intro u hu
      exact h.apart t (by simp) u (List.mem_cons_of_mem _ (List.mem_of_head? hu))
    · refine ⟨?_, ?_, hordered, ?_, ?_, ?_⟩
      · intro u hu
        have hle := hlater u hu
        have := h.within u (by simp [hu])
        rw [List.length_drop]
        omega
      · intro u hu
        have hle := hlater u hu
        have hsum : u.start - pos = (t.stop - pos) + (u.start - t.stop) := by omega
        rw [h.text u (by simp [hu]), List.drop_drop, hsum]
      · intro n c hc hnot
        rw [List.getElem?_drop] at hc
        apply h.blank _ c hc
        have hn : pos + (t.stop - pos + n) = t.stop + n := by omega
        rw [hn]
        intro u hu
        rcases List.mem_cons.1 hu with rfl | hu
        · unfold Covers
          omega
        · exact hnot u hu
      · exact fun u hu => h.words u (by simp [hu])
      · exact fun u hu v hv => h.apart u (by simp [hu]) v (by simp [hv])

/-- Scanning finds the tokens by longest match, and a text has no other list of them. -/
theorem munched_iff_scan {s : String} {ts : List Token} : Munched 0 s.toList ts ↔ ts = scan s := by
  have hscan : Tiles 0 s.toList (scan s) := tiles_scanFrom 0 [] s.toList (Nat.le_refl 0) (List.forall_mem_nil _)
  constructor
  · exact fun h => h.tiles.unique hscan
  · rintro rfl
    exact hscan.munched

theorem Munched.not_blank {pos : Nat} {cs : List Char} {ts : List Token} (h : Munched pos cs ts) {t : Token} (ht : t ∈ ts)
    {n : Nat} {c : Char} (hc : cs[n]? = some c) (hcovers : t.Covers (pos + n)) : Text.isBlank c = false := by
  have hwithin := h.within t ht
  unfold Covers at hcovers
  have hsound : t.Sound := h.words t ht
  apply hsound.not_blank c
  apply List.mem_of_getElem? (i := pos + n - t.start)
  rw [h.text t ht, List.getElem?_take_of_lt (by omega), List.getElem?_drop, ← hc]
  congr 1
  omega

theorem Munched.covers_unique {pos : Nat} {cs : List Char} {ts : List Token} (h : Munched pos cs ts) {t u : Token}
    (ht : t ∈ ts) (hu : u ∈ ts) {n : Nat} (hcovers : t.Covers n) (hcovers' : u.Covers n) : t = u := by
  obtain ⟨i, hi, rfl⟩ := List.getElem_of_mem ht
  obtain ⟨j, hj, rfl⟩ := List.getElem_of_mem hu
  have hordered := List.pairwise_iff_getElem.1 h.ordered
  unfold Covers at hcovers hcovers'
  rcases Nat.lt_trichotomy i j with hij | rfl | hij
  · have := hordered i j hi hj hij
    omega
  · rfl
  · have := hordered j i hj hi hij
    omega

/-! ### Several `>` in a row -/

/-- As many pairs as there are, and one more `>` if one is left. -/
def arrows (pos k : Nat) : List Token :=
  (List.range (k / 2)).map (fun i => ⟨.operator .appendTo, pos + 2 * i, pos + 2 * i + 2⟩) ++
    if k % 2 = 1 then [⟨.operator .writeTo, pos + k - 1, pos + k⟩] else []

/-- The same token some places further on. -/
def shift (d : Nat) (t : Token) : Token := ⟨t.lexeme, t.start + d, t.stop + d⟩

private theorem endWord_add {pos : Nat} {word : List Char} (h : word.length ≤ pos) (d : Nat) :
    endWord (pos + d) word = (endWord pos word).map (shift d) := by
  have hstart : pos + d - word.length = pos - word.length + d := by omega
  unfold endWord
  split
  · rfl
  · simp [shift, hstart]

/-- Tokens depend on where a text begins in their positions only. -/
theorem scanFrom_add {pos : Nat} {word : List Char} (cs : List Char) (h : word.length ≤ pos) (d : Nat) :
    scanFrom (pos + d) word cs = (scanFrom pos word cs).map (shift d) := by
  fun_induction scanFrom pos word cs with
  | case1 pos word => exact endWord_add h d
  | case2 pos word rest ih =>
    have hrest := ih (Nat.zero_le _)
    rw [Nat.add_right_comm] at hrest
    rw [scanFrom, endWord_add h, hrest]
    simp [shift, Nat.add_right_comm]
  | case3 pos word c rest hpair op hop ih =>
    have hrest := ih (Nat.zero_le _)
    rw [Nat.add_right_comm] at hrest
    rw [scanFrom, endWord_add h, hop, hrest]
    · simp [shift, Nat.add_right_comm]
    · exact hpair
  | case4 pos word c rest hpair hop hblank ih =>
    have hrest := ih (Nat.zero_le _)
    rw [Nat.add_right_comm] at hrest
    rw [scanFrom, endWord_add h, hop, if_pos hblank, hrest]
    · simp
    · exact hpair
  | case5 pos word c rest hpair hop hblank ih =>
    have hrest := ih (by simp; omega)
    rw [Nat.add_right_comm] at hrest
    rw [scanFrom, hop, if_neg hblank, hrest]
    exact hpair

private theorem getLast?_tail {c : Char} {cs : List Char} (h : (c :: cs).getLast? ≠ some '>') :
    cs.getLast? ≠ some '>' := by
  cases cs with
  | nil => simp
  | cons d cs => rwa [List.getLast?_cons_cons] at h

/-- A pair is no pair by what comes behind a text that does not end in `>`. -/
private theorem pair_append {c : Char} {cs rest : List Char} (hpair : ∀ tail, c = '>' → cs = '>' :: tail → False)
    (hlast : (c :: cs).getLast? ≠ some '>') : ∀ tail, c = '>' → cs ++ '>' :: rest = '>' :: tail → False := by
  intro tail hc htail
  cases cs with
  | nil => simp [hc] at hlast
  | cons d cs =>
    have hd : d = '>' := (List.cons.inj htail).1
    exact hpair cs hc (by rw [hd])

private theorem scanFrom_arrow (pos : Nat) (word rest : List Char) :
    scanFrom pos word ('>' :: rest) = endWord pos word ++ scanFrom pos [] ('>' :: rest) := by
  by_cases hpair : ∃ tail, rest = '>' :: tail
  · obtain ⟨tail, rfl⟩ := hpair
    simp [scanFrom, endWord]
  · have hsingle : ∀ tail, '>' = '>' → rest = '>' :: tail → False := fun tail _ htail => hpair ⟨tail, htail⟩
    rw [scanFrom.eq_3 _ _ _ _ hsingle, scanFrom.eq_3 _ _ _ _ hsingle]
    simp [Operator.ofChar?, endWord]

/-- Where several `>` begin a token begins. -/
theorem scanFrom_append_arrow (pos : Nat) (word front rest : List Char) (hlast : front.getLast? ≠ some '>') :
    scanFrom pos word (front ++ '>' :: rest) =
      scanFrom pos word front ++ scanFrom (pos + front.length) [] ('>' :: rest) := by
  fun_induction scanFrom pos word front with
  | case1 pos word => exact scanFrom_arrow pos word rest
  | case2 pos word front ih =>
    have hrest := ih (getLast?_tail (getLast?_tail hlast))
    have hlength : pos + 2 + front.length = pos + ('>' :: '>' :: front).length := by simp; omega
    rw [hlength] at hrest
    rw [List.cons_append, List.cons_append, scanFrom, hrest]
    simp
  | case3 pos word c front hpair op hop ih =>
    have hrest := ih (getLast?_tail hlast)
    have hlength : pos + 1 + front.length = pos + (c :: front).length := by simp; omega
    rw [hlength] at hrest
    rw [List.cons_append, scanFrom.eq_3 _ _ _ _ (pair_append hpair hlast), hop]
    simp [hrest]
  | case4 pos word c front hpair hop hblank ih =>
    have hrest := ih (getLast?_tail hlast)
    have hlength : pos + 1 + front.length = pos + (c :: front).length := by simp; omega
    rw [hlength] at hrest
    rw [List.cons_append, scanFrom.eq_3 _ _ _ _ (pair_append hpair hlast), hop]
    simp [hblank, hrest]
  | case5 pos word c front hpair hop hblank ih =>
    have hrest := ih (getLast?_tail hlast)
    have hlength : pos + 1 + front.length = pos + (c :: front).length := by simp; omega
    rw [hlength] at hrest
    rw [List.cons_append, scanFrom.eq_3 _ _ _ _ (pair_append hpair hlast), hop]
    simp [hblank, hrest]

private theorem arrows_add_two (pos k : Nat) :
    arrows pos (k + 2) = ⟨.operator .appendTo, pos, pos + 2⟩ :: arrows (pos + 2) k := by
  have hhalf : (k + 2) / 2 = k / 2 + 1 := by omega
  have hodd : (k + 2) % 2 = k % 2 := by omega
  have hplace : ∀ i, pos + 2 * (i + 1) = pos + 2 + 2 * i := by
    intro i
    omega
  have hlast : pos + (k + 2) = pos + 2 + k := by omega
  unfold arrows
  rw [hhalf, hodd, hlast, List.range_succ_eq_map, List.map_cons, List.map_map]
  simp [Function.comp_def, hplace]

theorem scanFrom_arrows (pos k : Nat) {back : List Char} (hhead : back.head? ≠ some '>') :
    scanFrom pos [] (List.replicate k '>' ++ back) = arrows pos k ++ scanFrom (pos + k) [] back := by
  induction k using Nat.twoStepInduction generalizing pos with
  | zero => simp [arrows]
  | one =>
    have hsingle : ∀ tail, '>' = '>' → back = '>' :: tail → False := by
      rintro tail - rfl
      exact hhead rfl
    rw [List.replicate_one, List.singleton_append, scanFrom.eq_3 _ _ _ _ hsingle]
    simp [Operator.ofChar?, endWord, arrows]
  | more k ih _ =>
    have hpos : pos + 2 + k = pos + (k + 2) := by omega
    rw [List.replicate_succ, List.replicate_succ, List.cons_append, List.cons_append, scanFrom, ih, arrows_add_two, hpos]
    rfl

private theorem scan_arrows {s : String} {front back : List Char} {k : Nat}
    (hs : s.toList = front ++ (List.replicate k '>' ++ back)) (hk : 0 < k) (hlast : front.getLast? ≠ some '>')
    (hhead : back.head? ≠ some '>') :
    scan s = scan (String.ofList front) ++ arrows front.length k ++
      (scan (String.ofList back)).map (shift (front.length + k)) := by
  have hrow : List.replicate k '>' ++ back = '>' :: (List.replicate (k - 1) '>' ++ back) := by
    obtain ⟨j, rfl⟩ : ∃ j, k = j + 1 := ⟨k - 1, by omega⟩
    simp [List.replicate_succ]
  have hfront := scanFrom_append_arrow 0 [] front (List.replicate (k - 1) '>' ++ back) hlast
  have hback := @scanFrom_add 0 [] back (Nat.le_refl 0) (front.length + k)
  unfold scan
  rw [hs, hrow, hfront, ← hrow, scanFrom_arrows _ _ hhead]
  simp only [Nat.zero_add] at hback ⊢
  rw [hback]
  simp

/-- The tokens of a text are what longest match says and nothing else, every character is a blank or is in exactly one
of them, and a row of `k` times `>` makes as many `>>` as fit, from the left, and one `>` more exactly if `k` is odd. -/
theorem scan_longest_match (s : String) :
    (∀ ts, Munched 0 s.toList ts ↔ ts = scan s) ∧
    (∀ n c, s.toList[n]? = some c →
      (Text.isBlank c = true ∧ ∀ t ∈ scan s, ¬ t.Covers n) ∨
      (Text.isBlank c = false ∧ ∃! t, t ∈ scan s ∧ t.Covers n)) ∧
    ∀ front k back, s.toList = front ++ (List.replicate k '>' ++ back) → 0 < k → front.getLast? ≠ some '>' →
      back.head? ≠ some '>' →
      scan s = scan (String.ofList front) ++ arrows front.length k ++
        (scan (String.ofList back)).map (shift (front.length + k)) := by
  have hscan : Munched 0 s.toList (scan s) := munched_iff_scan.2 rfl
  refine ⟨fun ts => munched_iff_scan, ?_, fun front k back => scan_arrows⟩
  intro n c hc
  by_cases hcovered : ∃ t ∈ scan s, t.Covers n
  · obtain ⟨t, ht, hcovers⟩ := hcovered
    have hblank : Text.isBlank c = false := hscan.not_blank ht hc (by rwa [Nat.zero_add])
    exact .inr ⟨hblank, t, ⟨ht, hcovers⟩, fun u hu => hscan.covers_unique hu.1 ht hu.2 hcovers⟩
  · have hnone : ∀ t ∈ scan s, ¬ t.Covers n := fun t ht hcovers => hcovered ⟨t, ht, hcovers⟩
    exact .inl ⟨hscan.blank n c hc (by simpa using hnone), hnone⟩

/-- Of three `>` the first two are one token. -/
theorem scan_longest_match_arrows :
    scan "a >>>b" = scan "a " ++ [⟨.operator .appendTo, 2, 4⟩, ⟨.operator .writeTo, 4, 5⟩] ++ [⟨.word "b", 5, 6⟩] :=
  (scan_longest_match "a >>>b").2.2 ['a', ' '] 3 ['b'] rfl (by decide) (by decide) (by decide)

end CommandShell.Token
