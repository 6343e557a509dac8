import CommandShell.Text.Line

/-!
# Lines of a text

Apart from empty lines, the lines of a text are its parts between boundaries (`Text.fullLines_eq_fullParts`), whether
its newlines are made uniform or not (`Text.fullParts_uniformNewlines`). Texts that are joined with line feeds are cut
into lines again: cutting a joined text is cutting each of the texts (`Text.fullLines_intercalate`), since a line feed is
a boundary wherever no carriage return stands before it. A text that is not empty is a line of its own exactly if it
holds no boundary (`Text.fullLines_eq_singleton_iff`).
-/

namespace CommandShell.Text

/-- A text without carriage returns has uniform newlines already. -/
theorem uniformNewlines_eq_self {cs : List Char} (h : '\r' ∉ cs) : uniformNewlines cs = cs := by
  fun_induction uniformNewlines cs with
  | case1 => rfl
  | case2 rest => simp at h
  | case3 c rest hpair ih =>
    have hc : c ≠ '\r' := fun heq => h (by simp [heq])
    rw [if_neg hc, ih fun hmem => h (List.mem_cons_of_mem c hmem)]

theorem linesAux_cons {c : Char} (h : c ≠ '\r') (line rest : List Char) :
    linesAux line (c :: rest) =
      if isLineBoundary c then line.reverse :: linesAux [] rest else linesAux (c :: line) rest := by
  rw [linesAux]
  rintro rest' rfl
  exact absurd rfl h

/-- The lines of a text that are not empty. -/
def fullLines (cs : List Char) : List (List Char) := (linesOf cs).filter (!·.isEmpty)

/-- Making newlines uniform keeps the boundaries where they are. -/
theorem linesAux_uniformNewlines (line cs : List Char) : linesAux line (uniformNewlines cs) = linesAux line cs := by
  have hfeed : isLineBoundary '\n' = true := by decide
  have hreturn : isLineBoundary '\r' = true := by decide
  fun_induction uniformNewlines cs generalizing line with
  | case1 => rfl
  | case2 rest ih => rw [linesAux_cons (by decide), if_pos hfeed, ih, linesAux]
  | case3 c rest hpair ih =>
    by_cases hc : c = '\r'
    · -- A carriage return with no line feed behind it is a boundary of its own.
      subst hc
      rw [if_pos rfl, linesAux_cons (by decide), if_pos hfeed, ih, linesAux, if_pos hreturn]
      exact hpair
    · rw [if_neg hc, linesAux_cons hc, linesAux_cons hc, ih, ih]

/-- The parts of a text between line boundaries that are not empty. -/
def fullParts (cs : List Char) : List (List Char) := (cs.splitOnP isLineBoundary).filter (!·.isEmpty)

private theorem modifyHead_nil_append (parts : List (List Char)) :
    parts.modifyHead (([] : List Char) ++ ·) = parts := by
  cases parts <;> rfl

private theorem filter_linesAux (line cs : List Char) :
    (linesAux line cs).filter (!·.isEmpty) =
      ((cs.splitOnP isLineBoundary).modifyHead (line.reverse ++ ·)).filter (!·.isEmpty) := by
  have hfeed : isLineBoundary '\n' = true := by decide
  have hreturn : isLineBoundary '\r' = true := by decide
  fun_induction linesAux line cs with
  | case1 line hempty => simp_all
  | case2 line hempty => simp_all
  | case3 line rest ih =>
    -- The empty part between the two characters is left out.
    rw [List.splitOnP_cons_eq_if_modifyHead, if_pos hreturn, List.splitOnP_cons_eq_if_modifyHead, if_pos hfeed]
    rw [List.reverse_nil, modifyHead_nil_append] at ih
    simp [List.filter_cons, ih]
  | case4 line c rest hpair hboundary ih =>
    rw [List.splitOnP_cons_eq_if_modifyHead, if_pos hboundary]
    rw [List.reverse_nil, modifyHead_nil_append] at ih
    simp [List.filter_cons, ih]
  | case5 line c rest hpair hboundary ih =>
    rw [List.splitOnP_cons_eq_if_modifyHead, if_neg hboundary, List.modifyHead_modifyHead, ih]
    congr 2
    funext part
    simp

theorem fullLines_eq_fullParts (cs : List Char) : fullLines cs = fullParts cs := by
  have h := filter_linesAux [] cs
  rwa [List.reverse_nil, modifyHead_nil_append] at h

/-- Parts are the same whether newlines are uniform or not. -/
theorem fullParts_uniformNewlines (cs : List Char) : fullParts (uniformNewlines cs) = fullParts cs := by
  rw [← fullLines_eq_fullParts, ← fullLines_eq_fullParts, fullLines, fullLines, linesOf, linesOf,
    linesAux_uniformNewlines]

/-- A line feed ends the line that it stands in, and with it the text before it. -/
theorem fullLinesAux_append {xs : List Char} (h : '\r' ∉ xs) (line rest : List Char) :
    (linesAux line (xs ++ '\n' :: rest)).filter (!·.isEmpty) =
      (linesAux line xs).filter (!·.isEmpty) ++ fullLines rest := by
  induction xs generalizing line with
  | nil =>
    -- The unfinished line ends here either way, and is left out either way if it is empty.
    rw [List.nil_append, linesAux_cons (by decide), if_pos (by decide)]
    cases line <;> simp [linesAux, fullLines, linesOf]
  | cons c xs ih =>
    have hc : c ≠ '\r' := fun heq => h (by simp [heq])
    have hxs : '\r' ∉ xs := fun hmem => h (List.mem_cons_of_mem c hmem)
    rw [List.cons_append, linesAux_cons hc, linesAux_cons hc]
    by_cases hboundary : isLineBoundary c = true
    · simp only [if_pos hboundary, List.filter_cons, ih hxs]
      split <;> rfl
    · simp only [if_neg hboundary, ih hxs]

/-- The lines of texts that are joined with line feeds are the lines of each. -/
theorem fullLines_intercalate {texts : List (List Char)} (h : ∀ cs ∈ texts, '\r' ∉ cs) :
    fullLines (List.intercalate ['\n'] texts) = texts.flatMap fullLines := by
  induction texts with
  | nil => rfl
  | cons cs rest ih =>
    cases rest with
    | nil => simp
    | cons next rest =>
      rw [List.intercalate_cons_cons, List.append_assoc, List.singleton_append, List.flatMap_cons,
        ← ih fun cs hcs => h cs (List.mem_cons_of_mem _ hcs)]
      exact fullLinesAux_append (h cs List.mem_cons_self) [] _

theorem notBoundary_of_mem_linesAux {line cs : List Char} (hline : ∀ c ∈ line, isLineBoundary c = false)
    {l : List Char} (hl : l ∈ linesAux line cs) {c : Char} (hc : c ∈ l) : isLineBoundary c = false := by
  fun_induction linesAux line cs with
  | case1 line hempty => cases hl
  | case2 line hempty =>
    obtain rfl := List.mem_singleton.1 hl
    exact hline c (List.mem_reverse.1 hc)
  | case3 line rest ih =>
    rcases List.mem_cons.1 hl with rfl | hrest
    · exact hline c (List.mem_reverse.1 hc)
    · exact ih nofun hrest
  | case4 line d rest hpair hboundary ih =>
    rcases List.mem_cons.1 hl with rfl | hrest
    · exact hline c (List.mem_reverse.1 hc)
    · exact ih nofun hrest
  | case5 line d rest hpair hboundary ih =>
    refine ih (fun x hx => ?_) hl
    rcases List.mem_cons.1 hx with rfl | hx
    · simpa using hboundary
    · exact hline x hx

/-- No line holds a boundary. -/
theorem notBoundary_of_mem_fullLines {cs l : List Char} (hl : l ∈ fullLines cs) {c : Char} (hc : c ∈ l) :
    isLineBoundary c = false :=
  notBoundary_of_mem_linesAux (by simp) (List.mem_filter.1 hl).1 hc

theorem linesAux_of_notBoundary {cs : List Char} (h : ∀ c ∈ cs, isLineBoundary c = false) (line : List Char) :
    linesAux line cs = linesAux (cs.reverse ++ line) [] := by
  induction cs generalizing line with
  | nil => rfl
  | cons c cs ih =>
    have hc := h c List.mem_cons_self
    have hfeed : c ≠ '\r' := by
      rintro rfl
      exact absurd hc (by decide)
    rw [linesAux_cons hfeed, if_neg (by simp [hc]), ih fun d hd => h d (List.mem_cons_of_mem c hd)]
    simp

/-- A text that is not empty is one line exactly if it holds no boundary. -/
theorem fullLines_eq_singleton_iff {cs : List Char} (hne : cs ≠ []) :
    fullLines cs = [cs] ↔ ∀ c ∈ cs, isLineBoundary c = false := by
  constructor
  · intro h c hc
    have hmem : cs ∈ fullLines cs := by simp [h]
    exact notBoundary_of_mem_fullLines hmem hc
  · intro h
    simp [fullLines, linesOf, linesAux_of_notBoundary h, linesAux, hne]

end CommandShell.Text
