import CommandShell.Proofs.Markup.Spans

/-!
# What a message is shown as

Rendering a message that is made of spans shows each span, and the plain text at its end, on its own
(`shown_spanned`). A text that was escaped is shown without the backslashes that stand before a bracket and no tag
(`unstray`); it is shown as it is if there are none, and if the backslashes at its end come through. They do on their
own unless there is one (`shown_escapeChars`), also before a mark (`shown_escapeChars_marked`), and before a closing tag
if there is one at most (`shown_escapeChars_closed_iff`).
-/

namespace CommandShell.Markup

/-! ### Backslashes before brackets -/

theorem unslash_sublist (cs : List Char) : (unslash cs).Sublist cs := by
  fun_induction unslash cs with
  | case1 => exact List.Sublist.refl _
  | case2 rest ih => exact (ih.cons_cons '[').cons '\\'
  | case3 c rest _ ih => exact ih.cons_cons c

theorem unslash_of_notMem {cs : List Char} (h : '[' ∉ cs) : unslash cs = cs := by
  fun_induction unslash cs with
  | case1 => rfl
  | case2 rest => simp at h
  | case3 c rest _ ih => rw [ih fun hin => h (List.mem_cons_of_mem _ hin)]

theorem getLast?_unslash (cs : List Char) : (unslash cs).getLast? = cs.getLast? := by
  fun_induction unslash cs with
  | case1 => rfl
  | case2 rest ih => simp [List.getLast?_cons, ih]
  | case3 c rest _ ih => simp [List.getLast?_cons, ih]

theorem unslash_append {cs more : List Char} (h : cs.getLast? ≠ some '\\' ∨ more.head? ≠ some '[') :
    unslash (cs ++ more) = unslash cs ++ unslash more := by
  fun_induction unslash cs with
  | case1 => rfl
  | case2 rest ih =>
    have hrest : rest.getLast? ≠ some '\\' ∨ more.head? ≠ some '[' := by
      refine h.imp (fun hlast he => hlast ?_) id
      simp [List.getLast?_cons, he]
    show '[' :: unslash (rest ++ more) = _
    rw [ih hrest]
    rfl
  | case3 c rest hno ih =>
    have hrest : rest.getLast? ≠ some '\\' ∨ more.head? ≠ some '[' := by
      refine h.imp (fun hlast he => hlast ?_) id
      simp [List.getLast?_cons, he]
    have hno' : ∀ tail, c = '\\' → rest ++ more = '[' :: tail → False := by
      rintro tail rfl htail
      cases rest with
      | nil =>
        rw [List.nil_append] at htail
        rcases h with hlast | hhead
        · exact hlast rfl
        · exact hhead (by rw [htail]; rfl)
      | cons d rest =>
        obtain ⟨rfl, -⟩ := List.cons.inj htail
        exact hno rest rfl rfl
    rw [List.cons_append, unslash, ih hrest]
    · rfl
    · exact hno'

theorem unslash_backslashes (n : Nat) : unslash (backslashes n) = backslashes n := by
  refine unslash_of_notMem fun h => ?_
  exact absurd (List.eq_of_mem_replicate h) (by decide)

/-- Without the backslashes that stand before a bracket and no tag. -/
def unstray : List Char → List Char
  | [] => []
  | '\\' :: '[' :: rest => if (tag? rest).isSome then '\\' :: '[' :: unstray rest else '[' :: unstray rest
  | c :: rest => c :: unstray rest

/-- Each bracket behind a backslash begins a tag. -/
def Guarded (cs : List Char) : Prop := ∀ rest, '\\' :: '[' :: rest <:+ cs → (tag? rest).isSome

theorem unstray_eq_self_iff (cs : List Char) : unstray cs = cs ↔ Guarded cs := by
  fun_induction unstray cs with
  | case1 => simp [Guarded]
  | case2 rest htag ih =>
    rw [List.cons_inj_right, List.cons_inj_right, ih]
    constructor
    · intro h more hmore
      rcases List.suffix_cons_iff.1 hmore with heq | hin
      · obtain rfl := (List.cons.inj (List.cons.inj heq).2).2
        exact htag
      · rcases List.suffix_cons_iff.1 hin with heq | hin
        · cases (List.cons.inj heq).1
        · exact h more hin
    · exact fun h more hmore => h more (hmore.trans ((List.suffix_cons _ _).trans (List.suffix_cons _ _)))
  | case3 rest htag ih =>
    constructor
    · intro h
      cases (List.cons.inj h).1
    · exact fun h => absurd (h rest List.suffix_rfl) htag
  | case4 c rest hno ih =>
    rw [List.cons_inj_right, ih]
    constructor
    · intro h more hmore
      rcases List.suffix_cons_iff.1 hmore with heq | hin
      · obtain ⟨rfl, rfl⟩ := List.cons.inj heq
        exact absurd rfl (hno more rfl)
      · exact h more hin
    · exact fun h more hmore => h more (hmore.trans (List.suffix_cons _ _))

theorem unstray_append {front : List Char} (hopen : '[' ∉ front) (hlast : front.getLast? ≠ some '\\')
    (more : List Char) : unstray (front ++ more) = front ++ unstray more := by
  induction front with
  | nil => rfl
  | cons c front ih =>
    simp only [List.mem_cons, not_or] at hopen
    have hno : ∀ tail, c = '\\' → front ++ more = '[' :: tail → False := by
      rintro tail rfl htail
      cases front with
      | nil => exact hlast rfl
      | cons d front => exact hopen.2 (by rw [(List.cons.inj htail).1]; exact List.mem_cons_self)
    rw [List.cons_append, unstray, ih hopen.2 fun he => hlast (by simp [List.getLast?_cons, he])]
    · rfl
    · exact hno

private theorem unstray_inert {plain more : List Char} (h : Inert plain) (hmore : upToClose? more = none) :
    unstray (plain ++ more) = unslash plain ++ unstray more := by
  fun_induction unslash plain with
  | case1 => rfl
  | case2 rest ih =>
    have htag := tag?_append_of_quiet (h.noTag rest (List.suffix_cons _ _)) hmore
    show unstray ('\\' :: '[' :: (rest ++ more)) = _
    rw [unstray, htag, ih (h.of_suffix ((List.suffix_cons _ _).trans (List.suffix_cons _ _)))]
    rfl
  | case3 c rest hno ih =>
    have hno' : ∀ tail, c = '\\' → rest ++ more = '[' :: tail → False := by
      rintro tail rfl htail
      cases rest with
      | nil => exact h.last rfl
      | cons d rest =>
        obtain ⟨rfl, -⟩ := List.cons.inj htail
        exact hno rest rfl rfl
    rw [List.cons_append, unstray, ih (h.of_suffix (List.suffix_cons _ _))]
    · rfl
    · exact hno'

private theorem unstray_tag {body : List Char} (h : IsBody body) (n : Nat) (more : List Char) :
    unstray (backslashes n ++ '[' :: (body ++ ']' :: more)) =
      backslashes n ++ '[' :: (body ++ ']' :: unstray more) := by
  have hbody : unstray (body ++ ']' :: more) = body ++ ']' :: unstray more := by
    have := @unstray_append (body ++ [']']) (by simp [h.notOpen]) (by simp) more
    simpa only [List.append_assoc, List.singleton_append] using this
  match n with
  | 0 =>
    show unstray ('[' :: (body ++ ']' :: more)) = '[' :: _
    rw [unstray, hbody]
    nofun
  | 1 =>
    show unstray ('\\' :: '[' :: (body ++ ']' :: more)) = '\\' :: '[' :: _
    rw [unstray, tag?_eq_some_iff.2 ⟨rfl, h⟩, hbody]
    rfl
  | n + 2 =>
    have ih := unstray_tag h (n + 1) more
    show unstray ('\\' :: (backslashes (n + 1) ++ '[' :: (body ++ ']' :: more))) = '\\' :: (backslashes (n + 1) ++ _)
    rw [← ih, unstray]
    rintro tail - htail
    cases (List.cons.inj htail).1

/-! ### Spans as they are shown -/

/-- The characters that a message is shown as. -/
def shown (cs : List Char) : List Char := (render (String.ofList cs)).flatMap Run.text

/-- The characters that a piece of a message is shown as. -/
def Piece.shown : Piece → List Char
  | .plain text => unslash text
  | .tag slashes body => backslashes (slashes / 2) ++ if slashes % 2 = 1 then bracketed body else []

/-- The characters that a span is shown as. -/
def Span.shown (s : Span) : List Char := unslash s.plain ++ (Piece.tag s.slashes s.body).shown

private theorem text_finishRun (opened : Open) (text : List Char) :
    (runsFrom.finishRun opened text).flatMap Run.text = text.reverse := by
  unfold runsFrom.finishRun
  split
  · next h => simp [List.isEmpty_iff.1 h]
  · simp

/-- A tag that stays one ends a run and changes what is open. -/
private theorem runsFrom_tag {slashes : Nat} (h : ¬slashes % 2 = 1) (opened : Open) (text body : List Char)
    (ps : List Piece) :
    ∃ opened', runsFrom opened text (.tag slashes body :: ps) =
      runsFrom.finishRun opened (backslashes (slashes / 2) ++ text) ++ runsFrom opened' [] ps := by
  rw [runsFrom, if_neg h]
  extract_lets run
  split
  · exact ⟨_, rfl⟩
  · exact ⟨_, rfl⟩

private theorem flatMap_runsFrom (opened : Open) (text : List Char) (ps : List Piece) :
    (runsFrom opened text ps).flatMap Run.text = text.reverse ++ ps.flatMap Piece.shown := by
  induction ps generalizing opened text with
  | nil => rw [runsFrom, text_finishRun, List.flatMap_nil, List.append_nil]
  | cons p ps ih =>
    rw [List.flatMap_cons]
    cases p with
    | plain cs => simp [runsFrom, ih, Piece.shown]
    | tag slashes body =>
      by_cases hodd : slashes % 2 = 1
      · rw [runsFrom, if_pos hodd, ih]
        simp [Piece.shown, hodd]
      · obtain ⟨opened', heq⟩ := runsFrom_tag hodd opened text body ps
        rw [heq, List.flatMap_append, text_finishRun, ih]
        simp [Piece.shown, hodd]

private theorem flatMap_shown_plainPiece (reversed : List Char) :
    (plainPiece reversed).flatMap Piece.shown = unslash reversed.reverse := by
  unfold plainPiece
  split
  · next h => simp [List.isEmpty_iff.1 h, unslash]
  · simp [Piece.shown]

private theorem mem_spanned_of_ne_nil {spans : List Span} (h : spans ≠ []) (plain : List Char) (slashes : Nat) :
    '[' ∈ spanned spans plain slashes := by
  obtain ⟨s, rest, rfl⟩ := List.exists_cons_of_ne_nil h
  simp [spanned, Span.chars, bracketed]

/-- A message is shown span by span. -/
theorem shown_spanned {spans : List Span} {plain : List Char} (hspans : ∀ s ∈ spans, s.Proper) (hplain : Inert plain)
    (slashes : Nat) :
    shown (spanned spans plain slashes) = spans.flatMap Span.shown ++ (unslash plain ++ backslashes slashes) := by
  unfold shown render
  simp only [String.toList_ofList]
  by_cases hopen : '[' ∈ spanned spans plain slashes
  · have hend : unslash (plain ++ backslashes slashes) = unslash plain ++ backslashes slashes := by
      rw [unslash_append (Or.inl hplain.last), unslash_backslashes]
    rw [if_pos (by simpa using hopen), flatMap_runsFrom, pieces_spanned hspans hplain, List.flatMap_append,
      flatMap_shown_plainPiece, List.reverse_append, reverse_backslashes, List.reverse_reverse, hend,
      List.flatMap_assoc, List.reverse_nil, List.nil_append]
    congr 1
    refine List.flatMap_congr fun s _ => ?_
    rw [List.flatMap_append, flatMap_shown_plainPiece, List.reverse_reverse]
    simp [Span.shown]
  · -- A message without brackets has no spans, and stands as it is.
    have hnil : spans = [] := by
      by_contra hne
      exact hopen (mem_spanned_of_ne_nil hne plain slashes)
    subst hnil
    have hplain' : unslash plain = plain := unslash_of_notMem fun h => hopen (by simp [spanned, h])
    rw [if_neg (by simpa using hopen), hplain']
    split
    · next h => simpa [spanned] using h
    · simp [spanned]

theorem shown_concat {spans : List Span} (hspans : ∀ s ∈ spans, s.Proper) {last : Span} (hlast : last.Proper) :
    shown (spans.flatMap Span.chars ++ last.chars) = spans.flatMap Span.shown ++ last.shown := by
  have heq : spans.flatMap Span.chars ++ last.chars = spanned (spans ++ [last]) [] 0 := by simp [spanned, backslashes]
  rw [heq, shown_spanned (List.forall_mem_append.2 ⟨hspans, List.forall_mem_singleton.2 hlast⟩) inert_nil]
  simp [unslash, backslashes]

theorem Span.shown_sublist (s : Span) : s.shown.Sublist s.chars := by
  have hhalf : (backslashes (s.slashes / 2)).Sublist (backslashes s.slashes) :=
    (List.replicate_sublist_replicate _).2 (Nat.div_le_self _ _)
  refine (unslash_sublist s.plain).append (hhalf.append ?_)
  split
  · exact List.Sublist.refl _
  · exact List.nil_sublist _

/-- Rendering makes up no characters. -/
theorem shown_sublist (cs : List Char) : (shown cs).Sublist cs := by
  obtain ⟨spans, plain, slashes, hspans, hplain, rfl⟩ := exists_spanned cs
  rw [shown_spanned hspans hplain]
  refine List.Sublist.append ?_ ((unslash_sublist plain).append (List.Sublist.refl _))
  clear hspans
  induction spans with
  | nil => exact List.Sublist.refl _
  | cons s spans ih => exact s.shown_sublist.append ih

/-- Text without brackets and backslashes at the front of a message is shown as it is. -/
theorem shown_bland_append {lead : List Char} (h : Bland lead) (cs : List Char) :
    shown (lead ++ cs) = lead ++ shown cs := by
  have hunslash : ∀ plain, unslash (lead ++ plain) = lead ++ unslash plain := by
    intro plain
    rw [unslash_append, unslash_of_notMem fun hin => (h _ hin).1 rfl]
    exact Or.inl fun hlast => (h _ (List.mem_of_getLast? hlast)).2.2 rfl
  obtain ⟨spans, plain, slashes, hspans, hplain, rfl⟩ := exists_spanned cs
  rw [shown_spanned hspans hplain]
  -- The text joins the plain text of the first span, or that at the end.
  cases spans with
  | nil =>
    have heq : lead ++ spanned [] plain slashes = spanned [] (lead ++ plain) slashes := by simp [spanned]
    rw [heq, shown_spanned (List.forall_mem_nil _) (h.append hplain), hunslash]
    simp
  | cons s rest =>
    obtain ⟨hs, hrest⟩ := List.forall_mem_cons.1 hspans
    have hs' : Span.Proper { s with plain := lead ++ s.plain } := ⟨h.append hs.plain, hs.body⟩
    have heq : lead ++ spanned (s :: rest) plain slashes =
        spanned ({ s with plain := lead ++ s.plain } :: rest) plain slashes := by
      simp [spanned, Span.chars]
    rw [heq, shown_spanned (List.forall_mem_cons.2 ⟨hs', hrest⟩) hplain]
    simp [Span.shown, hunslash]

/-- A tag at the front of a message does not show. -/
theorem shown_tag_append {body : List Char} (h : IsBody body) (cs : List Char) :
    shown (bracketed body ++ cs) = shown cs := by
  obtain ⟨spans, plain, slashes, hspans, hplain, rfl⟩ := exists_spanned cs
  have heq : bracketed body ++ spanned spans plain slashes = spanned (⟨[], 0, body⟩ :: spans) plain slashes := by
    simp [spanned, Span.chars, backslashes]
  rw [heq, shown_spanned (List.forall_mem_cons.2 ⟨⟨inert_nil, h⟩, hspans⟩) hplain, shown_spanned hspans hplain]
  simp [Span.shown, Piece.shown, unslash, backslashes]

/-! ### Escaped texts -/

/-- The span without the backslashes that stand before a bracket and no tag. -/
def Span.unslashed (s : Span) : Span := { s with plain := unslash s.plain }

/-- The backslashes that are lost stand in the plain text. -/
theorem unstray_spanned {spans : List Span} {plain : List Char} (hspans : ∀ s ∈ spans, s.Proper)
    (hplain : Inert plain) (slashes : Nat) :
    unstray (spanned spans plain slashes) = spanned (spans.map Span.unslashed) (unslash plain) slashes := by
  induction spans with
  | nil =>
    have hend : unstray (backslashes slashes) = backslashes slashes := by
      rw [unstray_eq_self_iff]
      intro rest hrest
      have hopen : '[' ∈ backslashes slashes := hrest.mem (by simp)
      exact absurd (List.eq_of_mem_replicate hopen) (by decide)
    show unstray (plain ++ backslashes slashes) = unslash plain ++ backslashes slashes
    rw [unstray_inert hplain (upToClose?_backslashes slashes), hend]
  | cons s spans ih =>
    obtain ⟨hs, hrest⟩ := List.forall_mem_cons.1 hspans
    rw [List.map_cons, spanned_cons, spanned_cons, unstray_inert hs.plain (upToClose?_backslashes_append rfl _),
      unstray_tag hs.body, ih hrest]
    rfl

theorem Span.shown_doubled (s : Span) : s.doubled.shown = s.unslashed.chars := by
  have hhalf : (2 * s.slashes + 1) / 2 = s.slashes := by omega
  have hodd : (2 * s.slashes + 1) % 2 = 1 := by omega
  simp [Span.shown, Span.doubled, Span.unslashed, Span.chars, Piece.shown, hhalf, hodd]

/-- The number of backslashes at the end of a text. -/
def endSlashes (cs : List Char) : Nat := (cs.reverse.takeWhile (· = '\\')).length

theorem endSlashes_append_backslashes {front : List Char} (h : front.getLast? ≠ some '\\') (n : Nat) :
    endSlashes (front ++ backslashes n) = n := by
  have hfront : front.reverse.takeWhile (· = '\\') = [] := by
    rw [← List.head?_reverse] at h
    cases hcs : front.reverse with
    | nil => rfl
    | cons c rest =>
      rw [hcs] at h
      exact List.takeWhile_cons_of_neg (by simpa using h)
  unfold endSlashes
  rw [List.reverse_append, reverse_backslashes]
  induction n with
  | zero => exact congrArg List.length hfront
  | succ n ih =>
    show (('\\' :: (backslashes n ++ front.reverse)).takeWhile _).length = n + 1
    rw [List.takeWhile_cons_of_pos (by simp), List.length_cons, ih]

private theorem endSlashes_spanned (spans : List Span) {plain : List Char} (h : plain.getLast? ≠ some '\\')
    (slashes : Nat) : endSlashes (spanned spans plain slashes) = slashes := by
  rw [spanned, ← List.append_assoc]
  exact endSlashes_append_backslashes (getLast?_spans_append h) slashes

private theorem closeBackslash_spanned (spans : List Span) {plain : List Char} (h : plain.getLast? ≠ some '\\')
    (slashes : Nat) :
    closeBackslash (spanned spans plain slashes) = spanned spans plain (if slashes = 1 then 2 else slashes) := by
  rw [spanned, ← List.append_assoc, closeBackslash_append (getLast?_spans_append h), List.append_assoc]
  rfl

private theorem getLast?_unslash_ne {plain : List Char} (h : Inert plain) : (unslash plain).getLast? ≠ some '\\' := by
  rw [getLast?_unslash]
  exact h.last

private theorem doubled_proper {spans : List Span} (h : ∀ s ∈ spans, s.Proper) :
    ∀ s ∈ spans.map Span.doubled, s.Proper :=
  List.forall_mem_map.2 fun s hs => (h s hs).doubled

private theorem flatMap_shown_doubled (spans : List Span) :
    (spans.map Span.doubled).flatMap Span.shown = (spans.map Span.unslashed).flatMap Span.chars := by
  rw [List.flatMap_map, List.flatMap_map]
  exact List.flatMap_congr fun s _ => s.shown_doubled

theorem endSlashes_unstray (cs : List Char) : endSlashes (unstray cs) = endSlashes cs := by
  obtain ⟨spans, plain, slashes, hspans, hplain, rfl⟩ := exists_spanned cs
  rw [unstray_spanned hspans hplain, endSlashes_spanned _ (getLast?_unslash_ne hplain),
    endSlashes_spanned _ hplain.last]

/-- What an escaped text is shown as if nothing follows it. -/
theorem shown_escapeChars (cs : List Char) : shown (escapeChars cs) = closeBackslash (unstray cs) := by
  obtain ⟨spans, plain, slashes, hspans, hplain, rfl⟩ := exists_spanned cs
  rw [escapeChars_spanned hspans hplain, shown_spanned (doubled_proper hspans) hplain, flatMap_shown_doubled,
    unstray_spanned hspans hplain, closeBackslash_spanned _ (getLast?_unslash_ne hplain)]
  rfl

/-- What an escaped text is shown as if a mark and a tag follow it. -/
theorem shown_escapeChars_marked {mark body : List Char} (hmark : Bland mark) (hne : mark ≠ []) (hbody : IsBody body)
    (cs : List Char) :
    shown (escapeChars cs ++ (mark ++ bracketed body)) = closeBackslash (unstray cs) ++ mark := by
  obtain ⟨spans, plain, slashes, hspans, hplain, rfl⟩ := exists_spanned cs
  rw [escapeChars_spanned hspans hplain, unstray_spanned hspans hplain,
    closeBackslash_spanned _ (getLast?_unslash_ne hplain)]
  generalize (if slashes = 1 then 2 else slashes) = n
  -- The mark belongs to the plain text of the last span.
  have hlast : Span.Proper ⟨plain ++ (backslashes n ++ mark), 0, body⟩ := ⟨hplain.append_mark hmark hne n, hbody⟩
  have heq : spanned (spans.map Span.doubled) plain n ++ (mark ++ bracketed body) =
      (spans.map Span.doubled).flatMap Span.chars ++ Span.chars ⟨plain ++ (backslashes n ++ mark), 0, body⟩ := by
    simp [spanned, Span.chars, backslashes]
  have hopen : '[' ∉ backslashes n ++ mark := fun h => (hmark.no_bracket n _ h).1 rfl
  rw [heq, shown_concat (doubled_proper hspans) hlast, flatMap_shown_doubled, Span.shown,
    unslash_append (Or.inl hplain.last), unslash_of_notMem hopen]
  simp [spanned, Piece.shown, backslashes]

/-- What an escaped text is shown as if a tag follows it. -/
theorem shown_escapeChars_closed {body : List Char} (hbody : IsBody body) (cs : List Char) :
    ∃ front, front.getLast? ≠ some '\\' ∧ unstray cs = front ++ backslashes (endSlashes cs) ∧
      shown (escapeChars cs ++ bracketed body) =
        front ++ (Piece.tag (if endSlashes cs = 1 then 2 else endSlashes cs) body).shown := by
  obtain ⟨spans, plain, slashes, hspans, hplain, rfl⟩ := exists_spanned cs
  rw [endSlashes_spanned _ hplain.last, escapeChars_spanned hspans hplain, unstray_spanned hspans hplain]
  generalize (if slashes = 1 then 2 else slashes) = n
  have hlast : Span.Proper ⟨plain, n, body⟩ := ⟨hplain, hbody⟩
  have heq : spanned (spans.map Span.doubled) plain n ++ bracketed body =
      (spans.map Span.doubled).flatMap Span.chars ++ Span.chars ⟨plain, n, body⟩ := by
    simp [spanned, Span.chars]
  refine ⟨_, getLast?_spans_append (getLast?_unslash_ne hplain), (List.append_assoc ..).symm, ?_⟩
  rw [heq, shown_concat (doubled_proper hspans) hlast, flatMap_shown_doubled, Span.shown, List.append_assoc]

/-! ### Texts that are shown as they are -/

private theorem closeBackslash_eq (cs : List Char) :
    closeBackslash cs = if endSlashes cs = 1 then cs ++ ['\\'] else cs := by
  obtain ⟨spans, plain, slashes, hspans, hplain, rfl⟩ := exists_spanned cs
  rw [closeBackslash_spanned _ hplain.last, endSlashes_spanned _ hplain.last]
  by_cases hone : slashes = 1
  · simp [hone, spanned, backslashes, List.replicate_succ]
  · simp [hone]

private theorem endSlashes_concat (cs : List Char) : endSlashes (cs ++ ['\\']) = endSlashes cs + 1 := by
  simp [endSlashes]

theorem closeBackslash_unstray_eq_iff (cs : List Char) :
    closeBackslash (unstray cs) = cs ↔ Guarded cs ∧ endSlashes cs ≠ 1 := by
  rw [closeBackslash_eq, endSlashes_unstray, ← unstray_eq_self_iff]
  constructor
  · intro h
    by_cases hone : endSlashes cs = 1
    · -- One backslash at the end has become two.
      rw [if_pos hone] at h
      have htwo := endSlashes_concat (unstray cs)
      rw [h, endSlashes_unstray] at htwo
      omega
    · rw [if_neg hone] at h
      exact ⟨h, hone⟩
  · rintro ⟨h, hne⟩
    rw [if_neg hne, h]

theorem shown_escapeChars_closed_iff {body : List Char} (hbody : IsBody body) (cs : List Char) :
    shown (escapeChars cs ++ bracketed body) = cs ↔ Guarded cs ∧ endSlashes cs ≤ 1 := by
  obtain ⟨front, hfront, hunstray, hshown⟩ := shown_escapeChars_closed hbody cs
  rw [hshown, ← unstray_eq_self_iff, Piece.shown]
  generalize hn : (if endSlashes cs = 1 then 2 else endSlashes cs) = n
  constructor
  · intro h
    by_cases hodd : n % 2 = 1
    · -- The closing tag is shown, so that the text ends in a bracket and not in backslashes.
      have hlast : cs.getLast? = some ']' := by
        rw [← h, if_pos hodd, ← List.append_assoc, bracketed, ← List.append_assoc]
        exact List.getLast?_concat
      have hne : cs.getLast? ≠ some '\\' := by
        rw [hlast]
        decide
      have hnone := endSlashes_append_backslashes hne 0
      rw [show cs ++ backslashes 0 = cs from List.append_nil cs] at hnone
      rw [hnone, if_neg (by decide)] at hn
      omega
    · rw [if_neg hodd, List.append_nil] at h
      have hhalf := endSlashes_append_backslashes hfront (n / 2)
      rw [h] at hhalf
      have hle : endSlashes cs ≤ 1 := by
        split at hn <;> omega
      have heq : n / 2 = endSlashes cs := hhalf.symm
      exact ⟨by rw [hunstray, ← heq, h], hle⟩
  · rintro ⟨h, hle⟩
    have hhalf : n / 2 = endSlashes cs := by
      split at hn <;> omega
    have heven : ¬n % 2 = 1 := by
      split at hn <;> omega
    rw [if_neg heven, List.append_nil, hhalf, ← hunstray, h]

end CommandShell.Markup
