import CommandShell.Markup
import Mathlib.Data.List.Basic

/-!
# Texts and their tags

A text is a sequence of spans, plain text with a tag behind it, and of plain text at its end (`exists_spanned`); the
backslashes before a tag, and those at the end, are counted. Cutting a message into pieces finds the spans that it is
made of (`pieces_spanned`), and escaping makes the backslashes before each tag an odd number (`escapeChars_spanned`).
-/

namespace CommandShell.Markup

/-! ### Tags -/

/-- What can stand between the brackets of a tag. -/
structure IsBody (body : List Char) : Prop where
  begins : ∃ c ∈ body.head?, beginsTag c = true
  notOpen : '[' ∉ body
  notClose : ']' ∉ body

theorem upToClose?_eq_some_iff {cs body after : List Char} :
    upToClose? cs = some (body, after) ↔ cs = body ++ ']' :: after ∧ '[' ∉ body ∧ ']' ∉ body := by
  fun_induction upToClose? cs generalizing body with
  | case1 => simp
  | case2 rest =>
    constructor
    · intro h
      obtain ⟨rfl, rfl⟩ := Prod.mk.inj (Option.some.inj h)
      simp
    · rintro ⟨heq, -, hclose⟩
      cases body with
      | nil => rw [(List.cons.inj heq).2]
      | cons d body =>
        obtain ⟨rfl, -⟩ := List.cons.inj heq
        exact absurd List.mem_cons_self hclose
  | case3 rest _ =>
    constructor
    · intro h
      cases h
    · rintro ⟨heq, hopen, -⟩
      cases body with
      | nil => cases (List.cons.inj heq).1
      | cons d body =>
        obtain ⟨rfl, -⟩ := List.cons.inj heq
        exact absurd List.mem_cons_self hopen
  | case4 c rest hclose hopen ih =>
    rw [Option.map_eq_some_iff]
    constructor
    · rintro ⟨⟨body', after'⟩, h, heq⟩
      obtain ⟨rfl, rfl⟩ := Prod.mk.inj heq
      obtain ⟨rfl, ho, hc⟩ := ih.1 h
      exact ⟨rfl, by simp [ho, Ne.symm hopen], by simp [hc, Ne.symm (show c ≠ ']' from hclose)]⟩
    · rintro ⟨heq, ho, hc⟩
      cases body with
      | nil => exact absurd (List.cons.inj heq).1 hclose
      | cons d body =>
        obtain ⟨rfl, rfl⟩ := List.cons.inj heq
        simp only [List.mem_cons, not_or] at ho hc
        exact ⟨(body, after), ih.2 ⟨rfl, ho.2, hc.2⟩, rfl⟩

theorem tag?_cons (c : Char) (rest : List Char) :
    tag? (c :: rest) =
      if beginsTag c then (upToClose? rest).map fun (body, after) => (c :: body, after) else none := rfl

theorem tag?_eq_some_iff {cs body after : List Char} :
    tag? cs = some (body, after) ↔ cs = body ++ ']' :: after ∧ IsBody body := by
  have hbracket : ∀ c, beginsTag c = true → c ≠ '[' ∧ c ≠ ']' := by
    rintro c hc
    constructor <;> rintro rfl <;> exact absurd hc (by decide)
  cases cs with
  | nil => simp [tag?]
  | cons c rest =>
    rw [tag?_cons]
    constructor
    · intro h
      split at h
      · next hc =>
        obtain ⟨⟨body', after'⟩, hup, heq⟩ := Option.map_eq_some_iff.1 h
        obtain ⟨rfl, rfl⟩ := Prod.mk.inj heq
        obtain ⟨rfl, ho, hclose⟩ := upToClose?_eq_some_iff.1 hup
        obtain ⟨hne, hne'⟩ := hbracket c hc
        exact ⟨rfl, ⟨c, rfl, hc⟩, by simp [ho, hne.symm], by simp [hclose, hne'.symm]⟩
      · cases h
    · rintro ⟨heq, ⟨d, hd, hbegins⟩, ho, hclose⟩
      cases body with
      | nil => cases hd
      | cons d' body =>
        obtain rfl : d' = d := Option.some.inj hd
        obtain ⟨rfl, hrest⟩ := List.cons.inj heq
        simp only [List.mem_cons, not_or] at ho hclose
        rw [if_pos hbegins, upToClose?_eq_some_iff.2 ⟨hrest, ho.2, hclose.2⟩]
        rfl

/-- A tag stays one whatever follows. -/
theorem tag?_append_eq_none {cs more : List Char} (h : tag? (cs ++ more) = none) : tag? cs = none := by
  cases htag : tag? cs with
  | none => rfl
  | some found =>
    obtain ⟨body, after⟩ := found
    obtain ⟨rfl, hbody⟩ := tag?_eq_some_iff.1 htag
    rw [List.append_assoc, List.cons_append, tag?_eq_some_iff.2 ⟨rfl, hbody⟩] at h
    cases h

/-- Nothing becomes a tag through what follows if no bracket is closed there before one is opened. -/
theorem tag?_append_of_quiet {cs more : List Char} (h : tag? cs = none) (hmore : upToClose? more = none) :
    tag? (cs ++ more) = none := by
  cases htag : tag? (cs ++ more) with
  | none => rfl
  | some found =>
    obtain ⟨body, after⟩ := found
    obtain ⟨heq, hbody⟩ := tag?_eq_some_iff.1 htag
    -- The closing bracket stands in the text, or what follows closes one.
    rcases List.append_eq_append_iff.1 heq with ⟨behind, rfl, rfl⟩ | ⟨behind, rfl, hbehind⟩
    · have hopen : '[' ∉ behind := fun hin => hbody.notOpen (List.mem_append_right _ hin)
      have hclose : ']' ∉ behind := fun hin => hbody.notClose (List.mem_append_right _ hin)
      rw [upToClose?_eq_some_iff.2 ⟨rfl, hopen, hclose⟩] at hmore
      cases hmore
    · cases behind with
      | nil =>
        rw [List.nil_append] at hbehind
        rw [← hbehind] at hmore
        cases hmore
      | cons c behind =>
        obtain ⟨rfl, rfl⟩ := List.cons.inj hbehind
        rw [tag?_eq_some_iff.2 ⟨rfl, hbody⟩] at h
        cases h

theorem upToClose?_backslashes_append {more : List Char} (h : upToClose? more = none) (n : Nat) :
    upToClose? (backslashes n ++ more) = none := by
  induction n with
  | zero => exact h
  | succ n ih =>
    show upToClose? ('\\' :: (backslashes n ++ more)) = none
    simp [upToClose?, ih]

theorem upToClose?_backslashes (n : Nat) : upToClose? (backslashes n) = none := by
  have h := upToClose?_backslashes_append (show upToClose? [] = none from rfl) n
  rwa [List.append_nil] at h

/-! ### Plain text -/

/-- Plain text that holds no tag; backslashes at its end are not counted with it. -/
structure Inert (plain : List Char) : Prop where
  last : plain.getLast? ≠ some '\\'
  noTag : ∀ rest, '[' :: rest <:+ plain → tag? rest = none

theorem inert_nil : Inert [] := ⟨nofun, fun rest h => by simp at h⟩

theorem Inert.cons {c : Char} {plain : List Char} (h : Inert plain) (hlast : c = '\\' → plain ≠ [])
    (htag : c = '[' → tag? plain = none) : Inert (c :: plain) := by
  refine ⟨?_, fun rest hrest => ?_⟩
  · cases plain with
    | nil =>
      rintro ⟨⟩
      exact hlast rfl rfl
    | cons d plain =>
      rw [List.getLast?_cons_cons]
      exact h.last
  · rcases List.suffix_cons_iff.1 hrest with heq | hin
    · obtain ⟨rfl, rfl⟩ := List.cons.inj heq
      exact htag rfl
    · exact h.noTag rest hin

theorem Inert.of_suffix {rest plain : List Char} (h : Inert plain) (hrest : rest <:+ plain) : Inert rest := by
  refine ⟨fun hlast => ?_, fun more hmore => h.noTag more (hmore.trans hrest)⟩
  obtain ⟨front, rfl⟩ := hrest
  exact h.last (by rw [List.getLast?_append, hlast]; rfl)

/-- Text without brackets and backslashes. -/
def Bland (cs : List Char) : Prop := ∀ c ∈ cs, c ≠ '[' ∧ c ≠ ']' ∧ c ≠ '\\'

instance (cs : List Char) : Decidable (Bland cs) := List.decidableBAll _ cs

theorem Bland.append {front cs : List Char} (hfront : Bland front) (h : Inert cs) : Inert (front ++ cs) := by
  induction front with
  | nil => exact h
  | cons c front ih =>
    obtain ⟨⟨hopen, -, hslash⟩, hrest⟩ := List.forall_mem_cons.1 hfront
    exact (ih hrest).cons (fun hc => absurd hc hslash) fun hc => absurd hc hopen

theorem Bland.no_bracket {mark : List Char} (h : Bland mark) (n : Nat) :
    ∀ c ∈ backslashes n ++ mark, c ≠ '[' ∧ c ≠ ']' := by
  intro c hc
  rcases List.mem_append.1 hc with hc | hc
  · rw [List.eq_of_mem_replicate hc]
    decide
  · exact ⟨(h c hc).1, (h c hc).2.1⟩

/-- A mark at the end of plain text, with some backslashes before it. -/
theorem Inert.append_mark {plain mark : List Char} (h : Inert plain) (hmark : Bland mark) (hne : mark ≠ []) (n : Nat) :
    Inert (plain ++ (backslashes n ++ mark)) := by
  have hquiet : upToClose? (backslashes n ++ mark) = none := by
    cases hup : upToClose? (backslashes n ++ mark) with
    | none => rfl
    | some found =>
      obtain ⟨heq, -, -⟩ := upToClose?_eq_some_iff.1 hup
      exact absurd rfl (hmark.no_bracket n ']' (by rw [heq]; simp)).2
  refine ⟨fun hlast => ?_, fun rest hrest => ?_⟩
  · rw [← List.append_assoc, List.getLast?_append_of_ne_nil _ hne] at hlast
    exact (hmark _ (List.mem_of_getLast? hlast)).2.2 rfl
  · obtain ⟨front, heq⟩ := hrest
    have hopen : '[' ∉ backslashes n ++ mark := fun hin => (hmark.no_bracket n _ hin).1 rfl
    -- The bracket stands in the plain text.
    rcases List.append_eq_append_iff.1 heq with ⟨mid, rfl, hmid⟩ | ⟨mid, -, hmid⟩
    · cases mid with
      | nil => exact absurd (by rw [← List.nil_append (backslashes n ++ mark), ← hmid]; simp) hopen
      | cons c mid =>
        obtain ⟨rfl, rfl⟩ := List.cons.inj hmid
        exact tag?_append_of_quiet (h.noTag mid (List.suffix_append _ _)) hquiet
    · exact absurd (by rw [hmid]; simp) hopen

/-! ### Spans -/

/-- Plain text, and behind it a tag with some backslashes before it. -/
structure Span where
  plain : List Char
  slashes : Nat
  body : List Char

namespace Span

/-- The characters of a span. -/
def chars (s : Span) : List Char := s.plain ++ (backslashes s.slashes ++ bracketed s.body)

/-- A span that is what it looks like. -/
structure Proper (s : Span) : Prop where
  plain : Inert s.plain
  body : IsBody s.body

/-- The span in escaped form. -/
def doubled (s : Span) : Span := { s with slashes := 2 * s.slashes + 1 }

theorem Proper.doubled {s : Span} (h : s.Proper) : s.doubled.Proper := ⟨h.plain, h.body⟩

end Span

/-- Spans, and plain text with some backslashes behind them. -/
def spanned (spans : List Span) (plain : List Char) (slashes : Nat) : List Char :=
  spans.flatMap Span.chars ++ (plain ++ backslashes slashes)

theorem spanned_cons (s : Span) (spans : List Span) (plain : List Char) (slashes : Nat) :
    spanned (s :: spans) plain slashes =
      s.plain ++ (backslashes s.slashes ++ '[' :: (s.body ++ ']' :: spanned spans plain slashes)) := by
  simp [spanned, Span.chars, bracketed]

private theorem exists_spanned_cons {c : Char} {spans : List Span} {plain : List Char} {slashes : Nat}
    (hspans : ∀ s ∈ spans, s.Proper) (hplain : Inert plain)
    (htag : c = '[' → tag? (spanned spans plain slashes) = none) :
    ∃ spans' plain' slashes', (∀ s ∈ spans', s.Proper) ∧ Inert plain' ∧
      c :: spanned spans plain slashes = spanned spans' plain' slashes' := by
  -- The character joins the plain text at the front, unless it is a backslash and there is none.
  cases spans with
  | nil =>
    by_cases hslash : c = '\\' ∧ plain = []
    · obtain ⟨rfl, rfl⟩ := hslash
      exact ⟨[], [], slashes + 1, nofun, inert_nil, rfl⟩
    · refine ⟨[], c :: plain, slashes, nofun, hplain.cons (fun hc hnil => hslash ⟨hc, hnil⟩) ?_, rfl⟩
      exact fun hc => tag?_append_eq_none (htag hc)
  | cons s rest =>
    obtain ⟨hs, hrest⟩ := List.forall_mem_cons.1 hspans
    by_cases hslash : c = '\\' ∧ s.plain = []
    · obtain ⟨rfl, hnil⟩ := hslash
      refine ⟨{ s with slashes := s.slashes + 1 } :: rest, plain, slashes,
        List.forall_mem_cons.2 ⟨⟨hs.plain, hs.body⟩, hrest⟩, hplain, ?_⟩
      rw [spanned_cons, spanned_cons, hnil]
      rfl
    · refine ⟨{ s with plain := c :: s.plain } :: rest, plain, slashes,
        List.forall_mem_cons.2 ⟨⟨hs.plain.cons (fun hc hnil => hslash ⟨hc, hnil⟩) fun hc => ?_, hs.body⟩, hrest⟩,
        hplain, ?_⟩
      · have := htag hc
        rw [spanned_cons] at this
        exact tag?_append_eq_none this
      · rw [spanned_cons, spanned_cons]
        rfl

/-- Every text is made of spans, and of plain text at its end. -/
theorem exists_spanned (cs : List Char) :
    ∃ spans plain slashes, (∀ s ∈ spans, s.Proper) ∧ Inert plain ∧ cs = spanned spans plain slashes := by
  cases cs with
  | nil => exact ⟨[], [], 0, nofun, inert_nil, rfl⟩
  | cons c rest =>
    by_cases hbracket : c = '[' ∧ (tag? rest).isSome
    · obtain ⟨rfl, hsome⟩ := hbracket
      obtain ⟨⟨body, after⟩, htag⟩ := Option.isSome_iff_exists.1 hsome
      have hshorter := length_of_tag? htag
      obtain ⟨rfl, hbody⟩ := tag?_eq_some_iff.1 htag
      obtain ⟨spans, plain, slashes, hspans, hplain, hafter⟩ := exists_spanned after
      refine ⟨⟨[], 0, body⟩ :: spans, plain, slashes, List.forall_mem_cons.2 ⟨⟨inert_nil, hbody⟩, hspans⟩, hplain, ?_⟩
      rw [spanned_cons, ← hafter]
      rfl
    · obtain ⟨spans, plain, slashes, hspans, hplain, hrest⟩ := exists_spanned rest
      rw [hrest]
      refine exists_spanned_cons hspans hplain fun hc => ?_
      rw [← hrest]
      simpa [hc] using hbracket
termination_by cs.length
decreasing_by
  all_goals simp_wf
  all_goals subst_vars
  all_goals simp
  all_goals omega

/-! ### Pieces -/

private theorem piecesFrom_plain {plain more : List Char} (h : Inert plain) (hne : plain ≠ [])
    (hmore : upToClose? more = none) (before : List Char) (n : Nat) :
    piecesFrom before n (plain ++ more) = piecesFrom (plain.reverse ++ (backslashes n ++ before)) 0 more := by
  induction plain generalizing before n with
  | nil => exact absurd rfl hne
  | cons c plain ih =>
    rw [List.cons_append, piecesFrom]
    by_cases hslash : c = '\\'
    · subst hslash
      rw [if_pos rfl]
      cases plain with
      | nil => exact absurd rfl h.last
      | cons d plain =>
        rw [ih (h.of_suffix (List.suffix_cons _ _)) (by simp)]
        simp [backslashes, List.replicate_succ]
    · rw [if_neg hslash]
      have hnext : piecesFrom (c :: (List.replicate n '\\' ++ before)) 0 (plain ++ more) =
          piecesFrom ((c :: plain).reverse ++ (backslashes n ++ before)) 0 more := by
        cases plain with
        | nil => rfl
        | cons d plain =>
          rw [ih (h.of_suffix (List.suffix_cons _ _)) (by simp)]
          simp [backslashes]
      by_cases hopen : c = '['
      · subst hopen
        have hnone := tag?_append_of_quiet (h.noTag plain List.suffix_rfl) hmore
        rw [if_pos rfl]
        split
        · next heq => rw [hnone] at heq; cases heq
        · exact hnext
      · rw [if_neg hopen]
        exact hnext

private theorem piecesFrom_backslashes (before : List Char) (n m : Nat) (more : List Char) :
    piecesFrom before n (backslashes m ++ more) = piecesFrom before (n + m) more := by
  induction m generalizing n with
  | zero => rfl
  | succ m ih =>
    show piecesFrom before n ('\\' :: (backslashes m ++ more)) = _
    rw [piecesFrom, if_pos rfl, ih]
    congr 1
    omega

private theorem piecesFrom_tag {body : List Char} (h : IsBody body) (before : List Char) (n : Nat) (after : List Char) :
    piecesFrom before n ('[' :: (body ++ ']' :: after)) =
      plainPiece before ++ .tag n body :: piecesFrom [] 0 after := by
  have htag : tag? (body ++ ']' :: after) = some (body, after) := tag?_eq_some_iff.2 ⟨rfl, h⟩
  rw [piecesFrom, if_neg (by decide), if_pos rfl]
  split
  · next heq =>
    obtain ⟨rfl, rfl⟩ := Prod.mk.inj (Option.some.inj (htag.symm.trans heq))
    rfl
  · next heq => rw [htag] at heq; cases heq

private theorem piecesFrom_inert {plain more : List Char} (h : Inert plain) (hmore : upToClose? more = none) :
    piecesFrom [] 0 (plain ++ more) = piecesFrom plain.reverse 0 more := by
  by_cases hne : plain = []
  · rw [hne]
    rfl
  · rw [piecesFrom_plain h hne hmore]
    simp [backslashes]

/-- A text is cut into the spans that it is made of. -/
theorem pieces_spanned {spans : List Span} {plain : List Char} (hspans : ∀ s ∈ spans, s.Proper) (hplain : Inert plain)
    (slashes : Nat) :
    pieces (spanned spans plain slashes) =
      spans.flatMap (fun s => plainPiece s.plain.reverse ++ [.tag s.slashes s.body]) ++
        plainPiece (backslashes slashes ++ plain.reverse) := by
  unfold pieces
  induction spans with
  | nil =>
    show piecesFrom [] 0 (plain ++ backslashes slashes) = plainPiece _
    rw [piecesFrom_inert hplain (upToClose?_backslashes slashes)]
    have := piecesFrom_backslashes plain.reverse 0 slashes []
    rw [List.append_nil] at this
    rw [this, piecesFrom, Nat.zero_add]
    rfl
  | cons s spans ih =>
    obtain ⟨hs, hrest⟩ := List.forall_mem_cons.1 hspans
    have hquiet : ∀ more, upToClose? (backslashes s.slashes ++ '[' :: more) = none :=
      fun more => upToClose?_backslashes_append rfl s.slashes
    rw [spanned_cons, piecesFrom_inert hs.plain (hquiet _), piecesFrom_backslashes, piecesFrom_tag hs.body, ih hrest]
    simp

/-! ### Escaping -/

@[simp] theorem reverse_backslashes (n : Nat) : (backslashes n).reverse = backslashes n := List.reverse_replicate ..

private theorem flatMap_escapePiece_plainPiece (reversed : List Char) :
    (plainPiece reversed).flatMap escapePiece = reversed.reverse := by
  unfold plainPiece
  split
  · next h => simp [List.isEmpty_iff.1 h]
  · simp [escapePiece]

theorem closeBackslash_append {cs : List Char} (h : cs.getLast? ≠ some '\\') (n : Nat) :
    closeBackslash (cs ++ backslashes n) = cs ++ backslashes (if n = 1 then 2 else n) := by
  have hhead : cs.reverse.head? ≠ some '\\' := by rwa [List.head?_reverse]
  unfold closeBackslash
  rw [List.reverse_append, reverse_backslashes]
  match n with
  | 0 =>
    have hnone : backslashes 0 ++ cs.reverse = cs.reverse := rfl
    rw [hnone]
    cases hcs : cs.reverse with
    | nil => rfl
    | cons c rest =>
      have hc : c ≠ '\\' := fun he => hhead (by rw [hcs, he]; rfl)
      split
      · next heq => exact absurd (List.cons.inj heq).1 hc
      · next heq => exact absurd (List.cons.inj heq).1 hc
      · rfl
  | 1 =>
    have hone : backslashes 1 ++ cs.reverse = '\\' :: cs.reverse := rfl
    rw [hone]
    split
    · next heq =>
      rw [(List.cons.inj heq).2] at hhead
      exact absurd rfl hhead
    · rw [if_pos rfl]
      simp [backslashes, List.replicate_succ]
    · next _ h => exact absurd rfl (h _)
  | n + 2 =>
    rw [if_neg (by omega)]
    rfl

theorem getLast?_spans_append {spans : List Span} {plain : List Char} (hplain : plain.getLast? ≠ some '\\') :
    (spans.flatMap Span.chars ++ plain).getLast? ≠ some '\\' := by
  by_cases hne : plain = []
  · subst hne
    rw [List.append_nil]
    rcases List.eq_nil_or_concat spans with rfl | ⟨front, s, rfl⟩
    · nofun
    · have hbracket : ((front.concat s).flatMap Span.chars).getLast? = some ']' := by
        simp only [List.concat_eq_append, List.flatMap_append, List.flatMap_singleton, Span.chars, bracketed,
          ← List.append_assoc]
        exact List.getLast?_concat
      rw [hbracket]
      decide
  · rw [List.getLast?_append_of_ne_nil _ hne]
    exact hplain

/-- In escaped form the backslashes before a tag are twice as many and one, and one backslash at the end is two. -/
theorem escapeChars_spanned {spans : List Span} {plain : List Char} (hspans : ∀ s ∈ spans, s.Proper)
    (hplain : Inert plain) (slashes : Nat) :
    escapeChars (spanned spans plain slashes) =
      spanned (spans.map Span.doubled) plain (if slashes = 1 then 2 else slashes) := by
  have hescaped : (pieces (spanned spans plain slashes)).flatMap escapePiece =
      (spans.map Span.doubled).flatMap Span.chars ++ plain ++ backslashes slashes := by
    rw [pieces_spanned hspans hplain, List.flatMap_append, flatMap_escapePiece_plainPiece, List.reverse_append,
      reverse_backslashes, List.reverse_reverse, List.flatMap_assoc, List.flatMap_map, List.append_assoc]
    congr 1
    refine List.flatMap_congr fun s _ => ?_
    rw [List.flatMap_append, flatMap_escapePiece_plainPiece, List.reverse_reverse]
    simp [escapePiece, Span.chars, Span.doubled]
  unfold escapeChars
  rw [hescaped, closeBackslash_append (getLast?_spans_append hplain.last), List.append_assoc]
  rfl

end CommandShell.Markup
