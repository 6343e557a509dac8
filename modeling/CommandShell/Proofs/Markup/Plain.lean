import CommandShell.Proofs.Markup.Verbatim

/-!
# Texts that are printed as they stand

A text without brackets and backslashes is its own escaped form (`Markup.escape_of_bland`), and between the tags of a
colour it is one run (`Markup.render_within`). If there is also nothing in it that a console drops or moves
(`Markup.Plain`), every console prints it in one stretch, on a terminal as elsewhere (`Event.shownAs_coloured`).
-/

namespace CommandShell

namespace Markup

open Console (Steady)

/-! ### Without brackets and backslashes -/

theorem bland_append {cs more : List Char} : Bland (cs ++ more) ↔ Bland cs ∧ Bland more := List.forall_mem_append

theorem Bland.inert {cs : List Char} (h : Bland cs) : Inert cs := by
  have happend := h.append inert_nil
  rwa [List.append_nil] at happend

theorem escape_of_bland {s : String} (h : Bland s.toList) : escape s = s := by
  have hspanned : spanned [] s.toList 0 = s.toList := by simp [spanned, backslashes]
  have hescaped := escapeChars_spanned (List.forall_mem_nil _) h.inert 0
  rw [hspanned] at hescaped
  rw [escape, hescaped]
  simp [spanned, backslashes]

private theorem plainPiece_reverse {cs : List Char} (hne : cs ≠ []) : plainPiece cs.reverse = [.plain cs] := by
  have hreversed : cs.reverse.isEmpty = false := by simpa using hne
  rw [plainPiece, hreversed, List.reverse_reverse]
  rfl

/-- Plain text between the tags of a colour is cut into these three pieces. -/
private theorem pieces_within {colour text : String} (hcolour : IsColourName colour) (h : Bland text.toList)
    (hne : text ≠ "") :
    pieces (within colour text).toList =
      [.tag 0 colour.toList, .plain text.toList, .tag 0 ('/' :: colour.toList)] := by
  have hspans : ∀ s ∈ [⟨[], 0, colour.toList⟩, ⟨text.toList, 0, '/' :: colour.toList⟩], Span.Proper s :=
    List.forall_mem_cons.2 ⟨⟨inert_nil, hcolour.body⟩, List.forall_mem_singleton.2 ⟨h.inert, hcolour.closes⟩⟩
  have hchars : (within colour text).toList =
      spanned [⟨[], 0, colour.toList⟩, ⟨text.toList, 0, '/' :: colour.toList⟩] [] 0 := by
    simp [within, spanned, Span.chars, backslashes, bracketed]
  have htext : plainPiece text.toList.reverse = [.plain text.toList] := plainPiece_reverse (by simpa using hne)
  rw [hchars, pieces_spanned hspans inert_nil, List.flatMap_cons, List.flatMap_singleton, htext]
  rfl

theorem render_within {colour text : String} {c : Colour} (hcolour : Colour.ofName? colour = some c)
    (h : Bland text.toList) (hne : text ≠ "") : render (within colour text) = [⟨some c, text.toList⟩] := by
  have hname : IsColourName colour := isColourName_of_ofName? (Option.isSome_of_eq_some hcolour)
  have hopen : '[' ∈ (within colour text).toList := by simp [within]
  -- Without a slash at its front the name opens a tag.
  have hslash : ∀ name, colour.toList ≠ '/' :: name := by
    intro name heq
    exact hname.opens.1 (by rw [heq]; rfl)
  have hunslash : unslash text.toList = text.toList := unslash_of_notMem fun hin => (h _ hin).1 rfl
  have hnonempty : text.toList ≠ [] := by simpa using hne
  -- The first tag opens the colour, and the last one ends the run.
  have hopened : ∀ ps, runsFrom [] [] (.tag 0 colour.toList :: ps) = runsFrom [(colour, some c)] [] ps := by
    intro ps
    simp [runsFrom, backslashes, hcolour]
  have hclosed : runsFrom [(colour, some c)] text.toList.reverse [.tag 0 ('/' :: colour.toList)] =
      [⟨some c, text.toList⟩] := by
    simp [runsFrom, runsFrom.finishRun, backslashes, hnonempty]
  rw [render, if_pos (by simpa using hopen), pieces_within hname h hne, hopened, runsFrom, hunslash, List.append_nil,
    hclosed]

/-! ### Nothing to drop or to move -/

/-- A text without brackets and backslashes, in which a console drops and moves nothing. -/
structure Plain (s : String) : Prop where
  bland : Bland s.toList
  steady : Steady s.toList

/-- What a console drops or moves stands before the space. -/
theorem plain_of_forall {s : String} (h : ∀ c ∈ s.toList, 0x20 ≤ c.toNat ∧ c ≠ '[' ∧ c ≠ ']' ∧ c ≠ '\\') : Plain s := by
  refine ⟨fun c hc => (h c hc).2, fun c hc => ⟨?_, ?_, ?_⟩⟩
  · have hspace := (h c hc).1
    simp only [Console.isDropped, Bool.or_eq_false_iff, decide_eq_false_iff_not]
    omega
  · rintro rfl
    exact absurd (h _ hc).1 (by decide)
  · rintro rfl
    exact absurd (h _ hc).1 (by decide)

theorem Plain.append {s t : String} (hs : Plain s) (ht : Plain t) : Plain (s ++ t) := by
  constructor
  · rw [String.toList_append, bland_append]
    exact ⟨hs.bland, ht.bland⟩
  · rw [String.toList_append, Console.steady_append]
    exact ⟨hs.steady, ht.steady⟩

end Markup

namespace Console

theorem message_within (console : Console) {colour text : String} {c : Colour}
    (hcolour : Colour.ofName? colour = some c) (h : Markup.Plain text) (hne : text ≠ "") :
    console.message (Markup.within colour text) =
      String.ofList (console.stretch (some c) text.toList) ++ "\n" := by
  have hruns := console.runs_cons_of_steady (r := ⟨some c, text.toList⟩) h.steady [] 0
  rw [message, Markup.render_within hcolour h.bland hne, hruns, runs, List.append_nil]

end Console

open Markup (Plain)

theorem Builtin.coloured_of_plain {before text : String} (colour : String) (h : Plain text) :
    coloured colour before text "" = Markup.within colour (before ++ text) := by
  rw [coloured, Markup.escape_of_bland h.bland, String.append_empty]

/-- Every console prints an event as a line in one stretch of a colour, and one that is no terminal prints nothing but
the line. -/
structure Event.ShownAs (event : Event) (c : Colour) (line : String) : Prop where
  shown : ∀ output errors : Console,
    event.shown output errors = (String.ofList (output.stretch (some c) line.toList) ++ "\n", "")
  printed : ∀ output errors : Console, output.terminal = false → event.shown output errors = (line ++ "\n", "")

/-- Plain text, and plain text before it, between the tags of a colour. -/
theorem Event.shownAs_coloured {colour before text : String} {c : Colour} (hcolour : Colour.ofName? colour = some c)
    (hbefore : Plain before) (htext : Plain text) (hne : before ≠ "") :
    (info (Builtin.coloured colour before text "")).ShownAs c (before ++ text) := by
  have hall : before ++ text ≠ "" := by
    intro heq
    exact hne (String.append_eq_empty_iff.1 heq).1
  have hshown : ∀ output errors : Console, (info (Builtin.coloured colour before text "")).shown output errors =
      (String.ofList (output.stretch (some c) (before ++ text).toList) ++ "\n", "") := by
    intro output errors
    rw [shown, Builtin.coloured_of_plain colour htext, output.message_within hcolour (hbefore.append htext) hall]
  refine ⟨hshown, fun output errors hterminal => ?_⟩
  rw [hshown output errors, Console.stretch_of_not_terminal hterminal, String.ofList_toList]

end CommandShell
