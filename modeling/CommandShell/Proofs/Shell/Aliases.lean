import CommandShell.Builtin.InformationCommands
import CommandShell.Proofs.Plan.Appending
import CommandShell.Proofs.Plan.Printing
import CommandShell.Proofs.Shell.Resolution
import CommandShell.Proofs.Text.Classes

/-!
# What is registered

What registries come to hold when aliases are defined by typing them (`Registry.Sound`): names that can be typed, the
built-ins under their own names unless an alias has taken one over, and aliases for a few plain words. So the command
line of an alias is a plain command again with any arguments that a segment can give it
(`Registry.Sound.ofSegment_alias`), and no alias leads to a text that cannot be read
(`Registry.Sound.resolve_refused_iff`).
-/

namespace CommandShell

namespace Text

theorem notMem_spaced {ws : List String} {c : Char} (hspace : c ≠ ' ') (h : ∀ w ∈ ws, c ∉ w.toList) :
    c ∉ (spaced ws).toList := by
  intro hin
  rw [toList_spaced] at hin
  rcases mem_of_mem_intercalate hin with hc | ⟨w, hw, hc⟩
  · exact hspace (by simpa using hc)
  · obtain ⟨word, hword, rfl⟩ := List.mem_map.1 hw
    exact h word hword hc

/-- Words behind blanks are what trimming leaves. -/
theorem trim_eq_spaced {text : String} {front : List Char} {ws : List String} (hws : ∀ w ∈ ws, IsWord w.toList)
    (hne : ws ≠ []) (hfront : ∀ c ∈ front, isBlank c = true) (h : text.toList = front ++ (spaced ws).toList) :
    trim text = spaced ws := by
  have hall : ∀ w ∈ ws.map String.toList, Trimmed w ∧ w ≠ [] := by
    intro w hw
    obtain ⟨word, hword, rfl⟩ := List.mem_map.1 hw
    exact ⟨(hws word hword).trimmed, (hws word hword).1⟩
  have htrimmed : Trimmed (spaced ws).toList := by
    rw [toList_spaced]
    exact (trimmed_intercalate _ hall (by simpa using hne)).1
  have := trimChars_append hfront htrimmed (List.forall_mem_nil _)
  unfold trim
  rw [h, ← List.append_nil (front ++ _), this, String.ofList_toList]

/-- A front without blanks of joined words is a front of the first word. -/
private theorem exists_cut_intercalate {ws : List (List Char)} {front back : List Char} (hne : front ≠ [])
    (hfront : ∀ c ∈ front, isBlank c = false) (h : List.intercalate [' '] ws = front ++ back) :
    ∃ w rest, ws = (front ++ w) :: rest ∧ back = List.intercalate [' '] (w :: rest) := by
  cases ws with
  | nil =>
    have hnil : front ++ back = [] := h.symm
    exact absurd (List.append_eq_nil_iff.1 hnil).1 hne
  | cons v vs =>
    cases vs with
    | nil =>
      rw [List.intercalate_singleton] at h
      exact ⟨back, [], by rw [h], List.intercalate_singleton.symm⟩
    | cons u us =>
      rw [List.intercalate_cons_cons, List.append_assoc] at h
      rcases List.append_eq_append_iff.1 h with ⟨d, hd, hrest⟩ | ⟨d, hd, hrest⟩
      · -- The front reaches past the first word by nothing, since a space comes next.
        cases d with
        | nil =>
          rw [List.append_nil] at hd
          refine ⟨[], u :: us, by rw [hd, List.append_nil], ?_⟩
          rw [List.intercalate_cons_cons, List.nil_append]
          exact hrest.symm
        | cons c d =>
          have hc : c = ' ' := (List.cons.inj hrest).1.symm
          have := hfront c (by simp [hd])
          rw [hc] at this
          exact absurd this (by decide)
      · refine ⟨d, u :: us, by rw [hd], ?_⟩
        rw [List.intercalate_cons_cons, List.append_assoc]
        exact hrest

end Text

/-! ### Command lines of aliases -/

/-- A text of plain words without semicolons, with single spaces between them. -/
def IsCommandLine (line : String) : Prop :=
  ∃ words, words ≠ [] ∧ line = Text.spaced words ∧ ∀ w ∈ words, Plan.IsPlainWord w ∧ ';' ∉ w.toList

namespace Plan

theorem IsPlainWord.of_subset {v w : String} (hw : IsPlainWord w) (hne : v.toList ≠ []) (hsub : v.toList ⊆ w.toList) :
    IsPlainWord v := by
  refine ⟨⟨hne, fun c hc => hw.1.2 c (hsub hc)⟩, ?_⟩
  rintro (hc | hc | hc)
  · exact hw.2 (.inl (hsub hc))
  · exact hw.2 (.inr (.inl (hsub hc)))
  · exact hw.2 (.inr (.inr (hsub hc)))

theorem isPlainWord_of_ofSegment {text : String} {stage : Stage} (h : ofSegment text = .ok (.command stage)) :
    ∀ w ∈ stage.words, IsPlainWord w := by
  intro w hw
  have hmem : w.toList ∈ stage.chars := List.mem_map_of_mem hw
  cases wellFormed_of_ofSegment h with
  | command hwords hread hwrite hpipe =>
    have hlacks : ∀ {c}, stage.Lacks [c] → c ∉ w.toList := by
      intro c hc hin
      exact hc w.toList hmem ((List.singleton_infix_iff c _).2 hin)
    refine ⟨hwords w.toList hmem, ?_⟩
    rintro (hin | hin | hin)
    · exact hlacks hread hin
    · exact hlacks hwrite hin
    · exact hlacks hpipe hin

theorem mem_of_mem_args {text : String} {stage : Stage} (h : ofSegment text = .ok (.command stage)) {w : String}
    (hw : w ∈ stage.args) {c : Char} (hc : c ∈ w.toList) : c ∈ text.toList := by
  apply mem_of_ofSegment h _ hc
  simp [texts, stages, redirection?, Stage.words, hw]

theorem not_hasOperator_spaced {ws : List String} (h : ∀ w ∈ ws, IsPlainWord w) : ¬ HasOperator (Text.spaced ws) := by
  rintro (hin | hin | hin)
  · exact Text.notMem_spaced (by decide) (fun w hw hc => (h w hw).2 (.inl hc)) hin
  · exact Text.notMem_spaced (by decide) (fun w hw hc => (h w hw).2 (.inr (.inl hc))) hin
  · exact Text.notMem_spaced (by decide) (fun w hw hc => (h w hw).2 (.inr (.inr hc))) hin

/-- Plain words are the command that they make up. -/
theorem ofSegment_spaced {name : String} {args : List String} (h : ∀ w ∈ name :: args, IsPlainWord w) :
    ofSegment (Text.spaced (name :: args)) = .ok (.command ⟨name, args⟩) := by
  apply ofSegment_of_words (not_hasOperator_spaced h)
  have hwords : ∀ w ∈ (name :: args).map String.toList, Text.IsWord w := by
    intro w hw
    obtain ⟨word, hword, rfl⟩ := List.mem_map.1 hw
    exact (h word hword).1
  unfold Text.words
  rw [Text.toList_spaced, Text.wordsOf_intercalate hwords, List.map_map]
  simp [Function.comp_def]

end Plan

namespace IsCommandLine

variable {line : String}

theorem semicolon_notMem (h : IsCommandLine line) : ';' ∉ line.toList := by
  obtain ⟨words, -, rfl, hwords⟩ := h
  exact Text.notMem_spaced (by decide) fun w hw => (hwords w hw).2

/-- Plain words are a command line when the blanks before them are gone. -/
theorem of_trim {front : List Char} {words : List String} (hwords : ∀ w ∈ words, Plan.IsPlainWord w ∧ ';' ∉ w.toList)
    (hne : words ≠ []) (hfront : ∀ c ∈ front, Text.isBlank c = true)
    (h : line.toList = front ++ (Text.spaced words).toList) : IsCommandLine (Text.trim line) :=
  ⟨words, hne, Text.trim_eq_spaced (fun w hw => (hwords w hw).1.1) hne hfront h, hwords⟩

theorem trim_eq (h : IsCommandLine line) : Text.trim line = line := by
  obtain ⟨words, hne, rfl, hwords⟩ := h
  exact Text.trim_eq_spaced (fun w hw => (hwords w hw).1.1) hne (List.forall_mem_nil _) rfl

/-- With arguments behind it the command line is a plain command still, and they are its last arguments. -/
theorem ofSegment_spaced_cons (h : IsCommandLine line) {args : List String} (hargs : ∀ w ∈ args, Plan.IsPlainWord w) :
    ∃ stage : Stage, Plan.ofSegment line = .ok (.command stage) ∧
      Plan.ofSegment (Text.spaced (line :: args)) = .ok (.command (stage.append args)) := by
  have htrim := h.trim_eq
  obtain ⟨words, hne, rfl, hwords⟩ := h
  obtain ⟨name, rest, rfl⟩ := List.exists_cons_of_ne_nil hne
  have hplain := Plan.ofSegment_spaced fun w hw => (hwords w hw).1
  obtain ⟨q, hq, happended⟩ := Plan.exists_ofSegment_append hplain hargs
  rw [htrim] at hq
  have hcommand : q = .command (Stage.append ⟨name, rest⟩ args) :=
    Plan.eq_of_stages (happended.stages rfl) happended.redirection
  exact ⟨⟨name, rest⟩, hplain, by rw [hq, hcommand]⟩

end IsCommandLine

namespace Builtin

theorem isWord_of_readAlias? {text name line : String} (h : readAlias? text = some (name, line)) :
    ∀ c ∈ name.toList, Text.isWord c = true := by
  unfold readAlias? at h
  dsimp only at h
  split at h
  · obtain ⟨-, hpair⟩ := Option.ite_none_left_eq_some.1 h
    obtain ⟨rfl, -⟩ := Prod.mk.inj (Option.some.inj hpair)
    intro c hc
    rw [String.toList_ofList] at hc
    exact List.mem_takeWhile_imp hc
  · cases h

/-- A text without line feeds that defines an alias is a name, an equals sign and a command line. -/
theorem readAlias?_eq_some {text name line : String} (h : readAlias? text = some (name, line))
    (hn : '\n' ∉ text.toList) :
    text.toList = name.toList ++ '=' :: line.toList ∧ name.toList ≠ [] ∧ line.toList ≠ [] := by
  have htext := List.takeWhile_append_dropWhile (p := Text.isWord) (l := text.toList)
  have hdrop := congrArg (List.drop (text.toList.takeWhile Text.isWord).length) htext
  rw [List.drop_left] at hdrop
  unfold readAlias? at h
  dsimp only at h
  rw [← hdrop] at h
  split at h
  · next rest hrest =>
    rw [hrest] at htext
    have hfree : '\n' ∉ rest := fun hin => hn (by rw [← htext]; simp [hin])
    have hlast : rest.getLast? ≠ some '\n' := fun hl => hfree (List.mem_of_getLast? hl)
    rw [if_neg hlast] at h
    split at h
    · cases h
    · next hok =>
      obtain ⟨rfl, rfl⟩ := Prod.mk.inj (Option.some.inj h)
      simp only [Bool.or_eq_true, List.isEmpty_iff, List.contains_eq_mem, decide_eq_true_eq, not_or] at hok
      simp only [String.toList_ofList]
      exact ⟨htext.symm, hok.1.1, hok.1.2⟩
  · cases h

/-- What is typed as the definition of an alias is a command line in the end. -/
theorem isCommandLine_of_readAlias? {args : List String} (hargs : ∀ w ∈ args, Plan.IsPlainWord w ∧ ';' ∉ w.toList)
    {name line : String} (h : readAlias? (Text.spaced args) = some (name, line)) : IsCommandLine (Text.trim line) := by
  have hn : '\n' ∉ (Text.spaced args).toList := by
    apply Text.notMem_spaced (by decide)
    intro w hw hc
    have := (hargs w hw).1.1.2 _ hc
    exact absurd this (by decide)
  obtain ⟨htext, -, hline⟩ := readAlias?_eq_some h hn
  have hfront : ∀ c ∈ name.toList ++ ['='], Text.isBlank c = false := by
    intro c hc
    rcases List.mem_append.1 hc with hc | hc
    · exact Text.isBlank_of_isWord (isWord_of_readAlias? h c hc)
    · rw [List.mem_singleton.1 hc]
      decide
  have hjoined : List.intercalate [' '] (args.map String.toList) = (name.toList ++ ['=']) ++ line.toList := by
    rw [List.append_assoc, List.singleton_append, ← htext, Text.toList_spaced]
  obtain ⟨w, rest, hws, hback⟩ := Text.exists_cut_intercalate (by simp) hfront hjoined
  cases args with
  | nil => cases hws
  | cons a args =>
    obtain ⟨ha, hrest⟩ := List.cons.inj hws
    obtain ⟨haplain, hplain⟩ := List.forall_mem_cons.1 hargs
    subst hrest
    have hline' : line.toList = List.intercalate [' '] (w :: args.map String.toList) := hback
    by_cases hw : w = []
    · -- The equals sign ends its word, so the command line are the words after it.
      subst hw
      have hne : args ≠ [] := by
        rintro rfl
        exact hline hline'
      have hspace : ∀ c ∈ [' '], Text.isBlank c = true := List.forall_mem_singleton.2 (by decide)
      apply IsCommandLine.of_trim hplain hne hspace
      obtain ⟨v, vs, rfl⟩ := List.exists_cons_of_ne_nil hne
      rw [hline', Text.toList_spaced, List.map_cons, List.intercalate_cons_cons, List.nil_append]
    · have hsub : (String.ofList w).toList ⊆ a.toList := by
        rw [ha, String.toList_ofList]
        exact List.subset_append_right _ _
      have hfirst : Plan.IsPlainWord (String.ofList w) := haplain.1.of_subset (by rwa [String.toList_ofList]) hsub
      have hall : ∀ v ∈ String.ofList w :: args, Plan.IsPlainWord v ∧ ';' ∉ v.toList :=
        List.forall_mem_cons.2 ⟨⟨hfirst, fun hc => haplain.2 (hsub hc)⟩, hplain⟩
      apply IsCommandLine.of_trim hall (List.cons_ne_nil _ _) (List.forall_mem_nil _)
      rw [hline', Text.toList_spaced, List.map_cons, String.toList_ofList, List.nil_append]

end Builtin

namespace Registry

/-- What registries come to hold when aliases are defined by typing them. -/
structure Sound (r : Registry) : Prop where
  names : ∀ name action, r.find? name = some action → name ≠ "" ∧ ∀ c ∈ name.toList, Text.isBlank c = false
  builtins : ∀ b : Builtin, ∃ action, r.find? b.name = some action ∧
    (action = .native (.builtin b) b.description ∨ action.isAlias = true)
  natives : ∀ name handler description, r.find? name = some (.native handler description) →
    ∃ b : Builtin, name = b.name ∧ handler = .builtin b ∧ description = b.description
  aliases : ∀ name line, r.find? name = some (.aliasOf line) →
    (∀ c ∈ name.toList, Text.isWord c = true) ∧ IsCommandLine line

theorem sound_builtins : Sound .builtins := by
  have hactions : ∀ name action, builtins.find? name = some action →
      ∃ b : Builtin, name = b.name ∧ action = .native (.builtin b) b.description := by
    intro name action h
    obtain ⟨before, after, hentry, -⟩ := List.lookup_eq_some_iff.1 h
    have hmem : (name, action) ∈ builtins.actions := by simp [hentry]
    obtain ⟨b, -, hb⟩ := List.mem_map.1 hmem
    obtain ⟨rfl, rfl⟩ := Prod.mk.inj hb
    exact ⟨b, rfl, rfl⟩
  refine ⟨?_, fun b => ⟨_, find?_builtins b, .inl rfl⟩, ?_, ?_⟩
  · intro name action h
    obtain ⟨b, rfl, -⟩ := hactions name action h
    have hname : b.name ≠ "" ∧ b.name.toList.all (!Text.isBlank ·) = true := by cases b <;> decide +kernel
    exact ⟨hname.1, by simpa using hname.2⟩
  · intro name handler description h
    obtain ⟨b, rfl, hb⟩ := hactions name _ h
    obtain ⟨rfl, rfl⟩ := Action.native.inj hb
    exact ⟨b, rfl, rfl, rfl⟩
  · intro name line h
    obtain ⟨b, -, hb⟩ := hactions name _ h
    cases hb

namespace Sound

variable {r : Registry} (hr : r.Sound)
include hr

theorem selfless : r.Selfless := by
  intro name line description h
  obtain ⟨b, -, hb, -⟩ := hr.natives _ _ _ h
  cases hb

/-- An alias that was typed keeps a registry sound. -/
theorem addAlias? {r' : Registry} {name line : String} (hname : ∀ c ∈ name.toList, Text.isWord c = true)
    (hline : IsCommandLine (Text.trim line)) (h : r.addAlias? name line = some r') : r'.Sound := by
  have hfind := find?_enrol? h
  have hnonempty : name ≠ "" := by
    rintro rfl
    cases h
  have hblank : ∀ c ∈ name.toList, Text.isBlank c = false := fun c hc => Text.isBlank_of_isWord (hname c hc)
  refine ⟨?_, ?_, ?_, ?_⟩
  · intro other action hother
    rw [hfind] at hother
    split at hother
    · next heq => exact heq ▸ ⟨hnonempty, hblank⟩
    · exact hr.names other action hother
  · intro b
    rw [hfind]
    split
    · exact ⟨_, rfl, .inr rfl⟩
    · exact hr.builtins b
  · intro other handler description hother
    rw [hfind] at hother
    split at hother
    · cases hother
    · exact hr.natives other handler description hother
  · intro other commandLine hother
    rw [hfind] at hother
    split at hother
    · next heq =>
      obtain rfl := Action.aliasOf.inj (Option.some.inj hother)
      exact heq ▸ ⟨hname, hline⟩
    · exact hr.aliases other commandLine hother

/-- With arguments that a segment can give it, an alias is a plain command again. -/
theorem ofSegment_alias {name line text : String} {stage : Stage} (hf : r.find? name = some (.aliasOf line))
    (h : Plan.ofSegment text = .ok (.command stage)) :
    ∃ inner : Stage, Plan.ofSegment line = .ok (.command inner) ∧
      Plan.ofSegment (Text.spaced (line :: stage.args)) = .ok (.command (inner.append stage.args)) := by
  apply (hr.aliases name line hf).2.ofSegment_spaced_cons
  intro w hw
  exact Plan.isPlainWord_of_ofSegment h w (List.mem_cons_of_mem _ hw)

/-- Expanding aliases leads to no text that cannot be read. -/
theorem resolve_refused_iff {seen : List String} {text : String} {e : ParseError} :
    (r.resolve seen text).leaf = .refused e ↔ Plan.ofSegment text = .error e := by
  rcases r.turn_cases seen text with ⟨e', h⟩ | ⟨plan, h, hl⟩ | ⟨stage, handler, description, h, hf⟩ |
    ⟨stage, line, h, hf, hn⟩
  · simp [resolve_of_error h, h]
  · simp [resolve_of_leaves h hl, h]
  · simp [resolve_of_native h hf, h]
  · obtain ⟨inner, -, hinner⟩ := hr.ofSegment_alias hf h
    have ih : (r.resolve (stage.command :: seen) (Text.spaced (line :: stage.args))).leaf = .refused e ↔
        Plan.ofSegment (Text.spaced (line :: stage.args)) = .error e := resolve_refused_iff
    rw [resolve_of_alias h hf hn, h]
    simp [ih, hinner]
termination_by (r.unseen seen).card
decreasing_by exact card_unseen_lt hf hn

/-- A command that the shell runs itself is read from some text, and that one holds no semicolon if the first did
not. -/
private theorem exists_reached {seen : List String} {text : String} {stage : Stage} {handler : Handler}
    (h : (r.resolve seen text).leaf = .native stage handler) :
    ∃ reached, Plan.ofSegment reached = .ok (.command stage) ∧
      (∃ description, r.find? stage.command = some (.native handler description)) ∧
      (';' ∉ text.toList → ';' ∉ reached.toList) := by
  rcases r.turn_cases seen text with ⟨e, hplan⟩ | ⟨plan, hplan, hl⟩ | ⟨stage', handler', description, hplan, hf⟩ |
    ⟨stage', line, hplan, hf, hn⟩
  · rw [resolve_of_error hplan] at h
    cases h
  · rw [resolve_of_leaves hplan hl] at h
    cases h
  · rw [resolve_of_native hplan hf] at h
    obtain ⟨rfl, rfl⟩ := Leaf.native.inj h
    exact ⟨text, hplan, ⟨description, hf⟩, id⟩
  · rw [resolve_of_alias hplan hf hn] at h
    obtain ⟨reached, hreached, hfound, hfree⟩ := exists_reached h
    refine ⟨reached, hreached, hfound, fun htext => hfree ?_⟩
    apply Text.notMem_spaced (by decide)
    intro w hw hc
    rcases List.mem_cons.1 hw with rfl | hw
    · exact (hr.aliases _ _ hf).2.semicolon_notMem hc
    · exact htext (Plan.mem_of_mem_args hplan hw hc)
termination_by (r.unseen seen).card
decreasing_by exact card_unseen_lt hf hn

theorem exists_builtin_of_resolve {seen : List String} {text : String} {stage : Stage} {handler : Handler}
    (h : (r.resolve seen text).leaf = .native stage handler) : ∃ b : Builtin, handler = .builtin b := by
  obtain ⟨reached, -, ⟨description, hf⟩, -⟩ := hr.exists_reached h
  obtain ⟨b, -, hb, -⟩ := hr.natives _ _ _ hf
  exact ⟨b, hb⟩

/-- The arguments of a command that the shell runs itself are plain words without semicolons, if the text from which
they come holds none. -/
theorem args_of_resolve {seen : List String} {text : String} {stage : Stage} {handler : Handler}
    (h : (r.resolve seen text).leaf = .native stage handler) (htext : ';' ∉ text.toList) :
    ∀ w ∈ stage.args, Plan.IsPlainWord w ∧ ';' ∉ w.toList := by
  obtain ⟨reached, hplan, -, hfree⟩ := hr.exists_reached h
  intro w hw
  exact ⟨Plan.isPlainWord_of_ofSegment hplan w (List.mem_cons_of_mem _ hw),
    fun hc => hfree htext (Plan.mem_of_mem_args hplan hw hc)⟩

end Sound

end Registry

end CommandShell
