import CommandShell.Proofs.Plan.Grammar

/-!
# Printing plans

A plan can be written out again: its words with single spaces, its stages with a `|` between them, and its
redirection at the end. Which plans come out of reading at all is said by `WellFormed`, one case for each rule of
the grammar. The main statement is that reading makes exactly the well-formed plans, and that each of them is read
back from its printed form (`ofSegment_print`).
-/

namespace CommandShell

namespace Stage

/-- The words of a stage as characters. -/
def chars (stage : Stage) : List (List Char) := stage.words.map String.toList

/-- Some words make up a stage: they have characters, and none of these is a blank. -/
def Spoken (stage : Stage) : Prop := ∀ w ∈ stage.chars, Text.IsWord w

/-- No word of the stage holds a pattern. -/
def Lacks (stage : Stage) (pattern : List Char) : Prop := ∀ w ∈ stage.chars, ¬ pattern <:+: w

/-- The words of a stage with single spaces. -/
def print (stage : Stage) : String := Text.spaced stage.words

theorem toList_print (stage : Stage) : stage.print.toList = List.intercalate [' '] stage.chars :=
  String.toList_intercalate

theorem chars_ne_nil (stage : Stage) : stage.chars ≠ [] := by simp [chars, words]

theorem Spoken.wordsOf_print {stage : Stage} (h : stage.Spoken) :
    Text.wordsOf (List.intercalate [' '] stage.chars) = stage.chars := Text.wordsOf_intercalate h

theorem Spoken.trimmed_print {stage : Stage} (h : stage.Spoken) :
    Text.Trimmed (List.intercalate [' '] stage.chars) ∧ List.intercalate [' '] stage.chars ≠ [] :=
  Text.trimmed_intercalate [' '] (fun w hw => ⟨(h w hw).trimmed, (h w hw).1⟩) stage.chars_ne_nil

theorem Lacks.not_infix_print {stage : Stage} {pattern : List Char} (h : stage.Lacks pattern) (hne : pattern ≠ [])
    (hd : ' ' ∉ pattern) : ¬ pattern <:+: List.intercalate [' '] stage.chars := by
  intro hi
  obtain ⟨w, hw, hp⟩ := Text.infix_of_infix_intercalate hne hd hi
  exact h w hw hp

end Stage

namespace Plan

/-- The plans that can be asked for. Each case says which operators its words and its path may hold, now that the
rules before it have not applied. -/
inductive WellFormed : Plan → Prop
  | command {stage : Stage} (hwords : stage.Spoken) (hread : stage.Lacks ['<']) (hwrite : stage.Lacks ['>'])
      (hpipe : stage.Lacks ['|']) : WellFormed (.command stage)
  | pipeline {first second : Stage} {others : List Stage}
      (h : ∀ stage ∈ first :: second :: others, stage.Spoken ∧ stage.Lacks ['<'] ∧ stage.Lacks ['|']) :
      WellFormed (.pipeline first second others)
  | read {stage : Stage} {path : String} (hwords : stage.Spoken) (hread : stage.Lacks ['<'])
      (hne : path ≠ "") (hpath : Text.Trimmed path.toList) : WellFormed (.redirected stage ⟨.read, path⟩)
  | append {stage : Stage} {path : String} (hwords : stage.Spoken) (hread : stage.Lacks ['<'])
      (hpipe : stage.Lacks ['|']) (hpair : stage.Lacks ['>', '>']) (hne : path ≠ "")
      (hpath : Text.Trimmed path.toList) (hpathRead : '<' ∉ path.toList) (hpathPipe : '|' ∉ path.toList) :
      WellFormed (.redirected stage ⟨.append, path⟩)
  | truncate {stage : Stage} {path : String} (hwords : stage.Spoken) (hread : stage.Lacks ['<'])
      (hpipe : stage.Lacks ['|']) (hwrite : stage.Lacks ['>']) (hne : path ≠ "")
      (hpath : Text.Trimmed path.toList) (hpathRead : '<' ∉ path.toList) (hpathPipe : '|' ∉ path.toList)
      (hpathPair : ¬ ['>', '>'] <:+: path.toList) : WellFormed (.redirected stage ⟨.truncate, path⟩)

/-- The written form of a plan. -/
def print (p : Plan) : String :=
  String.intercalate " | " (p.stages.map Stage.print) ++
    match p.redirection? with
    | none => ""
    | some r => " " ++ r.kind.operator.symbol ++ " " ++ r.path

/-! ### What is read is well formed -/

/-- The words of a stage stand in the text from which they were taken. -/
private theorem spoken_of_wordsOf {stage : Stage} {cs : List Char} (h : stage.chars = Text.wordsOf cs) :
    stage.Spoken := by
  intro w hw
  rw [h] at hw
  exact (Text.mem_wordsOf hw).1

private theorem lacks_of_wordsOf {stage : Stage} {cs pattern : List Char} (h : stage.chars = Text.wordsOf cs)
    (hn : ¬ pattern <:+: cs) : stage.Lacks pattern := by
  intro w hw hi
  rw [h] at hw
  exact hn (hi.trans (Text.mem_wordsOf hw).2)

private theorem not_infix_of_notMem {c : Char} {cs : List Char} (h : c ∉ cs) : ¬ [c] <:+: cs := by
  rwa [List.singleton_infix_iff]

private theorem before_within {pattern t before after : List Char} (h : Text.CutAt pattern t before after) :
    before <:+: t := ⟨[], pattern ++ after, by simp [h.eq]⟩

private theorem after_within {pattern t before after : List Char} (h : Text.CutAt pattern t before after) :
    after <:+: t := ⟨before ++ pattern, [], by simp [h.eq]⟩

theorem wellFormed_of_grammar {t : List Char} {p : Plan} (h : grammar t = .ok p) : p.WellFormed := by
  rcases redirects_or_pipe_or_plain t with ⟨kind, before, after, hr⟩ | ⟨hread, hpipe⟩ | ⟨hread, hpipe, hwrite⟩
  · rw [grammar_of_redirects hr, redirect_eq_ok_iff] at h
    obtain ⟨stage, path, rfl, hwords, hpath, hpne⟩ := h
    have hne : path ≠ "" := by rintro rfl; exact hpne rfl
    have htrim : Text.Trimmed path.toList := hpath ▸ Text.trimmed_trimChars after
    have hsub : path.toList <:+: after := hpath ▸ Text.trimChars_within after
    have lacks : ∀ {pattern : List Char}, ¬ pattern <:+: before → stage.Lacks pattern := lacks_of_wordsOf hwords
    cases hr with
    | read hc => exact .read (spoken_of_wordsOf hwords) (lacks (hc.notWithin (by simp))) hne htrim
    | append hread hpipe hc =>
      have hbefore := before_within hc
      have hpt := hsub.trans (after_within hc)
      exact .append (spoken_of_wordsOf hwords) (lacks (not_infix_of_notMem fun hm => hread (hbefore.subset hm)))
        (lacks (not_infix_of_notMem fun hm => hpipe (hbefore.subset hm))) (lacks (hc.notWithin (by simp))) hne htrim
        (fun hm => hread (hpt.subset hm)) fun hm => hpipe (hpt.subset hm)
    | truncate hread hpipe hpair hc =>
      have hbefore := before_within hc
      have hpt := hsub.trans (after_within hc)
      exact .truncate (spoken_of_wordsOf hwords) (lacks (not_infix_of_notMem fun hm => hread (hbefore.subset hm)))
        (lacks (not_infix_of_notMem fun hm => hpipe (hbefore.subset hm))) (lacks (hc.notWithin (by simp))) hne htrim
        (fun hm => hread (hpt.subset hm)) (fun hm => hpipe (hpt.subset hm)) fun hi => hpair (hi.trans hpt)
  · rw [grammar_of_pipe hread hpipe, chain_eq_ok_iff] at h
    obtain ⟨hp, hstages⟩ := h
    have hall : ∀ stage ∈ p.stages, stage.Spoken ∧ stage.Lacks ['<'] ∧ stage.Lacks ['|'] := by
      intro stage hstage
      have hmem : stage.chars ∈ (Text.splitAtChar '|' t).map Text.wordsOf :=
        hstages ▸ List.mem_map.2 ⟨stage, hstage, rfl⟩
      obtain ⟨part, hpart, hwords⟩ := List.mem_map.1 hmem
      obtain ⟨hwithin, hno⟩ := Text.mem_splitAtChar hpart
      exact ⟨spoken_of_wordsOf hwords.symm,
        lacks_of_wordsOf hwords.symm (not_infix_of_notMem fun hm => hread (hwithin.subset hm)),
        lacks_of_wordsOf hwords.symm (not_infix_of_notMem hno)⟩
    cases p with
    | pipeline first second others => exact .pipeline hall
    | command | redirected => simp [isPipeline] at hp
  · rw [grammar_of_plain hread hpipe hwrite, plain_eq_ok_iff] at h
    obtain ⟨stage, rfl, hwords⟩ := h
    exact .command (spoken_of_wordsOf hwords) (lacks_of_wordsOf hwords (not_infix_of_notMem hread))
      (lacks_of_wordsOf hwords (not_infix_of_notMem hwrite)) (lacks_of_wordsOf hwords (not_infix_of_notMem hpipe))

/-! ### What is printed is read back -/

private theorem toList_print_command (stage : Stage) :
    (print (.command stage)).toList = List.intercalate [' '] stage.chars := by
  simp [print, stages, redirection?, Stage.toList_print]

private theorem toList_print_pipeline (first second : Stage) (others : List Stage) :
    (print (.pipeline first second others)).toList =
      List.intercalate [' ', '|', ' '] ((first :: second :: others).map fun s => List.intercalate [' '] s.chars) := by
  simp [print, stages, redirection?, Stage.toList_print, String.toList_intercalate, Function.comp_def]

/-- The printed form of a redirection, in front of whose operator and path stands a space. -/
private theorem toList_print_redirected (stage : Stage) (kind : RedirectionKind) (path : String) :
    (print (.redirected stage ⟨kind, path⟩)).toList =
      List.intercalate [' '] stage.chars ++ ' ' :: (kind.operator.symbol.toList ++ ' ' :: path.toList) := by
  simp [print, stages, redirection?, Stage.toList_print]

/-- Cutting the printed form of a redirection gives back its words and its path. -/
private theorem redirect_print {stage : Stage} {kind : RedirectionKind} {path : String} (hwords : stage.Spoken)
    (hne : path ≠ "") (hpath : Text.Trimmed path.toList) :
    redirect kind (List.intercalate [' '] stage.chars ++ [' ']) (' ' :: path.toList) =
      .ok (.redirected stage ⟨kind, path⟩) := by
  have hblank : Text.isBlank ' ' = true := by decide
  have htrim : Text.trimChars (' ' :: path.toList) = path.toList := by
    have hfront : ∀ c ∈ [' '], Text.isBlank c = true := by simp [hblank]
    have := Text.trimChars_append hfront hpath (List.forall_mem_nil _)
    simpa using this
  rw [redirect_eq_ok_iff]
  refine ⟨stage, path, rfl, ?_, htrim.symm, by simpa using hne⟩
  rw [Text.wordsOf_append_blank _ _ hblank, hwords.wordsOf_print]
  exact (List.append_nil _).symm

private theorem words_of_parts_space (sep : Char) (cs : List Char) (hsep : ' ' ≠ sep) :
    (Text.splitAtChar sep (' ' :: cs)).map Text.wordsOf = (Text.splitAtChar sep cs).map Text.wordsOf := by
  have hblank : Text.isBlank ' ' = true := by decide
  obtain ⟨part, parts, h⟩ := List.exists_cons_of_ne_nil (Text.splitAtChar_ne_nil sep cs)
  rw [Text.splitAtChar_cons_of_ne hsep h, h, List.map_cons, List.map_cons, ← List.nil_append (' ' :: part),
    Text.wordsOf_append_blank [] part hblank]
  rfl

/-- The parts of a printed pipeline have the words of its stages. -/
private theorem words_of_parts {stages : List Stage} (hne : stages ≠ [])
    (h : ∀ stage ∈ stages, stage.Spoken ∧ stage.Lacks ['|']) :
    (Text.splitAtChar '|' (List.intercalate [' ', '|', ' '] (stages.map fun s => List.intercalate [' '] s.chars))).map
      Text.wordsOf = stages.map Stage.chars := by
  have hblank : Text.isBlank ' ' = true := by decide
  induction stages with
  | nil => exact absurd rfl hne
  | cons stage stages ih =>
    obtain ⟨hwords, hpipe⟩ := h stage (by simp)
    have hno : '|' ∉ List.intercalate [' '] stage.chars := by
      rw [← List.singleton_infix_iff]
      exact hpipe.not_infix_print (by simp) (by simp)
    cases stages with
    | nil =>
      rw [List.map_singleton, List.intercalate_singleton, Text.splitAtChar_of_notMem hno, List.map_singleton,
        hwords.wordsOf_print]
      rfl
    | cons next stages =>
      have hnext := ih (by simp) fun s hs => h s (List.mem_cons_of_mem _ hs)
      have hno' : '|' ∉ List.intercalate [' '] stage.chars ++ [' '] := by simp [hno]
      have hcut : ∀ line rest : List Char,
          line ++ [' ', '|', ' '] ++ rest = (line ++ [' ']) ++ '|' :: ' ' :: rest := by
        simp
      rw [List.map_cons] at hnext
      rw [List.map_cons, List.map_cons, List.intercalate_cons_cons, hcut, Text.splitAtChar_append hno', List.map_cons,
        words_of_parts_space _ _ (by decide), hnext, Text.wordsOf_append_blank _ _ hblank, hwords.wordsOf_print,
        List.map_cons]
      simp [Text.wordsOf, Text.wordsAux]

/-- A character that no word of a stage holds does not stand in its printed form. -/
private theorem notMem_print {stage : Stage} {c : Char} (h : stage.Lacks [c]) (hc : c ≠ ' ') :
    c ∉ List.intercalate [' '] stage.chars := by
  rw [← List.singleton_infix_iff]
  exact h.not_infix_print (by simp) (by simpa using hc.symm)

/-- The operator of a printed redirection stands where it first occurs. -/
private theorem cutAt_print {stage : Stage} {pattern : List Char} (h : stage.Lacks pattern) (hne : pattern ≠ [])
    (hd : ' ' ∉ pattern) (path : List Char) :
    Text.CutAt pattern (List.intercalate [' '] stage.chars ++ ' ' :: (pattern ++ ' ' :: path))
      (List.intercalate [' '] stage.chars ++ [' ']) (' ' :: path) :=
  Text.cutAt_append_cons hd (h.not_infix_print hne hd) (' ' :: path)

theorem grammar_print {p : Plan} (h : p.WellFormed) : grammar p.print.toList = .ok p := by
  cases h with
  | @command stage hwords hread hwrite hpipe =>
    rw [toList_print_command, grammar_of_plain (notMem_print hread (by decide)) (notMem_print hpipe (by decide))
      (notMem_print hwrite (by decide)), plain_eq_ok_iff]
    exact ⟨stage, rfl, hwords.wordsOf_print.symm⟩
  | @pipeline first second others h =>
    have hread : '<' ∉ (print (.pipeline first second others)).toList := by
      intro hm
      rw [toList_print_pipeline] at hm
      rcases Text.mem_of_mem_intercalate hm with hs | ⟨line, hline, hc⟩
      · simp at hs
      · obtain ⟨stage, hstage, rfl⟩ := List.mem_map.1 hline
        exact notMem_print (h stage hstage).2.1 (by decide) hc
    have hpipe : '|' ∈ (print (.pipeline first second others)).toList := by
      rw [toList_print_pipeline, List.map_cons, List.map_cons, List.intercalate_cons_cons]
      simp
    rw [grammar_of_pipe hread hpipe, chain_eq_ok_iff, toList_print_pipeline,
      words_of_parts (by simp) fun stage hs => ⟨(h stage hs).1, (h stage hs).2.2⟩]
    exact ⟨rfl, rfl⟩
  | @read stage path hwords hread hne hpath =>
    rw [toList_print_redirected, ← redirect_print hwords hne hpath]
    exact grammar_of_redirects (.read (cutAt_print hread (by simp) (by simp) path.toList))
  | @append stage path hwords hread hpipe hpair hne hpath hpathRead hpathPipe =>
    rw [toList_print_redirected, ← redirect_print hwords hne hpath]
    refine grammar_of_redirects (.append ?_ ?_ (cutAt_print hpair (by simp) (by simp) path.toList))
    · simp [notMem_print hread, hpathRead, RedirectionKind.operator, Operator.symbol]
    · simp [notMem_print hpipe, hpathPipe, RedirectionKind.operator, Operator.symbol]
  | @truncate stage path hwords hread hpipe hwrite hne hpath hpathRead hpathPipe hpathPair =>
    rw [toList_print_redirected, ← redirect_print hwords hne hpath]
    refine grammar_of_redirects (.truncate ?_ ?_ ?_ (cutAt_print hwrite (by simp) (by simp) path.toList))
    · simp [notMem_print hread, hpathRead, RedirectionKind.operator, Operator.symbol]
    · simp [notMem_print hpipe, hpathPipe, RedirectionKind.operator, Operator.symbol]
    · -- the spaces around the operator keep it apart from a `>` of the path
      intro hi
      rcases Text.infix_of_infix_append_cons (by simp) (by simp) hi with hline | hrest
      · exact notMem_print hwrite (by decide) (hline.subset (by simp))
      · rcases Text.infix_of_infix_append_cons (by simp) (by simp) hrest with hop | hwithin
        · have := hop.length_le
          simp [RedirectionKind.operator, Operator.symbol] at this
        · exact hpathPair hwithin

private theorem trimmed_print_redirected {stage : Stage} (kind : RedirectionKind) {path : String}
    (hwords : stage.Spoken) (hne : path ≠ "") (hpath : Text.Trimmed path.toList) :
    Text.Trimmed (print (.redirected stage ⟨kind, path⟩)).toList ∧
      (print (.redirected stage ⟨kind, path⟩)).toList ≠ [] := by
  obtain ⟨hline, hlne⟩ := hwords.trimmed_print
  have hpne : path.toList ≠ [] := by simpa using hne
  have hsplit : (print (.redirected stage ⟨kind, path⟩)).toList =
      List.intercalate [' '] stage.chars ++ ((' ' :: kind.operator.symbol.toList ++ [' ']) ++ path.toList) := by
    simp [toList_print_redirected]
  rw [hsplit]
  exact ⟨hline.append hpath hlne hpne _, by simp [hlne]⟩

/-- A printed plan has no blanks at its ends. -/
private theorem trimmed_print {p : Plan} (h : p.WellFormed) :
    Text.Trimmed p.print.toList ∧ p.print.toList ≠ [] := by
  cases h with
  | command hwords => exact toList_print_command _ ▸ hwords.trimmed_print
  | pipeline h =>
    rw [toList_print_pipeline]
    refine Text.trimmed_intercalate _ (fun line hline => ?_) (by simp)
    obtain ⟨stage, hstage, rfl⟩ := List.mem_map.1 hline
    exact (h stage hstage).1.trimmed_print
  | read hwords _ hne hpath => exact trimmed_print_redirected .read hwords hne hpath
  | append hwords _ _ _ hne hpath => exact trimmed_print_redirected .append hwords hne hpath
  | truncate hwords _ _ _ hne hpath => exact trimmed_print_redirected .truncate hwords hne hpath

theorem wellFormed_of_ofSegment {s : String} {p : Plan} (h : ofSegment s = .ok p) : p.WellFormed :=
  wellFormed_of_grammar (grammar_of_ofSegment h)

theorem ofSegment_of_wellFormed {p : Plan} (h : p.WellFormed) : ofSegment p.print = .ok p := by
  obtain ⟨htrim, hne⟩ := trimmed_print h
  rw [ofSegment_eq, Text.trimChars_of_trimmed htrim, if_neg hne, grammar_print h]
  rfl

/-- The plans that come out of reading are the well-formed ones, and each of them is read back from its printed
form. So reading, printing and reading again gives the same plan. -/
theorem ofSegment_print (p : Plan) :
    ((∃ s, ofSegment s = .ok p) ↔ p.WellFormed) ∧ (p.WellFormed ↔ ofSegment p.print = .ok p) ∧
      ∀ s, ofSegment s = .ok p → ofSegment p.print = ofSegment s := by
  refine ⟨⟨fun ⟨s, hs⟩ => wellFormed_of_ofSegment hs, fun h => ⟨p.print, ofSegment_of_wellFormed h⟩⟩,
    ⟨ofSegment_of_wellFormed, wellFormed_of_ofSegment⟩, fun s hs => ?_⟩
  rw [hs]
  exact ofSegment_of_wellFormed (wellFormed_of_ofSegment hs)

end Plan

end CommandShell
