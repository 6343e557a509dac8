import CommandShell.Proofs.Plan.Grammar

/-!
# More words at the end of a segment

An alias is called with arguments by writing them behind its command line. What such a text means is said of the plan
of the command line: the arguments go to its last stage, or belong to the path if there is one
(`Plan.ofSegment_append`). The key fact is that words without operators, behind a space, move neither the operator
at which a text is cut nor anything before it (`Plan.Redirects.extend`).
-/

namespace CommandShell

/-- A stage with some arguments more. -/
def Stage.append (stage : Stage) (args : List String) : Stage := ⟨stage.command, stage.args ++ args⟩

@[simp] theorem Stage.words_append (stage : Stage) (args : List String) :
    (stage.append args).words = stage.words ++ args := rfl

namespace Plan

/-! ### The stages of a plan -/

theorem dropLast_append_lastStage (p : Plan) : p.stages.dropLast ++ [p.lastStage] = p.stages := by
  cases p with
  | command | redirected => rfl
  | pipeline first second others =>
    have := List.dropLast_append_getLast (List.cons_ne_nil second others)
    simp [stages, lastStage, this]

theorem redirection?_of_isPipeline {p : Plan} (h : p.isPipeline = true) : p.redirection? = none := by
  cases p with
  | pipeline => rfl
  | command | redirected => cases h

theorem isSimple_eq (p : Plan) : p.isSimple = (!p.isPipeline && p.redirection?.isNone) := by
  cases p <;> rfl

/-- A plan is known by its stages and its redirection. -/
theorem eq_of_stages {p q : Plan} (hstages : q.stages = p.stages) (hredirection : q.redirection? = p.redirection?) :
    q = p := by
  cases p <;> cases q <;> simp_all [stages, redirection?]

private theorem exists_pipeline {ss : List Stage} (h : 2 ≤ ss.length) :
    ∃ q : Plan, q.isPipeline = true ∧ q.stages = ss := by
  match ss with
  | [] | [_] => simp at h
  | first :: second :: others => exact ⟨.pipeline first second others, rfl, rfl⟩

private theorem two_le_length_stages {p : Plan} (h : p.isPipeline = true) : 2 ≤ p.stages.length := by
  cases p with
  | pipeline first second others =>
    simp only [stages, List.length_cons]
    omega
  | command | redirected => cases h

/-! ### Words behind a text -/

/-- Some words, each of them behind a space. -/
private def behind (ws : List (List Char)) : List Char := ws.flatMap (' ' :: ·)

private theorem isWord_of_plain {args : List String} (h : ∀ w ∈ args, IsPlainWord w) :
    ∀ w ∈ args.map String.toList, Text.IsWord w := by
  intro w hw
  obtain ⟨a, ha, rfl⟩ := List.mem_map.1 hw
  exact (h a ha).1

private theorem behind_cons (w : List Char) (ws : List (List Char)) : behind (w :: ws) = ' ' :: (w ++ behind ws) := by
  simp [behind]

private theorem intercalate_eq_append_behind (cs : List Char) (ws : List (List Char)) :
    List.intercalate [' '] (cs :: ws) = cs ++ behind ws := by
  induction ws generalizing cs with
  | nil => simp [behind]
  | cons w ws ih => rw [List.intercalate_cons_cons, ih, behind_cons, List.append_assoc, List.singleton_append]

private theorem wordsOf_append_behind {ws : List (List Char)} (h : ∀ w ∈ ws, Text.IsWord w) (cs : List Char) :
    Text.wordsOf (cs ++ behind ws) = Text.wordsOf cs ++ ws := by
  induction ws generalizing cs with
  | nil => simp [behind]
  | cons w ws ih =>
    obtain ⟨hw, hws⟩ := List.forall_mem_cons.1 h
    have hblank : Text.isBlank ' ' = true := by decide
    rw [behind_cons, Text.wordsOf_append_blank cs _ hblank, ih hws, Text.wordsOf_of_isWord hw, List.singleton_append]

private theorem notMem_behind {ws : List (List Char)} {c : Char} (hc : c ≠ ' ') (h : ∀ w ∈ ws, c ∉ w) :
    c ∉ behind ws := by
  intro hmem
  obtain ⟨w, hw, hcw⟩ := List.mem_flatMap.1 hmem
  rcases List.mem_cons.1 hcw with hspace | hin
  · exact hc hspace
  · exact h w hw hin

private theorem trimmed_append_behind {cs : List Char} (hcs : Text.Trimmed cs) (hne : cs ≠ [])
    {ws : List (List Char)} (h : ∀ w ∈ ws, Text.IsWord w) : Text.Trimmed (cs ++ behind ws) := by
  rw [← intercalate_eq_append_behind]
  have hall : ∀ w ∈ cs :: ws, Text.Trimmed w ∧ w ≠ [] :=
    List.forall_mem_cons.2 ⟨⟨hcs, hne⟩, fun w hw => ⟨(h w hw).trimmed, (h w hw).1⟩⟩
  exact (Text.trimmed_intercalate [' '] hall (List.cons_ne_nil cs ws)).1

private theorem trimChars_append_behind {cs : List Char} (hlast : ∀ c ∈ cs.getLast?, Text.isBlank c = false)
    (hne : Text.trimChars cs ≠ []) {ws : List (List Char)} (h : ∀ w ∈ ws, Text.IsWord w) :
    Text.trimChars (cs ++ behind ws) = Text.trimChars cs ++ behind ws := by
  obtain ⟨front, hcs, hfront⟩ := Text.exists_eq_append_trimChars hlast
  have htrimmed := trimmed_append_behind (Text.trimmed_trimChars cs) hne h
  have := Text.trimChars_append hfront htrimmed (List.forall_mem_nil _)
  conv_lhs => rw [hcs]
  simpa using this

/-! ### What they come to -/

/-- Characters without operators behind a text, after a space, leave the redirection where it is. -/
theorem Redirects.extend {t before after back : List Char} {kind : RedirectionKind}
    (h : Redirects t kind before after) (hread : '<' ∉ back) (hpipe : '|' ∉ back) (hwrite : '>' ∉ back) :
    Redirects (t ++ ' ' :: back) kind before (after ++ ' ' :: back) := by
  have hreads : '<' ∉ t → '<' ∉ t ++ ' ' :: back := by
    intro ht
    simp [ht, hread]
  have hpipes : '|' ∉ t → '|' ∉ t ++ ' ' :: back := by
    intro ht
    simp [ht, hpipe]
  cases h with
  | read h => exact .read (h.append _)
  | append hr hp h => exact .append (hreads hr) (hpipes hp) (h.append _)
  | truncate hr hp hpair h =>
    refine .truncate (hreads hr) (hpipes hp) ?_ (h.append _)
    intro hi
    rcases Text.infix_of_infix_append_cons (by simp) (by simp) hi with ht | hb
    · exact hpair ht
    · exact hwrite (hb.subset (by simp))

/-- How a plan comes out of another when arguments are written behind its text. -/
structure Appended (p : Plan) (args : List String) (q : Plan) : Prop where
  stages : p.redirection? = none → q.stages = p.stages.dropLast ++ [p.lastStage.append args]
  redirection : q.redirection? = p.redirection?.map fun r => ⟨r.kind, Text.spaced (r.path :: args)⟩
  stage : ∀ r, p.redirection? = some r → q.stages = p.stages
  pipeline : q.isPipeline = p.isPipeline

private theorem redirect_append {t before after : List Char} {kind : RedirectionKind} {p : Plan}
    (ht : Text.Trimmed t) (hr : Redirects t kind before after) (h : redirect kind before after = .ok p)
    {args : List String} (hargs : ∀ w ∈ args, IsPlainWord w) :
    ∃ q, redirect kind before (after ++ behind (args.map String.toList)) = .ok q ∧ Appended p args q := by
  obtain ⟨stage, path, rfl, hwords, hpath, hne⟩ := redirect_eq_ok_iff.1 h
  have hall := isWord_of_plain hargs
  have hafter : after ≠ [] := by
    rintro rfl
    exact hne hpath
  have hlast : ∀ c ∈ after.getLast?, Text.isBlank c = false := by
    intro c hc
    obtain ⟨pattern, heq⟩ := hr.eq
    apply ht.2 c
    rw [heq, List.getLast?_append_of_ne_nil _ hafter]
    exact hc
  have hpath' : (Text.spaced (path :: args)).toList = path.toList ++ behind (args.map String.toList) := by
    rw [← intercalate_eq_append_behind, ← List.map_cons, Text.toList_spaced]
  refine ⟨.redirected stage ⟨kind, Text.spaced (path :: args)⟩, ?_, nofun, rfl, fun r _ => rfl, rfl⟩
  rw [redirect_eq_ok_iff]
  refine ⟨stage, _, rfl, hwords, ?_, ?_⟩
  · rw [hpath', trimChars_append_behind hlast (hpath ▸ hne) hall, hpath]
  · rw [hpath']
    simp [hne]

private theorem chain_append {parts : List (List (List Char))} {last : List (List Char)} {p : Plan}
    (h : chain (parts ++ [last]) = .ok p) (args : List String) :
    ∃ q, chain (parts ++ [last ++ args.map String.toList]) = .ok q ∧ Appended p args q := by
  obtain ⟨hpipeline, hstages⟩ := chain_eq_ok_iff.1 h
  rw [← dropLast_append_lastStage, List.map_append, List.map_singleton] at hstages
  obtain ⟨hfront, hlast⟩ := List.append_inj' hstages rfl
  have hlength := two_le_length_stages hpipeline
  obtain ⟨q, hq, hqs⟩ : ∃ q : Plan, q.isPipeline = true ∧
      q.stages = p.stages.dropLast ++ [p.lastStage.append args] := by
    apply exists_pipeline
    rw [List.length_append, List.length_dropLast, List.length_singleton]
    omega
  refine ⟨q, ?_, fun _ => hqs, ?_, ?_, ?_⟩
  · rw [chain_eq_ok_iff, hqs, List.map_append, hfront]
    simp [hq, ← List.singleton_inj.1 hlast]
  · rw [redirection?_of_isPipeline hq, redirection?_of_isPipeline hpipeline]
    rfl
  · intro r hr
    rw [redirection?_of_isPipeline hpipeline] at hr
    cases hr
  · rw [hq, hpipeline]

private theorem plain_append {words : List (List Char)} {p : Plan} (h : plain words = .ok p) (args : List String) :
    ∃ q, plain (words ++ args.map String.toList) = .ok q ∧ Appended p args q := by
  obtain ⟨stage, rfl, hwords⟩ := plain_eq_ok_iff.1 h
  refine ⟨.command (stage.append args), ?_, fun _ => rfl, rfl, nofun, rfl⟩
  rw [plain_eq_ok_iff]
  exact ⟨stage.append args, rfl, by simp [hwords]⟩

private theorem grammar_append {t : List Char} {p : Plan} (ht : Text.Trimmed t) (h : grammar t = .ok p)
    {args : List String} (hargs : ∀ w ∈ args, IsPlainWord w) :
    ∃ q, grammar (t ++ behind (args.map String.toList)) = .ok q ∧ Appended p args q := by
  have hall := isWord_of_plain hargs
  have hnone : ∀ {c}, c ≠ ' ' → (∀ a ∈ args, c ∉ a.toList) → c ∉ behind (args.map String.toList) := by
    intro c hc hfree
    refine notMem_behind hc fun w hw => ?_
    obtain ⟨a, ha, rfl⟩ := List.mem_map.1 hw
    exact hfree a ha
  have hread' := hnone (by decide) fun a ha hc => (hargs a ha).2 (.inl hc)
  have hwrite' := hnone (by decide) fun a ha hc => (hargs a ha).2 (.inr (.inl hc))
  have hpipe' := hnone (by decide) fun a ha hc => (hargs a ha).2 (.inr (.inr hc))
  rcases redirects_or_pipe_or_plain t with ⟨kind, before, after, hr⟩ | ⟨hread, hpipe⟩ | ⟨hread, hpipe, hwrite⟩
  · have hr' : Redirects (t ++ behind (args.map String.toList)) kind before
        (after ++ behind (args.map String.toList)) := by
      cases hback : behind (args.map String.toList) with
      | nil => simpa using hr
      | cons c back =>
        obtain rfl : c = ' ' := by
          cases args with
          | nil => cases hback
          | cons a args =>
            rw [List.map_cons, behind_cons] at hback
            exact (List.cons.inj hback).1.symm
        rw [hback, List.mem_cons, not_or] at hread' hwrite' hpipe'
        exact hr.extend hread'.2 hpipe'.2 hwrite'.2
    rw [grammar_of_redirects hr] at h
    rw [grammar_of_redirects hr']
    exact redirect_append ht hr h hargs
  · obtain ⟨parts, last, hparts, happend⟩ := Text.exists_splitAtChar_append hpipe' t
    rw [grammar_of_pipe hread hpipe, hparts, List.map_append, List.map_singleton] at h
    have hpipes : '|' ∈ t ++ behind (args.map String.toList) := List.mem_append_left _ hpipe
    rw [grammar_of_pipe (by simp [hread, hread']) hpipes, happend, List.map_append, List.map_singleton,
      wordsOf_append_behind hall]
    exact chain_append h args
  · rw [grammar_of_plain hread hpipe hwrite] at h
    rw [grammar_of_plain (by simp [hread, hread']) (by simp [hpipe, hpipe']) (by simp [hwrite, hwrite']),
      wordsOf_append_behind hall]
    exact plain_append h args

/-- Reading a command line with arguments behind it. -/
theorem exists_ofSegment_append {s : String} {p : Plan} {args : List String} (h : ofSegment s = .ok p)
    (hargs : ∀ w ∈ args, IsPlainWord w) :
    ∃ q, ofSegment (Text.spaced (Text.trim s :: args)) = .ok q ∧ Appended p args q := by
  have hne : Text.trimChars s.toList ≠ [] := by
    intro hnil
    rw [ofSegment_eq, if_pos hnil] at h
    cases h
  have htrimmed := Text.trimmed_trimChars s.toList
  obtain ⟨q, hq, happended⟩ := grammar_append htrimmed (grammar_of_ofSegment h) hargs
  have hall := isWord_of_plain hargs
  have htext : (Text.spaced (Text.trim s :: args)).toList =
      Text.trimChars s.toList ++ behind (args.map String.toList) := by
    rw [← Text.toList_trim, ← intercalate_eq_append_behind, ← List.map_cons, Text.toList_spaced]
  have hstays := Text.trimChars_of_trimmed (trimmed_append_behind htrimmed hne hall)
  refine ⟨q, ?_, happended⟩
  rw [ofSegment_eq, htext, hstays, hq, if_neg (by simp [hne])]
  rfl

private theorem spaced_cons (text : String) {args : List String} (h : args ≠ []) :
    Text.spaced (text :: args) = text ++ (" " ++ Text.spaced args) := by
  cases args with
  | nil => exact absurd rfl h
  | cons a args =>
    unfold Text.spaced
    rw [String.intercalate_cons_cons, String.append_assoc]

/-- Arguments written behind a command line arrive: they go to the last stage of its plan, in order, or, if the plan
has a path, belong to the path. Nothing else changes, and the operator that decides stays the same. -/
theorem ofSegment_append {s : String} {p : Plan} {args : List String} (h : ofSegment s = .ok p)
    (hargs : ∀ w ∈ args, IsPlainWord w) :
    ∃ q, ofSegment (Text.spaced (Text.trim s :: args)) = .ok q ∧
      (p.redirection? = none →
        q.stages = p.stages.dropLast ++ [⟨p.lastStage.command, p.lastStage.args ++ args⟩] ∧ q.redirection? = none) ∧
      (∀ r, p.redirection? = some r →
        q.stages = p.stages ∧
        q.redirection? = some ⟨r.kind, if args = [] then r.path else r.path ++ (" " ++ Text.spaced args)⟩) ∧
      (args = [] → q = p) ∧
      q.stages.length = p.stages.length ∧ q.isPipeline = p.isPipeline ∧ q.isSimple = p.isSimple := by
  obtain ⟨q, hq, happended⟩ := exists_ofSegment_append h hargs
  have hlengths : p.stages.length = p.stages.dropLast.length + 1 := by
    conv_lhs => rw [← dropLast_append_lastStage p, List.length_append, List.length_singleton]
  refine ⟨q, hq, ?_, ?_, ?_, ?_, happended.pipeline, ?_⟩
  · intro hnone
    exact ⟨happended.stages hnone, by rw [happended.redirection, hnone]; rfl⟩
  · intro r hr
    refine ⟨happended.stage r hr, ?_⟩
    rw [happended.redirection, hr]
    by_cases hnil : args = []
    · rw [if_pos hnil, hnil]
      rfl
    · rw [if_neg hnil, ← spaced_cons r.path hnil]
      rfl
  · rintro rfl
    apply eq_of_stages
    · cases hr : p.redirection? with
      | none =>
        have hlast : p.lastStage.append [] = p.lastStage := by simp [Stage.append]
        rw [happended.stages hr, hlast, dropLast_append_lastStage]
      | some r => exact happended.stage r hr
    · rw [happended.redirection]
      cases p.redirection? <;> rfl
  · cases hr : p.redirection? with
    | none => rw [happended.stages hr, List.length_append, List.length_singleton, hlengths]
    | some r => rw [happended.stage r hr]
  · rw [isSimple_eq, isSimple_eq, happended.pipeline, happended.redirection, Option.isNone_map]

theorem ofSegment_append_sort :
    (∃ q, ofSegment (Text.spaced [Text.trim " sort | wc ", "-l", "-c"]) = .ok q ∧
      q.stages = [⟨"sort", []⟩, ⟨"wc", ["-l", "-c"]⟩]) ∧
    ∃ q, ofSegment (Text.spaced [Text.trim "sort >out", "-l", "-c"]) = .ok q ∧
      q.stages = [⟨"sort", []⟩] ∧ q.redirection? = some ⟨.truncate, "out -l -c"⟩ := by
  have hargs : ∀ w ∈ ["-l", "-c"], IsPlainWord w := by
    have hblanks : Text.isBlank '-' = false ∧ Text.isBlank 'l' = false ∧ Text.isBlank 'c' = false := by decide
    simp [IsPlainWord, Text.IsWord, HasOperator, hblanks]
  constructor
  · have h : ofSegment " sort | wc " = .ok (.pipeline ⟨"sort", []⟩ ⟨"wc", []⟩ []) := by rfl
    obtain ⟨q, hq, hstages, -⟩ := ofSegment_append h hargs
    exact ⟨q, hq, (hstages rfl).1⟩
  · have h : ofSegment "sort >out" = .ok (.redirected ⟨"sort", []⟩ ⟨.truncate, "out"⟩) := by rfl
    obtain ⟨q, hq, -, hpath, -⟩ := ofSegment_append h hargs
    obtain ⟨hstages, hredirection⟩ := hpath _ rfl
    exact ⟨q, hq, hstages, hredirection⟩

end Plan

end CommandShell
