import CommandShell.Proofs.Plan.Scanning

/-!
# The grammar of segments

What a segment means, said of its text alone: the first of `<`, `|`, `>>` and `>` that occurs decides, and the text
is cut at its first occurrence, or at every `|`. The main statement is that reading a segment by its tokens is
reading it by this grammar, with the same refusals (`ofSegment_eq_grammar`).
-/

namespace CommandShell

namespace Plan

/-- A stage from its words. -/
def stageOf? (words : List (List Char)) : Option Stage :=
  match words with
  | [] => none
  | name :: args => some ⟨String.ofList name, args.map String.ofList⟩

/-- A command with a redirection, from what stands before and after the operator. -/
def redirect (kind : RedirectionKind) (before after : List Char) : Except PlanFault Plan :=
  match stageOf? (Text.wordsOf before) with
  | none => .error .missingCommand
  | some stage =>
    if Text.trimChars after = [] then .error (.missingFile kind.operator)
    else .ok (.redirected stage ⟨kind, String.ofList (Text.trimChars after)⟩)

/-- A pipeline from the words of its parts. -/
def chain (parts : List (List (List Char))) : Except PlanFault Plan :=
  match parts.mapM stageOf? with
  | some (first :: second :: others) => .ok (.pipeline first second others)
  | _ => .error .emptyStage

/-- A plain command from its words. -/
def plain (words : List (List Char)) : Except PlanFault Plan :=
  match stageOf? words with
  | none => .error .missingCommand
  | some stage => .ok (.command stage)

/-- What a trimmed text means. -/
def grammar (t : List Char) : Except PlanFault Plan :=
  match Text.cutAt? ['<'] t with
  | some (before, after) => redirect .read before after
  | none =>
    if '|' ∈ t then chain ((Text.splitAtChar '|' t).map Text.wordsOf)
    else
      match Text.cutAt? ['>', '>'] t with
      | some (before, after) => redirect .append before after
      | none =>
        match Text.cutAt? ['>'] t with
        | some (before, after) => redirect .truncate before after
        | none => plain (Text.wordsOf t)

/-! ### Reading by tokens is reading by the grammar -/

private theorem ofText?_ofList (cs : List Char) : Stage.ofText? (String.ofList cs) = stageOf? (Text.wordsOf cs) := by
  unfold Stage.ofText? Text.words stageOf?
  rw [String.toList_ofList]
  cases Text.wordsOf cs <;> rfl

/-- Cutting at the places of an occurrence is cutting at the occurrence. -/
private theorem readRedirected_eq {kind : RedirectionKind} {pattern cs before after : List Char}
    (h : Text.CutAt pattern cs before after) :
    readRedirected (String.ofList cs) kind before.length (before.length + pattern.length) =
      redirect kind before after := by
  have hbefore : slice cs 0 before.length = String.ofList before := by simp [slice, h.eq]
  have hafter : cs.drop (before.length + pattern.length) = after := by
    rw [h.eq, ← List.length_append, List.drop_left]
  unfold readRedirected redirect
  simp only [String.toList_ofList, hbefore, hafter, ofText?_ofList]
  cases stageOf? (Text.wordsOf before) with
  | none => rfl
  | some stage => simp

private theorem readPipeline_eq (cs : List Char) :
    readPipeline (String.ofList cs) (Token.occurrences .pipe (Token.scanFrom 0 [] cs)) =
      chain ((Text.splitAtChar '|' cs).map Text.wordsOf) := by
  have hwords : Stage.ofText? ∘ String.ofList = stageOf? ∘ Text.wordsOf := funext ofText?_ofList
  have hstages : (slicesBetween (String.ofList cs).toList 0
      (Token.occurrences .pipe (Token.scanFrom 0 [] cs))).mapM Stage.ofText? =
        ((Text.splitAtChar '|' cs).map Text.wordsOf).mapM stageOf? := by
    rw [String.toList_ofList, slicesBetween_pipes, List.mapM_map, List.mapM_map, hwords]
  unfold readPipeline
  rw [hstages]
  rfl

/-- The places of the first occurrence of an operator, when scanning finds it where searching does. -/
private theorem occurrences_of_cutAt (op : Operator) {cs before after : List Char}
    (hop : op = .writeTo → ¬ ['>', '>'] <:+: cs) (h : Text.cutAt? op.symbol.toList cs = some (before, after)) :
    ∃ others, Token.occurrences op (Token.scanFrom 0 [] cs) =
      (before.length, before.length + op.symbol.toList.length) :: others := by
  have := Token.head?_occurrences 0 [] cs hop
  rw [Token.placeOf, h] at this
  simpa using List.head?_eq_some_iff.1 this

private theorem occurrences_of_cutAt_none (op : Operator) {cs : List Char}
    (hop : op = .writeTo → ¬ ['>', '>'] <:+: cs) (h : Text.cutAt? op.symbol.toList cs = none) :
    Token.occurrences op (Token.scanFrom 0 [] cs) = [] := by
  have := Token.head?_occurrences 0 [] cs hop
  rw [Token.placeOf, h] at this
  simpa using this

private theorem occurrences_pipe_eq_nil_iff {cs : List Char} :
    Token.occurrences .pipe (Token.scanFrom 0 [] cs) = [] ↔ '|' ∉ cs := by
  rw [← List.head?_eq_none_iff, Token.head?_occurrences 0 [] cs (by simp), Token.placeOf, Option.map_eq_none_iff]
  exact Text.cutAt?_singleton_eq_none_iff

/-- A trimmed text is read by its tokens as the grammar reads it. -/
theorem readTrimmed_eq_grammar (t : List Char) : readTrimmed (String.ofList t) = grammar t := by
  unfold readTrimmed grammar Token.scan
  rw [String.toList_ofList]
  cases hread : Text.cutAt? ['<'] t with
  | some parts =>
    obtain ⟨before, after⟩ := parts
    obtain ⟨others, ho⟩ := occurrences_of_cutAt .readFrom (by simp) hread
    simp only [ho]
    exact readRedirected_eq (Text.cutAt?_eq_some_iff.1 hread)
  | none =>
    have hr := occurrences_of_cutAt_none .readFrom (by simp) hread
    by_cases hp : '|' ∈ t
    · obtain ⟨pipe, pipes, ho⟩ := List.exists_cons_of_ne_nil (mt occurrences_pipe_eq_nil_iff.1 (not_not.2 hp))
      have := readPipeline_eq t
      rw [ho] at this
      simp only [hr, ho, this, if_pos hp]
    · have hno := occurrences_pipe_eq_nil_iff.2 hp
      simp only [hr, hno, if_neg hp]
      cases happend : Text.cutAt? ['>', '>'] t with
      | some parts =>
        obtain ⟨before, after⟩ := parts
        obtain ⟨others, ho⟩ := occurrences_of_cutAt .appendTo (by simp) happend
        simp only [ho]
        exact readRedirected_eq (Text.cutAt?_eq_some_iff.1 happend)
      | none =>
        have ha := occurrences_of_cutAt_none .appendTo (by simp) happend
        have hpairs : Operator.writeTo = .writeTo → ¬ ['>', '>'] <:+: t :=
          fun _ => Text.cutAt?_eq_none_iff.1 happend
        cases hwrite : Text.cutAt? ['>'] t with
        | some parts =>
          obtain ⟨before, after⟩ := parts
          obtain ⟨others, ho⟩ := occurrences_of_cutAt .writeTo hpairs hwrite
          simp only [ha, ho]
          exact readRedirected_eq (Text.cutAt?_eq_some_iff.1 hwrite)
        | none =>
          have hw := occurrences_of_cutAt_none .writeTo hpairs hwrite
          simp only [ha, hw, ofText?_ofList, plain]
          cases stageOf? (Text.wordsOf t) <;> rfl

/-! ### Refusals -/

/-- The redirection that a text asks for, with what stands before and after its operator. -/
inductive Redirects (t : List Char) : RedirectionKind → List Char → List Char → Prop
  | read {before after : List Char} (h : Text.CutAt ['<'] t before after) : Redirects t .read before after
  | append {before after : List Char} (hread : '<' ∉ t) (hpipe : '|' ∉ t)
      (h : Text.CutAt ['>', '>'] t before after) : Redirects t .append before after
  | truncate {before after : List Char} (hread : '<' ∉ t) (hpipe : '|' ∉ t) (hpair : ¬ ['>', '>'] <:+: t)
      (h : Text.CutAt ['>'] t before after) : Redirects t .truncate before after

theorem Redirects.eq {t before after : List Char} {kind : RedirectionKind} (h : Redirects t kind before after) :
    ∃ pattern, t = before ++ pattern ++ after := by
  cases h with
  | read h | append _ _ h | truncate _ _ _ h => exact ⟨_, h.eq⟩

/-- The reason for which a text makes no plan. -/
inductive Refused (t : List Char) : String → Prop
  | missingCommand {kind : RedirectionKind} {before after : List Char} (h : Redirects t kind before after)
      (hwords : Text.wordsOf before = []) : Refused t "missing command"
  | missingFile {kind : RedirectionKind} {before after : List Char} (h : Redirects t kind before after)
      (hwords : Text.wordsOf before ≠ []) (hpath : Text.trimChars after = []) :
      Refused t ("missing file after '" ++ kind.operator.symbol ++ "'")
  | emptyStage {part : List Char} (hread : '<' ∉ t) (hpipe : '|' ∈ t) (hpart : part ∈ Text.splitAtChar '|' t)
      (hwords : Text.wordsOf part = []) : Refused t "empty pipeline stage"

theorem grammar_of_redirects {t before after : List Char} {kind : RedirectionKind}
    (h : Redirects t kind before after) : grammar t = redirect kind before after := by
  unfold grammar
  cases h with
  | read h => rw [Text.cutAt?_eq_some_iff.2 h]
  | append hread hpipe h =>
    rw [Text.cutAt?_singleton_eq_none_iff.2 hread, Text.cutAt?_eq_some_iff.2 h]
    exact if_neg hpipe
  | truncate hread hpipe hpair h =>
    rw [Text.cutAt?_singleton_eq_none_iff.2 hread, Text.cutAt?_eq_none_iff.2 hpair, Text.cutAt?_eq_some_iff.2 h]
    exact if_neg hpipe

theorem grammar_of_pipe {t : List Char} (hread : '<' ∉ t) (hpipe : '|' ∈ t) :
    grammar t = chain ((Text.splitAtChar '|' t).map Text.wordsOf) := by
  unfold grammar
  rw [Text.cutAt?_singleton_eq_none_iff.2 hread]
  exact if_pos hpipe

theorem grammar_of_plain {t : List Char} (hread : '<' ∉ t) (hpipe : '|' ∉ t) (hwrite : '>' ∉ t) :
    grammar t = plain (Text.wordsOf t) := by
  have hpair : ¬ ['>', '>'] <:+: t := fun h => hwrite (h.subset (by simp))
  unfold grammar
  rw [Text.cutAt?_singleton_eq_none_iff.2 hread, Text.cutAt?_eq_none_iff.2 hpair,
    Text.cutAt?_singleton_eq_none_iff.2 hwrite]
  exact if_neg hpipe

/-- A text asks for a redirection, or is a pipeline, or holds no operator. -/
theorem redirects_or_pipe_or_plain (t : List Char) :
    (∃ kind before after, Redirects t kind before after) ∨ ('<' ∉ t ∧ '|' ∈ t) ∨
      ('<' ∉ t ∧ '|' ∉ t ∧ '>' ∉ t) := by
  cases hread : Text.cutAt? ['<'] t with
  | some parts => exact .inl ⟨.read, parts.1, parts.2, .read (Text.cutAt?_eq_some_iff.1 hread)⟩
  | none =>
    rw [Text.cutAt?_singleton_eq_none_iff] at hread
    by_cases hpipe : '|' ∈ t
    · exact .inr (.inl ⟨hread, hpipe⟩)
    cases happend : Text.cutAt? ['>', '>'] t with
    | some parts =>
      exact .inl ⟨.append, parts.1, parts.2, .append hread hpipe (Text.cutAt?_eq_some_iff.1 happend)⟩
    | none =>
      rw [Text.cutAt?_eq_none_iff] at happend
      cases hwrite : Text.cutAt? ['>'] t with
      | some parts =>
        exact .inl ⟨.truncate, parts.1, parts.2, .truncate hread hpipe happend (Text.cutAt?_eq_some_iff.1 hwrite)⟩
      | none => exact .inr (.inr ⟨hread, hpipe, Text.cutAt?_singleton_eq_none_iff.1 hwrite⟩)

theorem stageOf?_eq_none_iff {words : List (List Char)} : stageOf? words = none ↔ words = [] := by
  cases words <;> simp [stageOf?]

theorem stageOf?_eq_some_iff {words : List (List Char)} {stage : Stage} :
    stageOf? words = some stage ↔ stage.words.map String.toList = words := by
  cases words with
  | nil => simp [stageOf?, Stage.words]
  | cons name args =>
    simp only [stageOf?, Option.some.injEq, Stage.words, List.map_cons, List.cons.injEq]
    constructor
    · rintro rfl
      simp
    · rintro ⟨rfl, rfl⟩
      simp

/-- The words of several stages, from their words and back. -/
theorem mapM_stageOf?_eq_some_iff {parts : List (List (List Char))} {stages : List Stage} :
    parts.mapM stageOf? = some stages ↔ stages.map (fun stage => stage.words.map String.toList) = parts := by
  induction parts generalizing stages with
  | nil => cases stages <;> simp
  | cons part parts ih =>
    rw [List.mapM_cons]
    cases stages with
    | nil =>
      cases stageOf? part <;> cases parts.mapM stageOf? <;> simp
    | cons stage stages =>
      rw [List.map_cons, List.cons.injEq, ← stageOf?_eq_some_iff, ← ih]
      cases stageOf? part <;> cases parts.mapM stageOf? <;> simp

theorem mapM_stageOf?_eq_none_iff {parts : List (List (List Char))} : parts.mapM stageOf? = none ↔ [] ∈ parts := by
  induction parts with
  | nil => simp
  | cons part parts ih =>
    rw [List.mapM_cons, List.mem_cons, ← ih, @eq_comm _ [] part, ← stageOf?_eq_none_iff]
    cases stageOf? part <;> cases parts.mapM stageOf? <;> simp

theorem redirect_eq_error_iff {kind : RedirectionKind} {before after : List Char} {fault : PlanFault} :
    redirect kind before after = .error fault ↔
      (Text.wordsOf before = [] ∧ fault = .missingCommand) ∨
        (Text.wordsOf before ≠ [] ∧ Text.trimChars after = [] ∧ fault = .missingFile kind.operator) := by
  unfold redirect
  rw [ne_eq, ← stageOf?_eq_none_iff]
  cases stageOf? (Text.wordsOf before) with
  | none => simp [@eq_comm _ fault]
  | some stage => by_cases hp : Text.trimChars after = [] <;> simp [hp, @eq_comm _ fault]

theorem redirect_eq_ok_iff {kind : RedirectionKind} {before after : List Char} {p : Plan} :
    redirect kind before after = .ok p ↔
      ∃ stage path, p = .redirected stage ⟨kind, path⟩ ∧ stage.words.map String.toList = Text.wordsOf before ∧
        path.toList = Text.trimChars after ∧ path.toList ≠ [] := by
  unfold redirect
  simp only [← stageOf?_eq_some_iff]
  cases stageOf? (Text.wordsOf before) with
  | none => simp
  | some stage =>
    by_cases hp : Text.trimChars after = []
    · simp [hp]
    · simp only [hp, if_false, Except.ok.injEq, Option.some.injEq]
      constructor
      · rintro rfl
        exact ⟨stage, _, rfl, rfl, String.toList_ofList, by rwa [String.toList_ofList]⟩
      · rintro ⟨_, path, rfl, rfl, hpath, -⟩
        rw [← hpath, String.ofList_toList]

theorem chain_eq_error_iff {parts : List (List (List Char))} (h : 2 ≤ parts.length) {fault : PlanFault} :
    chain parts = .error fault ↔ [] ∈ parts ∧ fault = .emptyStage := by
  unfold chain
  rw [← mapM_stageOf?_eq_none_iff]
  cases hp : parts.mapM stageOf? with
  | none => simp [@eq_comm _ fault]
  | some stages =>
    have hlen : stages.length = parts.length := by
      rw [← mapM_stageOf?_eq_some_iff.1 hp, List.length_map]
    match stages with
    | [] | [_] => simp at hlen; omega
    | _ :: _ :: _ => simp

theorem chain_eq_ok_iff {parts : List (List (List Char))} {p : Plan} :
    chain parts = .ok p ↔
      p.isPipeline = true ∧ p.stages.map (fun stage => stage.words.map String.toList) = parts := by
  rw [← mapM_stageOf?_eq_some_iff]
  unfold chain
  constructor
  · intro h
    split at h
    · next first second others hp =>
      cases h
      exact ⟨rfl, hp⟩
    · cases h
  · rintro ⟨hp, hs⟩
    cases p with
    | pipeline first second others => simp [hs, stages]
    | command | redirected => simp [isPipeline] at hp

theorem plain_eq_error_iff {words : List (List Char)} {fault : PlanFault} :
    plain words = .error fault ↔ words = [] ∧ fault = .missingCommand := by
  unfold plain
  rw [← stageOf?_eq_none_iff]
  cases stageOf? words <;> simp [@eq_comm _ fault]

theorem plain_eq_ok_iff {words : List (List Char)} {p : Plan} :
    plain words = .ok p ↔ ∃ stage, p = .command stage ∧ stage.words.map String.toList = words := by
  unfold plain
  simp only [← stageOf?_eq_some_iff]
  cases stageOf? words <;> simp [@eq_comm _ p]

/-- The parts of a text with a `|` are two or more. -/
private theorem two_le_length_parts {t : List Char} (hpipe : '|' ∈ t) :
    2 ≤ ((Text.splitAtChar '|' t).map Text.wordsOf).length := by
  obtain ⟨first, second, others, h⟩ := Text.splitAtChar_of_mem hpipe
  simp [h]

/-- The grammar makes no plan of a trimmed text exactly when the text is refused. -/
theorem grammar_eq_error_iff {t : List Char} (ht : Text.Trimmed t) (hne : t ≠ []) {reason : String} :
    (∃ fault, grammar t = .error fault ∧ fault.reason = reason) ↔ Refused t reason := by
  constructor
  · rintro ⟨fault, hg, rfl⟩
    rcases redirects_or_pipe_or_plain t with ⟨kind, before, after, h⟩ | ⟨hread, hpipe⟩ | ⟨hread, hpipe, hwrite⟩
    · rw [grammar_of_redirects h, redirect_eq_error_iff] at hg
      rcases hg with ⟨hw, rfl⟩ | ⟨hw, hp, rfl⟩
      · exact .missingCommand h hw
      · exact .missingFile h hw hp
    · rw [grammar_of_pipe hread hpipe, chain_eq_error_iff (two_le_length_parts hpipe), List.mem_map] at hg
      obtain ⟨⟨part, hpart, hw⟩, rfl⟩ := hg
      exact .emptyStage hread hpipe hpart hw
    · -- a text that is not empty and has no blanks at its ends has a word
      rw [grammar_of_plain hread hpipe hwrite, plain_eq_error_iff, Text.wordsOf_eq_nil_iff] at hg
      have := Text.trimChars_eq_nil_iff.2 hg.1
      rw [Text.trimChars_of_trimmed ht] at this
      exact absurd this hne
  · intro h
    cases h with
    | missingCommand h hw =>
      exact ⟨.missingCommand, by rw [grammar_of_redirects h, redirect_eq_error_iff]; exact .inl ⟨hw, rfl⟩, rfl⟩
    | missingFile h hw hp =>
      exact ⟨.missingFile _, by rw [grammar_of_redirects h, redirect_eq_error_iff]; exact .inr ⟨hw, hp, rfl⟩, rfl⟩
    | emptyStage hread hpipe hpart hw =>
      refine ⟨.emptyStage, ?_, rfl⟩
      rw [grammar_of_pipe hread hpipe, chain_eq_error_iff (two_le_length_parts hpipe)]
      exact ⟨List.mem_map.2 ⟨_, hpart, hw⟩, rfl⟩

private theorem Redirects.operator_mem {t before after : List Char} {kind : RedirectionKind}
    (h : Redirects t kind before after) : '<' ∈ t ∨ '>' ∈ t := by
  cases h with
  | read h => exact .inl (by simp [h.eq])
  | append _ _ h => exact .inr (by simp [h.eq])
  | truncate _ _ _ h => exact .inr (by simp [h.eq])

/-- A plan is a plain command exactly when its text holds no operator. -/
theorem isSimple_iff_of_grammar {t : List Char} {p : Plan} (h : grammar t = .ok p) :
    p.isSimple = true ↔ '<' ∉ t ∧ '>' ∉ t ∧ '|' ∉ t := by
  rcases redirects_or_pipe_or_plain t with ⟨kind, before, after, hr⟩ | ⟨hread, hpipe⟩ | ⟨hread, hpipe, hwrite⟩
  · rw [grammar_of_redirects hr, redirect_eq_ok_iff] at h
    obtain ⟨stage, path, rfl, -⟩ := h
    have := hr.operator_mem
    simp only [isSimple, Bool.false_eq_true, false_iff]
    tauto
  · rw [grammar_of_pipe hread hpipe, chain_eq_ok_iff] at h
    cases p with
    | pipeline => simp [isSimple, hpipe]
    | command | redirected => simp [isPipeline] at h
  · rw [grammar_of_plain hread hpipe hwrite, plain_eq_ok_iff] at h
    obtain ⟨stage, rfl, -⟩ := h
    simp [isSimple, hread, hpipe, hwrite]

private theorem mapError_eq_error_iff {α β γ : Type} {f : α → β} {r : Except α γ} {e : β} :
    r.mapError f = .error e ↔ ∃ a, r = .error a ∧ f a = e := by
  cases r <;> simp [Except.mapError]

private theorem mapError_eq_ok_iff {α β γ : Type} {f : α → β} {r : Except α γ} {c : γ} :
    r.mapError f = .ok c ↔ r = .ok c := by
  cases r <;> simp [Except.mapError]

/-- A segment without characters but blanks is empty; any other is read by the grammar. -/
theorem ofSegment_eq (s : String) :
    ofSegment s =
      if Text.trimChars s.toList = [] then .error ⟨s, .emptyCommand⟩
      else (grammar (Text.trimChars s.toList)).mapError (ParseError.mk (Text.trim s)) := by
  have hscan : (Token.scan (Text.trim s)).isEmpty = true ↔ Text.trimChars s.toList = [] := by
    rw [List.isEmpty_iff, Token.scan, Token.scanFrom_eq_nil_iff, ← Text.trimChars_eq_nil_iff, Text.trim,
      String.toList_ofList, Text.trimChars_of_trimmed (Text.trimmed_trimChars _)]
    simp
  unfold ofSegment
  simp only [hscan]
  rw [Text.trim, readTrimmed_eq_grammar]

/-- A plan of a segment is a plan of its text by the grammar. -/
theorem grammar_of_ofSegment {s : String} {p : Plan} (h : ofSegment s = .ok p) :
    grammar (Text.trimChars s.toList) = .ok p := by
  rw [ofSegment_eq] at h
  split at h
  · cases h
  · exact mapError_eq_ok_iff.1 h

/-- A text holds one of the characters that make operators. -/
def HasOperator (text : String) : Prop := '<' ∈ text.toList ∨ '>' ∈ text.toList ∨ '|' ∈ text.toList

/-- A word without blanks and without operators. -/
def IsPlainWord (w : String) : Prop := Text.IsWord w.toList ∧ ¬ HasOperator w

/-- Wherever an operator stands in a text, what the text asks for is no plain command. -/
theorem isSimple_of_hasOperator {s : String} {p : Plan} (hs : HasOperator s) (h : ofSegment s = .ok p) :
    p.isSimple = false := by
  rw [← Bool.not_eq_true, isSimple_iff_of_grammar (grammar_of_ofSegment h), Text.mem_trimChars_iff (by decide),
    Text.mem_trimChars_iff (by decide), Text.mem_trimChars_iff (by decide)]
  rintro ⟨hread, hwrite, hpipe⟩
  rcases hs with hs | hs | hs
  · exact hread hs
  · exact hwrite hs
  · exact hpipe hs

/-- A text without operators is the command of its words. -/
theorem ofSegment_of_words {s name : String} {args : List String} (hs : ¬ HasOperator s)
    (h : Text.words s = name :: args) : ofSegment s = .ok (.command ⟨name, args⟩) := by
  have hwords : (Text.wordsOf (Text.trimChars s.toList)).map String.ofList = name :: args := by
    rw [Text.wordsOf_trimChars]
    exact h
  have hne : Text.trimChars s.toList ≠ [] := by
    intro hnil
    simp [hnil, Text.wordsOf, Text.wordsAux] at hwords
  have hmem : ∀ c, c ∉ s.toList → c ∉ Text.trimChars s.toList :=
    fun c hc hin => hc ((Text.trimChars_within s.toList).subset hin)
  unfold HasOperator at hs
  rw [not_or, not_or] at hs
  rw [ofSegment_eq, if_neg hne, grammar_of_plain (hmem _ hs.1) (hmem _ hs.2.2) (hmem _ hs.2.1)]
  unfold plain stageOf?
  cases hparts : Text.wordsOf (Text.trimChars s.toList) with
  | nil => simp [hparts] at hwords
  | cons first rest =>
    rw [hparts, List.map_cons] at hwords
    obtain ⟨rfl, rfl⟩ := List.cons.inj hwords
    rfl

/-- The words and the path of a plan. -/
def texts (p : Plan) : List String := p.stages.flatMap Stage.words ++ (p.redirection?.map (·.path)).toList

private theorem mem_of_mem_word {stage : Stage} {word : String} {cs : List Char} {c : Char}
    (hstage : stage.words.map String.toList = Text.wordsOf cs) (hword : word ∈ stage.words) (hc : c ∈ word.toList) :
    c ∈ cs := by
  have hmem : word.toList ∈ Text.wordsOf cs := hstage ▸ List.mem_map_of_mem hword
  exact (Text.mem_wordsOf hmem).2.subset hc

/-- The characters of a plan are characters of its segment. -/
theorem mem_of_ofSegment {s : String} {p : Plan} (h : ofSegment s = .ok p) {text : String} (ht : text ∈ p.texts)
    {c : Char} (hc : c ∈ text.toList) : c ∈ s.toList := by
  have hg := grammar_of_ofSegment h
  refine (Text.trimChars_within s.toList).subset ?_
  generalize Text.trimChars s.toList = t at hg ⊢
  rcases redirects_or_pipe_or_plain t with ⟨kind, before, after, hr⟩ | ⟨hread, hpipe⟩ | ⟨hread, hpipe, hwrite⟩
  · rw [grammar_of_redirects hr, redirect_eq_ok_iff] at hg
    obtain ⟨stage, path, rfl, hstage, hpath, -⟩ := hg
    obtain ⟨pattern, heq⟩ := hr.eq
    have ht' : text ∈ stage.words ∨ text = path := by simpa [texts, stages, redirection?] using ht
    rcases ht' with hword | rfl
    · have := mem_of_mem_word hstage hword hc
      simp [heq, this]
    · have := (Text.trimChars_within after).subset (hpath ▸ hc)
      simp [heq, this]
  · rw [grammar_of_pipe hread hpipe, chain_eq_ok_iff] at hg
    obtain ⟨hpipeline, hstages⟩ := hg
    have ht' : ∃ stage ∈ p.stages, text ∈ stage.words := by
      cases p <;> simp_all [texts, redirection?, isPipeline]
    obtain ⟨stage, hstage, hword⟩ := ht'
    have hmem : stage.words.map String.toList ∈ (Text.splitAtChar '|' t).map Text.wordsOf :=
      hstages ▸ List.mem_map_of_mem hstage
    obtain ⟨part, hpart, hwords⟩ := List.mem_map.1 hmem
    exact (Text.mem_splitAtChar hpart).1.subset (mem_of_mem_word hwords.symm hword hc)
  · rw [grammar_of_plain hread hpipe hwrite, plain_eq_ok_iff] at hg
    obtain ⟨stage, rfl, hstage⟩ := hg
    have hword : text ∈ stage.words := by simpa [texts, stages, redirection?] using ht
    exact mem_of_mem_word hstage hword hc

/-- Reading a segment by its tokens is reading its text by the grammar. A segment is refused when it is blank, and
otherwise exactly for the reasons of the grammar; and it is a plain command exactly when its text holds none of
`<`, `>` and `|`. -/
theorem ofSegment_eq_grammar (s : String) :
    (ofSegment s =
      if Text.trimChars s.toList = [] then .error ⟨s, .emptyCommand⟩
      else (grammar (Text.trimChars s.toList)).mapError (ParseError.mk (Text.trim s))) ∧
    (∀ segment reason, (∃ e, ofSegment s = .error e ∧ e.segment = segment ∧ e.fault.reason = reason) ↔
      (Text.trimChars s.toList = [] ∧ segment = s ∧ reason = "empty command") ∨
        (Text.trimChars s.toList ≠ [] ∧ segment = Text.trim s ∧ Refused (Text.trimChars s.toList) reason)) ∧
    ∀ p, ofSegment s = .ok p →
      (p.isSimple = true ↔
        '<' ∉ Text.trimChars s.toList ∧ '>' ∉ Text.trimChars s.toList ∧ '|' ∉ Text.trimChars s.toList) := by
  refine ⟨ofSegment_eq s, ?_, ?_⟩
  · intro segment reason
    rw [ofSegment_eq]
    by_cases hempty : Text.trimChars s.toList = []
    · rw [if_pos hempty]
      constructor
      · rintro ⟨e, he, rfl, rfl⟩
        cases he
        exact .inl ⟨hempty, rfl, rfl⟩
      · rintro (⟨-, rfl, rfl⟩ | ⟨hne, -⟩)
        · exact ⟨_, rfl, rfl, rfl⟩
        · exact absurd hempty hne
    · rw [if_neg hempty, ← grammar_eq_error_iff (Text.trimmed_trimChars _) hempty]
      constructor
      · rintro ⟨e, he, rfl, rfl⟩
        obtain ⟨fault, hf, rfl⟩ := mapError_eq_error_iff.1 he
        exact .inr ⟨hempty, rfl, fault, hf, rfl⟩
      · rintro (⟨he, -⟩ | ⟨-, rfl, fault, hf, rfl⟩)
        · exact absurd he hempty
        · exact ⟨_, mapError_eq_error_iff.2 ⟨fault, hf, rfl⟩, rfl, rfl⟩
  · intro p h
    exact isSimple_iff_of_grammar (grammar_of_ofSegment h)

example : (ofSegment " cat <in| x >> y ").toOption = some (.redirected ⟨"cat", []⟩ ⟨.read, "in| x >> y"⟩) := by
  decide +kernel

end Plan

end CommandShell
