import CommandShell.Proofs.Plan.Grammar
import CommandShell.Proofs.Plan.Segments
import CommandShell.Proofs.Shell.Interrupt

/-!
# Running a line to its end

A line is recorded, and its segments are started one after another until exit has been requested
(`Shell.started`). An error of a segment is told and keeps none of the others from being started. What does is a
segment that comes upon the null character on its way to a program (`Shell.MeetsNull`), and an interrupt; the main
statement is that nothing else does (`Shell.run_eq_finished_iff`).
-/

namespace CommandShell

/-- A plan that comes upon the null character holds it. -/
theorem Execution.MeetsNull.exists_text {m : Machine} {plan : Plan} (h : MeetsNull m plan) :
    ∃ text ∈ plan.texts, Text.HoldsNull text := by
  cases plan with
  | command stage =>
    obtain ⟨word, hword, hnull⟩ := h
    exact ⟨word, by simpa [Plan.texts, Plan.stages, Plan.redirection?] using hword, hnull⟩
  | redirected stage redirection =>
    rcases h with hnull | ⟨-, word, hword, hnull⟩
    · exact ⟨redirection.path, by simp [Plan.texts, Plan.stages, Plan.redirection?], hnull⟩
    · exact ⟨word, by simp [Plan.texts, Plan.stages, Plan.redirection?, hword], hnull⟩
  | pipeline first second others =>
    obtain ⟨before, stage, after, hstages, ⟨word, hword, hnull⟩, -⟩ := h
    have hstage : stage ∈ first :: second :: others := by rw [hstages]; simp
    exact ⟨word, List.mem_append_left _ (List.mem_flatMap.2 ⟨stage, hstage, hword⟩), hnull⟩

namespace Shell

/-- A segment is left to programs and comes upon the null character. -/
def MeetsNull (s : Shell) (segment : String) : Prop :=
  ∃ plan, Plan.ofSegment segment = .ok plan ∧ s.registry.Leaves s.expanding plan ∧ Execution.MeetsNull s.machine plan

/-- A segment is interrupted. -/
def Interrupted (programs : Programs) (s : Shell) (segment : String) : Prop :=
  (runSegment programs s segment).2 = some .interrupted

/-- The shell when a line has been recorded. -/
def record (s : Shell) (line : String) : Shell := { s with history := s.history.append line }

/-- The segments that are started, each with the shell at its turn: one after another until exit has been requested,
whatever has become of those before. -/
def startedFrom (programs : Programs) (s : Shell) : List String → List (Shell × String)
  | [] => []
  | segment :: rest =>
    if s.exitRequested then [] else (s, segment) :: startedFrom programs (runSegment programs s segment).1 rest

/-- The shell after these segments. -/
def finishedFrom (programs : Programs) (s : Shell) : List String → Shell
  | [] => s
  | segment :: rest => if s.exitRequested then s else finishedFrom programs (runSegment programs s segment).1 rest

/-- The segments of a line that are started. -/
def started (programs : Programs) (s : Shell) (line : String) : List (Shell × String) :=
  startedFrom programs (s.record line) (segments line)

/-- The shell after the segments of a line that are started. -/
def finished (programs : Programs) (s : Shell) (line : String) : Shell :=
  finishedFrom programs (s.record line) (segments line)

/-! ### One segment -/

variable (programs : Programs)

private theorem report_eq_some_iff {ended : Shell × Option Stop} {e : Escape} :
    (report ended).2 = some e ↔ ended.2 = some (.escape e) := by
  obtain ⟨s, _ | stop | stop⟩ := ended <;> simp [report]

theorem execute_eq_mishap_iff {s : Shell} {plan : Plan} {m : Mishap} :
    (execute programs s plan).2 = some (.escape (.mishap m)) ↔
      Execution.MeetsNull s.machine plan ∧ m = .embeddedNull := by
  rw [← Execution.run_result_eq_mishap_iff programs s.control]
  unfold execute
  dsimp only
  split
  · next stop hstop => simp [hstop]
  · next statuses hok =>
    rw [hok]
    split
    · split <;> simp
    · simp

/-- A mishap of a native command is told as its error. -/
theorem runHandler_ne_mishap (rerun : Shell → String → Shell × Option Escape) (s : Shell) (stage : Stage)
    (handler : Handler) (m : Mishap) :
    (runHandler programs rerun s stage handler).2 ≠ some (.escape (.mishap m)) := by
  cases handler with
  | builtin b =>
    unfold runHandler
    dsimp only
    rcases Builtin.run programs b s stage.args with ⟨after, _ | complaint | mishap | _⟩ <;> simp
  | record | fail | refuse => simp [runHandler]
  | rerun line =>
    unfold runHandler
    dsimp only
    rcases rerun s line with ⟨after, _ | mishap | _⟩ <;> simp

/-- A segment ends in a mishap exactly when it comes upon the null character. -/
theorem runSegment_eq_mishap_iff {s : Shell} {segment : String} {m : Mishap} :
    (runSegment programs s segment).2 = some (.mishap m) ↔ s.MeetsNull segment ∧ m = .embeddedNull := by
  unfold runSegment MeetsNull
  rcases s.registry.turn_cases s.expanding segment with ⟨e, h⟩ | ⟨plan, h, hl⟩ |
    ⟨stage, handler, description, h, hf⟩ | ⟨stage, line, h, hf, hn⟩
  · rw [runSegmentWith_of_error programs _ h]
    simp [report, h]
  · rw [runSegmentWith_of_leaves programs _ h hl, report_eq_some_iff, execute_eq_mishap_iff]
    simp [h, hl]
  · rw [runSegmentWith_of_native programs _ h hf, report_eq_some_iff]
    simp only [runHandler_ne_mishap, false_iff]
    rintro ⟨⟨plan, hplan, hl, -⟩, -⟩
    obtain rfl := Except.ok.inj (h.symm.trans hplan)
    exact hl.ne_native hf
  · -- Whatever stops the text in place of an alias is told as an error of the alias, unless it is an interrupt.
    rw [runSegmentWith_of_alias programs _ h hf hn, report_eq_some_iff]
    constructor
    · intro hstop
      generalize (runSegmentWith programs _ _ _).2 = inner at hstop
      rcases inner with _ | mishap | _ <;> simp [stopOf] at hstop
    · rintro ⟨⟨plan, hplan, hl, -⟩, -⟩
      obtain rfl := Except.ok.inj (h.symm.trans hplan)
      exact absurd (hl.mem_of_alias hf) hn

/-- A segment goes on to the next unless it comes upon the null character or is interrupted. -/
theorem runSegment_eq_none_iff {s : Shell} {segment : String} :
    (runSegment programs s segment).2 = none ↔ ¬ s.MeetsNull segment ∧ ¬ s.Interrupted programs segment := by
  have hmishap (m : Mishap) : (runSegment programs s segment).2 = some (.mishap m) ↔
      s.MeetsNull segment ∧ m = .embeddedNull := runSegment_eq_mishap_iff programs
  unfold Interrupted
  rcases hresult : (runSegment programs s segment).2 with _ | m | _
  · have hnot : ¬ s.MeetsNull segment := by
      intro hnull
      have := (hmishap .embeddedNull).2 ⟨hnull, rfl⟩
      simp [hresult] at this
    simp [hnot]
  · simp [((hmishap m).1 hresult).1]
  · simp

/-! ### The segments of a line -/

private theorem runSegments_eq_none_iff (s : Shell) (texts : List String) :
    (runSegments (runSegment programs) s texts).2 = none ↔
      ∀ p ∈ startedFrom programs s texts, (runSegment programs p.1 p.2).2 = none := by
  induction texts generalizing s with
  | nil => simp [runSegments, startedFrom]
  | cons segment rest ih =>
    unfold runSegments startedFrom
    split
    · simp
    · have hrest := ih (runSegment programs s segment).1
      rw [List.forall_mem_cons, ← hrest]
      rcases runSegment programs s segment with ⟨after, _ | e⟩ <;> simp

private theorem runSegments_fst_of_none {s : Shell} {texts : List String}
    (h : (runSegments (runSegment programs) s texts).2 = none) :
    (runSegments (runSegment programs) s texts).1 = finishedFrom programs s texts := by
  induction texts generalizing s with
  | nil => rfl
  | cons segment rest ih =>
    unfold runSegments at h ⊢
    unfold finishedFrom
    by_cases hexit : s.exitRequested
    · simp [hexit]
    · rw [if_neg hexit] at h ⊢
      rw [if_neg hexit]
      rcases hsegment : runSegment programs s segment with ⟨after, _ | e⟩
      · simp only [hsegment] at h ⊢
        exact ih h
      · simp [hsegment] at h

private theorem runSegments_of_first {s t : Shell} {texts : List String} {segment : String}
    {before after : List (Shell × String)} {e : Escape}
    (hstarted : startedFrom programs s texts = before ++ (t, segment) :: after)
    (hbefore : ∀ p ∈ before, (runSegment programs p.1 p.2).2 = none)
    (h : (runSegment programs t segment).2 = some e) :
    runSegments (runSegment programs) s texts = ((runSegment programs t segment).1, some e) := by
  induction texts generalizing s before with
  | nil => simp [startedFrom] at hstarted
  | cons text rest ih =>
    unfold startedFrom at hstarted
    unfold runSegments
    split at hstarted
    · simp at hstarted
    · next hexit =>
      rw [if_neg hexit]
      -- Either this is the segment that stops the line, or it is one of those before and goes on to the next.
      rcases before with _ | ⟨p, before⟩
      · obtain ⟨hhead, -⟩ := List.cons.inj hstarted
        obtain ⟨rfl, rfl⟩ := Prod.mk.inj hhead
        rcases hsegment : runSegment programs s text with ⟨left, _ | e'⟩ <;> simp_all
      · obtain ⟨rfl, hrest⟩ := List.cons.inj hstarted
        obtain ⟨hnone, hbefore'⟩ := List.forall_mem_cons.1 hbefore
        have := ih hrest hbefore'
        rcases hsegment : runSegment programs s text with ⟨left, _ | e'⟩ <;> simp_all

/-- What is started are the first segments, each while exit has not been requested, and all of them unless exit has
been requested in the end. -/
theorem startedFrom_order (s : Shell) (texts : List String) :
    (startedFrom programs s texts).map Prod.snd <+: texts ∧
      (∀ p ∈ startedFrom programs s texts, p.1.exitRequested = false) ∧
      ((startedFrom programs s texts).map Prod.snd = texts ∨
        (finishedFrom programs s texts).exitRequested = true) := by
  induction texts generalizing s with
  | nil => simp [startedFrom]
  | cons segment rest ih =>
    obtain ⟨hfront, hexits, hall⟩ := ih (runSegment programs s segment).1
    unfold startedFrom finishedFrom
    split
    · next hexit => simp [hexit]
    · next hexit =>
      refine ⟨?_, ?_, ?_⟩
      · exact List.prefix_cons_inj segment |>.2 hfront
      · exact List.forall_mem_cons.2 ⟨by simpa using hexit, hexits⟩
      · exact hall.imp_left fun h => by rw [List.map_cons, h]

private theorem kept_history (h : History) : Kept fun s => s.history = h ∧ s.registry.Selfless where
  tell hs _ := hs
  evolve hs _ := hs
  enrol hs _ ha := ⟨hs.1, hs.2.addAlias? ha⟩
  requestExit hs := hs
  setExpanding hs _ := hs

private theorem kept_events (es : List Event) : Kept fun s => es <+: s.events where
  tell hs _ := hs.trans (List.prefix_append _ _)
  evolve hs _ := hs
  enrol hs _ _ := hs
  requestExit hs := hs
  setExpanding hs _ := hs

theorem startedFrom_keeps_of_mem {P : Shell → Prop} {texts : List String}
    (hone : ∀ s, ∀ segment ∈ texts, P s → P (runSegment programs s segment).1) {s : Shell} (h : P s) :
    ∀ p ∈ startedFrom programs s texts, P p.1 := by
  induction texts generalizing s with
  | nil => simp [startedFrom]
  | cons segment rest ih =>
    unfold startedFrom
    split
    · simp
    · have hafter := hone s segment (List.mem_cons_self ..) h
      exact List.forall_mem_cons.2 ⟨h, ih (fun s text ht => hone s text (List.mem_cons_of_mem _ ht)) hafter⟩

private theorem startedFrom_keeps {P : Shell → Prop} (hone : ∀ s segment, P s → P (runSegment programs s segment).1)
    {s : Shell} (h : P s) (texts : List String) : ∀ p ∈ startedFrom programs s texts, P p.1 :=
  startedFrom_keeps_of_mem programs (fun s segment _ => hone s segment) h

/-- Where no native command gives the shell a line to run, a line is added to the history, once, and nothing else is;
nor does such a command come about. -/
theorem run_history {s : Shell} (hs : s.registry.Selfless) (line : String) :
    (run programs s line).1.history = s.history.append line ∧ (run programs s line).1.registry.Selfless := by
  have hrerun : KeptByRerun (fun t => t.history = s.history.append line ∧ t.registry.Selfless)
      (runNested programs (nestingLimit - 1)) := fun t name text description ht hf => absurd hf (ht.2 _ _ _)
  have hone := fun t segment ht => runSegmentWith_keeps (kept_history _) programs hrerun (s := t) ht segment
  exact runSegments_keeps hone (s := s.record line) ⟨rfl, hs⟩ (segments line)

/-- What was told before a line stays told. -/
theorem run_events (s : Shell) (line : String) : s.events <+: (run programs s line).1.events :=
  runNested_keeps (kept_events s.events) programs (fun _ _ h => h) nestingLimit List.prefix_rfl line

/-- A line runs to its end, with every segment started until exit has been requested, exactly when none of those that
are started comes upon the null character or is interrupted. The first that comes upon it ends the line with a mishap.
No line without the null character comes upon it, and none is interrupted where no interrupt is to come and every
program ends. The line is added to the history, once, and what was told before stays. -/
theorem run_eq_finished_iff (s : Shell) (line : String) :
    ((started programs s line).map Prod.snd <+: segments line ∧
      (∀ p ∈ started programs s line, p.1.exitRequested = false) ∧
      ((started programs s line).map Prod.snd = segments line ∨ (finished programs s line).exitRequested = true)) ∧
    (run programs s line = (finished programs s line, none) ↔
      ∀ p ∈ started programs s line, ¬ p.1.MeetsNull p.2 ∧ ¬ p.1.Interrupted programs p.2) ∧
    (∀ before t segment after, started programs s line = before ++ (t, segment) :: after →
      (∀ p ∈ before, ¬ p.1.MeetsNull p.2 ∧ ¬ p.1.Interrupted programs p.2) → t.MeetsNull segment →
        run programs s line = ((runSegment programs t segment).1, some (.mishap .embeddedNull))) ∧
    (¬ Text.HoldsNull line → ∀ p ∈ started programs s line, ¬ p.1.MeetsNull p.2) ∧
    (s.machine.interruption = .never → programs.End →
      ∀ p ∈ started programs s line, ¬ p.1.Interrupted programs p.2) ∧
    (s.registry.Selfless → (run programs s line).1.history = s.history.append line) ∧
    s.events <+: (run programs s line).1.events := by
  have hrun : run programs s line = runSegments (runSegment programs) (s.record line) (segments line) := rfl
  have horder := startedFrom_order programs (s.record line) (segments line)
  simp only [← runSegment_eq_none_iff]
  refine ⟨horder, ?_, ?_, ?_, ?_, ?_, ?_⟩
  · rw [hrun]
    have hiff := runSegments_eq_none_iff programs (s.record line) (segments line)
    constructor
    · intro heq
      exact hiff.1 (congrArg Prod.snd heq)
    · intro hall
      have hnone := hiff.2 hall
      exact Prod.ext (runSegments_fst_of_none programs hnone) hnone
  · intro before t segment after hstarted hbefore hnull
    exact runSegments_of_first programs hstarted hbefore ((runSegment_eq_mishap_iff programs).2 ⟨hnull, rfl⟩)
  · rintro hline p hp ⟨plan, hplan, -, hnull⟩
    obtain ⟨text, htext, hc⟩ := hnull.exists_text
    have hsegment : p.2 ∈ segments line := horder.1.subset (List.mem_map_of_mem hp)
    exact hline (mem_of_mem_segments hsegment (Plan.mem_of_ofSegment hplan htext hc))
  · intro hnever hend p hp
    have hone := fun t segment ht => runSegment_keeps kept_never programs (fun _ _ hu => hu) (s := t) ht segment
    exact runSegment_uninterrupted hend (startedFrom_keeps programs hone (s := s.record line) hnever _ p hp) p.2
  · intro hs
    -- No native command gives the shell a line to run, so none is recorded within this one.
    have hrerun : KeptByRerun (fun t => t.history = s.history.append line ∧ t.registry.Selfless)
        (runNested programs (nestingLimit - 1)) := fun t name text description ht hf => absurd hf (ht.2 _ _ _)
    have hone := fun t segment ht => runSegmentWith_keeps (kept_history _) programs hrerun (s := t) ht segment
    exact (runSegments_keeps hone (s := s.record line) ⟨rfl, hs⟩ (segments line)).1
  · exact runNested_keeps (kept_events s.events) programs (fun _ _ h => h) nestingLimit List.prefix_rfl line

/-- A command with the null character in its name is no error of its segment: the segment after it is not started,
and nothing is told. -/
theorem run_null_command_stops_line :
    segments "nope\x00x; echo after" = ["nope\x00x", "echo after"] ∧
      run ⟨[], fun _ i => i.finish [] [] 0⟩ (bare .builtins) "nope\x00x; echo after" =
        ((bare .builtins).record "nope\x00x; echo after", some (.mishap .embeddedNull)) := by
  have hsegments : segments "nope\x00x; echo after" = ["nope\x00x", "echo after"] := by decide +kernel
  have hplan : Plan.ofSegment "nope\x00x" = .ok (.command ⟨"nope\x00x", []⟩) := rfl
  have hleaves : Registry.builtins.Leaves [] (.command ⟨"nope\x00x", []⟩) := .unregistered (by decide +kernel)
  refine ⟨hsegments, ?_⟩
  show runSegments _ ((bare .builtins).record _) (segments _) = _
  rw [hsegments]
  unfold runSegments
  rw [if_neg (by decide), runSegmentWith_of_leaves _ _ hplan hleaves]
  rfl

end Shell

end CommandShell
