import CommandShell.Proofs.Shell.Line

/-!
# Lines in sequence

A semicolon between two texts separates their segments (`segments_join`), so a line made of two runs the segments of
the first and then those of the second. What is left to compare are two shells with different histories. Nothing but
the command `history` looks at a history, so as long as it is not called, such shells do the same
(`Shell.runNested_agree`). The main statement is that running two lines in turn and running them as one come to the
same, and that nothing is run any more once exit has been requested (`Shell.run_join`).
-/

namespace CommandShell

namespace Shell

/-- Two shells that agree in everything but their histories. -/
def Agree (s t : Shell) : Prop := t = { s with history := t.history }

theorem Agree.refl (s : Shell) : s.Agree s := rfl

theorem Agree.symm {s t : Shell} (h : s.Agree t) : t.Agree s := by
  unfold Agree at h ⊢
  rw [h]

theorem Agree.trans {s t u : Shell} (h : s.Agree t) (h' : t.Agree u) : s.Agree u := by
  unfold Agree at h h' ⊢
  rw [h', h]

theorem agree_record (s : Shell) (line : String) : s.Agree (s.record line) := rfl

theorem Agree.tell {s t : Shell} (h : s.Agree t) (e : Event) : (s.tell e).Agree (t.tell e) := by
  rw [h]
  rfl

theorem Agree.setExpanding {s t : Shell} (h : s.Agree t) (names : List String) :
    (s.setExpanding names).Agree (t.setExpanding names) := by
  rw [h]
  rfl

private theorem steady_agree : Steady Agree where
  registry h := by rw [h]
  machine h := by rw [h]
  tell h e := h.tell e
  evolve h _ := by rw [h]; rfl
  enrol h _ _ := by rw [h]; rfl
  requestExit h := by rw [h]; rfl

/-- Two runs that end alike, in shells that agree. -/
def AgreeEnds {α : Type} (ended ended' : Shell × α) : Prop := ended.1.Agree ended'.1 ∧ ended.2 = ended'.2

/-! ### Which native commands are called -/

/-- The native commands that a command calls: itself, and those of a line that it gives the shell to run, which
`within` tells. -/
def callsOf (within : Shell → String → List Handler) (s : Shell) : Handler → List Handler
  | .rerun line => .rerun line :: within s line
  | handler => [handler]

/-- The native commands that a segment calls. -/
def callsWith (within : Shell → String → List Handler) (s : Shell) (segment : String) : List Handler :=
  let resolved := s.registry.resolve s.expanding segment
  match resolved.leaf with
  | .native _ handler => callsOf within (s.setExpanding (resolved.expanded.reverse ++ s.expanding)) handler
  | _ => []

/-- The native commands that segments call which are run in order, as `runSegments` runs them. -/
def callsFrom (runOne : Shell → String → Shell × Option Escape) (callsOne : Shell → String → List Handler)
    (s : Shell) : List String → List Handler
  | [] => []
  | segment :: rest =>
    if s.exitRequested then []
    else
      callsOne s segment ++
        match runOne s segment with
        | (after, none) => callsFrom runOne callsOne after rest
        | (_, some _) => []

/-- The native commands that a line calls, with those of the lines that are run within it, up to a depth. -/
def nestedCalls (programs : Programs) : Nat → Shell → String → List Handler
  | 0, _, _ => []
  | depth + 1, s, line =>
    callsFrom (runSegmentWith programs (runNested programs depth)) (callsWith (nestedCalls programs depth))
      (s.record line) (segments line)

/-- The native commands that a line calls. -/
def calls (programs : Programs) (s : Shell) (line : String) : List Handler :=
  nestedCalls programs nestingLimit s line

section Turns

variable (within : Shell → String → List Handler) {s : Shell} {segment : String} {stage : Stage}

theorem callsWith_of_native {handler : Handler} {description : String}
    (h : Plan.ofSegment segment = .ok (.command stage))
    (hf : s.registry.find? stage.command = some (.native handler description)) :
    callsWith within s segment = callsOf within s handler := by
  unfold callsWith
  rw [Registry.resolve_of_native h hf]
  rfl

/-- An alias calls what its command line calls while it is being expanded. -/
theorem callsWith_of_alias {line : String} (h : Plan.ofSegment segment = .ok (.command stage))
    (hf : s.registry.find? stage.command = some (.aliasOf line)) (hn : stage.command ∉ s.expanding) :
    callsWith within s segment = callsWith within (s.expand stage.command) (Text.spaced (line :: stage.args)) := by
  unfold callsWith
  rw [Registry.resolve_of_alias h hf hn]
  dsimp only
  rw [List.reverse_cons, List.append_assoc]
  rfl

end Turns

/-! ### What agreeing shells do -/

/-- Shells that agree do the same with a text that does not call `history`. -/
def IgnoresHistory (runOne : Shell → String → Shell × Option Escape) (callsOne : Shell → String → List Handler) :
    Prop :=
  ∀ s t text, s.Agree t → .builtin .history ∉ callsOne s text → AgreeEnds (runOne s text) (runOne t text)

section Agreeing

variable (programs : Programs) {s t : Shell}

private theorem report_agree {ended ended' : Shell × Option Stop} (h : AgreeEnds ended ended') :
    AgreeEnds (report ended) (report ended') := by
  obtain ⟨s, stop⟩ := ended
  obtain ⟨t, stop'⟩ := ended'
  obtain ⟨hshell, rfl : stop = stop'⟩ := h
  rcases stop with _ | e | e
  · exact ⟨hshell, rfl⟩
  · exact ⟨hshell.tell _, rfl⟩
  · exact ⟨hshell, rfl⟩

private theorem endExpansion_agree (h : s.Agree t) (name : String) :
    (s.endExpansion name).Agree (t.endExpansion name) := by
  rw [h]
  rfl

private theorem execute_agree (h : s.Agree t) (plan : Plan) :
    AgreeEnds (execute programs s plan) (execute programs t plan) := by
  rw [h]
  unfold execute
  dsimp only
  split
  · exact ⟨rfl, rfl⟩
  · split
    · split <;> exact ⟨rfl, rfl⟩
    · exact ⟨rfl, rfl⟩

variable {rerun : Shell → String → Shell × Option Escape} {within : Shell → String → List Handler}
variable (hrerun : IgnoresHistory rerun within)
include hrerun

private theorem runHandler_agree (h : s.Agree t) (stage : Stage) {handler : Handler}
    (hcalls : .builtin .history ∉ callsOf within s handler) :
    AgreeEnds (runHandler programs rerun s stage handler) (runHandler programs rerun t stage handler) := by
  cases handler with
  | builtin b =>
    have hb : b ≠ .history := fun he => hcalls (by simp [callsOf, he])
    have hrun := Builtin.run_related steady_agree programs b h (fun he => absurd he hb) stage.args
    unfold runHandler
    dsimp only
    generalize Builtin.run programs b s stage.args = ended at hrun
    generalize Builtin.run programs b t stage.args = ended' at hrun
    obtain ⟨after, failure⟩ := ended
    obtain ⟨after', failure'⟩ := ended'
    obtain ⟨hshell, rfl : failure = failure'⟩ := hrun
    rcases failure with _ | complaint | mishap | _ <;> exact ⟨hshell, rfl⟩
  | record label => exact ⟨h.tell _, rfl⟩
  | fail | refuse => exact ⟨h, rfl⟩
  | rerun line =>
    have hrun := hrerun s t line h fun hmem => hcalls (List.mem_cons_of_mem _ hmem)
    unfold runHandler
    dsimp only
    generalize rerun s line = ended at hrun
    generalize rerun t line = ended' at hrun
    obtain ⟨after, escape⟩ := ended
    obtain ⟨after', escape'⟩ := ended'
    obtain ⟨hshell, rfl : escape = escape'⟩ := hrun
    rcases escape with _ | mishap | _ <;> exact ⟨hshell, rfl⟩

theorem runSegmentWith_ignoresHistory : IgnoresHistory (runSegmentWith programs rerun) (callsWith within) := by
  intro s t segment h hcalls
  have hregistry : t.registry = s.registry := by rw [h]
  have hexpanding : t.expanding = s.expanding := by rw [h]
  rcases s.registry.turn_cases s.expanding segment with ⟨e, ht⟩ | ⟨plan, ht, hl⟩ |
    ⟨stage, handler, description, ht, hf⟩ | ⟨stage, line, ht, hf, hn⟩
  · rw [runSegmentWith_of_error programs rerun ht, runSegmentWith_of_error programs rerun ht]
    exact report_agree ⟨h, rfl⟩
  · have hl' : t.registry.Leaves t.expanding plan := by rwa [hregistry, hexpanding]
    rw [runSegmentWith_of_leaves programs rerun ht hl, runSegmentWith_of_leaves programs rerun ht hl']
    exact report_agree (execute_agree programs h plan)
  · have hf' : t.registry.find? stage.command = some (.native handler description) := by rwa [hregistry]
    rw [callsWith_of_native within ht hf] at hcalls
    obtain ⟨hshell, hstop⟩ := runHandler_agree programs hrerun h stage hcalls
    rw [runSegmentWith_of_native programs rerun ht hf, runSegmentWith_of_native programs rerun ht hf']
    exact report_agree ⟨endExpansion_agree hshell _, hstop⟩
  · -- Fewer aliases are left to expand within this one, and they are the same ones in both shells.
    have hf' : t.registry.find? stage.command = some (.aliasOf line) := by rwa [hregistry]
    have hn' : stage.command ∉ t.expanding := by rwa [hexpanding]
    have hexpand : (s.expand stage.command).Agree (t.expand stage.command) := by
      rw [h]
      rfl
    rw [callsWith_of_alias within ht hf hn] at hcalls
    obtain ⟨hshell, hescape⟩ := runSegmentWith_ignoresHistory _ _ _ hexpand hcalls
    rw [runSegmentWith_of_alias programs rerun ht hf hn, runSegmentWith_of_alias programs rerun ht hf' hn']
    exact report_agree ⟨endExpansion_agree hshell _, congrArg (stopOf stage.command) hescape⟩
termination_by s => (s.registry.unseen s.expanding).card
decreasing_by exact Registry.card_unseen_lt hf hn

omit hrerun in
private theorem runSegments_agree {runOne : Shell → String → Shell × Option Escape}
    {callsOne : Shell → String → List Handler} (hone : IgnoresHistory runOne callsOne) (h : s.Agree t)
    {texts : List String} (hcalls : .builtin .history ∉ callsFrom runOne callsOne s texts) :
    AgreeEnds (runSegments runOne s texts) (runSegments runOne t texts) := by
  induction texts generalizing s t with
  | nil => exact ⟨h, rfl⟩
  | cons segment rest ih =>
    have hexit : t.exitRequested = s.exitRequested := by rw [h]
    unfold callsFrom at hcalls
    unfold runSegments
    rw [hexit]
    split
    · exact ⟨h, rfl⟩
    · next hnot =>
      rw [if_neg hnot, List.mem_append, not_or] at hcalls
      obtain ⟨hhere, hlater⟩ := hcalls
      have hrun := hone s t segment h hhere
      generalize runOne s segment = ended at hrun hlater
      generalize runOne t segment = ended' at hrun
      obtain ⟨after, escape⟩ := ended
      obtain ⟨after', escape'⟩ := ended'
      obtain ⟨hshell, rfl : escape = escape'⟩ := hrun
      cases escape with
      | none => exact ih hshell hlater
      | some e => exact ⟨hshell, rfl⟩

omit hrerun in
/-- Whatever lines are run within a line, it does not look at the history unless it calls `history`. -/
theorem runNested_ignoresHistory (depth : Nat) :
    IgnoresHistory (runNested programs depth) (nestedCalls programs depth) := by
  induction depth with
  | zero => exact fun s t line h _ => ⟨h, rfl⟩
  | succ depth ih =>
    intro s t line h hcalls
    have hrecord : (s.record line).Agree (t.record line) := by
      rw [h]
      rfl
    exact runSegments_agree (runSegmentWith_ignoresHistory programs ih) hrecord hcalls

end Agreeing

/-! ### Segments in sequence -/

/-- Once exit has been requested nothing is run. -/
theorem runSegments_of_exit {runOne : Shell → String → Shell × Option Escape} {s : Shell}
    (h : s.exitRequested = true) (texts : List String) : runSegments runOne s texts = (s, none) := by
  cases texts with
  | nil => rfl
  | cons segment rest => simp [runSegments, h]

/-- Nothing is called either. -/
theorem callsFrom_of_exit {runOne : Shell → String → Shell × Option Escape}
    {callsOne : Shell → String → List Handler} {s : Shell} (h : s.exitRequested = true) (texts : List String) :
    callsFrom runOne callsOne s texts = [] := by
  cases texts with
  | nil => rfl
  | cons segment rest => simp [callsFrom, h]

/-- A segment that does not stop the line is followed by the others. -/
theorem runSegments_cons {runOne : Shell → String → Shell × Option Escape} {s t : Shell} {segment : String}
    (hexit : s.exitRequested = false) (h : runOne s segment = (t, none)) (rest : List String) :
    runSegments runOne s (segment :: rest) = runSegments runOne t rest := by
  rw [runSegments, if_neg (by simp [hexit]), h]

theorem callsFrom_cons {runOne : Shell → String → Shell × Option Escape}
    {callsOne : Shell → String → List Handler} {s t : Shell} {segment : String} (hexit : s.exitRequested = false)
    (h : runOne s segment = (t, none)) (rest : List String) :
    callsFrom runOne callsOne s (segment :: rest) = callsOne s segment ++ callsFrom runOne callsOne t rest := by
  rw [callsFrom, if_neg (by simp [hexit]), h]

/-- Segments are run like those at the front and then, unless these stop the line, the others. -/
theorem runSegments_append (runOne : Shell → String → Shell × Option Escape) (s : Shell) (front back : List String) :
    runSegments runOne s (front ++ back) =
      match runSegments runOne s front with
      | (t, none) => runSegments runOne t back
      | (t, some e) => (t, some e) := by
  induction front generalizing s with
  | nil => rfl
  | cons segment rest ih =>
    simp only [List.cons_append, runSegments]
    split
    · next hexit => exact (runSegments_of_exit hexit back).symm
    · rcases runOne s segment with ⟨after, _ | e⟩
      · exact ih after
      · rfl

theorem callsFrom_append (runOne : Shell → String → Shell × Option Escape)
    (callsOne : Shell → String → List Handler) (s : Shell) (front back : List String) :
    callsFrom runOne callsOne s (front ++ back) =
      callsFrom runOne callsOne s front ++
        match runSegments runOne s front with
        | (t, none) => callsFrom runOne callsOne t back
        | (_, some _) => [] := by
  induction front generalizing s with
  | nil => rfl
  | cons segment rest ih =>
    simp only [List.cons_append, callsFrom, runSegments]
    split
    · next hexit => exact (callsFrom_of_exit hexit back).symm
    · rcases runOne s segment with ⟨after, _ | e⟩
      · simp only [ih after, List.append_assoc]
      · simp

/-- A segment that comes to `exit`, by its own name or through aliases, requests it. -/
theorem runSegmentWith_exit (programs : Programs) (rerun : Shell → String → Shell × Option Escape) {s : Shell}
    {segment : String} {stage : Stage}
    (h : (s.registry.resolve s.expanding segment).leaf = .native stage (.builtin .exit)) :
    (runSegmentWith programs rerun s segment).1.exitRequested = true ∧
      (runSegmentWith programs rerun s segment).2 = none := by
  rcases s.registry.turn_cases s.expanding segment with ⟨e, ht⟩ | ⟨plan, ht, hl⟩ |
    ⟨stage', handler, description, ht, hf⟩ | ⟨stage', line, ht, hf, hn⟩
  · simp [Registry.resolve_of_error ht] at h
  · simp [Registry.resolve_of_leaves ht hl] at h
  · rw [Registry.resolve_of_native ht hf] at h
    obtain ⟨-, rfl⟩ := Leaf.native.inj h
    rw [runSegmentWith_of_native programs rerun ht hf]
    exact ⟨rfl, rfl⟩
  · rw [Registry.resolve_of_alias ht hf hn] at h
    obtain ⟨hexit, hnone⟩ := runSegmentWith_exit programs rerun (s := s.expand stage'.command) h
    rw [runSegmentWith_of_alias programs rerun ht hf hn, hnone]
    exact ⟨hexit, rfl⟩
termination_by (s.registry.unseen s.expanding).card
decreasing_by exact Registry.card_unseen_lt hf hn

/-- Two lines that are run in turn and the line that they make with a semicolon between them come to the same, unless
`history` is called: the same is told, and the shells that are left agree in everything but their histories. No segment
is run once exit has been requested, whichever of those before has done so, and a segment requests it if it comes to
`exit`, through however many aliases. What differs in the histories are the lines that were recorded. -/
theorem run_join (programs : Programs) {s u : Shell} {a b : String}
    (hcalls : .builtin .history ∉ calls programs s (a ++ ";" ++ b)) (ha : run programs s a = (u, none)) :
    AgreeEnds (run programs s (a ++ ";" ++ b)) (run programs u b) ∧
    (u.exitRequested = true →
      AgreeEnds (run programs s (a ++ ";" ++ b)) (u, none) ∧ run programs u b = (u.record b, none)) ∧
    (∀ w t line front back, segments line = front ++ back →
      runSegments (runSegment programs) (record w line) front = (t, none) → t.exitRequested = true →
        run programs w line = (t, none)) ∧
    (∀ w segment stage, (w.registry.resolve w.expanding segment).leaf = .native stage (.builtin .exit) →
      (runSegment programs w segment).1.exitRequested = true ∧ (runSegment programs w segment).2 = none) ∧
    (s.registry.Selfless →
      (run programs s (a ++ ";" ++ b)).1.history = s.history.append (a ++ ";" ++ b) ∧
        (run programs u b).1.history = (s.history.append a).append b) := by
  have hignores := runSegmentWith_ignoresHistory programs (runNested_ignoresHistory programs (nestingLimit - 1))
  have hrun : ∀ w line, run programs w line = runSegments (runSegment programs) (record w line) (segments line) :=
    fun _ _ => rfl
  have hjoin : AgreeEnds (run programs s (a ++ ";" ++ b)) (run programs u b) := by
    have hsplit : .builtin .history ∉ callsFrom (runSegment programs)
        (callsWith (nestedCalls programs (nestingLimit - 1))) (s.record (a ++ ";" ++ b)) (segments a ++ segments b) := by
      rw [← segments_join]
      exact hcalls
    rw [callsFrom_append, List.mem_append, not_or] at hsplit
    obtain ⟨hfront, hback⟩ := hsplit
    -- The segments of the first line leave the shell as they leave it when they are run as a line of their own.
    have hfirst : AgreeEnds (runSegments (runSegment programs) (s.record (a ++ ";" ++ b)) (segments a)) (u, none) := by
      have hrecord : (s.record (a ++ ";" ++ b)).Agree (s.record a) := (agree_record s _).symm.trans (agree_record s a)
      rw [← ha, hrun]
      exact runSegments_agree hignores hrecord hfront
    rw [hrun, hrun, segments_join, runSegments_append]
    generalize runSegments (runSegment programs) (s.record (a ++ ";" ++ b)) (segments a) = ended at hfirst hback
    obtain ⟨t, escape⟩ := ended
    obtain ⟨hshell, rfl : escape = none⟩ := hfirst
    exact runSegments_agree hignores (hshell.trans (agree_record u b)) hback
  have hexit : ∀ w t line front back, segments line = front ++ back →
      runSegments (runSegment programs) (record w line) front = (t, none) → t.exitRequested = true →
        run programs w line = (t, none) := by
    intro w t line front back hsegments hfront hrequested
    rw [hrun, hsegments, runSegments_append, hfront]
    exact runSegments_of_exit hrequested back
  refine ⟨hjoin, ?_, hexit, fun w segment stage h => runSegmentWith_exit programs _ h, ?_⟩
  · intro hrequested
    have hu : run programs u b = (u.record b, none) := hexit u (u.record b) b [] (segments b) rfl rfl hrequested
    refine ⟨?_, hu⟩
    rw [hu] at hjoin
    exact ⟨hjoin.1.trans (agree_record u b).symm, hjoin.2⟩
  · intro hs
    obtain ⟨hhistory, hs'⟩ := run_history programs hs a
    rw [ha] at hhistory hs'
    refine ⟨(run_history programs hs _).1, ?_⟩
    rw [(run_history programs hs' b).1, hhistory]

/-- Commands to print a text and to leave, and another name for leaving. -/
def leaving : Registry :=
  ⟨[("echo", .native (.builtin .echo) ""), ("exit", .native (.builtin .exit) ""), ("leave", .aliasOf "exit")]⟩

theorem run_join_leaving :
    .builtin .history ∉ calls ⟨[], fun _ i => i.finish [] [] 0⟩ (bare leaving) ("echo x" ++ ";" ++ "leave; echo y") ∧
      run ⟨[], fun _ i => i.finish [] [] 0⟩ (bare leaving) "echo x" =
        (((bare leaving).record "echo x").writeLine "x", none) ∧
      AgreeEnds (run ⟨[], fun _ i => i.finish [] [] 0⟩ (bare leaving) ("echo x" ++ ";" ++ "leave; echo y"))
        (((bare leaving).writeLine "x").requestExit, none) := by
  generalize hprograms : (⟨[], fun _ i => i.finish [] [] 0⟩ : Programs) = programs
  have hfirst : segments "echo x" = ["echo x"] := by decide +kernel
  have hsecond : segments "leave; echo y" = ["leave", "echo y"] := by decide +kernel
  have hecho : Plan.ofSegment "echo x" = .ok (.command ⟨"echo", ["x"]⟩) := rfl
  have hleave : Plan.ofSegment "leave" = .ok (.command ⟨"leave", []⟩) := rfl
  have hexit : Plan.ofSegment (Text.spaced ["exit"]) = .ok (.command ⟨"exit", []⟩) := rfl
  have hprinted : ∀ line, runSegment programs ((bare leaving).record line) "echo x" =
      (((bare leaving).record line).writeLine "x", none) := by
    intro line
    unfold runSegment
    rw [runSegmentWith_of_native programs _ hecho rfl]
    rfl
  have hleft : ∀ w, w.registry = leaving → w.expanding = [] →
      runSegment programs w "leave" = (w.requestExit, none) := by
    rintro ⟨_, history, _, exiting, control, machine, events⟩ rfl rfl
    unfold runSegment
    rw [runSegmentWith_of_alias programs _ hleave rfl List.not_mem_nil, runSegmentWith_of_native programs _ hexit rfl]
    rfl
  have hcalls : .builtin .history ∉ calls programs (bare leaving) ("echo x" ++ ";" ++ "leave; echo y") := by
    show _ ∉ callsFrom (runSegment programs) (callsWith _) ((bare leaving).record _) (segments _)
    rw [segments_join, hfirst, hsecond, List.singleton_append, callsFrom_cons rfl (hprinted _),
      callsFrom_cons rfl (hleft _ rfl rfl), callsFrom_of_exit rfl, callsWith_of_native _ hecho rfl,
      callsWith_of_alias _ hleave rfl List.not_mem_nil, callsWith_of_native _ hexit rfl]
    simp [callsOf]
  have hrun : run programs (bare leaving) "echo x" = (((bare leaving).record "echo x").writeLine "x", none) := by
    show runSegments (runSegment programs) ((bare leaving).record _) (segments _) = _
    rw [hfirst, runSegments_cons rfl (hprinted _)]
    rfl
  obtain ⟨hjoin, -⟩ := run_join programs hcalls hrun
  refine ⟨hcalls, hrun, ?_⟩
  have hlast : run programs (((bare leaving).record "echo x").writeLine "x") "leave; echo y" =
      (((((bare leaving).record "echo x").writeLine "x").record "leave; echo y").requestExit, none) := by
    show runSegments (runSegment programs) (record _ _) (segments _) = _
    rw [hsecond, runSegments_cons rfl (hleft _ rfl rfl), runSegments_of_exit rfl]
  rw [hlast] at hjoin
  exact ⟨hjoin.1.trans rfl, hjoin.2⟩

end Shell

end CommandShell
