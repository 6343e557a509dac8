import CommandShell.Proofs.Shell.Aliases
import CommandShell.Proofs.Shell.Line

/-!
# Sessions and what they register

A shell that knows the built-ins runs one line after another (`Shell.Reached`). The only step that changes what is
registered is the definition of an alias, and what is typed there is made of plain words. So the registry stays sound
through every segment of every line, however these end, and no alias that is called comes to a text that cannot be
read (`Shell.Reached.registry_sound`).
-/

namespace CommandShell

namespace Builtin

private theorem foldl_writeLine_registry {α : Type} (text : α → String) (xs : List α) (s : Shell) :
    (xs.foldl (fun (s : Shell) x => s.writeLine (text x)) s).registry = s.registry := by
  induction xs generalizing s with
  | nil => rfl
  | cons x xs ih => exact ih _

/-- The definition of an alias leaves the registry as it is, or registers what it was given and is fine. -/
theorem defineAlias_cases (s : Shell) (args : List String) :
    (defineAlias s args).1.registry = s.registry ∨
      ∃ name line r, readAlias? (Text.spaced args) = some (name, line) ∧ s.registry.addAlias? name line = some r ∧
        (defineAlias s args).1.registry = r ∧ (defineAlias s args).2 = none := by
  unfold defineAlias
  split
  · exact .inl (foldl_writeLine_registry _ _ _)
  · cases hread : readAlias? (Text.spaced args) with
    | none => exact .inl rfl
    | some entry =>
      obtain ⟨name, line⟩ := entry
      cases hadd : s.registry.addAlias? name line with
      | none =>
        left
        simp [hadd, Outcome.complain]
      | some r =>
        right
        refine ⟨name, line, r, rfl, hadd, ?_⟩
        simp [hadd, Outcome.well, Shell.inform, Shell.tell]

/-- A built-in that fails has registered nothing. -/
theorem run_registry_of_failed (programs : Programs) (b : Builtin) {s : Shell} {args : List String}
    (h : (run programs b s args).2 ≠ none) : (run programs b s args).1.registry = s.registry := by
  by_cases hb : b = .aliasing
  · subst hb
    rcases defineAlias_cases s args with hsame | ⟨name, line, r, -, -, -, hnone⟩
    · exact hsame
    · exact absurd hnone h
  · exact run_registry programs hb s args

theorem run_sound (programs : Programs) (b : Builtin) {s : Shell} (hs : s.registry.Sound) {args : List String}
    (hargs : ∀ w ∈ args, Plan.IsPlainWord w ∧ ';' ∉ w.toList) : (run programs b s args).1.registry.Sound := by
  by_cases hb : b = .aliasing
  · subst hb
    rcases defineAlias_cases s args with hsame | ⟨name, line, r, hread, hadd, hr, -⟩
    · exact hsame ▸ hs
    · have hline := isCommandLine_of_readAlias? hargs hread
      exact hr ▸ hs.addAlias? (isWord_of_readAlias? hread) hline hadd
  · rw [run_registry programs hb]
    exact hs

end Builtin

namespace Shell

variable (programs : Programs)

/-- What a segment comes to, done, and not yet told. -/
def ending (s : Shell) (segment : String) : Shell × Option Stop :=
  perform programs (runNested programs (nestingLimit - 1)) s (s.registry.resolve s.expanding segment).leaf

/-! ### One segment -/

theorem execute_registry (s : Shell) (plan : Plan) : (execute programs s plan).1.registry = s.registry := by
  unfold execute
  dsimp only
  split
  · rfl
  · split
    · split <;> rfl
    · rfl

theorem settle_registry (expanded : List String) (ended : Shell × Option Stop) :
    (settle expanded ended).1.registry = ended.1.registry := by
  obtain ⟨s, _ | e | m | _⟩ := ended
  · rfl
  · rfl
  · cases h : expanded.getLast? with
    | none => simp only [settle, h]
    | some last =>
      simp only [settle, h]
      rfl
  · rfl

/-- A built-in that a segment calls leaves the shell as it does by itself, and stops the segment if it fails. -/
theorem runHandler_builtin (rerun : Shell → String → Shell × Option Escape) (s : Shell) (stage : Stage) (b : Builtin) :
    (runHandler programs rerun s stage (.builtin b)).1 = (Builtin.run programs b s stage.args).1 ∧
      ((runHandler programs rerun s stage (.builtin b)).2 = none ↔ (Builtin.run programs b s stage.args).2 = none) := by
  unfold runHandler
  dsimp only
  rcases Builtin.run programs b s stage.args with ⟨after, _ | complaint | mishap | _⟩ <;> simp

theorem runHandler_ne_parse (rerun : Shell → String → Shell × Option Escape) (s : Shell) (stage : Stage)
    (handler : Handler) (e : ParseError) : (runHandler programs rerun s stage handler).2 ≠ some (.error (.parse e)) := by
  cases handler with
  | builtin b =>
    unfold runHandler
    dsimp only
    rcases Builtin.run programs b s stage.args with ⟨after, _ | complaint | mishap | _⟩ <;> simp
  | record | fail | refuse => simp [runHandler]
  | rerun line =>
    unfold runHandler
    dsimp only
    rcases rerun s line with ⟨after, _ | mishap | _⟩ <;> simp

theorem execute_ne_parse (s : Shell) (plan : Plan) (e : ParseError) :
    (execute programs s plan).2 ≠ some (.error (.parse e)) := by
  have hresult := Execution.run_result_ne_parse programs s.control s.machine plan e
  unfold execute
  dsimp only
  split
  · next stop hstop =>
    rw [hstop] at hresult
    intro heq
    exact hresult (congrArg Except.error (Option.some.inj heq))
  · split
    · split <;> simp
    · simp

section Sound

variable {s : Shell} (hs : s.registry.Sound) {segment : String}
include hs

theorem ending_eq_parse_iff {e : ParseError} :
    (ending programs s segment).2 = some (.error (.parse e)) ↔ Plan.ofSegment segment = .error e := by
  have hiff := @Registry.Sound.resolve_refused_iff _ hs s.expanding segment e
  rw [← hiff]
  unfold ending
  cases (s.registry.resolve s.expanding segment).leaf with
  | refused e' => simp [perform]
  | native stage handler => simp [perform, runHandler_ne_parse]
  | external plan => simp [perform, execute_ne_parse]

/-- A segment that fails has registered nothing. -/
theorem ending_registry_of_failed (h : (ending programs s segment).2 ≠ none) :
    (ending programs s segment).1.registry = s.registry := by
  unfold ending at h ⊢
  cases hleaf : (s.registry.resolve s.expanding segment).leaf with
  | refused e => rfl
  | external plan => exact execute_registry programs s plan
  | native stage handler =>
    obtain ⟨b, rfl⟩ := hs.exists_builtin_of_resolve hleaf
    obtain ⟨hshell, hnone⟩ := runHandler_builtin programs (runNested programs (nestingLimit - 1)) s stage b
    have hfailed : (Builtin.run programs b s stage.args).2 ≠ none := by
      rw [hleaf] at h
      exact fun hwell => h (hnone.2 hwell)
    exact (congrArg Shell.registry hshell).trans (Builtin.run_registry_of_failed programs b hfailed)

theorem ending_sound (hsegment : ';' ∉ segment.toList) : (ending programs s segment).1.registry.Sound := by
  unfold ending
  cases hleaf : (s.registry.resolve s.expanding segment).leaf with
  | refused e => exact hs
  | external plan =>
    have hregistry := execute_registry programs s plan
    exact hregistry ▸ hs
  | native stage handler =>
    obtain ⟨b, rfl⟩ := hs.exists_builtin_of_resolve hleaf
    obtain ⟨hshell, -⟩ := runHandler_builtin programs (runNested programs (nestingLimit - 1)) s stage b
    have hsound := Builtin.run_sound programs b hs (hs.args_of_resolve hleaf hsegment)
    rwa [← hshell] at hsound

theorem runSegment_eq_settle (he : s.expanding = []) (segment : String) :
    runSegment programs s segment =
      settle (s.registry.resolve s.expanding segment).expanded (ending programs s segment) := by
  have hnone : s.ExpandsAliases := by
    intro name hname
    simp [he] at hname
  exact runSegmentWith_eq_resolve programs _ hs.selfless hnone segment

theorem runSegment_sound (he : s.expanding = []) (hsegment : ';' ∉ segment.toList) :
    (runSegment programs s segment).1.registry.Sound ∧ (runSegment programs s segment).1.expanding = [] := by
  rw [runSegment_eq_settle programs hs he, settle_registry, settle_expanding]
  refine ⟨ending_sound programs hs hsegment, ?_⟩
  rw [← he]
  exact perform_expanding programs _ s (hs.selfless.resolve_leaf_ne s.expanding segment)

end Sound

/-! ### Lines after one another -/

/-- The shells of a session: one that knows the built-ins only, and what becomes of it with every line. Between the
lines others may change the machine. -/
inductive Reached : Shell → Prop
  | start {s : Shell} (hregistry : s.registry = .builtins) (hexpanding : s.expanding = []) : Reached s
  | line {s : Shell} (h : Reached s) (line : String) : Reached (run programs s line).1
  | elsewhere {s : Shell} (h : Reached s) (machine : Machine) : Reached { s with machine }

variable {programs} {s : Shell}

/-- A line keeps a registry sound, and so it is at every segment. -/
theorem run_sound (hs : s.registry.Sound ∧ s.expanding = []) (line : String) :
    ((run programs s line).1.registry.Sound ∧ (run programs s line).1.expanding = []) ∧
      ∀ p ∈ started programs s line, p.1.registry.Sound ∧ p.1.expanding = [] := by
  have hone : ∀ t, ∀ segment ∈ segments line, t.registry.Sound ∧ t.expanding = [] →
      (runSegment programs t segment).1.registry.Sound ∧ (runSegment programs t segment).1.expanding = [] := by
    intro t segment hsegment ht
    exact runSegment_sound programs ht.1 ht.2 (isSegment_of_mem_segments hsegment).no_semicolon
  have hrecord : (s.record line).registry.Sound ∧ (s.record line).expanding = [] := hs
  exact ⟨runSegments_keeps_of_mem hone hrecord, startedFrom_keeps_of_mem programs hone hrecord⟩

theorem Reached.sound (h : Reached programs s) : s.registry.Sound ∧ s.expanding = [] := by
  induction h with
  | start hregistry hexpanding => exact ⟨hregistry ▸ Registry.sound_builtins, hexpanding⟩
  | line h text ih => exact (run_sound ih text).1
  | elsewhere h machine ih => exact ih

/-- In every state of a session the registry is sound: the names can be typed, the built-ins are registered still, and
aliases stand for plain words. An alias with the arguments that a segment gives it is a plain command again, so a
segment that calls one does not end for a text that cannot be read; and a segment that fails, such as the definition
of an alias that is none, has registered nothing. -/
theorem Reached.registry_sound (h : Reached programs s) (line : String) :
    s.registry.Sound ∧ (run programs s line).1.registry.Sound ∧
      ∀ p ∈ started programs s line,
        p.1.registry.Sound ∧
        (∀ name commandLine text stage, p.1.registry.find? name = some (.aliasOf commandLine) →
          Plan.ofSegment text = .ok (.command stage) →
          ∃ inner : Stage, Plan.ofSegment (Text.spaced (commandLine :: stage.args)) = .ok (.command inner)) ∧
        runSegment programs p.1 p.2 =
          settle (p.1.registry.resolve p.1.expanding p.2).expanded (ending programs p.1 p.2) ∧
        (∀ stage commandLine, Plan.ofSegment p.2 = .ok (.command stage) →
          p.1.registry.find? stage.command = some (.aliasOf commandLine) →
          ∀ e, (ending programs p.1 p.2).2 ≠ some (.error (.parse e))) ∧
        ((ending programs p.1 p.2).2 ≠ none → (runSegment programs p.1 p.2).1.registry = p.1.registry) := by
  obtain ⟨hafter, hstarted⟩ := run_sound h.sound line
  refine ⟨h.sound.1, hafter.1, fun p hp => ?_⟩
  obtain ⟨hs, he⟩ := hstarted p hp
  have hrun := runSegment_eq_settle programs hs he p.2
  refine ⟨hs, ?_, hrun, ?_, ?_⟩
  · intro name commandLine text stage hf hplan
    obtain ⟨inner, -, hinner⟩ := hs.ofSegment_alias hf hplan
    exact ⟨_, hinner⟩
  · intro stage commandLine hplan _ e heq
    rw [ending_eq_parse_iff programs hs, hplan] at heq
    cases heq
  · intro hfailed
    rw [hrun, settle_registry, ending_registry_of_failed programs hs hfailed]

/-- A session that has defined an alias. -/
theorem Reached.registry_sound_alias :
    Reached ⟨[], fun _ i => i.finish [] [] 0⟩ (run ⟨[], fun _ i => i.finish [] [] 0⟩ (bare .builtins) "alias l=ls -a").1 ∧
      (run ⟨[], fun _ i => i.finish [] [] 0⟩ (bare .builtins) "alias l=ls -a").1.registry.find? "l" =
        some (.aliasOf "ls -a") ∧
      (run ⟨[], fun _ i => i.finish [] [] 0⟩ (bare .builtins) "alias l=ls -a").1.registry.Sound := by
  have hreached : Reached ⟨[], fun _ i => i.finish [] [] 0⟩
      (run ⟨[], fun _ i => i.finish [] [] 0⟩ (bare .builtins) "alias l=ls -a").1 := .line (.start rfl rfl) _
  have hsegments : segments "alias l=ls -a" = ["alias l=ls -a"] := by decide +kernel
  have hplan : Plan.ofSegment "alias l=ls -a" = .ok (.command ⟨"alias", ["l=ls", "-a"]⟩) := rfl
  have hbuiltin := Registry.find?_builtins .aliasing
  refine ⟨hreached, ?_, (Reached.registry_sound hreached "l docs").1⟩
  show (runSegments _ ((bare .builtins).record _) (segments _)).1.registry.find? "l" = _
  rw [hsegments]
  unfold runSegments
  rw [if_neg (by decide), runSegmentWith_of_native _ _ hplan hbuiltin]
  decide +kernel

end Shell

end CommandShell
