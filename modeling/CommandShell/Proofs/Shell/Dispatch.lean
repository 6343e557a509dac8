import CommandShell.Shell.Running

/-!
# What running a segment comes down to

The turns that a segment can take, one equation for each: it is refused, its command is not registered, a native
command, an alias that is being expanded, or one that is not; or it is left to programs because it is no plain
command.
-/

namespace CommandShell

/-- A plan is left to programs: it is no plain command, or its command is not registered, or it is an alias that is
being expanded. -/
inductive Registry.Leaves (r : Registry) (seen : List String) : Plan → Prop
  | unregistered {stage : Stage} (h : r.find? stage.command = none) : Leaves r seen (.command stage)
  | expanding {stage : Stage} {line : String} (h : r.find? stage.command = some (.aliasOf line))
      (hn : stage.command ∈ seen) : Leaves r seen (.command stage)
  | redirected {stage : Stage} {redirection : Redirection} : Leaves r seen (.redirected stage redirection)
  | pipeline {first second : Stage} {others : List Stage} : Leaves r seen (.pipeline first second others)

theorem Registry.Leaves.ne_native {r : Registry} {seen : List String} {stage : Stage}
    (h : r.Leaves seen (.command stage)) {handler : Handler} {description : String} :
    r.find? stage.command ≠ some (.native handler description) := by
  cases h with
  | unregistered hf => simp [hf]
  | expanding hf hn => simp [hf]

theorem Registry.Leaves.mem_of_alias {r : Registry} {seen : List String} {stage : Stage}
    (h : r.Leaves seen (.command stage)) {line : String} (hf : r.find? stage.command = some (.aliasOf line)) :
    stage.command ∈ seen := by
  cases h with
  | unregistered hf' => simp [hf] at hf'
  | expanding _ hn => exact hn

namespace Registry

/-- The turns that a text can take. -/
theorem turn_cases (r : Registry) (seen : List String) (text : String) :
    (∃ e, Plan.ofSegment text = .error e) ∨ (∃ plan, Plan.ofSegment text = .ok plan ∧ r.Leaves seen plan) ∨
      (∃ stage handler description, Plan.ofSegment text = .ok (.command stage) ∧
        r.find? stage.command = some (.native handler description)) ∨
      ∃ stage line, Plan.ofSegment text = .ok (.command stage) ∧ r.find? stage.command = some (.aliasOf line) ∧
        stage.command ∉ seen := by
  cases h : Plan.ofSegment text with
  | error e => exact .inl ⟨e, rfl⟩
  | ok plan =>
    right
    cases plan with
    | redirected stage redirection => exact .inl ⟨_, rfl, .redirected⟩
    | pipeline first second others => exact .inl ⟨_, rfl, .pipeline⟩
    | command stage =>
      cases hf : r.find? stage.command with
      | none => exact .inl ⟨_, rfl, .unregistered hf⟩
      | some action =>
        cases action with
        | native handler description => exact .inr (.inl ⟨stage, handler, description, rfl, hf⟩)
        | aliasOf line =>
          by_cases hn : stage.command ∈ seen
          · exact .inl ⟨_, rfl, .expanding hf hn⟩
          · exact .inr (.inr ⟨stage, line, rfl, hf, hn⟩)

end Registry

namespace Shell

/-- How a native command that has run counts as dispatched. -/
def dispatched (name : String) : Shell × Option Stop → Shell × Except Stop Bool
  | (after, none) => (after.endExpansion name, .ok true)
  | (after, some stop) => (after.endExpansion name, .error stop)

/-- A mishap while an alias is expanded is an error of that alias. -/
def stopOf (name : String) : Option Escape → Option Stop
  | none => none
  | some (.mishap m) => some (.error (.builtin name (.mishap m)))
  | some .interrupted => some (.escape .interrupted)

section Turns

variable (programs : Programs) (rerun : Shell → String → Shell × Option Escape) {s : Shell} {stage : Stage}
variable (inner : (t : Shell) → t.unexpanded < s.unexpanded → String → Shell × Option Escape)

theorem dispatchWith_of_none (h : s.registry.find? stage.command = none) :
    dispatchWith programs rerun s inner stage = (s, .ok false) := by
  unfold dispatchWith
  split <;> simp_all

theorem dispatchWith_of_native {handler : Handler} {description : String}
    (h : s.registry.find? stage.command = some (.native handler description)) :
    dispatchWith programs rerun s inner stage =
      dispatched stage.command (runHandler programs rerun s stage handler) := by
  unfold dispatchWith
  split
  · simp_all
  · next handler' description' h' =>
    obtain ⟨rfl, -⟩ := Action.native.inj (Option.some.inj (h'.symm.trans h))
    rcases runHandler programs rerun s stage handler' with ⟨after, _ | stop⟩ <;> rfl
  · simp_all

theorem dispatchWith_of_seen {line : String} (h : s.registry.find? stage.command = some (.aliasOf line))
    (hn : stage.command ∈ s.expanding) : dispatchWith programs rerun s inner stage = (s, .ok false) := by
  unfold dispatchWith
  split <;> simp_all

theorem dispatchWith_of_alias {line : String} (h : s.registry.find? stage.command = some (.aliasOf line))
    (hn : s.expanding.contains stage.command = false) :
    dispatchWith programs rerun s inner stage =
      dispatched stage.command
        ((inner (s.expand stage.command) (unexpanded_lt h hn) (Text.spaced (line :: stage.args))).1,
          stopOf stage.command
            (inner (s.expand stage.command) (unexpanded_lt h hn) (Text.spaced (line :: stage.args))).2) := by
  unfold dispatchWith
  split
  · simp_all
  · simp_all
  · next line' h' =>
    obtain rfl := Action.aliasOf.inj (Option.some.inj (h'.symm.trans h))
    rw [dif_pos hn]
    rcases inner (s.expand stage.command) (unexpanded_lt h hn) (Text.spaced (line' :: stage.args)) with
      ⟨after, _ | m | _⟩ <;> rfl

end Turns

section Segments

variable (programs : Programs) (rerun : Shell → String → Shell × Option Escape) {s : Shell} {segment : String}

theorem runSegmentWith_of_error {e : ParseError} (h : Plan.ofSegment segment = .error e) :
    runSegmentWith programs rerun s segment = report (s, some (.error (.parse e))) := by
  rw [runSegmentWith, h]
  rfl

theorem runSegmentWith_of_leaves {plan : Plan} (h : Plan.ofSegment segment = .ok plan)
    (hl : s.registry.Leaves s.expanding plan) :
    runSegmentWith programs rerun s segment = report (execute programs s plan) := by
  rw [runSegmentWith, h]
  unfold runReadWith
  cases hl with
  | unregistered hf => simp only [dispatchWith_of_none programs rerun _ hf]
  | expanding hf hn => simp only [dispatchWith_of_seen programs rerun _ hf hn]
  | redirected | pipeline => rfl

theorem runSegmentWith_of_native {stage : Stage} {handler : Handler} {description : String}
    (h : Plan.ofSegment segment = .ok (.command stage))
    (hf : s.registry.find? stage.command = some (.native handler description)) :
    runSegmentWith programs rerun s segment =
      report ((runHandler programs rerun s stage handler).1.endExpansion stage.command,
        (runHandler programs rerun s stage handler).2) := by
  rw [runSegmentWith, h]
  simp only [runReadWith, dispatchWith_of_native programs rerun _ hf]
  rcases runHandler programs rerun s stage handler with ⟨after, _ | stop⟩ <;> rfl

theorem runSegmentWith_of_alias {stage : Stage} {line : String} (h : Plan.ofSegment segment = .ok (.command stage))
    (hf : s.registry.find? stage.command = some (.aliasOf line)) (hn : stage.command ∉ s.expanding) :
    runSegmentWith programs rerun s segment =
      report
        ((runSegmentWith programs rerun (s.expand stage.command) (Text.spaced (line :: stage.args))).1.endExpansion
            stage.command,
          stopOf stage.command
            (runSegmentWith programs rerun (s.expand stage.command) (Text.spaced (line :: stage.args))).2) := by
  have hn' : s.expanding.contains stage.command = false := by simpa using hn
  rw [runSegmentWith, h]
  simp only [runReadWith, dispatchWith_of_alias programs rerun _ hf hn']
  rcases runSegmentWith programs rerun (s.expand stage.command) (Text.spaced (line :: stage.args)) with
    ⟨after, _ | m | _⟩ <;> rfl

end Segments

end Shell

end CommandShell
