import CommandShell.Proofs.Execution.Evolution
import CommandShell.Proofs.Shell.Resolution

/-!
# What running a line keeps

A property of shells that every step of a built-in keeps, whatever is being expanded, holds on after a segment
(`runSegmentWith_keeps`). If recording a line keeps it too, it holds on after a line with all the lines that are run
within it (`runNested_keeps`).
-/

namespace CommandShell.Shell

/-- A property that no step of a segment breaks. -/
structure Kept (P : Shell → Prop) : Prop extends Builtin.Invariant P where
  setExpanding : ∀ {s}, P s → ∀ names, P (s.setExpanding names)

/-- The property holds again after each line that a native command gives the shell to run. -/
def KeptByRerun (P : Shell → Prop) (rerun : Shell → String → Shell × Option Escape) : Prop :=
  ∀ (s : Shell) (name line description : String), P s →
    s.registry.find? name = some (.native (.rerun line) description) → P (rerun s line).1

variable {P : Shell → Prop} (hP : Kept P) (programs : Programs)
include hP

private theorem tellAll_keeps {s : Shell} (h : P s) (es : List Event) : P (s.tellAll es) := by
  induction es generalizing s with
  | nil =>
    have hnil : s.tellAll [] = s := by simp [tellAll]
    rwa [hnil]
  | cons e es ih =>
    have hcons : s.tellAll (e :: es) = (s.tell e).tellAll es := by simp [tellAll, tell]
    rw [hcons]
    exact ih (hP.tell h e)

private theorem execute_keeps {s : Shell} (h : P s) (plan : Plan) : P (execute programs s plan).1 := by
  have hafter := tellAll_keeps hP (hP.evolve h (Execution.run_evolves programs s.control s.machine plan))
    (Execution.run programs s.control s.machine plan).events
  unfold execute
  dsimp only
  split
  · exact hafter
  · split
    · split <;> exact hafter
    · exact hafter

private theorem report_keeps {ended : Shell × Option Stop} (h : P ended.1) : P (report ended).1 := by
  obtain ⟨s, _ | e | e⟩ := ended
  · exact h
  · exact hP.tell h _
  · exact h

private theorem runHandler_keeps {rerun : Shell → String → Shell × Option Escape} (hrerun : KeptByRerun P rerun)
    {s : Shell} (h : P s) {stage : Stage} {handler : Handler} {description : String}
    (hf : s.registry.find? stage.command = some (.native handler description)) :
    P (runHandler programs rerun s stage handler).1 := by
  cases handler with
  | builtin b =>
    have hrun := Builtin.run_preserves hP.toInvariant programs b h stage.args
    unfold runHandler
    dsimp only
    generalize Builtin.run programs b s stage.args = outcome at hrun
    rcases outcome with ⟨after, _ | complaint | mishap | _⟩ <;> exact hrun
  | record label => exact hP.tell h _
  | fail text => exact h
  | refuse name => exact h
  | rerun line =>
    have hrun := hrerun s _ line _ h hf
    unfold runHandler
    dsimp only
    generalize rerun s line = ended at hrun
    rcases ended with ⟨after, _ | mishap | _⟩ <;> exact hrun

/-- What no step of a segment breaks, the segment keeps. -/
theorem runSegmentWith_keeps {rerun : Shell → String → Shell × Option Escape} (hrerun : KeptByRerun P rerun)
    {s : Shell} (h : P s) (segment : String) : P (runSegmentWith programs rerun s segment).1 := by
  rcases s.registry.turn_cases s.expanding segment with ⟨e, ht⟩ | ⟨plan, ht, hl⟩ |
    ⟨stage, handler, description, ht, hf⟩ | ⟨stage, line, ht, hf, hn⟩
  · rw [runSegmentWith_of_error programs rerun ht]
    exact report_keeps hP h
  · rw [runSegmentWith_of_leaves programs rerun ht hl]
    exact report_keeps hP (execute_keeps hP programs h plan)
  · rw [runSegmentWith_of_native programs rerun ht hf]
    exact report_keeps hP (hP.setExpanding (runHandler_keeps hP programs hrerun h hf) _)
  · -- Fewer aliases are left to expand within this one.
    have ih := runSegmentWith_keeps hrerun (hP.setExpanding h (stage.command :: s.expanding))
      (Text.spaced (line :: stage.args))
    rw [runSegmentWith_of_alias programs rerun ht hf hn]
    exact report_keeps hP (hP.setExpanding ih _)
termination_by (s.registry.unseen s.expanding).card
decreasing_by exact Registry.card_unseen_lt hf hn

omit hP in
theorem runSegments_keeps_of_mem {runOne : Shell → String → Shell × Option Escape} {texts : List String}
    (hone : ∀ s, ∀ segment ∈ texts, P s → P (runOne s segment).1) {s : Shell} (h : P s) :
    P (runSegments runOne s texts).1 := by
  induction texts generalizing s with
  | nil => exact h
  | cons segment rest ih =>
    unfold runSegments
    split
    · exact h
    · have hafter := hone s segment (List.mem_cons_self ..) h
      generalize runOne s segment = ended at hafter
      rcases ended with ⟨after, _ | e⟩
      · exact ih (fun s text ht => hone s text (List.mem_cons_of_mem _ ht)) hafter
      · exact hafter

omit hP in
theorem runSegments_keeps {runOne : Shell → String → Shell × Option Escape}
    (hone : ∀ s segment, P s → P (runOne s segment).1) {s : Shell} (h : P s) (texts : List String) :
    P (runSegments runOne s texts).1 := runSegments_keeps_of_mem (fun s segment _ => hone s segment) h

/-- What neither a step of a segment nor the recording of a line breaks, a line keeps. -/
theorem runNested_keeps (hrecord : ∀ s line, P s → P { s with history := s.history.append line })
    (depth : Nat) {s : Shell} (h : P s) (line : String) : P (runNested programs depth s line).1 := by
  induction depth generalizing s line with
  | zero => exact h
  | succ depth ih =>
    have hrerun : KeptByRerun P (runNested programs depth) := fun t _ text _ ht _ => ih ht text
    have hone := fun t segment ht => runSegmentWith_keeps hP programs hrerun (s := t) ht segment
    exact runSegments_keeps hone (hrecord s line h) (segments line)

theorem runSegment_keeps (hrecord : ∀ s line, P s → P { s with history := s.history.append line }) {s : Shell}
    (h : P s) (segment : String) : P (runSegment programs s segment).1 :=
  runSegmentWith_keeps hP programs (fun _ _ line _ ht _ => runNested_keeps hP programs hrecord _ ht line) h segment

end CommandShell.Shell
