import CommandShell.Proofs.Execution.Escape
import CommandShell.Proofs.Shell.Invariant

/-!
# Running without interrupts

A line is interrupted by the user, or because a banner is waited for that is never drawn. So where no interrupt is to
come and every program ends, no line is interrupted (`Shell.runNested_uninterrupted`).
-/

namespace CommandShell

/-- Every program ends. -/
def Programs.End (programs : Programs) : Prop := ∀ name i, ∃ status, (programs.run name i).ending = .done status

/-- A built-in that was not interrupted. -/
def Outcome.Uninterrupted (o : Outcome) : Prop := o.2 ≠ some .interrupted

namespace Outcome

@[simp] theorem well_uninterrupted (s : Shell) : (well s).Uninterrupted := by simp [Uninterrupted, well]

@[simp] theorem complain_uninterrupted (s : Shell) (c : Complaint) : (complain s c).Uninterrupted := by
  simp [Uninterrupted, complain]

@[simp] theorem fail_uninterrupted (s : Shell) (m : Mishap) : (fail s m).Uninterrupted := by
  simp [Uninterrupted, fail]

@[simp] theorem refuse_uninterrupted (s : Shell) (target : String) (fault : CallFault) :
    (refuse s target fault).Uninterrupted := by
  cases fault <;> simp [refuse]

end Outcome

namespace Builtin

private theorem unlinkUnlessAbsent_uninterrupted (s : Shell) (operand path : String) :
    (remove.unlinkUnlessAbsent s operand path).Uninterrupted := by
  unfold remove.unlinkUnlessAbsent
  split <;> simp

private theorem listEntries_uninterrupted (directory : Path) (s : Shell) (names : List String) :
    (listEntries directory s names).Uninterrupted := by
  induction names generalizing s with
  | nil => simp [listEntries]
  | cons name rest ih =>
    unfold listEntries
    dsimp only
    split
    · exact ih _
    · simp

private theorem findBelow_uninterrupted (pattern : String) (fuel : Nat) (s : Shell) (directory : Path) :
    (findBelow pattern fuel s directory).Uninterrupted := by
  induction fuel generalizing s directory with
  | zero => simp [findBelow]
  | succ fuel ih =>
    unfold findBelow
    split
    · simp
    · simp
    · refine List.foldlRecOn _ _ (Outcome.well_uninterrupted s) ?_
      rintro ⟨t, _ | failure⟩ ht name -
      · dsimp only
        split <;> first | exact ih _ _ | simp
      · exact ht

private theorem remove_uninterrupted (s : Shell) (args : List String) : (remove s args).Uninterrupted := by
  have hunlink := unlinkUnlessAbsent_uninterrupted s
  unfold remove
  split
  · simp
  · dsimp only
    split
    · split
      · simp
      · split
        · simp
        · exact hunlink _ _
        · split <;> simp
      · exact hunlink _ _
    · split <;> simp

/-- A banner that is drawn by a program that ends is not interrupted, where no interrupt is to come. -/
private theorem printBanner_uninterrupted {programs : Programs} (hend : programs.End) {s : Shell}
    (h : s.machine.interruption = .never) (args : List String) : (printBanner programs s args).Uninterrupted := by
  have hdraw (m : Machine) (hm : m.interruption = .never) (text : String) :
      (draw programs m text).2 ≠ .interrupted := by
    unfold draw
    split
    · simp
    · simp
    · next executable hfind =>
      obtain ⟨status, hstatus⟩ := hend executable.program (Execution.invocation m executable .empty none)
      simp only [Machine.countStart_of_never hm, Bool.false_eq_true, if_false, hstatus]
      cases status with
      | exited code => cases code <;> simp
      | killed signal => simp
  unfold printBanner
  dsimp only
  split
  · simp
  · simp
  · simp
  · next hd => exact absurd hd (hdraw _ h _)

/-- Only a banner can be interrupted, and not where no interrupt is to come and every program ends. -/
theorem run_uninterrupted {programs : Programs} (hend : programs.End) {s : Shell}
    (h : s.machine.interruption = .never) (b : Builtin) (args : List String) :
    (run programs b s args).Uninterrupted := by
  cases b with
  | banner => exact printBanner_uninterrupted hend h args
  | ls =>
    show (listDirectory s args).Uninterrupted
    unfold listDirectory
    dsimp only
    split
    · simp
    · exact listEntries_uninterrupted _ _ _
  | find =>
    show (findEntries s args).Uninterrupted
    unfold findEntries
    repeat' split
    · exact findBelow_uninterrupted _ _ _ _
    · simp
    · simp
  | rm => exact remove_uninterrupted s args
  | cd =>
    show (changeDirectory s args).Uninterrupted
    unfold changeDirectory
    dsimp only
    repeat' split
    all_goals simp
  | pwd =>
    show (printDirectory s).Uninterrupted
    unfold printDirectory
    split <;> simp
  | mkdir =>
    show (makeDirectory s args).Uninterrupted
    unfold makeDirectory
    split
    · simp
    · dsimp only
      split <;> simp
  | touch =>
    show (touchFile s args).Uninterrupted
    unfold touchFile
    repeat' split
    all_goals simp
  | cat =>
    show (printFile s args).Uninterrupted
    unfold printFile
    repeat' split
    all_goals simp
  | history =>
    show (showHistory s args).Uninterrupted
    unfold showHistory
    dsimp only
    split <;> simp
  | aliasing =>
    show (defineAlias s args).Uninterrupted
    unfold defineAlias
    dsimp only
    repeat' split
    all_goals simp
  | genpass =>
    show (makePassword s args).Uninterrupted
    unfold makePassword
    split <;> simp
  | qrcode =>
    show (qrCode s args).Uninterrupted
    unfold qrCode
    dsimp only
    split <;> simp
  | clear | date | echo | exit | greet | help | sysinfo => exact Outcome.well_uninterrupted _

end Builtin

namespace Shell

variable {programs : Programs}

theorem kept_never : Kept fun s => s.machine.interruption = .never where
  tell h _ := h
  evolve h hm := hm.never h
  enrol h _ _ := h
  requestExit h := h
  setExpanding h _ := h

private theorem runHandler_uninterrupted (hend : programs.End) {rerun : Shell → String → Shell × Option Escape}
    (hrerun : ∀ s line, s.machine.interruption = .never → (rerun s line).2 ≠ some .interrupted) {s : Shell}
    (h : s.machine.interruption = .never) (stage : Stage) (handler : Handler) :
    (runHandler programs rerun s stage handler).2 ≠ some (.escape .interrupted) := by
  cases handler with
  | builtin b =>
    have hrun := Builtin.run_uninterrupted hend h b stage.args
    unfold runHandler
    dsimp only
    generalize Builtin.run programs b s stage.args = outcome at hrun
    rcases outcome with ⟨after, _ | complaint | mishap | _⟩
    · simp
    · simp
    · simp
    · exact absurd rfl hrun
  | record | fail | refuse => simp [runHandler]
  | rerun line =>
    have hrun := hrerun s line h
    unfold runHandler
    dsimp only
    generalize rerun s line = ended at hrun
    rcases ended with ⟨after, _ | mishap | _⟩
    · simp
    · simp
    · exact absurd rfl hrun

private theorem report_uninterrupted {ended : Shell × Option Stop} (h : ended.2 ≠ some (.escape .interrupted)) :
    (report ended).2 ≠ some .interrupted := by
  obtain ⟨s, _ | e | e⟩ := ended
  · simp [report]
  · simp [report]
  · simpa [report] using h

private theorem execute_uninterrupted {s : Shell} (h : s.machine.interruption = .never) (plan : Plan) :
    (execute programs s plan).2 ≠ some (.escape .interrupted) := by
  have hrun := Execution.run_result_ne_interrupted programs s.control h plan
  unfold execute
  dsimp only
  split
  · next stop hstop => simpa [hstop] using hrun
  · split
    · split <;> simp
    · simp

private theorem runSegmentWith_uninterrupted (hend : programs.End) {rerun : Shell → String → Shell × Option Escape}
    (hrerun : ∀ s line, s.machine.interruption = .never → (rerun s line).2 ≠ some .interrupted) {s : Shell}
    (h : s.machine.interruption = .never) (segment : String) :
    (runSegmentWith programs rerun s segment).2 ≠ some .interrupted := by
  rcases s.registry.turn_cases s.expanding segment with ⟨e, ht⟩ | ⟨plan, ht, hl⟩ |
    ⟨stage, handler, description, ht, hf⟩ | ⟨stage, line, ht, hf, hn⟩
  · rw [runSegmentWith_of_error programs rerun ht]
    simp [report]
  · rw [runSegmentWith_of_leaves programs rerun ht hl]
    exact report_uninterrupted (execute_uninterrupted h plan)
  · rw [runSegmentWith_of_native programs rerun ht hf]
    exact report_uninterrupted (runHandler_uninterrupted hend hrerun h stage handler)
  · have ih := runSegmentWith_uninterrupted hend hrerun (s := s.expand stage.command) h
      (Text.spaced (line :: stage.args))
    rw [runSegmentWith_of_alias programs rerun ht hf hn]
    refine report_uninterrupted ?_
    generalize runSegmentWith programs rerun (s.expand stage.command) (Text.spaced (line :: stage.args)) = ended at ih
    rcases ended with ⟨after, _ | mishap | _⟩
    · simp [stopOf]
    · simp [stopOf]
    · exact absurd rfl ih
termination_by (s.registry.unseen s.expanding).card
decreasing_by exact Registry.card_unseen_lt hf hn

private theorem runSegments_uninterrupted {runOne : Shell → String → Shell × Option Escape}
    (hnever : ∀ s segment, s.machine.interruption = .never → (runOne s segment).1.machine.interruption = .never)
    (hone : ∀ s segment, s.machine.interruption = .never → (runOne s segment).2 ≠ some .interrupted) {s : Shell}
    (h : s.machine.interruption = .never) (texts : List String) :
    (runSegments runOne s texts).2 ≠ some .interrupted := by
  induction texts generalizing s with
  | nil => simp [runSegments]
  | cons segment rest ih =>
    unfold runSegments
    split
    · simp
    · have hafter := hnever s segment h
      have hresult := hone s segment h
      generalize runOne s segment = ended at hafter hresult
      rcases ended with ⟨after, _ | e⟩
      · exact ih hafter
      · exact hresult

/-- Where no interrupt is to come and every program ends, a line is not interrupted. -/
theorem runNested_uninterrupted (hend : programs.End) (depth : Nat) {s : Shell} (h : s.machine.interruption = .never)
    (line : String) : (runNested programs depth s line).2 ≠ some .interrupted := by
  induction depth generalizing s line with
  | zero => simp [runNested]
  | succ depth ih =>
    have hrerun : KeptByRerun (fun s => s.machine.interruption = .never) (runNested programs depth) :=
      fun t _ text _ ht _ => runNested_keeps kept_never programs (fun _ _ hu => hu) depth ht text
    have hrecorded : ({ s with history := s.history.append line } : Shell).machine.interruption = .never := h
    exact runSegments_uninterrupted
      (fun t segment ht => runSegmentWith_keeps kept_never programs hrerun ht segment)
      (fun t segment ht => runSegmentWith_uninterrupted hend (fun u text hu => ih hu text) ht segment)
      hrecorded (segments line)

/-- Nor is a segment. -/
theorem runSegment_uninterrupted (hend : programs.End) {s : Shell} (h : s.machine.interruption = .never)
    (segment : String) : (runSegment programs s segment).2 ≠ some .interrupted :=
  runSegmentWith_uninterrupted hend (fun _ line ht => runNested_uninterrupted hend _ ht line) h segment

end Shell

end CommandShell
