import CommandShell.Execution.Executor

/-!
# What becomes of a machine

Programs may change the files of a machine, and the interrupts that are to come are used up. Nothing else of a
machine changes while a plan is carried out (`Execution.run_evolves`).
-/

namespace CommandShell

/-- What may become of a machine while something runs on it: interrupts that are not to come do not come. -/
structure Machine.Evolves (m n : Machine) : Prop where
  environment : n.environment = m.environment
  now : n.now = m.now
  host : n.host = m.host
  never : m.interruption = .never → n.interruption = .never

namespace Machine

theorem Evolves.refl (m : Machine) : m.Evolves m := ⟨rfl, rfl, rfl, id⟩

theorem Evolves.trans {l m n : Machine} (h : l.Evolves m) (h' : m.Evolves n) : l.Evolves n :=
  ⟨h'.environment.trans h.environment, h'.now.trans h.now, h'.host.trans h.host, h'.never ∘ h.never⟩

theorem evolves_files (m : Machine) (files : Files) : m.Evolves { m with files } := ⟨rfl, rfl, rfl, id⟩

theorem evolves_drawn (m : Machine) (drawn : Nat) : m.Evolves { m with drawn } := ⟨rfl, rfl, rfl, id⟩

theorem evolves_countStart (m : Machine) : m.Evolves m.countStart.1 := by
  unfold countStart
  split
  · next count hm =>
    have hnot : m.interruption ≠ .never := by simp [hm]
    split <;> exact ⟨rfl, rfl, rfl, fun h => absurd h hnot⟩
  · exact .refl m

/-- Nobody interrupts at the start of a process where no interrupt is to come. -/
theorem countStart_of_never {m : Machine} (h : m.interruption = .never) : m.countStart = (m, false) := by
  unfold countStart
  rw [h]

theorem evolves_never (m : Machine) : m.Evolves { m with interruption := .never } := ⟨rfl, rfl, rfl, fun _ => rfl⟩

end Machine

namespace Execution

variable (programs : Programs) (control : Control)

private theorem conclude_evolves (m : Machine) (events : List Event) (runs : List (Option Run)) :
    m.Evolves (conclude control m events runs).machine := by
  unfold conclude
  split
  · exact m.evolves_never
  · exact .refl m

private theorem single_evolves (m : Machine) (stage : Stage) (input : Stream) (target : Option Handle) :
    m.Evolves (single programs control m stage input target).machine := by
  have hcount := m.evolves_countStart
  have hconclude := fun files events runs =>
    (hcount.trans (m.countStart.1.evolves_files files)).trans (conclude_evolves control _ events runs)
  unfold single
  split
  · exact .refl m
  · dsimp only
    split
    · exact hcount.trans m.countStart.1.evolves_never
    · split <;> exact hconclude _ _ _

theorem happenings_evolves (stages : List Stage) (m : Machine) (interrupted : Bool) :
    m.Evolves (happenings m interrupted stages).1 := by
  induction stages generalizing m interrupted with
  | nil => exact .refl m
  | cons stage rest ih =>
    unfold happenings
    split
    · exact ih m _
    · split
      · exact m.evolves_countStart.trans (ih _ _)
      · exact ih m _
      · exact ih m _

theorem runAll_evolves (executables : List (Option Executable)) (m : Machine) (input : Stream) :
    m.Evolves (runAll programs m input executables).1 := by
  induction executables generalizing m input with
  | nil => exact .refl m
  | cons executable rest ih =>
    cases executable with
    | none => exact ih m _
    | some executable => exact (m.evolves_files _).trans (ih _ _)

private theorem pipeline_evolves (m : Machine) (stages : List Stage) :
    m.Evolves (pipeline programs control m stages).machine := by
  have hstart := happenings_evolves stages m false
  unfold pipeline
  dsimp only
  split
  · -- The processes that are ended have run on a machine that differs in the interrupts that are to come only.
    generalize hwiring : (Wiring.wire _ stages.length).processes = processes
    have hleft := runAll_evolves programs processes { (happenings m false stages).1 with interruption := .atPause } .empty
    exact hstart.trans ⟨hleft.environment, hleft.now, hleft.host, fun _ => rfl⟩
  · split
    · exact hstart.trans (Machine.evolves_never _)
    · exact (hstart.trans (runAll_evolves programs _ _ _)).trans (conclude_evolves control _ _ _)

private theorem withInput_evolves (m : Machine) (stage : Stage) (path : String) :
    m.Evolves (withInput programs control m stage path).machine := by
  unfold withInput
  split
  · exact .refl m
  · exact .refl m
  · exact single_evolves programs control m stage _ _

private theorem withOutput_evolves (m : Machine) (stage : Stage) (keep : Bool) (path : String) :
    m.Evolves (withOutput programs control m stage keep path).machine := by
  unfold withOutput
  split
  · exact .refl m
  · exact .refl m
  · exact (m.evolves_files _).trans (single_evolves programs control _ stage _ _)

/-- Carrying out a plan changes nothing of a machine but its files and the interrupts that are to come. -/
theorem run_evolves (m : Machine) (plan : Plan) : m.Evolves (run programs control m plan).machine := by
  cases plan with
  | command stage => exact single_evolves programs control m stage _ _
  | pipeline first second others => exact pipeline_evolves programs control m _
  | redirected stage redirection =>
    obtain ⟨kind, path⟩ := redirection
    cases kind with
    | read => exact withInput_evolves programs control m stage path
    | truncate | append => exact withOutput_evolves programs control m stage _ path

end Execution

end CommandShell
