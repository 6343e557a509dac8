import CommandShell.Proofs.Execution.Supervision
import Mathlib.Data.List.Forall2

/-!
# Processes that outlive their line

Ending processes (`Termination.run`) and carrying out a plan (`Execution.run`) are runs of a supervision, so what holds
of every run holds of them: where nobody interrupts a second time, no process outlives an interrupted plan.
-/

namespace CommandShell

namespace Supervision

/-- Some occurrences lead from one state of a line to another. -/
def Leads (terminates : Bool) (s t : Supervision) : Prop := ∃ occurrences, Runs terminates s occurrences t

section Leads

variable {terminates : Bool} {s t u : Supervision}

theorem Leads.refl (s : Supervision) : Leads terminates s s := ⟨[], .nil⟩

theorem Leads.trans (h : Leads terminates s t) (h' : Leads terminates t u) : Leads terminates s u :=
  ⟨_, h.choose_spec.trans h'.choose_spec⟩

theorem Step.leads {o : Occurrence} (h : Step terminates s o t) : Leads terminates s t := ⟨[o], .single h⟩

/-- Some of the processes that are running have ended. -/
def Advances (before after : List (Option Status)) : Prop := List.Forall₂ (fun c d => c = d ∨ c = none) before after

/-- Processes end one by one. -/
theorem leads_of_advances {phase : Phase} (hphase : phase ≠ .over) (front : List (Option Status))
    {before after : List (Option Status)} (h : Advances before after) :
    Leads terminates ⟨phase, front ++ before⟩ ⟨phase, front ++ after⟩ := by
  induction h generalizing front with
  | nil => exact .refl _
  | @cons c d before after hchild _ ih =>
    have hrest := ih (front ++ [d])
    simp only [List.append_assoc, List.singleton_append] at hrest
    refine Leads.trans ?_ hrest
    cases d with
    | none =>
      obtain rfl : c = none := by simpa using hchild
      exact .refl _
    | some status =>
      rcases hchild with rfl | rfl
      · exact .refl _
      · have hended : Step terminates ⟨phase, front ++ none :: before⟩ (.ended front.length status)
            ⟨phase, (front ++ none :: before).set front.length (some status)⟩ := .ended hphase (by simp) status
        simpa using hended.leads

/-- Stages are started one by one. -/
theorem leads_replicate (n : Nat) : Leads terminates ⟨.starting, []⟩ ⟨.starting, List.replicate n none⟩ := by
  induction n with
  | zero => exact .refl _
  | succ n ih =>
    rw [List.replicate_succ']
    exact ih.trans Step.started.leads

theorem leads_starting (n : Nat) : Leads terminates fresh ⟨.starting, List.replicate n none⟩ :=
  Step.begins.leads.trans (leads_replicate n)

/-- The processes of a plan that is waited for have ended or not. -/
theorem leads_waiting (children : List (Option Status)) : Leads terminates fresh ⟨.waiting, children⟩ := by
  have hadvances : Advances (List.replicate children.length none) children := by
    unfold Advances
    induction children with
    | nil => exact .nil
    | cons child rest ih => exact .cons (.inr rfl) ih
  exact ((leads_starting children.length).trans Step.allStarted.leads).trans
    (leads_of_advances (by decide) [] hadvances)

end Leads

end Supervision

namespace Termination

open Supervision

/-- What is known of some processes. -/
def statuses (children : List Child) : List (Option Status) := children.map (·.ended)

theorem advances_settle (time : Option Rat) (children : List Child) :
    Advances (statuses children) (statuses (settle time children)) := by
  unfold Advances statuses settle
  rw [List.map_map, List.forall₂_map_left_iff, List.forall₂_map_right_iff, List.forall₂_same]
  intro c _
  by_cases hrunning : c.isRunning
  · exact .inr (by simpa [Child.isRunning] using hrunning)
  · exact .inl (by simp [hrunning])

theorem none_mem_statuses_iff {children : List Child} :
    none ∈ statuses children ↔ children.any Child.isRunning = true := by
  unfold statuses Child.isRunning
  rw [List.mem_map, List.any_eq_true]
  refine exists_congr fun c => and_congr_right fun _ => ?_
  rw [Option.isNone_iff_eq_none]

/-- What becomes of a process that is killed if it is running. -/
def killed (c : Child) : Child := if c.isRunning then .done (.killed Status.killSignal) else c

theorem statuses_killed (children : List Child) : statuses (children.map killed) = kill (statuses children) := by
  unfold statuses kill
  rw [List.map_map, List.map_map]
  refine List.map_congr_left fun c _ => ?_
  obtain ⟨_ | status, leaves, reaction⟩ := c <;> rfl

/-- How ending processes comes out: none is running, or a further interrupt breaks it off, or the rest are killed. -/
theorem run_cases (grace again : Option Rat) (children : List Child) :
    (none ∉ statuses children ∧ run grace again children = ⟨[], children, false⟩) ∨
      (none ∈ statuses children ∧ again.isSome ∧
        (run grace again children).children = settle again children ∧ (run grace again children).brokenOff = true) ∨
      (none ∈ statuses children ∧ (run grace again children).children = (settle grace children).map killed ∧
        (run grace again children).brokenOff = false) := by
  rw [none_mem_statuses_iff]
  by_cases hall : children.all (!·.isRunning) = true
  · exact .inl ⟨by simpa using hall, if_pos hall⟩
  · have hany : children.any Child.isRunning = true := by simpa using hall
    obtain ⟨requests, signals, interrupted, hagain, hrun⟩ : ∃ requests signals, ∃ interrupted : Bool,
        (interrupted = true → again.isSome) ∧
          run grace again children =
            if interrupted then ⟨requests, settle again children, true⟩
            else ⟨signals, (settle grace children).map killed, false⟩ :=
      ⟨_, _, _, by cases again <;> simp, if_neg hall⟩
    rw [hrun]
    cases interrupted with
    | true => exact .inr (.inl ⟨hany, hagain rfl, rfl, rfl⟩)
    | false => exact .inr (.inr ⟨hany, rfl, rfl⟩)

/-- Ending processes is one way for a line to be left. -/
theorem leads_run (grace again : Option Rat) (children : List Child) :
    Leads true (wind (statuses children)) ⟨.over, statuses (run grace again children).children⟩ := by
  have hasking (h : none ∈ statuses children) : wind (statuses children) = ⟨.asking, statuses children⟩ := by
    simp [wind, h]
  have hsettle (time : Option Rat) :
      Leads true ⟨.asking, statuses children⟩ ⟨.asking, statuses (settle time children)⟩ :=
    leads_of_advances (by decide) [] (advances_settle time children)
  rcases run_cases grace again children with ⟨hnone, hrun⟩ | ⟨hsome, -, hrun, -⟩ | ⟨hsome, hrun, -⟩
  · rw [hrun]
    have hover : Leads true ⟨.over, statuses children⟩ ⟨.over, statuses children⟩ := .refl _
    simpa [wind, hnone] using hover
  · rw [hrun, hasking hsome]
    exact (hsettle again).trans Step.interruptAsking.leads
  · rw [hrun, hasking hsome, statuses_killed]
    refine (hsettle grace).trans (Step.graceOver.leads.trans (Step.killed ?_).leads)
    simp [kill]

/-- Unless it is broken off, no process is running when processes have been ended. -/
theorem none_mem_run_iff (grace again : Option Rat) (children : List Child) :
    none ∈ statuses (run grace again children).children ↔
      (run grace again children).brokenOff = true ∧ none ∈ statuses (settle again children) := by
  rcases run_cases grace again children with ⟨hnone, hrun⟩ | ⟨-, -, hrun, hbroken⟩ | ⟨-, hrun, hbroken⟩
  · simp [hrun, hnone]
  · simp [hrun, hbroken]
  · simp [hrun, hbroken, statuses_killed, kill]

theorem brokenOff_of_none (grace : Option Rat) (children : List Child) :
    (run grace none children).brokenOff = false := by
  rcases run_cases grace none children with ⟨-, hrun⟩ | ⟨-, hsome, -⟩ | ⟨-, -, hbroken⟩
  · rw [hrun]
  · cases hsome
  · exact hbroken

end Termination

namespace Execution

open Supervision Termination

variable (programs : Programs) (control : Control)

/-- What carrying out a plan comes to is a state of a line, and no process is running where the plan was interrupted. -/
def Supervised (e : Execution) : Prop :=
  (∃ t, Leads true fresh t ∧ t.children = e.children ∧ (e.result = .error (.escape .interrupted) → t.phase = .over)) ∧
    (e.result = .error (.escape .interrupted) → none ∉ e.children)

variable {control}

private theorem supervised_stopped (m : Machine) {stop : Stop} (h : stop ≠ .escape .interrupted) :
    (stopped m stop).Supervised :=
  ⟨⟨fresh, .refl _, rfl, fun he => absurd (Except.error.inj he) h⟩, fun he => absurd (Except.error.inj he) h⟩

private theorem supervised_interrupt (hterminates : control.terminates = true) (m : Machine) (events : List Event)
    (children : List Child) : (interrupt control m events children).Supervised := by
  have hchildren : (interrupt control m events children).children =
      statuses (Termination.run control.patience none children).children := by
    simp [interrupt, hterminates, statuses]
  refine ⟨⟨⟨.over, _⟩, ?_, hchildren.symm, fun _ => rfl⟩, fun _ => ?_⟩
  · exact ((leads_waiting (statuses children)).trans (Step.interruptWaiting rfl).leads).trans
      (leads_run control.patience none children)
  · rw [hchildren, none_mem_run_iff, brokenOff_of_none]
    simp

private theorem supervised_conclude (hterminates : control.terminates = true) (m : Machine) (events : List Event)
    (runs : List (Option Run)) : (conclude control m events runs).Supervised := by
  unfold conclude
  split
  · exact supervised_interrupt hterminates m events _
  · exact ⟨⟨_, leads_waiting _, rfl, nofun⟩, nofun⟩

/-- Processes that were started a moment ago are running. -/
theorem statuses_justStarted {Process : Type} (processes : List Process) :
    statuses (processes.map fun _ => justStarted) = List.replicate processes.length none := by
  unfold statuses
  rw [List.map_map]
  exact List.map_const' ..

/-- A pipeline whose wiring breaks off, be it for an interrupt, has the processes ended that were started for it. -/
private theorem supervised_broken {Process : Type} (m : Machine) (events : List Event) (processes : List Process)
    (cause : Escape) :
    Supervised ⟨m, events,
      (Termination.run control.patience none (processes.map fun _ => justStarted)).children.map (·.ended),
      .error (.escape cause)⟩ := by
  refine ⟨⟨⟨.over, _⟩, ?_, rfl, fun _ => rfl⟩, fun _ => ?_⟩
  · have hrun := leads_run control.patience none (processes.map fun _ => justStarted)
    rw [statuses_justStarted] at hrun
    refine ((leads_starting processes.length).trans ?_).trans hrun
    cases cause with
    | interrupted => exact Step.interruptStarting.leads
    | mishap _ => exact Step.broken.leads
  · change none ∉ statuses _
    rw [none_mem_run_iff, brokenOff_of_none]
    simp

private theorem supervised_single (hterminates : control.terminates = true) (m : Machine) (stage : Stage)
    (input : Stream) (target : Option Handle) : (single programs control m stage input target).Supervised := by
  unfold single
  cases find m stage with
  | error fault => exact supervised_stopped m (by cases fault <;> simp [startStop])
  | ok executable =>
    dsimp only
    split
    · exact supervised_interrupt hterminates _ _ _
    · split <;> exact supervised_conclude hterminates _ _ _

private theorem supervised_withInput (hterminates : control.terminates = true) (m : Machine) (stage : Stage)
    (path : String) : (withInput programs control m stage path).Supervised := by
  unfold withInput
  split
  · exact supervised_stopped m (by simp)
  · exact supervised_stopped m (by simp)
  · exact supervised_single programs hterminates m stage _ _

private theorem supervised_withOutput (hterminates : control.terminates = true) (m : Machine) (stage : Stage)
    (keep : Bool) (path : String) : (withOutput programs control m stage keep path).Supervised := by
  unfold withOutput
  split
  · exact supervised_stopped m (by simp)
  · exact supervised_stopped m (by simp)
  · exact supervised_single programs hterminates _ stage _ _

private theorem supervised_pipeline (hterminates : control.terminates = true) (m : Machine) (stages : List Stage) :
    (pipeline programs control m stages).Supervised := by
  unfold pipeline
  dsimp only
  split
  · next cause _ => exact supervised_broken _ _ _ cause
  · split
    · exact supervised_interrupt hterminates _ _ _
    · exact supervised_conclude hterminates _ _ _

/-- However a plan is carried out, it is one of the runs of a line; and if it is interrupted, no process of it is
running when it is left. -/
theorem supervised_run (hterminates : control.terminates = true) (m : Machine) (plan : Plan) :
    (run programs control m plan).Supervised := by
  cases plan with
  | command stage => exact supervised_single programs hterminates m stage _ _
  | pipeline first second others => exact supervised_pipeline programs hterminates m _
  | redirected stage redirection =>
    obtain ⟨kind, path⟩ := redirection
    cases kind with
    | read => exact supervised_withInput programs hterminates m stage path
    | truncate | append => exact supervised_withOutput programs hterminates m stage _ path

end Execution

namespace Supervision

open Termination

/-- When a line is over, a process that was started for it is running if and only if the line was left for an interrupt
that came while processes had been asked to end, or while a banner was drawn, and the process was running then. Ending
processes is a run of this kind, and leaves one running just if a further interrupt breaks it off; carrying out a plan
is one too, and as long as nobody interrupts again, an interrupted plan leaves none running. -/
theorem outlives_iff (occurrences : List Occurrence) (t : Supervision) (grace again : Option Rat)
    (children : List Child) (programs : Programs) (control : Control) (m : Machine) (plan : Plan) :
    (Runs true fresh occurrences t → t.phase = .over →
      (none ∈ t.children ↔
        ∃ before s, occurrences = before ++ [.interrupt] ∧ Runs true fresh before s ∧
          (s.phase = .asking ∨ s.phase = .drawing) ∧ none ∈ s.children)) ∧
    Leads true (wind (statuses children)) ⟨.over, statuses (Termination.run grace again children).children⟩ ∧
    (none ∈ statuses (Termination.run grace again children).children ↔
      (Termination.run grace again children).brokenOff = true ∧ none ∈ statuses (settle again children)) ∧
    (control.terminates = true →
      (∃ u, Leads true fresh u ∧ u.children = (Execution.run programs control m plan).children ∧
        ((Execution.run programs control m plan).result = .error (.escape .interrupted) → u.phase = .over)) ∧
      ((Execution.run programs control m plan).result = .error (.escape .interrupted) →
        none ∉ (Execution.run programs control m plan).children)) :=
  ⟨fun h hover => h.none_mem_iff hover, leads_run grace again children, none_mem_run_iff grace again children,
    fun hterminates => Execution.supervised_run programs hterminates m plan⟩

/-- The program of a banner outlives the interrupt, and a process that does not end when it is asked to outlives a
second one within the period of grace. -/
theorem not_forall_ended :
    Runs true fresh ([] ++ [.drawingStarted] ++ [.interrupt]) ⟨.over, [none]⟩ ∧
      Runs true fresh ([] ++ [.begins] ++ [.started] ++ [.allStarted] ++ [.interrupt] ++ [.interrupt]) ⟨.over, [none]⟩ ∧
      statuses (Termination.run (some 2) (some 1) [.waiting .ignores]).children = [none] ∧
      ¬ ∀ occurrences t, Runs true fresh occurrences t → t.phase = .over → none ∉ t.children := by
  have hdrawn : Runs true fresh ([] ++ [.drawingStarted] ++ [.interrupt]) ⟨.over, [none]⟩ :=
    (Runs.nil.snoc .drawingStarted).snoc .interruptDrawing
  refine ⟨hdrawn, ?_, by decide +kernel, fun h => h _ _ hdrawn rfl (by simp)⟩
  exact ((((Runs.nil.snoc .begins).snoc .started).snoc .allStarted).snoc (.interruptWaiting rfl)).snoc .interruptAsking

end Supervision

end CommandShell
