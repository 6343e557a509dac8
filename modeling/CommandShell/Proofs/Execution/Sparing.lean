import CommandShell.Proofs.Execution.Signals
import CommandShell.Proofs.Execution.Turns

/-!
# Interrupts that are to spare processes

Where interrupts are not to end processes, a line that waits for them is left without a signal. But the way out of a
pipeline whose stages are still being started asks nobody: whatever breaks it off, an interrupt included, the stages
that run are asked to end, and killed when the period of grace is over. So signals are sent exactly where a line breaks
off in the middle of its starts (`Supervision.Course.sends_iff`), and an interrupt there is like one that is to end
processes (`Supervision.Course.of_starting`). An interrupted plan is one or the other (`Execution.interrupted_cases`).
-/

namespace CommandShell

namespace Supervision

variable {terminates : Bool} {s t u : Supervision} {o : Occurrence} {children : List (Option Status)}
  {l : List Incident}

/-- The occurrence breaks a line off that is starting stages, and one of its processes is running. -/
structure BreaksStart (s : Supervision) (o : Occurrence) : Prop where
  breaks : o = .interrupt ∨ o = .broken
  starting : s.phase = .starting
  running : none ∈ s.children

/-- The processes of a line have been asked to end, and it waits for that. -/
def Winding (s : Supervision) : Prop := s.phase = .asking ∨ s.phase = .killing

theorem winding_wind_iff : (wind children).Winding ↔ none ∈ children := by
  unfold Winding wind
  split <;> simp_all

/-- A line that spares its processes sends signals only if it breaks off in the middle of its starts. -/
theorem Step.signals_eq_nil_iff (h : Step false s o t) (hs : ¬ s.Winding) :
    signals false s o = [] ↔ ¬ s.BreaksStart o := by
  have hrunning : ∀ {children : List (Option Status)}, (running children).map (·, Signal.terminate) = [] ↔
      none ∉ children := fun {_} => List.map_eq_nil_iff.trans running_eq_nil_iff
  cases h with
  | broken | interruptStarting =>
    simp only [signals, true_or, if_true, hrunning]
    exact ⟨fun hnone hbreaks => hnone hbreaks.running, fun hnot hmem => hnot ⟨by simp, rfl, hmem⟩⟩
  | graceOver => exact absurd (.inl rfl) hs
  | begins | started | refused | allStarted | drawingStarted | ended | waited | drawn | asked | killed | finished =>
    exact ⟨fun _ hbreaks => by simpa using hbreaks.breaks, fun _ => rfl⟩
  | interruptBetween | interruptIgnored | interruptDrawing | interruptKilling | interruptAsking =>
    exact ⟨fun _ hbreaks => by simpa using hbreaks.starting, fun _ => by simp [signals]⟩
  | interruptWaiting htrue => cases htrue

/-- Only breaking off in the middle of its starts makes such a line wait for its processes to end. -/
theorem Step.winding_iff (h : Step false s o t) (hs : ¬ s.Winding) : t.Winding ↔ s.BreaksStart o := by
  cases h with
  | broken | interruptStarting =>
    rw [winding_wind_iff]
    exact ⟨fun hmem => ⟨by simp, rfl, hmem⟩, fun hbreaks => hbreaks.running⟩
  | ended =>
    exact ⟨fun ht => absurd ht hs, fun hbreaks => by simpa using hbreaks.breaks⟩
  | graceOver => exact absurd (.inl rfl) hs
  | begins | started | refused | allStarted | drawingStarted | waited | drawn | asked | killed | finished =>
    exact ⟨fun ht => by simp [Winding] at ht, fun hbreaks => by simpa using hbreaks.breaks⟩
  | interruptBetween | interruptIgnored | interruptDrawing | interruptKilling | interruptAsking =>
    exact ⟨fun ht => by simp [Winding] at ht, fun hbreaks => by simpa using hbreaks.starting⟩
  | interruptWaiting htrue => cases htrue

theorem sent_mem_incidents_iff :
    (∃ n signal, .sent n signal ∈ incidents terminates s o) ↔ signals terminates s o ≠ [] := by
  constructor
  · rintro ⟨n, signal, hmem⟩
    obtain ⟨sent, hsent, -⟩ := List.mem_map.1 (List.mem_of_ne_of_mem (by simp) hmem)
    exact List.ne_nil_of_mem hsent
  · intro hne
    obtain ⟨⟨n, signal⟩, hmem⟩ := List.exists_mem_of_ne_nil _ hne
    exact ⟨n, signal, List.mem_cons_of_mem _ (List.mem_map.2 ⟨_, hmem, rfl⟩)⟩

/-- A line that spares its processes sends a signal exactly if it breaks off in the middle of its starts. -/
theorem Course.sends_iff (h : Course false s l u) (hs : ¬ s.Winding) :
    (∃ n signal, .sent n signal ∈ l) ↔
      ∃ before r o t after, Course false s before r ∧ r.BreaksStart o ∧ Step false r o t ∧ Course false t after u ∧
        l = before ++ (incidents false r o ++ after) := by
  constructor
  · -- Up to the break no processes are waited for that have been asked to end, so the induction is from the front.
    induction h with
    | nil => simp
    | @cons s t u o rest hstep hrest ih =>
      rintro ⟨n, signal, hmem⟩
      by_cases hbreaks : s.BreaksStart o
      · exact ⟨[], s, o, t, rest, .nil, hbreaks, hstep, hrest, rfl⟩
      · have hnone : ¬ ∃ n signal, .sent n signal ∈ incidents false s o := by
          rw [sent_mem_incidents_iff, not_not]
          exact (hstep.signals_eq_nil_iff hs).2 hbreaks
        have hlater := (List.mem_append.1 hmem).resolve_left fun hnow => hnone ⟨n, signal, hnow⟩
        obtain ⟨before, r, o', t', after, hbefore, hr, hstep', hafter, rfl⟩ :=
          ih (fun ht => hbreaks ((hstep.winding_iff hs).1 ht)) ⟨n, signal, hlater⟩
        exact ⟨_, r, o', t', after, .cons hstep hbefore, hr, hstep', hafter, (List.append_assoc ..).symm⟩
  · rintro ⟨before, r, o, t, after, -, hbreaks, hstep, -, rfl⟩
    have hnotWinding : ¬ r.Winding := by simp [Winding, hbreaks.starting]
    obtain ⟨n, signal, hmem⟩ := sent_mem_incidents_iff.2 fun hnil =>
      (hstep.signals_eq_nil_iff hnotWinding).1 hnil hbreaks
    exact ⟨n, signal, List.mem_append_right _ (List.mem_append_left _ hmem)⟩

/-- An interrupt that comes while stages are started does what one does that is to end processes. -/
theorem incidents_starting (terminates : Bool) (children : List (Option Status)) :
    incidents terminates ⟨.starting, children⟩ .interrupt = incidents true ⟨.waiting, children⟩ .interrupt := by
  simp [incidents, signals]

theorem Course.of_starting (h : Course terminates ⟨.starting, children⟩ l u)
    (hhead : l.head? = some (.happened .interrupt)) (honce : l.count (.happened .interrupt) = 1)
    (hover : u.phase = .over) : Disciplined children l ∧ none ∉ u.children := by
  obtain ⟨t, rest, hstep, h, rfl, hnone⟩ := h.of_interrupt hhead honce
  cases hstep with
  | interruptStarting =>
    obtain ⟨exits, left, parting, hexits, hparting, rfl⟩ := h.of_wind hover hnone
    rw [incidents_starting]
    exact ⟨disciplined_of_shape hexits hparting rfl, hparting.none_notMem⟩

end Supervision

namespace Execution

open Supervision Termination

variable {programs : Programs} {control : Control} {m : Machine}

private theorem conclude_interrupted {events : List Event} {runs : List (Option Run)} {e : Escape}
    (h : (conclude control m events runs).result = .error (.escape e)) :
    ∃ children, conclude control m events runs = interrupt control m events children := by
  unfold conclude at h ⊢
  split at h
  · exact ⟨_, rfl⟩
  · cases h

private theorem single_interrupted {stage : Stage} {input : Stream} {target : Option Handle}
    (h : (single programs control m stage input target).result = .error (.escape .interrupted)) :
    ∃ m' events children, single programs control m stage input target = interrupt control m' events children := by
  unfold single at h ⊢
  split at h
  · next fault _ => cases fault <;> simp [stopped, startStop] at h
  · dsimp only at h ⊢
    split at h
    · next hinterrupted =>
      rw [if_pos hinterrupted]
      exact ⟨_, _, _, rfl⟩
    · next hinterrupted =>
      rw [if_neg hinterrupted]
      split at h
      · exact ⟨_, _, conclude_interrupted h⟩
      · exact ⟨_, _, conclude_interrupted h⟩

private theorem withInput_interrupted {stage : Stage} {path : String}
    (h : (withInput programs control m stage path).result = .error (.escape .interrupted)) :
    ∃ m' events children, withInput programs control m stage path = interrupt control m' events children := by
  unfold withInput at h ⊢
  split at h
  · simp [stopped] at h
  · simp [stopped] at h
  · exact single_interrupted h

private theorem withOutput_interrupted {stage : Stage} {keep : Bool} {path : String}
    (h : (withOutput programs control m stage keep path).result = .error (.escape .interrupted)) :
    ∃ m' events children, withOutput programs control m stage keep path = interrupt control m' events children := by
  unfold withOutput at h ⊢
  split at h
  · simp [stopped] at h
  · simp [stopped] at h
  · exact single_interrupted h

private theorem pipeline_interrupted {stages : List Stage}
    (h : (pipeline programs control m stages).result = .error (.escape .interrupted)) :
    (∃ m' events children, pipeline programs control m stages = interrupt control m' events children) ∨
      (wiring m stages).broken = some .interrupted := by
  cases hbroken : (wiring m stages).broken with
  | some cause =>
    rw [(pipeline_of_broken programs control hbroken).1] at h
    obtain rfl : cause = .interrupted := by simpa using h
    exact .inr rfl
  | none =>
    refine .inl ?_
    obtain ⟨interruptedLast, m', m'', events, events', children, runs, hrun⟩ :
        ∃ (interruptedLast : Bool) (m' m'' : Machine) (events events' : List Event) (children : List Child)
          (runs : List (Option Run)), pipeline programs control m stages =
            if interruptedLast = true then interrupt control m' events children
            else conclude control m'' events' runs := by
      unfold wiring at hbroken
      unfold pipeline
      dsimp only
      rw [hbroken]
      exact ⟨_, _, _, _, _, _, _, rfl⟩
    rw [hrun] at h ⊢
    cases interruptedLast with
    | true => exact ⟨_, _, _, rfl⟩
    | false => exact ⟨_, _, conclude_interrupted h⟩

/-- A plan is interrupted while it waits for its processes, or while the stages of a pipeline are being started. -/
theorem interrupted_cases {plan : Plan} (h : (run programs control m plan).result = .error (.escape .interrupted)) :
    (∃ m' events children, run programs control m plan = interrupt control m' events children) ∨
      ∃ first second others, plan = .pipeline first second others ∧
        (wiring m (first :: second :: others)).broken = some .interrupted := by
  cases plan with
  | command stage => exact .inl (single_interrupted h)
  | pipeline first second others => exact (pipeline_interrupted h).imp_right fun hbroken => ⟨_, _, _, rfl, hbroken⟩
  | redirected stage redirection =>
    obtain ⟨kind, path⟩ := redirection
    cases kind with
    | read => exact .inl (withInput_interrupted h)
    | truncate | append => exact .inl (withOutput_interrupted h)

/-- Where interrupts are not to end processes, a line sends a signal exactly if it breaks off while it starts stages and
one that it has started is running. An interrupt that comes then is treated like one that is to end processes: every
process that is running is asked to end, and killed if it has not ended when the period of grace is over, and none is
left running. One that comes while the processes are waited for sends nothing, and leaves them as they are. An
interrupted plan is one or the other, and stops for the interrupt in both cases: it has come to wait for its processes,
or it is a pipeline of which not all stages have been started; and then each that has been is asked to end. -/
theorem interrupt_spares (grace : Binary64) (programs : Programs) (m : Machine) (plan : Plan) :
    (∀ l u, Course false fresh l u →
      ((∃ n signal, .sent n signal ∈ l) ↔
        ∃ before s o t after, Course false fresh before s ∧ s.BreaksStart o ∧ Step false s o t ∧
          Course false t after u ∧ l = before ++ (incidents false s o ++ after))) ∧
    (∀ children l u, Course false ⟨.starting, children⟩ l u → l.head? = some (.happened .interrupt) →
      l.count (.happened .interrupt) = 1 → u.phase = .over → Disciplined children l ∧ none ∉ u.children) ∧
    (∀ children l u, Course false ⟨.waiting, children⟩ l u → l.head? = some (.happened .interrupt) →
      u.phase = .over → l = [.happened .interrupt] ∧ u.children = children) ∧
    ((run programs ⟨false, grace⟩ m plan).result = .error (.escape .interrupted) →
      (∃ m' events children, run programs ⟨false, grace⟩ m plan = interrupt ⟨false, grace⟩ m' events children) ∨
        ∃ first second others, plan = .pipeline first second others ∧
          (wiring m (first :: second :: others)).broken = some .interrupted) ∧
    (∀ m' events children, (interrupt ⟨false, grace⟩ m' events children).result = .error (.escape .interrupted) ∧
      (interrupt ⟨false, grace⟩ m' events children).children = statuses children ∧
      interruptSignals ⟨false, grace⟩ children = []) ∧
    ∀ stages, (wiring m stages).broken = some .interrupted →
      ∃ started : List Child, started.length = ((wiring m stages).processes.filterMap id).length ∧
        (pipeline programs ⟨false, grace⟩ m stages).result = .error (.escape .interrupted) ∧
        (pipeline programs ⟨false, grace⟩ m stages).children =
          statuses (Termination.run grace.toRat? none started).children ∧
        (∀ n < started.length, (Termination.run grace.toRat? none started).signals.count (n, .terminate) = 1) ∧
        none ∉ (pipeline programs ⟨false, grace⟩ m stages).children := by
  refine ⟨fun l u h => h.sends_iff (by simp [Winding, fresh]), fun children l u h => h.of_starting,
    fun children l u h => h.of_ignored, interrupted_cases, fun m' events children => ⟨rfl, rfl, rfl⟩, ?_⟩
  intro stages hbroken
  obtain ⟨hresult, hchildren⟩ := pipeline_of_broken programs ⟨false, grace⟩ hbroken
  refine ⟨_, List.length_map _, hresult, hchildren, fun n hn => ?_, ?_⟩
  · rw [List.length_map] at hn
    rw [count_terminate, statuses_justStarted, if_pos (List.getElem?_replicate_of_lt hn)]
  · rw [hchildren]
    change none ∉ statuses _
    rw [none_mem_run_iff, brokenOff_of_none]
    simp

end Execution

namespace Supervision

/-- A stage that was started is asked to end by an interrupt that comes before the next one is started, though
interrupts are not to end processes. -/
theorem interrupt_ends_started :
    Course false fresh [.happened .begins, .happened .started, .happened .interrupt, .sent 0 .terminate,
        .happened (.ended 0 (.killed 15)), .happened .completed] ⟨.over, [some (.killed 15)]⟩ ∧
      ¬ ∀ l u, Course false fresh l u → ∀ n signal, .sent n signal ∉ l := by
  have hcourse : Course false fresh [.happened .begins, .happened .started, .happened .interrupt, .sent 0 .terminate,
      .happened (.ended 0 (.killed 15)), .happened .completed] ⟨.over, [some (.killed 15)]⟩ :=
    .cons .begins (.cons .started (.cons .interruptStarting
      (.cons (.ended (by decide) rfl (.killed 15)) (.cons (.asked (by decide)) .nil))))
  exact ⟨hcourse, fun h => h _ _ hcourse 0 .terminate (by simp)⟩

end Supervision

end CommandShell
