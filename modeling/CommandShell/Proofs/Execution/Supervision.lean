import CommandShell.Execution.Executor
import Mathlib.Data.List.Infix

/-!
# The processes of a line

While a line is being run, its processes come and go, the user may interrupt at any time and as often as they like, and
periods of grace run out. What can come of this is said by `Supervision.Step`; time is left out, so that every order of
events is a run. When a line goes on to something else, the processes that it has waited for have ended
(`Supervision.Settled`). A process outlives its line only if the interrupt that ends the line comes while an earlier one
is still being dealt with, or while a banner is drawn (`Supervision.Runs.none_mem_iff`).
-/

namespace CommandShell

/-- What a line that is being run is about. -/
inductive Phase where
  /-- It is between two plans, or runs a built-in that has no process. -/
  | between
  /-- It starts the stages of a plan. -/
  | starting
  /-- It waits for the processes of a plan, and for what they write. -/
  | waiting
  /-- It has asked the processes to end, and waits for the period of grace. -/
  | asking
  /-- It has killed the processes. -/
  | killing
  /-- It waits for the program that draws a banner. -/
  | drawing
  /-- It is over, and the user is asked for the next. -/
  | over
deriving DecidableEq, Repr

/-- A line that is being run, and the status of each process that was started for it; none if it is running. -/
structure Supervision where
  phase : Phase
  children : List (Option Status)
deriving DecidableEq, Repr

/-- What can happen to a line. -/
inductive Occurrence where
  /-- It comes to a plan for programs. -/
  | begins
  | started
  /-- No stage could be started, and the line goes on. -/
  | refused
  /-- A start breaks off, and with it the line. -/
  | broken
  | allStarted
  /-- It comes to a banner, and the program that draws it is started. -/
  | drawingStarted
  | ended (child : Nat) (status : Status)
  /-- Everything that is waited for has come. -/
  | completed
  | graceOver
  | interrupt
  /-- Nothing is left of the line to do. -/
  | finished
deriving DecidableEq, Repr

namespace Supervision

/-- A line for which nothing has been started yet. -/
def fresh : Supervision := ⟨.between, []⟩

/-- A line that is left, but not before the processes that are running have been asked to end. -/
def wind (children : List (Option Status)) : Supervision := ⟨if none ∈ children then .asking else .over, children⟩

/-- What becomes of processes when those that are running are killed. -/
def kill (children : List (Option Status)) : List (Option Status) :=
  children.map fun child => some (child.getD (.killed Status.killSignal))

/-- What an occurrence may lead to. If interrupts do not end processes, `terminates` is false. -/
inductive Step (terminates : Bool) : Supervision → Occurrence → Supervision → Prop
  | begins {children} : Step terminates ⟨.between, children⟩ .begins ⟨.starting, children⟩
  | started {children} : Step terminates ⟨.starting, children⟩ .started ⟨.starting, children ++ [none]⟩
  | refused {children} (h : none ∉ children) : Step terminates ⟨.starting, children⟩ .refused ⟨.between, children⟩
  | broken {children} : Step terminates ⟨.starting, children⟩ .broken (wind children)
  | allStarted {children} : Step terminates ⟨.starting, children⟩ .allStarted ⟨.waiting, children⟩
  | drawingStarted {children} :
    Step terminates ⟨.between, children⟩ .drawingStarted ⟨.drawing, children ++ [none]⟩
  | ended {phase children child} (hphase : phase ≠ .over) (h : children[child]? = some none) (status : Status) :
    Step terminates ⟨phase, children⟩ (.ended child status) ⟨phase, children.set child (some status)⟩
  | waited {children} (h : none ∉ children) : Step terminates ⟨.waiting, children⟩ .completed ⟨.between, children⟩
  | drawn {children} (h : none ∉ children) : Step terminates ⟨.drawing, children⟩ .completed ⟨.between, children⟩
  | asked {children} (h : none ∉ children) : Step terminates ⟨.asking, children⟩ .completed ⟨.over, children⟩
  | killed {children} (h : none ∉ children) : Step terminates ⟨.killing, children⟩ .completed ⟨.over, children⟩
  | graceOver {children} : Step terminates ⟨.asking, children⟩ .graceOver ⟨.killing, kill children⟩
  | finished {children} : Step terminates ⟨.between, children⟩ .finished ⟨.over, children⟩
  | interruptBetween {children} : Step terminates ⟨.between, children⟩ .interrupt ⟨.over, children⟩
  /-- A stage that is being started when the interrupt comes is ended at once, and counts as never started. -/
  | interruptStarting {children} : Step terminates ⟨.starting, children⟩ .interrupt (wind children)
  | interruptWaiting {children} (h : terminates = true) :
    Step terminates ⟨.waiting, children⟩ .interrupt (wind children)
  | interruptIgnored {children} (h : terminates = false) :
    Step terminates ⟨.waiting, children⟩ .interrupt ⟨.over, children⟩
  | interruptAsking {children} : Step terminates ⟨.asking, children⟩ .interrupt ⟨.over, children⟩
  | interruptKilling {children} : Step terminates ⟨.killing, children⟩ .interrupt ⟨.over, children⟩
  | interruptDrawing {children} : Step terminates ⟨.drawing, children⟩ .interrupt ⟨.over, children⟩

/-- What a sequence of occurrences may lead to. -/
inductive Runs (terminates : Bool) (s : Supervision) : List Occurrence → Supervision → Prop
  | nil : Runs terminates s [] s
  | snoc {occurrences o t u} (h : Runs terminates s occurrences t) (hstep : Step terminates t o u) :
    Runs terminates s (occurrences ++ [o]) u

/-- Between two plans no process is running, nor when all have been killed. -/
def Settled (s : Supervision) : Prop := s.phase = .between ∨ s.phase = .killing → none ∉ s.children

variable {terminates : Bool} {s t u : Supervision} {o : Occurrence} {occurrences : List Occurrence}

theorem settled_fresh : fresh.Settled := fun _ => List.not_mem_nil

theorem phase_wind_eq_over_iff {children : List (Option Status)} : (wind children).phase = .over ↔ none ∉ children := by
  unfold wind
  dsimp only
  split <;> simp_all

theorem settled_wind (children : List (Option Status)) : (wind children).Settled := by
  unfold wind Settled
  dsimp only
  split <;> simp

/-- Once none of some processes is running, none will be when another has ended. -/
theorem notMem_set {children : List (Option Status)} (h : none ∉ children) (child : Nat) (status : Status) :
    none ∉ children.set child (some status) := by
  intro hmem
  rcases List.mem_or_eq_of_mem_set hmem with hmem | heq
  · exact h hmem
  · cases heq

theorem Settled.step (hs : s.Settled) (h : Step terminates s o t) : t.Settled := by
  cases h with
  | begins | started | allStarted | drawingStarted | asked | killed | finished | interruptBetween | interruptIgnored
  | interruptAsking | interruptKilling | interruptDrawing => simp [Settled]
  | refused h | waited h | drawn h => exact fun _ => h
  | broken | interruptStarting | interruptWaiting => exact settled_wind _
  | ended hphase h status => exact fun hphase => notMem_set (hs hphase) _ _
  | graceOver => simp [Settled, kill]

/-- Only an interrupt leaves a process running when a line is left, and only one that comes while processes have been
asked to end, or while a banner is drawn. -/
theorem Step.outlives (h : Step true s o t) (hs : s.Settled) (hover : t.phase = .over) (hrunning : none ∈ t.children) :
    o = .interrupt ∧ (s.phase = .asking ∨ s.phase = .drawing) ∧ s.children = t.children := by
  cases h with
  | begins | started | refused | allStarted | drawingStarted | waited | drawn | graceOver => cases hover
  | ended hphase => exact absurd hover hphase
  | broken | interruptStarting | interruptWaiting =>
    -- The line is not left before the processes that are running have been asked to end.
    exact absurd hrunning (phase_wind_eq_over_iff.1 hover)
  | asked h | killed h => exact absurd hrunning h
  | finished | interruptBetween => exact absurd hrunning (hs (.inl rfl))
  | interruptKilling => exact absurd hrunning (hs (.inr rfl))
  | interruptIgnored h => cases h
  | interruptAsking => exact ⟨rfl, .inl rfl, rfl⟩
  | interruptDrawing => exact ⟨rfl, .inr rfl, rfl⟩

theorem Runs.settled (h : Runs terminates s occurrences t) (hs : s.Settled) : t.Settled := by
  induction h with
  | nil => exact hs
  | snoc _ hstep ih => exact ih.step hstep

theorem Runs.trans {more : List Occurrence} (h : Runs terminates s occurrences t) (h' : Runs terminates t more u) :
    Runs terminates s (occurrences ++ more) u := by
  induction h' with
  | nil => simpa using h
  | snoc _ hstep ih =>
    rw [← List.append_assoc]
    exact ih.snoc hstep

theorem Runs.single (h : Step terminates s o t) : Runs terminates s [o] t := Runs.nil.snoc h

theorem Step.unique (h : Step terminates s o t) (h' : Step terminates s o u) : t = u := by
  cases h with
  | ended hphase h status => cases h'; rfl
  | interruptWaiting h | interruptIgnored h => cases h' <;> simp_all
  | _ => cases h'; rfl

theorem Runs.unique (h : Runs terminates s occurrences t) (h' : Runs terminates s occurrences u) : t = u := by
  induction h generalizing u with
  | nil =>
    generalize hnil : ([] : List Occurrence) = os at h'
    cases h' with
    | nil => rfl
    | snoc => simp at hnil
  | @snoc os o _ _ _ hstep ih =>
    generalize hsnoc : os ++ [o] = os' at h'
    cases h' with
    | nil => simp at hsnoc
    | snoc hbefore hstep' =>
      obtain ⟨rfl, rfl⟩ := List.append_singleton_inj.1 hsnoc
      obtain rfl := ih hbefore
      exact hstep.unique hstep'

/-- A process is running when its line is over if and only if it has outlived an interrupt: one that came while another
was being dealt with, or while a banner was drawn. -/
theorem Runs.none_mem_iff (h : Runs true fresh occurrences t) (hover : t.phase = .over) :
    none ∈ t.children ↔
      ∃ before s, occurrences = before ++ [.interrupt] ∧ Runs true fresh before s ∧
        (s.phase = .asking ∨ s.phase = .drawing) ∧ none ∈ s.children := by
  cases h with
  | nil => cases hover
  | @snoc before o s _ hbefore hstep =>
    constructor
    · intro hrunning
      obtain ⟨rfl, hphase, hchildren⟩ := hstep.outlives (hbefore.settled settled_fresh) hover hrunning
      exact ⟨before, s, rfl, hbefore, hphase, hchildren ▸ hrunning⟩
    · rintro ⟨before', s', heq, hbefore', -, hrunning⟩
      obtain ⟨rfl, rfl⟩ := List.append_singleton_inj.1 heq
      obtain rfl := hbefore.unique hbefore'
      -- The interrupt leaves the processes as they are.
      cases hstep <;> exact hrunning

end Supervision

end CommandShell
