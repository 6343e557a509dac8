import CommandShell.Execution.Executor
import Mathlib.Data.List.Infix

/-!
# The turns of the stages of a pipeline

What a stage's turn adds to the steps of a wiring is told in advance, from what happens at the stage and whether it is
the last (`Wiring.turn`). The turns of the stages follow one another (`Wiring.wire_eq_after`) until the last is over
(`Wiring.wire_of_no_break`) or one of them breaks off (`Wiring.wire_of_break`).
-/

namespace CommandShell

/-- The pipe that an end belongs to. -/
def PipeEnd.pipe : PipeEnd → Nat
  | reading pipe => pipe
  | writing pipe => pipe

namespace Wiring

variable {Process Cause : Type}

/-! ### The turns of the stages -/

/-- The end that is held when a stage's turn comes: that of the pipe before it. After the last stage there is none. -/
def heldAt (stages : Nat) : Nat → Option PipeEnd
  | 0 => none
  | stage + 1 => if stage + 1 = stages then none else some (.reading stage)

@[simp] theorem heldAt_succ (stages stage : Nat) :
    heldAt stages (stage + 1) = if stage + 1 = stages then none else some (.reading stage) := rfl

/-- The end that a stage is to write to: that of its own pipe. The last stage has none. -/
def outputAt (stages stage : Nat) : Option PipeEnd := if stage + 1 = stages then none else some (.writing stage)

/-- What breaks when the pipe of a stage is made; none is made for the last stage. -/
def pipeBreak (happens : Nat → Happening Process Cause) (stages stage : Nat) : Option Cause :=
  if stage + 1 = stages then none else (happens stage).pipe

/-- What breaks when a stage is started. -/
def startBreak (h : Happening Process Cause) : Option Cause :=
  match h.start with
  | .broken cause => some cause
  | .refused _ => h.report
  | .started _ => none

/-- What breaks at a stage. -/
def breakAt (happens : Nat → Happening Process Cause) (stages stage : Nat) : Option Cause :=
  (pipeBreak happens stages stage).or (startBreak (happens stage))

/-- The process of a stage, if it has one. -/
def processOf (h : Happening Process Cause) : Option Process :=
  match h.start with
  | .started process => some process
  | _ => none

/-- The pumps for the streams of a stage. -/
def pumpsAt (happens : Nat → Happening Process Cause) (stages stage : Nat) : List Pump :=
  match (happens stage).start with
  | .started _ => .errors stage :: if stage + 1 = stages then [.output stage] else []
  | _ => []

/-- A refusal is reported. -/
def reports (h : Happening Process Cause) (stage : Nat) : List WiringStep :=
  match h.start with
  | .refused _ => [.reported stage]
  | _ => []

/-- The steps of a stage's turn, from its pipe to the closing of the ends that were needed to start it. -/
def turn (happens : Nat → Happening Process Cause) (stages stage : Nat) : List WiringStep :=
  (if stage + 1 = stages then [] else [.opened stage]) ++
    .tried stage (heldAt stages stage) (outputAt stages stage) ::
      (reports (happens stage) stage ++ close (heldAt stages stage) ++ close (outputAt stages stage))

/-- The steps of a turn that breaks off, up to the closing of what is still held. -/
def lastTurn (happens : Nat → Happening Process Cause) (stages stage : Nat) : List WiringStep :=
  match pipeBreak happens stages stage with
  | some _ => close (heldAt stages stage)
  | none => turn happens stages stage ++ close (heldAt stages (stage + 1))

/-- The steps of the first turns. -/
def turns (happens : Nat → Happening Process Cause) (stages count : Nat) : List WiringStep :=
  (List.range count).flatMap (turn happens stages)

/-- The processes of the first stages. -/
def processesOf (happens : Nat → Happening Process Cause) (count : Nat) : List (Option Process) :=
  (List.range count).map fun stage => processOf (happens stage)

/-- The pumps for the streams of the first stages. -/
def pumpsOf (happens : Nat → Happening Process Cause) (stages count : Nat) : List Pump :=
  (List.range count).flatMap (pumpsAt happens stages)

@[simp] theorem after_nil (w : Wiring Process Cause) : w.after [] = w := rfl

theorem after_after (w : Wiring Process Cause) (xs ys : List WiringStep) :
    (w.after ys).after xs = w.after (xs ++ ys) := by
  simp [after]

section Turn

variable {happens : Nat → Happening Process Cause} {stages stage : Nat} {processes : List (Option Process)}
  {pumps : List Pump}

/-- A turn that does not break off is followed by those of the other stages. -/
theorem wireFrom_of_no_break (hstage : stage < stages) (h : breakAt happens stages stage = none) :
    wireFrom happens stage (heldAt stages stage) processes pumps (stages - stage) =
      (wireFrom happens (stage + 1) (heldAt stages (stage + 1)) (processes ++ [processOf (happens stage)])
        (pumps ++ pumpsAt happens stages stage) (stages - (stage + 1))).after (turn happens stages stage) := by
  obtain ⟨remaining, hremaining⟩ : ∃ n, stages - stage = n + 1 := ⟨stages - stage - 1, by omega⟩
  have hrest : stages - (stage + 1) = remaining := by omega
  have hlast : remaining = 0 ↔ stage + 1 = stages := by omega
  obtain ⟨hpipe, hstart⟩ := Option.or_eq_none_iff.1 h
  unfold pipeBreak at hpipe
  unfold startBreak at hstart
  rw [hremaining, hrest, wireFrom]
  simp only [hlast, hpipe]
  unfold turn reports processOf pumpsAt outputAt
  cases hs : (happens stage).start with
  | started process => simp
  | refused fault =>
    simp only [hs] at hstart
    simp [hstart]
  | broken cause => simp [hs] at hstart

/-- A turn that breaks off ends the wiring. -/
theorem wireFrom_of_break (hstage : stage < stages) {cause : Cause} (h : breakAt happens stages stage = some cause) :
    wireFrom happens stage (heldAt stages stage) processes pumps (stages - stage) =
      ⟨lastTurn happens stages stage ++ [.dropped pumps, .ended], processes, pumps, some cause⟩ := by
  obtain ⟨remaining, hremaining⟩ : ∃ n, stages - stage = n + 1 := ⟨stages - stage - 1, by omega⟩
  have hlast : remaining = 0 ↔ stage + 1 = stages := by omega
  rw [hremaining, wireFrom]
  unfold breakAt at h
  unfold lastTurn
  simp only [hlast]
  change (match pipeBreak happens stages stage with | some cause => _ | none => _) = _
  cases hpipe : pipeBreak happens stages stage with
  | some cause' =>
    obtain rfl : cause' = cause := by simpa [hpipe] using h
    simp [unwind]
  | none =>
    simp only [hpipe, Option.none_or] at h
    unfold startBreak at h
    unfold turn reports outputAt
    cases hs : (happens stage).start with
    | started process => simp [hs] at h
    | refused fault =>
      simp only [hs] at h
      simp [h, unwind, after]
    | broken cause' =>
      obtain rfl : cause' = cause := by simpa [hs] using h
      simp [unwind, after]

end Turn

section Wire

variable (happens : Nat → Happening Process Cause) {stages : Nat}

/-- As long as no turn breaks off, the turns follow one another, and at the head of each the loop goes on with the end
that is held there. -/
theorem wire_eq_after {count : Nat} (hcount : count ≤ stages)
    (h : ∀ stage < count, breakAt happens stages stage = none) :
    wire happens stages =
      (wireFrom happens count (heldAt stages count) (processesOf happens count) (pumpsOf happens stages count)
        (stages - count)).after (turns happens stages count) := by
  induction count with
  | zero => rfl
  | succ count ih =>
    have hrest : ∀ stage < count, breakAt happens stages stage = none := fun stage hs => h stage (by omega)
    rw [ih (by omega) hrest, wireFrom_of_no_break (by omega) (h count (by omega)), after_after]
    simp [turns, processesOf, pumpsOf, List.range_succ]

theorem wire_of_no_break (h : ∀ stage < stages, breakAt happens stages stage = none) :
    wire happens stages =
      ⟨turns happens stages stages, processesOf happens stages, pumpsOf happens stages stages, none⟩ := by
  rw [wire_eq_after happens le_rfl h, Nat.sub_self]
  simp [wireFrom, after]

theorem wire_of_break {stage : Nat} (hstage : stage < stages) {cause : Cause}
    (hbefore : ∀ earlier < stage, breakAt happens stages earlier = none)
    (h : breakAt happens stages stage = some cause) :
    wire happens stages =
      ⟨turns happens stages stage ++
          (lastTurn happens stages stage ++ [.dropped (pumpsOf happens stages stage), .ended]),
        processesOf happens stage, pumpsOf happens stages stage, some cause⟩ := by
  rw [wire_eq_after happens hstage.le hbefore, wireFrom_of_break hstage h]
  rfl

/-- Either no turn breaks off, or one does before all others. -/
theorem exists_first_break (f : Nat → Option Cause) (count : Nat) :
    (∀ stage < count, f stage = none) ∨
      ∃ stage < count, ∃ cause, (∀ earlier < stage, f earlier = none) ∧ f stage = some cause := by
  induction count with
  | zero => exact .inl fun stage hs => absurd hs (Nat.not_lt_zero _)
  | succ count ih =>
    rcases ih with hnone | ⟨stage, hs, cause, hbefore, hcause⟩
    · cases hlast : f count with
      | none => exact .inl fun stage hs => (Nat.lt_succ_iff_lt_or_eq.1 hs).elim (hnone stage) fun he => he ▸ hlast
      | some cause => exact .inr ⟨count, Nat.lt_succ_self _, cause, hnone, hlast⟩
    · exact .inr ⟨stage, hs.trans (Nat.lt_succ_self _), cause, hbefore, hcause⟩

end Wire

/-! ### What a turn may do -/

section Steps

variable (happens : Nat → Happening Process Cause) (stages : Nat)

/-- A step that a turn may take: an attempt is given the ends of its stage, and nothing is dropped or ended. -/
def IsTurnStep : WiringStep → Prop
  | .opened _ | .reported _ | .closed _ => True
  | .tried stage input output => input = heldAt stages stage ∧ output = outputAt stages stage
  | .dropped _ | .ended => False

theorem isTurnStep_close (o : Option PipeEnd) : ∀ step ∈ close o, IsTurnStep stages step := by
  cases o <;> simp [close, IsTurnStep]

theorem isTurnStep_turn (stage : Nat) : ∀ step ∈ turn happens stages stage, IsTurnStep stages step := by
  have hreports : ∀ step ∈ reports (happens stage) stage, IsTurnStep stages step := by
    unfold reports
    split <;> simp [IsTurnStep]
  unfold turn
  simp only [List.forall_mem_append, List.forall_mem_cons]
  refine ⟨?_, ⟨rfl, rfl⟩, ⟨hreports, isTurnStep_close stages _⟩, isTurnStep_close stages _⟩
  split <;> simp [IsTurnStep]

theorem isTurnStep_turns (count : Nat) : ∀ step ∈ turns happens stages count, IsTurnStep stages step := by
  intro step hmem
  obtain ⟨stage, -, hstep⟩ := List.mem_flatMap.1 hmem
  exact isTurnStep_turn happens stages stage step hstep

theorem isTurnStep_lastTurn (stage : Nat) :
    ∀ step ∈ lastTurn happens stages stage, IsTurnStep stages step := by
  unfold lastTurn
  split
  · exact isTurnStep_close stages _
  · exact List.forall_mem_append.2 ⟨isTurnStep_turn happens stages stage, isTurnStep_close stages _⟩

theorem notMem_of_isTurnStep {steps : List WiringStep} (h : ∀ step ∈ steps, IsTurnStep stages step) :
    .ended ∉ steps ∧ ∀ pumps, .dropped pumps ∉ steps := ⟨fun hmem => h _ hmem, fun _ hmem => h _ hmem⟩

theorem stage_of_tried {stage stage' : Nat} {input output : Option PipeEnd}
    (h : .tried stage input output ∈ turn happens stages stage') : stage = stage' := by
  have hreports : .tried stage input output ∉ reports (happens stage') stage' := by
    unfold reports
    split <;> simp
  have hclose (o : Option PipeEnd) : .tried stage input output ∉ close o := by cases o <;> simp [close]
  have hopened : .tried stage input output ∉
      if stage' + 1 = stages then [] else [WiringStep.opened stage'] := by split <;> simp
  simp only [turn, List.mem_append, List.mem_cons, hopened, hreports, hclose, WiringStep.tried.injEq, or_false,
    false_or] at h
  exact h.1

/-- An attempt to start a stage is given the end that is held and the writing end of the stage's own pipe. -/
theorem ends_of_tried {stage : Nat} {input output : Option PipeEnd}
    (h : .tried stage input output ∈ (wire happens stages).steps) :
    input = heldAt stages stage ∧ output = outputAt stages stage := by
  rcases exists_first_break (breakAt happens stages) stages with hnone | ⟨stage', hstage, cause, hbefore, hcause⟩
  · rw [wire_of_no_break happens hnone] at h
    exact isTurnStep_turns happens stages stages _ h
  · rw [wire_of_break happens hstage hbefore hcause] at h
    rcases List.mem_append.1 h with hmem | hmem
    · exact isTurnStep_turns happens stages stage' _ hmem
    · rcases List.mem_append.1 hmem with hmem | hmem
      · exact isTurnStep_lastTurn happens stages stage' _ hmem
      · simp at hmem

/-- Where no turn breaks off, every stage has its attempt, with the ends that are its own, and there are no others. -/
theorem tried_mem_iff {happens : Nat → Happening Process Cause} {stages : Nat}
    (h : ∀ stage < stages, breakAt happens stages stage = none) {stage : Nat} {input output : Option PipeEnd} :
    .tried stage input output ∈ (wire happens stages).steps ↔
      stage < stages ∧ input = heldAt stages stage ∧ output = outputAt stages stage := by
  constructor
  · intro hmem
    refine ⟨?_, ends_of_tried happens stages hmem⟩
    rw [wire_of_no_break happens h] at hmem
    obtain ⟨stage', hstage', hstep⟩ := List.mem_flatMap.1 hmem
    obtain rfl : stage = stage' := stage_of_tried happens stages hstep
    exact List.mem_range.1 hstage'
  · rintro ⟨hstage, rfl, rfl⟩
    rw [wire_of_no_break happens h]
    refine List.mem_flatMap.2 ⟨stage, List.mem_range.2 hstage, ?_⟩
    simp [turn]

end Steps

end Wiring

namespace Execution

/-- The wiring of a pipeline on a machine. -/
def wiring (m : Machine) (stages : List Stage) : Wiring Executable Escape :=
  Wiring.wire (fun n => ((happenings m false stages).2[n]?).getD ⟨none, .broken .interrupted, none⟩) stages.length

/-- A pipeline whose wiring breaks has all its processes ended, and stops for what broke it. -/
theorem pipeline_of_broken (programs : Programs) (control : Control) {m : Machine} {stages : List Stage}
    {cause : Escape} (h : (wiring m stages).broken = some cause) :
    (pipeline programs control m stages).result = .error (.escape cause) ∧
      (pipeline programs control m stages).children =
        ((Termination.run control.patience none
          (((wiring m stages).processes.filterMap id).map fun _ => justStarted)).children.map (·.ended)) := by
  unfold pipeline
  unfold wiring at h
  dsimp only
  rw [h]
  exact ⟨rfl, rfl⟩

end Execution

end CommandShell
