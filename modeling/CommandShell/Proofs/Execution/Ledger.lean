import CommandShell.Proofs.Execution.Turns

/-!
# The ledger of a pipeline

Whoever wires a pipeline holds the ends of pipes, and gives each of them up once. The books are kept by `Hold`: it takes
a step only if the ends that the step needs are held. Every turn is taken, from the end that is held before it to the
end that is held after it (`Hold.foldlM_turn`), so the steps of a whole wiring are taken, and nothing is held when they
are over (`Hold.foldlM_wire`).
-/

namespace CommandShell

/-- The ends of pipes that are held, and how many pipes have been made. -/
structure Hold where
  made : Nat
  ends : List PipeEnd

namespace Hold

/-- Takes a step: a pipe is a new one, and an end is handed on or closed only while it is held. -/
def take (h : Hold) : WiringStep → Option Hold
  | .opened pipe => if pipe = h.made then some ⟨pipe + 1, .reading pipe :: .writing pipe :: h.ends⟩ else none
  | .tried _ input output => if ∀ e ∈ input.toList ++ output.toList, e ∈ h.ends then some h else none
  | .closed e => if e ∈ h.ends then some { h with ends := h.ends.erase e } else none
  | .reported _ | .dropped _ | .ended => some h

/-- What is held at the head of a turn. -/
def atHead (stages stage : Nat) : Hold := ⟨min stage (stages - 1), (Wiring.heldAt stages stage).toList⟩

variable {h h' : Hold} {steps : List WiringStep}

/-- An end has been opened as often as it has been closed, or once more if it is held. -/
theorem count_closed (hsteps : steps.foldlM take h = some h') (e : PipeEnd) :
    h'.ends.count e + steps.count (.closed e) = h.ends.count e + steps.count (.opened e.pipe) := by
  induction steps generalizing h with
  | nil =>
    obtain rfl : h = h' := by simpa using hsteps
    rfl
  | cons step rest ih =>
    rw [List.foldlM_cons] at hsteps
    obtain ⟨next, hnext, hrest⟩ := Option.bind_eq_some_iff.1 hsteps
    have hcount := ih hrest
    cases step with
    | opened pipe =>
      simp only [take, Option.ite_none_right_eq_some, Option.some.injEq] at hnext
      obtain ⟨rfl, rfl⟩ := hnext
      have hends : (PipeEnd.reading h.made :: .writing h.made :: h.ends).count e =
          h.ends.count e + if h.made = e.pipe then 1 else 0 := by
        cases e <;> simp [List.count_cons, PipeEnd.pipe] <;> exact if_congr Iff.rfl rfl rfl
      have hopened : (WiringStep.opened h.made :: rest).count (.opened e.pipe) =
          rest.count (.opened e.pipe) + if h.made = e.pipe then 1 else 0 := by
        simp [List.count_cons]
      have hclosed : (WiringStep.opened h.made :: rest).count (.closed e) = rest.count (.closed e) := by
        simp
      rw [hends] at hcount
      rw [hopened, hclosed]
      omega
    | tried stage input output =>
      simp only [take, Option.ite_none_right_eq_some, Option.some.injEq] at hnext
      obtain ⟨-, rfl⟩ := hnext
      simpa using hcount
    | closed e' =>
      simp only [take, Option.ite_none_right_eq_some, Option.some.injEq] at hnext
      obtain ⟨hmem, rfl⟩ := hnext
      have hpos := List.count_pos_iff.2 hmem
      by_cases he : e' = e
      · subst he
        simp at hcount ⊢
        omega
      · simpa [he, Ne.symm he] using hcount
    | reported | dropped | ended =>
      obtain rfl : h = next := by simpa [take] using hnext
      simpa using hcount

/-- A pipe has been opened once if it is among those that have been made, and never otherwise. -/
theorem count_opened (hsteps : steps.foldlM take h = some h') (pipe : Nat) :
    (if pipe < h.made then 1 else 0) + steps.count (.opened pipe) = if pipe < h'.made then 1 else 0 := by
  induction steps generalizing h with
  | nil =>
    obtain rfl : h = h' := by simpa using hsteps
    rfl
  | cons step rest ih =>
    rw [List.foldlM_cons] at hsteps
    obtain ⟨next, hnext, hrest⟩ := Option.bind_eq_some_iff.1 hsteps
    have hcount := ih hrest
    cases step with
    | opened made =>
      simp only [take, Option.ite_none_right_eq_some, Option.some.injEq] at hnext
      obtain ⟨rfl, rfl⟩ := hnext
      rw [List.count_cons, ← hcount]
      dsimp only
      by_cases heq : h.made = pipe
      · subst heq
        simp
        omega
      · have hlt : pipe < h.made + 1 ↔ pipe < h.made := by omega
        simp [heq, hlt]
    | tried | closed =>
      simp only [take, Option.ite_none_right_eq_some, Option.some.injEq] at hnext
      obtain ⟨-, rfl⟩ := hnext
      simpa using hcount
    | reported | dropped | ended =>
      obtain rfl : h = next := by simpa [take] using hnext
      simpa using hcount

section Turn

open Wiring

variable {Process Cause : Type} (happens : Nat → Happening Process Cause) {stages stage : Nat}

/-- A turn is taken from the end that is held at its head, and leaves the end that is held at the head of the next. -/
theorem foldlM_turn (hstage : stage < stages) :
    (turn happens stages stage).foldlM take (atHead stages stage) = some (atHead stages (stage + 1)) := by
  have hreports (h : Hold) : (reports (happens stage) stage).foldlM take h = some h := by
    unfold reports
    split <;> simp [take]
  unfold turn
  by_cases hlast : stage + 1 = stages
  · -- The last stage gets no pipe, and nothing is held after it.
    subst hlast
    cases stage with
    | zero => simp [hreports, atHead, take, close, heldAt, outputAt]
    | succ stage => simp [hreports, atHead, take, close, outputAt]
  · have hmade : min stage (stages - 1) = stage := by omega
    have hmade' : min (stage + 1) (stages - 1) = stage + 1 := by omega
    cases stage with
    | zero => simp [hlast, hmade', hreports, atHead, take, close, heldAt, outputAt]
    | succ stage =>
      have hne : stage + 1 ≠ stages := by omega
      simp [hlast, hne, hmade, hmade', hreports, atHead, take, close, outputAt]

theorem foldlM_turns (count : Nat) (hcount : count ≤ stages) :
    (turns happens stages count).foldlM take (atHead stages 0) = some (atHead stages count) := by
  induction count with
  | zero => rfl
  | succ count ih =>
    have hturns : turns happens stages (count + 1) = turns happens stages count ++ turn happens stages count := by
      simp [turns, List.range_succ]
    rw [hturns, List.foldlM_append, ih (by omega)]
    exact foldlM_turn happens (by omega)

theorem foldlM_close_heldAt (stages stage : Nat) :
    (close (heldAt stages stage)).foldlM take (atHead stages stage) = some ⟨min stage (stages - 1), []⟩ := by
  unfold atHead
  cases heldAt stages stage <;> simp [close, take]

/-- A turn that breaks off leaves nothing held. -/
theorem foldlM_lastTurn (hstage : stage < stages) :
    ∃ made, (lastTurn happens stages stage).foldlM take (atHead stages stage) = some ⟨made, []⟩ := by
  unfold lastTurn
  split
  · exact ⟨_, foldlM_close_heldAt stages stage⟩
  · rw [List.foldlM_append, foldlM_turn happens hstage]
    exact ⟨_, foldlM_close_heldAt stages (stage + 1)⟩

/-- A whole wiring is taken, and leaves nothing held. -/
theorem foldlM_wire (stages : Nat) :
    ∃ made, (wire happens stages).steps.foldlM take ⟨0, []⟩ = some ⟨made, []⟩ := by
  have hstart : atHead stages 0 = ⟨0, []⟩ := by simp [atHead, heldAt]
  rw [← hstart]
  rcases exists_first_break (breakAt happens stages) stages with hnone | ⟨stage, hstage, cause, hbefore, hcause⟩
  · rw [wire_of_no_break happens hnone]
    refine ⟨min stages (stages - 1), ?_⟩
    have hend : heldAt stages stages = none := by cases stages <;> simp [heldAt]
    rw [foldlM_turns happens stages le_rfl, atHead, hend]
    rfl
  · rw [wire_of_break happens hstage hbefore hcause]
    obtain ⟨made, hlast⟩ := foldlM_lastTurn happens hstage
    refine ⟨made, ?_⟩
    rw [List.foldlM_append, foldlM_turns happens stage hstage.le, Option.bind_eq_bind, Option.bind_some,
      List.foldlM_append, hlast]
    rfl

end Turn

/-- What is handed on is held when it is handed on. -/
theorem mem_ends_of_tried {h h' : Hold} {before after : List WiringStep} {stage : Nat} {input output : Option PipeEnd}
    (hsteps : (before ++ .tried stage input output :: after).foldlM take h = some h') {e : PipeEnd}
    (he : input = some e ∨ output = some e) :
    ∃ held, before.foldlM take h = some held ∧ e ∈ held.ends := by
  rw [List.foldlM_append] at hsteps
  obtain ⟨held, hheld, hrest⟩ := Option.bind_eq_some_iff.1 hsteps
  rw [List.foldlM_cons] at hrest
  obtain ⟨next, hnext, -⟩ := Option.bind_eq_some_iff.1 hrest
  simp only [take, Option.ite_none_right_eq_some] at hnext
  exact ⟨held, hheld, hnext.1 e (by rcases he with rfl | rfl <;> simp)⟩

end Hold

namespace Wiring

variable {Process Cause : Type} (happens : Nat → Happening Process Cause) (stages : Nat)

/-- An end has been opened, and not closed since. -/
def IsOpen (steps : List WiringStep) (e : PipeEnd) : Prop := .opened e.pipe ∈ steps ∧ .closed e ∉ steps

/-- An end is closed as often as it is opened, and that is once or never. -/
private theorem count_wire (e : PipeEnd) :
    (wire happens stages).steps.count (.closed e) = (wire happens stages).steps.count (.opened e.pipe) ∧
      (wire happens stages).steps.count (.opened e.pipe) ≤ 1 := by
  obtain ⟨made, hsteps⟩ := Hold.foldlM_wire happens stages
  have hclosed := Hold.count_closed hsteps e
  have hopened := Hold.count_opened hsteps e.pipe
  simp only [List.count_nil, Nat.not_lt_zero, if_false, Nat.zero_add] at hclosed hopened
  refine ⟨hclosed, ?_⟩
  rw [hopened]
  split <;> omega

/-- An end is not closed before an attempt that it is given to. -/
private theorem not_closed_before_tried {before after : List WiringStep} {e : PipeEnd}
    (h : (wire happens stages).steps = before ++ .closed e :: after) {stage : Nat} {input output : Option PipeEnd}
    (hmem : .tried stage input output ∈ after) : input ≠ some e ∧ output ≠ some e := by
  rw [← not_or]
  intro he
  obtain ⟨middle, rest, rfl⟩ := List.append_of_mem hmem
  obtain ⟨made, hsteps⟩ := Hold.foldlM_wire happens stages
  obtain ⟨hcount, hone⟩ := count_wire happens stages e
  have hsplit : (wire happens stages).steps = (before ++ .closed e :: middle) ++ .tried stage input output :: rest := by
    rw [h]
    simp
  rw [hsplit] at hsteps hone
  obtain ⟨held, hheld, hends⟩ := Hold.mem_ends_of_tried hsteps he
  -- The end has been closed, and it is held: it would have to have been opened twice.
  have hpos := List.count_pos_iff.2 hends
  have hclosed := Hold.count_closed hheld e
  have hmade : (before ++ .closed e :: middle).count (.opened e.pipe) ≤ 1 :=
    (List.Sublist.count_le _ (List.sublist_append_left _ _)).trans hone
  simp at hclosed hmade
  omega

/-- What is open at the head of a turn is the end that is held there. -/
private theorem isOpen_turns_iff {stage : Nat} (hstage : stage ≤ stages) (e : PipeEnd) :
    IsOpen (turns happens stages stage) e ↔ heldAt stages stage = some e := by
  have hturns := Hold.foldlM_turns happens stage hstage
  have hclosed := Hold.count_closed hturns e
  have hopened := Hold.count_opened hturns e.pipe
  have hstart : Hold.atHead stages 0 = ⟨0, []⟩ := by simp [Hold.atHead, heldAt]
  have hheld : (Hold.atHead stages stage).ends.count e = if heldAt stages stage = some e then 1 else 0 := by
    unfold Hold.atHead
    cases heldAt stages stage with
    | none => simp
    | some e' => simp [List.count_singleton]
  rw [hstart] at hclosed hopened
  rw [hheld] at hclosed
  unfold IsOpen
  rw [← List.count_pos_iff, ← List.count_eq_zero]
  simp only [List.count_nil, Nat.not_lt_zero, if_false, Nat.zero_add] at hclosed hopened
  split at hclosed <;> split at hopened <;> simp_all

end Wiring

namespace Wiring

variable {Process Cause : Type}

/-- However the wiring of a pipeline ends, each end of each pipe that was made has been closed once, and not before the
attempt to start the stage that it was for; at the head of a stage's turn nothing is open but the reading end of the
pipe before the stage. If no turn breaks off, every stage has its process, or none if it was refused, and its pumps are
kept. If one does, the pumps made so far are dropped, the processes started so far are ended, and what broke the turn is
what the pipeline stops for. -/
theorem wire_ledger (happens : Nat → Happening Process Cause) (stages : Nat) :
    (∀ stage input output, .tried stage input output ∈ (wire happens stages).steps →
      input = heldAt stages stage ∧ output = outputAt stages stage) ∧
    (∀ e, .opened e.pipe ∈ (wire happens stages).steps → (wire happens stages).steps.count (.closed e) = 1) ∧
    (∀ e, .closed e ∈ (wire happens stages).steps → .opened e.pipe ∈ (wire happens stages).steps) ∧
    (∀ before e after, (wire happens stages).steps = before ++ .closed e :: after →
      ∀ stage input output, .tried stage input output ∈ after → input ≠ some e ∧ output ≠ some e) ∧
    (∀ stage < stages, (∀ earlier < stage, breakAt happens stages earlier = none) →
      ∃ before,
        wire happens stages =
          (wireFrom happens stage (heldAt stages stage) (processesOf happens stage) (pumpsOf happens stages stage)
            (stages - stage)).after before ∧
        ∀ e, IsOpen before e ↔ heldAt stages stage = some e) ∧
    ((∀ stage < stages, breakAt happens stages stage = none) →
      (wire happens stages).broken = none ∧ (wire happens stages).processes = processesOf happens stages ∧
      (wire happens stages).pumps = pumpsOf happens stages stages ∧
      .ended ∉ (wire happens stages).steps ∧ ∀ pumps, .dropped pumps ∉ (wire happens stages).steps) ∧
    (∀ stage < stages, ∀ cause, (∀ earlier < stage, breakAt happens stages earlier = none) →
      breakAt happens stages stage = some cause →
      (wire happens stages).broken = some cause ∧ (wire happens stages).processes = processesOf happens stage ∧
      (wire happens stages).pumps = pumpsOf happens stages stage ∧
      ∃ front, (wire happens stages).steps = front ++ [.dropped (pumpsOf happens stages stage), .ended] ∧
        .ended ∉ front ∧ ∀ pumps, .dropped pumps ∉ front) ∧
    (∀ programs control m plan cause, (Execution.wiring m plan).broken = some cause →
      (Execution.pipeline programs control m plan).result = .error (.escape cause) ∧
      (Execution.pipeline programs control m plan).children =
        (Termination.run control.patience none
          (((Execution.wiring m plan).processes.filterMap id).map fun _ => Execution.justStarted)).children.map
            (·.ended)) := by
  refine ⟨fun _ _ _ h => ends_of_tried happens stages h, fun e hopened => ?_, fun e hclosed => ?_,
    fun _ _ _ h _ _ _ hmem => not_closed_before_tried happens stages h hmem, fun stage hstage hnone => ?_,
    fun hnone => ?_, fun stage hstage cause hbefore hcause => ?_,
    fun programs control _ _ _ h => Execution.pipeline_of_broken programs control h⟩
  · obtain ⟨hcount, hone⟩ := count_wire happens stages e
    have := List.count_pos_iff.2 hopened
    omega
  · obtain ⟨hcount, -⟩ := count_wire happens stages e
    have := List.count_pos_iff.2 hclosed
    exact List.count_pos_iff.1 (by omega)
  · exact ⟨turns happens stages stage, wire_eq_after happens hstage.le hnone, isOpen_turns_iff happens stages hstage.le⟩
  · rw [wire_of_no_break happens hnone]
    exact ⟨rfl, rfl, rfl, notMem_of_isTurnStep stages (isTurnStep_turns happens stages stages)⟩
  · rw [wire_of_break happens hstage hbefore hcause]
    refine ⟨rfl, rfl, rfl, turns happens stages stage ++ lastTurn happens stages stage, by simp, ?_⟩
    exact notMem_of_isTurnStep stages
      (List.forall_mem_append.2 ⟨isTurnStep_turns happens stages stage, isTurnStep_lastTurn happens stages stage⟩)

end Wiring

end CommandShell
