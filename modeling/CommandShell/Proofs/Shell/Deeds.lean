import CommandShell.Proofs.Plan.Grammar
import CommandShell.Proofs.Shell.Sequence

/-!
# What a line sets going

Running a text expands aliases, calls native commands and has programs carry out plans. These deeds are listed here
in their order, for a segment (`Shell.segmentDeeds`) and for a line with the lines that are run within it
(`Shell.deeds`). The main statement tells the two ways of a segment apart: with an operator in it a segment is left
to programs whatever is registered, and without one it calls what its first word is registered as
(`Shell.runSegment_by_operator`).
-/

namespace CommandShell

/-- What a text can set going. -/
inductive Act where
  | expands (name : String)
  | calls (stage : Stage) (handler : Handler)
  | carriesOut (plan : Plan)
deriving DecidableEq, Repr

/-- An act, with the machine as it finds it. -/
structure Deed where
  machine : Machine
  act : Act
deriving DecidableEq, Repr

namespace Shell

/-- The shell with other registered names. -/
def setRegistry (s : Shell) (r : Registry) : Shell := { s with registry := r }

/-- What a native command sets going: its own call, and what is set going by a line that it gives the shell to run,
which `within` tells. -/
def handlerDeeds (within : Shell → String → List Deed) (s : Shell) (stage : Stage) : Handler → List Deed
  | .rerun line => ⟨s.machine, .calls stage (.rerun line)⟩ :: within s line
  | handler => [⟨s.machine, .calls stage handler⟩]

/-- What a segment sets going. -/
def deedsWith (within : Shell → String → List Deed) (s : Shell) (segment : String) : List Deed :=
  let resolved := s.registry.resolve s.expanding segment
  resolved.expanded.map (fun name => ⟨s.machine, .expands name⟩) ++
    match resolved.leaf with
    | .refused _ => []
    | .native stage handler =>
      handlerDeeds within (s.setExpanding (resolved.expanded.reverse ++ s.expanding)) stage handler
    | .external plan => [⟨s.machine, .carriesOut plan⟩]

/-- What segments set going that are run in order, as `runSegments` runs them. -/
def deedsFrom (runOne : Shell → String → Shell × Option Escape) (deedsOne : Shell → String → List Deed) (s : Shell) :
    List String → List Deed
  | [] => []
  | segment :: rest =>
    if s.exitRequested then []
    else
      deedsOne s segment ++
        match runOne s segment with
        | (after, none) => deedsFrom runOne deedsOne after rest
        | (_, some _) => []

/-- What a line sets going, with the lines that are run within it, up to a depth. -/
def nestedDeeds (programs : Programs) : Nat → Shell → String → List Deed
  | 0, _, _ => []
  | depth + 1, s, line =>
    deedsFrom (runSegmentWith programs (runNested programs depth)) (deedsWith (nestedDeeds programs depth))
      (s.record line) (segments line)

/-- What a line sets going. -/
def deeds (programs : Programs) (s : Shell) (line : String) : List Deed := nestedDeeds programs nestingLimit s line

/-- What a segment sets going. -/
def segmentDeeds (programs : Programs) (s : Shell) (segment : String) : List Deed :=
  deedsWith (nestedDeeds programs (nestingLimit - 1)) s segment

section Turns

variable (within : Shell → String → List Deed) {s : Shell} {segment : String}

theorem deedsWith_of_error {e : ParseError} (h : Plan.ofSegment segment = .error e) :
    deedsWith within s segment = [] := by
  unfold deedsWith
  rw [Registry.resolve_of_error h]
  rfl

theorem deedsWith_of_leaves {plan : Plan} (h : Plan.ofSegment segment = .ok plan)
    (hl : s.registry.Leaves s.expanding plan) : deedsWith within s segment = [⟨s.machine, .carriesOut plan⟩] := by
  unfold deedsWith
  rw [Registry.resolve_of_leaves h hl]
  rfl

theorem deedsWith_of_native {stage : Stage} {handler : Handler} {description : String}
    (h : Plan.ofSegment segment = .ok (.command stage))
    (hf : s.registry.find? stage.command = some (.native handler description)) :
    deedsWith within s segment = handlerDeeds within s stage handler := by
  unfold deedsWith
  rw [Registry.resolve_of_native h hf]
  rfl

theorem deedsWith_of_alias {stage : Stage} {line : String} (h : Plan.ofSegment segment = .ok (.command stage))
    (hf : s.registry.find? stage.command = some (.aliasOf line)) (hn : stage.command ∉ s.expanding) :
    deedsWith within s segment =
      ⟨s.machine, .expands stage.command⟩ ::
        deedsWith within (s.expand stage.command) (Text.spaced (line :: stage.args)) := by
  unfold deedsWith
  rw [Registry.resolve_of_alias h hf hn]
  dsimp only
  rw [List.map_cons, List.reverse_cons, List.append_assoc]
  rfl

end Turns

/-! ### Operators -/

private theorem leaves_of_not_isSimple {plan : Plan} (h : plan.isSimple = false) (r : Registry) (seen : List String) :
    r.Leaves seen plan := by
  cases plan with
  | command stage => cases h
  | redirected stage redirection => exact .redirected
  | pipeline first second others => exact .pipeline

/-- Programs carry out a plan without a look at what is registered, and change nothing there. -/
theorem execute_setRegistry (programs : Programs) (s : Shell) (r : Registry) (plan : Plan) :
    execute programs (s.setRegistry r) plan =
      ((execute programs s plan).1.setRegistry r, (execute programs s plan).2) := by
  unfold execute setRegistry
  dsimp only
  split
  · rfl
  · split
    · split <;> rfl
    · rfl

private theorem report_setRegistry (s : Shell) (r : Registry) (stop : Option Stop) :
    report (s.setRegistry r, stop) = ((report (s, stop)).1.setRegistry r, (report (s, stop)).2) := by
  rcases stop with _ | e | e <;> rfl

private theorem execute_keeps_own (programs : Programs) (s : Shell) (plan : Plan) :
    (report (execute programs s plan)).1.registry = s.registry ∧
      (report (execute programs s plan)).1.exitRequested = s.exitRequested := by
  unfold execute
  dsimp only
  split
  · next stop _ => cases stop <;> exact ⟨rfl, rfl⟩
  · split
    · split <;> exact ⟨rfl, rfl⟩
    · exact ⟨rfl, rfl⟩

/-- A segment with an operator in it, wherever it stands, comes to the same whatever is registered: it is refused, or
programs carry out its plan, which is all that it sets going. What is registered stays, and exit is not requested by
it. A segment without one whose first word is registered as a native command calls this command, once and with the
other words, and sets nothing else going but what the command itself does. -/
theorem runSegment_by_operator (programs : Programs) (s : Shell) (text : String) :
    (Plan.HasOperator text →
      (∀ r, runSegment programs (s.setRegistry r) text =
          ((runSegment programs s text).1.setRegistry r, (runSegment programs s text).2) ∧
        segmentDeeds programs (s.setRegistry r) text = segmentDeeds programs s text) ∧
      (runSegment programs s text).1.registry = s.registry ∧
      (runSegment programs s text).1.exitRequested = s.exitRequested ∧
      ((∃ e, Plan.ofSegment text = .error e ∧ segmentDeeds programs s text = [] ∧
          runSegment programs s text = (s.tell (.error (ShellError.parse e).message), none)) ∨
        ∃ plan, Plan.ofSegment text = .ok plan ∧ plan.isSimple = false ∧
          segmentDeeds programs s text = [⟨s.machine, .carriesOut plan⟩] ∧
          runSegment programs s text = report (execute programs s plan))) ∧
    (¬ Plan.HasOperator text → ∀ name args handler description, Text.words text = name :: args →
      s.registry.find? name = some (.native handler description) →
        segmentDeeds programs s text =
            handlerDeeds (nestedDeeds programs (nestingLimit - 1)) s ⟨name, args⟩ handler ∧
          runSegment programs s text =
            report ((runHandler programs (runNested programs (nestingLimit - 1)) s ⟨name, args⟩ handler).1.endExpansion
              name, (runHandler programs (runNested programs (nestingLimit - 1)) s ⟨name, args⟩ handler).2)) := by
  refine ⟨fun hop => ?_, fun hop name args handler description hwords hfind => ?_⟩
  · cases hplan : Plan.ofSegment text with
    | error e =>
      have hrun : ∀ t, runSegment programs t text = (t.tell (.error (ShellError.parse e).message), none) :=
        fun t => runSegmentWith_of_error programs _ hplan
      have hdeeds : ∀ t, segmentDeeds programs t text = [] := fun t => deedsWith_of_error _ hplan
      refine ⟨fun r => ⟨?_, ?_⟩, ?_, ?_, .inl ⟨e, rfl, hdeeds s, hrun s⟩⟩
      · rw [hrun, hrun]
        rfl
      · rw [hdeeds, hdeeds]
      · rw [hrun]
        rfl
      · rw [hrun]
        rfl
    | ok plan =>
      have hsimple := Plan.isSimple_of_hasOperator hop hplan
      have hrun : ∀ t, runSegment programs t text = report (execute programs t plan) :=
        fun t => runSegmentWith_of_leaves programs _ hplan (leaves_of_not_isSimple hsimple _ _)
      have hdeeds : ∀ t, segmentDeeds programs t text = [⟨t.machine, .carriesOut plan⟩] :=
        fun t => deedsWith_of_leaves _ hplan (leaves_of_not_isSimple hsimple _ _)
      obtain ⟨hregistry, hexit⟩ := execute_keeps_own programs s plan
      simp only [hrun, hdeeds]
      refine ⟨fun r => ⟨?_, rfl⟩, hregistry, hexit, .inr ⟨plan, rfl, hsimple, rfl, rfl⟩⟩
      rw [execute_setRegistry, report_setRegistry]
  · have hplan := Plan.ofSegment_of_words hop hwords
    exact ⟨deedsWith_of_native _ hplan hfind, runSegmentWith_of_native programs _ hplan hfind⟩

theorem runSegment_by_operator_leaving :
    Plan.HasOperator "echo x>y" ∧ ¬ Plan.HasOperator " echo x" ∧
      segmentDeeds ⟨[], fun _ i => i.finish [] [] 0⟩ (bare leaving) "echo x>y" =
        [⟨(bare leaving).machine, .carriesOut (.redirected ⟨"echo", ["x"]⟩ ⟨.truncate, "y"⟩)⟩] ∧
      segmentDeeds ⟨[], fun _ i => i.finish [] [] 0⟩ (bare .empty) "echo x>y" =
        [⟨(bare leaving).machine, .carriesOut (.redirected ⟨"echo", ["x"]⟩ ⟨.truncate, "y"⟩)⟩] ∧
      segmentDeeds ⟨[], fun _ i => i.finish [] [] 0⟩ (bare leaving) " echo x" =
        [⟨(bare leaving).machine, .calls ⟨"echo", ["x"]⟩ (.builtin .echo)⟩] ∧
      runSegment ⟨[], fun _ i => i.finish [] [] 0⟩ (bare leaving) " echo x" = ((bare leaving).writeLine "x", none) := by
  have hplan : Plan.ofSegment "echo x>y" = .ok (.redirected ⟨"echo", ["x"]⟩ ⟨.truncate, "y"⟩) := rfl
  have hop : Plan.HasOperator "echo x>y" := .inr (.inl (by decide))
  have hplain : ¬ Plan.HasOperator " echo x" := by
    unfold Plan.HasOperator
    decide
  obtain ⟨hwith, -⟩ := runSegment_by_operator ⟨[], fun _ i => i.finish [] [] 0⟩ (bare leaving) "echo x>y"
  obtain ⟨-, hwithout⟩ := runSegment_by_operator ⟨[], fun _ i => i.finish [] [] 0⟩ (bare leaving) " echo x"
  obtain ⟨hany, -, -, hdone⟩ := hwith hop
  obtain ⟨hdeeds, hrun⟩ := hwithout hplain "echo" ["x"] (.builtin .echo) "" rfl rfl
  have hcarried : segmentDeeds ⟨[], fun _ i => i.finish [] [] 0⟩ (bare leaving) "echo x>y" =
      [⟨(bare leaving).machine, .carriesOut (.redirected ⟨"echo", ["x"]⟩ ⟨.truncate, "y"⟩)⟩] := by
    rcases hdone with ⟨e, he, -⟩ | ⟨plan, he, -, hcarried, -⟩
    · cases hplan.symm.trans he
    · rw [hcarried, ← Except.ok.inj (hplan.symm.trans he)]
  exact ⟨hop, hplain, hcarried, ((hany .empty).2).trans hcarried, hdeeds, hrun⟩

end Shell

end CommandShell
