import CommandShell.Proofs.Execution.Evolution
import CommandShell.Proofs.Path.Null

/-!
# Leaving a plan early

What goes wrong while a plan is carried out is an error, with two exceptions. No text that holds the null character
can be handed to the system: a plan comes upon it when it opens a file whose path holds it, or starts a stage whose
words hold it (`Execution.MeetsNull`), and carrying out a plan ends in a mishap exactly then
(`Execution.run_result_eq_mishap_iff`). And the user may interrupt, but not where no interrupt is to come
(`Execution.run_result_ne_interrupted`).
-/

namespace CommandShell

/-- A word of a stage holds the null character. -/
def Stage.HoldsNull (stage : Stage) : Prop := ∃ word ∈ stage.words, Text.HoldsNull word

/-! ### Calls that fail for the null character -/

namespace Files

variable (files : Files) {path : String}

private theorem mapError_system_ne {α : Type} (r : Except SystemFault α) :
    r.mapError CallFault.system ≠ .error .embeddedNull := by
  cases r <;> simp [Except.mapError]

private theorem bind_system_ne {α β : Type} (r : Except SystemFault α) {f : α → Except CallFault β}
    (hf : ∀ a, f a ≠ .error .embeddedNull) : (r.mapError CallFault.system >>= f) ≠ .error .embeddedNull := by
  cases r with
  | error fault => simp [Except.mapError, bind, Except.bind]
  | ok a => exact hf a

/-- A call that takes a path fails for the null character in the path and for no other. -/
private theorem bind_ofText_iff {α : Type} {f : Route → Except CallFault α} (hf : ∀ r, f r ≠ .error .embeddedNull) :
    (Route.ofText path >>= f) = .error .embeddedNull ↔ Text.HoldsNull path := by
  rw [← Route.ofText_eq_embeddedNull_iff]
  cases Route.ofText path with
  | error fault => simp [bind, Except.bind]
  | ok r => simpa [bind, Except.bind] using hf r

theorem resolve_eq_embeddedNull_iff (follow : Bool) :
    files.resolve follow path = .error .embeddedNull ↔ Text.HoldsNull path :=
  bind_ofText_iff fun _ => mapError_system_ne _

theorem read_eq_embeddedNull_iff : files.read path = .error .embeddedNull ↔ Text.HoldsNull path := by
  rw [← files.resolve_eq_embeddedNull_iff true]
  unfold read
  cases files.resolve true path with
  | error fault => simp [bind, Except.bind]
  | ok target => cases target <;> simp [bind, Except.bind, mapError_system_ne]

theorem openForWriting_eq_embeddedNull_iff (keep : Bool) :
    files.openForWriting keep path = .error .embeddedNull ↔ Text.HoldsNull path := by
  refine bind_ofText_iff fun r => ?_
  have hopen : ((files.tree.resolve files.place true r).mapError CallFault.system >>= fun target =>
      (files.openTarget keep target).mapError .system) ≠ .error .embeddedNull :=
    bind_system_ne _ fun _ => mapError_system_ne _
  dsimp only
  split
  · rcases files.tree.resolveParent files.place r with fault | target
    · show Except.error (CallFault.system fault) ≠ _
      simp
    · show (if r.endsInName then _ else _) ≠ _
      split
      · show Except.error (CallFault.system .isDirectory) ≠ _
        simp
      · exact hopen
  · exact hopen

end Files

namespace Execution

theorem find_eq_embeddedNull_iff (m : Machine) (stage : Stage) :
    find m stage = .error .embeddedNull ↔ stage.HoldsNull := by
  unfold find Launch.find
  split
  · next h => simpa [Stage.HoldsNull, Stage.words, Text.HoldsNull] using h
  · next h =>
    have hnot : ¬ stage.HoldsNull := by simpa [Stage.HoldsNull, Stage.words, Text.HoldsNull] using h
    split
    · simpa
    · simpa [hnot] using Files.mapError_system_ne _

/-! ### Plans that come upon the null character -/

/-- The file of a redirection can be opened on a machine. -/
def Opens (m : Machine) : Redirection → Prop
  | ⟨.read, path⟩ => ∃ bytes, m.files.read (Path.ofText path).text = .ok bytes
  | ⟨.truncate, path⟩ => ∃ opened, m.files.openForWriting false path = .ok opened
  | ⟨.append, path⟩ => ∃ opened, m.files.openForWriting true path = .ok opened

/-- The stages for which a process starts. -/
def startable (m : Machine) (stages : List Stage) : List Stage := stages.filter fun stage => (find m stage).toBool

/-- The user interrupts before the last of the stages have been started. -/
def InterruptedWithin (m : Machine) (stages : List Stage) : Prop :=
  ∃ count, m.interruption = .afterStarts count ∧ max count 1 ≤ (startable m stages).length

/-- A plan comes upon a text with the null character. -/
def MeetsNull (m : Machine) : Plan → Prop
  | .command stage => stage.HoldsNull
  | .redirected stage redirection =>
    Text.HoldsNull redirection.path ∨ (Opens m redirection ∧ stage.HoldsNull)
  | .pipeline first second others =>
    ∃ before stage after, first :: second :: others = before ++ stage :: after ∧ stage.HoldsNull ∧
      ¬ InterruptedWithin m before

private theorem conclude_ne_mishap (control : Control) (m : Machine) (events : List Event) (runs : List (Option Run))
    (e : Mishap) : (conclude control m events runs).result ≠ .error (.escape (.mishap e)) := by
  unfold conclude
  split <;> simp [interrupt]

private theorem startStop_eq_mishap_iff {name : String} {fault : CallFault} {e : Mishap} :
    startStop name fault = .escape (.mishap e) ↔ fault = .embeddedNull ∧ e = .embeddedNull := by
  cases fault <;> simp [startStop, @eq_comm _ e]

theorem single_result_eq_mishap_iff {programs : Programs} {control : Control} {m : Machine} {stage : Stage}
    {input : Stream} {target : Option Handle} {e : Mishap} :
    (single programs control m stage input target).result = .error (.escape (.mishap e)) ↔
      stage.HoldsNull ∧ e = .embeddedNull := by
  rw [← find_eq_embeddedNull_iff m]
  unfold single
  cases find m stage with
  | error fault => simp [stopped, startStop_eq_mishap_iff]
  | ok executable =>
    have hrun := conclude_ne_mishap control
    dsimp only
    split
    · simp [interrupt]
    · split <;> simp [hrun]

end Execution

namespace Wiring

variable {Process Cause : Type}

/-- What breaks at the start of a stage. -/
def causeOf (h : Happening Process Cause) : Option Cause :=
  match h.start with
  | .broken cause => some cause
  | _ => none

/-- Where pipes can be made and refusals reported, the wiring breaks at the first stage whose start breaks it. -/
theorem wireFrom_broken {happens : Nat → Happening Process Cause} (happened : List (Happening Process Cause))
    (hplain : ∀ h ∈ happened, h.pipe = none ∧ h.report = none) {stage : Nat}
    (hnth : ∀ i (hi : i < happened.length), happens (stage + i) = happened[i]) (held : Option PipeEnd)
    (processes : List (Option Process)) (pumps : List Pump) :
    (wireFrom happens stage held processes pumps happened.length).broken = happened.findSome? causeOf := by
  induction happened generalizing stage held processes pumps with
  | nil => rfl
  | cons h rest ih =>
    obtain ⟨hpipe, hreport⟩ := hplain h (List.mem_cons_self ..)
    have hstage : happens stage = h := hnth 0 (by simp)
    have hnext : ∀ i (hi : i < rest.length), happens (stage + 1 + i) = rest[i] := by
      intro i hi
      have := hnth (i + 1) (by simpa using hi)
      rwa [Nat.add_assoc, Nat.add_comm 1 i]
    have hrest := ih (fun h hmem => hplain h (List.mem_cons_of_mem _ hmem)) hnext
    rw [List.length_cons, List.findSome?_cons]
    unfold wireFrom
    simp only [hstage, hpipe, ite_self]
    cases hstart : h.start with
    | started process => simp [causeOf, hstart, after, hrest]
    | refused fault => simp [causeOf, hstart, hreport, after, hrest]
    | broken cause => simp [causeOf, hstart, after, unwind]

end Wiring

namespace Execution

private theorem find_countStart (m : Machine) (stage : Stage) : find m.countStart.1 stage = find m stage := by
  unfold Machine.countStart
  split
  · split <;> rfl
  · rfl

private theorem startable_countStart (m : Machine) (stages : List Stage) :
    startable m.countStart.1 stages = startable m stages := by
  simp only [startable, find_countStart]

/-- An interrupt comes among some stages when it comes with the first process, or among the others. -/
private theorem interruptedWithin_cons {m : Machine} {stage : Stage} (stages : List Stage) {executable : Executable}
    (h : find m stage = .ok executable) :
    InterruptedWithin m (stage :: stages) ↔
      m.countStart.2 = true ∨ InterruptedWithin m.countStart.1 stages := by
  have hlength : (startable m (stage :: stages)).length = (startable m stages).length + 1 := by
    rw [startable, List.filter_cons_of_pos (by rw [h]; rfl), List.length_cons]
    rfl
  unfold InterruptedWithin
  rw [startable_countStart, hlength]
  unfold Machine.countStart
  split
  · next count hm =>
    split
    · next hle =>
      simp only [hm, true_or, iff_true]
      exact ⟨count, rfl, by omega⟩
    · next hgt =>
      simp only [hm, Bool.false_eq_true, false_or, Interruption.afterStarts.injEq, exists_eq_left']
      omega
  · next hnot =>
    have hnever : ∀ count, m.interruption ≠ .afterStarts count := hnot
    simp [hnever]

private theorem interruptedWithin_cons_of_error {m : Machine} {stage : Stage} (stages : List Stage)
    {fault : CallFault} (h : find m stage = .error fault) :
    InterruptedWithin m (stage :: stages) ↔ InterruptedWithin m stages := by
  have : startable m (stage :: stages) = startable m stages :=
    List.filter_cons_of_neg (by rw [h]; simp [Except.toBool])
  rw [InterruptedWithin, this]
  rfl

private theorem happenings_length (stages : List Stage) (m : Machine) (interrupted : Bool) :
    (happenings m interrupted stages).2.length = stages.length := by
  induction stages generalizing m interrupted with
  | nil => rfl
  | cons stage rest ih =>
    unfold happenings
    split
    · exact congrArg (· + 1) (ih m interrupted)
    · split <;> exact congrArg (· + 1) (ih _ _)

private theorem happenings_plain (stages : List Stage) (m : Machine) (interrupted : Bool) :
    ∀ h ∈ (happenings m interrupted stages).2, h.pipe = none ∧ h.report = none := by
  induction stages generalizing m interrupted with
  | nil => simp [happenings]
  | cons stage rest ih =>
    unfold happenings
    split
    · exact List.forall_mem_cons.2 ⟨⟨rfl, rfl⟩, ih m interrupted⟩
    · split <;> exact List.forall_mem_cons.2 ⟨⟨rfl, rfl⟩, ih _ _⟩

private theorem exists_append_cons_iff {α : Type} {P : List α → α → Prop} (x : α) (xs : List α) :
    (∃ before y after, x :: xs = before ++ y :: after ∧ P before y) ↔
      P [] x ∨ ∃ before y after, xs = before ++ y :: after ∧ P (x :: before) y := by
  constructor
  · rintro ⟨_ | ⟨z, before⟩, y, after, h, hp⟩
    · obtain ⟨rfl, -⟩ := List.cons.inj h
      exact .inl hp
    · obtain ⟨rfl, rfl⟩ := List.cons.inj h
      exact .inr ⟨before, y, after, rfl, hp⟩
  · rintro (hp | ⟨before, y, after, rfl, hp⟩)
    · exact ⟨[], x, xs, rfl, hp⟩
    · exact ⟨x :: before, y, after, rfl, hp⟩

private theorem not_interruptedWithin_nil (m : Machine) : ¬ InterruptedWithin m [] := by
  rintro ⟨count, -, hle⟩
  have : (startable m []).length = 0 := rfl
  omega

/-- The first start that breaks a pipeline breaks it for the null character exactly if some stage holds it and no
interrupt comes before its turn. -/
private theorem happenings_eq_mishap_iff (stages : List Stage) (m : Machine) (interrupted : Bool) (e : Mishap) :
    (happenings m interrupted stages).2.findSome? Wiring.causeOf = some (.mishap e) ↔
      interrupted = false ∧
        (∃ before stage after, stages = before ++ stage :: after ∧ stage.HoldsNull ∧ ¬ InterruptedWithin m before) ∧
        e = .embeddedNull := by
  -- The machine counts the processes down, so it is another one at each stage.
  induction stages generalizing m interrupted with
  | nil => simp [happenings]
  | cons stage rest ih =>
    unfold happenings
    cases interrupted with
    | true => simp [List.findSome?_cons, Wiring.causeOf]
    | false =>
      rw [exists_append_cons_iff (P := fun before stage => stage.HoldsNull ∧ ¬ InterruptedWithin m before)]
      have hhere := find_eq_embeddedNull_iff m stage
      simp only [Bool.false_eq_true, if_false]
      cases hfind : find m stage with
      | ok executable =>
        have hnot : ¬ stage.HoldsNull := by simp [← hhere, hfind]
        have hrest := ih m.countStart.1 m.countStart.2
        simp only [List.findSome?_cons, Wiring.causeOf, hrest, hnot, false_and, false_or,
          interruptedWithin_cons _ hfind, not_or, Bool.not_eq_true]
        constructor
        · rintro ⟨hcount, ⟨before, bad, after, heq, hbad, hbefore⟩, he⟩
          exact ⟨trivial, ⟨before, bad, after, heq, hbad, hcount, hbefore⟩, he⟩
        · rintro ⟨-, ⟨before, bad, after, heq, hbad, hcount, hbefore⟩, he⟩
          exact ⟨hcount, ⟨before, bad, after, heq, hbad, hbefore⟩, he⟩
      | error fault =>
        cases fault with
        | system fault =>
          have hnot : ¬ stage.HoldsNull := by simp [← hhere, hfind]
          have hrest := ih m false
          simp only [List.findSome?_cons, Wiring.causeOf, hrest, hnot, false_and, false_or,
            interruptedWithin_cons_of_error _ hfind]
        | embeddedNull =>
          have hholds : stage.HoldsNull := hhere.1 hfind
          simp [List.findSome?_cons, Wiring.causeOf, hholds, not_interruptedWithin_nil, @eq_comm _ e]

private theorem pipeline_broken (m : Machine) (stages : List Stage) :
    (Wiring.wire (fun n => ((happenings m false stages).2[n]?).getD ⟨none, .broken .interrupted, none⟩)
        stages.length).broken =
      (happenings m false stages).2.findSome? Wiring.causeOf := by
  rw [← happenings_length stages m false]
  refine Wiring.wireFrom_broken _ (happenings_plain stages m false) ?_ _ _ _
  intro i hi
  rw [Nat.zero_add, List.getElem?_eq_getElem hi]
  rfl

theorem pipeline_result_eq_mishap_iff {programs : Programs} {control : Control} {m : Machine} {stages : List Stage}
    {e : Mishap} :
    (pipeline programs control m stages).result = .error (.escape (.mishap e)) ↔
      (∃ before stage after, stages = before ++ stage :: after ∧ stage.HoldsNull ∧ ¬ InterruptedWithin m before) ∧
        e = .embeddedNull := by
  have hbroken := pipeline_broken m stages
  have hfirst := happenings_eq_mishap_iff stages m false e
  rw [← hbroken] at hfirst
  simp only [true_and] at hfirst
  rw [← hfirst]
  unfold pipeline
  dsimp only
  split
  · next cause hcause => simp [hcause]
  · next hnone =>
    have hrun := conclude_ne_mishap control
    rw [hnone]
    split
    · simp [interrupt]
    · simp [hrun]

private theorem withInput_result_eq_mishap_iff {programs : Programs} {control : Control} {m : Machine} {stage : Stage}
    {path : String} {e : Mishap} :
    (withInput programs control m stage path).result = .error (.escape (.mishap e)) ↔
      (Text.HoldsNull path ∨ ((∃ bytes, m.files.read (Path.ofText path).text = .ok bytes) ∧ stage.HoldsNull)) ∧
        e = .embeddedNull := by
  rw [← Path.holdsNull_text_ofText_iff, ← m.files.read_eq_embeddedNull_iff]
  unfold withInput
  rcases m.files.read (Path.ofText path).text with (fault | _) | bytes
  · simp [stopped]
  · simp [stopped, @eq_comm _ e]
  · simp [single_result_eq_mishap_iff]

private theorem withOutput_result_eq_mishap_iff {programs : Programs} {control : Control} {m : Machine}
    {stage : Stage} {keep : Bool} {path : String} {e : Mishap} :
    (withOutput programs control m stage keep path).result = .error (.escape (.mishap e)) ↔
      (Text.HoldsNull path ∨ ((∃ opened, m.files.openForWriting keep path = .ok opened) ∧ stage.HoldsNull)) ∧
        e = .embeddedNull := by
  rw [← m.files.openForWriting_eq_embeddedNull_iff keep]
  unfold withOutput
  rcases m.files.openForWriting keep path with (fault | _) | opened
  · simp [stopped]
  · simp [stopped, @eq_comm _ e]
  · simp [single_result_eq_mishap_iff]

/-- Carrying out a plan ends in a mishap exactly when the plan comes upon a text with the null character. -/
theorem run_result_eq_mishap_iff (programs : Programs) (control : Control) (m : Machine) (plan : Plan) (e : Mishap) :
    (run programs control m plan).result = .error (.escape (.mishap e)) ↔ MeetsNull m plan ∧ e = .embeddedNull := by
  cases plan with
  | command stage => exact single_result_eq_mishap_iff
  | pipeline first second others => exact pipeline_result_eq_mishap_iff
  | redirected stage redirection =>
    obtain ⟨kind, path⟩ := redirection
    cases kind with
    | read => exact withInput_result_eq_mishap_iff
    | truncate | append => exact withOutput_result_eq_mishap_iff

/-! ### Plans that are not interrupted -/

private theorem conclude_ne_interrupted {control : Control} {m : Machine} (h : m.interruption = .never)
    (events : List Event) (runs : List (Option Run)) :
    (conclude control m events runs).result ≠ .error (.escape .interrupted) := by
  unfold conclude
  rw [h]
  simp

private theorem single_result_ne_interrupted (programs : Programs) (control : Control) {m : Machine}
    (h : m.interruption = .never) (stage : Stage) (input : Stream) (target : Option Handle) :
    (single programs control m stage input target).result ≠ .error (.escape .interrupted) := by
  unfold single
  cases find m stage with
  | error fault => cases fault <;> simp [stopped, startStop]
  | ok executable =>
    simp only [Machine.countStart_of_never h, Bool.false_eq_true, if_false]
    split <;> exact conclude_ne_interrupted (by exact h) _ _

private theorem happenings_ne_interrupted {m : Machine} (h : m.interruption = .never) (stages : List Stage) :
    ∀ happening ∈ (happenings m false stages).2, Wiring.causeOf happening ≠ some .interrupted := by
  induction stages with
  | nil => simp [happenings]
  | cons stage rest ih =>
    unfold happenings
    simp only [Bool.false_eq_true, if_false]
    split
    · rw [Machine.countStart_of_never h]
      exact List.forall_mem_cons.2 ⟨by simp [Wiring.causeOf], ih⟩
    · exact List.forall_mem_cons.2 ⟨by simp [Wiring.causeOf], ih⟩
    · exact List.forall_mem_cons.2 ⟨by simp [Wiring.causeOf], ih⟩

private theorem pipeline_result_ne_interrupted (programs : Programs) (control : Control) {m : Machine}
    (h : m.interruption = .never) (stages : List Stage) :
    (pipeline programs control m stages).result ≠ .error (.escape .interrupted) := by
  have hbroken := pipeline_broken m stages
  have hstarted := (happenings_evolves stages m false).never h
  unfold pipeline
  dsimp only
  split
  · next cause hcause =>
    rw [hcause] at hbroken
    obtain ⟨happening, hmem, hcause'⟩ := List.exists_of_findSome?_eq_some hbroken.symm
    have hne := happenings_ne_interrupted h stages happening hmem
    rintro heq
    obtain rfl := Stop.escape.inj (Except.error.inj heq)
    exact hne hcause'
  · simp only [h]
    exact conclude_ne_interrupted ((runAll_evolves programs _ _ _).never hstarted) _ _

private theorem withInput_result_ne_interrupted (programs : Programs) (control : Control) {m : Machine}
    (h : m.interruption = .never) (stage : Stage) (path : String) :
    (withInput programs control m stage path).result ≠ .error (.escape .interrupted) := by
  unfold withInput
  split
  · simp [stopped]
  · simp [stopped]
  · exact single_result_ne_interrupted programs control h stage _ _

private theorem withOutput_result_ne_interrupted (programs : Programs) (control : Control) {m : Machine}
    (h : m.interruption = .never) (stage : Stage) (keep : Bool) (path : String) :
    (withOutput programs control m stage keep path).result ≠ .error (.escape .interrupted) := by
  unfold withOutput
  split
  · simp [stopped]
  · simp [stopped]
  · next files handle _ =>
    have hopened : ({ m with files } : Machine).interruption = .never := h
    exact single_result_ne_interrupted programs control hopened stage _ _

/-- Where no interrupt is to come, carrying out a plan is not interrupted. -/
theorem run_result_ne_interrupted (programs : Programs) (control : Control) {m : Machine}
    (h : m.interruption = .never) (plan : Plan) :
    (run programs control m plan).result ≠ .error (.escape .interrupted) := by
  cases plan with
  | command stage => exact single_result_ne_interrupted programs control h stage _ _
  | pipeline first second others => exact pipeline_result_ne_interrupted programs control h _
  | redirected stage redirection =>
    obtain ⟨kind, path⟩ := redirection
    cases kind with
    | read => exact withInput_result_ne_interrupted programs control h stage path
    | truncate | append => exact withOutput_result_ne_interrupted programs control h stage _ path

/-! ### Plans that have been read -/

private theorem conclude_ne_parse (control : Control) (m : Machine) (events : List Event) (runs : List (Option Run))
    (e : ParseError) : (conclude control m events runs).result ≠ .error (.error (.parse e)) := by
  unfold conclude
  split <;> simp [interrupt]

private theorem single_result_ne_parse (programs : Programs) (control : Control) (m : Machine) (stage : Stage)
    (input : Stream) (target : Option Handle) (e : ParseError) :
    (single programs control m stage input target).result ≠ .error (.error (.parse e)) := by
  unfold single
  split
  · next fault _ => cases fault <;> simp [stopped, startStop]
  · dsimp only
    split
    · simp [interrupt]
    · split <;> exact conclude_ne_parse _ _ _ _ e

/-- Carrying out a plan does not fail for a text that cannot be read. -/
theorem run_result_ne_parse (programs : Programs) (control : Control) (m : Machine) (plan : Plan) (e : ParseError) :
    (run programs control m plan).result ≠ .error (.error (.parse e)) := by
  have hinput : ∀ stage path, (withInput programs control m stage path).result ≠ .error (.error (.parse e)) := by
    intro stage path
    unfold withInput
    split
    · simp [stopped]
    · simp [stopped]
    · exact single_result_ne_parse programs control m stage _ _ e
  have houtput : ∀ stage keep path,
      (withOutput programs control m stage keep path).result ≠ .error (.error (.parse e)) := by
    intro stage keep path
    unfold withOutput
    split
    · simp [stopped]
    · simp [stopped]
    · exact single_result_ne_parse programs control _ stage _ _ e
  cases plan with
  | command stage => exact single_result_ne_parse programs control m stage _ _ e
  | pipeline first second others =>
    show (pipeline programs control m _).result ≠ _
    unfold pipeline
    dsimp only
    split
    · simp
    · split
      · simp [interrupt]
      · exact conclude_ne_parse control _ _ _ e
  | redirected stage redirection =>
    obtain ⟨kind, path⟩ := redirection
    cases kind with
    | read => exact hinput stage path
    | truncate => exact houtput stage false path
    | append => exact houtput stage true path

end Execution

end CommandShell
