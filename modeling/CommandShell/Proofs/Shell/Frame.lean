import CommandShell.Builtin.Table
import CommandShell.Proofs.Execution.Evolution

/-!
# What built-ins look at and what they change

A built-in reads the registry and the machine of a shell, and `history` reads its lines. It changes a shell only by
telling something, by letting the machine evolve, by registering an alias, or by asking to leave. So a relation
between shells that those steps keep (`Steady`) holds again when the same built-in has run on both sides, and both
runs end alike (`Builtin.run_related`). A property of one shell that the steps keep is the case of equal shells
(`Builtin.run_preserves`).
-/

namespace CommandShell

namespace Shell

/-- A relation between two shells that every step of a built-in keeps, but for registering an alias. -/
structure Quiet (R : Shell → Shell → Prop) : Prop where
  registry : ∀ {s t}, R s t → s.registry = t.registry
  machine : ∀ {s t}, R s t → s.machine = t.machine
  tell : ∀ {s t}, R s t → ∀ e, R (s.tell e) (t.tell e)
  evolve : ∀ {s t m}, R s t → s.machine.Evolves m → R { s with machine := m } { t with machine := m }
  requestExit : ∀ {s t}, R s t → R s.requestExit t.requestExit

/-- A relation between two shells that every step of a built-in keeps. -/
structure Steady (R : Shell → Shell → Prop) : Prop extends Quiet R where
  enrol : ∀ {s t text name line r}, R s t → Builtin.readAlias? text = some (name, line) →
    s.registry.addAlias? name line = some r → R { s with registry := r } { t with registry := r }

end Shell

/-- Two built-ins that end alike, in related shells. -/
def Outcome.Related (R : Shell → Shell → Prop) (o p : Outcome) : Prop := R o.1 p.1 ∧ o.2 = p.2

namespace Builtin

variable {R : Shell → Shell → Prop} {s t : Shell}

private theorem foldl_related {α β : Type} (Q : β → β → Prop) {f : β → α → β}
    (hf : ∀ b c x, Q b c → Q (f b x) (f c x)) (xs : List α) {b c : β} (h : Q b c) :
    Q (xs.foldl f b) (xs.foldl f c) := by
  induction xs generalizing b c with
  | nil => exact h
  | cons x xs ih => exact ih (hf b c x h)

private theorem well_related (h : R s t) : (Outcome.well s).Related R (Outcome.well t) := ⟨h, rfl⟩

private theorem refuse_related (h : R s t) (target : String) (fault : CallFault) :
    (Outcome.refuse s target fault).Related R (Outcome.refuse t target fault) := by
  cases fault <;> exact ⟨h, rfl⟩

/-- Drawing a banner lets the machine evolve. -/
theorem evolves_draw (programs : Programs) (m : Machine) (text : String) : m.Evolves (draw programs m text).1 := by
  have hc := m.evolves_countStart
  have hf := fun files => hc.trans (m.countStart.1.evolves_files files)
  unfold draw
  split
  · exact .refl m
  · exact .refl m
  · dsimp only
    split
    · exact hc
    · split <;> exact hf _

section Steps

variable (hR : Shell.Quiet R)
include hR

private theorem files_eq (h : R s t) : s.files = t.files := congrArg Machine.files (hR.machine h)

private theorem setFiles_related (h : R s t) (files : Files) : R (s.setFiles files) (t.setFiles files) := by
  have hm : { t.machine with files } = { s.machine with files } := by rw [hR.machine h]
  unfold Shell.setFiles
  rw [hm]
  exact hR.evolve h (s.machine.evolves_files files)

private theorem changeDirectory_related (h : R s t) (args : List String) :
    (changeDirectory s args).Related R (changeDirectory t args) := by
  unfold changeDirectory
  rw [← hR.machine h, ← files_eq hR h]
  dsimp only
  split
  · exact ⟨h, rfl⟩
  · split
    · exact ⟨h, rfl⟩
    · split
      · exact well_related (setFiles_related hR h _)
      · exact refuse_related h _ _

private theorem printDirectory_related (h : R s t) : (printDirectory s).Related R (printDirectory t) := by
  unfold printDirectory
  rw [← files_eq hR h]
  split
  · exact well_related (hR.tell h _)
  · exact ⟨h, rfl⟩

private theorem makeDirectory_related (h : R s t) (args : List String) :
    (makeDirectory s args).Related R (makeDirectory t args) := by
  unfold makeDirectory
  rw [← files_eq hR h]
  split
  · exact ⟨h, rfl⟩
  · dsimp only
    split
    · exact well_related (setFiles_related hR h _)
    · exact refuse_related h _ _

private theorem unlinkUnlessAbsent_related (h : R s t) (operand path : String) :
    (remove.unlinkUnlessAbsent s operand path).Related R (remove.unlinkUnlessAbsent t operand path) := by
  unfold remove.unlinkUnlessAbsent
  rw [← files_eq hR h]
  split
  · exact well_related (setFiles_related hR h _)
  · exact well_related h
  · exact refuse_related h _ _

private theorem remove_related (h : R s t) (args : List String) : (remove s args).Related R (remove t args) := by
  unfold remove
  rw [← files_eq hR h]
  split
  · exact ⟨h, rfl⟩
  · dsimp only
    split
    · split
      · exact ⟨h, rfl⟩
      · split
        · exact ⟨h, rfl⟩
        · exact unlinkUnlessAbsent_related hR h _ _
        · split
          · exact well_related (setFiles_related hR h _)
          · exact refuse_related (setFiles_related hR h _) _ _
      · exact unlinkUnlessAbsent_related hR h _ _
    · split
      · exact well_related (setFiles_related hR h _)
      · exact refuse_related h _ _

private theorem touchFile_related (h : R s t) (args : List String) :
    (touchFile s args).Related R (touchFile t args) := by
  unfold touchFile
  rw [← files_eq hR h]
  split
  · exact ⟨h, rfl⟩
  · split
    · exact well_related (setFiles_related hR h _)
    · exact refuse_related h _ _

private theorem printFile_related (h : R s t) (args : List String) :
    (printFile s args).Related R (printFile t args) := by
  unfold printFile
  rw [← files_eq hR h]
  split
  · exact ⟨h, rfl⟩
  · split
    · exact well_related (hR.tell h _)
    · exact refuse_related h _ _

private theorem listEntries_related (directory : Path) (names : List String) (h : R s t) :
    (listEntries directory s names).Related R (listEntries directory t names) := by
  induction names generalizing s t with
  | nil => exact well_related h
  | cons name rest ih =>
    unfold listEntries
    rw [← files_eq hR h]
    dsimp only
    split
    · exact ih (hR.tell h _)
    · exact ⟨h, rfl⟩

private theorem listDirectory_related (h : R s t) (args : List String) :
    (listDirectory s args).Related R (listDirectory t args) := by
  unfold listDirectory
  rw [← files_eq hR h]
  dsimp only
  split
  · exact refuse_related h _ _
  · exact listEntries_related hR _ _ h

private theorem findBelow_related (pattern : String) (fuel : Nat) (h : R s t) (directory : Path) :
    (findBelow pattern fuel s directory).Related R (findBelow pattern fuel t directory) := by
  induction fuel generalizing s t directory with
  | zero => exact well_related h
  | succ fuel ih =>
    unfold findBelow
    rw [← files_eq hR h]
    split
    · exact well_related (hR.tell h _)
    · exact ⟨h, rfl⟩
    · refine foldl_related (Outcome.Related R) ?_ _ (well_related h)
      rintro ⟨u, failure⟩ ⟨v, failure'⟩ name ⟨huv, rfl : failure = failure'⟩
      cases failure with
      | some failure => exact ⟨huv, rfl⟩
      | none =>
        have hw : R (if Text.occurs pattern name then u.writeLine (directory.child name).text else u)
            (if Text.occurs pattern name then v.writeLine (directory.child name).text else v) := by
          split
          · exact hR.tell huv _
          · exact huv
        dsimp only
        rw [← files_eq hR hw]
        split
        · exact ⟨hw, rfl⟩
        · exact well_related hw
        · exact ⟨hw, rfl⟩
        · exact well_related hw
        · exact ih hw _

private theorem findEntries_related (h : R s t) (args : List String) :
    (findEntries s args).Related R (findEntries t args) := by
  unfold findEntries
  rw [← files_eq hR h]
  split
  · split
    · exact findBelow_related hR _ _ h _
    · exact ⟨h, rfl⟩
  · exact ⟨h, rfl⟩

private theorem showHelp_related (h : R s t) : (showHelp s).Related R (showHelp t) := by
  have hhead := hR.tell h (.info (Markup.within "cyan" "Available custom commands:"))
  unfold showHelp Shell.inform
  dsimp only
  rw [← hR.registry hhead]
  refine well_related (hR.tell (foldl_related R ?_ _ hhead) _)
  exact fun _ _ _ huv => hR.tell huv _

private theorem showHistory_related (h : R s t) (hh : s.history = t.history) (args : List String) :
    (showHistory s args).Related R (showHistory t args) := by
  unfold showHistory
  rw [← hh]
  dsimp only
  split
  · exact ⟨h, rfl⟩
  · refine well_related (foldl_related R ?_ _ h)
    exact fun _ _ _ huv => hR.tell huv _

private theorem makePassword_related (h : R s t) (args : List String) :
    (makePassword s args).Related R (makePassword t args) := by
  unfold makePassword
  split
  · exact ⟨h, rfl⟩
  · rw [← hR.machine h]
    exact well_related (hR.tell (hR.evolve h (s.machine.evolves_drawn _)) _)

private theorem systemInformation_related (h : R s t) :
    (systemInformation s).Related R (systemInformation t) := by
  have hhead := hR.tell h (.info (Markup.within "yellow" "System Information:"))
  unfold systemInformation Shell.inform
  dsimp only
  rw [← hR.machine hhead]
  refine well_related (foldl_related R ?_ _ hhead)
  exact fun _ _ _ huv => hR.tell huv _

private theorem qrCode_related (h : R s t) (args : List String) : (qrCode s args).Related R (qrCode t args) := by
  unfold qrCode
  dsimp only
  split
  · exact ⟨h, rfl⟩
  · exact well_related (hR.tell (hR.tell (hR.tell h _) _) _)

private theorem printBanner_related (programs : Programs) (h : R s t) (args : List String) :
    (printBanner programs s args).Related R (printBanner programs t args) := by
  have hhead := hR.tell h (.info (Markup.within "yellow" "Generating banner..."))
  unfold printBanner Shell.inform
  dsimp only
  rw [← hR.machine hhead]
  have hdraw := fun text => hR.evolve hhead (evolves_draw programs _ text)
  split
  · exact well_related (hR.tell (hdraw _) _)
  · refine well_related (hR.tell (foldl_related R ?_ _ (hdraw _)) _)
    exact fun _ _ _ huv => hR.tell huv _
  · exact ⟨hdraw _, rfl⟩
  · exact ⟨hdraw _, rfl⟩

/-- A built-in that registers no alias keeps related shells related and ends alike in both. -/
theorem run_related_of_ne (programs : Programs) {b : Builtin} (hb : b ≠ .aliasing) (h : R s t)
    (hh : b = .history → s.history = t.history) (args : List String) :
    (run programs b s args).Related R (run programs b t args) := by
  cases b with
  | aliasing => exact absurd rfl hb
  | banner => exact printBanner_related hR programs h args
  | cat => exact printFile_related hR h args
  | cd => exact changeDirectory_related hR h args
  | clear => exact well_related (hR.tell h _)
  | date =>
    have hm := hR.machine h
    unfold run showDate
    rw [← hm]
    exact well_related (hR.tell h _)
  | echo => exact well_related (hR.tell h _)
  | exit => exact well_related (hR.requestExit h)
  | find => exact findEntries_related hR h args
  | genpass => exact makePassword_related hR h args
  | greet => exact well_related (hR.tell h _)
  | help => exact showHelp_related hR h
  | history => exact showHistory_related hR h (hh rfl) args
  | ls => exact listDirectory_related hR h args
  | mkdir => exact makeDirectory_related hR h args
  | pwd => exact printDirectory_related hR h
  | qrcode => exact qrCode_related hR h args
  | rm => exact remove_related hR h args
  | sysinfo => exact systemInformation_related hR h
  | touch => exact touchFile_related hR h args

end Steps

private theorem defineAlias_related (hR : Shell.Steady R) (h : R s t) (args : List String) :
    (defineAlias s args).Related R (defineAlias t args) := by
  unfold defineAlias
  rw [← hR.registry h]
  split
  · refine well_related (foldl_related R ?_ _ h)
    exact fun _ _ _ huv => hR.tell huv _
  · cases halias : readAlias? (Text.spaced args) with
    | none => exact ⟨h, rfl⟩
    | some entry =>
      obtain ⟨name, line⟩ := entry
      cases hadd : s.registry.addAlias? name line with
      | none => simpa [hadd, Outcome.Related, Outcome.complain] using h
      | some r =>
        have := hR.tell (hR.enrol h halias hadd) (.info (coloured "green" "Alias created: " name ""))
        simpa [hadd, Outcome.Related, Outcome.well, Shell.inform] using this

/-- The same built-in keeps related shells related and ends alike in both. -/
theorem run_related (hR : Shell.Steady R) (programs : Programs) (b : Builtin) (h : R s t)
    (hh : b = .history → s.history = t.history) (args : List String) :
    (run programs b s args).Related R (run programs b t args) := by
  by_cases hb : b = .aliasing
  · subst hb
    exact defineAlias_related hR h args
  · exact run_related_of_ne hR.toQuiet programs hb h hh args

/-- A built-in that registers no alias leaves the registry as it is. -/
theorem run_registry (programs : Programs) {b : Builtin} (hb : b ≠ .aliasing) (s : Shell) (args : List String) :
    (run programs b s args).1.registry = s.registry := by
  have hR : Shell.Quiet fun u v => u = v ∧ v.registry = s.registry :=
    { registry := fun h => congrArg Shell.registry h.1
      machine := fun h => congrArg Shell.machine h.1
      tell := fun h e => ⟨congrArg (Shell.tell · e) h.1, h.2⟩
      evolve := fun h _ => ⟨by rw [h.1], h.2⟩
      requestExit := fun h => ⟨congrArg Shell.requestExit h.1, h.2⟩ }
  exact (run_related_of_ne hR programs hb ⟨rfl, rfl⟩ (fun _ => rfl) args).1.2

/-- A property of shells that every step of a built-in keeps. -/
structure Invariant (P : Shell → Prop) : Prop where
  tell : ∀ {s}, P s → ∀ e, P (s.tell e)
  evolve : ∀ {s m}, P s → s.machine.Evolves m → P { s with machine := m }
  enrol : ∀ {s text name line r}, P s → readAlias? text = some (name, line) →
    s.registry.addAlias? name line = some r → P { s with registry := r }
  requestExit : ∀ {s}, P s → P s.requestExit

/-- What the steps keep, a built-in keeps. -/
theorem run_preserves {P : Shell → Prop} (hP : Invariant P) (programs : Programs) (b : Builtin) (h : P s)
    (args : List String) : P (run programs b s args).1 := by
  have hR : Shell.Steady fun s t => s = t ∧ P s :=
    { registry := fun h => congrArg Shell.registry h.1
      machine := fun h => congrArg Shell.machine h.1
      tell := fun h e => ⟨congrArg (Shell.tell · e) h.1, hP.tell h.2 e⟩
      evolve := fun h hm => ⟨by rw [h.1], hP.evolve h.2 hm⟩
      enrol := fun h hr ha => ⟨by rw [h.1], hP.enrol h.2 hr ha⟩
      requestExit := fun h => ⟨congrArg Shell.requestExit h.1, hP.requestExit h.2⟩ }
  exact (run_related hR programs b ⟨rfl, h⟩ (fun _ => rfl) args).1.2

end Builtin

end CommandShell
