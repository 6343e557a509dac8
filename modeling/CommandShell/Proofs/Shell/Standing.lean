import CommandShell.Proofs.Files.Removing
import CommandShell.Proofs.Shell.Deeds
import CommandShell.Proofs.Shell.Invariant

/-!
# Where the shell stands

A shell that stands in a directory which is there still does when a line has been run, unless one of the deeds of the
line has displaced it (`Shell.run_standing`): a directory in which it stands was removed, by `rm` with an option for
directories or by a program (`Deed.Displaces`). No other command does that, in whatever order they come and under
whatever names they are called.
-/

namespace CommandShell

namespace Builtin

/-- The text of a banner with the given arguments. -/
def bannerText (args : List String) : String :=
  if (Text.spaced args).isEmpty then usualBannerText else Text.spaced args

end Builtin

/-- A deed that leaves the shell in a directory which has been removed: `rm` for a directory in which it stands or one
above that, or a program, on its own behalf or for a banner, that does the like. -/
inductive Deed.Displaces (programs : Programs) (control : Control) : Deed → Prop
  | removes {m : Machine} {stage : Stage} {operand : String} {spot : Location} {e : Entry}
      (hrecursive : Builtin.recursiveOptions.any stage.args.contains = true)
      (hoperand : Builtin.firstOperand? stage.args = some operand)
      (hdirectory : m.files.isDirectory (Builtin.pathText operand) = .ok true)
      (hlink : m.files.isLink (Builtin.pathText operand) = .ok false)
      (hleads : m.files.resolve true (Builtin.pathText operand) = .ok (.present spot e))
      (habove : spot <+: m.files.place.live)
      (hlost : (m.files.removeTree (Builtin.pathText operand)).1.place.lost ≠ []) :
      Displaces programs control ⟨m, .calls stage (.builtin .rm)⟩
  | draws {m : Machine} {stage : Stage}
      (hlost : (Builtin.draw programs m (Builtin.bannerText stage.args)).1.files.place.lost ≠ []) :
      Displaces programs control ⟨m, .calls stage (.builtin .banner)⟩
  | carriesOut {m : Machine} {plan : Plan}
      (hlost : (Execution.run programs control m plan).machine.files.place.lost ≠ []) :
      Displaces programs control ⟨m, .carriesOut plan⟩

namespace Builtin

/-! ### Commands that leave the files alone -/

/-- A shell with the files of another. -/
private def SameFiles (s t : Shell) : Prop := t.files = s.files

private theorem foldl_sameFiles {α : Type} {f : Shell → α → Shell} (hf : ∀ s x, SameFiles s (f s x)) (s : Shell)
    (xs : List α) : SameFiles s (xs.foldl f s) :=
  List.foldlRecOn (motive := SameFiles s) xs f rfl fun t ht x _ => (hf t x).trans ht

private theorem refuse_sameFiles (s : Shell) (target : String) (fault : CallFault) :
    SameFiles s (Outcome.refuse s target fault).1 := by
  cases fault <;> rfl

private theorem listEntries_sameFiles (directory : Path) (s : Shell) (names : List String) :
    SameFiles s (listEntries directory s names).1 := by
  induction names generalizing s with
  | nil => rfl
  | cons name rest ih =>
    unfold listEntries
    dsimp only
    split
    · exact ih _
    · rfl

private theorem findBelow_sameFiles (pattern : String) (fuel : Nat) (s : Shell) (directory : Path) :
    SameFiles s (findBelow pattern fuel s directory).1 := by
  induction fuel generalizing s directory with
  | zero => rfl
  | succ fuel ih =>
    unfold findBelow
    split
    · rfl
    · rfl
    · refine List.foldlRecOn (motive := fun (o : Outcome) => SameFiles s o.1) _ _ rfl ?_
      rintro ⟨t, failure⟩ ht name -
      cases failure with
      | some failure => exact ht
      | none =>
        have hwritten : SameFiles s
            (if Text.occurs pattern name then t.writeLine (directory.child name).text else t) := by
          split <;> exact ht
        dsimp only
        split
        · exact hwritten
        · exact hwritten
        · exact hwritten
        · exact hwritten
        · exact (ih _ _).trans hwritten

private theorem run_sameFiles (programs : Programs) {b : Builtin}
    (hb : b ∉ [.banner, .cd, .mkdir, .rm, .touch]) (s : Shell) (args : List String) :
    SameFiles s (run programs b s args).1 := by
  cases b with
  | banner | cd | mkdir | rm | touch => simp at hb
  | clear | date | echo | exit | greet => rfl
  | aliasing =>
    show SameFiles s (defineAlias s args).1
    unfold defineAlias
    split
    · exact foldl_sameFiles (fun _ _ => by rfl) s _
    · dsimp only
      split <;> rfl
  | cat =>
    show SameFiles s (printFile s args).1
    unfold printFile
    split
    · rfl
    · split
      · rfl
      · exact refuse_sameFiles _ _ _
  | find =>
    show SameFiles s (findEntries s args).1
    unfold findEntries
    split
    · split
      · exact findBelow_sameFiles _ _ _ _
      · rfl
    · rfl
  | genpass =>
    show SameFiles s (makePassword s args).1
    unfold makePassword
    split <;> rfl
  | help => exact foldl_sameFiles (fun _ _ => by rfl) _ _
  | history =>
    show SameFiles s (showHistory s args).1
    unfold showHistory
    dsimp only
    split
    · rfl
    · exact foldl_sameFiles (fun _ _ => by rfl) s _
  | ls =>
    show SameFiles s (listDirectory s args).1
    unfold listDirectory
    dsimp only
    split
    · exact refuse_sameFiles _ _ _
    · exact listEntries_sameFiles _ _ _
  | pwd =>
    show SameFiles s (printDirectory s).1
    unfold printDirectory
    split <;> rfl
  | qrcode =>
    show SameFiles s (qrCode s args).1
    unfold qrCode
    dsimp only
    split <;> rfl
  | sysinfo =>
    show SameFiles s (systemInformation s).1
    unfold systemInformation
    dsimp only
    generalize systemRows _ = rows
    exact (foldl_sameFiles (fun _ _ => by rfl) _ rows).trans rfl

/-! ### Commands that do not -/

section Standing

variable {s : Shell} (hs : s.files.place.lost = [])
include hs

private theorem refuse_standing (target : String) (fault : CallFault) :
    (Outcome.refuse s target fault).1.files.place.lost = [] := by
  rw [refuse_sameFiles s target fault]
  exact hs

private theorem changeDirectory_standing (args : List String) : (changeDirectory s args).1.files.place.lost = [] := by
  unfold changeDirectory
  dsimp only
  split
  · exact hs
  · split
    · exact hs
    · split
      · next files hgo => exact Files.changeDirectory_lost hs hgo
      · exact refuse_standing hs _ _

private theorem makeDirectory_standing (args : List String) : (makeDirectory s args).1.files.place.lost = [] := by
  unfold makeDirectory
  split
  · exact hs
  · dsimp only
    split
    · next files hmade =>
      rw [← Files.makeDirectories_place hmade] at hs
      exact hs
    · exact refuse_standing hs _ _

private theorem touchFile_standing (args : List String) : (touchFile s args).1.files.place.lost = [] := by
  unfold touchFile
  split
  · exact hs
  · split
    · next files htouched =>
      rw [← Files.touch_place htouched] at hs
      exact hs
    · exact refuse_standing hs _ _

private theorem unlinkUnlessAbsent_standing (operand path : String) :
    (remove.unlinkUnlessAbsent s operand path).1.files.place.lost = [] := by
  unfold remove.unlinkUnlessAbsent
  split
  · next files hunlinked =>
    rw [← Files.unlink_place hunlinked] at hs
    exact hs
  · exact hs
  · exact refuse_standing hs _ _

/-- What `rm` has done if the shell no longer stands in a directory which is there. -/
private theorem exists_of_remove_lost {args : List String} (h : (remove s args).1.files.place.lost ≠ []) :
    ∃ operand spot e, recursiveOptions.any args.contains = true ∧ firstOperand? args = some operand ∧
      s.files.isDirectory (pathText operand) = .ok true ∧ s.files.isLink (pathText operand) = .ok false ∧
      s.files.resolve true (pathText operand) = .ok (.present spot e) ∧ spot <+: s.files.place.live ∧
      (s.files.removeTree (pathText operand)).1.place.lost ≠ [] := by
  unfold remove at h
  split at h
  · exact absurd hs h
  · next operand hoperand =>
    have habove : (s.files.removeTree (pathText operand)).1.place.lost ≠ [] → ∃ spot e,
        s.files.resolve true (pathText operand) = .ok (.present spot e) ∧ spot <+: s.files.place.live := by
      intro hlost
      exact Files.prefix_of_removeTree hs fun hsame => hlost (hsame ▸ hs)
    dsimp only at h
    split at h
    · next hrecursive =>
      split at h
      · exact absurd hs h
      · next hdirectory =>
        split at h
        · exact absurd hs h
        · exact absurd (unlinkUnlessAbsent_standing hs _ _) h
        · next hlink =>
          have hlost : (s.files.removeTree (pathText operand)).1.place.lost ≠ [] := by
            split at h
            · next files heq =>
              rw [heq]
              exact h
            · next files fault heq =>
              rw [heq]
              rwa [refuse_sameFiles (s.setFiles files) operand fault] at h
          obtain ⟨spot, e, hleads, hprefix⟩ := habove hlost
          exact ⟨operand, spot, e, hrecursive, hoperand, hdirectory, hlink, hleads, hprefix, hlost⟩
      · exact absurd (unlinkUnlessAbsent_standing hs _ _) h
    · split at h
      · next files hunlinked =>
        rw [← Files.unlink_place hunlinked] at hs
        exact absurd hs h
      · exact absurd (refuse_standing hs _ _) h

omit hs in
private theorem printBanner_files (programs : Programs) (args : List String) :
    (printBanner programs s args).1.files = (draw programs s.machine (bannerText args)).1.files := by
  unfold printBanner bannerText
  dsimp only [Shell.inform]
  show Shell.files _ = _
  generalize hdrawn : draw programs _ _ = drawn
  have hdrawn' : draw programs s.machine
      (if (Text.spaced args).isEmpty = true then usualBannerText else Text.spaced args) = drawn := hdrawn
  rw [hdrawn']
  obtain ⟨machine, _ | _ | _ | _⟩ := drawn
  · rfl
  · exact foldl_sameFiles (fun _ _ => by rfl) _ _
  · rfl
  · rfl

omit hs in
private theorem remove_of_removeTree {args : List String} {operand : String}
    (hrecursive : recursiveOptions.any args.contains = true) (hoperand : firstOperand? args = some operand)
    (hdirectory : s.files.isDirectory (pathText operand) = .ok true)
    (hlink : s.files.isLink (pathText operand) = .ok false) :
    (remove s args).1.files = (s.files.removeTree (pathText operand)).1 := by
  unfold remove
  rw [hoperand]
  dsimp only
  rw [if_pos hrecursive, hdirectory]
  dsimp only
  rw [hlink]
  dsimp only
  rcases s.files.removeTree (pathText operand) with ⟨files, _ | fault⟩
  · rfl
  · exact refuse_sameFiles _ _ _

/-- A built-in leaves the shell in a directory that has been removed exactly if it displaces it. -/
theorem run_lost_iff (programs : Programs) (control : Control) (b : Builtin) (stage : Stage) :
    (run programs b s stage.args).1.files.place.lost ≠ [] ↔
      Deed.Displaces programs control ⟨s.machine, .calls stage (.builtin b)⟩ := by
  constructor
  · intro hlost
    by_cases hb : b ∈ [.banner, .cd, .mkdir, .rm, .touch]
    · simp only [List.mem_cons, List.not_mem_nil, or_false] at hb
      rcases hb with rfl | rfl | rfl | rfl | rfl
      · refine .draws ?_
        rw [← printBanner_files]
        exact hlost
      · exact absurd (changeDirectory_standing hs _) hlost
      · exact absurd (makeDirectory_standing hs _) hlost
      · obtain ⟨operand, spot, e, hrecursive, hoperand, hdirectory, hlink, hleads, habove, hgone⟩ :=
          exists_of_remove_lost hs hlost
        exact .removes hrecursive hoperand hdirectory hlink hleads habove hgone
      · exact absurd (touchFile_standing hs _) hlost
    · rw [run_sameFiles programs hb s] at hlost
      exact absurd hs hlost
  · rintro (⟨hrecursive, hoperand, hdirectory, hlink, -, -, hlost⟩ | ⟨hlost⟩)
    · show (remove s stage.args).1.files.place.lost ≠ []
      rwa [remove_of_removeTree hrecursive hoperand hdirectory hlink]
    · show (printBanner programs s stage.args).1.files.place.lost ≠ []
      rwa [printBanner_files]

end Standing

end Builtin

namespace Shell

/-! ### Lines -/

/-- The shell stands in a directory that is there. -/
def Stands (s : Shell) : Prop := s.files.place.lost = []

/-- None of the deeds that find the shell in a directory which is there displaces it. -/
def NoneDisplaces (programs : Programs) (control : Control) (done : List Deed) : Prop :=
  ∀ deed ∈ done, deed.machine.files.place.lost = [] → ¬ deed.Displaces programs control

/-- A shell that stands in a directory which is there still does after a text, unless a deed of the text displaces
it. -/
def KeepsStanding (programs : Programs) (control : Control) (runOne : Shell → String → Shell × Option Escape)
    (deedsOne : Shell → String → List Deed) : Prop :=
  ∀ s text, s.control = control → s.Stands → NoneDisplaces programs control (deedsOne s text) →
    (runOne s text).1.Stands

private theorem kept_control (control : Control) : Kept fun s => s.control = control where
  tell hs _ := hs
  evolve hs _ := hs
  enrol hs _ _ := hs
  requestExit hs := hs
  setExpanding hs _ := hs

variable (programs : Programs) {control : Control}

theorem runNested_control (depth : Nat) (s : Shell) (line : String) :
    (runNested programs depth s line).1.control = s.control :=
  runNested_keeps (kept_control s.control) programs (fun _ _ h => h) depth rfl line

private theorem report_stands {ended : Shell × Option Stop} (h : ended.1.Stands) : (report ended).1.Stands := by
  obtain ⟨s, _ | e | e⟩ := ended <;> exact h

private theorem execute_stands {s : Shell} {plan : Plan} (hcontrol : s.control = control)
    (h : ¬ Deed.Displaces programs control ⟨s.machine, .carriesOut plan⟩) : (execute programs s plan).1.Stands := by
  have hplace : (Execution.run programs s.control s.machine plan).machine.files.place.lost = [] := by
    rw [hcontrol]
    by_contra hlost
    exact h (.carriesOut hlost)
  unfold execute
  dsimp only
  split
  · exact hplace
  · split
    · split <;> exact hplace
    · exact hplace

variable {rerun : Shell → String → Shell × Option Escape} {within : Shell → String → List Deed}

private theorem runHandler_stands (hrerun : KeepsStanding programs control rerun within) {s : Shell}
    (hcontrol : s.control = control) (hs : s.Stands) (stage : Stage) (handler : Handler)
    (h : NoneDisplaces programs control (handlerDeeds within s stage handler)) :
    (runHandler programs rerun s stage handler).1.Stands := by
  cases handler with
  | builtin b =>
    have hrun : (Builtin.run programs b s stage.args).1.Stands := by
      by_contra hlost
      exact h _ (List.mem_singleton_self _) hs ((Builtin.run_lost_iff hs programs control b stage).1 hlost)
    unfold runHandler
    dsimp only
    generalize Builtin.run programs b s stage.args = outcome at hrun
    rcases outcome with ⟨after, _ | complaint | mishap | _⟩ <;> exact hrun
  | record label => exact hs
  | fail text => exact hs
  | refuse name => exact hs
  | rerun line =>
    have hrun := hrerun s line hcontrol hs fun deed hdeed => h deed (List.mem_cons_of_mem _ hdeed)
    unfold runHandler
    dsimp only
    generalize rerun s line = ended at hrun
    rcases ended with ⟨after, _ | mishap | _⟩ <;> exact hrun

private theorem runSegmentWith_keepsStanding (hrerun : KeepsStanding programs control rerun within) :
    KeepsStanding programs control (runSegmentWith programs rerun) (deedsWith within) := by
  intro s segment hcontrol hs h
  rcases s.registry.turn_cases s.expanding segment with ⟨e, ht⟩ | ⟨plan, ht, hl⟩ |
    ⟨stage, handler, description, ht, hf⟩ | ⟨stage, line, ht, hf, hn⟩
  · rw [runSegmentWith_of_error programs rerun ht]
    exact report_stands hs
  · rw [deedsWith_of_leaves within ht hl] at h
    rw [runSegmentWith_of_leaves programs rerun ht hl]
    exact report_stands (execute_stands programs hcontrol (h _ (List.mem_singleton_self _) hs))
  · rw [deedsWith_of_native within ht hf] at h
    rw [runSegmentWith_of_native programs rerun ht hf]
    exact report_stands (runHandler_stands programs hrerun hcontrol hs stage handler h)
  · -- Fewer aliases are left to expand within this one, and the machine is still the same.
    rw [deedsWith_of_alias within ht hf hn] at h
    have ih := runSegmentWith_keepsStanding hrerun (s.expand stage.command) (Text.spaced (line :: stage.args)) hcontrol
      hs fun deed hdeed => h deed (List.mem_cons_of_mem _ hdeed)
    rw [runSegmentWith_of_alias programs rerun ht hf hn]
    exact report_stands ih
termination_by s => (s.registry.unseen s.expanding).card
decreasing_by exact Registry.card_unseen_lt hf hn

private theorem runSegments_stands {runOne : Shell → String → Shell × Option Escape}
    {deedsOne : Shell → String → List Deed} (hone : KeepsStanding programs control runOne deedsOne)
    (hkeeps : ∀ s text, (runOne s text).1.control = s.control) {s : Shell} (hcontrol : s.control = control)
    (hs : s.Stands) {texts : List String} (h : NoneDisplaces programs control (deedsFrom runOne deedsOne s texts)) :
    (runSegments runOne s texts).1.Stands := by
  induction texts generalizing s with
  | nil => exact hs
  | cons segment rest ih =>
    unfold deedsFrom at h
    unfold runSegments
    split
    · exact hs
    · next hexit =>
      rw [if_neg hexit] at h
      have hafter := hone s segment hcontrol hs fun deed hdeed => h deed (List.mem_append_left _ hdeed)
      have hcontrol' := (hkeeps s segment).trans hcontrol
      generalize runOne s segment = ended at h hafter hcontrol'
      rcases ended with ⟨after, _ | e⟩
      · exact ih hcontrol' hafter fun deed hdeed => h deed (List.mem_append_right _ hdeed)
      · exact hafter

private theorem runNested_keepsStanding (depth : Nat) :
    KeepsStanding programs control (runNested programs depth) (nestedDeeds programs depth) := by
  induction depth with
  | zero => exact fun s line _ hs _ => hs
  | succ depth ih =>
    intro s line hcontrol hs h
    have hrerun : ∀ c, KeptByRerun (fun t => t.control = c) (runNested programs depth) :=
      fun c t _ text _ ht _ => (runNested_control programs depth t text).trans ht
    exact runSegments_stands programs (runSegmentWith_keepsStanding programs ih)
      (fun t text => runSegmentWith_keeps (kept_control t.control) programs (hrerun _) rfl text) (s := s.record line)
      hcontrol hs h

/-- A line does not leave the shell in a directory that has been removed unless one of its deeds displaces it. -/
theorem run_standing {s : Shell} {line : String} (hs : s.Stands)
    (h : NoneDisplaces programs s.control (deeds programs s line)) : (run programs s line).1.Stands :=
  runNested_keepsStanding programs nestingLimit s line rfl hs h

end Shell

end CommandShell
