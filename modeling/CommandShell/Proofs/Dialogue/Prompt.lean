import CommandShell.Proofs.Dialogue.Session
import CommandShell.Proofs.Shell.Standing

/-!
# The prompt

The prompt shows where the shell stands, so it cannot be shown in a directory that has been removed. The home directory
stays known once it is known, and nothing else is needed. A dialogue whose prompt can be shown at its beginning goes on
from prompt to prompt until the user asks to leave or nothing more comes, unless a deed of some line displaces the shell
(`Dialogue.converse_prompts`).
-/

namespace CommandShell

namespace Shell

variable (programs : Programs) (settings : Settings)

/-- What a reply sets going. -/
def replyDeeds (s : Shell) (reply : Reply) : List Deed :=
  match reply.command? with
  | none => []
  | some line => deeds programs ((s.expecting reply).tellAll (settings.stamps s.machine.now)) line

theorem showsPrompt_iff (s : Shell) : s.ShowsPrompt ↔ s.Stands ∧ s.machine.environment.homePath.isSome = true := by
  have hstands : s.files.workingDirectory?.isSome = true ↔ s.Stands := by
    unfold Files.workingDirectory? Stands
    split <;> simp_all
  unfold ShowsPrompt
  rw [hstands]

private theorem kept_environment (environment : Environment) : Kept fun s => s.machine.environment = environment where
  tell hs _ := hs
  evolve hs hm := hm.environment.trans hs
  enrol hs _ _ := hs
  requestExit hs := hs
  setExpanding hs _ := hs

/-- A reply changes neither the environment nor how programs are supervised. -/
theorem heard_keeps (s : Shell) (reply : Reply) :
    (s.heard programs settings reply).machine.environment = s.machine.environment ∧
      (s.heard programs settings reply).control = s.control := by
  have hexpecting : (s.expecting reply).machine.environment = s.machine.environment ∧
      (s.expecting reply).control = s.control := by cases reply <;> exact ⟨rfl, rfl⟩
  unfold heard
  cases reply.command? with
  | none => exact hexpecting
  | some line =>
    have hrun := runNested_keeps (kept_environment s.machine.environment) programs (fun _ _ h => h) nestingLimit
      (s := (s.expecting reply).tellAll (settings.stamps s.machine.now)) hexpecting.1 line
    exact ⟨hrun, (runNested_control programs nestingLimit _ line).trans hexpecting.2⟩

/-- A reply that displaces the shell by none of its deeds leaves it in a directory that is there. -/
theorem heard_stands {s : Shell} (hs : s.Stands) {reply : Reply}
    (h : NoneDisplaces programs s.control (s.replyDeeds programs settings reply)) :
    (s.heard programs settings reply).Stands := by
  have hexpecting : (s.expecting reply).Stands := by cases reply <;> exact hs
  have hcontrol : (s.expecting reply).control = s.control := by cases reply <;> rfl
  unfold replyDeeds at h
  unfold heard
  cases hcommand : reply.command? with
  | none => exact hexpecting
  | some line =>
    rw [hcommand] at h
    rw [← hcontrol] at h
    exact run_standing programs (s := (s.expecting reply).tellAll (settings.stamps s.machine.now)) hexpecting h

variable {programs settings}

theorem Turns.keeps {s t : Shell} {replies : List Reply} (h : Turns programs settings s replies t) :
    t.machine.environment = s.machine.environment ∧ t.control = s.control := by
  induction h with
  | nil s => exact ⟨rfl, rfl⟩
  | @cons s t reply rest _ _ _ ih =>
    obtain ⟨henvironment, hcontrol⟩ := heard_keeps programs settings s reply
    exact ⟨ih.1.trans henvironment, ih.2.trans hcontrol⟩

/-- The last of some turns. -/
theorem Turns.eq_nil_or_last {s t : Shell} {replies : List Reply} (h : Turns programs settings s replies t) :
    (replies = [] ∧ t = s) ∨ ∃ front reply u, replies = front ++ [reply] ∧ Turns programs settings s front u ∧
      u.Awaits ∧ t = u.heard programs settings reply := by
  induction h with
  | nil s => exact .inl ⟨rfl, rfl⟩
  | @cons s t reply rest hawaits hreply hrest ih =>
    right
    rcases ih with ⟨rfl, rfl⟩ | ⟨front, last, u, rfl, hfront, hawaits', rfl⟩
    · exact ⟨[], reply, s, rfl, .nil s, hawaits, rfl⟩
    · exact ⟨reply :: front, last, u, rfl, .cons hawaits hreply hfront, hawaits', rfl⟩

end Shell

namespace Dialogue

/-- A dialogue that begins where the prompt can be shown takes replies turn by turn. Either it ends because the user
has asked to leave, or at a prompt at which nothing more comes; then the history is saved if it is kept, as `Closes`
tells. Or it breaks off at a prompt that cannot be shown, because the last reply left the shell in a directory that has
been removed; and then a deed of this reply has displaced it. -/
theorem converse_prompts (programs : Programs) {shell : Shell} (settings : Settings) (keepsHistory : Bool)
    (replies : List Reply) (hprompt : shell.ShowsPrompt) :
    ∃ taken rest t, replies = taken ++ rest ∧
      Shell.Turns programs settings (shell.tellAll Event.welcome) taken t ∧
      Closes keepsHistory t ((start shell settings keepsHistory).converse programs replies) ∧
      ((t.exitRequested = true ∨ (t.ShowsPrompt ∧ (rest = [] ∨ ∃ later, rest = .endOfInput :: later))) ∨
        (t.exitRequested = false ∧ ¬ t.Stands ∧
          ((start shell settings keepsHistory).converse programs replies).2 ≠ none ∧
          ∃ front reply u, taken = front ++ [reply] ∧
            Shell.Turns programs settings (shell.tellAll Event.welcome) front u ∧ u.Awaits ∧
            t = u.heard programs settings reply ∧
            ∃ deed ∈ u.replyDeeds programs settings reply,
              deed.machine.files.place.lost = [] ∧ deed.Displaces programs shell.control)) := by
  obtain ⟨taken, rest, t, hreplies, hturns, hend, -, -, hcloses⟩ :=
    converse_turns programs shell settings keepsHistory replies
  refine ⟨taken, rest, t, hreplies, hturns, hcloses, ?_⟩
  cases hexit : t.exitRequested with
  | true => exact .inl (.inl rfl)
  | false =>
    by_cases hshows : t.ShowsPrompt
    · exact .inl (.inr ⟨hshows, hend ⟨hexit, hshows⟩⟩)
    right
    have hhome : t.machine.environment.homePath.isSome = true := by
      rw [hturns.keeps.1]
      exact hprompt.2
    have hstranded : ¬ t.Stands := fun hstands => hshows ((Shell.showsPrompt_iff t).2 ⟨hstands, hhome⟩)
    have hbroken : ((start shell settings keepsHistory).converse programs replies).2 ≠ none := by
      rw [Ne, hcloses.proper]
      rintro ⟨hleft | hshows', -⟩
      · simp [hexit] at hleft
      · exact hshows hshows'
    refine ⟨rfl, hstranded, hbroken, ?_⟩
    rcases hturns.eq_nil_or_last with ⟨-, rfl⟩ | ⟨front, reply, u, hfront, hturns', hawaits, rfl⟩
    · exact absurd hprompt hshows
    refine ⟨front, reply, u, hfront, hturns', hawaits, rfl, ?_⟩
    by_contra hnone
    have hcontrol : u.control = shell.control := hturns'.keeps.2
    refine hstranded (Shell.heard_stands programs settings ((Shell.showsPrompt_iff u).1 hawaits.2).1 ?_)
    intro deed hdeed hfound hdisplaces
    exact hnone ⟨deed, hdeed, hfound, hcontrol ▸ hdisplaces⟩

/-- A shell that stands in a directory below the root directory. -/
def lodged : Shell :=
  (Shell.bare .builtins).setFiles ⟨⟨[(["d"], ⟨.directory, Entry.directoryMode⟩)]⟩, .ofLocation ["d"]⟩

private theorem showsPrompt_lodged : lodged.ShowsPrompt := ⟨by decide +kernel, by decide +kernel⟩

/-- An end of the input at the first prompt ends the dialogue. -/
theorem converse_prompts_lodged :
    lodged.ShowsPrompt ∧
      ((start lodged (.default History.barePath) true).converse ⟨[], fun _ i => i.finish [] [] 0⟩ [.endOfInput]).2 =
        none := by
  refine ⟨showsPrompt_lodged, ?_⟩
  obtain ⟨taken, rest, t, hreplies, hturns, hcloses, -⟩ :=
    converse_prompts ⟨[], fun _ i => i.finish [] [] 0⟩ (.default History.barePath) true [.endOfInput] showsPrompt_lodged
  cases hturns with
  | nil => exact hcloses.proper.2 ⟨.inr showsPrompt_lodged, fun _ => nofun⟩
  | cons hawaits hreply hrest => exact absurd (List.cons.inj hreplies).1.symm hreply

private theorem route_lodged : Route.ofText "../d" = .ok ⟨false, ["..", "d"], false⟩ := by decide +kernel

private theorem resolve_lodged (follow : Bool) :
    lodged.files.resolve follow "../d" = .ok (.present ["d"] ⟨.directory, Entry.directoryMode⟩) := by
  have hwalk : ∀ follow, lodged.files.tree.walk follow Tree.linkLimit (.ofLocation ["d"]) ["..", "d"] =
      .ok (.present ["d"] ⟨.directory, Entry.directoryMode⟩) := by
    intro follow
    rw [Tree.walk, if_neg (by decide +kernel), if_neg (by decide), if_pos rfl,
      Tree.walk_name (by decide +kernel) (by decide) (by decide) (by decide) (by decide +kernel)]
    show lodged.files.tree.walk follow _ (.ofLocation ["d"]) [] = _
    rw [Tree.walk]
    rfl
  rw [Files.resolve_of_ofText route_lodged]
  unfold Tree.resolve
  dsimp only
  rw [if_neg (by decide), show lodged.files.place = .ofLocation ["d"] from rfl, hwalk]
  rfl

private theorem removeTree_lodged : lodged.files.removeTree "../d" = (⟨⟨[]⟩, ⟨[], ["d"]⟩⟩, none) := by
  have hempty : lodged.files.tree.namesIn ["d"] = [] := List.mergeSort_nil
  have hcontent : ∀ fuel, Files.removeContent fuel lodged.files ["d"] = (lodged.files, none) := by
    intro fuel
    cases fuel with
    | zero => rfl
    | succ fuel =>
      rw [Files.removeContent, hempty]
      rfl
  have hremoved : lodged.files.removeDirectory "../d" = .ok ⟨⟨[]⟩, ⟨[], ["d"]⟩⟩ := by
    have hresolve := resolve_lodged false
    rw [Files.resolve_of_ofText route_lodged] at hresolve
    unfold Files.removeDirectory
    rw [route_lodged]
    simp only [bind, Except.bind]
    rw [if_neg (by decide), hresolve]
    show (lodged.files.removeDirectoryAt ["d"]).mapError _ = _
    unfold Files.removeDirectoryAt
    rw [hempty]
    rfl
  unfold Files.removeTree
  rw [resolve_lodged]
  dsimp only
  rw [if_neg (by decide), hcontent]
  unfold Files.removeTree.finish
  dsimp only
  rw [hremoved]

/-- The directory in which the shell stands is removed like any other. -/
private theorem remove_lodged {s : Shell} (h : s.files = lodged.files) :
    Builtin.remove s ["-r", "../d"] = (s.setFiles ⟨⟨[]⟩, ⟨[], ["d"]⟩⟩, none) := by
  have hoperand : Builtin.firstOperand? ["-r", "../d"] = some "../d" := by decide +kernel
  have hpath : Builtin.pathText "../d" = "../d" := by decide +kernel
  have hdirectory : lodged.files.isDirectory "../d" = .ok true := by
    unfold Files.isDirectory Files.ask
    rw [resolve_lodged]
    rfl
  have hlink : lodged.files.isLink "../d" = .ok false := by
    unfold Files.isLink Files.ask
    rw [resolve_lodged]
    rfl
  unfold Builtin.remove
  rw [hoperand]
  dsimp only
  rw [hpath, h, if_pos (by decide +kernel), hdirectory]
  dsimp only
  rw [hlink]
  dsimp only
  rw [removeTree_lodged]
  rfl

/-- A line removes the directory in which the shell stands. The next prompt cannot be shown, and the dialogue breaks off
there, though the user has not asked to leave. -/
theorem converse_breaks_off :
    lodged.ShowsPrompt ∧
      ∃ t, Shell.Turns ⟨[], fun _ i => i.finish [] [] 0⟩ (.default History.barePath) lodged [.line "rm -r ../d"] t ∧
        t.exitRequested = false ∧ ¬ t.ShowsPrompt ∧
        ((⟨lodged, .default History.barePath, true, []⟩ : Dialogue).converse ⟨[], fun _ i => i.finish [] [] 0⟩
          [.line "rm -r ../d", .endOfInput]).2 ≠ none := by
  generalize hprograms : (⟨[], fun _ i => i.finish [] [] 0⟩ : Programs) = programs
  have hshows := showsPrompt_lodged
  have hawaits : lodged.Awaits := ⟨rfl, hshows⟩
  have hcommand : Reply.command? (.line "rm -r ../d") = some "rm -r ../d" := by decide +kernel
  have hsegments : segments "rm -r ../d" = ["rm -r ../d"] := by decide +kernel
  have hplan : Plan.ofSegment "rm -r ../d" = .ok (.command ⟨"rm", ["-r", "../d"]⟩) := rfl
  have hheard : (lodged.heard programs (.default History.barePath) (.line "rm -r ../d")).exitRequested = false ∧
      ¬ (lodged.heard programs (.default History.barePath) (.line "rm -r ../d")).ShowsPrompt := by
    unfold Shell.heard
    rw [hcommand]
    dsimp only
    generalize hstamped : (lodged.expecting (.line "rm -r ../d")).tellAll _ = stamped
    have hrun : stamped.run programs "rm -r ../d" =
        ((stamped.record "rm -r ../d").setFiles ⟨⟨[]⟩, ⟨[], ["d"]⟩⟩, none) := by
      have hremove : Builtin.remove (stamped.record "rm -r ../d") ["-r", "../d"] =
          ((stamped.record "rm -r ../d").setFiles ⟨⟨[]⟩, ⟨[], ["d"]⟩⟩, none) := by
        subst hstamped
        exact remove_lodged rfl
      subst hstamped
      show Shell.runSegments _ (Shell.record _ _) (segments _) = _
      rw [hsegments]
      unfold Shell.runSegments
      rw [if_neg (by decide), Shell.runSegmentWith_of_native programs _ hplan rfl]
      unfold Shell.runHandler
      dsimp only [Builtin.run]
      rw [hremove]
      rfl
    subst hstamped
    rw [hrun]
    refine ⟨rfl, ?_⟩
    rintro ⟨hstands, -⟩
    cases hstands
  have hline : Reply.line "rm -r ../d" ≠ .endOfInput := by rintro ⟨⟩
  refine ⟨hshows, _, .cons hawaits hline (.nil _), hheard.1, hheard.2, ?_⟩
  obtain ⟨after, hafter, hshell, hrules⟩ := converse_of_awaits programs
    (d := ⟨lodged, .default History.barePath, true, []⟩) hawaits hline [.endOfInput]
  have hnot : ¬ after.shell.ShowsPrompt := by
    rw [hshell]
    exact hheard.2
  have hexit : after.shell.exitRequested = false := by
    rw [hshell]
    exact hheard.1
  rw [hafter, Ne, (closes_of_not_awaits programs (fun h => hnot h.2) [.endOfInput]).proper]
  rintro ⟨hleft | hshows', -⟩
  · simp [hexit] at hleft
  · exact hnot hshows'

end Dialogue

end CommandShell
