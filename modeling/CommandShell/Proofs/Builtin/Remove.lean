import CommandShell.Builtin.FileCommands
import CommandShell.Proofs.Files.Rooted
import CommandShell.Proofs.Shell.Resolution

/-!
# Removing what is named

`rm` touches nothing but the entry that its first operand names and what is below it, whether it succeeds or not
(`Builtin.remove_touches_named`). A link is named itself; what it leads to is left alone, at the end of the path as well
as within a directory that is removed.
-/

namespace CommandShell

namespace Files

/-- What a path leads to is what it names, if that is no link. -/
theorem resolve_unfollowed {files : Files} {path : String} {target : Target} (h : files.resolve true path = .ok target)
    (hlink : files.isLink path = .ok false) : files.resolve false path = .ok target := by
  obtain ⟨r, hr, hresolve⟩ := exists_route_of_resolve h
  have hends : ∀ {found}, files.tree.resolve files.place false r = .ok found →
      files.resolve false path = .ok found := by
    intro found hfound
    rw [resolve_of_ofText hr, hfound]
    rfl
  cases htrailing : r.trailing with
  | true =>
    -- A slash at the end follows a link anyway.
    obtain ⟨hwalk, hdirectory⟩ := Tree.resolve_eq_ok_iff.1 hresolve
    exact hends (Tree.resolve_eq_ok_iff.2 ⟨by simpa [htrailing] using hwalk, hdirectory⟩)
  | false =>
    rw [Tree.resolve_of_not_trailing htrailing] at hresolve
    have hnot := @Tree.resolve_of_not_trailing files.tree false files.place r htrailing
    rcases Tree.walk_unfollowed hresolve with hsame | ⟨spot, e, he, hfound⟩
    · exact hends (hnot.trans hsame)
    · have hfound := hends (hnot.trans hfound)
      have hanswer := Except.ok.inj (hlink.symm.trans (ask_of_resolve hfound _))
      exact absurd hanswer (by simp [he])

end Files

@[simp] theorem Shell.files_setFiles (s : Shell) (files : Files) : (s.setFiles files).files = files := rfl

namespace Builtin

/-- The first operand names an entry. If there is a link at its end, that is the entry, also where a slash follows: the
operand is read as a path, in which slashes at the end do not count. -/
def Names (files : Files) (args : List String) (spot : Location) (e : Entry) : Prop :=
  ∃ operand, firstOperand? args = some operand ∧ files.resolve false (pathText operand) = .ok (.present spot e)

/-- What `rm` comes to. Only with an option for directories may there be nothing to remove, and only then is anything
removed though it fails. -/
inductive Removal (s : Shell) (args : List String) : Outcome → Prop
  | refused (failure : Failure) : Removal s args (s, some failure)
  | absent (hrecursive : recursiveOptions.any args.contains = true) (hnone : ∀ spot e, ¬ Names s.files args spot e) :
      Removal s args (s, none)
  | unlinked {operand : String} {done : Files} (hoperand : firstOperand? args = some operand)
      (hdone : s.files.unlink (pathText operand) = .ok done) : Removal s args (s.setFiles done, none)
  | cleared {operand : String} {spot : Location} {e : Entry} {failure : Option Failure}
      (hrecursive : recursiveOptions.any args.contains = true) (hoperand : firstOperand? args = some operand)
      (hleads : s.files.resolve true (pathText operand) = .ok (.present spot e))
      (hnames : s.files.resolve false (pathText operand) = .ok (.present spot e))
      (hfails : failure = none ↔ (s.files.removeTree (pathText operand)).2 = none) :
      Removal s args (s.setFiles (s.files.removeTree (pathText operand)).1, failure)

private theorem exists_refuse (s : Shell) (target : String) (fault : CallFault) :
    ∃ failure, Outcome.refuse s target fault = (s, some failure) := by
  cases fault <;> exact ⟨_, rfl⟩

private theorem unlinkUnlessAbsent_removal {s : Shell} {args : List String} {operand : String}
    (hrecursive : recursiveOptions.any args.contains = true) (hoperand : firstOperand? args = some operand) :
    Removal s args (remove.unlinkUnlessAbsent s operand (pathText operand)) := by
  unfold remove.unlinkUnlessAbsent
  split
  · next done hdone => exact .unlinked hoperand hdone
  · next hfault =>
    refine .absent hrecursive ?_
    rintro spot e ⟨operand', hoperand', hnames⟩
    obtain rfl := Option.some.inj (hoperand.symm.trans hoperand')
    exact Files.unlink_ne_noEntry hnames hfault
  · next fault _ hfault =>
    obtain ⟨failure, hrefuse⟩ := exists_refuse s operand fault
    rw [hrefuse]
    exact .refused failure

private theorem clearing_removal {s : Shell} {args : List String} {operand : String} {files : Files}
    {fault : Option CallFault} {failure : Option Failure}
    (hrecursive : recursiveOptions.any args.contains = true) (hoperand : firstOperand? args = some operand)
    (hlink : s.files.isLink (pathText operand) = .ok false)
    (hremoved : s.files.removeTree (pathText operand) = (files, fault)) (hfails : failure = none ↔ fault = none) :
    Removal s args (s.setFiles files, failure) := by
  by_cases hpresent : ∃ spot e, s.files.resolve true (pathText operand) = .ok (.present spot e)
  · obtain ⟨spot, e, hleads⟩ := hpresent
    have hcleared := @Removal.cleared s args operand spot e failure hrecursive hoperand hleads
      (Files.resolve_unfollowed hleads hlink)
    rw [hremoved] at hcleared
    exact hcleared hfails
  · obtain ⟨hsame, hfault⟩ := Files.removeTree_of_absent fun spot e h => hpresent ⟨spot, e, h⟩
    rw [hremoved] at hsame hfault
    obtain rfl : files = s.files := hsame
    cases failure with
    | none => exact absurd (hfails.1 rfl) hfault
    | some failure => exact .refused failure

theorem remove_removal (s : Shell) (args : List String) : Removal s args (remove s args) := by
  unfold remove
  split
  · exact .refused _
  · next operand hoperand =>
    dsimp only
    split
    · next hrecursive =>
      split
      · exact .refused _
      · split
        · exact .refused _
        · exact unlinkUnlessAbsent_removal hrecursive hoperand
        · next hlink =>
          split
          · next files hremoved => exact clearing_removal hrecursive hoperand hlink hremoved (by simp)
          · next files fault hremoved =>
            obtain ⟨failure, hrefuse⟩ := exists_refuse (s.setFiles files) operand fault
            rw [hrefuse]
            exact clearing_removal hrecursive hoperand hlink hremoved (by simp)
      · exact unlinkUnlessAbsent_removal hrecursive hoperand
    · split
      · next done hdone => exact .unlinked hoperand hdone
      · next fault hfault =>
        obtain ⟨failure, hrefuse⟩ := exists_refuse s operand fault
        rw [hrefuse]
        exact .refused failure

private theorem names_inj {files : Files} {args : List String} {operand : String} {spot spot' : Location} {e e' : Entry}
    (hoperand : firstOperand? args = some operand)
    (hnames : files.resolve false (pathText operand) = .ok (.present spot e)) (h : Names files args spot' e') :
    spot' = spot := by
  obtain ⟨operand', hoperand', hnames'⟩ := h
  obtain rfl := Option.some.inj (hoperand.symm.trans hoperand')
  exact (Target.present.inj (Except.ok.inj (hnames'.symm.trans hnames))).1

/-- `rm` touches nothing but what it names. Whether it succeeds or not, an entry stays as it is unless the first operand
names it or one above it. If it succeeds with an option for directories, what is named is gone, and, if every entry is
in a directory, all that was below it is gone as well. Without such an option it succeeds only if what is named is no
directory, and then exactly this entry is gone; if it fails, nothing has changed. -/
theorem remove_touches_named (s : Shell) (args : List String) :
    (∀ other, (∀ spot e, Names s.files args spot e → ¬ spot <+: other) →
      (remove s args).1.files.tree.find? other = s.files.tree.find? other) ∧
    (recursiveOptions.any args.contains = true → (remove s args).2 = none →
      ∀ spot e, Names s.files args spot e → (remove s args).1.files.tree.find? spot = none ∧
        (s.files.tree.Rooted → ∀ other, spot <+: other → (remove s args).1.files.tree.find? other = none)) ∧
    (recursiveOptions.any args.contains = false →
      ((remove s args).2 = none → ∃ spot e, Names s.files args spot e ∧ e.isDirectory = false ∧
        ∀ other, (remove s args).1.files.tree.find? other =
          if other = spot then none else s.files.tree.find? other) ∧
      ((remove s args).2 ≠ none → (remove s args).1 = s)) := by
  have hremoval := remove_removal s args
  generalize remove s args = outcome at hremoval
  cases hremoval with
  | refused failure => exact ⟨fun _ _ => rfl, fun _ => nofun, fun _ => ⟨nofun, fun _ => rfl⟩⟩
  | absent hrecursive hnone =>
    refine ⟨fun _ _ => rfl, fun _ _ spot e hnames => absurd hnames (hnone spot e), fun hplain => ?_⟩
    rw [hrecursive] at hplain
    cases hplain
  | @unlinked operand done hoperand hdone =>
    obtain ⟨spot, e, hnames, hfile, hfind, hrooted⟩ := Files.find?_unlink hdone
    refine ⟨fun other hother => ?_, fun _ _ spot' e' hnames' => ?_, fun _ => ⟨fun _ => ?_, fun h => absurd rfl h⟩⟩
    · refine (hfind other).trans (if_neg ?_)
      rintro rfl
      exact hother _ e ⟨operand, hoperand, hnames⟩ List.prefix_rfl
    · obtain rfl := names_inj hoperand hnames hnames'
      have hgone : done.tree.find? spot' = none := (hfind spot').trans (if_pos rfl)
      exact ⟨hgone, fun hfiles other => (hrooted hfiles).find?_eq_none hgone⟩
    · exact ⟨spot, e, ⟨operand, hoperand, hnames⟩, hfile, hfind⟩
  | @cleared operand spot e failure hrecursive hoperand hleads hnames hfails =>
    refine ⟨fun other hother => ?_, fun _ hsuccess spot' e' hnames' => ?_, fun hplain => ?_⟩
    · rw [Shell.files_setFiles]
      exact Files.find?_removeTree hleads (hother spot e ⟨operand, hoperand, hnames⟩)
    · obtain rfl := names_inj hoperand hnames hnames'
      rw [Shell.files_setFiles]
      exact Files.gone_of_removeTree hleads (hfails.1 hsuccess)
    · rw [hrecursive] at hplain
      cases hplain

/-- A shell in the root directory, in which there are a directory with a file in it and a link to that directory. -/
def linked : Shell :=
  (Shell.bare .builtins).setFiles
    ⟨⟨[(["d"], ⟨.directory, Entry.directoryMode⟩), (["d", "f"], ⟨.file [], Entry.fileMode⟩),
      (["k"], ⟨.link "d", 0o777⟩)]⟩, .ofLocation []⟩

private theorem lookup_linked : linked.files.tree.LooksUp linked.files.place "k" ∧
    linked.files.tree.LooksUp linked.files.place "d" :=
  ⟨⟨rfl, by decide, by decide, rfl, by decide +kernel⟩, ⟨rfl, by decide, by decide, rfl, by decide +kernel⟩⟩

private theorem route_linked : Route.ofText "k" = .ok ⟨false, ["k"], false⟩ ∧
    Route.ofText "d" = .ok ⟨false, ["d"], false⟩ := by
  decide +kernel

private theorem rooted_linked : linked.files.tree.Rooted := by
  intro spot e hspot he
  have hmem := Tree.mem_entries_of_find? he hspot
  have hcases : spot = ["d"] ∨ spot = ["d", "f"] ∨ spot = ["k"] := by
    revert hmem
    simp [linked]
    rintro (⟨rfl, -⟩ | ⟨rfl, -⟩ | ⟨rfl, -⟩) <;> simp
  rcases hcases with rfl | rfl | rfl
  · exact ⟨_, rfl, rfl⟩
  · exact ⟨_, rfl, rfl⟩
  · exact ⟨_, rfl, rfl⟩

private theorem resolve_linked :
    linked.files.resolve false "k" = .ok (.present ["k"] ⟨.link "d", 0o777⟩) ∧
      linked.files.resolve true "k" = .ok (.present ["d"] ⟨.directory, Entry.directoryMode⟩) ∧
      linked.files.resolve false "d" = .ok (.present ["d"] ⟨.directory, Entry.directoryMode⟩) := by
  obtain ⟨hk, hd⟩ := lookup_linked
  have hfind : linked.files.tree.find? (linked.files.place.live ++ ["k"]) = some ⟨.link "d", 0o777⟩ := rfl
  have htarget : linked.files.tree.walk true 39 linked.files.place ["d"] =
      .ok (.present ["d"] ⟨.directory, Entry.directoryMode⟩) := by
    rw [hd.walk_last fun _ e he => ?_]
    · rfl
    · rw [← Option.some.inj he]
      rfl
  -- The link is looked up, and its target in its place.
  have hfollowed : linked.files.tree.walk true Tree.linkLimit linked.files.place ["k"] =
      .ok (.present ["d"] ⟨.directory, Entry.directoryMode⟩) := by
    rw [show Tree.linkLimit = 39 + 1 from rfl, hk.walk_link hfind rfl rfl (.inl rfl)]
    exact htarget
  refine ⟨?_, ?_, ?_⟩
  · rw [Files.resolve_of_names route_linked.1, hk.walk_last (by simp), hfind]
    rfl
  · rw [Files.resolve_of_names route_linked.1, hfollowed]
    rfl
  · rw [Files.resolve_of_names route_linked.2, hd.walk_last (by simp)]
    rfl

private theorem unlink_linked :
    linked.files.unlink "k" = .ok { linked.files with tree := linked.files.tree.erase ["k"] } ∧
      linked.files.unlink "d" = .error (.system .isDirectory) := by
  obtain ⟨hk, -, hd⟩ := resolve_linked
  rw [Files.resolve_of_ofText route_linked.1] at hk
  rw [Files.resolve_of_ofText route_linked.2] at hd
  constructor
  · unfold Files.unlink
    rw [route_linked.1]
    simp only [bind, Except.bind]
    rw [if_neg (by decide), hk]
    rfl
  · unfold Files.unlink
    rw [route_linked.2]
    simp only [bind, Except.bind]
    rw [if_neg (by decide), hd]
    rfl

private theorem remove_linked :
    (remove linked ["-r", "k"]).2 = none ∧ (remove linked ["k"]).2 = none ∧ (remove linked ["d"]).2 ≠ none := by
  obtain ⟨hunlink, hrefused⟩ := unlink_linked
  obtain ⟨hnamed, hleads, -⟩ := resolve_linked
  have hdirectory : linked.files.isDirectory "k" = .ok true := Files.ask_of_resolve hleads _
  have hlink : linked.files.isLink "k" = .ok true := Files.ask_of_resolve hnamed _
  have hpath : pathText "k" = "k" ∧ pathText "d" = "d" := by decide +kernel
  refine ⟨?_, ?_, ?_⟩
  · unfold remove
    rw [show firstOperand? ["-r", "k"] = some "k" by decide +kernel]
    dsimp only
    rw [if_pos (by decide +kernel), hpath.1, hdirectory]
    dsimp only
    rw [hlink]
    dsimp only
    unfold remove.unlinkUnlessAbsent
    rw [hunlink]
    rfl
  · unfold remove
    rw [show firstOperand? ["k"] = some "k" by decide +kernel]
    dsimp only
    rw [if_neg (by decide +kernel), hpath.1, hunlink]
    rfl
  · unfold remove
    rw [show firstOperand? ["d"] = some "d" by decide +kernel]
    dsimp only
    rw [if_neg (by decide +kernel), hpath.2, hrefused]
    simp [Outcome.refuse, Outcome.complain]

/-- Of a link to a directory nothing but the link is removed, with an option for directories as well as without one. A
directory is not removed without one. -/
theorem remove_touches_named_link :
    (remove linked ["-r", "k"]).1.files.tree.find? ["k"] = none ∧
      (remove linked ["-r", "k"]).1.files.tree.find? ["d", "f"] = linked.files.tree.find? ["d", "f"] ∧
      (∃ spot e, Names linked.files ["k"] spot e ∧ e.isDirectory = false ∧
        ∀ other, (remove linked ["k"]).1.files.tree.find? other =
          if other = spot then none else linked.files.tree.find? other) ∧
      (remove linked ["d"]).1 = linked := by
  obtain ⟨hrecursive, hplain, hdirectory⟩ := remove_linked
  have hoperand : firstOperand? ["-r", "k"] = some "k" := by decide +kernel
  have hleads : linked.files.resolve false (pathText "k") = .ok (.present ["k"] ⟨.link "d", 0o777⟩) := by
    rw [show pathText "k" = "k" by decide +kernel]
    exact resolve_linked.1
  obtain ⟨hother, hgone, -⟩ := remove_touches_named linked ["-r", "k"]
  refine ⟨(hgone (by decide +kernel) hrecursive _ _ ⟨"k", hoperand, hleads⟩).2 rooted_linked _ List.prefix_rfl,
    hother _ ?_, ((remove_touches_named linked ["k"]).2.2 (by decide +kernel)).1 hplain,
    ((remove_touches_named linked ["d"]).2.2 (by decide +kernel)).2 hdirectory⟩
  intro spot e hnames'
  obtain rfl := names_inj hoperand hleads hnames'
  decide

end Builtin

end CommandShell
