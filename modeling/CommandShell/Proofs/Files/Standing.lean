import CommandShell.Proofs.Files.Writing

/-!
# Where one stands

Only a change of the working directory leads somebody to another place (`Files.changeDirectory`). Whatever else is done
to the files, he stands where he stood, though the directory may have been removed under him (`Place.Remains`).
-/

namespace CommandShell

namespace Place

/-- Standing where one stood: some of the directories on the way may have been removed meanwhile. -/
structure Remains (p q : Place) : Prop where
  live : q.live <+: p.live
  names : q.live ++ q.lost = p.live ++ p.lost

theorem Remains.refl (p : Place) : p.Remains p := ⟨List.prefix_rfl, rfl⟩

theorem Remains.trans {p q r : Place} (h : p.Remains q) (h' : q.Remains r) : p.Remains r :=
  ⟨h'.live.trans h.live, h'.names.trans h.names⟩

/-- What is lost stays lost. -/
theorem Remains.lost {p q : Place} (h : p.Remains q) (hq : q.lost = []) : p.lost = [] := by
  have hlength := congrArg List.length h.names
  have hle := h.live.length_le
  rw [List.length_append, List.length_append, hq, List.length_nil] at hlength
  exact List.length_eq_zero_iff.1 (by omega)

/-- Where nothing has been lost, nothing has changed. -/
theorem Remains.eq {p q : Place} (h : p.Remains q) (hq : q.lost = []) : q = p := by
  obtain ⟨live, lost⟩ := p
  obtain ⟨live', lost'⟩ := q
  obtain rfl : lost = [] := h.lost hq
  obtain rfl : lost' = [] := hq
  have hnames : live' = live := by simpa using h.names
  rw [hnames]

/-- Double dots lead to the directory above, whether one stands in a directory that has been removed meanwhile or
not. -/
theorem Remains.up {p q : Place} (h : p.Remains q) (hq : q.lost ≠ []) : p.up.Remains q.up := by
  obtain ⟨live, lost⟩ := p
  obtain ⟨live', lost'⟩ := q
  have hnames : live' ++ lost' = live ++ lost := h.names
  have hq : lost' ≠ [] := hq
  have hlive : live' <+: live := h.live
  have hup : Place.up ⟨live', lost'⟩ = ⟨live', lost'.dropLast⟩ := by simp [Place.up, hq]
  rw [hup]
  by_cases hp : lost = []
  · subst hp
    rw [List.append_nil] at hnames
    subst hnames
    have hdrop : (live' ++ lost').dropLast = live' ++ lost'.dropLast := List.dropLast_append_of_ne_nil hq
    refine ⟨?_, ?_⟩
    · show live' <+: (live' ++ lost').dropLast
      rw [hdrop]
      exact List.prefix_append _ _
    · show live' ++ lost'.dropLast = (live' ++ lost').dropLast ++ []
      rw [hdrop, List.append_nil]
  · have hup' : Place.up ⟨live, lost⟩ = ⟨live, lost.dropLast⟩ := by simp [Place.up, hp]
    rw [hup']
    refine ⟨hlive, ?_⟩
    show live' ++ lost'.dropLast = live ++ lost.dropLast
    rw [← List.dropLast_append_of_ne_nil hq, hnames, List.dropLast_append_of_ne_nil hp]

end Place

namespace Tree

theorem standing_append (tree : Tree) (front spot : Location) :
    (tree.standing front spot).1 ++ (tree.standing front spot).2 = front ++ spot := by
  induction spot generalizing front with
  | nil => rfl
  | cons name rest ih =>
    unfold standing
    split
    · rw [ih (front ++ [name]), List.append_assoc]
      rfl
    · rfl

end Tree

namespace Files

@[simp] theorem tree_seenFrom (files : Files) (place : Place) : (files.seenFrom place).tree = files.tree := rfl

/-- Whoever waits while something else is done remains where he stands. -/
theorem seenFrom_remains (files : Files) (place : Place) : place.Remains (files.seenFrom place).place := by
  have hnames := files.tree.standing_append [] place.live
  refine ⟨⟨(files.tree.standing [] place.live).2, hnames⟩, ?_⟩
  show (files.tree.standing [] place.live).1 ++ ((files.tree.standing [] place.live).2 ++ place.lost) = _
  rw [← List.append_assoc, hnames]
  rfl

/-! ### Operations that leave one where he stands -/

theorem openTarget_place {files opened : Files} {keep : Bool} {target : Target} {handle : Handle}
    (h : files.openTarget keep target = .ok (opened, handle)) : opened.place = files.place := by
  unfold openTarget at h
  split at h
  · split at h
    · cases h
    · split at h
      · cases h
      · obtain ⟨rfl, -⟩ := Prod.mk.inj (Except.ok.inj h)
        rfl
    · obtain ⟨rfl, -⟩ := Prod.mk.inj (Except.ok.inj h)
      rfl
    · cases h
  · split at h
    · cases h
    · obtain ⟨rfl, -⟩ := Prod.mk.inj (Except.ok.inj h)
      rfl
  · cases h

theorem openForWriting_place {files opened : Files} {keep : Bool} {path : String} {handle : Handle}
    (h : files.openForWriting keep path = .ok (opened, handle)) : opened.place = files.place := by
  obtain ⟨r, target, -, hopen⟩ := exists_opens h
  exact openTarget_place hopen

theorem touch_place {files done : Files} {path : String} (h : files.touch path = .ok done) :
    done.place = files.place := by
  unfold touch at h
  split at h
  · cases h
  · rw [← Except.ok.inj h]
  · rw [← Except.ok.inj h]
  · cases hopen : files.openForWriting true path with
    | error fault => rw [hopen] at h; cases h
    | ok result =>
      rw [hopen] at h
      obtain rfl := Except.ok.inj h
      exact openForWriting_place hopen

theorem ok_of_mapError {α : Type} {result : Except SystemFault α} {a : α}
    (h : result.mapError CallFault.system = .ok a) : result = .ok a := by
  cases result with
  | error fault => cases h
  | ok b => rw [Except.ok.inj h]

/-- A path that leads somewhere is a route that leads there. -/
theorem exists_route_of_resolve {files : Files} {follow : Bool} {path : String} {target : Target}
    (h : files.resolve follow path = .ok target) :
    ∃ r, Route.ofText path = .ok r ∧ files.tree.resolve files.place follow r = .ok target := by
  cases hr : Route.ofText path with
  | error fault =>
    unfold resolve at h
    rw [hr] at h
    cases h
  | ok r =>
    rw [resolve_of_ofText hr] at h
    exact ⟨r, rfl, ok_of_mapError h⟩

theorem find?_of_resolve {files : Files} {follow : Bool} {path : String} {spot : Location} {e : Entry}
    (h : files.resolve follow path = .ok (.present spot e)) : files.tree.find? spot = some e := by
  obtain ⟨r, -, hresolve⟩ := exists_route_of_resolve h
  exact (Tree.find?_of_walk (Tree.resolve_eq_ok_iff.1 hresolve).1).1 spot e rfl

/-- An operation on what a path names goes on from there only if the path ends in a name. -/
theorem eq_ok_of_named {α : Type} {files : Files} {path : String} {strip : Route → Route} {fault : Route → SystemFault}
    {act : Target → Except CallFault α} {a : α}
    (h : (do
      let r ← Route.ofText path
      if !r.endsInName then
        discard ((files.tree.resolveParent files.place r).mapError CallFault.system)
        throw (CallFault.system (fault r))
      act (← (files.tree.resolve files.place false (strip r)).mapError CallFault.system)) = .ok a) :
    ∃ r target, Route.ofText path = .ok r ∧ r.endsInName = true ∧
      files.tree.resolve files.place false (strip r) = .ok target ∧ act target = .ok a := by
  cases hr : Route.ofText path with
  | error fault => rw [hr] at h; cases h
  | ok r =>
    rw [hr] at h
    simp only [bind, Except.bind] at h
    by_cases hends : r.endsInName = true
    · rw [if_neg (by simp [hends])] at h
      cases hresolve : files.tree.resolve files.place false (strip r) with
      | error fault => rw [hresolve] at h; cases h
      | ok target =>
        rw [hresolve] at h
        exact ⟨r, target, rfl, hends, hresolve, h⟩
    · rw [if_pos (by simp [hends])] at h
      cases hparent : files.tree.resolveParent files.place r <;> rw [hparent] at h <;> cases h

/-- A directory is made where there is nothing yet. -/
theorem makeDirectory_eq_ok {files done : Files} {path : String} (h : files.makeDirectory path = .ok done) :
    ∃ r directory name, Route.ofText path = .ok r ∧ r.endsInName = true ∧
      files.tree.resolve files.place false { r with trailing := false } = .ok (.vacant directory name) ∧
      done = { files with tree := files.tree.put (directory ++ [name]) ⟨.directory, Entry.directoryMode⟩ } := by
  unfold makeDirectory at h
  obtain ⟨r, target, hr, hends, hresolve, hmade⟩ :=
    @eq_ok_of_named _ _ _ (fun r => { r with trailing := false }) _ _ _ h
  cases target with
  | present | removed => cases hmade
  | vacant directory name =>
    dsimp only at hmade
    split at hmade
    · cases hmade
    · exact ⟨r, directory, name, hr, hends, hresolve, (Except.ok.inj hmade).symm⟩

theorem makeDirectoryUnlessThere_place {files done : Files} {path : String}
    (h : files.makeDirectoryUnlessThere path = .ok done) : done.place = files.place := by
  unfold makeDirectoryUnlessThere at h
  split at h
  · split at h
    · cases h
    · split at h
      · rw [← Except.ok.inj h]
      · cases h
      · cases h
  · obtain ⟨-, -, -, -, -, -, rfl⟩ := makeDirectory_eq_ok h
    rfl

theorem makeDirectories_place {files done : Files} {root : Root} {names : List String}
    (h : files.makeDirectories root names = .ok done) : done.place = files.place := by
  unfold makeDirectories at h
  dsimp only at h
  split at h
  · split at h
    · cases h
    · next hne =>
      have hshorter : names.dropLast.length < names.length := by
        have := List.length_pos_iff.2 hne
        rw [List.length_dropLast]
        omega
      cases habove : files.makeDirectories root names.dropLast with
      | error fault => rw [habove] at h; cases h
      | ok above =>
        rw [habove] at h
        exact (makeDirectoryUnlessThere_place h).trans (makeDirectories_place habove)
  · exact makeDirectoryUnlessThere_place h
termination_by names.length

theorem unlinkAt_eq_ok {files done : Files} {spot : Location} (h : files.unlinkAt spot = .ok done) :
    done = { files with tree := files.tree.erase spot } := by
  unfold unlinkAt at h
  split at h
  · cases h
  · split at h
    · cases h
    · exact (Except.ok.inj h).symm

/-- What is removed is what the path names, and not what that leads to if it is a link. -/
theorem unlink_eq_ok {files done : Files} {path : String} (h : files.unlink path = .ok done) :
    ∃ r spot e, Route.ofText path = .ok r ∧ r.endsInName = true ∧
      files.tree.resolve files.place false r = .ok (.present spot e) ∧ files.unlinkAt spot = .ok done := by
  unfold unlink at h
  obtain ⟨r, target, hr, hends, hresolve, hdone⟩ := @eq_ok_of_named _ _ _ id _ _ _ h
  cases target with
  | vacant | removed => cases hdone
  | present spot e => exact ⟨r, spot, e, hr, hends, hresolve, ok_of_mapError hdone⟩

theorem unlink_place {files done : Files} {path : String} (h : files.unlink path = .ok done) :
    done.place = files.place := by
  obtain ⟨-, spot, -, -, -, -, hdone⟩ := unlink_eq_ok h
  rw [unlinkAt_eq_ok hdone]

end Files

/-! ### Where one goes -/

/-- From a directory that is there no names lead to one that has been removed. -/
theorem Tree.walk_ne_removed {tree : Tree} {follow : Bool} {links : Nat} {here : Place} {names : List String}
    (h : here.lost = []) (place : Place) : tree.walk follow links here names ≠ .ok (.removed place) := by
  fun_induction Tree.walk tree follow links here names with
  | case1 links here =>
    unfold Tree.targetAt
    rw [h]
    split
    · next hlost => cases hlost
    · split <;> simp
  | case2 | case5 | case6 | case7 | case8 | case10 | case11 | case12 | case14 | case15 => simp
  | case3 _ _ _ _ ih => exact ih h
  | case4 _ _ _ _ _ ih => exact ih (by simp [Place.up, h, Place.ofLocation])
  | case9 _ _ _ _ _ _ _ _ _ _ _ _ _ ih => exact ih rfl
  | case13 here name rest hs hdot hup hlost hshort spot e hfind text hlink hfollow links r hempty ih =>
    refine ih ?_
    split
    · rfl
    · exact h

namespace Files

theorem resolve_ne_removed {files : Files} (h : files.place.lost = []) (follow : Bool) (path : String)
    (place : Place) : files.resolve follow path ≠ .ok (.removed place) := by
  cases hr : Route.ofText path with
  | error fault =>
    unfold resolve
    rw [hr]
    nofun
  | ok r =>
    rw [resolve_of_ofText hr]
    cases hresolve : files.tree.resolve files.place follow r with
    | error fault => nofun
    | ok target =>
      rintro ⟨⟩
      refine Tree.walk_ne_removed ?_ place (Tree.resolve_eq_ok_iff.1 hresolve).1
      split
      · rfl
      · exact h

/-- From a directory that is there one goes to another that is there. -/
theorem changeDirectory_lost {files done : Files} {path : String} (h : files.place.lost = [])
    (hgo : files.changeDirectory path = .ok done) : done.place.lost = [] := by
  unfold changeDirectory at hgo
  simp only [bind, Except.bind] at hgo
  split at hgo
  · cases hgo
  · next target hresolve =>
    cases target with
    | removed place => exact absurd hresolve (resolve_ne_removed h true path place)
    | vacant => cases hgo
    | present spot e =>
      dsimp only at hgo
      split at hgo
      · cases hgo
      · split at hgo
        · cases hgo
        · rw [← Except.ok.inj hgo]
          rfl

end Files

end CommandShell
