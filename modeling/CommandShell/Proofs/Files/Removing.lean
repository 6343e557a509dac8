import CommandShell.Proofs.Files.Leading
import CommandShell.Proofs.Files.Standing

/-!
# Removing directories

Removing what is in a directory touches nothing but what lies below it (`Files.removeContent_pruned`), and removing the
directory afterwards, if its path still leads to it, nothing but itself. So whoever removes a directory stands where he
stood unless he stands in it, or below it (`Files.prefix_of_removeTree`).
-/

namespace CommandShell

namespace Tree

/-- What is erased is no longer there, and everything else is where it was. -/
theorem find?_erase {tree : Tree} {spot : Location} (h : spot ≠ []) (other : Location) :
    (tree.erase spot).find? other = if other = spot then none else tree.find? other := by
  cases other with
  | nil => rw [if_neg (Ne.symm h)]; rfl
  | cons name rest => exact lookup_filter_ne tree.entries spot (name :: rest)

/-- A tree that holds nothing but what the other holds. -/
def Within (new old : Tree) : Prop := ∀ spot e, new.find? spot = some e → old.find? spot = some e

private theorem Within.searchable {new old : Tree} (h : new.Within old) {here : Place}
    (hs : ¬ (!new.searchable here) = true) : old.searchable here = true := by
  unfold Tree.searchable at hs ⊢
  by_cases hlost : here.lost = []
  · cases hfind : new.find? here.live with
    | none => simp [hlost, hfind] at hs
    | some e => simpa [hlost, hfind, h here.live e hfind] using hs
  · simp [hlost]

/-- A walk that still ends at an entry, which is no link, has always ended there, links at its end being followed or
not. -/
theorem Within.walk {new old : Tree} (h : new.Within old) {follow : Bool} {links : Nat} {here : Place}
    {names : List String} {spot : Location} {e : Entry} (hlink : e.isLink = false)
    (hw : new.walk follow links here names = .ok (.present spot e)) :
    old.walk true links here names = .ok (.present spot e) := by
  fun_induction Tree.walk new follow links here names with
  | case1 links here =>
    rw [Tree.walk]
    unfold targetAt at hw ⊢
    split at hw
    · cases hw
    · next hlost =>
      rw [if_neg hlost]
      cases hfind : new.find? here.live with
      | none => simp [hfind] at hw
      | some e' =>
        rw [hfind] at hw
        rw [h _ _ hfind]
        exact hw
  | case2 | case5 | case6 | case7 | case8 | case11 | case12 | case15 => simp at hw
  | case3 links here rest hs ih =>
    rw [Tree.walk, if_neg (by simp [h.searchable hs]), if_pos rfl]
    exact ih hw
  | case4 links here rest hs hdot ih =>
    rw [Tree.walk, if_neg (by simp [h.searchable hs]), if_neg hdot, if_pos rfl]
    exact ih hw
  | case9 links here name rest hs hdot hup hlost hshort location e' hfind hdirectory ih =>
    rw [walk_name (h.searchable hs) hdot hup hlost hshort, h _ _ hfind]
    simp only [hdirectory]
    exact ih hw
  | case10 links here name rest hs hdot hup hlost hshort location e' hfind text htext hstay =>
    obtain ⟨-, rfl⟩ := Target.present.inj (Except.ok.inj hw)
    simp [Entry.isLink, htext] at hlink
  | case13 here name rest hs hdot hup hlost hshort location e' hfind text htext hfollow links r hempty ih =>
    rw [walk_name (h.searchable hs) hdot hup hlost hshort, h _ _ hfind]
    simp only [htext, hempty]
    simpa using ih hw
  | case14 links here name rest hs hdot hup hlost hshort location e' hfind hrest hdirectory hnolink =>
    obtain ⟨rfl, rfl⟩ := Target.present.inj (Except.ok.inj hw)
    rw [walk_name (h.searchable hs) hdot hup hlost hshort, h _ _ hfind]
    cases hcontent : e'.content with
    | directory => exact absurd hcontent hdirectory
    | link text => exact absurd hcontent (hnolink text)
    | file | program | sink => simp [hrest, location]

/-- For one who has been standing at a place all the while, names that still lead to an entry, which is no link, have
always led there. -/
theorem Within.walk_of_remains {new old : Tree} (h : new.Within old) {p q : Place} (hpq : p.Remains q) {links : Nat}
    {names : List String} {target : Target} {spot : Location} {e : Entry} (hlink : e.isLink = false)
    (hold : old.walk true links p names = .ok target) (hnew : new.walk false links q names = .ok (.present spot e)) :
    target = .present spot e := by
  induction names generalizing p q with
  | nil =>
    by_cases hlost : q.lost = []
    · obtain rfl := hpq.eq hlost
      exact Except.ok.inj (hold.symm.trans (h.walk hlink hnew))
    · rw [Tree.walk] at hnew
      simp [targetAt, hlost] at hnew
  | cons name rest ih =>
    by_cases hlost : q.lost = []
    · obtain rfl := hpq.eq hlost
      exact Except.ok.inj (hold.symm.trans (h.walk hlink hnew))
    · -- Out of a directory that has been removed, nothing but dots leads anywhere.
      obtain ⟨hs, rfl | rfl | hname⟩ := lookup_of_walk hnew
      · rw [walk_dot (lookup_of_walk hold).1] at hold
        rw [walk_dot hs] at hnew
        exact ih hpq hold hnew
      · rw [walk_up (lookup_of_walk hold).1] at hold
        rw [walk_up hs] at hnew
        exact ih (hpq.up hlost) hold hnew
      · exact absurd hname.not_lost hlost

end Tree

theorem Entry.isLink_of_isDirectory {e : Entry} (h : e.isDirectory = true) : e.isLink = false := by
  unfold Entry.isDirectory at h
  unfold Entry.isLink
  split at h
  · next hcontent => rw [hcontent]
  · cases h

namespace Files

/-- Files of which some below a location have been removed. Whoever stood elsewhere stands there still. -/
structure Pruned (below : Location) (old new : Files) : Prop where
  find_other : ∀ spot, ¬ below <+: spot → new.tree.find? spot = old.tree.find? spot
  within : new.tree.Within old.tree
  place_other : ¬ below <+: old.place.live → new.place = old.place
  remains : old.place.Remains new.place

namespace Pruned

variable {below : Location} {old mid new : Files}

theorem refl (below : Location) (files : Files) : Pruned below files files :=
  ⟨fun _ _ => rfl, fun _ _ h => h, fun _ => rfl, .refl _⟩

theorem trans (h : Pruned below old mid) (h' : Pruned below mid new) : Pruned below old new where
  find_other spot hspot := (h'.find_other spot hspot).trans (h.find_other spot hspot)
  within spot e he := h.within spot e (h'.within spot e he)
  place_other hlive := by
    have hmid := h.place_other hlive
    rw [h'.place_other (hmid ▸ hlive), hmid]
  remains := h.remains.trans h'.remains

theorem mono {above : Location} (h : Pruned below old new) (habove : above <+: below) : Pruned above old new where
  find_other spot hspot := h.find_other spot fun hbelow => hspot (habove.trans hbelow)
  within := h.within
  place_other hlive := h.place_other fun hbelow => hlive (habove.trans hbelow)
  remains := h.remains

end Pruned

/-- Taking out one entry prunes below it, wherever one stands afterwards. -/
private theorem erase_pruned (files : Files) {spot : Location} (hspot : spot ≠ []) {place : Place}
    (hother : ¬ spot <+: files.place.live → place = files.place) (hremains : files.place.Remains place) :
    Pruned spot files ⟨files.tree.erase spot, place⟩ where
  find_other other hnot := by
    rw [Tree.find?_erase hspot, if_neg]
    rintro rfl
    exact hnot List.prefix_rfl
  within other e he := by
    rw [Tree.find?_erase hspot] at he
    split at he
    · cases he
    · exact he
  place_other := hother
  remains := hremains

theorem unlinkAt_pruned {files done : Files} {spot : Location} (hspot : spot ≠ [])
    (h : files.unlinkAt spot = .ok done) : Pruned spot files done := by
  obtain rfl := unlinkAt_eq_ok h
  exact erase_pruned files hspot (fun _ => rfl) (.refl _)

theorem removeDirectoryAt_pruned {files done : Files} {spot : Location} (hspot : spot ≠ [])
    (h : files.removeDirectoryAt spot = .ok done) : Pruned spot files done := by
  unfold removeDirectoryAt at h
  split at h
  · cases h
  · split at h
    · cases h
    · obtain rfl := Except.ok.inj h
      refine erase_pruned files hspot (fun hlive => if_neg ?_) ?_
      · rintro rfl
        exact hlive List.prefix_rfl
      · split
        · next hlive =>
          subst hlive
          refine ⟨List.dropLast_prefix _, ?_⟩
          dsimp only
          rw [List.dropLast_eq_take, ← List.append_assoc, List.take_append_drop]
        · exact .refl _

theorem removeDirectoryAt_place {files done : Files} {spot : Location} (h : files.removeDirectoryAt spot = .ok done)
    (hlive : files.place.live ≠ spot) : done.place = files.place := by
  unfold removeDirectoryAt at h
  simp only [if_neg hlive] at h
  split at h
  · cases h
  · split at h
    · cases h
    · rw [← Except.ok.inj h]

/-- Removing what is in a directory takes out one entry after another, and each of them is below the directory. What is
kept whenever an entry is taken out is kept all along. -/
theorem removeContent_induction {P : Files → Prop} {directory : Location}
    (hunlink : ∀ files done spot, directory <+: spot → spot ≠ [] → files.unlinkAt spot = .ok done → P files → P done)
    (hremove : ∀ files done spot, directory <+: spot → spot ≠ [] → files.removeDirectoryAt spot = .ok done → P files →
      P done) (fuel : Nat) {files : Files} (h : P files) : P (removeContent fuel files directory).1 := by
  induction fuel generalizing files directory with
  | zero => exact h
  | succ fuel ih =>
    unfold removeContent
    refine List.foldlRecOn (motive := fun (state : Files × Option SystemFault) => P state.1) _ _ h ?_
    rintro ⟨reached, fault⟩ hreached name -
    cases fault with
    | some fault => exact hreached
    | none =>
      have hspot : directory ++ [name] ≠ [] := by simp
      have hbelow : directory <+: directory ++ [name] := List.prefix_append _ _
      dsimp only at hreached ⊢
      split
      · split
        · split
          · next done hdone => exact hunlink _ _ _ hbelow hspot hdone hreached
          · exact hreached
        · split
          · exact hreached
          · have hemptied := ih (fun files done spot h => hunlink files done spot (hbelow.trans h))
              (fun files done spot h => hremove files done spot (hbelow.trans h)) hreached
            split
            · next heq =>
              rw [heq] at hemptied
              exact hemptied
            · next emptied heq =>
              rw [heq] at hemptied
              split
              · next done hdone => exact hremove _ _ _ hbelow hspot hdone hemptied
              · exact hemptied
      · exact hreached

/-- Removing what is in a directory touches nothing but what is below the directory. -/
theorem removeContent_pruned (fuel : Nat) (files : Files) (directory : Location) :
    Pruned directory files (removeContent fuel files directory).1 :=
  removeContent_induction (P := Pruned directory files)
    (fun _ _ _ hbelow hspot hdone h => h.trans ((unlinkAt_pruned hspot hdone).mono hbelow))
    (fun _ _ _ hbelow hspot hdone h => h.trans ((removeDirectoryAt_pruned hspot hdone).mono hbelow)) fuel (.refl _ _)

/-- A directory that is removed is what the path names, and not what that leads to if it is a link. -/
theorem removeDirectory_eq_ok {files done : Files} {path : String} (h : files.removeDirectory path = .ok done) :
    ∃ r spot e, Route.ofText path = .ok r ∧ r.endsInName = true ∧
      files.tree.resolve files.place false { r with trailing := false } = .ok (.present spot e) ∧
      e.isDirectory = true ∧ files.removeDirectoryAt spot = .ok done := by
  unfold removeDirectory at h
  obtain ⟨r, target, hr, hends, hresolve, hdone⟩ :=
    @eq_ok_of_named _ _ _ (fun r => { r with trailing := false }) _ _ _ h
  cases target with
  | vacant | removed => cases hdone
  | present spot e =>
    dsimp only at hdone
    split at hdone
    · cases hdone
    · next hdirectory => exact ⟨r, spot, e, hr, hends, hresolve, by simpa using hdirectory, ok_of_mapError hdone⟩

/-- The directory that a path names once some of the files have been removed is the one that it led to before. -/
theorem removeDirectoryAt_of_removeDirectory {files emptied done : Files} {path : String} {target : Target}
    (hwithin : emptied.tree.Within files.tree) (hplace : files.place.Remains emptied.place)
    (hbefore : files.resolve true path = .ok target) (h : emptied.removeDirectory path = .ok done) :
    ∃ spot e, target = .present spot e ∧ e.isDirectory = true ∧ spot ≠ [] ∧
      emptied.removeDirectoryAt spot = .ok done := by
  obtain ⟨r, spot, e, hr, hends, hresolve, hdirectory, hdone⟩ := removeDirectory_eq_ok h
  obtain ⟨hwalk, -⟩ := Tree.resolve_eq_ok_iff.1 hresolve
  have hspot := Tree.ne_nil_of_walk (r := { r with trailing := false }) hends hwalk
  rw [resolve_of_ofText hr] at hbefore
  obtain ⟨hwalk', -⟩ := Tree.resolve_eq_ok_iff.1 (ok_of_mapError hbefore)
  refine ⟨spot, e, ?_, hdirectory, hspot, hdone⟩
  refine hwithin.walk_of_remains ?_ (Entry.isLink_of_isDirectory hdirectory) hwalk' hwalk
  dsimp only
  split
  · exact .refl _
  · exact hplace

/-- Whoever removes a directory and no longer stands where he stood, stood in it or below it. -/
theorem prefix_of_removeTree {files : Files} {path : String} (hlost : files.place.lost = [])
    (h : (files.removeTree path).1.place ≠ files.place) :
    ∃ spot e, files.resolve true path = .ok (.present spot e) ∧ spot <+: files.place.live := by
  unfold removeTree at h
  cases hresolve : files.resolve true path with
  | error fault => simp [hresolve] at h
  | ok target =>
    rw [hresolve] at h
    cases target with
    | vacant => exact absurd rfl h
    | removed place => exact absurd hresolve (resolve_ne_removed hlost true path place)
    | present spot e =>
      refine ⟨spot, e, rfl, ?_⟩
      by_cases hother : spot <+: files.place.live
      · exact hother
      refine absurd ?_ h
      have hpruned := removeContent_pruned (files.tree.depth + 1) files spot
      have hplace := hpruned.place_other hother
      dsimp only
      split
      · rfl
      · generalize removeContent (files.tree.depth + 1) files spot = ended at hpruned hplace
        obtain ⟨emptied, _ | fault⟩ := ended
        · unfold removeTree.finish
          dsimp only at hplace ⊢
          split
          · next done hdone =>
            obtain ⟨spot', e', hspot, -, -, hat⟩ :=
              removeDirectoryAt_of_removeDirectory hpruned.within hpruned.remains hresolve hdone
            obtain ⟨rfl, -⟩ := Target.present.inj hspot
            rw [← hplace]
            refine removeDirectoryAt_place hat fun hlive => hother ?_
            have hstands : files.place.live = spot := by rw [← hplace, hlive]
            exact ⟨[], by rw [List.append_nil, hstands]⟩
          · exact hplace
        · exact hplace

end Files

end CommandShell
