import CommandShell.Proofs.Files.Removing
import CommandShell.Proofs.Text.Parts
import Mathlib.Data.List.Induction

/-!
# Trees without stray entries

In a tree in which every entry is in a directory nothing is below a location where nothing is
(`Tree.Rooted.find?_eq_none`). Taking out a file, or a directory in which there is nothing, keeps it so. A directory is
removed when nothing is in it any more; hence everything below it is gone as well (`Files.gone_of_removeTree`), and
nothing else is (`Files.removeTree_pruned`).
-/

namespace CommandShell

namespace Tree

/-- Every entry is in a directory. -/
def Rooted (tree : Tree) : Prop :=
  ∀ spot e, spot ≠ [] → tree.find? spot = some e →
    ∃ above, tree.find? spot.dropLast = some above ∧ above.isDirectory = true

variable {tree : Tree} {spot other directory : Location} {name : String} {e : Entry}

/-- Apart from the root directory, what is there is an entry of the tree. -/
theorem mem_entries_of_find? (h : tree.find? spot = some e) (hspot : spot ≠ []) : (spot, e) ∈ tree.entries := by
  obtain ⟨name, rest, rfl⟩ := List.exists_cons_of_ne_nil hspot
  obtain ⟨front, back, hentries, -⟩ :=
    List.lookup_eq_some_iff.1 (show tree.entries.lookup (name :: rest) = some e from h)
  rw [hentries]
  exact List.mem_append_right _ (List.mem_cons_self ..)

theorem nameWithin?_eq_some_iff : nameWithin? directory spot = some name ↔ spot = directory ++ [name] := by
  unfold nameWithin?
  constructor
  · intro h
    split at h
    · next last hlast =>
      obtain ⟨front, rfl⟩ := List.getLast?_eq_some_iff.1 hlast
      simpa using h
    · cases h
  · rintro rfl
    simp

/-- The names in a directory are those of the entries in it. -/
theorem mem_namesIn_iff : name ∈ tree.namesIn directory ↔ ∃ e, tree.find? (directory ++ [name]) = some e := by
  have hfind : tree.find? (directory ++ [name]) = tree.entries.lookup (directory ++ [name]) := by
    cases directory <;> rfl
  rw [← Option.isSome_iff_exists, hfind, List.lookup_isSome_iff]
  unfold namesIn
  rw [List.mem_mergeSort, List.mem_filterMap]
  constructor
  · rintro ⟨⟨spot, e⟩, hmem, hname⟩
    exact ⟨(spot, e), hmem, by rw [nameWithin?_eq_some_iff.1 hname, beq_self_eq_true]⟩
  · rintro ⟨⟨spot, e⟩, hmem, hspot⟩
    exact ⟨(spot, e), hmem, nameWithin?_eq_some_iff.2 (LawfulBEq.eq_of_beq hspot).symm⟩

theorem find?_of_isEmpty (h : (tree.namesIn directory).isEmpty = true) (name : String) :
    tree.find? (directory ++ [name]) = none := by
  by_contra hfind
  have hmem := mem_namesIn_iff.2 (Option.ne_none_iff_exists'.1 hfind)
  rw [List.isEmpty_iff.1 h] at hmem
  cases hmem

theorem Rooted.find?_eq_none (h : tree.Rooted) (hspot : tree.find? spot = none) (hbelow : spot <+: other) :
    tree.find? other = none := by
  obtain ⟨rest, rfl⟩ := hbelow
  -- Something there would have a directory above it, so nothing is passed on from each location to those in it.
  induction rest using List.reverseRecOn with
  | nil => rwa [List.append_nil]
  | append_singleton rest name ih =>
    rw [← List.append_assoc]
    cases hfind : tree.find? (spot ++ rest ++ [name]) with
    | none => rfl
    | some e =>
      obtain ⟨above, habove, -⟩ := h _ e (by simp) hfind
      rw [List.dropLast_concat, ih] at habove
      cases habove

/-- Nothing is in a file. -/
theorem Rooted.find?_file (h : tree.Rooted) (hfile : (tree.find? spot).any (·.isDirectory) = false) (name : String) :
    tree.find? (spot ++ [name]) = none := by
  cases hfind : tree.find? (spot ++ [name]) with
  | none => rfl
  | some e =>
    obtain ⟨above, habove, hdirectory⟩ := h _ e (by simp) hfind
    rw [List.dropLast_concat] at habove
    simp [habove, hdirectory] at hfile

/-- What has nothing in it may be taken out. -/
theorem Rooted.erase (h : tree.Rooted) (hspot : spot ≠ []) (hempty : ∀ name, tree.find? (spot ++ [name]) = none) :
    (tree.erase spot).Rooted := by
  intro other e hother he
  rw [find?_erase hspot] at he
  split at he
  · cases he
  · obtain ⟨above, habove, hdirectory⟩ := h other e hother he
    refine ⟨above, ?_, hdirectory⟩
    rw [find?_erase hspot, if_neg, habove]
    intro hin
    have hconcat := List.dropLast_concat_getLast hother
    rw [hin] at hconcat
    rw [← hconcat, hempty] at he
    cases he

end Tree

namespace Files

open CommandShell.Tree (Rooted)

theorem unlinkAt_rooted {files done : Files} {spot : Location} (hspot : spot ≠ []) (h : files.unlinkAt spot = .ok done)
    (hrooted : files.tree.Rooted) : done.tree.Rooted := by
  obtain rfl := unlinkAt_eq_ok h
  refine hrooted.erase hspot (hrooted.find?_file ?_)
  unfold unlinkAt at h
  split at h
  · cases h
  · split at h
    · cases h
    · next hfile => simpa using hfile

/-- A directory that has been taken out had nothing in it. -/
theorem removeDirectoryAt_eq_ok {files done : Files} {spot : Location} (h : files.removeDirectoryAt spot = .ok done) :
    (files.tree.namesIn spot).isEmpty = true ∧ done.tree = files.tree.erase spot := by
  unfold removeDirectoryAt at h
  split at h
  · cases h
  · split at h
    · cases h
    · next hempty => exact ⟨by simpa using hempty, by rw [← Except.ok.inj h]⟩

theorem removeDirectoryAt_rooted {files done : Files} {spot : Location} (hspot : spot ≠ [])
    (h : files.removeDirectoryAt spot = .ok done) (hrooted : files.tree.Rooted) : done.tree.Rooted := by
  obtain ⟨hempty, htree⟩ := removeDirectoryAt_eq_ok h
  rw [htree]
  exact hrooted.erase hspot (Tree.find?_of_isEmpty hempty)

theorem removeContent_rooted (fuel : Nat) (files : Files) (directory : Location) (h : files.tree.Rooted) :
    (removeContent fuel files directory).1.tree.Rooted :=
  removeContent_induction (P := fun files => files.tree.Rooted)
    (fun _ _ _ _ hspot hdone h => unlinkAt_rooted hspot hdone h)
    (fun _ _ _ _ hspot hdone h => removeDirectoryAt_rooted hspot hdone h) fuel h

/-! ### A directory and what is below it -/

variable {files : Files} {path : String} {spot : Location} {e : Entry}

/-- The steps in which a directory is removed: first what is in it, and then the directory itself. -/
theorem removeTree_of_present (h : files.resolve true path = .ok (.present spot e)) :
    (files.removeTree path).1 = files ∧ (files.removeTree path).2 ≠ none ∨
      ∃ emptied, Pruned spot files emptied ∧ (files.tree.Rooted → emptied.tree.Rooted) ∧
        ((files.removeTree path).1 = emptied ∧ (files.removeTree path).2 ≠ none ∨
          spot ≠ [] ∧ emptied.removeDirectoryAt spot = .ok (files.removeTree path).1) := by
  have hpruned := removeContent_pruned (files.tree.depth + 1) files spot
  have hrooted := removeContent_rooted (files.tree.depth + 1) files spot
  unfold removeTree
  rw [h]
  dsimp only
  split
  · exact .inl ⟨rfl, by simp⟩
  · refine .inr ⟨_, hpruned, hrooted, ?_⟩
    generalize removeContent (files.tree.depth + 1) files spot = ended at hpruned
    obtain ⟨emptied, _ | fault⟩ := ended
    · unfold removeTree.finish
      dsimp only at hpruned ⊢
      split
      · next done hdone =>
        -- The path is followed once more, but leads to the same directory as before.
        obtain ⟨spot', e', heq, -, hspot, hat⟩ :=
          removeDirectoryAt_of_removeDirectory hpruned.within hpruned.remains h hdone
        obtain ⟨rfl, rfl⟩ := Target.present.inj heq
        exact .inr ⟨hspot, hat⟩
      · exact .inl ⟨rfl, by simp⟩
    · exact .inl ⟨rfl, by simp [removeTree.finish]⟩

/-- Whatever comes of it, what is not below the directory stays. -/
theorem find?_removeTree (h : files.resolve true path = .ok (.present spot e)) {other : Location}
    (hother : ¬ spot <+: other) : (files.removeTree path).1.tree.find? other = files.tree.find? other := by
  obtain ⟨hsame, -⟩ | ⟨emptied, hpruned, -, ⟨hemptied, -⟩ | ⟨hspot, hat⟩⟩ := removeTree_of_present h
  · rw [hsame]
  · rw [hemptied, hpruned.find_other other hother]
  · rw [(removeDirectoryAt_pruned hspot hat).find_other other hother, hpruned.find_other other hother]

/-- When a directory has been removed, it is gone, and everything below it as well. -/
theorem gone_of_removeTree (h : files.resolve true path = .ok (.present spot e))
    (hdone : (files.removeTree path).2 = none) :
    (files.removeTree path).1.tree.find? spot = none ∧
      (files.tree.Rooted → ∀ other, spot <+: other → (files.removeTree path).1.tree.find? other = none) := by
  obtain ⟨-, hfails⟩ | ⟨emptied, hpruned, hrooted, ⟨-, hfails⟩ | ⟨hspot, hat⟩⟩ := removeTree_of_present h
  · exact absurd hdone hfails
  · exact absurd hdone hfails
  · have hgone : (files.removeTree path).1.tree.find? spot = none := by
      rw [(removeDirectoryAt_eq_ok hat).2, Tree.find?_erase hspot, if_pos rfl]
    exact ⟨hgone, fun hfiles other => (removeDirectoryAt_rooted hspot hat (hrooted hfiles)).find?_eq_none hgone⟩

/-- Where a path leads to no entry, nothing is removed. -/
theorem removeTree_of_absent (h : ∀ spot e, files.resolve true path ≠ .ok (.present spot e)) :
    (files.removeTree path).1 = files ∧ (files.removeTree path).2 ≠ none := by
  unfold removeTree
  cases hresolve : files.resolve true path with
  | error fault => exact ⟨rfl, by simp⟩
  | ok target =>
    cases target with
    | present spot e => exact absurd hresolve (h spot e)
    | vacant => exact ⟨rfl, by simp⟩
    | removed place =>
      dsimp only
      unfold removeTree.finish
      dsimp only
      split
      · next done hdone =>
        obtain ⟨spot, e, hpresent, -⟩ := removeDirectoryAt_of_removeDirectory (fun _ _ => id) (.refl _) hresolve hdone
        cases hpresent
      · exact ⟨rfl, by simp⟩

/-! ### A single entry -/

/-- What is unlinked is the entry that the path names, which is no directory, and nothing else. -/
theorem find?_unlink {done : Files} (h : files.unlink path = .ok done) :
    ∃ spot e, files.resolve false path = .ok (.present spot e) ∧ e.isDirectory = false ∧
      (∀ other, done.tree.find? other = if other = spot then none else files.tree.find? other) ∧
      (files.tree.Rooted → done.tree.Rooted) := by
  obtain ⟨r, spot, e, hr, hends, hresolve, hat⟩ := unlink_eq_ok h
  have hwalk := (Tree.resolve_eq_ok_iff.1 hresolve).1
  have hfind := (Tree.find?_of_walk hwalk).1 spot e rfl
  have hrooted := fun hspot => unlinkAt_rooted hspot hat
  refine ⟨spot, e, by rw [resolve_of_ofText hr, hresolve]; rfl, ?_⟩
  obtain rfl := unlinkAt_eq_ok hat
  unfold unlinkAt at hat
  split at hat
  · cases hat
  · split at hat
    · cases hat
    · next hfile =>
      have hfile : e.isDirectory = false := by simpa [hfind] using hfile
      have hspot : spot ≠ [] := by
        rintro rfl
        obtain rfl := Option.some.inj hfind
        cases hfile
      exact ⟨hfile, Tree.find?_erase hspot, hrooted hspot⟩

/-- A path without names leads from the root directory. -/
private theorem absolute_of_names_nil {r : Route} (hr : Route.ofText path = .ok r) (hnames : r.names = []) :
    r.absolute = true := by
  unfold Route.ofText at hr
  split at hr
  · cases hr
  · split at hr
    · cases hr
    · next hne =>
      split at hr
      · cases hr
      · obtain rfl := Except.ok.inj hr
        have hnames : Route.namesOf path = [] := hnames
        obtain ⟨c, cs, hcs⟩ := List.exists_cons_of_ne_nil (show path.toList ≠ [] by simpa using hne)
        show decide (path.toList.head? = some '/') = true
        rw [hcs, List.head?_cons, decide_eq_true_iff, Option.some.injEq]
        -- With another first character there would be a name.
        by_contra hc
        have hfirst : c ∈ path.toList := by simp [hcs]
        obtain ⟨part, hpart, hmem⟩ := Text.exists_mem_splitAtChar hc hfirst
        simp only [Route.namesOf, List.map_eq_nil_iff, List.filter_eq_nil_iff] at hnames
        have hempty := hnames part hpart
        simp [List.ne_nil_of_mem hmem] at hempty

/-- It is not said of an entry that is there that nothing is there. -/
theorem unlink_ne_noEntry (h : files.resolve false path = .ok (.present spot e)) :
    files.unlink path ≠ .error (.system .noEntry) := by
  obtain ⟨r, hr, hresolve⟩ := exists_route_of_resolve h
  unfold unlink
  rw [hr]
  simp only [bind, Except.bind]
  split
  · obtain ⟨above, habove⟩ :=
      Tree.exists_resolveParent (Tree.resolve_eq_ok_iff.1 hresolve).1 (absolute_of_names_nil hr)
    rw [habove]
    nofun
  · rw [hresolve]
    show (files.unlinkAt spot).mapError CallFault.system ≠ _
    unfold unlinkAt
    split
    · nofun
    · split <;> nofun

end Files

end CommandShell
