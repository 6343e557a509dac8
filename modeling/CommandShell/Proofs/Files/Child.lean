import CommandShell.Proofs.Files.Rooted
import CommandShell.Proofs.Path.Null
import CommandShell.Proofs.Path.Written

/-!
# Entries of a directory by their paths

The path of an entry, made of the path of its directory and its name, leads to the entry
(`Files.resolve_child`), unless the path is too long or names may not be looked up in the directory. So what is asked
about it through its path is answered as the entry itself answers (`Files.child_questions`); only where a link leads is
another matter.
-/

namespace CommandShell

/-- A name that an entry may have. -/
structure IsEntryName (name : String) : Prop extends Path.IsName name where
  ne_up : name ≠ ".."
  no_null : ¬ Text.HoldsNull name
  short : name.utf8ByteSize ≤ Route.longestName

/-- A tree as there are trees: there is one entry at each location, and its names are names. -/
structure Tree.Proper (tree : Tree) : Prop where
  distinct : (tree.entries.map (·.1)).Nodup
  named : ∀ spot e, tree.find? spot = some e → ∀ name ∈ spot, IsEntryName name

/-- Where a path starts from for one who stands at a place. -/
def Path.start (p : Path) (place : Place) : Place := if p.root = .relative then place else .ofLocation []

namespace Route

variable {p : Path} {name : String}

theorem ofText_eq_ok {s : String} {r : Route} (h : ofText s = .ok r) : r = ofChars s := by
  unfold ofText at h
  split at h
  · cases h
  · split at h
    · cases h
    · split at h
      · cases h
      · exact (Except.ok.inj h).symm

theorem absolute_ofChars_text (hp : ∀ name ∈ p.names, Path.IsName name) :
    (ofChars p.text).absolute = decide (p.root ≠ .relative) := by
  have hroot := @Path.root_ne_relative_iff p.text
  rw [Path.ofText_text hp] at hroot
  exact (decide_eq_decide.2 hroot).symm

/-- The route to an entry of a directory. -/
theorem ofChars_child (hp : ∀ name ∈ p.names, Path.IsName name) (hname : Path.IsName name) :
    ofChars (p.child name).text = ⟨decide (p.root ≠ .relative), p.names ++ [name], false⟩ := by
  have hchild := Path.isName_child hp hname
  have habsolute := absolute_ofChars_text hchild
  have hnames : (ofChars (p.child name).text).names = p.names ++ [name] :=
    Path.partsOf_text hchild (.inr (by simp [Path.child]))
  have htrailing : (ofChars (p.child name).text).trailing = false := by
    obtain ⟨front, hfront⟩ := Path.exists_toList_text_child hp hname
    show decide ((p.child name).text.toList.getLast? = some '/') = false
    rw [hfront, List.getLast?_append, decide_eq_false_iff_not]
    have hne : name.toList ≠ [] := by simpa using hname.ne_empty
    obtain ⟨last, hlast⟩ := Option.isSome_iff_exists.1 (List.getLast?_isSome.2 hne)
    rw [hlast]
    rintro ⟨⟩
    exact hname.no_slash (List.mem_of_getLast? hlast)
  generalize ofChars (p.child name).text = r at *
  obtain ⟨absolute, names, trailing⟩ := r
  dsimp only at habsolute hnames htrailing
  rw [habsolute, hnames, htrailing]
  rfl

/-- A name leads to the entry of this name where one stands. -/
theorem ofChars_name (hname : Path.IsName name) : ofChars name = ⟨false, [name], false⟩ := by
  have htext : (Path.child ⟨.relative, []⟩ name).text = name := by
    have hchild := Path.isName_child (p := ⟨.relative, []⟩) (by simp) hname
    rw [← String.toList_inj, Path.toList_text hchild (.inr (by simp [Path.child]))]
    simp [Path.child, Root.text, List.intercalate]
  rw [← htext, ofChars_child (p := ⟨.relative, []⟩) (by simp) hname, htext]
  rfl

end Route

namespace Files

variable {files : Files} {p : Path} {name : String} {spot : Location} {e : Entry}

/-- The names of a path to a directory lead there. -/
theorem leads_of_resolve (hp : ∀ name ∈ p.names, Path.IsName name)
    (h : files.resolve true p.text = .ok (.present spot e)) (he : e.isDirectory = true) :
    ∃ left, files.tree.Leads Tree.linkLimit (p.start files.place) p.names left (.ofLocation spot) := by
  obtain ⟨r, hr, hresolve⟩ := exists_route_of_resolve h
  obtain ⟨left, hleads⟩ := Tree.leads_of_walk (Tree.resolve_eq_ok_iff.1 hresolve).1 he
  have hstart : (if r.absolute then Place.ofLocation [] else files.place) = p.start files.place := by
    rw [Route.ofText_eq_ok hr, Route.absolute_ofChars_text hp]
    unfold Path.start
    by_cases hroot : p.root = .relative <;> simp [hroot]
  rw [hstart] at hleads
  by_cases hempty : p.root = .relative ∧ p.names = []
  · -- The empty path is a single dot.
    obtain ⟨root, names⟩ := p
    obtain ⟨rfl, rfl⟩ := hempty
    have hnames : r.names = ["."] := by
      rw [Route.ofText_eq_ok hr]
      rfl
    rw [hnames] at hleads
    exact ⟨left, hleads.of_dot⟩
  · have hnames : r.names = p.names := by
      rw [Route.ofText_eq_ok hr]
      refine Path.partsOf_text hp ?_
      by_cases hroot : p.root = .relative
      · exact .inr fun hnil => hempty ⟨hroot, hnil⟩
      · exact .inl hroot
    rw [hnames] at hleads
    exact ⟨left, hleads⟩

/-- The path of an entry of a directory is followed from there, unless it cannot be followed at all. -/
theorem resolve_child (hp : ∀ name ∈ p.names, Path.IsName name) (hname : IsEntryName name)
    (h : files.resolve true p.text = .ok (.present spot e)) (he : e.isDirectory = true) :
    (∃ fault, fault.meansAbsent = false ∧ ∀ follow, files.resolve follow (p.child name).text = .error (.system fault)) ∨
      (files.tree.LooksUp (.ofLocation spot) name ∧ ∃ left, ∀ follow, files.resolve follow (p.child name).text =
        (files.tree.walk follow left (.ofLocation spot) [name]).mapError .system) := by
  have hnull : ¬ Text.HoldsNull (p.child name).text := by
    intro hnull
    obtain ⟨other, hother, hholds⟩ := (Path.holdsNull_text_iff _).1 hnull
    rcases List.mem_append.1 hother with hmem | hmem
    · have hbase := Route.ofText_eq_embeddedNull_iff.2 ((Path.holdsNull_text_iff p).2 ⟨other, hmem, hholds⟩)
      obtain ⟨r, hr, -⟩ := exists_route_of_resolve h
      rw [hbase] at hr
      cases hr
    · rw [List.mem_singleton.1 hmem] at hholds
      exact hname.no_null hholds
  obtain ⟨left, hleads⟩ := leads_of_resolve hp h he
  cases hr : Route.ofText (p.child name).text with
  | error fault =>
    -- The text holds no null character and is not empty, so it is too long.
    have hfault : fault = .system .nameTooLong := by
      have hnot : ¬ (p.child name).text.isEmpty = true := by
        obtain ⟨front, hfront⟩ := Path.exists_toList_text_child hp hname.toIsName
        rw [String.isEmpty_iff, ← String.toList_inj, hfront]
        simp [hname.ne_empty]
      unfold Route.ofText at hr
      rw [if_neg (by simpa [Text.HoldsNull] using hnull), if_neg hnot] at hr
      split at hr
      · exact (Except.error.inj hr).symm
      · cases hr
    refine .inl ⟨.nameTooLong, rfl, fun follow => ?_⟩
    unfold resolve
    rw [hr, hfault]
    rfl
  | ok r =>
    have hroute := (Route.ofText_eq_ok hr).trans (Route.ofChars_child hp hname.toIsName)
    have hwalk : ∀ follow, files.resolve follow (p.child name).text =
        (files.tree.walk follow left (.ofLocation spot) [name]).mapError .system := by
      intro follow
      rw [resolve_of_ofText hr, hroute, Tree.resolve_of_not_trailing rfl, ← hleads.walk (List.cons_ne_nil _ _)]
      unfold Path.start
      by_cases hroot : p.root = .relative <;> simp [hroot]
    by_cases hs : files.tree.searchable (.ofLocation spot) = true
    · exact .inr ⟨⟨hs, hname.ne_dot, hname.ne_up, rfl, hname.short⟩, left, hwalk⟩
    · refine .inl ⟨.permission, rfl, fun follow => ?_⟩
      rw [hwalk, Tree.walk, if_pos (by simp [hs])]
      rfl

/-- What is asked about an entry of a directory is answered as the entry is, unless it is a link; or else no question
about where its path leads is answered. -/
theorem child_questions (hp : ∀ name ∈ p.names, Path.IsName name) (hname : IsEntryName name)
    (h : files.resolve true p.text = .ok (.present spot e)) (he : e.isDirectory = true) {inner : Entry}
    (hfind : files.tree.find? (spot ++ [name]) = some inner) :
    (∃ fault, files.isDirectory (p.child name).text = .error fault) ∨
      (files.isLink (p.child name).text = .ok inner.isLink ∧ ∃ answer,
        files.isDirectory (p.child name).text = .ok answer ∧ (inner.isLink = false →
          answer = inner.isDirectory ∧
            files.resolve true (p.child name).text = .ok (.present (spot ++ [name]) inner))) := by
  rcases resolve_child hp hname h he with ⟨fault, hfault, hresolve⟩ | ⟨hlooks, left, hresolve⟩
  · refine .inl ⟨fault, ?_⟩
    unfold isDirectory ask
    simp [hresolve, hfault]
  · have hself : files.resolve false (p.child name).text = .ok (.present (spot ++ [name]) inner) := by
      rw [hresolve, hlooks.walk_last (by simp), show Place.live (.ofLocation spot) = spot from rfl, hfind]
      rfl
    cases hdirectory : files.isDirectory (p.child name).text with
    | error fault => exact .inl ⟨fault, rfl⟩
    | ok answer =>
      refine .inr ⟨ask_of_resolve hself _, answer, rfl, fun hnot => ?_⟩
      have hfound : files.resolve true (p.child name).text = .ok (.present (spot ++ [name]) inner) := by
        rw [hresolve, hlooks.walk_last fun _ other hother => ?_]
        · rw [show Place.live (.ofLocation spot) = spot from rfl, hfind]
          rfl
        · rwa [Option.some.inj (hother.symm.trans hfind)]
      exact ⟨Except.ok.inj (hdirectory.symm.trans (ask_of_resolve hfound _)), hfound⟩

end Files

end CommandShell
