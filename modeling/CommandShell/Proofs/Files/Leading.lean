import CommandShell.Proofs.Files.Writing

/-!
# Names one after another

Names in front of others lead to a place, and the others are followed from there with the links that are left
(`Tree.Leads.walk`, `Tree.exists_leads`). So what is true of a path is read off its last name and the place in front of
it: whether a link at its end is followed matters only if there is one (`Tree.walk_unfollowed`), and a path that ends in
a name does not lead to the root directory (`Tree.ne_nil_of_walk`).
-/

namespace CommandShell

namespace Tree

/-- A name, and no dots, is looked up in the directory in which one stands. -/
structure LooksUp (tree : Tree) (here : Place) (name : String) : Prop where
  searchable : tree.searchable here = true
  ne_dot : name ≠ "."
  ne_up : name ≠ ".."
  not_lost : here.lost = []
  short : name.utf8ByteSize ≤ Route.longestName

/-- Names lead from one place to another, each one being followed. The numbers are those of the links that may be
followed before and afterwards. -/
inductive Leads (tree : Tree) : Nat → Place → List String → Nat → Place → Prop
  | nil (links : Nat) (here : Place) : Leads tree links here [] links here
  | dot {links left : Nat} {here there : Place} {rest : List String} (hs : tree.searchable here = true)
      (hrest : Leads tree links here rest left there) : Leads tree links here ("." :: rest) left there
  | up {links left : Nat} {here there : Place} {rest : List String} (hs : tree.searchable here = true)
      (hrest : Leads tree links here.up rest left there) : Leads tree links here (".." :: rest) left there
  | directory {links left : Nat} {here there : Place} {name : String} {rest : List String} {e : Entry}
      (hname : tree.LooksUp here name) (hfind : tree.find? (here.live ++ [name]) = some e)
      (hcontent : e.content = .directory)
      (hrest : Leads tree links (.ofLocation (here.live ++ [name])) rest left there) :
      Leads tree links here (name :: rest) left there
  | link {links left : Nat} {here there : Place} {name target : String} {rest : List String} {e : Entry}
      (hname : tree.LooksUp here name) (hfind : tree.find? (here.live ++ [name]) = some e)
      (hcontent : e.content = .link target) (htarget : target.isEmpty = false)
      (hrest : Leads tree links (if (Route.ofChars target).absolute then .ofLocation [] else here)
        ((Route.ofChars target).spliced ++ rest) left there) :
      Leads tree (links + 1) here (name :: rest) left there

variable {tree : Tree} {follow : Bool} {links left : Nat} {here there : Place} {names rest : List String}
  {last name : String} {target : Target} {spot : Location} {e : Entry}

/-- A name that has passed the tests in front is looked up. -/
theorem LooksUp.of_tests (hs : ¬ (!tree.searchable here) = true) (hdot : ¬ name = ".") (hup : ¬ name = "..")
    (hlost : ¬ (!here.lost.isEmpty) = true) (hshort : ¬ name.utf8ByteSize > Route.longestName) :
    tree.LooksUp here name :=
  ⟨by simpa using hs, hdot, hup, by simpa using hlost, Nat.not_lt.1 hshort⟩

theorem LooksUp.walk (h : tree.LooksUp here name) (follow : Bool) (links : Nat) (rest : List String) :
    tree.walk follow links here (name :: rest) =
      match tree.find? (here.live ++ [name]) with
      | none => if rest.isEmpty then .ok (.vacant here.live name) else .error .noEntry
      | some e =>
        match e.content with
        | .directory => tree.walk follow links (.ofLocation (here.live ++ [name])) rest
        | .link target =>
          if rest.isEmpty && !follow then .ok (.present (here.live ++ [name]) e)
          else
            match links with
            | 0 => .error .tooManyLinks
            | links + 1 =>
              if target.isEmpty then .error .noEntry
              else
                tree.walk follow links (if (Route.ofChars target).absolute then .ofLocation [] else here)
                  ((Route.ofChars target).spliced ++ rest)
        | _ => if rest.isEmpty then .ok (.present (here.live ++ [name]) e) else .error .notDirectory :=
  walk_name h.searchable h.ne_dot h.ne_up (by simp [h.not_lost]) (Nat.not_lt.2 h.short)

/-- A link that is followed has its target followed in its place. -/
theorem LooksUp.walk_link (h : tree.LooksUp here name) (hfind : tree.find? (here.live ++ [name]) = some e)
    {text : String} (hcontent : e.content = .link text) (htext : text.isEmpty = false)
    (hfollow : follow = true ∨ rest ≠ []) :
    tree.walk follow (links + 1) here (name :: rest) =
      tree.walk follow links (if (Route.ofChars text).absolute then .ofLocation [] else here)
        ((Route.ofChars text).spliced ++ rest) := by
  have hstay : (rest.isEmpty && !follow) = false := by rcases hfollow with rfl | hrest <;> simp [*]
  rw [h.walk, hfind]
  simp only [hcontent, hstay, htext, Bool.false_eq_true, if_false]

theorem walk_dot (hs : tree.searchable here = true) :
    tree.walk follow links here ("." :: rest) = tree.walk follow links here rest := by
  rw [Tree.walk, if_neg (by simp [hs]), if_pos rfl]

theorem walk_up (hs : tree.searchable here = true) :
    tree.walk follow links here (".." :: rest) = tree.walk follow links here.up rest := by
  rw [Tree.walk, if_neg (by simp [hs]), if_neg (by decide), if_pos rfl]

/-- What follows names is followed from the place to which they lead. -/
theorem Leads.walk (h : tree.Leads links here names left there) (hrest : rest ≠ []) :
    tree.walk follow links here (names ++ rest) = tree.walk follow left there rest := by
  induction h with
  | nil => rfl
  | dot hs _ ih => rw [List.cons_append, walk_dot hs, ih]
  | up hs _ ih => rw [List.cons_append, walk_up hs, ih]
  | directory hname hfind hcontent _ ih =>
    rw [List.cons_append, hname.walk, hfind]
    simp only [hcontent]
    exact ih
  | link hname hfind hcontent htarget _ ih =>
    rw [List.cons_append, hname.walk_link hfind hcontent htarget (.inr (by simp [hrest])), ← List.append_assoc]
    exact ih

/-- A single dot in front leads nowhere else. -/
theorem Leads.of_dot (h : tree.Leads links here ("." :: rest) left there) : tree.Leads links here rest left there := by
  generalize hall : "." :: rest = all at h
  cases h with
  | nil => cases hall
  | dot hs hrest =>
    obtain ⟨-, rfl⟩ := List.cons.inj hall
    exact hrest
  | up hs hrest => exact absurd (List.cons.inj hall).1 (by decide)
  | directory hname | link hname => exact absurd (List.cons.inj hall).1.symm hname.ne_dot

/-- Of names in front of others, the first one is followed first. -/
private theorem exists_others (hnames : names ≠ []) {all : List String} (h : names ++ rest = name :: all) :
    ∃ others, names = name :: others ∧ others ++ rest = all := by
  obtain ⟨hnil, -⟩ | ⟨others, hcons, hall⟩ := List.append_eq_cons_iff.1 h
  · exact absurd hnil hnames
  · exact ⟨others, hcons, hall.symm⟩

/-- Names in front of others have led somewhere if the whole leads somewhere. -/
theorem exists_leads (hrest : rest ≠ []) (hw : tree.walk follow links here (names ++ rest) = .ok target) :
    ∃ left there, tree.Leads links here names left there ∧ tree.walk follow left there rest = .ok target := by
  -- Nothing is followed where nothing is in front.
  have hpeel : ∀ {links here names}, tree.walk follow links here (names ++ rest) = .ok target →
      (names ≠ [] →
        ∃ left there, tree.Leads links here names left there ∧ tree.walk follow left there rest = .ok target) →
      ∃ left there, tree.Leads links here names left there ∧ tree.walk follow left there rest = .ok target := by
    intro links here names hw hcons
    by_cases hnames : names = []
    · subst hnames
      exact ⟨links, here, .nil _ _, hw⟩
    · exact hcons hnames
  refine hpeel hw ?_
  generalize hall : names ++ rest = all at hw
  revert names
  fun_induction Tree.walk tree follow links here all with
  | case1 => intro names hall hnames; simp [hnames] at hall
  | case2 | case5 | case6 | case8 | case11 | case12 | case15 => simp at hw
  -- Where the way ends with a name, nothing comes behind the name.
  | case7 _ _ _ _ _ _ _ _ _ _ _ hlast | case10 _ _ _ _ _ _ _ _ _ _ _ _ _ _ hlast
  | case14 _ _ _ _ _ _ _ _ _ _ _ _ hlast =>
    intro names hall hnames
    obtain ⟨others, -, rfl⟩ := exists_others hnames hall
    simp [hrest] at hlast
  | case3 links here rest' hs ih =>
    intro names hall hnames
    obtain ⟨others, rfl, rfl⟩ := exists_others hnames hall
    obtain ⟨left, there, hleads, hthere⟩ := hpeel hw (ih hw rfl)
    exact ⟨left, there, .dot (by simpa using hs) hleads, hthere⟩
  | case4 links here rest' hs hdot ih =>
    intro names hall hnames
    obtain ⟨others, rfl, rfl⟩ := exists_others hnames hall
    obtain ⟨left, there, hleads, hthere⟩ := hpeel hw (ih hw rfl)
    exact ⟨left, there, .up (by simpa using hs) hleads, hthere⟩
  | case9 links here name rest' hs hdot hup hlost hshort location e hfind hdirectory ih =>
    intro names hall hnames
    obtain ⟨others, rfl, rfl⟩ := exists_others hnames hall
    obtain ⟨left, there, hleads, hthere⟩ := hpeel hw (ih hw rfl)
    exact ⟨left, there, .directory (.of_tests hs hdot hup hlost hshort) hfind hdirectory hleads, hthere⟩
  | case13 here name rest' hs hdot hup hlost hshort location e hfind text hlink hfollow links r hempty =>
    rename_i ih
    intro names hall hnames
    obtain ⟨others, rfl, rfl⟩ := exists_others hnames hall
    rw [← List.append_assoc] at hw ih
    obtain ⟨left, there, hleads, hthere⟩ := hpeel hw (ih hw rfl)
    exact ⟨left, there, .link (.of_tests hs hdot hup hlost hshort) hfind hlink (by simpa using hempty) hleads, hthere⟩

/-- Names that lead to a directory have led to the place in it. -/
theorem leads_of_walk (hw : tree.walk follow links here names = .ok (.present spot e)) (he : e.isDirectory = true) :
    ∃ left, tree.Leads links here names left (.ofLocation spot) := by
  fun_induction Tree.walk tree follow links here names with
  | case1 links here =>
    refine ⟨links, ?_⟩
    unfold targetAt at hw
    split at hw
    · cases hw
    · next hlost =>
      obtain ⟨live, lost⟩ := here
      obtain rfl : lost = [] := by simpa using hlost
      split at hw
      · obtain ⟨rfl, -⟩ := Target.present.inj (Except.ok.inj hw)
        exact .nil _ _
      · cases hw
  | case2 | case5 | case6 | case7 | case8 | case11 | case12 | case15 => simp at hw
  | case3 links here rest hs ih =>
    obtain ⟨left, hleads⟩ := ih hw
    exact ⟨left, .dot (by simpa using hs) hleads⟩
  | case4 links here rest hs hdot ih =>
    obtain ⟨left, hleads⟩ := ih hw
    exact ⟨left, .up (by simpa using hs) hleads⟩
  | case9 links here name rest hs hdot hup hlost hshort location e' hfind hdirectory ih =>
    obtain ⟨left, hleads⟩ := ih hw
    exact ⟨left, .directory (.of_tests hs hdot hup hlost hshort) hfind hdirectory hleads⟩
  | case10 links here name rest hs hdot hup hlost hshort location e' hfind text hlink hstay =>
    obtain ⟨-, rfl⟩ := Target.present.inj (Except.ok.inj hw)
    simp [Entry.isDirectory, hlink] at he
  | case13 here name rest hs hdot hup hlost hshort location e' hfind text hlink hfollow links r hempty ih =>
    obtain ⟨left, hleads⟩ := ih hw
    exact ⟨left, .link (.of_tests hs hdot hup hlost hshort) hfind hlink (by simpa using hempty) hleads⟩
  | case14 links here name rest hs hdot hup hlost hshort location e' hfind hrest hnot =>
    obtain ⟨-, rfl⟩ := Target.present.inj (Except.ok.inj hw)
    unfold Entry.isDirectory at he
    split at he
    · next hcontent => exact absurd hcontent hnot
    · cases he

/-! ### The last name of a path -/

/-- A name that leads anywhere is one or two dots, or it is looked up. -/
theorem lookup_of_walk (hw : tree.walk follow links here (name :: rest) = .ok target) :
    tree.searchable here = true ∧ (name = "." ∨ name = ".." ∨ tree.LooksUp here name) := by
  rw [Tree.walk] at hw
  split at hw
  · cases hw
  · next hs =>
    refine ⟨by simpa using hs, ?_⟩
    split at hw
    · next hdot => exact .inl hdot
    · next hdot =>
      split at hw
      · next hup => exact .inr (.inl hup)
      · next hup =>
        split at hw
        · cases hw
        · next hlost =>
          split at hw
          · cases hw
          · next hshort => exact .inr (.inr (.of_tests hs hdot hup hlost hshort))

/-- The last name of a path leads to what is there under it, unless that is a link that is followed. -/
theorem LooksUp.walk_last (h : tree.LooksUp here name)
    (hfollow : follow = true → ∀ e, tree.find? (here.live ++ [name]) = some e → e.isLink = false) :
    tree.walk follow links here [name] =
      match tree.find? (here.live ++ [name]) with
      | none => .ok (.vacant here.live name)
      | some e => .ok (.present (here.live ++ [name]) e) := by
  rw [h.walk]
  cases hfind : tree.find? (here.live ++ [name]) with
  | none => rfl
  | some e =>
    cases hcontent : e.content with
    | directory =>
      simp only [hcontent]
      rw [Tree.walk]
      simp [targetAt, Place.ofLocation, hfind]
    | link text =>
      cases follow with
      | false => simp [hcontent]
      | true =>
        have hlink := hfollow rfl e hfind
        simp [Entry.isLink, hcontent] at hlink
    | file | program | sink => simp [hcontent]

/-- A link at the end that is not followed is found itself; anything else at the end is found as if it were followed. -/
theorem walk_unfollowed (hw : tree.walk true links here names = .ok target) :
    tree.walk false links here names = .ok target ∨
      ∃ spot e, e.isLink = true ∧ tree.walk false links here names = .ok (.present spot e) := by
  rcases List.eq_nil_or_concat names with rfl | ⟨front, last, rfl⟩
  · exact .inl (by rw [Tree.walk] at hw ⊢; exact hw)
  · rw [List.concat_eq_append] at hw ⊢
    obtain ⟨left, there, hleads, hlast⟩ := exists_leads (List.cons_ne_nil _ _) hw
    rw [hleads.walk (List.cons_ne_nil _ _)]
    obtain ⟨hs, rfl | rfl | hname⟩ := lookup_of_walk hlast
    · exact .inl (by rw [walk_dot hs, Tree.walk] at hlast ⊢; exact hlast)
    · exact .inl (by rw [walk_up hs, Tree.walk] at hlast ⊢; exact hlast)
    · by_cases hlink : ∃ e, tree.find? (there.live ++ [last]) = some e ∧ e.isLink = true
      · obtain ⟨e, hfind, hlink⟩ := hlink
        exact .inr ⟨_, e, hlink, by rw [hname.walk_last (by simp), hfind]⟩
      · refine .inl ?_
        rw [hname.walk_last (by simp), ← hlast, hname.walk_last fun _ e hfind => ?_]
        exact Bool.eq_false_iff.2 fun he => hlink ⟨e, hfind, he⟩

/-- Without a slash at its end, a route leads where its names lead. -/
theorem resolve_of_not_trailing {place : Place} {r : Route} (hr : r.trailing = false) :
    tree.resolve place follow r =
      tree.walk follow linkLimit (if r.absolute then .ofLocation [] else place) r.names := by
  unfold resolve
  simp only [hr, Bool.or_false, Bool.false_and, Bool.false_eq_true, if_false]
  split
  · next hw => rw [hw]
  · rfl

/-- A path that ends in a name leads to an entry in a directory. -/
theorem ne_nil_of_walk {r : Route} (hr : r.endsInName = true)
    (hw : tree.walk false links here r.names = .ok (.present spot e)) : spot ≠ [] := by
  rcases List.eq_nil_or_concat r.names with hnil | ⟨front, last, hlast⟩
  · simp [Route.endsInName, hnil] at hr
  · rw [List.concat_eq_append] at hlast
    have hends : last ≠ "." ∧ last ≠ ".." := by simpa [Route.endsInName, hlast] using hr
    rw [hlast] at hw
    obtain ⟨left, there, -, hw⟩ := exists_leads (List.cons_ne_nil _ _) hw
    obtain ⟨hs, hdot | hup | hname⟩ := lookup_of_walk hw
    · exact absurd hdot hends.1
    · exact absurd hup hends.2
    · rw [hname.walk_last (by simp)] at hw
      split at hw
      · cases hw
      · obtain ⟨rfl, -⟩ := Target.present.inj (Except.ok.inj hw)
        simp

/-- Where a path leads somewhere, so does what is in front of its last name. -/
theorem exists_resolveParent {place : Place} {r : Route}
    (hw : tree.walk follow linkLimit (if r.absolute then .ofLocation [] else place) r.names = .ok target)
    (hnil : r.names = [] → r.absolute = true) : ∃ above, tree.resolveParent place r = .ok above := by
  have hdot : ∀ {links here}, tree.searchable here = true → ∃ above, tree.walk true links here ["."] = .ok above := by
    intro links here hs
    rw [walk_dot hs, Tree.walk]
    unfold searchable at hs
    unfold targetAt
    split
    · exact ⟨_, rfl⟩
    · next hlost =>
      cases hfind : tree.find? here.live with
      | none => simp [hlost, hfind] at hs
      | some e => exact ⟨_, rfl⟩
  unfold resolveParent
  rcases List.eq_nil_or_concat r.names with hnames | ⟨front, last, hlast⟩
  · rw [hnames, if_pos (hnil hnames)]
    exact hdot rfl
  · rw [List.concat_eq_append] at hlast
    rw [hlast] at hw ⊢
    obtain ⟨left, there, hleads, hw⟩ := exists_leads (List.cons_ne_nil _ _) hw
    rw [List.dropLast_concat, hleads.walk (List.cons_ne_nil _ _)]
    exact hdot (lookup_of_walk hw).1

end Tree

namespace Files

variable {files : Files} {path : String}

/-- A path from the working directory without a slash at its end leads where its names lead. -/
theorem resolve_of_names {names : List String} (hr : Route.ofText path = .ok ⟨false, names, false⟩) (follow : Bool) :
    files.resolve follow path = (files.tree.walk follow Tree.linkLimit files.place names).mapError .system := by
  rw [resolve_of_ofText hr, Tree.resolve_of_not_trailing rfl]
  rfl

/-- A question about a path that leads somewhere is answered by what is there. -/
theorem ask_of_resolve {follow : Bool} {target : Target} (h : files.resolve follow path = .ok target)
    (question : Target → Bool) : files.ask follow path question = .ok (question target) := by
  unfold ask
  rw [h]

end Files

end CommandShell
