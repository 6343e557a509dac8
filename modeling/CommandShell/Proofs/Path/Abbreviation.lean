import CommandShell.Proofs.Path.Written

/-!
# Abbreviated directories

A directory whose names begin with those of the home directory is shown as a tilde and the rest of its names
(`Path.abbreviate_below`), and any other as it is written. The rest leads from the home directory back to the
directory, so nothing is lost (`Path.abbreviate_inj`).
-/

namespace CommandShell

namespace Path

/-- Where a text leads from a path: to the path that it stands for below it, or, if that has a root, to that path. -/
def follow (p : Path) (s : String) : Path :=
  match (ofText s).root with
  | .relative => { p with names := p.names ++ (ofText s).names }
  | _ => ofText s

/-- A path lies at or below another one: it has the same root, and its names, whole ones, begin with those of the
other. -/
def Within (home p : Path) : Prop := home.root = p.root ∧ home.names <+: p.names

variable {home p q : Path}

theorem below?_eq_some_iff {rest : List String} :
    home.below? p = some rest ↔ home.root = p.root ∧ p.names = home.names ++ rest := by
  unfold below?
  constructor
  · intro h
    split at h
    · next hwithin =>
      obtain ⟨hroot, more, hmore⟩ := hwithin
      obtain rfl := Option.some.inj h
      exact ⟨hroot, by rw [← hmore, List.drop_left]⟩
    · cases h
  · rintro ⟨hroot, hnames⟩
    rw [if_pos ⟨hroot, rest, hnames.symm⟩, hnames, List.drop_left]

theorem below?_eq_none_iff : home.below? p = none ↔ ¬ home.Within p := by
  unfold below? Within
  split <;> simp_all

theorem abbreviate_of_not_within (h : ¬ home.Within p) : p.abbreviate home = p.text := by
  unfold abbreviate
  rw [below?_eq_none_iff.2 h]

/-- The names behind the home directory, as they are written behind the tilde. -/
private theorem text_tilde {rest : List String} (hrest : ∀ name ∈ rest, IsName name) (hne : rest ≠ []) :
    (Path.mk .relative ("~" :: rest)).text = "~/" ++ (Path.mk .relative rest).text := by
  have htilde : ∀ name ∈ "~" :: rest, IsName name :=
    List.forall_mem_cons.2 ⟨⟨by decide, by decide, by decide⟩, hrest⟩
  rw [← String.toList_inj, String.toList_append, toList_text htilde (.inr (by simp)), toList_text hrest (.inr hne),
    List.map_cons, List.intercalate_cons_of_ne_nil (by simpa using hne)]
  rfl

/-- A directory at or below the home directory is shown as the tilde, or as the tilde and what leads there from it. -/
theorem abbreviate_below (hp : ∀ name ∈ p.names, IsName name) (h : home.Within p) :
    (p.abbreviate home = "~" ∧ home = p) ∨ ∃ rest, p.abbreviate home = "~/" ++ rest ∧ home.follow rest = p := by
  obtain ⟨hroot, rest, hnames⟩ := h
  have hbelow : home.below? p = some rest := below?_eq_some_iff.2 ⟨hroot, hnames.symm⟩
  obtain ⟨root, names⟩ := p
  obtain ⟨homeRoot, homeNames⟩ := home
  dsimp only at hroot hnames hp
  subst hroot hnames
  unfold abbreviate
  rw [hbelow]
  cases rest with
  | nil => exact .inl ⟨rfl, by simp⟩
  | cons name others =>
    have hrest : ∀ other ∈ name :: others, IsName other := fun other hother => hp other (List.mem_append_right _ hother)
    refine .inr ⟨_, text_tilde hrest (by simp), ?_⟩
    unfold follow
    rw [ofText_text hrest]

theorem startsWith_tilde_iff (hroot : p.root ≠ .relative) (hp : ∀ name ∈ p.names, IsName name) :
    (p.abbreviate home).toList.head? = some '~' ↔ home.Within p := by
  constructor
  · intro hhead
    by_contra hnot
    rw [abbreviate_of_not_within hnot, head?_text hroot] at hhead
    cases hhead
  · intro hwithin
    rcases abbreviate_below hp hwithin with ⟨htext, -⟩ | ⟨rest, htext, -⟩
    · rw [htext]
      rfl
    · rw [htext, String.toList_append]
      rfl

/-- Two directories with a root are shown alike only if they are the same. -/
theorem abbreviate_inj (hproot : p.root ≠ .relative) (hqroot : q.root ≠ .relative)
    (hp : ∀ name ∈ p.names, IsName name) (hq : ∀ name ∈ q.names, IsName name) :
    p.abbreviate home = q.abbreviate home ↔ p = q := by
  refine ⟨fun h => ?_, fun h => by rw [h]⟩
  have hiff : home.Within p ↔ home.Within q := by
    rw [← startsWith_tilde_iff hproot hp, h, startsWith_tilde_iff hqroot hq]
  by_cases hwithin : home.Within p
  · have hlength : ∀ rest : String, "~" ≠ "~/" ++ rest := by
      intro rest he
      have := congrArg (·.toList.length) he
      simp at this
    rcases abbreviate_below hp hwithin with ⟨hpt, rfl⟩ | ⟨rest, hpt, rfl⟩ <;>
      rcases abbreviate_below hq (hiff.1 hwithin) with ⟨hqt, rfl⟩ | ⟨rest', hqt, rfl⟩
    · rfl
    · exact absurd (hpt.symm.trans (h.trans hqt)) (hlength rest')
    · exact absurd (hqt.symm.trans (h.symm.trans hpt)) (hlength rest)
    · have hrest : rest = rest' := by
        have hsame := congrArg String.toList (hpt.symm.trans (h.trans hqt))
        rw [String.toList_append, String.toList_append] at hsame
        exact String.toList_inj.1 (List.append_cancel_left hsame)
      rw [hrest]
  · rw [abbreviate_of_not_within hwithin, abbreviate_of_not_within (hiff.not.1 hwithin)] at h
    rw [← ofText_text hp, h, ofText_text hq]

end Path

/-- The working directory as the prompt shows it, if its path begins with a slash. It begins with a tilde exactly if it
lies at or below the home directory, whole names being compared; then it is the tilde alone for the home directory
itself, and otherwise what stands behind the tilde and a slash leads from the home directory to the working directory.
If it does not lie there, it is shown as it is written. So two such directories are shown alike exactly if they are the
same. -/
theorem displayDirectory_faithful {directory : String} (home : String) (habsolute : directory.toList.head? = some '/') :
    ((displayDirectory directory home).toList.head? = some '~' ↔ (Path.ofText home).Within (Path.ofText directory)) ∧
    ((Path.ofText home).Within (Path.ofText directory) →
      (displayDirectory directory home = "~" ∧ Path.ofText home = Path.ofText directory) ∨
        ∃ rest, displayDirectory directory home = "~/" ++ rest ∧
          (Path.ofText home).follow rest = Path.ofText directory) ∧
    (¬ (Path.ofText home).Within (Path.ofText directory) →
      displayDirectory directory home = (Path.ofText directory).text) ∧
    ∀ other : String, other.toList.head? = some '/' →
      (displayDirectory directory home = displayDirectory other home ↔ Path.ofText directory = Path.ofText other) := by
  have hnames : ∀ s, ∀ name ∈ (Path.ofText s).names, Path.IsName name := fun s _ => Path.isName_of_mem_ofText
  have hroot := Path.root_ne_relative_iff.2 habsolute
  exact ⟨Path.startsWith_tilde_iff hroot (hnames _), Path.abbreviate_below (hnames _), Path.abbreviate_of_not_within,
    fun other hother => Path.abbreviate_inj hroot (Path.root_ne_relative_iff.2 hother) (hnames _) (hnames _)⟩

/-- A name that only begins like the home directory is another one. -/
theorem displayDirectory_faithful_near :
    "/home/user2/../x".toList.head? = some '/' ∧
      displayDirectory "/home/user2/../x" "/home/user/" = "/home/user2/../x" ∧
      displayDirectory "/home/user2/../x" "/home/user/" ≠ displayDirectory "/home/user/../x" "/home/user/" := by
  have habsolute : "/home/user2/../x".toList.head? = some '/' := by decide
  have hnot : ¬ (Path.ofText "/home/user/").Within (Path.ofText "/home/user2/../x") := by
    rintro ⟨-, h⟩
    revert h
    decide +kernel
  obtain ⟨-, -, hother, hsame⟩ := displayDirectory_faithful "/home/user/" habsolute
  refine ⟨habsolute, (hother hnot).trans (by decide +kernel), fun h => ?_⟩
  have hpath := (hsame "/home/user/../x" (by decide)).1 h
  revert hpath
  decide +kernel

/-- Double dots stay behind the tilde; repeated slashes and single dots do not count. -/
example : displayDirectory "/home/user/../x" "/home//user/./" = "~/../x" := by decide +kernel

end CommandShell
