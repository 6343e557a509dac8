import CommandShell.Path
import CommandShell.Proofs.Text.Parts

/-!
# The written form of a path

Reading what a path is written as gives the path back (`Path.ofText_text`), since its names are neither empty nor single
dots and hold no slash (`Path.isName_of_mem_ofText`). So a written form belongs to one path only
(`Path.ofText_text_inj`).
-/

namespace CommandShell

namespace Text

/-- Texts without the separator, joined by it, are its parts again. -/
theorem splitAtChar_intercalate {sep : Char} {parts : List (List Char)} (hne : parts ≠ [])
    (h : ∀ part ∈ parts, sep ∉ part) : splitAtChar sep (List.intercalate [sep] parts) = parts := by
  induction parts with
  | nil => exact absurd rfl hne
  | cons part rest ih =>
    cases rest with
    | nil => simpa using splitAtChar_of_notMem (h part (by simp))
    | cons next others =>
      rw [List.intercalate_cons_of_ne_nil (by simp), List.append_assoc, List.singleton_append,
        splitAtChar_append (h part (by simp)), ih (by simp) fun other hother => h other (by simp [hother])]

end Text

namespace Path

/-- A name as a path holds it. -/
structure IsName (name : String) : Prop where
  ne_empty : name ≠ ""
  ne_dot : name ≠ "."
  no_slash : '/' ∉ name.toList

private theorem filter_split_slashes {front rest : List Char} (hfront : ∀ c ∈ front, c = '/') :
    (Text.splitAtChar '/' (front ++ rest)).filter (!·.isEmpty) =
      (Text.splitAtChar '/' rest).filter (!·.isEmpty) := by
  induction front with
  | nil => rfl
  | cons c front ih =>
    obtain rfl := hfront c (by simp)
    rw [List.cons_append, Text.splitAtChar_cons_self, List.filter_cons_of_neg (by simp),
      ih fun d hd => hfront d (by simp [hd])]

/-- The parts of names that are joined by slashes, behind any number of slashes. -/
theorem partsOf_joined {s : String} {front : List Char} {names : List String} (hfront : ∀ c ∈ front, c = '/')
    (hnames : ∀ name ∈ names, name ≠ "" ∧ '/' ∉ name.toList)
    (hs : s.toList = front ++ List.intercalate ['/'] (names.map String.toList)) : partsOf s = names := by
  have hsplit : (Text.splitAtChar '/' (List.intercalate ['/'] (names.map String.toList))).filter (!·.isEmpty) =
      names.map String.toList := by
    by_cases hne : names = []
    · subst hne
      rfl
    · rw [Text.splitAtChar_intercalate (by simpa using hne)]
      · refine List.filter_eq_self.2 fun part hpart => ?_
        obtain ⟨name, hname, rfl⟩ := List.mem_map.1 hpart
        simpa using (hnames name hname).1
      · intro part hpart
        obtain ⟨name, hname, rfl⟩ := List.mem_map.1 hpart
        exact (hnames name hname).2
  unfold partsOf
  rw [hs, filter_split_slashes hfront, hsplit, List.map_map]
  simp [Function.comp_def]

theorem isName_of_mem_ofText {s name : String} (h : name ∈ (ofText s).names) : IsName name := by
  obtain ⟨hpart, hdot⟩ := List.mem_filter.1 h
  obtain ⟨part, hmem, rfl⟩ := List.mem_map.1 hpart
  obtain ⟨hsplit, hne⟩ := List.mem_filter.1 hmem
  refine ⟨by simpa using hne, by simpa using hdot, ?_⟩
  simpa using (Text.mem_splitAtChar hsplit).2

/-- A path that is not empty is written as its root and its names, with slashes between them. -/
theorem toList_text {p : Path} (hp : ∀ name ∈ p.names, IsName name) (hne : p.root ≠ .relative ∨ p.names ≠ []) :
    p.text.toList = p.root.text.toList ++ List.intercalate ['/'] (p.names.map String.toList) := by
  have hwritten : (p.root.text ++ String.intercalate "/" p.names).toList =
      p.root.text.toList ++ List.intercalate ['/'] (p.names.map String.toList) := by
    rw [String.toList_append, String.toList_intercalate]
    rfl
  unfold text
  dsimp only
  rw [if_neg, hwritten]
  -- A dot is written only where nothing else would be.
  rw [String.isEmpty_iff, ← String.toList_inj, hwritten]
  intro hempty
  obtain ⟨hroot, hnames⟩ := List.append_eq_nil_iff.1 hempty
  rcases hne with hne | hne
  · cases hr : p.root <;> rw [hr] at hroot hne
    · exact hne rfl
    · cases hroot
    · cases hroot
  · obtain ⟨name, rest, hcons⟩ := List.exists_cons_of_ne_nil hne
    have hname := (hp name (by simp [hcons])).ne_empty
    cases rest <;> simp_all [List.intercalate]

/-- The parts of the written form of a path are its names, unless it is empty. -/
theorem partsOf_text {p : Path} (hp : ∀ name ∈ p.names, IsName name) (hne : p.root ≠ .relative ∨ p.names ≠ []) :
    partsOf p.text = p.names :=
  partsOf_joined (by cases p.root <;> simp [Root.text])
    (fun name hname => ⟨(hp name hname).ne_empty, (hp name hname).no_slash⟩) (toList_text hp hne)

theorem isName_child {p : Path} {name : String} (hp : ∀ name ∈ p.names, IsName name) (hname : IsName name) :
    ∀ other ∈ (p.child name).names, IsName other := by
  intro other hother
  rcases List.mem_append.1 hother with h | h
  · exact hp other h
  · rwa [List.mem_singleton.1 h]

/-- A path below another one ends in its last name. -/
theorem exists_toList_text_child {p : Path} {name : String} (hp : ∀ name ∈ p.names, IsName name) (hname : IsName name) :
    ∃ front, (p.child name).text.toList = front ++ name.toList := by
  have hjoined : ∀ names : List String,
      ∃ front, List.intercalate ['/'] ((names ++ [name]).map String.toList) = front ++ name.toList := by
    intro names
    induction names with
    | nil => exact ⟨[], by simp [List.intercalate]⟩
    | cons first rest ih =>
      obtain ⟨front, hfront⟩ := ih
      refine ⟨first.toList ++ ['/'] ++ front, ?_⟩
      rw [List.cons_append, List.map_cons, List.intercalate_cons_of_ne_nil (by simp), hfront]
      simp
  obtain ⟨front, hfront⟩ := hjoined p.names
  refine ⟨p.root.text.toList ++ front, ?_⟩
  rw [toList_text (isName_child hp hname) (.inr (by simp [child]))]
  show p.root.text.toList ++ List.intercalate ['/'] ((p.names ++ [name]).map String.toList) = _
  rw [hfront, List.append_assoc]

/-- What stands in front of the names decides on the root. -/
private theorem root_ofChars {root : Root} {rest : List Char} (hrest : rest.head? ≠ some '/')
    (hne : root ≠ .relative ∨ rest ≠ []) : Root.ofChars (root.text.toList ++ rest) = root := by
  cases rest with
  | nil =>
    cases root with
    | relative => simp at hne
    | slash | doubleSlash => rfl
  | cons c rest =>
    have hc : c ≠ '/' := by simpa using hrest
    cases root <;> simp [Root.text, Root.ofChars, hc]

theorem ofText_text {p : Path} (hp : ∀ name ∈ p.names, IsName name) : ofText p.text = p := by
  obtain ⟨root, names⟩ := p
  by_cases hempty : root = .relative ∧ names = []
  · -- This path is written as a dot, which is read as no name.
    obtain ⟨rfl, rfl⟩ := hempty
    rfl
  · have hne : root ≠ .relative ∨ names ≠ [] := by
      by_cases hroot : root = .relative
      · exact .inr fun hnames => hempty ⟨hroot, hnames⟩
      · exact .inl hroot
    have htext := toList_text hp hne
    dsimp only at hp htext
    have hparts : partsOf (Path.mk root names).text = names := partsOf_text hp hne
    have hroot : Root.ofChars (Path.mk root names).text.toList = root := by
      rw [htext]
      refine root_ofChars ?_ ?_
      · cases names with
        | nil => simp [List.intercalate]
        | cons name rest =>
          obtain ⟨hname, -, hslash⟩ := hp name (by simp)
          obtain ⟨c, cs, hcs⟩ := List.exists_cons_of_ne_nil (show name.toList ≠ [] by simpa using hname)
          rw [hcs] at hslash
          have hc : c ≠ '/' := fun h => hslash (by simp [h])
          cases rest <;> simp [List.intercalate, hcs, hc]
      · refine hne.imp_right fun hnames => ?_
        obtain ⟨name, rest, rfl⟩ := List.exists_cons_of_ne_nil hnames
        have hname := (hp name (by simp)).ne_empty
        cases rest <;> simp [List.intercalate, hname]
    unfold ofText
    rw [hroot, hparts, List.filter_eq_self.2]
    intro name hname
    simpa using (hp name hname).ne_dot

theorem ofText_text_ofText (s : String) : ofText (ofText s).text = ofText s :=
  ofText_text fun _ => isName_of_mem_ofText

theorem ofText_text_inj {s t : String} : (ofText s).text = (ofText t).text ↔ ofText s = ofText t := by
  refine ⟨fun h => ?_, fun h => by rw [h]⟩
  rw [← ofText_text_ofText s, h, ofText_text_ofText]

/-- A path has a root exactly if its text begins with a slash. -/
theorem root_ne_relative_iff {s : String} : (ofText s).root ≠ .relative ↔ s.toList.head? = some '/' := by
  show Root.ofChars s.toList ≠ .relative ↔ _
  unfold Root.ofChars
  split
  · next hs => simp [hs]
  · next hs => simp [hs]
  · next hs => simp [hs]
  · next h =>
    cases hs : s.toList with
    | nil => simp
    | cons c cs =>
      have hc : c ≠ '/' := fun hc => h cs (by rw [hs, hc])
      simp [hc]

/-- A path that has a root is written with a slash in front. -/
theorem head?_text {p : Path} (hroot : p.root ≠ .relative) : p.text.toList.head? = some '/' := by
  have hhead : ∀ cs, (p.root.text.toList ++ cs).head? = some '/' := by
    intro cs
    cases hr : p.root with
    | relative => exact absurd hr hroot
    | slash | doubleSlash => rfl
  unfold text
  dsimp only
  split
  · next hempty =>
    have := hhead (String.intercalate "/" p.names).toList
    rw [← String.toList_append, String.isEmpty_iff.1 hempty] at this
    cases this
  · rw [String.toList_append]
    exact hhead _

end Path

end CommandShell
