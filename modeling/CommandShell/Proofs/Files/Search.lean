import CommandShell.Failure
import CommandShell.Proofs.Files.Child

/-!
# Searching below a directory

What there is to tell of the entries below a directory: each entry whose name holds a pattern, and each directory that
cannot be listed (`Report.Due`). A search from directory to directory comes to all of it (`Files.mem_reports_iff`), each
directory before what is in it and its entries in the order of their names (`Files.reports_pairwise`). Links are not
followed, so the search goes no deeper than the tree.
-/

namespace CommandShell

/-- The path to which names lead from a path. -/
def Path.descend (p : Path) (names : List String) : Path := { p with names := p.names ++ names }

/-- What there is to tell of an entry. -/
inductive News where
  /-- The name holds the pattern. -/
  | found
  /-- It is a directory, but what is in it cannot be listed. -/
  | unlistable (fault : SystemFault)
  /-- It cannot be said whether it is a directory. -/
  | stumble (m : Mishap)
deriving DecidableEq

/-- Something to tell of the entry to which names lead from the directory where a search begins. -/
structure Report where
  names : List String
  news : News
deriving DecidableEq

namespace Files

variable (files : Files)

/-- A search below a directory comes to an entry: names lead there from the directory, each of them but the last the
name of a directory and not of a link, and all the directories on the way can be listed. -/
def Reaches (p : Path) (names : List String) (e : Entry) : Prop :=
  ∃ spot start, files.resolve true p.text = .ok (.present spot start) ∧ names ≠ [] ∧
    files.tree.find? (spot ++ names) = some e ∧
    ∀ front, front <+: names → front ≠ names →
      (∃ listed, files.list (p.descend front).text = .ok listed) ∧
      (front ≠ [] → ∃ between, files.tree.find? (spot ++ front) = some between ∧ between.isDirectory = true)

end Files

namespace Report

/-- Reports come in the order of the names, what is in a directory behind the directory itself. That an entry has been
found comes before what else there is to tell of it. -/
def Before (a b : Report) : Prop := a.names < b.names ∨ (a.names = b.names ∧ a.news = .found ∧ b.news ≠ .found)

/-- What is to be told of the entries below a directory, of the directory itself only that it cannot be listed. -/
def Due (files : Files) (p : Path) (pattern : String) (r : Report) : Prop :=
  match r.news with
  | .found => ∃ e name, files.Reaches p r.names e ∧ r.names.getLast? = some name ∧ pattern.toList <:+: name.toList
  | .unlistable fault =>
    (r.names = [] ∨ ∃ e, files.Reaches p r.names e ∧ e.isDirectory = true ∧
      files.isDirectory (p.descend r.names).text = .ok true) ∧
    files.list (p.descend r.names).text = .error (.system fault)
  | .stumble m =>
    (r.names = [] ∧ files.list p.text = .error .embeddedNull ∧ m = .embeddedNull) ∨
    ∃ e fault, files.Reaches p r.names e ∧ files.isDirectory (p.descend r.names).text = .error fault ∧
      m = .system fault (some (p.descend r.names).text)

/-- What is told of an entry in a directory, told from the directory above. -/
def within (name : String) (r : Report) : Report := { r with names := name :: r.names }

theorem within_inj {name : String} {a b : Report} : a.within name = b.within name ↔ a = b := by
  obtain ⟨names, news⟩ := a
  obtain ⟨names', news'⟩ := b
  simp [within]

/-- No report comes before itself, so where they come in order, none comes twice. -/
theorem Before.irrefl (r : Report) : ¬ r.Before r := by
  rintro (h | ⟨-, hfound, hnot⟩)
  · exact List.lt_irrefl _ h
  · exact hnot hfound

theorem before_within_iff {name : String} {a b : Report} : (a.within name).Before (b.within name) ↔ a.Before b := by
  unfold Before within
  simp

end Report

namespace Tree

variable {tree : Tree}

/-- The names in a directory come in order, each of them once. -/
theorem Proper.namesIn_pairwise (h : tree.Proper) (directory : Location) :
    (tree.namesIn directory).Pairwise (· < ·) := by
  have hnodup : (tree.entries.filterMap fun entry => nameWithin? directory entry.1).Nodup := by
    refine List.pairwise_filterMap.2 ((List.pairwise_map.1 h.distinct).imp ?_)
    rintro ⟨spot, e⟩ ⟨spot', e'⟩ hne name hname name' hname' rfl
    exact hne ((nameWithin?_eq_some_iff.1 hname).trans (nameWithin?_eq_some_iff.1 hname').symm)
  have hsorted : (tree.namesIn directory).Pairwise fun a b => decide (a ≤ b) = true :=
    List.pairwise_mergeSort (fun _ _ _ hab hbc => by simp only [decide_eq_true_eq] at *; exact String.le_trans hab hbc)
      (fun a b => by simpa using String.le_total a b) _
  refine (hsorted.and ((List.mergeSort_perm _ _).nodup_iff.2 hnodup)).imp ?_
  rintro a b ⟨hle, hne⟩
  exact Std.lt_of_le_of_ne (by simpa using hle) hne

/-- No location has more names than the depth of the tree. -/
theorem length_le_depth {spot : Location} {e : Entry} (h : tree.find? spot = some e) : spot.length ≤ tree.depth := by
  by_cases hspot : spot = []
  · subst hspot
    exact Nat.zero_le _
  · have hmem : spot.length ∈ tree.entries.map (·.1.length) :=
      List.mem_map.2 ⟨(spot, e), mem_entries_of_find? h hspot, rfl⟩
    have hbound : ∀ (lengths : List Nat) (start n : Nat), n ∈ lengths ∨ n ≤ start → n ≤ lengths.foldl max start := by
      intro lengths
      induction lengths with
      | nil =>
        rintro start n (h | h)
        · cases h
        · exact h
      | cons first others ih =>
        rintro start n h
        refine ih _ n ?_
        rcases h with h | h
        · rcases List.mem_cons.1 h with rfl | h
          · exact .inr (Nat.le_max_right _ _)
          · exact .inl h
        · exact .inr (h.trans (Nat.le_max_left _ _))
    exact hbound _ 0 _ (.inl hmem)

end Tree

namespace Text

theorem occursIn_iff {pattern cs : List Char} : occursIn pattern cs = true ↔ pattern <:+: cs := by
  induction cs with
  | nil => simp [occursIn]
  | cons c rest ih => simp [occursIn, ih, List.infix_cons_iff]

theorem occurs_iff {pattern text : String} : occurs pattern text = true ↔ pattern.toList <:+: text.toList :=
  occursIn_iff

end Text

namespace Files

variable {files : Files} {p : Path} {pattern name : String} {names rest : List String} {listed : List String}
  {spot : Location} {e inner start : Entry}

theorem list_of_resolve {path : String} (h : files.resolve true path = .ok (.present spot e))
    (he : e.isDirectory = true) :
    files.list path = if e.readable then .ok (files.tree.namesIn spot) else .error (.system .permission) := by
  unfold list
  rw [h]
  simp only [bind, Except.bind, he]
  cases e.readable <;> rfl

theorem list_eq_ok {path : String} (h : files.list path = .ok listed) :
    (∃ spot e, files.resolve true path = .ok (.present spot e) ∧ e.isDirectory = true ∧
      listed = files.tree.namesIn spot) ∨ ∃ place, files.resolve true path = .ok (.removed place) ∧ listed = [] := by
  unfold list at h
  cases hresolve : files.resolve true path with
  | error fault =>
    rw [hresolve] at h
    cases h
  | ok target =>
    rw [hresolve] at h
    cases target with
    | vacant => cases h
    | removed place => exact .inr ⟨place, rfl, (Except.ok.inj h).symm⟩
    | present spot e =>
      simp only [bind, Except.bind] at h
      split at h
      · cases h
      · next hdirectory =>
        split at h
        · cases h
        · exact .inl ⟨spot, e, rfl, by simpa using hdirectory, (Except.ok.inj h).symm⟩

theorem isDirectory_of_resolve {path : String} (h : files.resolve true path = .ok (.present spot e)) :
    files.isDirectory path = .ok e.isDirectory :=
  ask_of_resolve h _

/-- A directory in a directory that can itself be listed is where its path leads. -/
private theorem resolve_of_list (hp : ∀ name ∈ p.names, Path.IsName name) (hname : IsEntryName name)
    (h : files.resolve true p.text = .ok (.present spot e)) (he : e.isDirectory = true)
    (hfind : files.tree.find? (spot ++ [name]) = some inner) (hinner : inner.isDirectory = true)
    (hlist : files.list (p.child name).text = .ok listed) :
    files.resolve true (p.child name).text = .ok (.present (spot ++ [name]) inner) := by
  rcases child_questions hp hname h he hfind with ⟨fault, hfault⟩ | ⟨-, answer, -, hleads⟩
  · -- What cannot be told to be a directory cannot be listed either.
    have hanswered : ∀ target, files.resolve true (p.child name).text ≠ .ok target := by
      intro target htarget
      cases (ask_of_resolve htarget _).symm.trans hfault
    rcases list_eq_ok hlist with ⟨spot', e', htarget, -⟩ | ⟨place, htarget, -⟩
    · exact absurd htarget (hanswered _)
    · exact absurd htarget (hanswered _)
  · exact (hleads (Entry.isLink_of_isDirectory hinner)).2

private theorem descend_cons (p : Path) (name : String) (front : List String) :
    p.descend (name :: front) = (p.child name).descend front := by
  simp [Path.descend, Path.child]

private theorem descend_nil (p : Path) : p.descend [] = p := by simp [Path.descend]

theorem resolve_of_list_eq_embeddedNull {path : String} (h : files.list path = .error .embeddedNull) :
    files.resolve true path = .error .embeddedNull := by
  unfold list at h
  cases hresolve : files.resolve true path with
  | error fault =>
    rw [hresolve] at h
    rw [Except.error.inj h]
  | ok target =>
    rw [hresolve] at h
    cases target with
    | present spot e =>
      simp only [bind, Except.bind] at h
      split at h
      · cases h
      · split at h <;> cases h
    | vacant | removed => cases h

private theorem list_ne_embeddedNull {path : String} (h : files.isDirectory path = .ok true) :
    files.list path ≠ .error .embeddedNull := by
  intro hlist
  unfold isDirectory ask at h
  rw [resolve_of_list_eq_embeddedNull hlist] at h
  cases h

/-- In a directory that can be listed, a search comes to each entry, and from those that are directories on. -/
theorem reaches_cons_iff (hp : ∀ name ∈ p.names, Path.IsName name) (hname : IsEntryName name)
    (h : files.resolve true p.text = .ok (.present spot start)) (hstart : start.isDirectory = true)
    (hlist : files.list p.text = .ok listed) (hfind : files.tree.find? (spot ++ [name]) = some inner) :
    files.Reaches p (name :: rest) e ↔ (rest = [] ∧ e = inner) ∨
      (inner.isDirectory = true ∧ files.isDirectory (p.child name).text = .ok true ∧
        files.Reaches (p.child name) rest e) := by
  constructor
  · rintro ⟨spot', start', h', -, hfound, hway⟩
    obtain ⟨rfl, rfl⟩ := Target.present.inj (Except.ok.inj (h.symm.trans h'))
    by_cases hrest : rest = []
    · subst hrest
      exact .inl ⟨rfl, Option.some.inj (hfound.symm.trans hfind)⟩
    · obtain ⟨⟨listed', hlisted⟩, hbetween⟩ :=
        hway [name] (List.prefix_append [name] rest) (by simpa using Ne.symm hrest)
      obtain ⟨between, hbetween, hdirectory⟩ := hbetween (List.cons_ne_nil _ _)
      obtain rfl := Option.some.inj (hbetween.symm.trans hfind)
      rw [descend_cons, descend_nil] at hlisted
      have hleads := resolve_of_list hp hname h hstart hfind hdirectory hlisted
      refine .inr ⟨hdirectory, by rw [isDirectory_of_resolve hleads, hdirectory], spot ++ [name], between, hleads,
        hrest, by rwa [← List.append_cons], fun front hfront hne => ?_⟩
      obtain ⟨hlisted, hbetween⟩ := hway (name :: front) (List.cons_prefix_cons.2 ⟨rfl, hfront⟩) (by simpa using hne)
      rw [descend_cons] at hlisted
      exact ⟨hlisted, fun _ => by rw [← List.append_cons]; exact hbetween (List.cons_ne_nil _ _)⟩
  · rintro (⟨rfl, rfl⟩ | ⟨hdirectory, -, spot', inner', h', hrest, hfound, hway⟩)
    · refine ⟨spot, start, h, by simp, hfind, fun front hfront hne => ?_⟩
      have hnil : front = [] := by
        rcases List.prefix_cons_iff.1 hfront with hnil | ⟨front', rfl, hfront'⟩
        · exact hnil
        · exact absurd (by rw [List.prefix_nil.1 hfront']) hne
      subst hnil
      exact ⟨⟨listed, by rw [descend_nil, hlist]⟩, fun hnil => absurd rfl hnil⟩
    · -- The directory in which the search goes on can be listed, so it is where its path leads.
      obtain ⟨⟨listed', hlisted⟩, -⟩ := hway [] (List.nil_prefix) (Ne.symm hrest)
      rw [descend_nil] at hlisted
      have hleads := resolve_of_list hp hname h hstart hfind hdirectory hlisted
      obtain ⟨rfl, rfl⟩ := Target.present.inj (Except.ok.inj (hleads.symm.trans h'))
      refine ⟨spot, start, h, by simp, by rwa [List.append_cons], fun front hfront hne => ?_⟩
      rcases List.prefix_cons_iff.1 hfront with rfl | ⟨front', rfl, hfront'⟩
      · exact ⟨⟨listed, by rw [descend_nil, hlist]⟩, fun hnil => absurd rfl hnil⟩
      · obtain ⟨hlisted, hbetween⟩ := hway front' hfront' fun heq => hne (by rw [heq])
        rw [descend_cons]
        refine ⟨hlisted, fun _ => ?_⟩
        by_cases hnil : front' = []
        · subst hnil
          exact ⟨inner, hfind, hdirectory⟩
        · obtain ⟨between, hfind', hdirectory'⟩ := hbetween hnil
          exact ⟨between, by rwa [List.append_cons], hdirectory'⟩

/-- What is to be told of an entry in a directory that can be listed and of what is below the entry. -/
theorem due_within_iff (hp : ∀ name ∈ p.names, Path.IsName name) (hname : IsEntryName name)
    (h : files.resolve true p.text = .ok (.present spot start)) (hstart : start.isDirectory = true)
    (hlist : files.list p.text = .ok listed) (hfind : files.tree.find? (spot ++ [name]) = some inner) (r : Report) :
    (r.within name).Due files p pattern ↔
      (r = ⟨[], .found⟩ ∧ pattern.toList <:+: name.toList) ∨
      (∃ fault, files.isDirectory (p.child name).text = .error fault ∧
        r = ⟨[], .stumble (.system fault (some (p.child name).text))⟩) ∨
      (inner.isDirectory = true ∧ files.isDirectory (p.child name).text = .ok true ∧
        r.Due files (p.child name) pattern) := by
  obtain ⟨rest, news⟩ := r
  have hreaches := fun e => @reaches_cons_iff _ _ _ rest listed _ e inner start hp hname h hstart hlist hfind
  have hnone : ∀ q e, ¬ files.Reaches q [] e := by
    rintro q e ⟨-, -, -, hne, -⟩
    exact hne rfl
  by_cases hrest : rest = []
  · -- The entry itself: what is told of it depends on the answers about it alone.
    subst hrest
    cases news with
    | found => simp [Report.Due, Report.within, hreaches, hnone]
    | unlistable fault => simp [Report.Due, Report.within, hreaches, hnone, descend_cons, descend_nil, and_assoc]
    | stumble m =>
      have hnull : inner.isDirectory = true → files.isDirectory (p.child name).text = .ok true →
          files.list (p.child name).text = .error .embeddedNull → m = .embeddedNull →
          ∃ fault, files.isDirectory (p.child name).text = .error fault ∧
            m = .system fault (some (p.child name).text) :=
        fun _ hanswer hembedded => absurd hembedded (list_ne_embeddedNull hanswer)
      simpa [Report.Due, Report.within, hreaches, hnone, descend_cons, descend_nil] using hnull
  · -- An entry below it: it is a directory, and the search goes on from there.
    obtain ⟨last, hlast⟩ := Option.isSome_iff_exists.1 (List.getLast?_isSome.2 hrest)
    cases news with
    | found => simp [Report.Due, Report.within, hreaches, hrest, List.getLast?_cons, hlast, and_assoc]
    | unlistable fault => simp [Report.Due, Report.within, hreaches, hrest, descend_cons, and_assoc]
    | stumble m => simp [Report.Due, Report.within, hreaches, hrest, descend_cons, and_assoc]

/-! ### The search -/

/-- What there is to tell of an entry in a directory, if this is what there is to tell of what is in the entry. -/
def entryReports (files : Files) (pattern : String) (p : Path) (below : List Report) (name : String) : List Report :=
  (if Text.occurs pattern name then [⟨[name], .found⟩] else []) ++
    match files.isDirectory (p.child name).text, files.isLink (p.child name).text with
    | .error fault, _ => [⟨[name], .stumble (.system fault (some (p.child name).text))⟩]
    | .ok false, _ => []
    | .ok true, .error fault => [⟨[name], .stumble (.system fault (some (p.child name).text))⟩]
    | .ok true, .ok true => []
    | .ok true, .ok false => below.map (.within name)

/-- What there is to tell of what is in a directory and below it, as deep as the fuel allows. -/
def reports (files : Files) (pattern : String) : Nat → Path → List Report
  | 0, _ => []
  | fuel + 1, p =>
    match files.list p.text with
    | .error (.system fault) => [⟨[], .unlistable fault⟩]
    | .error .embeddedNull => [⟨[], .stumble .embeddedNull⟩]
    | .ok listed =>
      listed.flatMap fun name => files.entryReports pattern p (files.reports pattern fuel (p.child name)) name

theorem exists_within_of_mem_entryReports {below : List Report} {r : Report}
    (h : r ∈ files.entryReports pattern p below name) : ∃ r' : Report, r = r'.within name := by
  unfold entryReports at h
  rcases List.mem_append.1 h with h | h
  · split at h
    · exact ⟨⟨[], .found⟩, List.mem_singleton.1 h⟩
    · cases h
  · split at h
    · exact ⟨⟨[], _⟩, List.mem_singleton.1 h⟩
    · cases h
    · exact ⟨⟨[], _⟩, List.mem_singleton.1 h⟩
    · cases h
    · obtain ⟨r', -, rfl⟩ := List.mem_map.1 h
      exact ⟨r', rfl⟩

/-- What is told of an entry in a directory and of what is below it is exactly what is to be told of them. -/
theorem mem_entryReports_iff (hp : ∀ name ∈ p.names, Path.IsName name) (hname : IsEntryName name)
    (h : files.resolve true p.text = .ok (.present spot start)) (hstart : start.isDirectory = true)
    (hlist : files.list p.text = .ok listed) (hfind : files.tree.find? (spot ++ [name]) = some inner)
    {below : List Report} (hbelow : inner.isDirectory = true → files.isDirectory (p.child name).text = .ok true →
      ∀ r, r ∈ below ↔ r.Due files (p.child name) pattern) (r : Report) :
    r.within name ∈ files.entryReports pattern p below name ↔ (r.within name).Due files p pattern := by
  have hself : ∀ news, r.within name = ⟨[name], news⟩ ↔ r = ⟨[], news⟩ := fun news =>
    Report.within_inj (a := r) (b := ⟨[], news⟩)
  rw [due_within_iff hp hname h hstart hlist hfind]
  unfold entryReports
  rw [List.mem_append]
  refine or_congr ?_ ?_
  · split
    · next hoccurs => simp [hself, Text.occurs_iff.1 hoccurs]
    · next hoccurs => simp [mt Text.occurs_iff.2 hoccurs]
  · rcases child_questions hp hname h hstart hfind with ⟨fault, hfault⟩ | ⟨hlink, answer, hanswer, hplain⟩
    · simp [hfault, hself]
    · rw [hanswer, hlink]
      cases hinner : inner.isLink with
      | true =>
        have hno : inner.isDirectory = false := by
          by_contra hdirectory
          simp [Entry.isLink_of_isDirectory (by simpa using hdirectory)] at hinner
        cases answer <;> simp [hno]
      | false =>
        obtain ⟨rfl, -⟩ := hplain hinner
        cases hdirectory : inner.isDirectory with
        | false => simp
        | true =>
          rw [hdirectory] at hanswer
          simp [Report.within_inj, hbelow hdirectory hanswer]

/-- What a directory that cannot be listed has to tell. -/
def unlisted : CallFault → Report
  | .system fault => ⟨[], .unlistable fault⟩
  | .embeddedNull => ⟨[], .stumble .embeddedNull⟩

private theorem not_reaches_of_error {fault : CallFault} (hlist : files.list p.text = .error fault) :
    ¬ files.Reaches p names e := by
  rintro ⟨spot, start, -, hne, -, hway⟩
  obtain ⟨⟨listed, hlisted⟩, -⟩ := hway [] List.nil_prefix (Ne.symm hne)
  rw [descend_nil, hlist] at hlisted
  cases hlisted

theorem due_iff_of_error {fault : CallFault} (hlist : files.list p.text = .error fault) (r : Report) :
    r.Due files p pattern ↔ r = unlisted fault := by
  have hnone := fun names e => @not_reaches_of_error files p names e fault hlist
  obtain ⟨names, news⟩ := r
  cases news with
  | found => cases fault <;> simp [Report.Due, hnone, unlisted]
  | unlistable other =>
    simp only [Report.Due, hnone, false_and, exists_false, or_false]
    constructor
    · rintro ⟨rfl, hother⟩
      rw [descend_nil, hlist] at hother
      rw [Except.error.inj hother]
      rfl
    · intro h
      cases fault with
      | embeddedNull => cases h
      | system fault =>
        obtain ⟨rfl, hnews⟩ := Report.mk.inj h
        obtain rfl := News.unlistable.inj hnews
        exact ⟨rfl, by rw [descend_nil, hlist]⟩
  | stumble m =>
    simp only [Report.Due, hnone, false_and, exists_false, or_false, hlist]
    cases fault <;> simp [unlisted]

/-- Where a directory can be listed, what there is to tell is of entries to which the search comes. -/
theorem exists_reaches_of_due (hlist : files.list p.text = .ok listed) {r : Report} (hdue : r.Due files p pattern) :
    ∃ e, files.Reaches p r.names e := by
  obtain ⟨names, news⟩ := r
  cases news with
  | found =>
    obtain ⟨e, -, hreaches, -⟩ := hdue
    exact ⟨e, hreaches⟩
  | unlistable fault =>
    obtain ⟨rfl | ⟨e, hreaches, -⟩, herror⟩ := hdue
    · rw [descend_nil, hlist] at herror
      cases herror
    · exact ⟨e, hreaches⟩
  | stumble m =>
    obtain ⟨-, herror, -⟩ | ⟨e, -, hreaches, -⟩ := hdue
    · rw [hlist] at herror
      cases herror
    · exact ⟨e, hreaches⟩

/-- These are the entries in the directory and what is below them. -/
theorem exists_within_of_due (h : files.resolve true p.text = .ok (.present spot start))
    (hlist : files.list p.text = .ok listed) {r : Report} (hdue : r.Due files p pattern) :
    ∃ (name : String) (r' : Report) (inner : Entry), r = r'.within name ∧
      files.tree.find? (spot ++ [name]) = some inner := by
  obtain ⟨e, spot', start', h', hne, hfound, hway⟩ := exists_reaches_of_due hlist hdue
  obtain ⟨rfl, rfl⟩ := Target.present.inj (Except.ok.inj (h.symm.trans h'))
  obtain ⟨names, news⟩ := r
  obtain ⟨name, rest, rfl⟩ := List.exists_cons_of_ne_nil hne
  by_cases hrest : rest = []
  · subst hrest
    exact ⟨name, ⟨[], news⟩, e, rfl, hfound⟩
  · obtain ⟨-, hbetween⟩ := hway [name] (List.prefix_append [name] rest) (by simpa using Ne.symm hrest)
    obtain ⟨between, hfind, -⟩ := hbetween (List.cons_ne_nil _ _)
    exact ⟨name, ⟨rest, news⟩, between, rfl, hfind⟩

/-- A search from a directory comes to all there is to tell, and to nothing else, if its fuel is enough for the levels
below the directory. -/
theorem mem_reports_iff_of_resolve (hproper : files.tree.Proper) (fuel : Nat)
    (hp : ∀ name ∈ p.names, Path.IsName name) (h : files.resolve true p.text = .ok (.present spot start))
    (hstart : start.isDirectory = true) (hdeep : files.tree.depth < spot.length + fuel) (r : Report) :
    r ∈ files.reports pattern fuel p ↔ r.Due files p pattern := by
  induction fuel generalizing p spot start r with
  | zero =>
    have := Tree.length_le_depth (find?_of_resolve h)
    omega
  | succ fuel ih =>
    unfold reports
    have hlist := list_of_resolve h hstart
    cases hreadable : start.readable with
    | false =>
      rw [hreadable] at hlist
      rw [hlist, due_iff_of_error hlist]
      exact List.mem_singleton
    | true =>
      rw [hreadable] at hlist
      have hentry : ∀ {name inner} (r' : Report), files.tree.find? (spot ++ [name]) = some inner →
          (r'.within name ∈ files.entryReports pattern p (files.reports pattern fuel (p.child name)) name ↔
            (r'.within name).Due files p pattern) := by
        intro name inner r' hfind
        have hname : IsEntryName name := hproper.named _ inner hfind name (by simp)
        refine mem_entryReports_iff hp hname h hstart hlist hfind (fun hdirectory hanswer r => ?_) r'
        have hleads : files.resolve true (p.child name).text = .ok (.present (spot ++ [name]) inner) := by
          rcases child_questions hp hname h hstart hfind with ⟨fault, hfault⟩ | ⟨-, answer, -, hplain⟩
          · rw [hfault] at hanswer
            cases hanswer
          · exact (hplain (Entry.isLink_of_isDirectory hdirectory)).2
        exact ih (Path.isName_child hp hname.toIsName) hleads hdirectory (by simp; omega) r
      rw [hlist]
      constructor
      · intro hmem
        obtain ⟨name, hname, hmem⟩ := List.mem_flatMap.1 hmem
        obtain ⟨inner, hfind⟩ := Tree.mem_namesIn_iff.1 hname
        obtain ⟨r', rfl⟩ := exists_within_of_mem_entryReports hmem
        exact (hentry r' hfind).1 hmem
      · intro hdue
        obtain ⟨name, r', inner, rfl, hfind⟩ := exists_within_of_due h hlist hdue
        exact List.mem_flatMap.2 ⟨name, Tree.mem_namesIn_iff.2 ⟨inner, hfind⟩, (hentry r' hfind).2 hdue⟩

/-- A search whose fuel is the depth of the tree comes to all there is to tell and to nothing else, wherever it
begins. -/
theorem mem_reports_iff (hproper : files.tree.Proper) (hp : ∀ name ∈ p.names, Path.IsName name) (r : Report) :
    r ∈ files.reports pattern (files.tree.depth + 1) p ↔ r.Due files p pattern := by
  cases hlist : files.list p.text with
  | error fault =>
    rw [due_iff_of_error hlist]
    unfold reports
    rw [hlist]
    cases fault <;> exact List.mem_singleton
  | ok listed =>
    rcases list_eq_ok hlist with ⟨spot, start, h, hstart, -⟩ | ⟨place, h, rfl⟩
    · exact mem_reports_iff_of_resolve hproper _ hp h hstart (by omega) r
    · -- In a directory that has been removed there is nothing.
      unfold reports
      rw [hlist]
      refine ⟨fun hmem => absurd hmem (by simp), fun hdue => ?_⟩
      obtain ⟨e, spot, start, h', -⟩ := exists_reaches_of_due hlist hdue
      cases h.symm.trans h'

/-! ### The order of the search -/

/-- An entry and what is below it, in order, if what is below it is. -/
theorem entryReports_pairwise {below : List Report} (hbelow : below.Pairwise Report.Before)
    (hfirst : ∀ r ∈ below, r.names = [] → r.news ≠ .found) :
    (files.entryReports pattern p below name).Pairwise Report.Before := by
  unfold entryReports
  refine List.pairwise_append.2 ⟨?_, ?_, ?_⟩
  · split <;> simp
  · split
    · simp
    · simp
    · simp
    · simp
    · exact List.pairwise_map.2 (hbelow.imp Report.before_within_iff.2)
  · -- The name of the entry comes before whatever else there is to tell of it.
    intro a ha b hb
    obtain rfl : a = ⟨[name], .found⟩ := by
      split at ha
      · exact List.mem_singleton.1 ha
      · cases ha
    split at hb
    · obtain rfl := List.mem_singleton.1 hb
      exact .inr ⟨rfl, rfl, nofun⟩
    · cases hb
    · obtain rfl := List.mem_singleton.1 hb
      exact .inr ⟨rfl, rfl, nofun⟩
    · cases hb
    · obtain ⟨⟨names, news⟩, hmem, rfl⟩ := List.mem_map.1 hb
      cases names with
      | nil => exact .inr ⟨rfl, rfl, hfirst ⟨[], news⟩ hmem rfl⟩
      | cons next others => exact .inl (List.cons_lt_cons_iff.2 (.inr ⟨rfl, List.nil_lt_cons _ _⟩))

private theorem found_of_mem_reports {fuel : Nat} {r : Report} (h : r ∈ files.reports pattern fuel p)
    (hnames : r.names = []) : r.news ≠ .found := by
  cases fuel with
  | zero => cases h
  | succ fuel =>
    unfold reports at h
    split at h
    · obtain rfl := List.mem_singleton.1 h
      nofun
    · obtain rfl := List.mem_singleton.1 h
      nofun
    · obtain ⟨name, -, hmem⟩ := List.mem_flatMap.1 h
      obtain ⟨r', rfl⟩ := exists_within_of_mem_entryReports hmem
      cases hnames

/-- A search tells of a directory before what is in it, and of its entries in the order of their names. -/
theorem reports_pairwise (hproper : files.tree.Proper) (fuel : Nat) (p : Path) :
    (files.reports pattern fuel p).Pairwise Report.Before := by
  induction fuel generalizing p with
  | zero => exact .nil
  | succ fuel ih =>
    unfold reports
    split
    · exact List.pairwise_singleton _ _
    · exact List.pairwise_singleton _ _
    · next listed hlist =>
      have hordered : listed.Pairwise (· < ·) := by
        rcases list_eq_ok hlist with ⟨spot, start, -, -, rfl⟩ | ⟨-, -, rfl⟩
        · exact hproper.namesIn_pairwise spot
        · exact .nil
      refine List.pairwise_flatMap.2 ⟨fun name _ => ?_, hordered.imp ?_⟩
      · exact entryReports_pairwise (ih _) fun r hr => found_of_mem_reports hr
      · intro name name' hlt a ha b hb
        obtain ⟨r, rfl⟩ := exists_within_of_mem_entryReports ha
        obtain ⟨r', rfl⟩ := exists_within_of_mem_entryReports hb
        exact .inl (List.cons_lt_cons_iff.2 (.inl hlt))

end Files

end CommandShell
