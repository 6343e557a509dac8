import CommandShell.Builtin.FileCommands
import CommandShell.Proofs.Files.Search
import CommandShell.Proofs.Shell.Resolution

/-!
# Finding entries

`find` tells what there is to tell of the entries below a directory, in order (`Builtin.findEntries_tells`): a line for
each entry whose name holds the pattern, and an error for each directory that cannot be listed. It stops, however, at
the first entry of which the system does not say whether it is a directory, and then nothing that comes behind it is
told (`Builtin.findEntries_breaks_off`).
-/

namespace CommandShell

namespace Report

/-- What the user is told of an entry, unless the search stumbles over it. -/
def event? (p : Path) (r : Report) : Option Event :=
  match r.news with
  | .found => some (.write (Text.endLine (p.descend r.names).text))
  | .unlistable fault => some (.error ("find: " ++ (Complaint.system fault (p.descend r.names).text).text))
  | .stumble _ => none

/-- How the search fails when it stumbles over an entry. -/
def failure? (r : Report) : Option Failure :=
  match r.news with
  | .stumble m => some (.mishap m)
  | _ => none

end Report

namespace Builtin

/-- Tells one report after another, and fails at the first one over which the search stumbles. -/
def tellReports (p : Path) (s : Shell) (reports : List Report) : Outcome :=
  (s.tellAll ((reports.takeWhile (·.failure?.isNone)).filterMap (Report.event? p)), reports.findSome? Report.failure?)

variable {p : Path} {s : Shell} {r : Report} {reports : List Report}

theorem tellReports_nil (p : Path) (s : Shell) : tellReports p s [] = Outcome.well s := by
  simp [tellReports, Outcome.well, Shell.tellAll]

theorem tellReports_failing {failure : Failure} (h : r.failure? = some failure) (rest : List Report) :
    tellReports p s (r :: rest) = (s, some failure) := by
  simp [tellReports, h, Shell.tellAll]

theorem tellReports_telling {event : Event} (h : r.failure? = none) (hevent : r.event? p = some event)
    (rest : List Report) : tellReports p s (r :: rest) = tellReports p (s.tell event) rest := by
  simp [tellReports, h, hevent, Shell.tellAll, Shell.tell]

/-- Either the search fails at a report, or something is told. -/
theorem failure_or_event (p : Path) (r : Report) :
    (∃ failure, r.failure? = some failure) ∨ (r.failure? = none ∧ ∃ event, r.event? p = some event) := by
  obtain ⟨names, news⟩ := r
  cases news with
  | stumble m => exact .inl ⟨_, rfl⟩
  | found | unlistable => exact .inr ⟨rfl, _, rfl⟩

theorem tellReports_append (p : Path) (s : Shell) (front back : List Report) :
    tellReports p s (front ++ back) =
      match tellReports p s front with
      | (t, none) => tellReports p t back
      | (t, some failure) => (t, some failure) := by
  induction front generalizing s with
  | nil => rw [tellReports_nil]; rfl
  | cons r rest ih =>
    rw [List.cons_append]
    rcases failure_or_event p r with ⟨failure, h⟩ | ⟨h, event, hevent⟩
    · rw [tellReports_failing h, tellReports_failing h]
    · rw [tellReports_telling h hevent, tellReports_telling h hevent, ih]

theorem tellReports_within (p : Path) (name : String) (s : Shell) (reports : List Report) :
    tellReports p s (reports.map (.within name)) = tellReports (p.child name) s reports := by
  have hdescend : ∀ r : Report, p.descend (r.within name).names = (p.child name).descend r.names := by
    intro r
    simp [Report.within, Path.descend, Path.child]
  induction reports generalizing s with
  | nil => rw [List.map_nil, tellReports_nil, tellReports_nil]
  | cons r rest ih =>
    rw [List.map_cons]
    rcases failure_or_event (p.child name) r with ⟨failure, h⟩ | ⟨h, event, hevent⟩
    · rw [tellReports_failing (r := r.within name) h, tellReports_failing h]
    · have hevent' : (r.within name).event? p = some event := by
        rw [← hevent]
        unfold Report.event?
        rw [hdescend]
        rfl
      rw [tellReports_telling (r := r.within name) h hevent', tellReports_telling h hevent, ih]

theorem files_tellReports (p : Path) (s : Shell) (reports : List Report) :
    (tellReports p s reports).1.files = s.files :=
  rfl

/-- Steps that tell reports, one after another until one of them fails, tell all the reports together. -/
private theorem foldl_tellReports {files : Files} {step : Shell → String → Outcome} {told : String → List Report}
    (hstep : ∀ t name, t.files = files → step t name = tellReports p t (told name)) (names : List String)
    (hs : s.files = files) :
    names.foldl
        (fun (state : Outcome) name =>
          match state with
          | (t, some failure) => (t, some failure)
          | (t, none) => step t name)
        (Outcome.well s) =
      tellReports p s (names.flatMap told) := by
  induction names generalizing s with
  | nil => exact (tellReports_nil p s).symm
  | cons name rest ih =>
    rw [List.foldl_cons, List.flatMap_cons, tellReports_append]
    have hfirst : step s name = tellReports p s (told name) := hstep s name hs
    have hfiles := files_tellReports p s (told name)
    rw [← hfirst] at hfiles ⊢
    show List.foldl _ (step s name) rest = _
    generalize step s name = outcome at hfiles
    obtain ⟨t, _ | failure⟩ := outcome
    · exact ih (hfiles.trans hs)
    · clear ih
      induction rest with
      | nil => rfl
      | cons next others ih => exact ih

/-- A search tells its reports. -/
theorem findBelow_eq_tellReports (pattern : String) (fuel : Nat) (s : Shell) (p : Path) :
    findBelow pattern fuel s p = tellReports p s (s.files.reports pattern fuel p) := by
  induction fuel generalizing s p with
  | zero => exact (tellReports_nil p s).symm
  | succ fuel ih =>
    unfold findBelow Files.reports
    cases hlist : s.files.list p.text with
    | error fault =>
      cases fault <;> simp [tellReports, Report.failure?, Report.event?, Path.descend, Outcome.well, Outcome.fail,
        Shell.tell, Shell.tellAll]
    | ok listed =>
      dsimp only
      refine foldl_tellReports (fun t name (ht : t.files = s.files) => ?_) listed rfl
      unfold Files.entryReports
      rw [tellReports_append]
      -- The line for the entry itself comes first; it leaves the files as they are.
      have hline : ∃ u : Shell, (if Text.occurs pattern name then t.writeLine (p.child name).text else t) = u ∧
          tellReports p t (if Text.occurs pattern name then [⟨[name], .found⟩] else []) = (u, none) ∧
          u.files = s.files := by
        split
        · exact ⟨_, rfl, by rw [tellReports_telling rfl rfl, tellReports_nil]; rfl, ht⟩
        · exact ⟨t, rfl, tellReports_nil p t, ht⟩
      obtain ⟨u, hu, htold, hfiles⟩ := hline
      rw [hu, htold, hfiles]
      cases s.files.isDirectory (p.child name).text with
      | error fault => exact (tellReports_failing rfl []).symm
      | ok isDirectory =>
        cases isDirectory with
        | false => exact (tellReports_nil p u).symm
        | true =>
          cases s.files.isLink (p.child name).text with
          | error fault => exact (tellReports_failing rfl []).symm
          | ok isLink =>
            cases isLink with
            | true => exact (tellReports_nil p u).symm
            | false =>
              dsimp only
              rw [ih, hfiles, tellReports_within]

/-- The pattern that is looked for. A directory with the name of the option passes for the option itself. -/
def patternFor (directory pattern : String) : String := if directory = nameOption then nameOption else pattern

theorem findEntries_eq_findBelow (s : Shell) (directory pattern : String) :
    findEntries s [directory, nameOption, pattern] =
      findBelow (patternFor directory pattern) (s.files.tree.depth + 1) s (Path.ofText directory) := by
  unfold findEntries patternFor
  by_cases h : directory = nameOption <;> simp [h]

/-- `find` tells what is to be told of the entries below a directory, each thing once and in order, up to the first
entry over which the search stumbles; and it fails if there is one. So it tells everything exactly if it stumbles over
none. -/
theorem findEntries_tells (s : Shell) (directory pattern : String) (hproper : s.files.tree.Proper) :
    ∃ reports : List Report, reports.Pairwise Report.Before ∧
      (∀ r, r ∈ reports ↔ r.Due s.files (Path.ofText directory) (patternFor directory pattern)) ∧
      findEntries s [directory, nameOption, pattern] = tellReports (Path.ofText directory) s reports ∧
      ((findEntries s [directory, nameOption, pattern]).2 = none ↔ ∀ r ∈ reports, r.failure? = none) ∧
      ((∀ r ∈ reports, r.failure? = none) →
        (findEntries s [directory, nameOption, pattern]).1 =
          s.tellAll (reports.filterMap (Report.event? (Path.ofText directory)))) := by
  have hp : ∀ name ∈ (Path.ofText directory).names, Path.IsName name := fun _ => Path.isName_of_mem_ofText
  refine ⟨s.files.reports (patternFor directory pattern) (s.files.tree.depth + 1) (Path.ofText directory),
    Files.reports_pairwise hproper _ _, Files.mem_reports_iff hproper hp, ?_⟩
  rw [findEntries_eq_findBelow, findBelow_eq_tellReports]
  refine ⟨rfl, List.findSome?_eq_none_iff, fun hnone => ?_⟩
  have hall : ∀ r ∈ s.files.reports (patternFor directory pattern) (s.files.tree.depth + 1) (Path.ofText directory),
      r.failure?.isNone = true := fun r hr => by rw [hnone r hr]; rfl
  unfold tellReports
  rw [List.takeWhile_eq_self_iff.2 hall]

/-- A name that is too long for an entry. -/
def longName : String := String.ofList (List.replicate 256 'n')

/-- A shell in the root directory, in which there are two directories with a file, one of them with a link to such a
name as well. -/
def tangled : Shell :=
  (Shell.bare .builtins).setFiles
    ⟨⟨[(["d"], ⟨.directory, Entry.directoryMode⟩), (["d", "a"], ⟨.link longName, 0o777⟩),
      (["d", "b"], ⟨.file [], Entry.fileMode⟩), (["e"], ⟨.directory, Entry.directoryMode⟩),
      (["e", "f"], ⟨.file [], Entry.fileMode⟩)]⟩, .ofLocation []⟩

private theorem isEntryName_tangled : ∀ name ∈ ["a", "b", "d", "e", "f"], IsEntryName name := by
  have hname : ∀ name ∈ ["a", "b", "d", "e", "f"], name ≠ "" ∧ name ≠ "." ∧ '/' ∉ name.toList ∧ name ≠ ".." ∧
      Char.ofNat 0 ∉ name.toList ∧ name.utf8ByteSize ≤ Route.longestName := by decide +kernel
  intro name hmem
  obtain ⟨hempty, hdot, hslash, hup, hnull, hshort⟩ := hname name hmem
  exact ⟨⟨hempty, hdot, hslash⟩, hup, hnull, hshort⟩

private theorem proper_tangled : tangled.files.tree.Proper where
  distinct := by decide
  named := by
    intro spot e he name hname
    have hnames : ∀ entry ∈ tangled.files.tree.entries, ∀ name ∈ entry.1, name ∈ ["a", "b", "d", "e", "f"] := by decide
    have hspot : spot ≠ [] := List.ne_nil_of_mem hname
    exact isEntryName_tangled name (hnames _ (Tree.mem_entries_of_find? he hspot) name hname)

private theorem looksUp_tangled {directory : Location} {name : String}
    (hdirectory : directory ∈ [[], ["d"], ["e"]]) (hname : name ∈ ["a", "b", "d", "e", "f"]) :
    tangled.files.tree.LooksUp (.ofLocation directory) name := by
  have hs : ∀ directory ∈ [[], ["d"], ["e"]], tangled.files.tree.searchable (.ofLocation directory) = true := by decide
  obtain ⟨⟨-, hdot, -⟩, hup, -, hshort⟩ := isEntryName_tangled name hname
  exact ⟨hs directory hdirectory, hdot, hup, rfl, hshort⟩

private theorem find?_tangled {name : String} (hname : name ∈ ["d", "e"]) :
    tangled.files.tree.find? [name] = some ⟨.directory, Entry.directoryMode⟩ := by
  revert name
  decide

/-- The directories are where their names lead, and entries in them are looked up there. -/
private theorem walk_tangled {directory : String} (hdirectory : directory ∈ ["d", "e"]) (follow : Bool)
    (rest : List String) :
    tangled.files.tree.walk follow Tree.linkLimit tangled.files.place (directory :: rest) =
      tangled.files.tree.walk follow Tree.linkLimit (.ofLocation [directory]) rest := by
  have hlooks : tangled.files.tree.LooksUp tangled.files.place directory :=
    looksUp_tangled (List.mem_cons_self ..) ((by decide : ["d", "e"] ⊆ ["a", "b", "d", "e", "f"]) hdirectory)
  have hfind : tangled.files.tree.find? (tangled.files.place.live ++ [directory]) =
      some ⟨.directory, Entry.directoryMode⟩ := find?_tangled hdirectory
  rw [hlooks.walk, hfind]
  rfl

private theorem resolve_tangled {directory : String} (hdirectory : directory ∈ ["d", "e"]) :
    tangled.files.resolve true directory = .ok (.present [directory] ⟨.directory, Entry.directoryMode⟩) := by
  have hroute : ∀ directory ∈ ["d", "e"], Route.ofText directory = .ok ⟨false, [directory], false⟩ := by decide +kernel
  rw [Files.resolve_of_names (hroute directory hdirectory), walk_tangled hdirectory, Tree.walk]
  simp [Tree.targetAt, Place.ofLocation, find?_tangled hdirectory, Except.mapError]

private theorem isName_longName : Path.IsName longName where
  ne_empty := by decide +kernel
  ne_dot := by decide +kernel
  no_slash := by
    have hchars : longName.toList = List.replicate 256 'n' := String.toList_ofList
    intro h
    rw [hchars] at h
    exact absurd (List.eq_of_mem_replicate h) (by decide)

/-- The system does not say where the link leads. -/
private theorem isDirectory_tangled_link : tangled.files.isDirectory "d/a" = .error .nameTooLong := by
  have hroute : Route.ofText "d/a" = .ok ⟨false, ["d", "a"], false⟩ := by decide +kernel
  have hlooks : tangled.files.tree.LooksUp (.ofLocation ["d"]) "a" := looksUp_tangled (by decide) (by decide)
  have hwalk : tangled.files.tree.walk true Tree.linkLimit (.ofLocation ["d"]) ["a"] = .error .nameTooLong := by
    have hfind : tangled.files.tree.find? (Place.live (.ofLocation ["d"]) ++ ["a"]) = some ⟨.link longName, 0o777⟩ :=
      rfl
    have hempty : longName.isEmpty = false := by decide +kernel
    rw [show Tree.linkLimit = 39 + 1 from rfl, hlooks.walk_link hfind rfl hempty (.inl rfl),
      Route.ofChars_name isName_longName]
    show tangled.files.tree.walk true 39 (.ofLocation ["d"]) [longName] = _
    rw [Tree.walk, if_neg (by rw [hlooks.searchable]; decide), if_neg isName_longName.ne_dot,
      if_neg (by decide +kernel), if_neg (by decide), if_pos (by decide +kernel)]
  unfold Files.isDirectory Files.ask
  rw [Files.resolve_of_names hroute, walk_tangled (by decide), hwalk]
  rfl

private theorem isDirectory_tangled_file : tangled.files.isDirectory "e/f" = .ok false := by
  have hroute : Route.ofText "e/f" = .ok ⟨false, ["e", "f"], false⟩ := by decide +kernel
  have hlooks : tangled.files.tree.LooksUp (.ofLocation ["e"]) "f" := looksUp_tangled (by decide) (by decide)
  have hfind : tangled.files.tree.find? (Place.live (.ofLocation ["e"]) ++ ["f"]) = some ⟨.file [], Entry.fileMode⟩ :=
    rfl
  have hwalk : tangled.files.tree.walk true Tree.linkLimit (.ofLocation ["e"]) ["f"] =
      .ok (.present ["e", "f"] ⟨.file [], Entry.fileMode⟩) := by
    rw [hlooks.walk_last fun _ inner hinner => ?_, hfind]
    · rfl
    · rw [← Option.some.inj (hfind.symm.trans hinner)]
      rfl
  unfold Files.isDirectory Files.ask
  rw [Files.resolve_of_names hroute, walk_tangled (by decide), hwalk]
  rfl

private theorem list_tangled : tangled.files.list "d" = .ok ["a", "b"] ∧ tangled.files.list "e" = .ok ["f"] := by
  have hlist : ∀ {directory names}, directory ∈ ["d", "e"] →
      (tangled.files.tree.entries.filterMap fun entry => Tree.nameWithin? [directory] entry.1) = names →
      names.Pairwise (fun a b => decide (a ≤ b) = true) → tangled.files.list directory = .ok names := by
    rintro directory names hdirectory rfl hsorted
    rw [Files.list_of_resolve (resolve_tangled hdirectory) rfl, if_pos (by decide)]
    exact congrArg Except.ok (List.mergeSort_of_pairwise hsorted)
  exact ⟨hlist (by decide) rfl (by decide), hlist (by decide) rfl (by decide)⟩

/-- In the other directory there is nothing to stumble over. -/
theorem findEntries_tells_tangled :
    tangled.files.tree.Proper ∧ ∃ reports : List Report, (∀ r, r ∈ reports ↔ r = ⟨["f"], .found⟩) ∧
      (findEntries tangled ["e", nameOption, "f"]).2 = none ∧
      (findEntries tangled ["e", nameOption, "f"]).1 =
        tangled.tellAll (reports.filterMap (Report.event? (Path.ofText "e"))) := by
  have htext : (Path.ofText "e").text = "e" ∧ ((Path.ofText "e").child "f").text = "e/f" ∧
      patternFor "e" "f" = "f" ∧ Text.occurs "f" "f" = true := by decide +kernel
  obtain ⟨he, hef, hpattern, hoccurs⟩ := htext
  have hreports : tangled.files.reports "f" (tangled.files.tree.depth + 1) (Path.ofText "e") = [⟨["f"], .found⟩] := by
    unfold Files.reports
    rw [he, list_tangled.2]
    dsimp only
    rw [List.flatMap_cons, List.flatMap_nil]
    unfold Files.entryReports
    rw [hef, isDirectory_tangled_file, hoccurs]
    rfl
  obtain ⟨reports, -, hmem, -, hsuccess, hall⟩ := findEntries_tells tangled "e" "f" proper_tangled
  have hfound : ∀ r, r ∈ reports ↔ r = ⟨["f"], .found⟩ := by
    intro r
    rw [hmem, hpattern, ← Files.mem_reports_iff proper_tangled fun _ => Path.isName_of_mem_ofText, hreports,
      List.mem_singleton]
  have hnone : ∀ r ∈ reports, r.failure? = none := by
    intro r hr
    rw [(hfound r).1 hr]
    rfl
  exact ⟨proper_tangled, reports, hfound, hsuccess.2 hnone, hall hnone⟩

/-- The search stumbles over the link, and the file behind it, whose name holds the pattern, is not told of. -/
theorem findEntries_breaks_off :
    (⟨["b"], .found⟩ : Report).Due tangled.files (Path.ofText "d") "b" ∧
      findEntries tangled ["d", nameOption, "b"] = (tangled, some (.mishap (.system .nameTooLong (some "d/a")))) := by
  have htext : (Path.ofText "d").text = "d" ∧ ((Path.ofText "d").child "a").text = "d/a" ∧
      patternFor "d" "b" = "b" ∧ Text.occurs "b" "a" = false := by decide +kernel
  obtain ⟨hd, hda, hpattern, hoccurs⟩ := htext
  constructor
  · have hresolve : tangled.files.resolve true (Path.ofText "d").text =
        .ok (.present ["d"] ⟨.directory, Entry.directoryMode⟩) := by
      rw [hd]
      exact resolve_tangled (by decide)
    have hlist : tangled.files.list (Path.ofText "d").text = .ok ["a", "b"] := by rw [hd, list_tangled.1]
    have hreaches : tangled.files.Reaches (Path.ofText "d") ["b"] ⟨.file [], Entry.fileMode⟩ :=
      (Files.reaches_cons_iff (fun _ => Path.isName_of_mem_ofText) (isEntryName_tangled "b" (by decide)) hresolve rfl
        hlist rfl).2 (.inl ⟨rfl, rfl⟩)
    exact ⟨_, "b", hreaches, rfl, List.infix_rfl⟩
  · rw [findEntries_eq_findBelow, findBelow_eq_tellReports, hpattern]
    have hlink : tangled.files.entryReports "b" (Path.ofText "d")
        (tangled.files.reports "b" tangled.files.tree.depth ((Path.ofText "d").child "a")) "a" =
        [⟨["a"], .stumble (.system .nameTooLong (some "d/a"))⟩] := by
      unfold Files.entryReports
      rw [hda, isDirectory_tangled_link, hoccurs]
      rfl
    unfold Files.reports
    rw [hd, list_tangled.1]
    dsimp only
    rw [List.flatMap_cons, hlink]
    exact tellReports_failing rfl _

end Builtin

end CommandShell
