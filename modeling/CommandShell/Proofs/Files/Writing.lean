import CommandShell.Files.Operation
import CommandShell.Proofs.Lookup

/-!
# Writing to a file

What has been written to a path is found at that path again (`Files.leadsTo_of_write`), unless a device has swallowed
it, and of two texts that are written to it the second stays (`Files.write_write`). A file that is put where a file or
nothing was, and may be run just as well, changes nothing about where names lead (`Tree.Filed.walk`): a walk meets it at
its end or not at all. Only a slash at the end of a path could tell a file from nothing, and a path that was opened for
writing has one behind dots at most (`Files.exists_opens`), which do not lead to anything new (`Tree.walk_ne_vacant`).
-/

namespace CommandShell

namespace Tree

/-- What is put somewhere is there, and everything else is where it was. -/
theorem find?_put {tree : Tree} {spot : Location} (h : spot ≠ []) (e : Entry) (other : Location) :
    (tree.put spot e).find? other = if other = spot then some e else tree.find? other := by
  cases other with
  | nil => rw [if_neg (Ne.symm h)]; rfl
  | cons name rest => exact lookup_replace tree.entries spot (name :: rest) e

/-- Of two entries that are put somewhere the second stays. -/
theorem put_put (tree : Tree) (spot : Location) (e e' : Entry) : (tree.put spot e).put spot e' = tree.put spot e' := by
  simp [put, List.filter_append, List.filter_filter]

/-- A tree that has a file where the other has a file that may be run just as well, or nothing. -/
structure Filed (old new : Tree) (spot : Location) (e : Entry) : Prop where
  find_spot : new.find? spot = some e
  find_other : ∀ other, other ≠ spot → new.find? other = old.find? other
  isFile : ∃ bytes, e.content = .file bytes
  before : ∀ e', old.find? spot = some e' → (∃ bytes, e'.content = .file bytes) ∧ e'.executable = e.executable

end Tree

/-- Where a target is once there is a file at a location. -/
def Target.filed (spot : Location) (e : Entry) : Target → Target
  | .present other e' => if other = spot then .present spot e else .present other e'
  | .vacant directory name => if directory ++ [name] = spot then .present spot e else .vacant directory name
  | .removed place => .removed place

namespace Tree

variable {old new : Tree} {spot : Location} {e : Entry}

theorem Filed.searchable (h : Filed old new spot e) {here : Place} (hs : old.searchable here = true) :
    new.searchable here = true := by
  unfold Tree.searchable at hs ⊢
  by_cases hspot : here.live = spot
  · subst hspot
    rw [h.find_spot]
    cases hold : old.find? here.live with
    | none => exact Bool.or_eq_true_iff.2 (.inl (by simpa [hold] using hs))
    | some e' => simpa [hold, (h.before e' hold).2] using hs
  · rw [h.find_other _ hspot]
    exact hs

theorem Filed.targetAt (h : Filed old new spot e) {here : Place} {target : Target}
    (ht : old.targetAt here = .ok target) : new.targetAt here = .ok (target.filed spot e) := by
  unfold Tree.targetAt at ht ⊢
  split
  · next hlost =>
    rw [if_pos hlost] at ht
    obtain rfl := Except.ok.inj ht
    rfl
  · next hlost =>
    rw [if_neg hlost] at ht
    cases hold : old.find? here.live with
    | none => simp [hold] at ht
    | some e' =>
      rw [hold] at ht
      obtain rfl := Except.ok.inj ht
      by_cases hspot : here.live = spot
      · subst hspot
        simp [h.find_spot, Target.filed]
      · simp [h.find_other _ hspot, hold, Target.filed, hspot]

/-- How a name other than dots is followed, from a directory in which names may be looked up. -/
theorem walk_name {tree : Tree} {follow : Bool} {links : Nat} {here : Place} {name : String}
    {rest : List String} (hs : tree.searchable here = true) (hdot : ¬ name = ".") (hup : ¬ name = "..")
    (hlost : ¬ (!here.lost.isEmpty) = true) (hshort : ¬ name.utf8ByteSize > Route.longestName) :
    tree.walk follow links here (name :: rest) =
      match tree.find? (here.live ++ [name]) with
      | none => if rest.isEmpty then .ok (.vacant here.live name) else .error .noEntry
      | some e =>
        match e.content with
        | .directory => tree.walk follow links (.ofLocation (here.live ++ [name])) rest
        | .link target =>
          if rest.isEmpty && !follow then .ok (.present (here.live ++ [name]) e)
          else
            match links with
            | 0 => .error .tooManyLinks
            | links + 1 =>
              if target.isEmpty then .error .noEntry
              else
                tree.walk follow links (if (Route.ofChars target).absolute then .ofLocation [] else here)
                  ((Route.ofChars target).spliced ++ rest)
        | _ => if rest.isEmpty then .ok (.present (here.live ++ [name]) e) else .error .notDirectory := by
  have hs' : ¬ (!tree.searchable here) = true := by simp [hs]
  rw [Tree.walk]
  refine (if_neg hs').trans ((if_neg hdot).trans ((if_neg hup).trans ((if_neg hlost).trans ?_)))
  exact if_neg hshort

/-- What is no file is where it was. -/
theorem Filed.find_of_ne_file (h : Filed old new spot e) {other : Location} {e' : Entry}
    (hfind : old.find? other = some e') (hfile : ∀ bytes, e'.content ≠ .file bytes) :
    other ≠ spot ∧ new.find? other = some e' := by
  have hne : other ≠ spot := by
    rintro rfl
    obtain ⟨⟨bytes, hbytes⟩, -⟩ := h.before e' hfind
    exact hfile bytes hbytes
  exact ⟨hne, by rw [h.find_other _ hne, hfind]⟩

/-- Where names led before, they lead again, and to the file if they led to its location. -/
theorem Filed.walk (h : Filed old new spot e) {follow : Bool} {links : Nat} {here : Place} {names : List String}
    {target : Target} (hw : old.walk follow links here names = .ok target) :
    new.walk follow links here names = .ok (target.filed spot e) := by
  obtain ⟨bytes, hbytes⟩ := h.isFile
  fun_induction Tree.walk old follow links here names with
  | case1 links here => rw [Tree.walk]; exact h.targetAt hw
  | case2 | case5 | case6 | case8 | case11 | case12 | case15 => simp at hw
  | case3 links here rest hs ih =>
    have hs' := h.searchable (by simpa using hs)
    rw [Tree.walk, if_neg (by simp [hs']), if_pos rfl]
    exact ih hw
  | case4 links here rest hs hdot ih =>
    have hs' := h.searchable (by simpa using hs)
    rw [Tree.walk, if_neg (by simp [hs']), if_neg hdot, if_pos rfl]
    exact ih hw
  | case7 links here name rest hs hdot hup hlost hshort location hfind hrest =>
    -- Nothing was there; now the file is, if this is its location.
    obtain rfl := Except.ok.inj hw
    rw [walk_name (h.searchable (by simpa using hs)) hdot hup hlost hshort]
    by_cases hspot : here.live ++ [name] = spot
    · simp [hspot, h.find_spot, hbytes, hrest, Target.filed]
    · simp [h.find_other _ hspot, show old.find? (here.live ++ [name]) = none from hfind, hrest, Target.filed, hspot]
  | case9 links here name rest hs hdot hup hlost hshort location e' hfind hdirectory ih =>
    obtain ⟨-, hfind'⟩ := h.find_of_ne_file hfind (by simp [hdirectory])
    rw [walk_name (h.searchable (by simpa using hs)) hdot hup hlost hshort, hfind']
    simp only [hdirectory]
    exact ih hw
  | case10 links here name rest hs hdot hup hlost hshort location e' hfind text hlink hstay =>
    obtain ⟨hne, hfind'⟩ := h.find_of_ne_file hfind (by simp [hlink])
    obtain rfl := Except.ok.inj hw
    rw [walk_name (h.searchable (by simpa using hs)) hdot hup hlost hshort, hfind']
    simp only [hlink, hstay, if_true]
    simp [Target.filed, location, hne]
  | case13 here name rest hs hdot hup hlost hshort location e' hfind text hlink hfollow links r hempty ih =>
    obtain ⟨-, hfind'⟩ := h.find_of_ne_file hfind (by simp [hlink])
    rw [walk_name (h.searchable (by simpa using hs)) hdot hup hlost hshort, hfind']
    simp only [hlink, hfollow, hempty]
    exact ih hw
  | case14 links here name rest hs hdot hup hlost hshort location e' hfind hrest hdirectory hlink =>
    obtain rfl := Except.ok.inj hw
    rw [walk_name (h.searchable (by simpa using hs)) hdot hup hlost hshort]
    by_cases hspot : here.live ++ [name] = spot
    · simp [hspot, h.find_spot, hbytes, hrest, Target.filed, location]
    · have hfind' : new.find? (here.live ++ [name]) = some e' := by rw [h.find_other _ hspot]; exact hfind
      rw [hfind']
      cases hcontent : e'.content with
      | directory => exact absurd hcontent hdirectory
      | link text => exact absurd hcontent (hlink text)
      | file | program | sink => simp [hcontent, hrest, Target.filed, location, hspot]

/-- What a walk finds is there, and where it finds a place for something, nothing is. -/
theorem find?_of_walk {tree : Tree} {follow : Bool} {links : Nat} {here : Place} {names : List String}
    {target : Target} (hw : tree.walk follow links here names = .ok target) :
    (∀ spot e, target = .present spot e → tree.find? spot = some e) ∧
      ∀ directory name, target = .vacant directory name → tree.find? (directory ++ [name]) = none := by
  fun_induction Tree.walk tree follow links here names with
  | case1 links here =>
    unfold Tree.targetAt at hw
    split at hw
    · obtain rfl := Except.ok.inj hw
      simp
    · split at hw
      · next hfind =>
        obtain rfl := Except.ok.inj hw
        refine ⟨?_, nofun⟩
        rintro spot e ⟨⟩
        exact hfind
      · simp at hw
  | case2 | case5 | case6 | case8 | case11 | case12 | case15 => simp at hw
  | case3 _ _ _ _ ih => exact ih hw
  | case4 _ _ _ _ _ ih => exact ih hw
  | case9 _ _ _ _ _ _ _ _ _ _ _ _ _ ih => exact ih hw
  | case13 _ _ _ _ _ _ _ _ _ _ _ _ _ _ _ _ _ ih => exact ih hw
  | case7 links here name rest hs hdot hup hlost hshort location hfind =>
    obtain rfl := Except.ok.inj hw
    refine ⟨nofun, ?_⟩
    rintro directory name ⟨⟩
    exact hfind
  | case10 links here name rest hs hdot hup hlost hshort location e hfind
  | case14 links here name rest hs hdot hup hlost hshort location e hfind =>
    obtain rfl := Except.ok.inj hw
    refine ⟨?_, nofun⟩
    rintro spot e ⟨⟩
    exact hfind

/-- Names that end in dots. -/
def EndsInDots (names : List String) : Prop := ∀ name, names.getLast? = some name → name = "." ∨ name = ".."

private theorem EndsInDots.tail {name : String} {rest : List String} (h : EndsInDots (name :: rest)) :
    EndsInDots rest := fun last hlast => h last (by simp [List.getLast?_cons, hlast])

private theorem EndsInDots.rest_ne_nil {name : String} {rest : List String} (h : EndsInDots (name :: rest))
    (hdot : ¬ name = ".") (hup : ¬ name = "..") : rest ≠ [] := by
  rintro rfl
  exact (h name rfl).elim hdot hup

theorem endsInDots_of_route {r : Route} (h : r.endsInName = false) : EndsInDots r.names := by
  intro name hname
  unfold Route.endsInName at h
  rw [hname] at h
  by_cases hdot : name = "."
  · exact .inl hdot
  · exact .inr (by simpa [hdot] using h)

/-- Names that end in dots lead to no place for something new. -/
theorem walk_ne_vacant {tree : Tree} {follow : Bool} {links : Nat} {here : Place} {names : List String}
    (h : EndsInDots names) (directory : Location) (name : String) :
    tree.walk follow links here names ≠ .ok (.vacant directory name) := by
  fun_induction Tree.walk tree follow links here names with
  | case1 links here =>
    unfold Tree.targetAt
    split
    · simp
    · split <;> simp
  | case2 | case5 | case6 | case8 | case10 | case11 | case12 | case14 | case15 => simp
  | case3 _ _ _ _ ih => exact ih h.tail
  | case4 _ _ _ _ _ ih => exact ih h.tail
  | case9 _ _ _ _ _ _ _ _ _ _ _ _ _ ih => exact ih h.tail
  | case7 links here name rest hs hdot hup hlost hshort location hfind hrest =>
    exact absurd (List.isEmpty_iff.1 hrest) (h.rest_ne_nil hdot hup)
  | case13 here name rest hs hdot hup hlost hshort location e hfind text hlink hfollow links r hempty ih =>
    refine ih fun last hlast => h.tail last ?_
    obtain ⟨last', hlast'⟩ := Option.isSome_iff_exists.1 (List.getLast?_isSome.2 (h.rest_ne_nil hdot hup))
    rw [List.getLast?_append, hlast', Option.some_or] at hlast
    rw [hlast', hlast]

/-- A walk that must end at a directory if a slash follows. -/
theorem resolve_eq_ok_iff {tree : Tree} {place : Place} {follow : Bool} {r : Route} {target : Target} :
    tree.resolve place follow r = .ok target ↔
      tree.walk (follow || r.trailing) linkLimit (if r.absolute then .ofLocation [] else place) r.names = .ok target ∧
        ∀ spot e, target = .present spot e → r.trailing = true → e.isDirectory = true := by
  unfold Tree.resolve
  dsimp only
  split
  · next spot e hw =>
    rw [hw]
    split
    · next hbad =>
      simp only [Bool.and_eq_true, Bool.not_eq_true'] at hbad
      constructor
      · nofun
      · rintro ⟨heq, hdirectory⟩
        have := hdirectory spot e (Except.ok.inj heq).symm hbad.1
        simp [hbad.2] at this
    · next hgood =>
      refine ⟨fun heq => ⟨heq, ?_⟩, fun h => h.1⟩
      rintro spot' e' rfl htrailing
      obtain ⟨rfl, rfl⟩ := Target.present.inj (Except.ok.inj heq)
      simpa [htrailing] using hgood
  · next hother =>
    refine ⟨fun heq => ⟨heq, ?_⟩, fun h => h.1⟩
    rintro spot e rfl
    exact absurd heq (hother spot e)

/-- A route to a location leads to the file there once there is one. -/
theorem Filed.resolve (h : Filed old new spot e) {place : Place} {r : Route} {target : Target}
    (hr : old.resolve place true r = .ok target) (htarget : target.filed spot e = .present spot e)
    (htrailing : r.trailing = false) : new.resolve place true r = .ok (.present spot e) := by
  obtain ⟨hw, -⟩ := resolve_eq_ok_iff.1 hr
  refine resolve_eq_ok_iff.2 ⟨?_, by simp [htrailing]⟩
  rw [← htarget]
  exact h.walk hw

/-- A file that is put where a file of the same mode or nothing was. -/
theorem filed_put {tree : Tree} {spot : Location} {mode : Nat} (hspot : spot ≠ []) (bytes : Bytes)
    (hbefore : ∀ e, tree.find? spot = some e → (∃ bytes, e.content = .file bytes) ∧ e.mode = mode) :
    Filed tree (tree.put spot ⟨.file bytes, mode⟩) spot ⟨.file bytes, mode⟩ where
  find_spot := by rw [find?_put hspot, if_pos rfl]
  find_other other hne := by rw [find?_put hspot, if_neg hne]
  isFile := ⟨bytes, rfl⟩
  before e h := ⟨(hbefore e h).1, by simp [Entry.executable, (hbefore e h).2]⟩

end Tree

namespace Files

/-- Where a path leads. -/
theorem resolve_of_ofText {files : Files} {path : String} {r : Route} (h : Route.ofText path = .ok r) (follow : Bool) :
    files.resolve follow path = (files.tree.resolve files.place follow r).mapError .system := by
  unfold resolve
  rw [h]
  rfl

/-- A path leads to an entry. -/
def LeadsTo (files : Files) (path : String) (e : Entry) : Prop :=
  ∃ spot, files.resolve true path = .ok (.present spot e)

/-- The way of a path that may be opened for writing, and the target that it leads to. A slash at the end stands behind
dots or nothing, and the directory in front of them is there. -/
structure Opens (files : Files) (path : String) (r : Route) (target : Target) : Prop where
  route : Route.ofText path = .ok r
  dots : (r.trailing || !r.endsInName) = true →
    r.endsInName = false ∧ ∃ parent, files.tree.resolveParent files.place r = .ok parent
  leads : files.tree.resolve files.place true r = .ok target

/-- A target at which a file can be written to, with its location and its permission bits. -/
inductive TakesFile (files : Files) : Target → Location → Nat → Prop
  | present {spot : Location} {old : Bytes} {mode : Nat} (hwritable : Entry.writable ⟨.file old, mode⟩ = true) :
      TakesFile files (.present spot ⟨.file old, mode⟩) spot mode
  | vacant {directory : Location} {name : String} (hchange : mayChange files.tree directory = true) :
      TakesFile files (.vacant directory name) (directory ++ [name]) Entry.fileMode

section Opening

variable {files opened done : Files} {path : String} {r : Route} {target : Target} {spot : Location} {mode : Nat}
  {keep : Bool} {handle : Handle} {bytes : Bytes}

theorem Opens.openForWriting (h : files.Opens path r target) (keep : Bool) :
    files.openForWriting keep path = (files.openTarget keep target).mapError .system := by
  unfold Files.openForWriting
  rw [h.route]
  simp only [bind, Except.bind]
  by_cases hdots : (r.trailing || !r.endsInName) = true
  · obtain ⟨hends, parent, hparent⟩ := h.dots hdots
    rw [if_pos hdots, hparent, hends, h.leads]
    rfl
  · rw [if_neg hdots, h.leads]
    rfl

private theorem openTarget_of_bind {found : Except SystemFault Target}
    (h : (found.mapError CallFault.system >>= fun target => (files.openTarget keep target).mapError .system) =
      .ok (opened, handle)) :
    ∃ target, found = .ok target ∧ files.openTarget keep target = .ok (opened, handle) := by
  cases found with
  | error fault => cases h
  | ok target =>
    refine ⟨target, rfl, ?_⟩
    have h' : (files.openTarget keep target).mapError CallFault.system = .ok (opened, handle) := h
    cases hopen : files.openTarget keep target with
    | error fault => rw [hopen] at h'; cases h'
    | ok result => rw [hopen] at h'; rw [Except.ok.inj h']

/-- What a path that was opened for writing leads to. -/
theorem exists_opens (h : files.openForWriting keep path = .ok (opened, handle)) :
    ∃ r target, files.Opens path r target ∧ files.openTarget keep target = .ok (opened, handle) := by
  unfold openForWriting at h
  cases hr : Route.ofText path with
  | error fault => rw [hr] at h; cases h
  | ok r =>
    rw [hr] at h
    simp only [bind, Except.bind] at h
    by_cases hname : (r.trailing || !r.endsInName) = true
    · rw [if_pos hname] at h
      cases hparent : files.tree.resolveParent files.place r with
      | error fault => rw [hparent] at h; cases h
      | ok parent =>
        by_cases hends : r.endsInName = true
        · rw [hparent, if_pos hends] at h
          cases h
        · rw [hparent, if_neg hends] at h
          obtain ⟨target, htarget, hopen⟩ := openTarget_of_bind h
          exact ⟨r, target, ⟨hr, fun _ => ⟨by simpa using hends, parent, hparent⟩, htarget⟩, hopen⟩
    · rw [if_neg hname] at h
      obtain ⟨target, htarget, hopen⟩ := openTarget_of_bind h
      exact ⟨r, target, ⟨hr, fun hdots => absurd hdots hname, htarget⟩, hopen⟩

theorem Opens.resolve (h : files.Opens path r target) : files.resolve true path = .ok target := by
  rw [resolve_of_ofText h.route, h.leads]
  rfl

theorem TakesFile.openTarget (h : files.TakesFile target spot mode) :
    files.openTarget false target =
      .ok ({ files with tree := files.tree.put spot ⟨.file [], mode⟩ }, .file spot) := by
  cases h with
  | present hwritable => simp [Files.openTarget, hwritable]
  | vacant hchange => simp [Files.openTarget, hchange]

/-- What can be opened for writing is a file, or a place for one, or a device. -/
theorem takesFile_or_sink (h : files.openTarget keep target = .ok (opened, handle)) :
    (∃ spot mode, files.TakesFile target spot mode) ∨
      ∃ spot mode, target = .present spot ⟨.sink, mode⟩ ∧ opened = files ∧ handle = .sink := by
  unfold Files.openTarget at h
  cases target with
  | removed place => cases h
  | vacant directory name =>
    dsimp only at h
    split at h
    · cases h
    · next hchange => exact .inl ⟨_, _, .vacant (by simpa using hchange)⟩
  | present spot e =>
    obtain ⟨content, mode⟩ := e
    cases content with
    | directory | link text | program name => cases h
    | sink =>
      obtain ⟨rfl, rfl⟩ := Prod.mk.inj (Except.ok.inj h)
      exact .inr ⟨spot, mode, rfl, rfl, rfl⟩
    | file old =>
      dsimp only at h
      split at h
      · cases h
      · next hwritable => exact .inl ⟨_, _, .present (by simpa using hwritable)⟩

section Taking

variable (h : files.Opens path r target) (ht : files.TakesFile target spot mode)
include h ht

theorem Opens.spot_ne_nil : spot ≠ [] := by
  obtain ⟨hpresent, -⟩ := Tree.find?_of_walk (Tree.resolve_eq_ok_iff.1 h.leads).1
  cases ht with
  | present =>
    rintro rfl
    cases hpresent _ _ rfl
  | vacant => simp

theorem Opens.not_trailing : r.trailing = false := by
  obtain ⟨hwalk, hdirectory⟩ := Tree.resolve_eq_ok_iff.1 h.leads
  cases hslash : r.trailing with
  | false => rfl
  | true =>
    cases ht with
    | present => simpa [Entry.isDirectory] using hdirectory _ _ rfl hslash
    | vacant =>
      have hends : r.endsInName = false := (h.dots (by simp [hslash])).1
      exact absurd hwalk (Tree.walk_ne_vacant (Tree.endsInDots_of_route hends) _ _)

/-- The file stands where the target was. -/
theorem Opens.filed (bytes : Bytes) :
    Tree.Filed files.tree (files.tree.put spot ⟨.file bytes, mode⟩) spot ⟨.file bytes, mode⟩ := by
  obtain ⟨hpresent, hvacant⟩ := Tree.find?_of_walk (Tree.resolve_eq_ok_iff.1 h.leads).1
  refine Tree.filed_put (h.spot_ne_nil ht) bytes fun e he => ?_
  cases ht with
  | @present _ old =>
    obtain rfl := Option.some.inj ((hpresent _ _ rfl).symm.trans he)
    exact ⟨⟨old, rfl⟩, rfl⟩
  | vacant => simp [hvacant _ _ rfl] at he

/-- Once a file has been written to, its path may be opened again and leads to it. -/
theorem Opens.again (bytes : Bytes) :
    Opens { files with tree := files.tree.put spot ⟨.file bytes, mode⟩ } path r
      (.present spot ⟨.file bytes, mode⟩) where
  route := h.route
  dots hdots := by
    obtain ⟨hends, parent, hparent⟩ := h.dots hdots
    exact ⟨hends, _, (h.filed ht bytes).walk hparent⟩
  leads := by
    refine (h.filed ht bytes).resolve h.leads ?_ (h.not_trailing ht)
    cases ht <;> simp [Target.filed]

theorem Opens.write (bytes : Bytes) :
    files.write path bytes = .ok { files with tree := files.tree.put spot ⟨.file bytes, mode⟩ } := by
  have hfind : (files.tree.put spot ⟨.file [], mode⟩).find? spot = some ⟨.file [], mode⟩ := by
    rw [Tree.find?_put (h.spot_ne_nil ht), if_pos rfl]
  unfold Files.write
  rw [h.openForWriting, ht.openTarget]
  show Except.ok (addTo _ bytes (.file spot)) = _
  unfold addTo
  dsimp only
  rw [hfind]
  dsimp only
  rw [Tree.put_put]
  rfl

end Taking

/-- What writing comes to: there is a file with the octets, or a device has swallowed them. -/
theorem exists_opens_of_write (h : files.write path bytes = .ok done) :
    ∃ r target, files.Opens path r target ∧
      ((∃ spot mode, files.TakesFile target spot mode ∧
          done = { files with tree := files.tree.put spot ⟨.file bytes, mode⟩ }) ∨
        ∃ spot mode, target = .present spot ⟨.sink, mode⟩ ∧ done = files) := by
  cases hopened : files.openForWriting false path with
  | error fault =>
    unfold Files.write at h
    rw [hopened] at h
    cases h
  | ok result =>
    obtain ⟨r, target, hopens, hopen⟩ := exists_opens hopened
    refine ⟨r, target, hopens, ?_⟩
    rcases takesFile_or_sink hopen with ⟨spot, mode, ht⟩ | ⟨spot, mode, hsink, hsame, hhandle⟩
    · exact .inl ⟨spot, mode, ht, (Except.ok.inj ((hopens.write ht bytes).symm.trans h)).symm⟩
    · refine .inr ⟨spot, mode, hsink, ?_⟩
      unfold Files.write at h
      rw [hopened] at h
      have hdone : result.1.addTo bytes result.2 = done := Except.ok.inj h
      rw [← hdone, hsame, hhandle]
      rfl

/-- What has been written stands in a file that the path leads to, unless it was swallowed. -/
theorem leadsTo_of_write (h : files.write path bytes = .ok done) :
    ∃ mode, done.LeadsTo path ⟨.file bytes, mode⟩ ∨ (done = files ∧ files.LeadsTo path ⟨.sink, mode⟩) := by
  obtain ⟨r, target, hopens, ⟨spot, mode, ht, rfl⟩ | ⟨spot, mode, rfl, rfl⟩⟩ := exists_opens_of_write h
  · exact ⟨mode, .inl ⟨spot, (hopens.again ht bytes).resolve⟩⟩
  · exact ⟨mode, .inr ⟨rfl, spot, hopens.resolve⟩⟩

/-- A file that is written to keeps its permission bits. -/
theorem LeadsTo.write {old : Bytes} (hleads : files.LeadsTo path ⟨.file old, mode⟩)
    (h : files.write path bytes = .ok done) : done.LeadsTo path ⟨.file bytes, mode⟩ := by
  obtain ⟨spot', hleads⟩ := hleads
  obtain ⟨r, target, hopens, ⟨spot, mode', ht, rfl⟩ | ⟨spot, mode', rfl, rfl⟩⟩ := exists_opens_of_write h
  · refine ⟨spot, ?_⟩
    rw [(hopens.again ht bytes).resolve]
    obtain rfl := Except.ok.inj (hopens.resolve.symm.trans hleads)
    cases ht
    rfl
  · cases hopens.resolve.symm.trans hleads

/-- Of two texts that are written to a path the second stays. -/
theorem write_write (h : files.write path bytes = .ok done) (more : Bytes) :
    done.write path more = files.write path more := by
  obtain ⟨r, target, hopens, ⟨spot, mode, ht, rfl⟩ | ⟨spot, mode, rfl, rfl⟩⟩ := exists_opens_of_write h
  · have hwritable : Entry.writable ⟨.file bytes, mode⟩ = true := by
      cases ht with
      | present hwritable => exact hwritable
      | vacant => simp [Entry.writable, Entry.fileMode]
    rw [(hopens.again ht bytes).write (.present hwritable) more, hopens.write ht more, Tree.put_put]
  · rfl

end Opening

/-! ### What a file holds that was written to -/

/-- A tree in which octets have been written to a path. They stand in the file that it leads to, behind what was in
there if that is kept, or in a new file; nothing else has changed. A device has swallowed them. -/
inductive Filled (files : Files) (path : String) (keep : Bool) (bytes : Bytes) (tree : Tree) : Prop
  | present {spot : Location} {old : Bytes} {mode : Nat}
      (hleads : files.resolve true path = .ok (.present spot ⟨.file old, mode⟩))
      (hspot : tree.find? spot = some ⟨.file ((if keep then old else []) ++ bytes), mode⟩)
      (hother : ∀ other, other ≠ spot → tree.find? other = files.tree.find? other)
  | vacant {directory : Location} {name : String} (hleads : files.resolve true path = .ok (.vacant directory name))
      (hspot : tree.find? (directory ++ [name]) = some ⟨.file bytes, Entry.fileMode⟩)
      (hother : ∀ other, other ≠ directory ++ [name] → tree.find? other = files.tree.find? other)
  | swallowed {spot : Location} {mode : Nat} (hleads : files.resolve true path = .ok (.present spot ⟨.sink, mode⟩))
      (htree : tree = files.tree)

private theorem find?_addTo {files : Files} {spot : Location} {old : Bytes} {mode : Nat} (hspot : spot ≠ [])
    (h : files.tree.find? spot = some ⟨.file old, mode⟩) (bytes : Bytes) (other : Location) :
    (files.addTo bytes (.file spot)).tree.find? other =
      if other = spot then some ⟨.file (old ++ bytes), mode⟩ else files.tree.find? other := by
  unfold addTo
  dsimp only
  rw [h]
  exact Tree.find?_put hspot _ other

/-- A path that has been opened leads to a file or a device. Before anything is added to it, it holds nothing but what
is kept; what is added comes behind that. -/
theorem filled_of_openForWriting {files opened : Files} {keep : Bool} {path : String} {handle : Handle}
    (h : files.openForWriting keep path = .ok (opened, handle)) :
    Filled files path keep [] opened.tree ∧
      ∀ bytes, Filled files path keep bytes (opened.addTo bytes handle).tree := by
  obtain ⟨r, target, hopens, hopen⟩ := exists_opens h
  have hleads := hopens.resolve
  obtain ⟨hpresent, -⟩ := Tree.find?_of_walk (Tree.resolve_eq_ok_iff.1 hopens.leads).1
  -- In each case the opened file is where the target is, and what is added is added there.
  cases target with
  | removed place => simp [openTarget] at hopen
  | vacant directory name =>
    have hspot : directory ++ [name] ≠ [] := by simp
    unfold openTarget at hopen
    dsimp only at hopen
    split at hopen
    · cases hopen
    · obtain ⟨rfl, rfl⟩ := Prod.mk.inj (Except.ok.inj hopen)
      have hput := @Tree.find?_put files.tree _ hspot ⟨.file [], Entry.fileMode⟩
      refine ⟨.vacant hleads ((hput _).trans (if_pos rfl)) fun other hne => (hput _).trans (if_neg hne), ?_⟩
      intro bytes
      have hadd := @find?_addTo { files with tree := files.tree.put _ _ } _ _ _ hspot
        ((hput _).trans (if_pos rfl)) bytes
      refine .vacant hleads ((hadd _).trans (if_pos rfl)) fun other hne => ?_
      rw [hadd, if_neg hne, hput, if_neg hne]
  | present spot e =>
    obtain ⟨content, mode⟩ := e
    have hfind := hpresent spot _ rfl
    unfold openTarget at hopen
    cases content with
    | directory | link text | program name => simp at hopen
    | sink =>
      obtain ⟨rfl, rfl⟩ := Prod.mk.inj (Except.ok.inj hopen)
      exact ⟨.swallowed hleads rfl, fun _ => .swallowed hleads rfl⟩
    | file old =>
      have hspot : spot ≠ [] := by
        rintro rfl
        cases hfind
      dsimp only at hopen
      split at hopen
      · cases hopen
      · obtain ⟨rfl, rfl⟩ := Prod.mk.inj (Except.ok.inj hopen)
        have hput := @Tree.find?_put files.tree _ hspot ⟨.file (if keep then old else []), mode⟩
        refine ⟨.present hleads ?_ fun other hne => (hput _).trans (if_neg hne), ?_⟩
        · rw [List.append_nil]
          exact (hput _).trans (if_pos rfl)
        intro bytes
        have hadd := @find?_addTo { files with tree := files.tree.put _ _ } _ _ _ hspot
          ((hput _).trans (if_pos rfl)) bytes
        refine .present hleads ((hadd _).trans (if_pos rfl)) fun other hne => ?_
        rw [hadd, if_neg hne, hput, if_neg hne]

end Files

end CommandShell
