import CommandShell.History
import CommandShell.Proofs.Execution.Escape
import CommandShell.Proofs.Files.Writing
import CommandShell.Proofs.Text.Decoding

/-!
# Loading and saving a history

What loading comes to is decided by what the history's path leads to (`History.load_eq`). It fails in two ways only
(`History.load_eq_error_iff`): the system cannot tell what the path leads to, or there is a file that may be read and
holds no text. Otherwise the lines of the text are added, or nothing is. Saving fails only at a path that holds the
null character (`History.exists_save_iff`).
-/

namespace CommandShell

namespace Files

variable {files : Files} {path : String} {e : Entry}

theorem LeadsTo.unique {e' : Entry} (h : files.LeadsTo path e) (h' : files.LeadsTo path e') : e = e' := by
  obtain ⟨spot, hspot⟩ := h
  obtain ⟨spot', hspot'⟩ := h'
  exact (Target.present.inj (Except.ok.inj (hspot.symm.trans hspot'))).2

theorem LeadsTo.isThere (h : files.LeadsTo path e) : files.isThere path = .ok true := by
  obtain ⟨spot, hspot⟩ := h
  unfold Files.isThere ask
  rw [hspot]

theorem LeadsTo.read (h : files.LeadsTo path e) : files.read path = (contentOf e).mapError .system := by
  obtain ⟨spot, hspot⟩ := h
  unfold Files.read
  rw [hspot]
  rfl

theorem contentOf_eq_ok {e : Entry} {bytes : Bytes} (h : contentOf e = .ok bytes) :
    e.readable = true ∧ (e.content = .file bytes ∨ bytes = []) := by
  unfold contentOf at h
  split at h
  · cases h
  · next hreadable =>
    refine ⟨by simpa using hreadable, ?_⟩
    split at h
    · cases h
    · next old hcontent => exact .inl (hcontent.trans (congrArg Content.file (Except.ok.inj h)))
    · exact .inr (Except.ok.inj h).symm

end Files

namespace History

/-- What loading comes to, by what the history's path leads to. -/
theorem load_eq {h : History} {path : Path} (hpath : h.file = some path) (files : Files) :
    h.load files =
      match files.resolve true path.text with
      | .ok (.present _ e) =>
        match Files.contentOf e with
        | .error _ => .ok h
        | .ok bytes =>
          match Text.decode? bytes with
          | some text => .ok (h.appendAll (linesOfText text.toList))
          | none => .error .undecodable
      | .error (.system fault) => if fault.meansAbsent then .ok h else .error (.system fault (some path.text))
      | _ => .ok h := by
  unfold load
  simp only [hpath]
  cases hresolve : files.resolve true path.text with
  | error fault =>
    unfold Files.isThere Files.ask
    rw [hresolve]
    cases fault with
    | embeddedNull => rfl
    | system fault => cases habsent : fault.meansAbsent <;> simp [habsent]
  | ok target =>
    cases target with
    | vacant directory name =>
      unfold Files.isThere Files.ask
      rw [hresolve]
    | removed place =>
      unfold Files.isThere Files.ask Files.read
      rw [hresolve]
      rfl
    | present spot e =>
      have hleads : files.LeadsTo path.text e := ⟨spot, hresolve⟩
      rw [hleads.isThere, hleads.read]
      dsimp only
      cases Files.contentOf e <;> rfl

theorem load_of_read {h : History} {files : Files} {path : Path} {e : Entry} (hpath : h.file = some path)
    (hleads : files.LeadsTo path.text e) {s : String} (hcontent : Files.contentOf e = .ok (Text.encode s)) :
    h.load files = .ok (h.appendAll (linesOfText s.toList)) := by
  obtain ⟨spot, hspot⟩ := hleads
  rw [load_eq hpath, hspot]
  dsimp only
  rw [hcontent]
  dsimp only
  rw [Text.decode?_eq_some_iff.2 rfl]

theorem load_of_unreadable {h : History} {files : Files} {path : Path} {e : Entry} (hpath : h.file = some path)
    (hleads : files.LeadsTo path.text e) (hmode : e.readable = false) : h.load files = .ok h := by
  obtain ⟨spot, hspot⟩ := hleads
  rw [load_eq hpath, hspot]
  simp [Files.contentOf, hmode]

/-- Why loading fails. -/
inductive LoadFault (h : History) (files : Files) : Mishap → Prop where
  | unreachable {path : Path} {fault : SystemFault} (hpath : h.file = some path)
    (hresolve : files.resolve true path.text = .error (.system fault)) (hpresent : fault.meansAbsent = false) :
    LoadFault h files (.system fault (some path.text))
  | undecodable {path : Path} {bytes : Bytes} {mode : Nat} (hpath : h.file = some path)
    (hleads : files.LeadsTo path.text ⟨.file bytes, mode⟩) (hmode : Entry.readable ⟨.file bytes, mode⟩ = true)
    (hbytes : ∀ s, bytes ≠ Text.encode s) : LoadFault h files .undecodable

/-- The history's path leads to a file that may be read and holds a text. -/
def HoldsText (h : History) (files : Files) (s : String) : Prop :=
  ∃ path mode, h.file = some path ∧ files.LeadsTo path.text ⟨.file (Text.encode s), mode⟩ ∧
    Entry.readable ⟨.file (Text.encode s), mode⟩ = true

theorem load_of_holdsText {h : History} {files : Files} {s : String} (htext : h.HoldsText files s) :
    h.load files = .ok (h.appendAll (linesOfText s.toList)) := by
  obtain ⟨path, mode, hpath, hleads, hmode⟩ := htext
  refine load_of_read hpath hleads ?_
  rw [Files.contentOf, if_neg (by simp [hmode])]

theorem LoadFault.load {h : History} {files : Files} {m : Mishap} (hfault : h.LoadFault files m) :
    h.load files = .error m := by
  cases hfault with
  | unreachable hpath hresolve hpresent =>
    rw [load_eq hpath, hresolve]
    simp [hpresent]
  | @undecodable path bytes mode hpath hleads hmode hbytes =>
    obtain ⟨spot, hspot⟩ := hleads
    have hcontent : Files.contentOf ⟨.file bytes, mode⟩ = .ok bytes := by
      rw [Files.contentOf, if_neg (by simp [hmode])]
    rw [load_eq hpath, hspot]
    dsimp only
    rw [hcontent]
    dsimp only
    rw [Text.decode?_eq_none_iff.2 hbytes]

/-- Loading fails, or adds the lines of a text, or adds nothing. -/
theorem load_cases (h : History) (files : Files) :
    (∃ m, h.LoadFault files m) ∨ (∃ s, h.HoldsText files s) ∨ h.load files = .ok h := by
  cases hpath : h.file with
  | none =>
    refine .inr (.inr ?_)
    unfold load
    rw [hpath]
  | some path =>
    rw [load_eq hpath]
    split
    · next spot e hresolve =>
      have hleads : files.LeadsTo path.text e := ⟨spot, hresolve⟩
      obtain ⟨content, mode⟩ := e
      split
      · exact .inr (.inr rfl)
      · next bytes hcontent =>
        -- Only a file has octets of its own; what else may be read is as good as an empty one.
        obtain ⟨hmode, hfile | rfl⟩ := Files.contentOf_eq_ok hcontent
        · obtain rfl : content = .file bytes := hfile
          cases hdecode : Text.decode? bytes with
          | some s =>
            obtain rfl := Text.decode?_eq_some_iff.1 hdecode
            exact .inr (.inl ⟨s, path, mode, hpath, hleads, hmode⟩)
          | none => exact .inl ⟨_, .undecodable hpath hleads hmode (Text.decode?_eq_none_iff.1 hdecode)⟩
        · exact .inr (.inr rfl)
    · next fault hresolve =>
      cases habsent : fault.meansAbsent with
      | true => exact .inr (.inr rfl)
      | false => exact .inl ⟨_, .unreachable hpath hresolve habsent⟩
    · exact .inr (.inr rfl)

/-- Loading fails exactly if the system cannot tell what is at the history's path, or what is there may be read and is
no text. -/
theorem load_eq_error_iff {h : History} {files : Files} {m : Mishap} :
    h.load files = .error m ↔ h.LoadFault files m := by
  refine ⟨fun hload => ?_, LoadFault.load⟩
  rcases load_cases h files with ⟨m', hfault⟩ | ⟨s, htext⟩ | hsame
  · obtain rfl := Except.error.inj (hfault.load.symm.trans hload)
    exact hfault
  · rw [load_of_holdsText htext] at hload
    cases hload
  · rw [hsame] at hload
    cases hload

/-- A path right below the root directory, where a tree with nothing else may have a file. -/
def barePath : Path := ⟨.slash, ["h"]⟩

def bareHolding (bytes : Bytes) : Files := ⟨⟨[(["h"], ⟨.file bytes, Entry.fileMode⟩)]⟩, .ofLocation []⟩

theorem route_barePath : Route.ofText barePath.text = .ok ⟨true, ["h"], false⟩ := rfl

theorem resolve_barePath {tree : Tree} {target : Target}
    (h : tree.walk true Tree.linkLimit (.ofLocation []) ["h"] = .ok target) :
    tree.resolve (.ofLocation []) true ⟨true, ["h"], false⟩ = .ok target :=
  Tree.resolve_eq_ok_iff.2 ⟨h, by simp⟩

theorem leads_bareHolding (bytes : Bytes) :
    (bareHolding bytes).LeadsTo barePath.text ⟨.file bytes, Entry.fileMode⟩ := by
  refine ⟨["h"], ?_⟩
  rw [Files.resolve_of_ofText route_barePath]
  show (Tree.resolve _ (.ofLocation []) true _).mapError _ = _
  rw [resolve_barePath (Tree.walk_name rfl (by decide) (by decide) (by decide) (by decide))]
  rfl

/-- An octet that begins no character. -/
theorem load_of_stray_octet :
    (⟨10, some barePath, ["ls"]⟩ : History).load (bareHolding [0xFF]) = .error .undecodable := by
  have hbytes : Text.decode? [0xFF] = none := rfl
  exact (LoadFault.undecodable rfl (leads_bareHolding _) rfl (Text.decode?_eq_none_iff.1 hbytes)).load

theorem save_eq_saved {h : History} {files saved : Files} (hsave : h.save files = .ok (saved, true)) :
    h.file = none ∨ ∃ path, h.file = some path ∧ files.write path.text (Text.encode h.written) = .ok saved := by
  unfold save at hsave
  split at hsave
  · next hnone => exact .inl hnone
  · next path hpath =>
    split at hsave
    · next done hdone =>
      obtain ⟨rfl, -⟩ := Prod.mk.inj (Except.ok.inj hsave)
      exact .inr ⟨path, hpath, hdone⟩
    · exact absurd (Except.ok.inj hsave) (by simp)
    · cases hsave

/-- Saving goes well exactly if all that is written is written. -/
theorem save_eq_saved_iff {h : History} {path : Path} (hpath : h.file = some path) {files saved : Files} :
    h.save files = .ok (saved, true) ↔ files.write path.text (Text.encode h.written) = .ok saved := by
  unfold save
  rw [hpath]
  dsimp only
  cases hwrite : files.write path.text (Text.encode h.written) with
  | ok done => simp
  | error fault => cases fault <;> simp

theorem save_unsaved {h : History} {files after : Files} (hsave : h.save files = .ok (after, false)) :
    after = files := by
  unfold save at hsave
  split at hsave
  · exact absurd (Except.ok.inj hsave) (by simp)
  · split at hsave
    · exact absurd (Except.ok.inj hsave) (by simp)
    · exact (Prod.mk.inj (Except.ok.inj hsave)).1.symm
    · cases hsave

/-- Saving ends with an answer exactly if the history's path holds no null character. -/
theorem exists_save_iff (h : History) (files : Files) :
    (∃ answer, h.save files = .ok answer) ↔ ∀ path, h.file = some path → ¬ Text.HoldsNull path.text := by
  unfold save
  cases h.file with
  | none => simp
  | some path =>
    have hwrite : files.write path.text (Text.encode h.written) = .error .embeddedNull ↔ Text.HoldsNull path.text := by
      rw [← files.openForWriting_eq_embeddedNull_iff false]
      unfold Files.write
      cases files.openForWriting false path.text <;> simp [bind, Except.bind, pure, Except.pure]
    simp only [Option.some.injEq, forall_eq', ← hwrite]
    split <;> simp_all

end History

end CommandShell
