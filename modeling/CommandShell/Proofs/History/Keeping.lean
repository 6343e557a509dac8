import CommandShell.Proofs.History.Entries
import CommandShell.Proofs.History.Loading
import CommandShell.Proofs.Text.Line
import CommandShell.Proofs.Text.Parts

/-!
# A history that is saved and loaded again

Saving joins the lines with line feeds; loading cuts the text at every line boundary and leaves empty lines out. So
each line comes back as the lines it is cut into (`History.linesOfText_intercalate`), and the history comes back as it
was exactly if the file can be read and no line holds a boundary (`History.load_after_save`).
-/

namespace CommandShell

namespace History

/-! ### Lines that are read back -/

/-- The lines that one line comes to once it has been written to a file. -/
def readBack (line : String) : List String := (Text.fullLines line.toList).map String.ofList

/-- A line without boundaries. -/
def Unbroken (line : String) : Prop := ∀ c ∈ line.toList, Text.isLineBoundary c = false

instance : DecidablePred Unbroken := fun line =>
  List.decidableBAll (fun c => Text.isLineBoundary c = false) line.toList

theorem readBack_of_unbroken {line : String} (hne : line ≠ "") (h : Unbroken line) : readBack line = [line] := by
  have hchars : line.toList ≠ [] := fun heq => hne (String.toList_eq_nil_iff.1 heq)
  rw [readBack, (Text.fullLines_eq_singleton_iff hchars).2 h, List.map_singleton, String.ofList_toList]

theorem flatMap_readBack_of_unbroken {lines : List String} (h : ∀ line ∈ lines, line ≠ "" ∧ Unbroken line) :
    lines.flatMap readBack = lines := by
  induction lines with
  | nil => rfl
  | cons line lines ih =>
    obtain ⟨hne, hunbroken⟩ := h line List.mem_cons_self
    rw [List.flatMap_cons, readBack_of_unbroken hne hunbroken, ih fun l hl => h l (List.mem_cons_of_mem line hl)]
    rfl

theorem unbroken_of_mem_readBack {line text : String} (h : line ∈ readBack text) : Unbroken line := by
  intro c hc
  obtain ⟨cs, hcs, rfl⟩ := List.mem_map.1 h
  rw [String.toList_ofList] at hc
  exact Text.notBoundary_of_mem_fullLines hcs hc

/-- The lines of a text without carriage returns that was joined with line feeds. -/
theorem linesOfText_intercalate {lines : List String} (h : ∀ line ∈ lines, '\r' ∉ line.toList) :
    linesOfText (String.intercalate "\n" lines).toList = lines.flatMap readBack := by
  have hchars : ∀ cs ∈ lines.map String.toList, '\r' ∉ cs := by simpa using h
  have hjoined : '\r' ∉ List.intercalate ['\n'] (lines.map String.toList) := by
    intro hmem
    rcases Text.mem_of_mem_intercalate hmem with hfeed | ⟨cs, hcs, hc⟩
    · simp at hfeed
    · exact hchars cs hcs hc
  rw [String.toList_intercalate]
  show (Text.fullLines (Text.uniformNewlines (List.intercalate ['\n'] (lines.map String.toList)))).map String.ofList = _
  rw [Text.uniformNewlines_eq_self hjoined, Text.fullLines_intercalate hchars, List.flatMap_map, List.map_flatMap]
  rfl

/-! ### Loading what was saved -/

/-- The history's path leads to a file that one may read. -/
def Readable (h : History) (files : Files) : Prop :=
  ∃ path e, h.file = some path ∧ files.LeadsTo path.text e ∧ e.isFile = true ∧ e.readable = true

/-- What was saved is loaded if it can be read at all. -/
theorem load_of_save {h fresh : History} {files saved : Files} (hsave : h.save files = .ok (saved, true))
    (hfile : fresh.file = h.file) :
    (h.Readable saved → fresh.load saved = .ok (fresh.appendAll (linesOfText h.written.toList))) ∧
      (¬ h.Readable saved → fresh.load saved = .ok fresh) := by
  rcases save_eq_saved hsave with hnone | ⟨path, hpath, hwrite⟩
  · have hload : fresh.load saved = .ok fresh := by
      unfold load
      rw [hfile, hnone]
    refine ⟨?_, fun _ => hload⟩
    rintro ⟨path, e, hpath, -⟩
    simp [hnone] at hpath
  have hpath' := hfile.trans hpath
  have hreadable : ∀ {e}, saved.LeadsTo path.text e →
      (h.Readable saved ↔ e.isFile = true ∧ e.readable = true) := by
    intro e hleads
    constructor
    · rintro ⟨other, e', hother, hleads', hmay⟩
      obtain rfl := Option.some.inj (hpath.symm.trans hother)
      rwa [hleads.unique hleads']
    · exact fun hmay => ⟨path, e, hpath, hleads, hmay⟩
  obtain ⟨mode, hleads | ⟨rfl, hleads⟩⟩ := Files.leadsTo_of_write hwrite
  · rw [hreadable hleads]
    cases hmode : Entry.readable ⟨.file (Text.encode h.written), mode⟩ with
    | false => exact ⟨fun hmay => absurd hmay.2 (by simp), fun _ => load_of_unreadable hpath' hleads hmode⟩
    | true =>
      refine ⟨fun _ => load_of_read hpath' hleads ?_, fun hnot => absurd ⟨rfl, rfl⟩ hnot⟩
      rw [Files.contentOf, if_neg (by simp [hmode])]
  · -- A device has nothing to read.
    rw [hreadable hleads]
    refine ⟨fun hmay => absurd hmay.1 (by simp [Entry.isFile]), fun _ => ?_⟩
    cases hmode : Entry.readable ⟨.sink, mode⟩ with
    | false => exact load_of_unreadable hpath' hleads hmode
    | true =>
      refine load_of_read (s := "") hpath' hleads ?_
      rw [Files.contentOf, if_neg (by simp [hmode])]
      rfl

section Restoring

variable {h : History} (hbounded : h.Bounded) (hfull : ∀ line ∈ h.entries, line ≠ "" ∧ '\r' ∉ line.toList)
include hbounded hfull

theorem entries_restored :
    ((empty h.maxSize h.file).appendAll (linesOfText h.written.toList)).entries =
      (h.entries.flatMap readBack).rtake h.maxSize.toNat := by
  rw [hbounded.written_eq, linesOfText_intercalate fun line hline => (hfull line hline).2]
  exact entries_appendAll_empty h.maxSize h.file _

/-- What is read back are the same entries exactly if none of them holds a boundary. -/
theorem restored_eq_iff :
    (empty h.maxSize h.file).appendAll (linesOfText h.written.toList) = h ↔ ∀ line ∈ h.entries, Unbroken line := by
  refine Iff.trans (eq_iff_entries (maxSize_appendAll _ _) (file_appendAll _ _)) ?_
  rw [entries_restored hbounded hfull]
  constructor
  · -- An entry that has come back is one of those that some entry was cut into.
    intro heq line hline
    rw [← heq] at hline
    obtain ⟨text, -, hback⟩ := List.mem_flatMap.1 (List.mem_of_mem_drop hline)
    exact unbroken_of_mem_readBack hback
  · intro hunbroken
    rw [flatMap_readBack_of_unbroken fun line hline => ⟨(hfull line hline).1, hunbroken line hline⟩]
    exact hbounded.rtake_entries

end Restoring

/-- Loading what was saved gives the same history exactly if its file can be read and no line in it holds a boundary,
or if there are no lines; otherwise each line is cut at its boundaries. -/
theorem load_after_save {maxSize : Int} (hmax : 1 ≤ maxSize) {file : Option Path} {lines : List String}
    (hlines : ∀ line ∈ lines, line ≠ "" ∧ '\n' ∉ line.toList ∧ '\r' ∉ line.toList) {h : History}
    (hbuilt : h = (empty maxSize file).appendAll lines) {files saved : Files}
    (hsave : h.save files = .ok (saved, true)) :
    ∃ restored, (empty maxSize file).load saved = .ok restored ∧
      (h.Readable saved → restored.entries = (h.entries.flatMap readBack).rtake maxSize.toNat) ∧
      (¬ h.Readable saved → restored.entries = []) ∧
      (restored = h ↔ lines = [] ∨ h.Readable saved ∧ ∀ line ∈ h.entries, Unbroken line) := by
  have hcap : h.Capped := hbuilt ▸ (capped_empty hmax file).appendAll lines
  have hentries : h.entries = lines.rtake maxSize.toNat := hbuilt ▸ entries_appendAll_empty maxSize file lines
  obtain rfl : h.file = file := hbuilt ▸ file_appendAll _ lines
  obtain rfl : h.maxSize = maxSize := hbuilt ▸ maxSize_appendAll _ lines
  clear hbuilt
  have hfull : ∀ line ∈ h.entries, line ≠ "" ∧ '\r' ∉ line.toList := by
    intro line hline
    rw [hentries] at hline
    have hline' := hlines line (List.mem_of_mem_drop hline)
    exact ⟨hline'.1, hline'.2.2⟩
  have hempty : h.entries = [] ↔ lines = [] := by
    rw [hentries, List.rtake, List.drop_eq_nil_iff]
    refine ⟨fun hlength => List.length_eq_zero_iff.1 ?_, fun hnil => by simp [hnil]⟩
    omega
  have hfile : (empty h.maxSize h.file).file = h.file := rfl
  obtain ⟨hread, hunread⟩ := load_of_save hsave hfile
  by_cases hmay : h.Readable saved
  · refine ⟨_, hread hmay, fun _ => entries_restored hcap.bounded hfull, fun hnot => absurd hmay hnot, ?_⟩
    rw [restored_eq_iff hcap.bounded hfull]
    refine ⟨fun hunbroken => .inr ⟨hmay, hunbroken⟩, ?_⟩
    rintro (hnil | ⟨-, hunbroken⟩)
    · simp [hempty.2 hnil]
    · exact hunbroken
  · refine ⟨_, hunread hmay, fun hread => absurd hread hmay, fun _ => rfl, ?_⟩
    refine Iff.trans (eq_iff_entries rfl rfl) ?_
    rw [← hempty]
    refine ⟨fun hnil => .inl hnil.symm, ?_⟩
    rintro (hnil | ⟨hreads, -⟩)
    · exact hnil.symm
    · exact absurd hreads hmay

/-- A tree with nothing in it. -/
def bareFiles : Files := ⟨⟨[]⟩, .ofLocation []⟩

theorem write_bareFiles (bytes : Bytes) : bareFiles.write barePath.text bytes = .ok (bareHolding bytes) := by
  have hresolve : bareFiles.tree.resolve (.ofLocation []) true ⟨true, ["h"], false⟩ = .ok (.vacant [] "h") :=
    resolve_barePath (Tree.walk_name rfl (by decide) (by decide) (by decide) (by decide))
  unfold Files.write Files.openForWriting
  rw [route_barePath]
  show ((bareFiles.tree.resolve (.ofLocation []) true ⟨true, ["h"], false⟩).mapError CallFault.system >>= _) >>= _ = _
  rw [hresolve]
  rfl

theorem save_bareFiles {h : History} (hfile : h.file = some barePath) :
    h.save bareFiles = .ok (bareHolding (Text.encode h.written), true) := by
  unfold save
  rw [hfile]
  dsimp only
  rw [write_bareFiles]

theorem load_bareHolding {h : History} (hfile : h.file = some barePath) (s : String) :
    h.load (bareHolding (Text.encode s)) = .ok (h.appendAll (linesOfText s.toList)) :=
  load_of_holdsText ⟨barePath, Entry.fileMode, hfile, leads_bareHolding _, by simp [Entry.readable, Entry.fileMode]⟩

theorem load_after_save_ls :
    (empty 10 (some barePath)).load (bareHolding (Text.encode "ls")) = .ok ⟨10, some barePath, ["ls"]⟩ := by
  have hlines : ∀ line ∈ ["ls"], line ≠ "" ∧ '\n' ∉ line.toList ∧ '\r' ∉ line.toList := by decide
  have hsave : ((empty 10 (some barePath)).appendAll ["ls"]).save bareFiles =
      .ok (bareHolding (Text.encode "ls"), true) := save_bareFiles rfl
  have hreadable : ((empty 10 (some barePath)).appendAll ["ls"]).Readable (bareHolding (Text.encode "ls")) :=
    ⟨barePath, _, rfl, leads_bareHolding _, rfl, rfl⟩
  have hunbroken : ∀ line ∈ ["ls"], Unbroken line := by decide
  obtain ⟨restored, hload, -, -, hsame⟩ := load_after_save (by decide) hlines rfl hsave
  rw [hload, hsame.2 (.inr ⟨hreadable, hunbroken⟩)]
  rfl

/-- A line with a line separator in it comes back as two lines. -/
theorem load_cuts_saved_line :
    ((empty 10 (some barePath)).appendAll ["echo a\u2028b"]).save bareFiles =
        .ok (bareHolding (Text.encode "echo a\u2028b"), true) ∧
      (empty 10 (some barePath)).load (bareHolding (Text.encode "echo a\u2028b")) =
        .ok ⟨10, some barePath, ["echo a", "b"]⟩ := by
  have hlines : linesOfText "echo a\u2028b".toList = ["echo a", "b"] := rfl
  refine ⟨save_bareFiles rfl, ?_⟩
  rw [load_bareHolding rfl, hlines]
  rfl

end History

end CommandShell
