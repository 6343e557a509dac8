import CommandShell.Proofs.History.Keeping

/-!
# A history file that is loaded and saved

Loading cuts a file into lines and leaves empty ones out, so what is saved afterwards holds a line between any two line
feeds and no other boundary. Such a history is loaded again as it is (`History.load_of_settled`), and saving it again
writes what is in the file already: after one round the file does not change any more (`History.load_save_settles`).
-/

namespace CommandShell.History

/-- Each entry is a line as it is loaded: it is not empty and holds no boundary. -/
def Settled (h : History) : Prop := ∀ line ∈ h.entries, line ≠ "" ∧ Unbroken line

/-- The lines that are loaded are the parts of the text, also before its newlines are made uniform. -/
theorem linesOfText_eq (cs : List Char) : linesOfText cs = (Text.fullParts cs).map String.ofList := by
  rw [← Text.fullParts_uniformNewlines, ← Text.fullLines_eq_fullParts]
  rfl

theorem settled_of_mem_linesOfText {cs : List Char} {line : String} (h : line ∈ linesOfText cs) :
    line ≠ "" ∧ Unbroken line := by
  obtain ⟨part, hpart, rfl⟩ := List.mem_map.1 h
  have hne : part.isEmpty = false := by simpa using (List.mem_filter.1 hpart).2
  constructor
  · intro hempty
    have hnil : part = [] := by simpa using congrArg String.toList hempty
    simp [hnil] at hne
  · intro c hc
    rw [String.toList_ofList] at hc
    exact Text.notBoundary_of_mem_fullLines hpart hc

/-- Loading into a fresh history settles it. -/
theorem settled_of_loaded (maxSize : Int) (file : Option Path) (cs : List Char) :
    ((empty maxSize file).appendAll (linesOfText cs)).Settled := by
  intro line hline
  rw [entries_appendAll_empty] at hline
  exact settled_of_mem_linesOfText (List.mem_of_mem_drop hline)

/-- A settled history is loaded again as it is from what was written of it. -/
theorem load_of_settled {h : History} (hbounded : h.Bounded) (hsettled : h.Settled) {files : Files}
    (htext : (empty h.maxSize h.file).HoldsText files (String.intercalate "\n" h.entries)) :
    (empty h.maxSize h.file).load files = .ok h := by
  have hfull : ∀ line ∈ h.entries, line ≠ "" ∧ '\r' ∉ line.toList := by
    intro line hline
    have hunbroken := (hsettled line hline).2
    refine ⟨(hsettled line hline).1, fun hreturn => ?_⟩
    exact absurd (hunbroken '\r' hreturn) (by decide)
  rw [load_of_holdsText htext, ← hbounded.written_eq]
  exact congrArg Except.ok ((restored_eq_iff hbounded hfull).2 fun line hline => (hsettled line hline).2)

/-- Writing to a file that holds a text leaves a file that holds the other text. -/
theorem HoldsText.write {h : History} {files saved : Files} {s : String} (htext : h.HoldsText files s) {path : Path}
    (hpath : h.file = some path) {t : String} (hwrite : files.write path.text (Text.encode t) = .ok saved) :
    h.HoldsText saved t := by
  obtain ⟨path', mode, hpath', hleads, hmode⟩ := htext
  obtain rfl := Option.some.inj (hpath.symm.trans hpath')
  exact ⟨path, mode, hpath, hleads.write hwrite, hmode⟩

/-- A fresh history that loads a text holds its last lines. What it then saves is loaded as the same history, and saving
that changes nothing more. -/
theorem load_save_settles {maxSize : Int} {file : Option Path} {files : Files} {s : String}
    (htext : (empty maxSize file).HoldsText files s) :
    ∃ h, (empty maxSize file).load files = .ok h ∧
      h.entries = ((Text.fullParts (Text.uniformNewlines s.toList)).map String.ofList).rtake maxSize.toNat ∧
      ∀ saved, h.save files = .ok (saved, true) →
        (empty maxSize file).HoldsText saved (String.intercalate "\n" h.entries) ∧
          (empty maxSize file).load saved = .ok h ∧ h.save saved = .ok (saved, true) := by
  obtain ⟨path, -, hpath, -, -⟩ := id htext
  obtain rfl : file = some path := hpath
  have hsettled := settled_of_loaded maxSize (some path) s.toList
  have hbounded := (bounded_empty maxSize (some path)).appendAll (linesOfText s.toList)
  have hentries := entries_appendAll_empty maxSize (some path) (linesOfText s.toList)
  have hmax : ((empty maxSize (some path)).appendAll (linesOfText s.toList)).maxSize = maxSize :=
    maxSize_appendAll _ _
  have hfile : ((empty maxSize (some path)).appendAll (linesOfText s.toList)).file = some path := file_appendAll _ _
  have hload := load_of_holdsText htext
  generalize (empty maxSize (some path)).appendAll (linesOfText s.toList) = h at *
  subst hmax
  refine ⟨h, hload, by rw [hentries, linesOfText_eq, Text.fullParts_uniformNewlines], fun saved hsave => ?_⟩
  have hwrite := (save_eq_saved_iff hfile).1 hsave
  have hsaved : (empty h.maxSize (some path)).HoldsText saved h.written := htext.write rfl hwrite
  rw [hbounded.written_eq] at hsaved
  refine ⟨hsaved, ?_, ?_⟩
  · have hagain := @load_of_settled h hbounded hsettled saved
    rw [hfile] at hagain
    exact hagain hsaved
  · rw [save_eq_saved_iff hfile, Files.write_write hwrite, hwrite]

/-- Of three lines with different ends, and an empty one among them, the last two stay. -/
theorem load_save_settles_mixed :
    (empty 2 (some barePath)).HoldsText (bareHolding (Text.encode "cd\r\nls\x0b\rpwd")) "cd\r\nls\x0b\rpwd" ∧
      (empty 2 (some barePath)).load (bareHolding (Text.encode "cd\r\nls\x0b\rpwd")) =
        .ok ⟨2, some barePath, ["ls", "pwd"]⟩ ∧
      (⟨2, some barePath, ["ls", "pwd"]⟩ : History).save (bareHolding (Text.encode "cd\r\nls\x0b\rpwd")) =
        .ok (bareHolding (Text.encode "ls\npwd"), true) ∧
      (empty 2 (some barePath)).load (bareHolding (Text.encode "ls\npwd")) =
        .ok ⟨2, some barePath, ["ls", "pwd"]⟩ ∧
      (⟨2, some barePath, ["ls", "pwd"]⟩ : History).save (bareHolding (Text.encode "ls\npwd")) =
        .ok (bareHolding (Text.encode "ls\npwd"), true) := by
  have htext : (empty 2 (some barePath)).HoldsText (bareHolding (Text.encode "cd\r\nls\x0b\rpwd"))
      "cd\r\nls\x0b\rpwd" :=
    ⟨barePath, Entry.fileMode, rfl, leads_bareHolding _, by simp [Entry.readable, Entry.fileMode]⟩
  have hsave : (⟨2, some barePath, ["ls", "pwd"]⟩ : History).save
      (bareHolding (Text.encode "cd\r\nls\x0b\rpwd")) = .ok (bareHolding (Text.encode "ls\npwd"), true) := by
    rw [save_eq_saved_iff rfl, Files.write_write (write_bareFiles _)]
    exact write_bareFiles _
  obtain ⟨h, hload, -, hagain⟩ := load_save_settles htext
  have hfresh : h = ⟨2, some barePath, ["ls", "pwd"]⟩ := by
    rw [load_bareHolding rfl] at hload
    exact (Except.ok.inj hload).symm
  subst hfresh
  obtain ⟨-, hsame, hstill⟩ := hagain _ hsave
  exact ⟨htext, hload, hsave, hsame, hstill⟩

end CommandShell.History
