import CommandShell.Proofs.History.Entries
import CommandShell.Proofs.History.Loading

/-!
# Capped and numbered lines

A fresh history to which lines are added keeps the last of them, shows its last entries under the positions that end
with their number, and writes just these entries to its file, for every cap, those below one included
(`History.keepsLast_appendAll`). The positions that are shown come from the front: a lower limit leaves out the first
ones (`History.tail_suffix`).
-/

namespace CommandShell.History

/-- How many entries a limit lets through. -/
def admitted (h : History) : Option Int → Nat
  | none => h.entries.length
  | some limit => min limit.toNat h.entries.length

theorem admitted_le (h : History) (limit : Option Int) : h.admitted limit ≤ h.entries.length := by
  cases limit with
  | none => exact Nat.le_refl _
  | some limit => exact Nat.min_le_right _ _

theorem numberedFrom_eq_zip (first : Nat) (lines : List String) :
    numberedFrom first lines = (List.range' first lines.length).zip lines := by
  induction lines generalizing first with
  | nil => rfl
  | cons line lines ih =>
    rw [numberedFrom, ih, List.length_cons, List.range'_succ, List.zip_cons_cons]

theorem numberedFrom_append (first : Nat) (lines more : List String) :
    numberedFrom first (lines ++ more) = numberedFrom first lines ++ numberedFrom (first + lines.length) more := by
  induction lines generalizing first with
  | nil => simp [numberedFrom]
  | cons line lines ih =>
    have hnext : first + (line :: lines).length = first + 1 + lines.length := by simp; omega
    rw [List.cons_append, numberedFrom, numberedFrom, ih, hnext, List.cons_append]

/-- The last entries, numbered so that the last one has the number of all of them. -/
theorem tail_eq_numberedFrom (h : History) (limit : Option Int) :
    h.tail limit =
      numberedFrom (h.entries.length - h.admitted limit + 1) (h.entries.rtake (h.admitted limit)) := by
  -- The number that is wanted may be negative; as a natural number it is the number admitted.
  have hcut : ∀ wanted : Int, wanted.toNat = h.admitted limit →
      (if wanted ≤ 0 then [] else
        numberedFrom (h.entries.length - wanted.toNat + 1) (h.entries.drop (h.entries.length - wanted.toNat))) =
      numberedFrom (h.entries.length - h.admitted limit + 1) (h.entries.rtake (h.admitted limit)) := by
    intro wanted hwanted
    rw [hwanted]
    split
    · have hzero : h.admitted limit = 0 := by omega
      rw [hzero, List.rtake_zero]
      rfl
    · rfl
  unfold tail
  refine hcut _ ?_
  cases limit with
  | none => simp [admitted]
  | some limit =>
    unfold admitted
    dsimp only
    split <;> omega

theorem tail_suffix (h : History) (limit : Option Int) : h.tail limit <:+ h.tail none := by
  have hle := h.admitted_le limit
  have hlength : (h.entries.take (h.entries.length - h.admitted limit)).length =
      h.entries.length - h.admitted limit := by
    rw [List.length_take]
    omega
  have hall : h.tail none = numberedFrom 1 h.entries := by
    rw [tail_eq_numberedFrom]
    simp [admitted, List.rtake]
  refine ⟨numberedFrom 1 (h.entries.take (h.entries.length - h.admitted limit)), ?_⟩
  rw [hall, tail_eq_numberedFrom, List.rtake]
  conv_rhs => rw [← List.take_append_drop (h.entries.length - h.admitted limit) h.entries]
  rw [numberedFrom_append, hlength, Nat.add_comm 1]

/-- Loading adds lines, or none. -/
theorem exists_of_load {h loaded : History} {files : Files} (hload : h.load files = .ok loaded) :
    ∃ lines, loaded = h.appendAll lines := by
  rcases load_cases h files with ⟨m, hfault⟩ | ⟨s, htext⟩ | hsame
  · rw [hfault.load] at hload
    cases hload
  · rw [load_of_holdsText htext] at hload
    exact ⟨_, (Except.ok.inj hload).symm⟩
  · rw [hsame] at hload
    exact ⟨[], (Except.ok.inj hload).symm⟩

/-- What a fresh history becomes when lines are added to it and files are loaded, in any order. -/
inductive Reached (maxSize : Int) (file : Option Path) : History → Prop where
  | fresh : Reached maxSize file (empty maxSize file)
  | append {h : History} (line : String) : Reached maxSize file h → Reached maxSize file (h.append line)
  | load {h loaded : History} {files : Files} :
    Reached maxSize file h → h.load files = .ok loaded → Reached maxSize file loaded

theorem Reached.exists_appendAll {maxSize : Int} {file : Option Path} {h : History} (hr : Reached maxSize file h) :
    ∃ lines, h = (empty maxSize file).appendAll lines := by
  induction hr with
  | fresh => exact ⟨[], rfl⟩
  | append line _ ih =>
    obtain ⟨lines, rfl⟩ := ih
    exact ⟨lines ++ [line], (appendAll_append _ lines [line]).symm⟩
  | load _ hload ih =>
    obtain ⟨lines, rfl⟩ := ih
    obtain ⟨more, rfl⟩ := exists_of_load hload
    exact ⟨lines ++ more, (appendAll_append _ lines more).symm⟩

/-- What a history keeps, shows and writes of the lines that were added to it. -/
structure KeepsLast (maxSize : Int) (lines : List String) (h : History) : Prop where
  entries : h.entries = lines.rtake maxSize.toNat
  tail : ∀ limit, h.tail limit =
    (List.range' (h.entries.length - h.admitted limit + 1) (h.admitted limit)).zip
      (h.entries.rtake (h.admitted limit))
  suffix : ∀ limit, h.tail limit <:+ h.tail none
  /-- The cut that is made before writing keeps every entry, and each once. -/
  uncut : fromPosition (-maxSize) h.entries = h.entries
  saved : ∀ path, h.file = some path → ∀ files saved,
    h.save files = .ok (saved, true) ↔
      files.write path.text (Text.encode (String.intercalate "\n" h.entries)) = .ok saved

/-- Whatever the cap, a fresh history keeps the last of the lines that are added to it; and so does every history that
is reached by adding lines and loading files. -/
theorem keepsLast_appendAll (maxSize : Int) (file : Option Path) :
    (∀ lines, KeepsLast maxSize lines ((empty maxSize file).appendAll lines)) ∧
      ∀ h, Reached maxSize file h → ∃ lines, KeepsLast maxSize lines h := by
  have hkeeps : ∀ lines, KeepsLast maxSize lines ((empty maxSize file).appendAll lines) := by
    intro lines
    have hbounded := (bounded_empty maxSize file).appendAll lines
    have hmax : ((empty maxSize file).appendAll lines).maxSize = maxSize := maxSize_appendAll _ lines
    refine ⟨entries_appendAll_empty maxSize file lines, fun limit => ?_, tail_suffix _, ?_, ?_⟩
    · have hlength := admitted_le ((empty maxSize file).appendAll lines) limit
      rw [tail_eq_numberedFrom, numberedFrom_eq_zip, List.rtake, List.length_drop, Nat.sub_sub_self hlength]
    · have huncut := hbounded.fromPosition_eq
      rwa [hmax] at huncut
    · intro path hpath files saved
      rw [← hbounded.written_eq]
      exact save_eq_saved_iff hpath
  refine ⟨hkeeps, fun h hreached => ?_⟩
  obtain ⟨lines, rfl⟩ := hreached.exists_appendAll
  exact ⟨lines, hkeeps lines⟩

end CommandShell.History
