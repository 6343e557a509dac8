import CommandShell.Plan.Reading
import CommandShell.Proofs.Text.Parts

/-!
# The segments of a line

Two equations say what the segments of every line are: a line without semicolons is one segment, trimmed, or none if
it is blank (`segments_of_notMem`), and a semicolon between two lines separates their segments (`segments_join`). What
holds of all lines follows from them, one semicolon at a time (`semicolon_induction`). The main statement is that the
segments are a normal form of their line: they are what can stand between semicolons, joined by semicolons they are
found again, and they keep every character of the line but its semicolons and blanks (`segments_normal_form`).
-/

namespace CommandShell

/-! ### The equations -/

/-- A line without semicolons is one segment, or none if it is blank. -/
theorem segments_of_notMem {line : String} (h : ';' ∉ line.toList) :
    segments line = if Text.trim line = "" then [] else [Text.trim line] := by
  have hblank : Text.trim line = "" ↔ Text.trimChars line.toList = [] := by
    rw [← Text.toList_trim, String.toList_eq_nil_iff]
  unfold segments
  rw [Text.splitAtChar_of_notMem h, List.map_singleton]
  by_cases hnil : Text.trimChars line.toList = []
  · rw [if_pos (hblank.2 hnil), hnil]
    rfl
  · rw [if_neg (mt hblank.1 hnil), List.filter_cons_of_pos (by simpa using hnil)]
    rfl

/-- The segments of two lines with a semicolon between them. -/
theorem segments_join (a b : String) : segments (a ++ ";" ++ b) = segments a ++ segments b := by
  have hchars : (a ++ ";" ++ b).toList = a.toList ++ ';' :: b.toList := by simp
  unfold segments
  rw [hchars, Text.splitAtChar_append_cons]
  simp only [List.map_append, List.filter_append]

/-- What holds of the lines without semicolons, and of two lines with a semicolon between them if it holds of both,
holds of every line. -/
theorem semicolon_induction {P : String → Prop} (single : ∀ line, ';' ∉ line.toList → P line)
    (join : ∀ a b, P a → P b → P (a ++ ";" ++ b)) (line : String) : P line := by
  by_cases h : ';' ∈ line.toList
  · -- up to its first semicolon the line holds none, and what stands behind that is shorter
    obtain ⟨before, after, hline, hnone⟩ := List.eq_append_cons_of_mem h
    have heq : line = String.ofList before ++ ";" ++ String.ofList after := by
      rw [← String.toList_inj, hline]
      simp
    have hlt : (String.ofList after).toList.length < line.toList.length := by
      rw [hline, String.toList_ofList, List.length_append, List.length_cons]
      omega
    rw [heq]
    exact join _ _ (single _ (by rwa [String.toList_ofList])) (semicolon_induction single join (String.ofList after))
  · exact single line h
termination_by line.toList.length

/-! ### What segments are -/

/-- A text that stands as a segment: it has characters, none of them a semicolon, and no blank at its ends. -/
structure IsSegment (s : String) : Prop where
  ne_empty : s ≠ ""
  trimmed : Text.Trimmed s.toList
  no_semicolon : ';' ∉ s.toList

theorem mem_segments_of_notMem {line segment : String} (h : ';' ∉ line.toList) :
    segment ∈ segments line ↔ segment = Text.trim line ∧ segment ≠ "" := by
  rw [segments_of_notMem h]
  split
  · next hblank => simp [hblank]
  · next hne =>
    rw [List.mem_singleton]
    exact ⟨fun he => ⟨he, he ▸ hne⟩, And.left⟩

theorem isSegment_of_mem_segments {line segment : String} (h : segment ∈ segments line) : IsSegment segment := by
  induction line using semicolon_induction with
  | single line hnone =>
    obtain ⟨rfl, hne⟩ := (mem_segments_of_notMem hnone).1 h
    refine ⟨hne, ?_, fun hc => ?_⟩
    · rw [Text.toList_trim]
      exact Text.trimmed_trimChars line.toList
    · rw [Text.toList_trim] at hc
      exact hnone ((Text.trimChars_within line.toList).subset hc)
  | join a b iha ihb =>
    rw [segments_join, List.mem_append] at h
    exact h.elim iha ihb

/-- The characters of a segment are characters of its line. -/
theorem mem_of_mem_segments {line segment : String} (h : segment ∈ segments line) {c : Char}
    (hc : c ∈ segment.toList) : c ∈ line.toList := by
  induction line using semicolon_induction with
  | single line hnone =>
    obtain ⟨rfl, -⟩ := (mem_segments_of_notMem hnone).1 h
    rw [Text.toList_trim] at hc
    exact (Text.trimChars_within line.toList).subset hc
  | join a b iha ihb =>
    rw [String.toList_append, String.toList_append, List.mem_append, List.mem_append]
    rw [segments_join, List.mem_append] at h
    exact h.elim (fun ha => .inl (.inl (iha ha))) fun hb => .inr (ihb hb)

theorem IsSegment.segments_eq {s : String} (h : IsSegment s) : segments s = [s] := by
  rw [segments_of_notMem h.no_semicolon, Text.trim_of_trimmed h.trimmed, if_neg h.ne_empty]

/-! ### Lines joined by semicolons -/

/-- The segments of any number of lines with semicolons between them. -/
theorem segments_intercalate (lines : List String) :
    segments (String.intercalate ";" lines) = lines.flatMap segments := by
  induction lines with
  | nil => rfl
  | cons line lines ih =>
    cases lines with
    | nil => simp
    | cons next lines =>
      rw [String.intercalate_cons_cons, segments_join, ih]
      exact List.flatMap_cons.symm

theorem segments_intercalate_eq_self_iff {texts : List String} :
    segments (String.intercalate ";" texts) = texts ↔ ∀ s ∈ texts, IsSegment s := by
  constructor
  · intro h s hs
    rw [← h] at hs
    exact isSegment_of_mem_segments hs
  · intro h
    rw [segments_intercalate]
    -- every text gives one segment, itself
    calc texts.flatMap segments
        = texts.flatMap fun s => [s] := List.flatMap_congr fun s hs => (h s hs).segments_eq
      _ = texts := List.flatMap_singleton' texts

/-! ### What segments keep -/

/-- The characters of a text that are neither blanks nor semicolons. -/
def commandChars (s : String) : List Char := s.toList.filter fun c => !Text.isBlank c && c != ';'

theorem commandChars_append (a b : String) : commandChars (a ++ b) = commandChars a ++ commandChars b := by
  unfold commandChars
  rw [String.toList_append, List.filter_append]

theorem commandChars_trim (s : String) : commandChars (Text.trim s) = commandChars s := by
  unfold commandChars
  rw [Text.toList_trim]
  exact Text.filter_trimChars (fun c hc => by simp [hc]) s.toList

theorem commandChars_segments (line : String) : commandChars (String.join (segments line)) = commandChars line := by
  induction line using semicolon_induction with
  | single line hnone =>
    rw [segments_of_notMem hnone, ← commandChars_trim line]
    split
    · next hblank => rw [hblank]; rfl
    · rw [String.join_cons]
      simp
  | join a b iha ihb =>
    have hsemicolon : commandChars ";" = [] := by decide
    rw [segments_join, String.join_append, commandChars_append, iha, ihb, commandChars_append, commandChars_append,
      hsemicolon, List.append_nil]

/-- Cutting a line into segments is a normal form that loses no text. The segments have characters, no semicolon and
no blank at their ends. The segments of two lines with a semicolon between them are those of the one and then those of
the other. Joined by semicolons, texts are found again as the segments exactly if they can stand as segments, and so
the segments of a line always are. All characters but blanks and semicolons are kept, in their order. -/
theorem segments_normal_form (line a b : String) (texts : List String) :
    (∀ s ∈ segments line, IsSegment s) ∧
      segments (a ++ ";" ++ b) = segments a ++ segments b ∧
      (segments (String.intercalate ";" texts) = texts ↔ ∀ s ∈ texts, IsSegment s) ∧
      segments (String.intercalate ";" (segments line)) = segments line ∧
      commandChars (String.join (segments line)) = commandChars line := by
  have hsegments : ∀ s ∈ segments line, IsSegment s := fun _ h => isSegment_of_mem_segments h
  exact ⟨hsegments, segments_join a b, segments_intercalate_eq_self_iff,
    segments_intercalate_eq_self_iff.2 hsegments, commandChars_segments line⟩

example : segments " ls ;; echo a\u2003b;\t;cd .. \u00a0" = ["ls", "echo a\u2003b", "cd .."] := by decide +kernel

end CommandShell
