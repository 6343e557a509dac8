import CommandShell.Files.Walk
import CommandShell.Path
import CommandShell.Proofs.Text.Parts

/-!
# The null character in paths

A text that holds the null character is no path to the system (`Route.ofText_eq_embeddedNull_iff`), and reading a path
and writing it again does not take the character away (`Path.holdsNull_text_ofText_iff`).
-/

namespace CommandShell

/-- A text holds the null character. -/
def Text.HoldsNull (s : String) : Prop := Char.ofNat 0 ∈ s.toList

theorem Path.holdsNull_text_iff (p : Path) :
    Text.HoldsNull p.text ↔ ∃ name ∈ p.names, Text.HoldsNull name := by
  have hroot : Char.ofNat 0 ∉ p.root.text.toList := by cases p.root <;> decide
  have hwritten : Text.HoldsNull (p.root.text ++ String.intercalate "/" p.names) ↔
      ∃ name ∈ p.names, Text.HoldsNull name := by
    unfold Text.HoldsNull
    rw [String.toList_append, List.mem_append, String.toList_intercalate]
    constructor
    · rintro (h | h)
      · exact absurd h hroot
      · rcases Text.mem_of_mem_intercalate h with hsep | ⟨w, hw, hc⟩
        · exact absurd hsep (by decide)
        · obtain ⟨name, hname, rfl⟩ := List.mem_map.1 hw
          exact ⟨name, hname, hc⟩
    · rintro ⟨name, hname, hc⟩
      exact .inr (Text.mem_intercalate_of_mem _ (List.mem_map_of_mem hname) hc)
  rw [← hwritten]
  unfold text
  dsimp only
  split
  · next hempty =>
    rw [String.isEmpty_iff.1 hempty]
    unfold Text.HoldsNull
    decide
  · rfl

/-- A null character stays when a path is read. -/
theorem Path.holdsNull_text_ofText_iff (s : String) : Text.HoldsNull (ofText s).text ↔ Text.HoldsNull s := by
  rw [holdsNull_text_iff]
  constructor
  · rintro ⟨name, hname, hc⟩
    obtain ⟨hpart, -⟩ := List.mem_filter.1 hname
    obtain ⟨part, hmem, rfl⟩ := List.mem_map.1 hpart
    have hc' : Char.ofNat 0 ∈ part := by simpa [Text.HoldsNull] using hc
    exact (Text.mem_splitAtChar (List.mem_filter.1 hmem).1).1.subset hc'
  · intro h
    obtain ⟨part, hmem, hc⟩ := Text.exists_mem_splitAtChar (show Char.ofNat 0 ≠ '/' by decide) h
    -- A part with the null character is neither empty nor a single dot, so it is a name.
    have hne : part ≠ [] := List.ne_nil_of_mem hc
    have hdot : String.ofList part ≠ "." := by
      intro he
      have hpart : part = ['.'] := by simpa using congrArg String.toList he
      rw [hpart] at hc
      exact absurd hc (by decide)
    refine ⟨String.ofList part, List.mem_filter.2 ⟨List.mem_map.2 ⟨part, ?_, rfl⟩, by simpa using hdot⟩, ?_⟩
    · exact List.mem_filter.2 ⟨hmem, by simpa using hne⟩
    · simpa [Text.HoldsNull] using hc

theorem Route.ofText_eq_embeddedNull_iff {s : String} : ofText s = .error .embeddedNull ↔ Text.HoldsNull s := by
  unfold ofText
  split
  · next h => simpa [Text.HoldsNull] using h
  · next h =>
    have hnot : ¬ Text.HoldsNull s := by simpa [Text.HoldsNull] using h
    split
    · simpa
    · split <;> simpa

end CommandShell
