import CommandShell.History
import Mathlib.Data.List.DropRight

/-!
# The entries of a history

Whatever its cap, a history that is within it and to which lines are added holds the last ones of what it held and of
what was added, as many as the cap admits (`History.Bounded.entries_appendAll`), and writes all that it holds
(`History.Bounded.written_eq`).
-/

namespace CommandShell.History

theorem appendAll_cons (h : History) (line : String) (lines : List String) :
    h.appendAll (line :: lines) = (h.append line).appendAll lines := rfl

theorem appendAll_append (h : History) (lines more : List String) :
    h.appendAll (lines ++ more) = (h.appendAll lines).appendAll more := List.foldl_append ..

@[simp] theorem maxSize_append (h : History) (line : String) : (h.append line).maxSize = h.maxSize := rfl

@[simp] theorem file_append (h : History) (line : String) : (h.append line).file = h.file := rfl

@[simp] theorem maxSize_appendAll (h : History) (lines : List String) : (h.appendAll lines).maxSize = h.maxSize := by
  induction lines generalizing h with
  | nil => rfl
  | cons line lines ih => rw [appendAll_cons, ih, maxSize_append]

@[simp] theorem file_appendAll (h : History) (lines : List String) : (h.appendAll lines).file = h.file := by
  induction lines generalizing h with
  | nil => rfl
  | cons line lines ih => rw [appendAll_cons, ih, file_append]

theorem entries_append (h : History) (line : String) :
    (h.append line).entries = (h.entries ++ [line]).rtake h.maxSize.toNat := by
  have hlength : (h.entries ++ [line]).length = h.entries.length + 1 := by simp
  unfold append List.rtake
  dsimp only
  by_cases hmax : 0 ≤ h.maxSize
  · congr 1
    omega
  · -- More is dropped than there is.
    rw [List.drop_eq_nil_of_le (by omega), List.drop_eq_nil_of_le (by omega)]

private theorem rtake_rtake_append {α : Type} (n : Nat) (xs ys : List α) :
    (xs.rtake n ++ ys).rtake n = (xs ++ ys).rtake n := by
  simp only [List.rtake_eq_reverse_take_reverse, List.reverse_append, List.reverse_reverse, List.take_append,
    List.take_take]
  congr 3
  omega

/-- Histories that are kept in the same way are told apart by their entries. -/
theorem eq_iff_entries {h other : History} (hsize : h.maxSize = other.maxSize) (hfile : h.file = other.file) :
    h = other ↔ h.entries = other.entries := by
  obtain ⟨size, file, entries⟩ := h
  obtain ⟨size', file', entries'⟩ := other
  obtain rfl : size = size' := hsize
  obtain rfl : file = file' := hfile
  simp

/-- There are no more entries than the cap admits. -/
def Bounded (h : History) : Prop := h.entries.length ≤ h.maxSize.toNat

theorem bounded_empty (maxSize : Int) (file : Option Path) : (empty maxSize file).Bounded := Nat.zero_le _

theorem bounded_append (h : History) (line : String) : (h.append line).Bounded := by
  unfold Bounded
  rw [entries_append, maxSize_append, List.rtake, List.length_drop]
  omega

section Bounded

variable {h : History}

theorem Bounded.appendAll (hb : h.Bounded) (lines : List String) : (h.appendAll lines).Bounded := by
  induction lines generalizing h with
  | nil => exact hb
  | cons line lines ih => exact ih (bounded_append h line)

theorem Bounded.rtake_entries (hb : h.Bounded) : h.entries.rtake h.maxSize.toNat = h.entries := by
  unfold List.rtake
  rw [Nat.sub_eq_zero_of_le hb, List.drop_zero]

/-- The last lines of what was held and of what was added. -/
theorem Bounded.entries_appendAll (hb : h.Bounded) (lines : List String) :
    (h.appendAll lines).entries = (h.entries ++ lines).rtake h.maxSize.toNat := by
  induction lines generalizing h with
  | nil => rw [List.append_nil, hb.rtake_entries]; rfl
  | cons line lines ih =>
    rw [appendAll_cons, ih (bounded_append h line), entries_append, maxSize_append, rtake_rtake_append,
      List.append_assoc, List.singleton_append]

theorem entries_appendAll_empty (maxSize : Int) (file : Option Path) (lines : List String) :
    ((empty maxSize file).appendAll lines).entries = lines.rtake maxSize.toNat :=
  (bounded_empty maxSize file).entries_appendAll lines

/-- What is cut off from the front for the file is nothing: a cap below one has left no entries. -/
theorem Bounded.fromPosition_eq (hb : h.Bounded) : fromPosition (-h.maxSize) h.entries = h.entries := by
  unfold Bounded at hb
  unfold fromPosition
  split
  · have hall : ((h.entries.length : Int) + -h.maxSize).toNat = 0 := by omega
    rw [hall, List.drop_zero]
  · have hnone : h.entries = [] := List.length_eq_zero_iff.1 (by omega)
    rw [hnone, List.drop_nil]

/-- All entries are written. -/
theorem Bounded.written_eq (hb : h.Bounded) : h.written = String.intercalate "\n" h.entries := by
  unfold written
  rw [hb.fromPosition_eq]

end Bounded

/-- A history with a cap of at least one is within it. -/
def Capped (h : History) : Prop := 1 ≤ h.maxSize ∧ h.entries.length ≤ h.maxSize.toNat

theorem Capped.bounded {h : History} (hcap : h.Capped) : h.Bounded := hcap.2

theorem capped_empty {maxSize : Int} (hmax : 1 ≤ maxSize) (file : Option Path) : (empty maxSize file).Capped :=
  ⟨hmax, Nat.zero_le _⟩

theorem Capped.appendAll {h : History} (hcap : h.Capped) (lines : List String) : (h.appendAll lines).Capped :=
  ⟨(maxSize_appendAll h lines).symm ▸ hcap.1, hcap.bounded.appendAll lines⟩

theorem entries_appendAll {h : History} (hcap : h.Capped) (lines : List String) :
    (h.appendAll lines).entries = (h.entries ++ lines).rtake h.maxSize.toNat :=
  hcap.bounded.entries_appendAll lines

end CommandShell.History
