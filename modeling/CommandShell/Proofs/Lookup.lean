/-!
# Looking up in lists of pairs

A list of pairs in which the pairs of one key are replaced by a new one, at its end, is looked up like the old list
everywhere else.
-/

namespace CommandShell

variable {α β : Type} [BEq α] [LawfulBEq α] [DecidableEq α]

theorem lookup_filter_ne (pairs : List (α × β)) (key other : α) :
    (pairs.filter (·.1 ≠ key)).lookup other = if other = key then none else pairs.lookup other := by
  induction pairs with
  | nil => simp
  | cons pair rest ih =>
    obtain ⟨k, value⟩ := pair
    by_cases hkey : k = key
    · rw [List.filter_cons_of_neg (by simpa using hkey), ih]
      split
      · rfl
      · next hne => rw [List.lookup_cons, beq_false_of_ne (by simpa [hkey] using hne)]
    · rw [List.filter_cons_of_pos (by simpa using hkey), List.lookup_cons, List.lookup_cons, ih]
      by_cases hother : other = k
      · simp [hother, hkey]
      · rw [beq_false_of_ne hother]

theorem lookup_replace (pairs : List (α × β)) (key other : α) (value : β) :
    (pairs.filter (·.1 ≠ key) ++ [(key, value)]).lookup other =
      if other = key then some value else pairs.lookup other := by
  rw [List.lookup_append, lookup_filter_ne, List.lookup_cons, List.lookup_nil]
  by_cases hother : other = key
  · simp [hother]
  · simp [hother, beq_false_of_ne hother]

end CommandShell
