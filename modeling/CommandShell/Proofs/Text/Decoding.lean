import CommandShell.Text.Utf8
import Mathlib.Data.List.Infix

/-!
# Decoding octets

What octets read as, told without a machine (`Text.Reads`): one character after another, and wherever no character
follows, the longest run of octets that begins one is given up, or a single octet if none begins one. Reading octet by
octet finds the same (`Text.reads_scan`), and keeps back, at any moment, the longest run of octets at the end that
begins a character (`Decoder.run_eq_scan_done`). So it makes no difference into which pieces the octets are cut
(`Text.decodePieces_reads`).

The octets of a character are those of `String.utf8EncodeChar`. What a first octet says of those that follow is worked
out once, in both directions (`Decoder.encodeChar_eq_cons` and `Decoder.encodeChar_of_start`); everything else is said
of the octets that have been read since the last character (`Decoder.Stands`).
-/

namespace CommandShell.Text

open String (utf8EncodeChar)

/-- Octets that begin a character and do not complete it. -/
def Begins (part : Bytes) : Prop := ∃ c tail, tail ≠ [] ∧ utf8EncodeChar c = part ++ tail

/-- A part of some octets, before a rest, is given up as one. -/
structure GivenUp (part rest : Bytes) : Prop where
  ne_nil : part ≠ []
  no_char : ∀ c, ¬ utf8EncodeChar c <+: part ++ rest
  begins : part.length = 1 ∨ Begins part
  longest : ∀ longer, longer <+: part ++ rest → Begins longer → longer.length ≤ part.length

/-- No part that is given up is longer than another in the same place. -/
theorem GivenUp.length_le {part rest part' rest' : Bytes} (h : GivenUp part rest) (h' : GivenUp part' rest')
    (hpre : part' <+: part ++ rest) : part'.length ≤ part.length := by
  rcases h'.begins with hone | hbegins
  · have := List.length_pos_iff.2 h.ne_nil
    omega
  · exact h.longest part' hpre hbegins

/-- Some octets read as characters, with `none` for each part that is given up. -/
inductive Reads : Bytes → List (Option Char) → Prop where
  | nil : Reads [] []
  | char (c : Char) {rest : Bytes} {found : List (Option Char)} :
    Reads rest found → Reads (utf8EncodeChar c ++ rest) (some c :: found)
  | givenUp {part rest : Bytes} {found : List (Option Char)} :
    GivenUp part rest → Reads rest found → Reads (part ++ rest) (none :: found)

namespace Decoder

/-! ### The octets of a character -/

/-- Octets that complete a character: as many as are owed, of which the first has bounds of its own. -/
def Fits : Nat → Nat → Nat → Bytes → Prop
  | 0, _, _, tail => tail = []
  | owed + 1, low, high, tail =>
    ∃ b rest, tail = b :: rest ∧ (low ≤ b.toNat ∧ b.toNat ≤ high) ∧ Fits owed 0x80 0xBF rest

/-- The bits of a character with those of further octets behind them. -/
def extend (bits : Nat) (tail : Bytes) : Nat := tail.foldl (fun v b => v * 64 + (b.toNat - 0x80)) bits

theorem toNat_ofNat {n : Nat} (h : n < 0xD800 ∨ 0xDFFF < n ∧ n < 0x110000) : (Char.ofNat n).toNat = n := by
  unfold Char.ofNat
  rw [dif_pos h]
  rfl

private theorem eq_ofNat {c : Char} {n : Nat} (h : n = c.toNat) : c = Char.ofNat n := by
  rw [h, Char.ofNat_toNat]

private theorem octet_eq {b : UInt8} {n : Nat} (h : n % 256 = b.toNat) : UInt8.ofNat n = b :=
  UInt8.toNat_inj.1 (by simpa using h)

/-- The first octet of a character says how it goes on. -/
theorem encodeChar_eq_cons {b : UInt8} {tail : Bytes} {c : Char} (h : utf8EncodeChar c = b :: tail) :
    (start b = ([some c], idle) ∧ tail = []) ∨
      ∃ bits owed low high, start b = ([], within bits owed low high) ∧ Fits owed low high tail ∧
        c = Char.ofNat (extend bits tail) := by
  have hc : c.toNat < 0xD800 ∨ 0xDFFF < c.toNat ∧ c.toNat < 0x110000 := c.valid
  unfold utf8EncodeChar at h
  simp only [Char.toNat_val] at h
  -- One, two, three or four octets; the first has an offset of its own, so it tells the four apart.
  split at h
  · obtain ⟨rfl, rfl⟩ := List.cons.inj h
    have hb : (UInt8.ofNat c.toNat).toNat = c.toNat := by simp; omega
    refine .inl ⟨?_, rfl⟩
    unfold start
    rw [hb, if_pos (by omega), Char.ofNat_toNat]
  right
  split at h
  · obtain ⟨hb, rfl⟩ := List.cons.inj h
    have hb' := congrArg UInt8.toNat hb
    simp only [UInt8.toNat_ofNat'] at hb'
    unfold start
    dsimp only
    rw [if_neg (by omega), if_pos (by omega)]
    refine ⟨_, _, _, _, rfl, ⟨_, _, rfl, by simp; omega, rfl⟩, eq_ofNat ?_⟩
    simp [extend]
    omega
  split at h
  · obtain ⟨hb, rfl⟩ := List.cons.inj h
    have hb' := congrArg UInt8.toNat hb
    simp only [UInt8.toNat_ofNat'] at hb'
    unfold start
    dsimp only
    rw [if_neg (by omega), if_neg (by omega)]
    repeat' split
    all_goals first | (exfalso; omega) | skip
    all_goals
      refine ⟨_, _, _, _, rfl, ⟨_, _, rfl, by simp; omega, _, _, rfl, by simp; omega, rfl⟩, eq_ofNat ?_⟩
      simp [extend]
      omega
  · obtain ⟨hb, rfl⟩ := List.cons.inj h
    have hb' := congrArg UInt8.toNat hb
    simp only [UInt8.toNat_ofNat'] at hb'
    unfold start
    dsimp only
    rw [if_neg (by omega), if_neg (by omega), if_neg (by omega), if_neg (by omega), if_neg (by omega)]
    repeat' split
    all_goals first | (exfalso; omega) | skip
    all_goals
      refine ⟨_, _, _, _, rfl,
        ⟨_, _, rfl, by simp; omega, _, _, rfl, by simp; omega, _, _, rfl, by simp; omega, rfl⟩, eq_ofNat ?_⟩
      simp [extend]
      omega

/-- The bounds that a first octet sets: they leave out what a shorter form could say, the surrogates, and what is
beyond the last character. -/
theorem bounds_of_start {b : UInt8} {bits owed low high : Nat} (h : start b = ([], within bits owed low high)) :
    0x80 ≤ low ∧ low ≤ high ∧ high ≤ 0xBF ∧
    (owed = 1 ∧ b.toNat = 0xC0 + bits ∧ 2 ≤ bits ∧ bits < 32 ∨
      owed = 2 ∧ b.toNat = 0xE0 + bits ∧ bits < 16 ∧ (bits = 0 → 0xA0 ≤ low) ∧ (bits = 0xD → high ≤ 0x9F) ∨
      owed = 3 ∧ b.toNat = 0xF0 + bits ∧ bits ≤ 4 ∧ (bits = 0 → 0x90 ≤ low) ∧ (bits = 4 → high ≤ 0x8F)) := by
  unfold start at h
  dsimp only at h
  repeat' split at h
  all_goals
    simp only [Prod.mk.injEq, within.injEq, reduceCtorEq, and_false, List.cons_ne_self, true_and] at h
  all_goals
    obtain ⟨rfl, rfl, rfl, rfl⟩ := h
    omega

/-- A first octet and octets that fit are the octets of a character. -/
theorem encodeChar_of_start {b : UInt8} {bits owed low high : Nat} (h : start b = ([], within bits owed low high))
    {tail : Bytes} (hfits : Fits owed low high tail) : utf8EncodeChar (Char.ofNat (extend bits tail)) = b :: tail := by
  obtain ⟨hlow, -, hhigh, ⟨rfl, hb, h2, h32⟩ | ⟨rfl, hb, hlt, hl, hh⟩ | ⟨rfl, hb, hlt, hl, hh⟩⟩ := bounds_of_start h
  · obtain ⟨x, _, rfl, hx, rfl⟩ := hfits
    have hn : extend bits [x] = bits * 64 + (x.toNat - 0x80) := rfl
    generalize extend bits [x] = n at hn
    unfold utf8EncodeChar
    simp only [Char.toNat_val, toNat_ofNat (n := n) (by omega)]
    rw [if_neg (by omega), if_pos (by omega), octet_eq (b := b) (by omega), octet_eq (b := x) (by omega)]
  · obtain ⟨x, _, rfl, hx, y, _, rfl, hy, rfl⟩ := hfits
    have hn : extend bits [x, y] = (bits * 64 + (x.toNat - 0x80)) * 64 + (y.toNat - 0x80) := rfl
    generalize extend bits [x, y] = n at hn
    unfold utf8EncodeChar
    simp only [Char.toNat_val, toNat_ofNat (n := n) (by omega)]
    rw [if_neg (by omega), if_neg (by omega), if_pos (by omega), octet_eq (b := b) (by omega),
      octet_eq (b := x) (by omega), octet_eq (b := y) (by omega)]
  · obtain ⟨x, _, rfl, hx, y, _, rfl, hy, z, _, rfl, hz, rfl⟩ := hfits
    have hn : extend bits [x, y, z] =
      ((bits * 64 + (x.toNat - 0x80)) * 64 + (y.toNat - 0x80)) * 64 + (z.toNat - 0x80) := rfl
    generalize extend bits [x, y, z] = n at hn
    unfold utf8EncodeChar
    simp only [Char.toNat_val, toNat_ofNat (n := n) (by omega)]
    rw [if_neg (by omega), if_neg (by omega), if_neg (by omega), octet_eq (b := b) (by omega),
      octet_eq (b := x) (by omega), octet_eq (b := y) (by omega), octet_eq (b := z) (by omega)]

/-- An octet of its own is a whole character, or begins one, or belongs to none. -/
theorem start_cases (b : UInt8) :
    (∃ c, start b = ([some c], idle) ∧ utf8EncodeChar c = [b]) ∨
    (∃ bits owed low high, start b = ([], within bits owed low high)) ∨ start b = ([none], idle) := by
  by_cases hb : b.toNat < 0x80
  · left
    have hc : (Char.ofNat b.toNat).toNat = b.toNat := toNat_ofNat (by omega)
    refine ⟨Char.ofNat b.toNat, by unfold start; rw [if_pos hb], ?_⟩
    unfold utf8EncodeChar
    simp only [Char.toNat_val, hc]
    rw [if_pos (by omega), octet_eq (b := b) (by omega)]
  · right
    unfold start
    dsimp only
    rw [if_neg hb]
    repeat' split
    all_goals first | exact .inl ⟨_, _, _, _, rfl⟩ | exact .inr rfl

theorem Fits.length_eq {owed low high : Nat} {tail : Bytes} (h : Fits owed low high tail) : tail.length = owed := by
  induction owed generalizing low high tail with
  | zero => exact congrArg List.length h
  | succ owed ih =>
    obtain ⟨b, rest, rfl, -, hrest⟩ := h
    exact congrArg (· + 1) (ih hrest)

theorem exists_fits (owed : Nat) {low high : Nat} (h : low ≤ high) (hhigh : high ≤ 0xBF) :
    ∃ tail, Fits owed low high tail := by
  induction owed generalizing low high with
  | zero => exact ⟨[], rfl⟩
  | succ owed ih =>
    obtain ⟨rest, hrest⟩ := ih (show 0x80 ≤ 0xBF by decide) le_rfl
    have hlow : (UInt8.ofNat low).toNat = low := by simp; omega
    exact ⟨UInt8.ofNat low :: rest, _, _, rfl, by omega, hrest⟩

/-- The octets of a character do not begin those of another. -/
theorem encodeChar_prefix_free {c c' : Char} {xs ys : Bytes}
    (h : utf8EncodeChar c ++ xs = utf8EncodeChar c' ++ ys) : c = c' ∧ xs = ys := by
  obtain ⟨b, tail, hc⟩ := List.exists_cons_of_ne_nil (String.utf8EncodeChar_ne_nil (c := c))
  obtain ⟨b', tail', hc'⟩ := List.exists_cons_of_ne_nil (String.utf8EncodeChar_ne_nil (c := c'))
  rw [hc, hc', List.cons_append, List.cons_append] at h
  obtain ⟨rfl, hrest⟩ := List.cons.inj h
  rcases encodeChar_eq_cons hc with ⟨hs, rfl⟩ | ⟨bits, owed, low, high, hs, hfits, heq⟩
  · rcases encodeChar_eq_cons hc' with ⟨hs', rfl⟩ | ⟨_, _, _, _, hs', -⟩
    · rw [hs] at hs'
      simp_all
    · simp [hs] at hs'
  · rcases encodeChar_eq_cons hc' with ⟨hs', -⟩ | ⟨_, _, _, _, hs', hfits', heq'⟩
    · simp [hs] at hs'
    · rw [hs] at hs'
      simp only [Prod.mk.injEq, within.injEq, true_and] at hs'
      obtain ⟨rfl, rfl, rfl, rfl⟩ := hs'
      have hlength : tail.length = tail'.length := hfits.length_eq.trans hfits'.length_eq.symm
      obtain ⟨rfl, rfl⟩ := List.append_inj hrest hlength
      exact ⟨heq.trans heq'.symm, rfl⟩

/-! ### Where reading stands -/

/-- Where reading stands when some octets have been read since the last character. -/
def Stands : Decoder → Bytes → Prop
  | idle, kept => kept = []
  | within bits owed low high, kept =>
    kept ≠ [] ∧ 0 < owed ∧ 0x80 ≤ low ∧ low ≤ high ∧ high ≤ 0xBF ∧
      ∀ c tail, utf8EncodeChar c = kept ++ tail ↔ Fits owed low high tail ∧ c = Char.ofNat (extend bits tail)

theorem stands_start {b : UInt8} {bits owed low high : Nat} (h : start b = ([], within bits owed low high)) :
    Stands (within bits owed low high) [b] := by
  obtain ⟨hlow, hle, hhigh, howed⟩ := bounds_of_start h
  refine ⟨List.cons_ne_nil _ _, by omega, hlow, hle, hhigh, fun c tail => ?_⟩
  constructor
  · intro hc
    rcases encodeChar_eq_cons hc with ⟨hs, -⟩ | ⟨_, _, _, _, hs, hfits, heq⟩
    · simp [h] at hs
    · rw [h] at hs
      simp only [Prod.mk.injEq, within.injEq, true_and] at hs
      obtain ⟨rfl, rfl, rfl, rfl⟩ := hs
      exact ⟨hfits, heq⟩
  · rintro ⟨hfits, rfl⟩
    exact encodeChar_of_start h hfits

section Stands

variable {bits owed low high : Nat} {kept : Bytes} {b : UInt8}

/-- Octets after which a character is not over begin it. -/
theorem Stands.begins (h : Stands (within bits owed low high) kept) : Begins kept := by
  obtain ⟨-, hpos, -, hle, hhigh, hiff⟩ := h
  obtain ⟨tail, htail⟩ := exists_fits owed hle hhigh
  refine ⟨_, tail, ?_, (hiff _ tail).2 ⟨htail, rfl⟩⟩
  rintro rfl
  have := htail.length_eq
  simp at this
  omega

/-- The last octet of a character. -/
theorem Stands.last (h : Stands (within bits owed low high) kept) (hb : low ≤ b.toNat ∧ b.toNat ≤ high)
    (howed : owed ≤ 1) : utf8EncodeChar (Char.ofNat (bits * 64 + (b.toNat - 0x80))) = kept ++ [b] := by
  obtain ⟨-, hpos, -, -, -, hiff⟩ := h
  obtain rfl : owed = 1 := by omega
  exact (hiff _ [b]).2 ⟨⟨b, [], rfl, hb, rfl⟩, rfl⟩

/-- An octet of a character that is not its last. -/
theorem Stands.next (h : Stands (within bits owed low high) kept) (hb : low ≤ b.toNat ∧ b.toNat ≤ high)
    (howed : ¬ owed ≤ 1) :
    Stands (within (bits * 64 + (b.toNat - 0x80)) (owed - 1) 0x80 0xBF) (kept ++ [b]) := by
  obtain ⟨-, -, -, -, -, hiff⟩ := h
  obtain ⟨owed, rfl⟩ : ∃ n, owed = n + 1 := ⟨owed - 1, by omega⟩
  refine ⟨by simp, by omega, Nat.le_refl _, by omega, Nat.le_refl _, fun c tail => ?_⟩
  have hextend : extend bits (b :: tail) = extend (bits * 64 + (b.toNat - 0x80)) tail := by
    simp only [extend, List.foldl_cons]
  rw [List.append_assoc, List.singleton_append, hiff c (b :: tail), hextend, Nat.add_sub_cancel]
  constructor
  · rintro ⟨⟨_, _, heq, -, hfits⟩, hc⟩
    obtain ⟨rfl, rfl⟩ := List.cons.inj heq
    exact ⟨hfits, hc⟩
  · rintro ⟨hfits, hc⟩
    exact ⟨⟨b, tail, rfl, hb, hfits⟩, hc⟩

/-- An octet out of bounds goes on with no character. -/
theorem Stands.bounds {c : Char} {tail : Bytes} (h : Stands (within bits owed low high) kept)
    (hc : utf8EncodeChar c = kept ++ b :: tail) : low ≤ b.toNat ∧ b.toNat ≤ high := by
  obtain ⟨-, hpos, -, -, -, hiff⟩ := h
  obtain ⟨hfits, -⟩ := (hiff c (b :: tail)).1 hc
  obtain ⟨owed, rfl⟩ : ∃ n, owed = n + 1 := ⟨owed - 1, by omega⟩
  obtain ⟨_, _, heq, hb, -⟩ := hfits
  obtain ⟨rfl, -⟩ := List.cons.inj heq
  exact hb

/-- Octets after which a character is not over are given up before an octet that is out of bounds, and at the end. -/
theorem Stands.givenUp (h : Stands (within bits owed low high) kept) {rest : Bytes}
    (hrest : ∀ b ∈ rest.head?, ¬ (low ≤ b.toNat ∧ b.toNat ≤ high)) : GivenUp kept rest := by
  -- Whatever begins a character and goes beyond what is kept has an octet within bounds there.
  have hbeyond (c : Char) (longer tail : Bytes) (hc : utf8EncodeChar c = longer ++ tail)
      (hpre : longer <+: kept ++ rest) : longer <+: kept := by
    obtain ⟨t, ht⟩ := hpre
    rcases List.append_eq_append_iff.1 ht with ⟨xs, rfl, -⟩ | ⟨_ | ⟨b, more⟩, rfl, rfl⟩
    · exact List.prefix_append _ _
    · simp
    · rw [List.append_assoc] at hc
      exact absurd (h.bounds hc) (hrest b rfl)
  have hbegins := h.begins
  refine ⟨h.1, fun c hpre => ?_, .inr hbegins, fun longer hpre ⟨c, tail, _, hc⟩ => ?_⟩
  · obtain ⟨xs, hxs⟩ := hbeyond c _ [] (by simp) hpre
    obtain ⟨c', tail, hne, hc'⟩ := hbegins
    rw [← hxs] at hc'
    have hboth : utf8EncodeChar c ++ (xs ++ tail) = utf8EncodeChar c' ++ [] := by
      rw [List.append_nil, hc', List.append_assoc]
    exact hne (List.append_eq_nil_iff.1 (encodeChar_prefix_free hboth).2).2
  · exact (hbeyond c longer tail hc hpre).length_le

end Stands

/-! ### Reading to the end -/

/-- What is found from where reading stands to the end of some octets. -/
def out (d : Decoder) (bytes : Bytes) : List (Option Char) := (d.run bytes).1 ++ (d.run bytes).2.finish

theorem out_cons (d : Decoder) (b : UInt8) (rest : Bytes) :
    d.out (b :: rest) = (d.step b).1 ++ (d.step b).2.out rest := by
  simp [out, run]

/-- A first octet, before a rest that is read as it should be wherever reading stands. -/
private theorem reads_start {rest : Bytes}
    (hrest : ∀ d kept, Stands d kept → Reads (kept ++ rest) (d.out rest)) (b : UInt8) :
    Reads (b :: rest) ((start b).1 ++ (start b).2.out rest) := by
  rcases start_cases b with ⟨c, hs, hc⟩ | ⟨bits, owed, low, high, hs⟩ | hs
  · rw [hs, ← List.singleton_append, ← hc]
    exact .char c (hrest idle [] rfl)
  · rw [hs]
    exact hrest _ [b] (stands_start hs)
  · have hno (c : Char) (tail : Bytes) : utf8EncodeChar c ≠ b :: tail := by
      intro hc
      rcases encodeChar_eq_cons hc with ⟨hs', -⟩ | ⟨_, _, _, _, hs', -⟩ <;> simp [hs] at hs'
    have hgiven : GivenUp [b] rest := by
      refine ⟨List.cons_ne_nil _ _, fun c hpre => ?_, .inl rfl, fun longer hpre ⟨c, tail, _, hc⟩ => ?_⟩
      · obtain ⟨b', tail, hc⟩ := List.exists_cons_of_ne_nil (String.utf8EncodeChar_ne_nil (c := c))
        rw [hc, List.singleton_append, List.cons_prefix_cons] at hpre
        exact hno c tail (hpre.1 ▸ hc)
      · rcases longer with _ | ⟨b', more⟩
        · simp
        · rw [List.singleton_append, List.cons_prefix_cons] at hpre
          exact absurd (hpre.1 ▸ hc) (hno c (more ++ tail))
    rw [hs]
    exact .givenUp hgiven (hrest idle [] rfl)

/-- What is found is what the octets read as, those since the last character included. -/
theorem reads_out (bytes : Bytes) (d : Decoder) (kept : Bytes) (h : Stands d kept) :
    Reads (kept ++ bytes) (d.out bytes) := by
  induction bytes generalizing d kept with
  | nil =>
    rw [List.append_nil]
    cases d with
    | idle =>
      obtain rfl : kept = [] := h
      exact .nil
    | within bits owed low high =>
      have hgiven : GivenUp kept [] := h.givenUp (by simp)
      simpa [out, run, finish] using Reads.givenUp hgiven .nil
  | cons b rest ih =>
    rw [out_cons]
    cases d with
    | idle =>
      obtain rfl : kept = [] := h
      exact reads_start ih b
    | within bits owed low high =>
      unfold step
      dsimp only
      split
      · next hb =>
        rw [List.append_cons]
        split
        · next howed =>
          rw [← h.last hb howed]
          exact .char _ (ih idle [] rfl)
        · next howed => exact ih _ _ (h.next hb howed)
      · next hb =>
        have hgiven : GivenUp kept (b :: rest) := h.givenUp (by simpa using hb)
        exact .givenUp hgiven (reads_start ih b)

end Decoder

/-- Octets read as what reading them one by one finds. -/
theorem reads_scan (bytes : Bytes) : Reads bytes (scan bytes) := Decoder.reads_out bytes .idle [] rfl

/-- Octets read in one way only. -/
theorem Reads.unique {bytes : Bytes} {found found' : List (Option Char)} (h : Reads bytes found)
    (h' : Reads bytes found') : found = found' := by
  induction h generalizing found' with
  | nil =>
    generalize hb : ([] : Bytes) = bytes at h'
    cases h' with
    | nil => rfl
    | char c _ => exact absurd (List.append_eq_nil_iff.1 hb.symm).1 String.utf8EncodeChar_ne_nil
    | givenUp hgiven _ => exact absurd (List.append_eq_nil_iff.1 hb.symm).1 hgiven.ne_nil
  | @char c rest found _ ih =>
    generalize hb : utf8EncodeChar c ++ rest = bytes at h'
    cases h' with
    | nil => exact absurd (List.append_eq_nil_iff.1 hb).1 String.utf8EncodeChar_ne_nil
    | @char c' _ _ hrest' =>
      obtain ⟨rfl, rfl⟩ := Decoder.encodeChar_prefix_free hb
      rw [ih hrest']
    | givenUp hgiven _ => exact absurd ⟨rest, hb⟩ (hgiven.no_char c)
  | @givenUp part rest found hgiven _ ih =>
    generalize hb : part ++ rest = bytes at h'
    cases h' with
    | nil => exact absurd (List.append_eq_nil_iff.1 hb).1 hgiven.ne_nil
    | @char c' rest' _ _ => exact absurd ⟨rest', hb.symm⟩ (hgiven.no_char c')
    | @givenUp part' rest' _ hgiven' hrest' =>
      have hlength : part.length = part'.length :=
        Nat.le_antisymm (hgiven'.length_le hgiven ⟨rest, hb⟩) (hgiven.length_le hgiven' ⟨rest', hb.symm⟩)
      obtain ⟨rfl, rfl⟩ := List.append_inj hb hlength
      rw [ih hrest']

/-- A text is read from its octets. -/
theorem reads_encodeChars (cs : List Char) : Reads (encodeChars cs) (cs.map some) := by
  induction cs with
  | nil => exact .nil
  | cons c cs ih => exact .char c ih

/-- Octets that read as characters throughout are the octets of these. -/
theorem Reads.eq_encodeChars {bytes : Bytes} {cs : List Char} (h : Reads bytes (cs.map some)) :
    bytes = encodeChars cs := by
  generalize hfound : cs.map some = found at h
  induction h generalizing cs with
  | nil =>
    obtain rfl := List.map_eq_nil_iff.1 hfound
    rfl
  | char c _ ih =>
    obtain ⟨c', cs', rfl, hc, hcs'⟩ := List.map_eq_cons_iff.1 hfound
    obtain rfl := Option.some.inj hc
    rw [ih hcs']
    rfl
  | givenUp _ _ =>
    obtain ⟨c', cs', rfl, hc, hcs'⟩ := List.map_eq_cons_iff.1 hfound
    cases hc

private theorem mapM_id_eq_some_iff {found : List (Option Char)} {cs : List Char} :
    found.mapM id = some cs ↔ found = cs.map some := by
  induction found generalizing cs with
  | nil => cases cs <;> simp
  | cons c found ih =>
    cases c with
    | none => cases cs <;> simp
    | some c => cases cs <;> simp [Option.bind_eq_some_iff, ih, and_comm]

/-- Octets have a text exactly if they are the octets of it. -/
theorem decode?_eq_some_iff {bytes : Bytes} {s : String} : decode? bytes = some s ↔ bytes = encode s := by
  unfold decode? encode
  rw [Option.map_eq_some_iff]
  constructor
  · rintro ⟨cs, hcs, rfl⟩
    rw [String.toList_ofList]
    exact Reads.eq_encodeChars (mapM_id_eq_some_iff.1 hcs ▸ reads_scan bytes)
  · rintro rfl
    exact ⟨s.toList, mapM_id_eq_some_iff.2 ((reads_scan _).unique (reads_encodeChars _)), String.ofList_toList⟩

theorem decode?_eq_none_iff {bytes : Bytes} : decode? bytes = none ↔ ∀ s, bytes ≠ encode s := by
  simp only [Option.eq_none_iff_forall_ne_some, ne_eq, decode?_eq_some_iff]

/-! ### What is kept back -/

/-- The longest part at the end of some octets that begins a character. -/
structure Kept (bytes kept : Bytes) : Prop where
  atEnd : kept <:+ bytes
  begins : Begins kept
  longest : ∀ longer, longer <:+ bytes → Begins longer → longer.length ≤ kept.length

namespace Decoder

theorem Stands.unique {d : Decoder} {kept kept' : Bytes} (h : Stands d kept) (h' : Stands d kept') : kept = kept' := by
  cases d with
  | idle => exact (show kept = [] from h).trans (show kept' = [] from h').symm
  | within bits owed low high =>
    obtain ⟨-, -, -, hle, hhigh, hiff⟩ := h
    obtain ⟨-, -, -, -, -, hiff'⟩ := h'
    obtain ⟨tail, htail⟩ := exists_fits owed hle hhigh
    have heq := ((hiff _ tail).2 ⟨htail, rfl⟩).symm.trans ((hiff' _ tail).2 ⟨htail, rfl⟩)
    exact List.append_cancel_right heq

/-- Octets that begin a character are all that reading stands after, wherever it stood before. -/
private theorem stands_run_of_begins {d : Decoder} {kept : Bytes} (h : Stands d kept) {part : Bytes}
    (hbegins : Begins part) (hne : part ≠ []) : Stands (d.run part).2 part := by
  induction part using List.reverseRecOn with
  | nil => exact absurd rfl hne
  | append_singleton part b ih =>
    obtain ⟨c, tail, htail, hc⟩ := hbegins
    rw [List.append_assoc, List.singleton_append] at hc
    have hrun : (d.run (part ++ [b])).2 = ((d.run part).2.step b).2 := by simp [run_append, run]
    rw [hrun]
    rcases part.eq_nil_or_concat with rfl | ⟨_, _, hpart⟩
    · rcases encodeChar_eq_cons hc with ⟨-, hnil⟩ | ⟨bits, owed, low, high, hs, -⟩
      · exact absurd hnil htail
      · have hstart : (start b).2 = within bits owed low high := by rw [hs]
        have hstands : Stands (start b).2 [b] := by rw [hstart]; exact stands_start hs
        cases d with
        | idle => exact hstands
        | within bits' owed' low' high' =>
          -- An octet that begins a character goes on with none.
          obtain ⟨-, -, hlow, -, hhigh, -⟩ := h
          have hb : ¬ (low' ≤ b.toNat ∧ b.toNat ≤ high') := by have := bounds_of_start hs; omega
          simpa [run, step, hb] using hstands
    · have hpart' : part ≠ [] := by simp [hpart]
      have hstands := ih ⟨c, b :: tail, List.cons_ne_nil _ _, hc⟩ hpart'
      generalize (d.run part).2 = after at hstands
      cases after with
      | idle => exact absurd hstands hpart'
      | within bits owed low high =>
        have hb := hstands.bounds hc
        have howed : ¬ owed ≤ 1 := by
          intro hle
          have hlast := hstands.last hb hle
          rw [List.append_cons, ← hlast] at hc
          rw [← List.append_nil (utf8EncodeChar c)] at hc
          exact htail (encodeChar_prefix_free hc).2.symm
        simpa [step, hb, howed] using hstands.next hb howed

/-- Reading has found what the octets before those it keeps back read as. -/
private theorem exists_stands_run (bytes : Bytes) :
    ∃ done kept, bytes = done ++ kept ∧ Stands (idle.run bytes).2 kept ∧ (idle.run bytes).1 = scan done := by
  induction bytes using List.reverseRecOn with
  | nil => exact ⟨[], [], rfl, rfl, rfl⟩
  | append_singleton bytes b ih =>
    obtain ⟨done, kept, hbytes, hstands, hfound⟩ := ih
    -- If reading stands between characters afterwards, then nothing is kept.
    have hidle (hs : (idle.run (bytes ++ [b])).2 = idle) : ∃ done kept, bytes ++ [b] = done ++ kept ∧
        Stands (idle.run (bytes ++ [b])).2 kept ∧ (idle.run (bytes ++ [b])).1 = scan done := by
      refine ⟨bytes ++ [b], [], by simp, by rw [hs]; rfl, ?_⟩
      show _ = _ ++ (idle.run (bytes ++ [b])).2.finish
      rw [hs]
      exact (List.append_nil _).symm
    have hrun : idle.run (bytes ++ [b]) =
        ((idle.run bytes).1 ++ ((idle.run bytes).2.step b).1, ((idle.run bytes).2.step b).2) := by
      simp [run_append, run]
    have hscan : scan bytes = (idle.run bytes).1 ++ (idle.run bytes).2.finish := rfl
    rw [hrun] at hidle ⊢
    generalize (idle.run bytes).1 = found at *
    generalize (idle.run bytes).2 = d at *
    cases d with
    | idle =>
      obtain rfl : kept = [] := hstands
      rcases start_cases b with ⟨c, hs, -⟩ | ⟨bits, owed, low, high, hs⟩ | hs
      · exact hidle (congrArg Prod.snd hs)
      · refine ⟨done, [b], by simpa using hbytes, ?_, by simp [step, hs, hfound]⟩
        simpa [step, hs] using stands_start hs
      · exact hidle (congrArg Prod.snd hs)
    | within bits owed low high =>
      by_cases hb : low ≤ b.toNat ∧ b.toNat ≤ high
      · by_cases howed : owed ≤ 1
        · exact hidle (by simp [step, hb, howed])
        · refine ⟨done, kept ++ [b], by rw [hbytes, List.append_assoc], ?_, by simp [step, hb, howed, hfound]⟩
          simpa [step, hb, howed] using hstands.next hb howed
      · rcases start_cases b with ⟨c, hs, -⟩ | ⟨bits', owed', low', high', hs⟩ | hs
        · exact hidle (by simp [step, hb, hs])
        · refine ⟨bytes, [b], rfl, ?_, by simp [step, hb, hs, hscan, finish]⟩
          simpa [step, hb, hs] using stands_start hs
        · exact hidle (by simp [step, hb, hs])

/-- Reading keeps back the longest part at the end that begins a character, and no more. -/
theorem run_eq_scan_done (bytes : Bytes) :
    ∃ done kept, bytes = done ++ kept ∧ Kept bytes kept ∧ (idle.run bytes).1 = scan done := by
  obtain ⟨done, kept, hbytes, hstands, hfound⟩ := exists_stands_run bytes
  refine ⟨done, kept, hbytes, ⟨⟨done, hbytes.symm⟩, ?_, ?_⟩, hfound⟩
  · generalize (idle.run bytes).2 = d at hstands
    cases d with
    | idle =>
      obtain rfl : kept = [] := hstands
      exact ⟨'a', utf8EncodeChar 'a', String.utf8EncodeChar_ne_nil, rfl⟩
    | within bits owed low high => exact hstands.begins
  · rintro longer ⟨before, rfl⟩ hbegins
    rcases eq_or_ne longer [] with rfl | hne
    · exact Nat.zero_le _
    · obtain ⟨_, _, -, hbefore, -⟩ := exists_stands_run before
      have hlonger := stands_run_of_begins hbefore hbegins hne
      have hrun : (idle.run (before ++ longer)).2 = ((idle.run before).2.run longer).2 := by rw [run_append]
      rw [hrun] at hstands
      rw [hlonger.unique hstands]

end Decoder

/-! ### Reading in pieces -/

/-- The text of what has been found. -/
def textOf (found : List (Option Char)) : String := String.ofList (found.map (·.getD replacement))

/-- What is delivered at a time. -/
private def deliver (found : List (Option Char)) : List String := if found.isEmpty then [] else [textOf found]

private theorem join_deliver (found : List (Option Char)) : String.join (deliver found) = textOf found := by
  unfold deliver
  split
  · next h =>
    rw [List.isEmpty_iff.1 h]
    rfl
  · simp [String.join]

private theorem textOf_append (found more : List (Option Char)) :
    textOf (found ++ more) = textOf found ++ textOf more := by
  simp [textOf, String.ofList_append]

private theorem notMem_deliver (found : List (Option Char)) : "" ∉ deliver found := by
  unfold deliver
  split
  · simp
  · next h =>
    intro hmem
    have hempty : textOf found = "" := (List.mem_singleton.1 hmem).symm
    have hlist := congrArg String.toList hempty
    simp [textOf] at hlist
    simp [hlist] at h

private theorem join_go (d : Decoder) (pieces : List Bytes) :
    String.join (decodePieces.go deliver d pieces) = textOf (d.out pieces.flatten) := by
  induction pieces generalizing d with
  | nil => simp [decodePieces.go, join_deliver, Decoder.out, Decoder.run]
  | cons piece rest ih =>
    simp only [decodePieces.go, String.join_append, join_deliver, ih, ← textOf_append, List.flatten_cons]
    simp [Decoder.out, Decoder.run_append]

private theorem notMem_go (d : Decoder) (pieces : List Bytes) : "" ∉ decodePieces.go deliver d pieces := by
  induction pieces generalizing d with
  | nil => exact notMem_deliver _
  | cons piece rest ih =>
    rw [decodePieces.go, List.mem_append, not_or]
    exact ⟨notMem_deliver _, ih _⟩

/-- Reading in pieces delivers the text of the whole. -/
theorem join_decodePieces (pieces : List Bytes) : String.join (decodePieces pieces) = decode pieces.flatten :=
  join_go .idle pieces

theorem flatten_piecesOf (size : Nat) (bytes : Bytes) : (piecesOf size bytes).flatten = bytes := by
  fun_induction piecesOf size bytes with
  | case1 => rfl
  | case2 b rest ih => rw [List.flatten_cons, ih, List.cons_append, List.take_append_drop]

/-- However octets are cut into pieces, what reading piece after piece delivers is, put together, the text that they
read as in the only way in which they can be read; none of the texts delivered is empty; and a text comes back from its
own octets. What has been found at any moment is what the octets read as up to those that are kept back. -/
theorem decodePieces_reads (pieces : List Bytes) :
    (∃ found, Reads pieces.flatten found ∧ (∀ found', Reads pieces.flatten found' → found' = found) ∧
      String.join (decodePieces pieces) = String.ofList (found.map (·.getD replacement))) ∧
    "" ∉ decodePieces pieces ∧
    (∀ text, pieces.flatten = encode text →
      String.join (decodePieces pieces) = text ∧ encode (String.join (decodePieces pieces)) = pieces.flatten) ∧
    ∀ bytes, ∃ done kept, bytes = done ++ kept ∧ Kept bytes kept ∧ (Decoder.idle.run bytes).1 = scan done := by
  have hjoin := join_decodePieces pieces
  refine ⟨⟨scan pieces.flatten, reads_scan _, fun _ h => h.unique (reads_scan _), hjoin⟩, notMem_go .idle pieces, ?_,
    Decoder.run_eq_scan_done⟩
  intro text htext
  have hscan : scan (encode text) = text.toList.map some := (reads_scan _).unique (reads_encodeChars text.toList)
  have hwhole : String.join (decodePieces pieces) = text := by
    rw [hjoin, htext]
    unfold decode
    rw [hscan, List.map_map]
    simp [Function.comp_def]
  exact ⟨hwhole, by rw [hwhole, htext]⟩

end CommandShell.Text
