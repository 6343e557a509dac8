import CommandShell.Proofs.Text.Decoding
import CommandShell.Text.Percent

/-!
# Reading back percent-encoded texts

A percent-encoded text is made of characters that stand for themselves and of octets in two upper-case hexadecimal
digits (`Text.percentForm_percentEncode`). Each octet reads back as itself whatever follows
(`Text.percentOctets?_percentOctet_append`), so the whole text reads back (`Text.percentDecode?_percentEncode`), and no
two texts are written alike (`Text.percentEncode_injective`).
-/

namespace CommandShell.Text

/-! ### The written form -/

/-- The letters and digits of ASCII, and the signs that are written as they are. -/
def StandsForItself (c : Char) : Prop :=
  ('a' ≤ c ∧ c ≤ 'z') ∨ ('A' ≤ c ∧ c ≤ 'Z') ∨ ('0' ≤ c ∧ c ≤ '9') ∨ c ∈ "-_.~!*'()".toList

instance (c : Char) : Decidable (StandsForItself c) := inferInstanceAs (Decidable (_ ∨ _ ∨ _ ∨ _))

/-- An upper-case hexadecimal digit. -/
def IsUpperHex (c : Char) : Prop := c ∈ "0123456789ABCDEF".toList

instance (c : Char) : Decidable (IsUpperHex c) := inferInstanceAs (Decidable (_ ∈ _))

/-- Characters that stand for themselves, and percent signs with two upper-case hexadecimal digits behind them. -/
inductive PercentForm : List Char → Prop where
  | nil : PercentForm []
  | itself {c : Char} {rest : List Char} : StandsForItself c → PercentForm rest → PercentForm (c :: rest)
  | octet {high low : Char} {rest : List Char} :
    IsUpperHex high → IsUpperHex low → PercentForm rest → PercentForm ('%' :: high :: low :: rest)

theorem PercentForm.append {cs more : List Char} (h : PercentForm cs) (hmore : PercentForm more) :
    PercentForm (cs ++ more) := by
  induction h with
  | nil => exact hmore
  | itself hc _ ih => exact .itself hc ih
  | octet hhigh hlow _ ih => exact .octet hhigh hlow ih

theorem IsUpperHex.standsForItself {c : Char} (h : IsUpperHex c) : StandsForItself c := by
  have hall : "0123456789ABCDEF".toList.all (decide <| StandsForItself ·) = true := by decide +kernel
  exact of_decide_eq_true (List.all_eq_true.1 hall c h)

theorem PercentForm.mem {cs : List Char} (h : PercentForm cs) {c : Char} (hc : c ∈ cs) :
    c = '%' ∨ StandsForItself c := by
  induction h with
  | nil => cases hc
  | itself hd _ ih =>
    rcases List.mem_cons.1 hc with rfl | hc
    · exact .inr hd
    · exact ih hc
  | octet hhigh hlow _ ih =>
    simp only [List.mem_cons] at hc
    rcases hc with rfl | rfl | rfl | hc
    · exact .inl rfl
    · exact .inr hhigh.standsForItself
    · exact .inr hlow.standsForItself
    · exact ih hc

/-- They are visible characters of ASCII, and a percent sign is not among them. -/
theorem StandsForItself.bounds {c : Char} (h : StandsForItself c) : 0x21 ≤ c.toNat ∧ c.toNat ≤ 0x7E ∧ c ≠ '%' := by
  have hne : c ≠ '%' := by
    rintro rfl
    exact absurd h (by decide)
  have hle : ∀ a b : Char, a ≤ b → a.toNat ≤ b.toNat := fun _ _ hab => UInt32.le_iff_toNat_le.1 hab
  rcases h with ⟨hfirst, hlast⟩ | ⟨hfirst, hlast⟩ | ⟨hfirst, hlast⟩ | h
  case inr.inr.inr =>
    have hall : "-_.~!*'()".toList.all (fun c => 0x21 ≤ c.toNat ∧ c.toNat ≤ 0x7E) = true := by decide +kernel
    obtain ⟨hlow, hhigh⟩ := of_decide_eq_true (List.all_eq_true.1 hall c h)
    exact ⟨hlow, hhigh, hne⟩
  all_goals exact ⟨(hle _ _ hfirst).trans' (by decide), (hle _ _ hlast).trans (by decide), hne⟩

/-! ### One octet -/

private theorem unreserved_ofNat :
    ∀ n : Fin 256, isUnreserved (UInt8.ofNat n) = true → StandsForItself (Char.ofNat n) := by
  decide +kernel

private theorem upperHexDigit_table :
    ∀ n : Fin 16, IsUpperHex (upperHexDigit n) ∧ hexValue? (upperHexDigit n) = some n.val := by
  decide

theorem standsForItself_of_isUnreserved {b : UInt8} (h : isUnreserved b = true) :
    StandsForItself (Char.ofNat b.toNat) := by
  have htable := unreserved_ofNat ⟨b.toNat, b.toNat_lt⟩
  rw [UInt8.ofNat_toNat] at htable
  exact htable h

theorem isUpperHex_upperHexDigit {n : Nat} (h : n < 16) : IsUpperHex (upperHexDigit n) :=
  (upperHexDigit_table ⟨n, h⟩).1

theorem hexValue?_upperHexDigit {n : Nat} (h : n < 16) : hexValue? (upperHexDigit n) = some n :=
  (upperHexDigit_table ⟨n, h⟩).2

theorem percentForm_percentOctet (b : UInt8) : PercentForm (percentOctet b) := by
  have hb : b.toNat < 256 := b.toNat_lt
  unfold percentOctet
  split
  · next h => exact .itself (standsForItself_of_isUnreserved h) .nil
  · exact .octet (isUpperHex_upperHexDigit (by omega)) (isUpperHex_upperHexDigit (by omega)) .nil

theorem percentOctets?_cons_of_ne {c : Char} (hpercent : c ≠ '%') (hascii : c.toNat < 0x80) (rest : List Char) :
    percentOctets? (c :: rest) = (percentOctets? rest).map (UInt8.ofNat c.toNat :: ·) := by
  have hgood : ¬(c = '%' ∨ 0x80 ≤ c.toNat) := by
    rintro (h | h)
    · exact hpercent h
    · omega
  rw [percentOctets?, if_neg hgood]
  intro a b more hc
  exact absurd hc hpercent

theorem percentOctets?_percentOctet_append (b : UInt8) (rest : List Char) :
    percentOctets? (percentOctet b ++ rest) = (percentOctets? rest).map (b :: ·) := by
  have hb : b.toNat < 256 := b.toNat_lt
  unfold percentOctet
  split
  · next h =>
    obtain ⟨-, htop, hpercent⟩ := (standsForItself_of_isUnreserved h).bounds
    have hchar : (Char.ofNat b.toNat).toNat = b.toNat := Decoder.toNat_ofNat (.inl (by omega))
    rw [List.singleton_append, percentOctets?_cons_of_ne hpercent (by omega), hchar, UInt8.ofNat_toNat]
  · have hvalue : UInt8.ofNat (b.toNat / 16 * 16 + b.toNat % 16) = b := by
      rw [Nat.div_add_mod' b.toNat 16, UInt8.ofNat_toNat]
    show percentOctets? ('%' :: upperHexDigit (b.toNat / 16) :: upperHexDigit (b.toNat % 16) :: rest) = _
    rw [percentOctets?, hexValue?_upperHexDigit (by omega), hexValue?_upperHexDigit (by omega)]
    cases percentOctets? rest with
    | none => rfl
    | some more => exact congrArg (fun octet => some (octet :: more)) hvalue

/-! ### Whole texts -/

theorem percentOctets?_flatMap_percentOctet (bytes : Bytes) :
    percentOctets? (bytes.flatMap percentOctet) = some bytes := by
  induction bytes with
  | nil => rfl
  | cons b rest ih => rw [List.flatMap_cons, percentOctets?_percentOctet_append, ih, Option.map_some]

theorem percentForm_percentEncode (s : String) : PercentForm (percentEncode s).toList := by
  rw [percentEncode, String.toList_ofList]
  induction encode s with
  | nil => exact .nil
  | cons b rest ih => exact (percentForm_percentOctet b).append ih

/-- A percent-encoded text reads back. -/
theorem percentDecode?_percentEncode (s : String) : percentDecode? (percentEncode s) = some s := by
  have hoctets : percentOctets? (percentEncode s).toList = some (encode s) := by
    rw [percentEncode, String.toList_ofList, percentOctets?_flatMap_percentOctet]
  rw [percentDecode?, hoctets, Option.bind_some]
  exact decode?_eq_some_iff.2 rfl

theorem percentEncode_injective : Function.Injective percentEncode := by
  intro s t h
  have hs := percentDecode?_percentEncode s
  rw [h, percentDecode?_percentEncode t] at hs
  exact (Option.some.inj hs).symm

end CommandShell.Text
