import CommandShell.Proofs.Markup.Plain
import CommandShell.Proofs.Number.Integer
import CommandShell.Proofs.Shell.Resolution

/-!
# Passwords

`genpass` takes an argument of digits for a length and reads it as an integer. The two do not go together for all texts:
signs that stand for a digit pass for digits without being part of a number, and a number may be too long to be read
(`Builtin.Misread`). For such an argument the built-in fails, and otherwise it tells a password of the length that is
asked for (`Builtin.makePassword_tells_iff`).
-/

namespace CommandShell.Builtin

open Markup (Plain)
open Number (leadingDecimals digitLimit)

/-- The length that arguments ask for: the value of the first one if it is made of decimal digits and is positive, and
the usual one in every other case. -/
def promisedLength (args : List String) : Nat :=
  match args with
  | [] => usualPasswordLength
  | first :: _ =>
    match first.toList.mapM Text.decimalValue? with
    | some digits =>
      if 0 < Nat.ofDigits 10 digits.reverse then Nat.ofDigits 10 digits.reverse else usualPasswordLength
    | none => usualPasswordLength

/-- A text of digits that is no integer: not all of them are decimal digits, or there are too many. -/
structure Misread (first : String) : Prop where
  ne_empty : first ≠ ""
  digits : ∀ c ∈ first.toList, Text.isDigit c = true
  unread : (∃ c ∈ first.toList, Text.decimalValue? c = none) ∨ digitLimit < first.toList.length

/-- What is said of such a text. -/
def misreading (first : String) : Mishap :=
  if digitLimit < (leadingDecimals first.toList).length then .tooManyDigits (leadingDecimals first.toList).length
  else .notAnInteger first

/-! ### The length of a password -/

theorem promisedLength_cons (first : String) (rest : List String) :
    promisedLength (first :: rest) =
      if (leadingDecimals first.toList).length = first.toList.length ∧ 0 < Number.ofDigits (leadingDecimals first.toList)
      then Number.ofDigits (leadingDecimals first.toList) else usualPasswordLength := by
  unfold promisedLength
  dsimp only
  rw [Number.mapM_decimalValue?, Number.ofDigits_eq]
  by_cases hall : (leadingDecimals first.toList).length = first.toList.length
  · simp [hall]
  · simp [hall]

/-- What is not made of digits asks for nothing. -/
theorem passwordLength_of_not_digits {first : String}
    (h : ¬(first ≠ "" ∧ ∀ c ∈ first.toList, Text.isDigit c = true)) (rest : List String) :
    passwordLength (first :: rest) = .ok usualPasswordLength ∧
      promisedLength (first :: rest) = usualPasswordLength := by
  have hguard : (first.isEmpty || !first.toList.all Text.isDigit) = true := by
    by_contra hno
    exact h (by simpa using hno)
  constructor
  · unfold passwordLength
    simp only [hguard, if_true]
  · rw [promisedLength_cons, if_neg]
    rintro ⟨hall, hpositive⟩
    by_cases hempty : first = ""
    · subst hempty
      exact absurd hpositive (by decide)
    · -- All the characters are decimal digits then, and those are digits.
      refine h ⟨hempty, fun c hc => Text.isDigit_of_isSome ?_⟩
      exact Option.isSome_iff_ne_none.2 (Number.length_leadingDecimals_eq_iff.1 hall c hc)

theorem passwordLength_of_digits {first : String} (hne : first ≠ "") (h : ∀ c ∈ first.toList, Text.isDigit c = true)
    (rest : List String) :
    passwordLength (first :: rest) =
      match Number.readInteger first with
      | .ok n => .ok (if 0 < n then n.toNat else usualPasswordLength)
      | .error fault => .error (Mishap.ofInteger first fault) := by
  have hguard : (first.isEmpty || !first.toList.all Text.isDigit) = false := by simpa using ⟨hne, h⟩
  unfold passwordLength
  simp only [hguard]
  rfl

/-- Not all digits are read, or more than can be. -/
theorem misread_iff {first : String} (hne : first ≠ "") (h : ∀ c ∈ first.toList, Text.isDigit c = true) :
    Misread first ↔
      digitLimit < (leadingDecimals first.toList).length ∨
        (leadingDecimals first.toList).length ≠ first.toList.length := by
  constructor
  · rintro ⟨-, -, ⟨c, hc, hnone⟩ | hlong⟩
    · right
      intro hall
      exact Number.length_leadingDecimals_eq_iff.1 hall c hc hnone
    · by_cases hall : (leadingDecimals first.toList).length = first.toList.length
      · left
        omega
      · exact .inr hall
  · intro hunread
    refine ⟨hne, h, ?_⟩
    rcases hunread with hmany | hpart
    · have hle := Number.length_leadingDecimals_le first.toList
      right
      omega
    · left
      by_contra hno
      exact hpart (Number.length_leadingDecimals_eq_iff.2 fun c hc hnone => hno ⟨c, hc, hnone⟩)

theorem passwordLength_of_misread {first : String} (h : Misread first) (rest : List String) :
    passwordLength (first :: rest) = .error (misreading first) := by
  rw [passwordLength_of_digits h.ne_empty h.digits, Number.readInteger_of_digits h.ne_empty h.digits, misreading]
  by_cases hmany : digitLimit < (leadingDecimals first.toList).length
  · rw [if_pos hmany, if_pos hmany]
    rfl
  · have hpart := ((misread_iff h.ne_empty h.digits).1 h).resolve_left hmany
    rw [if_neg hmany, if_neg hmany, if_neg hpart]
    rfl

theorem passwordLength_of_not_misread {first : String} (h : ¬ Misread first) (rest : List String) :
    passwordLength (first :: rest) = .ok (promisedLength (first :: rest)) := by
  by_cases hdigits : first ≠ "" ∧ ∀ c ∈ first.toList, Text.isDigit c = true
  · obtain ⟨hne, hall⟩ := hdigits
    rw [misread_iff hne hall, not_or, not_not] at h
    rw [passwordLength_of_digits hne hall, Number.readInteger_of_digits hne hall, promisedLength_cons, if_neg h.1,
      if_pos h.2]
    simp [h.2]
  · obtain ⟨hlength, hpromised⟩ := passwordLength_of_not_digits hdigits rest
    rw [hlength, hpromised]

/-! ### The characters of a password -/

theorem length_chooseCharacters (drawn length : Nat) : (chooseCharacters drawn length).length = length := by
  rw [chooseCharacters, List.length_map, List.length_range]

theorem mem_of_mem_chooseCharacters {drawn length : Nat} {c : Char} (h : c ∈ chooseCharacters drawn length) :
    c ∈ passwordAlphabet := by
  obtain ⟨k, -, rfl⟩ := List.mem_map.1 h
  have hinside : (drawn + k) % passwordAlphabet.length < passwordAlphabet.length := Nat.mod_lt _ (by decide)
  rw [List.getElem?_eq_getElem hinside, Option.getD_some]
  exact List.getElem_mem hinside

theorem plain_of_alphabet {password : String} (h : ∀ c ∈ password.toList, c ∈ passwordAlphabet) : Plain password := by
  have hvisible : passwordAlphabet.all (fun c => 0x20 ≤ c.toNat ∧ c ≠ '[' ∧ c ≠ ']' ∧ c ≠ '\\') = true := by
    decide +kernel
  exact Markup.plain_of_forall fun c hc => of_decide_eq_true (List.all_eq_true.1 hvisible c (h c hc))

/-! ### What is told -/

/-- A password is told as it was promised, in one message and with no error; nothing else happens but that characters
have been chosen. Every console shows it as it stands. -/
structure TellsPassword (s : Shell) (args : List String) (password : String) : Prop where
  told : makePassword s args =
    Outcome.well (({ s with machine := { s.machine with drawn := s.machine.drawn + password.length } } : Shell).tell
      (.info (coloured "green" "Generated password: " password "")))
  alphabet : ∀ c ∈ password.toList, c ∈ passwordAlphabet
  length : password.length = promisedLength args
  shown : (Event.info (coloured "green" "Generated password: " password "")).ShownAs .green
    ("Generated password: " ++ password)

theorem exists_tellsPassword {args : List String} (h : passwordLength args = .ok (promisedLength args)) (s : Shell) :
    ∃ password, TellsPassword s args password := by
  have halphabet : ∀ c ∈ (String.ofList (chooseCharacters s.machine.drawn (promisedLength args))).toList,
      c ∈ passwordAlphabet := by
    intro c hc
    rw [String.toList_ofList] at hc
    exact mem_of_mem_chooseCharacters hc
  have hlength : (String.ofList (chooseCharacters s.machine.drawn (promisedLength args))).length =
      promisedLength args := by
    rw [String.length_ofList, length_chooseCharacters]
  refine ⟨_, ?_, halphabet, hlength, ?_⟩
  · rw [hlength, makePassword, h]
    rfl
  · exact Event.shownAs_coloured rfl ⟨by decide, by decide⟩ (plain_of_alphabet halphabet) (by decide)

theorem makePassword_of_misread {first : String} (h : Misread first) (s : Shell) (rest : List String) :
    makePassword s (first :: rest) = Outcome.fail s (misreading first) := by
  rw [makePassword, passwordLength_of_misread h]

/-- A password is told unless the first argument is misread; then the built-in fails, and the shell reports it as an
error of the command. -/
theorem makePassword_tells_iff (s : Shell) (args : List String) :
    ((∃ password, TellsPassword s args password) ↔ ∀ first ∈ args.head?, ¬ Misread first) ∧
      ∀ first ∈ args.head?, Misread first →
        makePassword s args = Outcome.fail s (misreading first) ∧
        ∀ programs rerun command,
          s.runHandler programs rerun ⟨command, args⟩ (.builtin .genpass) =
            (s, some (.error (.builtin command (.mishap (misreading first))))) := by
  cases args with
  | nil => exact ⟨⟨nofun, fun _ => exists_tellsPassword rfl s⟩, nofun⟩
  | cons first rest =>
    simp only [List.head?_cons, Option.mem_some_iff, forall_eq']
    by_cases hmisread : Misread first
    · have hfail := makePassword_of_misread hmisread s rest
      refine ⟨⟨?_, fun hno => absurd hmisread hno⟩, fun _ => ⟨hfail, fun programs rerun command => ?_⟩⟩
      · rintro ⟨password, htells⟩
        have hended := congrArg Prod.snd (hfail.symm.trans htells.told)
        cases hended
      · have hrun : Builtin.run programs .genpass s (first :: rest) = (s, some (.mishap (misreading first))) := hfail
        unfold Shell.runHandler
        simp only [hrun]
    · have htells := exists_tellsPassword (passwordLength_of_not_misread hmisread rest) s
      exact ⟨⟨fun _ => hmisread, fun _ => htells⟩, fun h => absurd h hmisread⟩

/-- A superscript passes for a digit, and the usual length is not fallen back on. -/
theorem makePassword_fails_superscript :
    promisedLength ["²"] = 12 ∧
      makePassword (Shell.bare .builtins) ["²"] = Outcome.fail (Shell.bare .builtins) (.notAnInteger "²") ∧
      (Mishap.notAnInteger "²").text = "invalid literal for int() with base 10: '²'" ∧
      ¬ ∃ password, TellsPassword (Shell.bare .builtins) ["²"] password := by
  have hfail : makePassword (Shell.bare .builtins) ["²"] = Outcome.fail (Shell.bare .builtins) (.notAnInteger "²") := by
    have hlength : passwordLength ["²"] = .error (.notAnInteger "²") := by decide +kernel
    rw [makePassword, hlength]
  refine ⟨by decide +kernel, hfail, by decide +kernel, ?_⟩
  rintro ⟨password, htells⟩
  have hended := congrArg Prod.snd (hfail.symm.trans htells.told)
  cases hended

end CommandShell.Builtin
