import CommandShell.Proofs.Markup.Plain
import CommandShell.Proofs.Shell.Resolution
import CommandShell.Proofs.Text.Percent

/-!
# Addresses of QR codes

The address that is printed for a text holds the text in percent-encoded form, from which it reads back, and it is
printed on every console as it was put together (`Builtin.qrCode_tells_address`).
-/

namespace CommandShell.Builtin

open Markup (Plain)
open Text (PercentForm)

theorem plain_percentEncode (data : String) : Plain (Text.percentEncode data) := by
  refine Markup.plain_of_forall fun c hc => ?_
  rcases (Text.percentForm_percentEncode data).mem hc with rfl | h
  · decide
  · refine ⟨h.bounds.1.trans' (by decide), ?_, ?_, ?_⟩
    all_goals
      rintro rfl
      exact absurd h (by decide)

theorem plain_addressOf (data : String) : Plain (addressOf data) := by
  have hfront : Plain qrCodeAddress := ⟨by decide, by decide⟩
  exact hfront.append (plain_percentEncode data)

theorem addressOf_injective : Function.Injective addressOf := by
  intro data other h
  have hcodes : Text.percentEncode data = Text.percentEncode other := by
    rw [← String.toList_inj]
    have hchars := congrArg String.toList h
    rwa [addressOf, addressOf, String.toList_append, String.toList_append, List.append_cancel_left_eq] at hchars
  exact Text.percentEncode_injective hcodes

/-- A text is in an address without loss, and the line with the address comes out as it was put together. -/
structure Addresses (data address : String) : Prop where
  /-- The text stands behind the fixed part, and reads back. -/
  encoded : ∃ code, address = qrCodeAddress ++ code ∧ PercentForm code.toList ∧ Text.percentDecode? code = some data
  distinct : ∀ other, other ≠ data → addressOf other ≠ address
  escaped : Markup.escape address = address
  unmarked : ∀ c ∈ address.toList, c ≠ '[' ∧ c ≠ ']' ∧ c ≠ '\\'
  shown : (Event.info (coloured "green" "QR code URL: " address "")).ShownAs .green ("QR code URL: " ++ address)

theorem addresses_addressOf (data : String) : Addresses data (addressOf data) where
  encoded := ⟨_, rfl, Text.percentForm_percentEncode data, Text.percentDecode?_percentEncode data⟩
  distinct other hne heq := hne (addressOf_injective heq)
  escaped := Markup.escape_of_bland (plain_addressOf data).bland
  unmarked := (plain_addressOf data).bland
  shown := Event.shownAs_coloured rfl ⟨by decide, by decide⟩ (plain_addressOf data) (by decide)

end CommandShell.Builtin
