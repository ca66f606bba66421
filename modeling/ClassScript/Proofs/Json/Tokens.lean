import ClassScript.Json.Token
import ClassScript.Proofs.Text.Ascii

/-!
Tokens are read back from what is written for them. Strings are the only tokens whose text is not fixed:
each character of one is read back from its escape whatever follows, and an escape is never a quote, so
the first quote closes the string. Blanks around tokens change nothing.
-/

namespace ClassScript.Json

/-- A character that may stand in a string as it is. -/
def IsPlain (c : Char) : Prop := c ≠ '\x22' ∧ c ≠ '\\' ∧ 0x20 ≤ c.toNat

/-- A character that needs no escape is read as it stands. -/
theorem character?_plain {c : Char} (h : IsPlain c) (rest : List Char) :
    character? (c :: rest) = some (c, rest) := by
  obtain ⟨hQuote, hBackslash, hPrintable⟩ := h
  have hNotControl : ¬ c.toNat < 0x20 := Nat.not_lt.mpr hPrintable
  unfold character?
  split <;> grind

/-- What is written for a control character gives its number in four digits. -/
theorem fourDigits?_of_lt {n : Nat} (h : n < 0x20) :
    fourDigits? '0' '0' (Nat.digitChar (n / 16)) (Nat.digitChar (n % 16)) = some n := by
  have hAll : ∀ m : Fin 0x20,
      fourDigits? '0' '0' (Nat.digitChar (m / 16)) (Nat.digitChar (m % 16)) = some m.val := by decide
  exact hAll ⟨n, h⟩

/-- A control character is no half of another one. -/
theorem numbered?_of_lt {n : Nat} (h : n < 0x20) (rest : List Char) :
    numbered? n rest = some (Char.ofNat n, rest) := by
  have hHigh : isHighHalf n = false := by
    rw [isHighHalf, decide_eq_false (by omega), Bool.false_and]
  have hLow : isLowHalf n = false := by
    rw [isLowHalf, decide_eq_false (by omega), Bool.false_and]
  simp [numbered?, hHigh, hLow]

/-- Every character is read back from its escape, and what follows stays. -/
theorem character?_escape (c : Char) (rest : List Char) :
    character? (escape c ++ rest) = some (c, rest) := by
  unfold escape
  -- What has a letter of its own is read back at once. A number or the character itself is left.
  split <;> try rfl
  split
  · next hControl =>
      have hDigits := fourDigits?_of_lt hControl
      simp only [List.cons_append, List.nil_append, character?, hDigits, Option.bind_some,
        numbered?_of_lt hControl, Char.ofNat_toNat]
  · next hControl =>
      have hPlain : IsPlain c := ⟨‹c ≠ '\x22'›, ‹c ≠ '\\'›, Nat.not_lt.mp hControl⟩
      exact character?_plain hPlain rest

/-- A string goes on with a character wherever one is read. No character begins with a quote. -/
theorem text?_of_character? {s rest : List Char} {c : Char} (h : character? s = some (c, rest)) :
    text? s = (text? rest).map fun (text, rest) => (c :: text, rest) := by
  rw [text?]
  · split
    · next hNone =>
        rw [h] at hNone
        cases hNone
    · next hSome =>
        rw [h] at hSome
        cases hSome
        rfl
  · rintro tail rfl
    cases h

/-- The first quote behind escaped characters closes the string. -/
theorem text?_escape (text rest : List Char) :
    text? (text.flatMap escape ++ '\x22' :: rest) = some (text, rest) := by
  induction text with
  | nil => simp [text?]
  | cons c text ih =>
      rw [List.flatMap_cons, List.append_assoc, text?_of_character? (character?_escape c _), ih]
      rfl

/-- Every token is read back from its text, whatever follows. -/
theorem token?_write (token : Token) (rest : List Char) :
    token? (token.write ++ rest) = some (token, rest) := by
  cases token with
  | string text =>
      have hText := text?_escape text.toList rest
      simp [Token.write, token?, hText]
  | _ => rfl

/-- No token begins with a blank. -/
theorem exists_write_eq (token : Token) : ∃ c s, token.write = c :: s ∧ isBlank c = false := by
  cases token <;> exact ⟨_, _, rfl, rfl⟩

/-- A text that is made of tokens, with blanks before them, between them and behind them, or without. -/
inductive Spells : List Token → List Char → Prop where
  | nil : Spells [] []
  | blank {tokens : List Token} {c : Char} {s : List Char} (hBlank : isBlank c = true)
      (hRest : Spells tokens s) : Spells tokens (c :: s)
  | token {token : Token} {tokens : List Token} {s : List Char} (hRest : Spells tokens s) :
      Spells (token :: tokens) (token.write ++ s)

/-- What is written for tokens has no blanks between them. -/
theorem spells_write (tokens : List Token) : Spells tokens (write tokens).toList := by
  rw [write, String.toList_ofList]
  induction tokens with
  | nil => exact .nil
  | cons token tokens ih => exact .token ih

/-- Blanks between tokens are passed over, and the tokens are read back. -/
theorem tokens?_of_spells {tokens : List Token} {s : List Char} (h : Spells tokens s) :
    tokens? s = some tokens := by
  induction h with
  | nil => simp [tokens?]
  | blank hBlank _ ih => rw [tokens?, if_pos hBlank, ih]
  | @token token tokens s _ ih =>
      obtain ⟨c, more, hWrite, hc⟩ := exists_write_eq token
      have hToken := token?_write token s
      rw [hWrite, List.cons_append] at hToken ⊢
      rw [tokens?, if_neg (by simp [hc])]
      split
      · next hNone =>
          rw [hToken] at hNone
          cases hNone
      · next hSome =>
          rw [hToken] at hSome
          cases hSome
          rw [ih, Option.map_some]

end ClassScript.Json
