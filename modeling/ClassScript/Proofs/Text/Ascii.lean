import ClassScript.Text.Ascii

/-!
Facts about the characters of ASCII, which are few enough to be looked at one by one. Lower-casing changes
no other character.
-/

namespace ClassScript.Ascii

/-- What holds of every character of ASCII, looked at one by one, holds of a character of ASCII. -/
theorem of_forall_lt {P : Char → Prop} (h : ∀ n : Fin 0x80, P (Char.ofNat n)) {c : Char}
    (hAscii : c.toNat < 0x80) : P c := by
  have hc := h ⟨c.toNat, hAscii⟩
  rwa [Char.ofNat_toNat] at hc

theorem toLower_eq_self {c : Char} (h : 0x80 ≤ c.toNat) : c.toLower = c :=
  dif_neg fun hUpper => absurd (Nat.lt_of_le_of_lt hUpper.2 (by decide)) (Nat.not_lt.mpr h)

/-- Lower-casing is looked at in ASCII only. -/
theorem toLower_induction {P : Char → Char → Prop}
    (hAscii : ∀ n : Fin 0x80, P (Char.ofNat n) (Char.ofNat n).toLower)
    (hOther : ∀ c : Char, 0x80 ≤ c.toNat → P c c) (c : Char) : P c c.toLower := by
  rcases Nat.lt_or_ge c.toNat 0x80 with h | h
  · exact of_forall_lt (P := fun c => P c c.toLower) hAscii h
  · rw [toLower_eq_self h]
    exact hOther c h

theorem isUpper_toLower (c : Char) : c.toLower.isUpper = false := by
  refine toLower_induction (P := fun _ lower => lower.isUpper = false) (by decide +kernel) ?_ c
  intro c h
  refine decide_eq_false fun hUpper => ?_
  exact absurd (Nat.lt_of_le_of_lt hUpper.2 (by decide)) (Nat.not_lt.mpr h)

theorem toLower_toLower (c : Char) : c.toLower.toLower = c.toLower :=
  toLower_induction (P := fun _ lower => lower.toLower = lower) (by decide +kernel)
    (fun _ => toLower_eq_self) c

theorem lower_lower (s : String) : lower (lower s) = lower s := by
  rw [lower, toList_lower, List.map_map, lower]
  exact congrArg String.ofList (List.map_congr_left fun c _ => toLower_toLower c)

end ClassScript.Ascii
