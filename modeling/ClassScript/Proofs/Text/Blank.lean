import ClassScript.Proofs.Text.Ascii
import ClassScript.Text.Blank
import Mathlib.Data.List.DropRight

/-!
Texts between white space. What is trimmed stands at the ends only, and nothing is trimmed from a text
that begins and ends without white space.
-/

namespace ClassScript.Blank

def leading (s : List Char) : List Char := s.takeWhile isWide

def trailing (s : List Char) : List Char := (s.dropWhile isWide).rtakeWhile isWide

theorem append_trim_append (s : List Char) : leading s ++ trim s ++ trailing s = s := by
  have hBehind : trim s ++ trailing s = s.dropWhile isWide := List.rdropWhile_append_rtakeWhile
  rw [List.append_assoc, hBehind]
  exact List.takeWhile_append_dropWhile

theorem isWide_of_mem_margins {s : List Char} {c : Char} (h : c ∈ leading s ++ trailing s) :
    isWide c = true := by
  rcases List.mem_append.mp h with h | h
  · exact List.mem_takeWhile_imp h
  · exact List.mem_rtakeWhile_imp h

/-- A text that does not begin with white space loses only white space behind it. -/
theorem exists_trim {s : List Char} (h : ∀ c, s.head? = some c → isWide c = false) :
    ∃ space, s = trim s ++ space ∧ ∀ c ∈ space, isWide c = true := by
  have hHead : s.dropWhile isWide = s := by
    cases s with
    | nil => rfl
    | cons c s => exact List.dropWhile_cons_of_neg (by simp [h c rfl])
  refine ⟨s.rtakeWhile isWide, ?_, fun c hc => List.mem_rtakeWhile_imp hc⟩
  rw [trim, hHead]
  exact List.rdropWhile_append_rtakeWhile.symm

theorem trim_eq_self {s : List Char} (hHead : ∀ c, s.head? = some c → isWide c = false)
    (hLast : ∀ c, s.getLast? = some c → isWide c = false) : trim s = s := by
  obtain ⟨space, hSplit, hSpace⟩ := exists_trim hHead
  obtain rfl | ⟨init, c, rfl⟩ := space.eq_nil_or_concat
  · exact (hSplit.trans (List.append_nil _)).symm
  · have hWide : isWide c = true := hSpace c (by simp)
    have hNot : isWide c = false := hLast c (by rw [hSplit]; simp)
    rw [hNot] at hWide
    cases hWide

/-- Of the characters of ASCII that are no blanks, only the vertical tab is white space. -/
theorem isWide_eq_false {c : Char} (hAscii : c.toNat < 0x80) (hBlank : Ascii.isBlank c = false)
    (hTab : c ≠ '\x0b') : isWide c = false := by
  have hc : isWide c = true → Ascii.isBlank c = true ∨ c = '\x0b' :=
    Ascii.of_forall_lt (P := fun c => isWide c = true → Ascii.isBlank c = true ∨ c = '\x0b')
      (by decide +kernel) hAscii
  cases hWide : isWide c with
  | false => rfl
  | true =>
      rcases hc hWide with h | h
      · rw [hBlank] at h
        cases h
      · exact absurd h hTab

end ClassScript.Blank
