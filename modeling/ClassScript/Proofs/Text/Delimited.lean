import Mathlib.Data.List.Flatten
import Mathlib.Data.List.Infix

/-!
Texts that show where they end. When one of them stands in front of anything else, both are found again
from the whole: because something of another kind follows, because a mark follows that does not stand in
the text, or because letters are written in a way that tells each of them from what follows.
-/

namespace ClassScript.Delimited

variable {α β : Type} {s t r u : List α}

/-- A text of one kind of characters ends where another kind begins. -/
theorem append_inj_of_stop {p : α → Prop} (hs : ∀ c ∈ s, p c) (ht : ∀ c ∈ t, p c)
    (hr : ∀ c ∈ r.head?, ¬ p c) (hu : ∀ c ∈ u.head?, ¬ p c) (h : s ++ r = t ++ u) : s = t ∧ r = u := by
  induction s generalizing t with
  | nil =>
      cases t with
      | nil => exact ⟨rfl, h⟩
      | cons c t =>
          have hHead : c ∈ r.head? := by
            rw [List.nil_append] at h
            simp [h]
          exact absurd (ht c List.mem_cons_self) (hr c hHead)
  | cons c s ih =>
      obtain ⟨hc, hs⟩ := List.forall_mem_cons.mp hs
      cases t with
      | nil =>
          have hHead : c ∈ u.head? := by
            rw [List.nil_append] at h
            simp [← h]
          exact absurd hc (hu c hHead)
      | cons d t =>
          rw [List.cons_append, List.cons_append, List.cons.injEq] at h
          obtain ⟨rfl, h⟩ := h
          obtain ⟨rfl, hRest⟩ := ih hs (List.forall_mem_cons.mp ht).2 h
          exact ⟨rfl, hRest⟩

/-- Nothing that a mark stands behind begins with the mark, if the mark is not in it and the last
character of the mark is nowhere else in the mark. -/
theorem eq_nil_of_append_eq {front : List α} {last : α} (hLast : last ∉ front)
    (hs : ¬ front ++ [last] <:+: s) (h : front ++ [last] ++ r = s ++ (front ++ [last] ++ u)) : s = [] := by
  rcases Nat.lt_or_ge s.length (front ++ [last]).length with hShort | hLong
  · rw [← List.length_eq_zero_iff]
    by_contra hNe
    rw [List.length_append, List.length_singleton] at hShort
    have hAt : (s ++ (front ++ [last] ++ u))[front.length]? = some last := by
      rw [← h, List.append_assoc, List.getElem?_append_right (Nat.le_refl _), Nat.sub_self]
      rfl
    rw [List.getElem?_append_right (by omega), List.append_assoc,
      List.getElem?_append_left (by omega)] at hAt
    exact hLast (List.mem_of_getElem? hAt)
  · have hPrefix : front ++ [last] <+: s :=
      List.prefix_of_prefix_length_le ⟨r, h⟩ (List.prefix_append s _) hLong
    exact absurd hPrefix.isInfix hs

/-- A text ends in front of the first mark. -/
theorem append_inj_of_mark {front : List α} {last : α} (hLast : last ∉ front)
    (hs : ¬ front ++ [last] <:+: s) (ht : ¬ front ++ [last] <:+: t)
    (h : s ++ (front ++ [last] ++ r) = t ++ (front ++ [last] ++ u)) : s = t ∧ r = u := by
  rcases List.append_eq_append_iff.mp h with ⟨more, rfl, hMark⟩ | ⟨more, rfl, hMark⟩
  · have hMore : more = [] :=
      eq_nil_of_append_eq hLast (fun hIn => ht (hIn.trans (List.suffix_append s more).isInfix)) hMark
    subst hMore
    exact ⟨(List.append_nil s).symm, List.append_cancel_left hMark⟩
  · have hMore : more = [] :=
      eq_nil_of_append_eq hLast (fun hIn => hs (hIn.trans (List.suffix_append t more).isInfix)) hMark
    subst hMore
    exact ⟨List.append_nil t, (List.append_cancel_left hMark).symm⟩

/-- Where what is written for a letter tells the letter, whatever follows, a whole text can be told from
what is written for it. -/
theorem flatMap_inj {write : α → List β} (hNe : ∀ c, write c ≠ [])
    (hTells : ∀ c d r u, write c ++ r = write d ++ u → c = d) (h : s.flatMap write = t.flatMap write) :
    s = t := by
  induction s generalizing t with
  | nil =>
      cases t with
      | nil => rfl
      | cons d t =>
          rw [List.flatMap_cons] at h
          exact absurd (List.append_eq_nil_iff.mp h.symm).1 (hNe d)
  | cons c s ih =>
      cases t with
      | nil =>
          rw [List.flatMap_cons] at h
          exact absurd (List.append_eq_nil_iff.mp h).1 (hNe c)
      | cons d t =>
          rw [List.flatMap_cons, List.flatMap_cons] at h
          obtain rfl := hTells c d _ _ h
          rw [ih (List.append_cancel_left h)]

end ClassScript.Delimited
