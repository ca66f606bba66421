import ClassScript.Text.Doubled
import Mathlib.Data.List.Infix

/-!
What can be told from a text with pairs of a separator in it. The first pair is found where none
stands further to the left, also across the boundary between a text and the pair behind it. Hence
texts that are joined by pairs are found again exactly when no pair stands in one of them and none
but the last ends with the separator.
-/

namespace ClassScript.Doubled

variable {d : Char}

theorem cut?_cons (d x : Char) (s : List Char) :
    cut? d (x :: s) =
      if x = d ∧ s.head? = some d then some ([], s.tail)
      else (cut? d s).map fun (before, after) => (x :: before, after) := by
  cases s with
  | nil => simp [cut?]
  | cons y rest => simp only [cut?, List.head?_cons, Option.some.injEq, List.tail_cons]

theorem pair_infix_cons_iff (d x : Char) (s : List Char) :
    [d, d] <:+: x :: s ↔ (x = d ∧ s.head? = some d) ∨ [d, d] <:+: s := by
  rw [List.infix_cons_iff, List.cons_prefix_cons]
  cases s with
  | nil => simp
  | cons y rest => simp [eq_comm]

/-- No pair begins in a text and ends in the pair behind it, exactly when no pair stands in the text
and it does not end with the separator. -/
theorem pair_infix_snoc_iff (d : Char) (s : List Char) :
    [d, d] <:+: s ++ [d] ↔ [d, d] <:+: s ∨ s.getLast? = some d := by
  induction s with
  | nil => simp [pair_infix_cons_iff]
  | cons x s ih =>
      rw [List.cons_append, pair_infix_cons_iff, ih, pair_infix_cons_iff]
      cases s with
      | nil => simp
      | cons y rest => simp [or_assoc]

/-- Nothing is cut where the character never stands twice in a row. -/
theorem cut?_eq_none_iff {s : List Char} : cut? d s = none ↔ ¬ [d, d] <:+: s := by
  induction s with
  | nil => simp [cut?]
  | cons x s ih =>
      rw [cut?_cons, pair_infix_cons_iff]
      split
      · next hPair => simp [hPair]
      · next hPair => simp [hPair, ih]

/-- A text is cut at a pair when there is none further to the left. -/
theorem cut?_append {before : List Char} (h : ¬ [d, d] <:+: before ++ [d]) (after : List Char) :
    cut? d (before ++ d :: d :: after) = some (before, after) := by
  induction before with
  | nil => simp [cut?]
  | cons x before ih =>
      rw [List.cons_append, pair_infix_cons_iff, not_or] at h
      have hHead : (before ++ d :: d :: after).head? = (before ++ [d]).head? := by
        cases before <;> rfl
      rw [List.cons_append, cut?_cons, hHead, if_neg h.1, ih h.2]
      rfl

theorem not_infix_of_cut? {s before after : List Char} (h : cut? d s = some (before, after)) :
    ¬ [d, d] <:+: before ++ [d] := by
  induction s generalizing before with
  | nil => cases h
  | cons x s ih =>
      rw [cut?_cons] at h
      split at h
      · cases h
        simp [pair_infix_cons_iff]
      · next hPair =>
          obtain ⟨⟨first, second⟩, hCut, hEq⟩ := Option.map_eq_some_iff.mp h
          cases hEq
          have hHead : (first ++ [d]).head? = s.head? := by
            rw [append_of_cut? hCut]
            cases first <;> rfl
          rw [List.cons_append, pair_infix_cons_iff, hHead, not_or]
          exact ⟨hPair, ih hCut⟩

theorem split_of_cut?_eq_none {s : List Char} (h : cut? d s = none) : split d s = [s] := by
  fun_induction split d s with
  | case1 => rfl
  | case2 => rfl
  | case3 x y rest hPair => simp [cut?, hPair] at h
  | case4 x y rest hPair ih =>
      rw [cut?, if_neg hPair, Option.map_eq_none_iff] at h
      rw [ih h]
      rfl

theorem split_of_cut?_eq_some {s before after : List Char} (h : cut? d s = some (before, after)) :
    split d s = before :: split d after := by
  fun_induction split d s generalizing before with
  | case1 => cases h
  | case2 => cases h
  | case3 x y rest hPair =>
      rw [cut?, if_pos hPair] at h
      cases h
      rfl
  | case4 x y rest hPair ih =>
      rw [cut?, if_neg hPair] at h
      obtain ⟨⟨first, second⟩, hCut, hEq⟩ := Option.map_eq_some_iff.mp h
      cases hEq
      rw [ih hCut]
      rfl

/-- What holds of a text without a pair, and of a text with a first pair as soon as it holds of what
follows the pair, holds of every text. -/
theorem induction_cut? {motive : List Char → Prop} (none : ∀ s, cut? d s = none → motive s)
    (some : ∀ s before after, cut? d s = some (before, after) → motive after → motive s)
    (s : List Char) : motive s := by
  induction hLength : s.length using Nat.strong_induction_on generalizing s with
  | h n ih =>
      cases hCut : cut? d s with
      | none => exact none s hCut
      | some pair =>
          obtain ⟨before, after⟩ := pair
          have hShorter : after.length < s.length := by
            rw [append_of_cut? hCut, List.length_append, List.length_cons, List.length_cons]
            omega
          exact some s before after hCut (ih after.length (hLength ▸ hShorter) after rfl)

theorem join_cons {text : List Char} {texts : List (List Char)} (h : texts ≠ []) :
    join d (text :: texts) = text ++ d :: d :: join d texts := by
  obtain ⟨next, rest, rfl⟩ := List.exists_cons_of_ne_nil h
  rw [join, List.intercalate_cons_cons]
  simp [join]

/-- What was split is put together again. -/
theorem join_split (s : List Char) : join d (split d s) = s := by
  induction s using induction_cut? with
  | none s hCut =>
      rw [split_of_cut?_eq_none hCut]
      exact List.intercalate_singleton
  | some s before after hCut ih =>
      rw [split_of_cut?_eq_some hCut, join_cons (split_ne_nil d after), ih]
      exact (append_of_cut? hCut).symm

/-- The mark stands in no part. -/
theorem not_infix_of_mem_split {s text : List Char} (h : text ∈ split d s) :
    ¬ [d, d] <:+: text := by
  induction s using induction_cut? with
  | none s hCut =>
      rw [split_of_cut?_eq_none hCut, List.mem_singleton] at h
      exact h ▸ cut?_eq_none_iff.mp hCut
  | some s before after hCut ih =>
      rw [split_of_cut?_eq_some hCut] at h
      rcases List.mem_cons.mp h with rfl | h
      · exact fun hPair => not_infix_of_cut? hCut ((pair_infix_snoc_iff d text).mpr (.inl hPair))
      · exact ih h

/-- Only the last one of the texts between pairs can end with the separator. -/
theorem getLast?_ne_of_mem_dropLast_split {s text : List Char} (h : text ∈ (split d s).dropLast) :
    text.getLast? ≠ some d := by
  induction s using induction_cut? with
  | none s hCut =>
      rw [split_of_cut?_eq_none hCut] at h
      cases h
  | some s before after hCut ih =>
      rw [split_of_cut?_eq_some hCut, List.dropLast_cons_of_ne_nil (split_ne_nil d after)] at h
      rcases List.mem_cons.mp h with rfl | h
      · exact fun hLast => not_infix_of_cut? hCut ((pair_infix_snoc_iff d text).mpr (.inr hLast))
      · exact ih h

/-- Texts that are joined by pairs are found again, unless a pair stands in one of them or where one
of them meets the pair behind it. -/
theorem split_join_iff {texts : List (List Char)} :
    split d (join d texts) = texts ↔
      texts ≠ [] ∧ (∀ text ∈ texts, ¬ [d, d] <:+: text) ∧
        ∀ text ∈ texts.dropLast, text.getLast? ≠ some d := by
  constructor
  · intro h
    rw [← h]
    exact ⟨split_ne_nil d _, fun _ => not_infix_of_mem_split,
      fun _ => getLast?_ne_of_mem_dropLast_split⟩
  · rintro ⟨hNe, hPair, hLast⟩
    induction texts with
    | nil => exact absurd rfl hNe
    | cons text texts ih =>
        obtain ⟨hText, hPair⟩ := List.forall_mem_cons.mp hPair
        by_cases hEnd : texts = []
        · subst hEnd
          have hJoin : join d [text] = text := List.intercalate_singleton
          rw [hJoin, split_of_cut?_eq_none (cut?_eq_none_iff.mpr hText)]
        · rw [List.dropLast_cons_of_ne_nil hEnd] at hLast
          obtain ⟨hOwn, hLast⟩ := List.forall_mem_cons.mp hLast
          have hFirst : ¬ [d, d] <:+: text ++ [d] := by
            rw [pair_infix_snoc_iff, not_or]
            exact ⟨hText, hOwn⟩
          rw [join_cons hEnd, split_of_cut?_eq_some (cut?_append hFirst _), ih hEnd hPair hLast]

end ClassScript.Doubled
