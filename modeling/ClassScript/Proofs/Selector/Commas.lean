import ClassScript.Selector.Group

/-!
The search for the commas between selectors, one character after the other. What it finds in a text
depends on what came before only through the quote and the brackets that are still open.
-/

namespace ClassScript.Selector

/-- How far the search has come: the open quote, if one is, and the number of open brackets. -/
structure Search where
  quote? : Option Char := none
  depth : Nat := 0
deriving DecidableEq

namespace Search

/-- Behind one more character, unless it is a comma that separates. -/
def step? (search : Search) (c : Char) : Option Search :=
  match search.quote? with
  | some quote => some { search with quote? := if c = quote then none else some quote }
  | none =>
      if c = '\x22' ∨ c = '\x27' then some { search with quote? := some c }
      else if c = '[' then some { search with depth := search.depth + 1 }
      else if c = ']' then some { search with depth := search.depth - 1 }
      else if c = ',' ∧ search.depth = 0 then none
      else some search

/-- Behind a whole text, unless a comma in it separates. -/
def run (search : Search) (s : List Char) : Option Search := s.foldlM step? search

/-- The texts between the commas that separate from here on. -/
def pieces (search : Search) (s : List Char) : List (List Char) :=
  splitAtCommas search.quote? search.depth s

/-- A comma separates where nothing is open, and nothing else does. -/
theorem step?_eq_none_iff {search : Search} {c : Char} :
    search.step? c = none ↔ search = {} ∧ c = ',' := by
  obtain ⟨quote?, depth⟩ := search
  cases quote? with
  | some quote => simp [step?]
  | none => grind [step?]

/-- A character goes to the first piece, or it is a comma that ends an empty one. -/
theorem pieces_cons (search : Search) (c : Char) (s : List Char) :
    search.pieces (c :: s) =
      match search.step? c with
      | none => [] :: pieces {} s
      | some next => (next.pieces s).modifyHead (c :: ·) := by
  obtain ⟨quote?, depth⟩ := search
  cases quote? with
  | some quote => rfl
  | none =>
      simp only [pieces, splitAtCommas, step?]
      grind

theorem pieces_comma (s : List Char) : pieces {} (',' :: s) = [] :: pieces {} s := rfl

theorem run_cons (search : Search) (c : Char) (s : List Char) :
    search.run (c :: s) = (search.step? c).bind fun next => next.run s :=
  List.foldlM_cons

/-- A text in which nothing separates goes to the first piece of what follows it. -/
theorem pieces_append {search behind : Search} {s : List Char} (h : search.run s = some behind)
    (t : List Char) : search.pieces (s ++ t) = (behind.pieces t).modifyHead (s ++ ·) := by
  induction s generalizing search with
  | nil =>
      cases h
      rw [List.nil_append]
      cases behind.pieces t <;> rfl
  | cons c s ih =>
      rw [run_cons, Option.bind_eq_some_iff] at h
      obtain ⟨next, hStep, hRun⟩ := h
      rw [List.cons_append, pieces_cons, hStep]
      simp only [ih hRun, List.modifyHead_modifyHead]
      rfl

/-- Nothing separates in the first piece. It is all there is, or a comma stands behind it where nothing
is open, and the search begins anew behind the comma. -/
theorem run_of_pieces {search : Search} {s first : List Char} {others : List (List Char)}
    (h : search.pieces s = first :: others) :
    ∃ behind, search.run first = some behind ∧
      (s = first ∧ others = [] ∨
        ∃ rest, behind = {} ∧ s = first ++ ',' :: rest ∧ others = pieces {} rest) := by
  induction s generalizing search first with
  | nil =>
      cases h
      exact ⟨search, rfl, .inl ⟨rfl, rfl⟩⟩
  | cons c s ih =>
      rw [pieces_cons] at h
      split at h
      · next hStep =>
          cases h
          obtain ⟨rfl, rfl⟩ := step?_eq_none_iff.mp hStep
          exact ⟨{}, rfl, .inr ⟨s, rfl, rfl, rfl⟩⟩
      · next next hStep =>
          cases hPieces : next.pieces s with
          | nil =>
              rw [hPieces] at h
              cases h
          | cons begun more =>
              rw [hPieces] at h
              cases h
              obtain ⟨behind, hRun, hRest⟩ := ih hPieces
              refine ⟨behind, ?_, ?_⟩
              · rw [run_cons, hStep]
                exact hRun
              · rcases hRest with ⟨rfl, rfl⟩ | ⟨rest, rfl, rfl, rfl⟩
                · exact .inl ⟨rfl, rfl⟩
                · exact .inr ⟨rest, rfl, rfl, rfl⟩

/-- There is always a piece, if only an empty one. -/
theorem pieces_ne_nil (search : Search) (s : List Char) : search.pieces s ≠ [] := by
  induction s generalizing search with
  | nil => exact List.cons_ne_nil _ _
  | cons c s ih =>
      rw [pieces_cons]
      split
      · exact List.cons_ne_nil _ _
      · next next _ => simpa using ih next

/-- Where no comma stands, none separates. -/
theorem exists_run_of_no_comma {s : List Char} (h : ',' ∉ s) (search : Search) :
    ∃ behind, search.run s = some behind := by
  induction s generalizing search with
  | nil => exact ⟨search, rfl⟩
  | cons c s ih =>
      rw [List.mem_cons, not_or] at h
      cases hStep : search.step? c with
      | none => exact absurd (step?_eq_none_iff.mp hStep).2.symm h.1
      | some next =>
          rw [run_cons, hStep]
          exact ih h.2 next

/-- A text is one piece exactly where no comma in it separates. -/
theorem pieces_eq_singleton_iff {search : Search} {s : List Char} :
    search.pieces s = [s] ↔ ∃ behind, search.run s = some behind := by
  constructor
  · intro h
    obtain ⟨behind, hRun, -⟩ := run_of_pieces h
    exact ⟨behind, hRun⟩
  · rintro ⟨behind, hRun⟩
    have hPieces := pieces_append hRun []
    rw [List.append_nil] at hPieces
    rw [hPieces]
    exact congrArg (fun text => [text]) (List.append_nil s)

/-- The comma behind a text separates it exactly when no comma in it does and nothing is left open. -/
theorem pieces_append_comma_iff {text s : List Char} {others : List (List Char)} :
    pieces {} (text ++ ',' :: s) = text :: others ↔ run {} text = some {} ∧ pieces {} s = others := by
  constructor
  · intro h
    obtain ⟨behind, hRun, ⟨hAll, -⟩ | ⟨rest, rfl, hSplit, rfl⟩⟩ := run_of_pieces h
    · simp at hAll
    · cases List.append_cancel_left hSplit
      exact ⟨hRun, rfl⟩
  · rintro ⟨hRun, rfl⟩
    rw [pieces_append hRun, pieces_comma, List.modifyHead_cons, List.append_nil]

/-- Texts with commas between them are found again exactly when no comma in one of them separates and
none but the last leaves something open. -/
theorem pieces_intercalate_iff {texts : List (List Char)} (hNe : texts ≠ []) :
    pieces {} ([','].intercalate texts) = texts ↔
      (∀ text ∈ texts.dropLast, run {} text = some {}) ∧
        ∀ text ∈ texts.getLast?, ∃ behind, run {} text = some behind := by
  induction texts with
  | nil => exact absurd rfl hNe
  | cons text texts ih =>
      cases texts with
      | nil =>
          rw [List.intercalate_singleton, pieces_eq_singleton_iff]
          simp
      | cons next others =>
          rw [List.intercalate_cons_cons, List.append_assoc, List.singleton_append,
            pieces_append_comma_iff, ih (List.cons_ne_nil next others)]
          simp [and_assoc]

end Search

end ClassScript.Selector
