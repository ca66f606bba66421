/-!
Separators that are one character written twice. Reading from the left, a pair of separator
characters is taken as soon as it appears, so of three in a row the last one is ordinary text.
-/

namespace ClassScript.Doubled

/-- The text before and after the first pair of `d`, if there is one. -/
def cut? (d : Char) : List Char → Option (List Char × List Char)
  | [] => none
  | [_] => none
  | x :: y :: rest =>
    if x = d ∧ y = d then some ([], rest)
    else (cut? d (y :: rest)).map fun (before, after) => (x :: before, after)

/-- The texts between the pairs of `d`; there is always at least one. -/
def split (d : Char) : List Char → List (List Char)
  | [] => [[]]
  | [x] => [[x]]
  | x :: y :: rest =>
    if x = d ∧ y = d then [] :: split d rest
    else (split d (y :: rest)).modifyHead (x :: ·)

/-- Writes a pair of `d` between neighbouring texts. -/
def join (d : Char) (texts : List (List Char)) : List Char :=
  [d, d].intercalate texts

/-- There is always a part, if only an empty one. -/
theorem split_ne_nil (d : Char) (s : List Char) : split d s ≠ [] := by
  fun_induction split d s with
  | case1 => simp
  | case2 => simp
  | case3 => simp
  | case4 x y rest h ih => simpa using ih

/-- What was cut apart is put together again by the pair between. -/
theorem append_of_cut? {d : Char} {s before after : List Char}
    (h : cut? d s = some (before, after)) : s = before ++ d :: d :: after := by
  fun_induction cut? d s generalizing before after with
  | case1 => simp at h
  | case2 => simp at h
  | case3 x y rest hPair =>
    obtain ⟨rfl, rfl⟩ := hPair
    simp_all
  | case4 x y rest hPair ih =>
    obtain ⟨⟨first, second⟩, hCut, hEq⟩ := Option.map_eq_some_iff.1 h
    cases hEq
    simp [ih hCut]

end ClassScript.Doubled
