import ClassScript.Selector.Token

/-!
Selectors read from texts. Blanks between two compounds are a combinator unless another one stands
there; blanks elsewhere mean nothing.
-/

namespace ClassScript.Selector

/-- How far a selector has been read. The compound that is being read comes last. -/
inductive Progress where
  /-- In the first compound, or before it. -/
  | first (current : Compound)
  /-- Behind a combinator, the compound to the right of it possibly still to come. -/
  | later (first : Compound) (rest : List (Combinator × Compound)) (combinator : Combinator)
      (current : Compound)
deriving Repr, DecidableEq

namespace Progress

/-- Reads one more token. A combinator with its own character needs a compound on its left; where
blanks alone stand, it takes their place. -/
def step : Progress → Token → Option Progress
  | _, .unsupported => none
  | first current, .simple simple => some (first (current ++ [simple]))
  | later leftmost rest combinator current, .simple simple =>
    some (later leftmost rest combinator (current ++ [simple]))
  | first [], .combinator _ => none
  | first current, .combinator combinator => some (later current [] combinator [])
  | later leftmost rest .descendant [], .combinator combinator =>
    some (later leftmost rest combinator [])
  | later _ _ _ [], .combinator _ => none
  | later leftmost rest before current, .combinator combinator =>
    some (later leftmost (rest ++ [(before, current)]) combinator [])
  | first [], .blank => some (first [])
  | first current, .blank => some (later current [] .descendant [])
  | later leftmost rest combinator [], .blank => some (later leftmost rest combinator [])
  | later leftmost rest combinator current, .blank =>
    some (later leftmost (rest ++ [(combinator, current)]) .descendant [])

/-- The selector that was read. A combinator with its own character needs a compound on its right. -/
def finish : Progress → Option Selector
  | first current => some { first := current }
  | later leftmost rest .descendant [] => some { first := leftmost, rest }
  | later _ _ _ [] => none
  | later leftmost rest combinator current =>
    some { first := leftmost, rest := rest ++ [(combinator, current)] }

end Progress

/-- Reads one selector. A blank text is the empty selector. -/
def read? (text : String) : Option Selector :=
  (tokens text.toList).foldlM Progress.step (.first []) >>= Progress.finish

end ClassScript.Selector
