/-!
The ASCII rules of documents: which characters separate words, and how letters are lower-cased.
-/

namespace ClassScript.Ascii

/-- The characters that separate words: space, tab, line feed, form feed and carriage return. -/
def isBlank (c : Char) : Bool :=
  c = ' ' || c = '\t' || c = '\n' || c = '\x0c' || c = '\r'

/-- Lower-cases the letters `A` to `Z` and keeps every other character. -/
def lower (s : String) : String :=
  String.ofList (s.toList.map Char.toLower)

/-- The runs of characters between blanks, in order; blanks at the ends or in a row add nothing. -/
def words (s : String) : List String :=
  ((s.toList.splitOnP isBlank).filter (· ≠ [])).map String.ofList

theorem toList_lower (s : String) : (lower s).toList = s.toList.map Char.toLower := by
  simp [lower]

end ClassScript.Ascii
