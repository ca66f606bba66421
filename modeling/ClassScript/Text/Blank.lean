import ClassScript.Text.CharSet

/-!
White space in the wide sense, which has no ink in any script, and texts without it at their ends.
-/

namespace ClassScript.Blank

/-- The characters with the property `White_Space`. -/
def whiteSpace : CharSet where
  bounds := [0x9, 0xe, 0x20, 0x21, 0x85, 0x86, 0xa0, 0xa1, 0x1680, 0x1681, 0x2000, 0x200b, 0x2028,
    0x202a, 0x202f, 0x2030, 0x205f, 0x2060, 0x3000, 0x3001]

def isWide (c : Char) : Bool := whiteSpace.contains c

def trim (s : List Char) : List Char :=
  ((s.dropWhile isWide).reverse.dropWhile isWide).reverse

end ClassScript.Blank
