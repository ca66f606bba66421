/-!
Sets of characters, written as the code points at which membership changes.
-/

namespace ClassScript

/-- The characters from the first bound up to below the second are in, those up to below the third
are out, and so on in turns. The bounds ascend. -/
structure CharSet where
  bounds : List Nat
deriving Repr

namespace CharSet

/-- How a code point stands to ascending bounds: in where an odd number of them is not above it. -/
def isWithin : List Nat → Nat → Bool
  | [], _ => false
  | bound :: rest, n => if n < bound then false else !isWithin rest n

def contains (set : CharSet) (c : Char) : Bool := isWithin set.bounds c.toNat

end CharSet

end ClassScript
