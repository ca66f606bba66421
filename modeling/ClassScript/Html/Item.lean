import ClassScript.Forest

/-!
What a markup text says: the tree of its elements, texts and comments as written, before names are
checked and nodes are numbered.
-/

namespace ClassScript.Html

/-- A node of parsed markup. Attributes stand in the order of their tag. -/
inductive Item where
  /-- The invisible top of a document or of a fragment. -/
  | root
  | doctype (name : String)
  | instruction (target data : String)
  | text (text : String)
  | comment (text : String)
  | element (tag : String) (attributes : List (String × String))
deriving Repr, DecidableEq

end ClassScript.Html
