/-!
JSON values made of texts.
-/

namespace ClassScript

/-- A value without numbers and truth values. -/
inductive Json where
  | null
  | string (text : String)
  | array (items : List Json)
  | object (fields : List (String × Json))
deriving Repr

end ClassScript
