/-!
The words of markup: tags, texts, comments and doctypes, as they are cut from the text.
-/

namespace ClassScript.Html

/-- A tag with its attributes, the first of each name. The slash at the end of a tag is kept because
it ends elements of foreign vocabularies. -/
structure Tag where
  name : String
  attributes : List (String × String) := []
  selfClosing : Bool := false
deriving Repr, DecidableEq, Inhabited

def Tag.attribute? (tag : Tag) (name : String) : Option String := tag.attributes.lookup name

/-- A document type declaration. It counts as broken where the text does not follow its grammar. -/
structure Doctype where
  name : String := ""
  publicId : Option String := none
  systemId : Option String := none
  broken : Bool := false
deriving Repr, DecidableEq

inductive Token where
  | doctype (doctype : Doctype)
  | startTag (tag : Tag)
  | endTag (name : String)
  | comment (text : String)
  | text (text : String)
  /-- A null character outside the places that replace it. -/
  | null
  /-- Something ill-formed that has no content of its own but stands between two tokens. -/
  | fault
  | eof
deriving Repr, DecidableEq

/-- How the text after a tag is cut into tokens. -/
inductive Content where
  /-- Tags, comments and references; marked sections only inside foreign vocabularies. -/
  | markup
  /-- References but no tags, up to the end tag of the name. -/
  | escapable (name : String)
  /-- Neither references nor tags, up to the end tag of the name. -/
  | raw (name : String)
  /-- A script, whose comments may hold end tags. -/
  | script
  /-- Everything up to the end of the input. -/
  | plain
deriving Repr, DecidableEq

/-- Null characters are shown by the replacement character. -/
def replaceNull (c : Char) : Char := if c = '\x00' then '\ufffd' else c

end ClassScript.Html
