import ClassScript.Document.Basic

/-!
Documents written as markup.
-/

namespace ClassScript.Document

/-- Elements that have no end tag, and whose children are not written. -/
def isVoid (tag : String) : Bool :=
  ["area", "base", "br", "col", "embed", "hr", "img", "input", "link", "meta", "source", "track",
    "wbr", "param"].contains tag

/-- Elements in which texts are written as they are. -/
def isRawText (tag : String) : Bool :=
  ["style", "script", "xmp", "iframe", "noembed", "noframes", "plaintext", "noscript"].contains tag

/-- A text, or the value of an attribute, with names for the characters that would be read as markup. In
a text these are brackets, in a value quotes. -/
def escape (inAttribute : Bool) (s : List Char) : List Char :=
  s.flatMap fun
    | '&' => "&amp;".toList
    | '\u00a0' => "&nbsp;".toList
    | '\x22' => if inAttribute then "&quot;".toList else ['\x22']
    | '<' => if inAttribute then ['<'] else "&lt;".toList
    | '>' => if inAttribute then ['>'] else "&gt;".toList
    | c => [c]

def attributeMarkup (entry : String × String) : List Char :=
  ' ' :: (entry.1.toList ++ '=' :: '\x22' :: (escape true entry.2.toList ++ ['\x22']))

def startTag (tag : String) (attributes : Attributes) : List Char :=
  '<' :: (tag.toList ++ attributes.entries.flatMap attributeMarkup ++ ['>'])

def endTag (tag : String) : List Char := '<' :: '/' :: (tag.toList ++ ['>'])

/-- The markup of trees; `raw` says that they stand where texts are written as they are. What is
below a text or a comment is not written. -/
def markup (raw : Bool) : Forest (NodeId × NodeData) → List Char
  | .nil => []
  | .cons (_, data) children rest =>
    let first := match data with
      | .document => markup false children
      | .text text => if raw then text.toList else escape false text.toList
      | .comment text => "<!--".toList ++ text.toList ++ "-->".toList
      | .element tag attributes =>
        startTag tag attributes ++
          if isVoid tag then [] else markup (isRawText tag) children ++ endTag tag
    first ++ markup raw rest

/-- A node and what is below it as markup; of the document node, what is below it. -/
def toHtml (d : Document) (id : NodeId) : String := String.ofList (markup false (d.forest [id]))

def innerHtml (d : Document) (id : NodeId) : String :=
  String.ofList (markup ((d.tag? id).any isRawText) (d.below id))

end ClassScript.Document
