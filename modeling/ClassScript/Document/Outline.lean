import ClassScript.Document.Basic
import ClassScript.Text.Quoted

/-!
Documents drawn as an outline: a line for each node, indented by its depth.
-/

namespace ClassScript.Document

/-- A node without what is below it. -/
def outlineLabel : NodeData → String
  | .document => "#document"
  | .element tag attributes =>
    "<" ++ tag ++ String.join (attributes.entries.map fun (name, value) =>
      " " ++ name ++ "=" ++ Quoted.quote value) ++ ">"
  | .text text => "#text " ++ Quoted.quote text
  | .comment text => "#comment " ++ Quoted.quote text

def outlineLines (depth : Nat) : Forest (NodeId × NodeData) → List String
  | .nil => []
  | .cons (_, data) children rest =>
    (String.join (List.replicate depth "  ") ++ outlineLabel data) ::
      (outlineLines (depth + 1) children ++ outlineLines depth rest)

/-- The whole document as an outline. Each line ends with a line feed. -/
def outline (d : Document) : String :=
  String.join (("DOM" :: outlineLines 0 (d.forest [root])).map (· ++ "\n"))

end ClassScript.Document
