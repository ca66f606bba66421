import ClassScript.Document.Basic
import ClassScript.Json.Value
import ClassScript.Text.Blank
import ClassScript.Text.LowerCase

/-!
Documents as JSON, for comparing them. The snapshot forgets what readers do not see: comments, how a
text is cut into nodes, texts of white space only, the case of tags and the order of attributes.
-/

namespace ClassScript.Document

def textJson (text : String) : Json :=
  .object [("type", .string "text"), ("text", .string text)]

/-- A text, unless it is white space only. -/
def seenText (text : String) : List Json :=
  if text.toList.all Blank.isWide then [] else [textJson text]

/-- Attributes in the order of their names. -/
def attributesJson (attributes : Attributes) : Json :=
  .object ((attributes.entries.mergeSort fun a b => a.1 ≤ b.1).map fun (name, value) =>
    (name, .string value))

def elementJson (tag : String) (attributes : Attributes) (children : List Json) : Json :=
  .object [("type", .string "element"), ("tag", .string (LowerCase.lower tag)),
    ("attrs", attributesJson attributes), ("children", .array children)]

def documentJson (children : List Json) : Json :=
  .object [("type", .string "document"), ("children", .array children)]

/-- The snapshots of trees that stand in a row, with the text that was read just before them. -/
def snapshots (before : String) : Forest (NodeId × NodeData) → List Json
  | .nil => seenText before
  | .cons (_, data) children rest =>
    match data with
    | .text text => snapshots (before ++ text) rest
    | .comment _ => snapshots before rest
    | .element tag attributes =>
      seenText before ++ elementJson tag attributes (snapshots "" children) :: snapshots "" rest
    | .document => seenText before ++ documentJson (snapshots "" children) :: snapshots "" rest

/-- The snapshot of a node. A text or a comment that is asked for itself is shown as it is. -/
def toJson (d : Document) (id : NodeId) : Json :=
  match d.value? id with
  | none => .null
  | some .document => documentJson (snapshots "" (d.below id))
  | some (.element tag attributes) => elementJson tag attributes (snapshots "" (d.below id))
  | some (.text text) => textJson text
  | some (.comment text) => .object [("type", .string "comment"), ("text", .string text)]

end ClassScript.Document
