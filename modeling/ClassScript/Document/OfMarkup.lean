import ClassScript.Html.Parse
import ClassScript.Session

/-!
Documents made from markup. Document types and instructions have no place in a document, and an
attribute whose name would be refused is left out.
-/

namespace ClassScript.Document

open Html (Item)

variable {σ : Type}

/-- Sets an attribute of a new element, or leaves it out and tells why. -/
def addAttribute (element : NodeId) (entry : String × String) : Action σ AppendError Unit := do
  match (← Action.document).setAttribute element entry.1 entry.2 with
  | .ok document => Action.setDocument document
  | .error error => Action.note (.attributeDropped error)

def addNode (parent : NodeId) (data : NodeData) (attributes : List (String × String)) :
    Action σ AppendError NodeId := do
  let (child, document) := (← Action.document).create data
  Action.setDocument document
  attributes.forM (addAttribute child)
  Action.edit fun d => d.append parent child
  return child

/-- Puts trees below a node. Each node is put in its place before the nodes below it are made, so
that nodes are numbered in document order. -/
def addForest (parent : NodeId) : Forest Item → Action σ AppendError Unit
  | .nil => pure ()
  | .cons item children rest => do
    match item with
    | .root => addForest parent children
    | .doctype _ | .instruction .. => pure ()
    | .text text => discard (addNode parent (.text text) [])
    | .comment text => discard (addNode parent (.comment text) [])
    | .element tag attributes =>
      let element ← addNode parent (.element tag {}) attributes
      addForest element children
    addForest parent rest

def ofForest (forest : Forest Item) : Outcome Unit AppendError Unit :=
  (addForest root forest).run { document := empty, memory := () }

/-- The document that a markup text describes, and what happened on the way. -/
def ofHtml (text : String) : Outcome Unit AppendError Unit := ofForest (Html.parse text)

end ClassScript.Document
