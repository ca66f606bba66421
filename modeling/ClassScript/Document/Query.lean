import ClassScript.Selector.Group
import ClassScript.Selector.Match

/-!
Elements found by the text of a selector.
-/

namespace ClassScript.Document

open Selector

def readSelector (text : String) : Except DomError (List Selector) :=
  match readGroup? text with
  | some group => .ok group
  | none => .error (.invalidSelector text)

/-- Whether a node is an element of which one of the selectors holds. -/
def selected (d : Document) (group : List Selector) (id : NodeId) : Bool :=
  d.isElement id && d.satisfiesAny id group

/-- Whether a node is an element of which the selector holds. -/
def matchesSelector (d : Document) (id : NodeId) (selector : String) : Except DomError Bool := do
  return d.selected (← readSelector selector) id

/-- The elements below a node of which the selector holds, in document order. -/
def queryAll (d : Document) (id : NodeId) (selector : String) : Except DomError (List NodeId) := do
  return (d.descendants id).filter (d.selected (← readSelector selector))

def query (d : Document) (id : NodeId) (selector : String) : Except DomError (Option NodeId) := do
  return (d.descendants id).find? (d.selected (← readSelector selector))

end ClassScript.Document
