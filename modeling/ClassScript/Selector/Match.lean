import ClassScript.Document.Basic
import ClassScript.Selector.Basic

/-!
Which nodes a selector holds of. It is read from right to left: the node itself has to meet the last
compound, and one of the nodes that stand to it as the combinator says has to meet the rest.
-/

namespace ClassScript.Document

open Selector

def hasClass (d : Document) (id : NodeId) (name : String) : Bool :=
  (d.attribute? id "class").any fun text => (Ascii.words text).contains name

/-- Whether a node meets a condition. The empty tag is every node's. -/
def meets (d : Document) (id : NodeId) : Simple → Bool
  | .universal => true
  | .tag name => name.isEmpty || (d.tag? id).getD "" = name
  | .cls name => d.hasClass id name
  | .id name => d.attribute? id "id" = some name
  | .attribute name => (d.attribute? id name).isSome
  | .attributeValue name comparison value =>
    (d.attribute? id name).any fun actual => comparison.holds actual value

def meetsAll (d : Document) (id : NodeId) (compound : Compound) : Bool := compound.all (d.meets id)

/-- The nodes that a combinator relates to the node on its right. -/
def related (d : Document) (id : NodeId) : Combinator → List NodeId
  | .descendant => d.elementAncestors id
  | .child => (d.elementParent? id).toList
  | .adjacentSibling => (d.previousElement? id).toList
  | .generalSibling => d.earlierElements id

/-- Whether a node meets the compounds, the rightmost first, each with the combinator on its left;
the leftmost one stands apart. -/
def satisfiesLeftward (d : Document) (leftmost : Compound) :
    List (Combinator × Compound) → NodeId → Bool
  | [], id => d.meetsAll id leftmost
  | (combinator, compound) :: left, id =>
    d.meetsAll id compound && (d.related id combinator).any (d.satisfiesLeftward leftmost left)

/-- Whether a selector holds of a node. The node may be of any kind. -/
def satisfies (d : Document) (id : NodeId) (selector : Selector) : Bool :=
  d.satisfiesLeftward selector.first selector.rest.reverse id

def satisfiesAny (d : Document) (id : NodeId) (group : List Selector) : Bool :=
  group.any (d.satisfies id)

end ClassScript.Document
