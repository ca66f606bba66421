import ClassScript.Session

/-!
Operations, which change a document at one of its nodes.
-/

namespace ClassScript

inductive OperationError where
  /-- The node cannot be taken out, because no element is above it. -/
  | noParent (node : NodeId)
  | document (error : DomError)
deriving Repr, DecidableEq

def OperationError.message : OperationError → String
  | noParent node => "node " ++ node.render ++ " has no parent element to be removed from"
  | document error => error.message

/-- What is done at a node with arguments. -/
abbrev Operation (σ : Type) := NodeId → List String → Action σ OperationError Unit

end ClassScript
