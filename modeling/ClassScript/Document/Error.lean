import ClassScript.Arena

/-!
Why a change or a query of a document is refused, and the words in which it is said.
-/

namespace ClassScript

inductive DomError where
  | invalidAttributeName (name : String)
  | emptyToken
  | tokenWithBlank (token : String)
  | invalidSelector (selector : String)
  /-- The node is unknown, or it is no element. -/
  | notAnElement (node : NodeId)
deriving Repr, DecidableEq

namespace DomError

def message : DomError → String
  | invalidAttributeName name =>
    "InvalidCharacterError: '" ++ name ++ "' is not a valid attribute name"
  | emptyToken => "SyntaxError: the token must not be empty"
  | tokenWithBlank token => "InvalidCharacterError: the token '" ++ token ++ "' contains whitespace"
  | invalidSelector selector => "SyntaxError: '" ++ selector ++ "' is not a valid selector"
  | notAnElement node => "node " ++ node.render ++ " is not an element"

end DomError

inductive AppendError.Reason where
  /-- The two are one node. -/
  | itself
  /-- One of the two was never created. -/
  | unknown
  /-- The parent would be below its own child. -/
  | ancestor
deriving Repr, DecidableEq

/-- A node that cannot become a child of another. -/
structure AppendError where
  child : NodeId
  parent : NodeId
  reason : AppendError.Reason
deriving Repr, DecidableEq

namespace AppendError

def Reason.word : Reason → String
  | itself => "AppendSelf"
  | unknown => "Removed"
  | ancestor => "AppendAncestor"

def message (error : AppendError) : String :=
  "cannot append " ++ error.child.render ++ " to " ++ error.parent.render ++ ": " ++
    error.reason.word

end AppendError

end ClassScript
