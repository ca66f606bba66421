import ClassScript.ClassList
import ClassScript.Document.Attributes
import ClassScript.Document.Error

/-!
Documents: a tree of elements, texts and comments below a document node, together with the trees
that were taken out of it or never put in. Each change is refused as a whole or made as a whole.
-/

namespace ClassScript

inductive NodeData where
  | document
  | element (tag : String) (attributes : Attributes)
  | text (text : String)
  | comment (text : String)
deriving Repr, DecidableEq

namespace NodeData

def isElement : NodeData → Bool
  | element .. => true
  | _ => false

/-- Only elements have attributes. -/
def attributes : NodeData → Attributes
  | element _ attributes => attributes
  | _ => {}

end NodeData

/-- Nodes by id. The first one is the document node. -/
abbrev Document := Arena NodeData

namespace Document

def root : NodeId := ⟨0⟩

def empty : Document := { nodes := #[{ value := .document }] }

def isElement (d : Document) (id : NodeId) : Bool := (d.value? id).any NodeData.isElement

def tag? (d : Document) (id : NodeId) : Option String :=
  match d.value? id with
  | some (.element tag _) => some tag
  | _ => none

/-- The attributes of a node; a node that is no element has none. -/
def attributes (d : Document) (id : NodeId) : Attributes :=
  match d.value? id with
  | some data => data.attributes
  | none => {}

def attribute? (d : Document) (id : NodeId) (name : String) : Option String :=
  (d.attributes id).get? name

/-- The value of an attribute, whatever the case of the letters in the name asked for. -/
def getAttribute (d : Document) (id : NodeId) (name : String) : Option String :=
  d.attribute? id (Ascii.lower name)

def hasAttribute (d : Document) (id : NodeId) (name : String) : Bool :=
  (d.getAttribute id name).isSome

/-- The classes of a node; without a class attribute there are none. -/
def classList (d : Document) (id : NodeId) : ClassList :=
  match d.attribute? id "class" with
  | some text => .parse text
  | none => {}

def elementParent? (d : Document) (id : NodeId) : Option NodeId :=
  (d.parent? id).filter d.isElement

/-- The elements above a node, nearest first, up to the first node above that is no element. -/
def elementAncestors (d : Document) (id : NodeId) : List NodeId :=
  (d.ancestors id).takeWhile d.isElement

/-- The elements before a node among the children of its parent, nearest first. -/
def earlierElements (d : Document) (id : NodeId) : List NodeId :=
  match d.parent? id with
  | some parent => ((d.children parent).takeWhile (· ≠ id)).reverse.filter d.isElement
  | none => []

def previousElement? (d : Document) (id : NodeId) : Option NodeId := (d.earlierElements id).head?

def textContent (d : Document) (id : NodeId) : String :=
  String.join ((d.below id).labels.filterMap fun
    | (_, .text text) => some text
    | _ => none)

def createElement (d : Document) (tag : String) : NodeId × Document := d.create (.element tag {})

def createText (d : Document) (text : String) : NodeId × Document := d.create (.text text)

def createComment (d : Document) (text : String) : NodeId × Document := d.create (.comment text)

/-- Makes `child` the last child of `parent`, wherever it was before. -/
def append (d : Document) (parent child : NodeId) : Except AppendError Document :=
  let refuse reason := .error { child, parent, reason }
  if child = parent then refuse .itself
  else if (d.value? parent).isNone || (d.value? child).isNone then refuse .unknown
  else if (d.ancestors parent).contains child then refuse .ancestor
  else .ok (d.attach parent child)

def changeAttributes (d : Document) (id : NodeId) (change : Attributes → Attributes) :
    Except DomError Document :=
  match d.value? id with
  | some (.element tag attributes) => .ok (d.setValue id (.element tag (change attributes)))
  | _ => .error (.notAnElement id)

/-- Sets an attribute. Its name is checked as it was given, and kept in lower case. -/
def setAttribute (d : Document) (id : NodeId) (name value : String) : Except DomError Document :=
  if Attributes.isValidName name then
    d.changeAttributes id fun attributes => attributes.set (Ascii.lower name) value
  else .error (.invalidAttributeName name)

/-- Takes an attribute out, and says whether it was there. -/
def removeAttribute (d : Document) (id : NodeId) (name : String) :
    Except DomError (Bool × Document) := do
  let changed ← d.changeAttributes id fun attributes => attributes.erase (Ascii.lower name)
  return (d.hasAttribute id name, changed)

/-- A token has characters, and no blank among them. -/
def checkToken (token : String) : Except DomError Unit :=
  if token.isEmpty then .error .emptyToken
  else if token.toList.any Ascii.isBlank then .error (.tokenWithBlank token)
  else .ok ()

/-- Attributes with other classes. A class attribute that would be empty is not created. -/
def withClasses (change : ClassList → ClassList) (attributes : Attributes) : Attributes :=
  match attributes.get? "class" with
  | some text => attributes.set "class" (change (.parse text)).text
  | none =>
    let classes := change {}
    if classes.isEmpty then attributes else attributes.set "class" classes.text

/-- Adds classes. All tokens are checked before the node is looked at. -/
def addClasses (d : Document) (id : NodeId) (tokens : List String) : Except DomError Document := do
  tokens.forM checkToken
  d.changeAttributes id (withClasses (·.addAll tokens))

/-- Removes classes. All tokens are checked before the node is looked at. -/
def removeClasses (d : Document) (id : NodeId) (tokens : List String) :
    Except DomError Document := do
  tokens.forM checkToken
  d.changeAttributes id (withClasses (·.removeAll tokens))

end Document

end ClassScript
