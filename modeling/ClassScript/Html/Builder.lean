import ClassScript.Arena
import ClassScript.Text.Ascii
import ClassScript.Html.Item
import ClassScript.Html.Name
import ClassScript.Html.Token

/-!
The tree of a markup text while it is built: the nodes so far, the elements that are still open, and
the formatting that is carried on into later elements.
-/

namespace ClassScript.Html

inductive Mode where
  | start
  | beforeHtml
  | beforeHead
  | inHead
  | afterHead
  | inBody
  | inText
  | inTable
  | inTableText
  | inCaption
  | inColumnGroup
  | inTableBody
  | inRow
  | inCell
  | inSelect
  | inSelectInTable
  | inTemplate
  | afterBody
  | inFrameset
  | afterFrameset
  | afterDocument
  | afterFramesetDocument
deriving Repr, DecidableEq, Inhabited

/-- An element that is not ended yet. New children go to `inner`, which is the element itself except
for a template, whose content is a tree of its own. -/
structure Opened where
  id : NodeId
  name : Name
  inner : NodeId
deriving Repr, DecidableEq

def Opened.is (opened : Opened) (tag : String) : Bool := opened.name.isHtml [tag]

/-- A formatting element that later elements repeat, or the border of a region. -/
inductive Formatting where
  | border
  | element (id : NodeId) (tag : Tag)
deriving Repr, DecidableEq

def Formatting.isFor (entry : Formatting) (id : NodeId) : Bool :=
  match entry with
  | border => false
  | element other _ => other = id

structure Builder where
  tree : Arena Item := {}
  mode : Mode := .start
  /-- The mode to go back to after raw text or the text of a table. -/
  returnMode : Mode := .inBody
  /-- The modes of the open templates, innermost first. -/
  templateModes : List Mode := []
  /-- The open elements, innermost first. -/
  stack : List Opened := []
  /-- The formatting to repeat, latest first. -/
  formatting : List Formatting := []
  head : Option Opened := none
  form : Option NodeId := none
  /-- Nothing yet stands against a frameset in place of the body. -/
  framesetAllowed : Bool := true
  /-- A line feed at the front of the next text is dropped. -/
  skipLineFeed : Bool := false
  /-- What a table cannot hold goes before the table. -/
  fostering : Bool := false
  oldRules : Bool := false
  /-- The texts of a table that wait for a decision, in order. -/
  tableText : List String := []
  content : Content := .markup
deriving Repr

def Builder.documentNode : NodeId := ⟨0⟩

def Builder.initial : Builder := { tree := ({} : Arena Item).create .root |>.2 }

abbrev Build := StateM Builder

inductive Outcome where
  | done
  /-- Switch to a mode and read the same token again. -/
  | again (mode : Mode)
  /-- Read the same token by the rules of another mode, without a switch. -/
  | asIn (mode : Mode)
deriving Repr, DecidableEq

namespace Build

def current? : Build (Option Opened) := return (← get).stack.head?

def currentIs (tags : List String) : Build Bool := do
  match ← current? with
  | some opened => return opened.name.isHtml tags
  | none => return false

def push (opened : Opened) : Build Unit :=
  modify fun b => { b with stack := opened :: b.stack }

def pop : Build Unit :=
  modify fun b => { b with stack := b.stack.tail }

/-- Closes elements up to and including the first that passes the test. -/
def popThrough (test : Opened → Bool) : Build Unit :=
  modify fun b => { b with stack := (b.stack.dropWhile fun opened => !test opened).tail }

def popThroughTags (tags : List String) : Build Unit :=
  popThrough fun opened => opened.name.isHtml tags

def popBackTo (tags : List String) : Build Unit :=
  modify fun b => { b with stack := b.stack.dropWhile fun opened => !opened.name.isHtml tags }

/-- Whether an open element passes the test before the search ends. -/
def found (ends : Name → Bool) (test : Opened → Bool) : List Opened → Bool
  | [] => false
  | opened :: outer => test opened || (!ends opened.name && found ends test outer)

def inScope (ends : Name → Bool) (tags : List String) : Build Bool := do
  return found ends (fun opened => opened.name.isHtml tags) (← get).stack

def anyOpen (tag : String) : Build Bool :=
  return (← get).stack.any (·.is tag)

def closeImplied (tags : List String) (keep : String) : Build Unit :=
  modify fun b => { b with
    stack := b.stack.dropWhile fun opened => opened.name.isHtml tags && opened.name.tag != keep }

def closeImpliedEnds : Build Unit := closeImplied Name.impliedEnd ""

/-- Closes a paragraph and what is open in it. -/
def closeParagraph : Build Unit := do
  closeImplied Name.impliedEnd "p"
  popThroughTags ["p"]

def closeParagraphInScope : Build Unit := do
  if ← inScope Name.endsButtonScope ["p"] then closeParagraph

inductive Place where
  | lastIn (parent : NodeId)
  /-- Just before a node that has a parent. -/
  | before (mark : NodeId)
deriving Repr, DecidableEq

/-- The place for what a table cannot hold: before the table, or in what holds it where the table is
in no tree, or in the content of a template that is nearer. -/
def fosterPlace (tree : Arena Item) : List Opened → Place
  | [] => .lastIn Builder.documentNode
  | [outermost] => .lastIn outermost.inner
  | opened :: next :: outer =>
    if opened.is "template" then .lastIn opened.inner
    else if opened.is "table" then
      if (tree.parent? opened.id).isSome then .before opened.id else .lastIn next.id
    else fosterPlace tree (next :: outer)

def placeIn (target : Opened) : Build Place := do
  let b ← get
  if b.fostering && target.name.isHtml Name.tableParts then return fosterPlace b.tree b.stack
  else return .lastIn target.inner

def place : Build Place := do
  match ← current? with
  | some target => placeIn target
  | none => return .lastIn Builder.documentNode

def putNode (place : Place) (id : NodeId) : Build Unit :=
  modify fun b => { b with tree := match place with
    | .lastIn parent => b.tree.attach parent id
    | .before mark => b.tree.attachBefore mark id }

def newNode (item : Item) : Build NodeId :=
  modifyGet fun b =>
    let (id, tree) := b.tree.create item
    (id, { b with tree })

def nodeBefore? (tree : Arena Item) : Place → Option NodeId
  | .lastIn parent => (tree.children parent).getLast?
  | .before mark =>
    match tree.parent? mark with
    | none => none
    | some parent => ((tree.children parent).takeWhile (· ≠ mark)).getLast?

/-- Adds a text; a text that stands just before the place is continued. -/
def putText (text : String) : Build Unit := do
  let place ← place
  let b ← get
  let neighbour := nodeBefore? b.tree place
  match neighbour, neighbour.bind b.tree.value? with
  | some id, some (.text before) =>
    set { b with tree := b.tree.setValue id (.text (before ++ text)) }
  | _, _ => putNode place (← newNode (.text text))

def putComment (text : String) : Build Unit := do
  putNode (← place) (← newNode (.comment text))

def putCommentIn (parent : NodeId) (text : String) : Build Unit := do
  putNode (.lastIn parent) (← newNode (.comment text))

/-- Creates an element that is in no tree yet. -/
def newElement (name : Name) (attributes : List (String × String)) : Build Opened := do
  let id ← newNode (.element name.tag attributes)
  let inner ← if name.isHtml ["template"] then newNode .root else pure id
  return { id, name, inner }

def putElement (name : Name) (attributes : List (String × String)) : Build Opened := do
  let place ← place
  let opened ← newElement name attributes
  putNode place opened.id
  return opened

def openElement (tag : Tag) : Build Opened := do
  let opened ← putElement { tag := tag.name } tag.attributes
  push opened
  return opened

def addVoid (tag : Tag) : Build Unit := do
  let _ ← putElement { tag := tag.name } tag.attributes

/-- Adds and opens an element that the markup leaves out. -/
def openImplied (tag : String) : Build Opened := openElement { name := tag }

/-- Adds attributes that the element does not have yet. -/
def addMissing (id : NodeId) (attributes : List (String × String)) : Build Unit :=
  modify fun b =>
    match b.tree.value? id with
    | some (.element tag old) =>
      let new := attributes.filter fun (name, _) => (old.lookup name).isNone
      { b with tree := b.tree.setValue id (.element tag (old ++ new)) }
    | _ => b

def switchTo (mode : Mode) : Build Unit := modify fun b => { b with mode }

def refuseFrameset : Build Unit := modify fun b => { b with framesetAllowed := false }

/-- Opens an element whose content is read as text up to its end tag. -/
def openText (tag : Tag) (content : Content) : Build Unit := do
  let _ ← openElement tag
  modify fun b => { b with returnMode := b.mode, mode := .inText, content }

/-- Whether a select is nearer to a table than to a template. -/
def selectMode : List Opened → Mode
  | [] => .inSelect
  | opened :: outer =>
    if opened.is "template" then .inSelect
    else if opened.is "table" then .inSelectInTable
    else selectMode outer

/-- The mode that fits the open elements. -/
def modeFor (b : Builder) : List Opened → Mode
  | [] => .inBody
  | opened :: outer =>
    if opened.is "select" then selectMode outer
    else if opened.name.isHtml Name.cells && !outer.isEmpty then .inCell
    else if opened.is "tr" then .inRow
    else if opened.name.isHtml Name.tableBodies then .inTableBody
    else if opened.is "caption" then .inCaption
    else if opened.is "colgroup" then .inColumnGroup
    else if opened.is "table" then .inTable
    else if opened.is "template" then b.templateModes.headD .inBody
    else if opened.is "head" && !outer.isEmpty then .inHead
    else if opened.is "body" then .inBody
    else if opened.is "frameset" then .inFrameset
    else if opened.is "html" then if b.head.isSome then .afterHead else .beforeHead
    else modeFor b outer

def resetMode : Build Unit := modify fun b => { b with mode := modeFor b b.stack }

/-- The outcome that reads the token again in the mode that fits the open elements. -/
def againInFittingMode : Build Outcome := do
  let b ← get
  return .again (modeFor b b.stack)

end Build

end ClassScript.Html
