import ClassScript.Html.Builder

/-!
Formatting that outlives its element. A formatting element that is cut off by another end tag is
opened again in what follows, and an end tag that crosses a block moves the block out of it.
-/

namespace ClassScript.Html.Build

def isBorder : Formatting → Bool
  | .border => true
  | .element _ _ => false

/-- Whether an entry need not be opened again: a border, or an element that is still open. -/
def stands (stack : List Opened) : Formatting → Bool
  | .border => true
  | .element id _ => stack.any (·.id = id)

/-- Forgets the formatting of the innermost region. -/
def clearToBorder : Build Unit :=
  modify fun b => { b with
    formatting := (b.formatting.dropWhile fun entry => !isBorder entry).tail }

def addBorder : Build Unit :=
  modify fun b => { b with formatting := .border :: b.formatting }

def eraseFormatting (id : NodeId) : Build Unit :=
  modify fun b => { b with formatting := b.formatting.eraseP (·.isFor id) }

def replaceFormatting (id : NodeId) (entry : Formatting) : Build Unit :=
  modify fun b => { b with
    formatting := b.formatting.map fun old => if old.isFor id then entry else old }

/-- Puts an entry just after, that is later than, the one for `id`. -/
def insertAfterFormatting (id : NodeId) (entry : Formatting) : Build Unit :=
  modify fun b => { b with
    formatting := b.formatting.flatMap fun old => if old.isFor id then [entry, old] else [old] }

/-- Whether two tags ask for the same formatting: same name, and same attributes in any order. -/
def sameFormatting (first second : Tag) : Bool :=
  first.name == second.name &&
    first.attributes.length == second.attributes.length &&
    first.attributes.all second.attributes.contains

/-- Of three entries alike in the innermost region, the earliest makes room for a fourth. -/
def withRoomFor (tag : Tag) (formatting : List Formatting) : List Formatting :=
  let (region, rest) := formatting.span fun entry => !isBorder entry
  let alike : Formatting → Bool
    | .border => false
    | .element _ other => sameFormatting tag other
  if 3 ≤ region.countP alike then (region.reverse.eraseP alike).reverse ++ rest else formatting

def openFormatting (tag : Tag) : Build Unit := do
  modify fun b => { b with formatting := withRoomFor tag b.formatting }
  let opened ← openElement tag
  modify fun b => { b with formatting := .element opened.id tag :: b.formatting }

/-- Opens the listed formatting, earliest first, and gives the entries for the new elements. -/
def reopen : List Formatting → Build (List Formatting)
  | [] => return []
  | .border :: rest => return .border :: (← reopen rest)
  | .element _ tag :: rest => do
    let opened ← openElement tag
    return .element opened.id tag :: (← reopen rest)

/-- Opens the formatting again that is no longer open since the last that is, or since the border. -/
def reopenFormatting : Build Unit := do
  let b ← get
  let (closed, rest) := b.formatting.span fun entry => !stands b.stack entry
  let entries ← reopen closed.reverse
  modify fun b => { b with formatting := entries.reverse ++ rest }

/-- Closes the innermost element with the tag, unless a special element is in the way. -/
def closeAny (tag : String) : Build Unit := do
  let b ← get
  match b.stack.dropWhile fun opened => !(opened.is tag || opened.name.isSpecial) with
  | opened :: outer =>
    if opened.is tag then set { b with stack := outer }
  | [] => pure ()

structure Split where
  inside : List Opened
  opened : Opened
  outside : List Opened

def splitAt? (test : Opened → Bool) : List Opened → Option Split
  | [] => none
  | opened :: outer =>
    if test opened then some ⟨[], opened, outer⟩
    else (splitAt? test outer).map fun split => { split with inside := opened :: split.inside }

/-- How formatting elements between a block and an outer formatting element are treated. The block is
put into a copy of each of the nearest three, provided that it is still to be repeated; others close. -/
structure Crossing where
  /-- What is moved outward so far. -/
  last : NodeId
  /-- The entry after which the crossed formatting is to be repeated. -/
  bookmark : Option NodeId := none
  /-- The elements that stay open, innermost first. -/
  kept : List Opened := []

def cross (block : NodeId) : Nat → Crossing → List Opened → Build Crossing
  | _, crossing, [] => return crossing
  | count, crossing, opened :: outer => do
    let b ← get
    let entry := b.formatting.find? (·.isFor opened.id)
    match decide (count < 3), entry with
    | true, some (.element _ tag) =>
      let copy ← newElement { tag := tag.name } tag.attributes
      replaceFormatting opened.id (.element copy.id tag)
      putNode (.lastIn copy.id) crossing.last
      let bookmark := if crossing.last = block then some copy.id else crossing.bookmark
      cross block (count + 1) ⟨copy.id, bookmark, crossing.kept ++ [copy]⟩ outer
    | _, _ =>
      eraseFormatting opened.id
      cross block (count + 1) crossing outer

def moveChildren (source target : NodeId) : Build Unit :=
  modify fun b => { b with
    tree := (b.tree.children source).foldl (fun tree child => tree.attach target child) b.tree }

/-- Ends formatting across the outermost block inside it: the block moves out, and its content is
wrapped in a copy of the formatting element. -/
def moveBlockOut (tag : Tag) (block : Opened) (above between : List Opened) (formatted : Opened)
    (outside : List Opened) : Build Unit := do
  let crossing ← cross block.id 0 { last := block.id } between
  modify fun b => { b with
    tree := b.tree.detach crossing.last
    stack := above ++ block :: crossing.kept ++ formatted :: outside }
  match outside with
  | [] => pure ()
  | ancestor :: _ => putNode (← placeIn ancestor) crossing.last
  let copy ← newElement { tag := tag.name } tag.attributes
  moveChildren block.id copy.id
  putNode (.lastIn block.id) copy.id
  match crossing.bookmark with
  | none => replaceFormatting formatted.id (.element copy.id tag)
  | some mark =>
    insertAfterFormatting mark (.element copy.id tag)
    eraseFormatting formatted.id
  modify fun b => { b with
    stack := above ++ copy :: block :: crossing.kept ++ outside }

/-- Ends the formatting of a tag, at most so many times. -/
def endFormattingUpTo (subject : String) : Nat → Build Unit
  | 0 => pure ()
  | rounds + 1 => do
    let b ← get
    let wanted : Formatting → Option (NodeId × Tag)
      | .border => none
      | .element id tag => if tag.name = subject then some (id, tag) else none
    match (b.formatting.takeWhile fun entry => !isBorder entry).findSome? wanted with
    | none => closeAny subject
    | some (id, tag) =>
      match splitAt? (·.id = id) b.stack with
      | none => eraseFormatting id
      | some split =>
        if found Name.endsScope (·.id = id) b.stack then
          match splitAt? (·.name.isSpecial) split.inside.reverse with
          | none =>
            eraseFormatting id
            modify fun b => { b with stack := split.outside }
          | some inner =>
            moveBlockOut tag inner.opened inner.outside.reverse inner.inside.reverse split.opened
              split.outside
            endFormattingUpTo subject rounds

/-- Ends the formatting of a tag. Eight rounds are all that is tried. -/
def endFormatting (subject : String) : Build Unit := do
  let b ← get
  match b.stack with
  | opened :: outer =>
    if opened.is subject && !b.formatting.any (·.isFor opened.id) then
      set { b with stack := outer }
    else endFormattingUpTo subject 8
  | [] => endFormattingUpTo subject 8

/-- Ends an anchor that is still open or to be repeated, since anchors do not nest. -/
def endOpenAnchor : Build Unit := do
  let b ← get
  let anchor : Formatting → Option NodeId
    | .border => none
    | .element id tag => if tag.name = "a" then some id else none
  match (b.formatting.takeWhile fun entry => !isBorder entry).findSome? anchor with
  | none => pure ()
  | some id =>
    endFormatting "a"
    eraseFormatting id
    modify fun b => { b with stack := b.stack.eraseP (·.id = id) }

end ClassScript.Html.Build
