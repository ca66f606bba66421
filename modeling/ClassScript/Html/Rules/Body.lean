import ClassScript.Html.Rules.Foreign

/-!
The rules for the body: blocks, lists, headings, formatting, and the elements that hold text only.
-/

namespace ClassScript.Html.Build

/-- Blocks: their start ends a paragraph, and their end tag closes what is open in them. -/
def blockTags : List String :=
  ["address", "article", "aside", "blockquote", "center", "details", "dialog", "dir", "div", "dl",
   "fieldset", "figcaption", "figure", "footer", "header", "hgroup", "main", "menu", "nav", "ol",
   "section", "summary", "ul"]

/-- Formatting elements, apart from anchors and `nobr`, which do not nest. -/
def formattingTags : List String :=
  ["b", "big", "code", "em", "font", "i", "s", "small", "strike", "strong", "tt", "u"]

/-- Elements inside which formatting starts anew. -/
def regionTags : List String := ["applet", "marquee", "object"]

/-- Parts of tables and of the outer structure that mean nothing in the body. -/
def strayTags : List String :=
  ["caption", "col", "colgroup", "frame", "head", "tbody", "td", "tfoot", "th", "thead", "tr"]

def isHiddenInput (tag : Tag) : Bool :=
  tag.name = "input" && (tag.attribute? "type").any fun kind => Ascii.lower kind = "hidden"

/-- The nearest open item that a new item of a list ends, unless a special element is in the way. -/
def itemToClose? (tags : List String) : List Opened → Option String
  | [] => none
  | opened :: outer =>
    if opened.name.isHtml tags then some opened.name.tag
    else if opened.name.isSpecial && !opened.name.isHtml ["address", "div", "p"] then none
    else itemToClose? tags outer

def openItem (tag : Tag) (tags : List String) : Build Unit := do
  refuseFrameset
  match itemToClose? tags (← get).stack with
  | some name =>
    closeImplied Name.impliedEnd name
    popThroughTags [name]
  | none => pure ()
  closeParagraphInScope
  let _ ← openElement tag

def closeInScope (name : String) : Build Unit := do
  if ← inScope Name.endsScope [name] then
    closeImpliedEnds
    popThroughTags [name]

def closeItem (name : String) : Build Unit := do
  let ends := if name = "li" then Name.endsListScope else Name.endsScope
  if ← inScope ends [name] then
    closeImplied Name.impliedEnd name
    popThroughTags [name]

/-- Starts a form. Forms do not nest, except inside templates. -/
def openForm (tag : Tag) : Build Unit := do
  let inTemplate ← anyOpen "template"
  if (← get).form.isNone || inTemplate then
    closeParagraphInScope
    let opened ← openElement tag
    if !inTemplate then modify fun b => { b with form := some opened.id }

/-- Ends a form. Outside templates only the form itself is closed, wherever it is. -/
def closeForm : Build Unit := do
  if ← anyOpen "template" then
    if ← inScope Name.endsScope ["form"] then
      closeImpliedEnds
      popThroughTags ["form"]
  else
    let b ← get
    match b.form with
    | none => pure ()
    | some form =>
      set { b with form := none }
      if found Name.endsScope (·.id = form) b.stack then
        closeImpliedEnds
        modify fun b => { b with stack := b.stack.eraseP (·.id = form) }

/-- Starts a select. Inside a table its content has rules of its own. -/
def openSelect (tag : Tag) : Build Unit := do
  reopenFormatting
  let _ ← openElement tag
  refuseFrameset
  modify fun b => { b with
    mode := if [Mode.inTable, .inCaption, .inTableBody, .inRow, .inCell].contains b.mode
      then .inSelectInTable else .inSelect }

/-- Replaces the body by a frameset, where nothing stands against it. -/
def replaceBodyByFrameset (tag : Tag) : Build Unit := do
  let b ← get
  if b.framesetAllowed then
    match b.stack.reverse with
    | root :: body :: _ =>
      if body.is "body" then
        set { b with tree := b.tree.detach body.id, stack := [root] }
        let _ ← openElement tag
        switchTo .inFrameset
    | _ => pure ()

/-- Merges the attributes of a second outermost element into the first. -/
def mergeRoot (tag : Tag) : Build Unit := do
  if !(← anyOpen "template") then
    match (← get).stack.getLast? with
    | some root => addMissing root.id tag.attributes
    | none => pure ()

def mergeBody (tag : Tag) : Build Unit := do
  if !(← anyOpen "template") then
    match (← get).stack.reverse with
    | _ :: body :: _ =>
      if body.is "body" then
        refuseFrameset
        addMissing body.id tag.attributes
    | _ => pure ()

def openOther (tag : Tag) : Build Unit := do
  reopenFormatting
  let _ ← openElement tag

def addVoidInBody (tag : Tag) : Build Unit := do
  reopenFormatting
  addVoid tag
  if !isHiddenInput tag then refuseFrameset

/-- A start tag in the body that has no block, formatting or outer meaning. -/
def startInline (tag : Tag) : Build Outcome := do
  match tag.name with
  | "button" =>
    if ← inScope Name.endsScope ["button"] then
      closeImpliedEnds
      popThroughTags ["button"]
    openOther tag
    refuseFrameset
    return .done
  | "textarea" =>
    refuseFrameset
    openText tag (.escapable "textarea")
    modify fun b => { b with skipLineFeed := true }
    return .done
  | "xmp" =>
    closeParagraphInScope
    reopenFormatting
    refuseFrameset
    openText tag (.raw "xmp")
    return .done
  | "iframe" =>
    refuseFrameset
    openText tag (.raw "iframe")
    return .done
  | "noembed" => openText tag (.raw "noembed"); return .done
  | "noscript" => openText tag (.raw "noscript"); return .done
  | "select" => openSelect tag; return .done
  | "math" => addForeign .mathml tag; return .done
  | "svg" => addForeign .svg tag; return .done
  | name =>
    if ["optgroup", "option"].contains name then
      if ← currentIs ["option"] then pop
      openOther tag
      return .done
    else if ["rb", "rtc"].contains name then
      if ← inScope Name.endsScope ["ruby"] then closeImpliedEnds
      let _ ← openElement tag
      return .done
    else if ["rp", "rt"].contains name then
      if ← inScope Name.endsScope ["ruby"] then closeImplied Name.impliedEnd "rtc"
      let _ ← openElement tag
      return .done
    else if strayTags.contains name then return .done
    else
      openOther tag
      return .done

def startInBody (tag : Tag) : Build Outcome := do
  let name := tag.name
  if name = "html" then
    mergeRoot tag
    return .done
  else if headTags.contains name then startInHead tag
  else if name = "body" then
    mergeBody tag
    return .done
  else if name = "frameset" then
    replaceBodyByFrameset tag
    return .done
  else if blockTags.contains name || name = "p" then
    closeParagraphInScope
    let _ ← openElement tag
    return .done
  else if Name.headings.contains name then
    closeParagraphInScope
    if ← currentIs Name.headings then pop
    let _ ← openElement tag
    return .done
  else if ["pre", "listing"].contains name then
    closeParagraphInScope
    let _ ← openElement tag
    modify fun b => { b with skipLineFeed := true, framesetAllowed := false }
    return .done
  else if name = "form" then
    openForm tag
    return .done
  else if name = "li" then
    openItem tag ["li"]
    return .done
  else if ["dd", "dt"].contains name then
    openItem tag ["dd", "dt"]
    return .done
  else if name = "plaintext" then
    closeParagraphInScope
    let _ ← openElement tag
    modify fun b => { b with content := .plain }
    return .done
  else if name = "a" then
    endOpenAnchor
    reopenFormatting
    openFormatting tag
    return .done
  else if formattingTags.contains name then
    reopenFormatting
    openFormatting tag
    return .done
  else if name = "nobr" then
    reopenFormatting
    if ← inScope Name.endsScope ["nobr"] then
      endFormatting "nobr"
      reopenFormatting
    openFormatting tag
    return .done
  else if regionTags.contains name then
    openOther tag
    addBorder
    refuseFrameset
    return .done
  else if name = "table" then
    if !(← get).oldRules then closeParagraphInScope
    let _ ← openElement tag
    refuseFrameset
    switchTo .inTable
    return .done
  else if ["area", "br", "embed", "img", "keygen", "wbr", "input"].contains name then
    addVoidInBody tag
    return .done
  else if name = "image" then
    addVoidInBody { tag with name := "img" }
    return .done
  else if ["param", "source", "track"].contains name then
    addVoid tag
    return .done
  else if name = "hr" then
    closeParagraphInScope
    addVoid tag
    refuseFrameset
    return .done
  else startInline tag

def endInBody (name : String) : Build Outcome := do
  if name = "template" then
    closeTemplate
    return .done
  else if name = "body" then
    if ← inScope Name.endsScope ["body"] then switchTo .afterBody
    return .done
  else if name = "html" then
    if ← inScope Name.endsScope ["body"] then return .again .afterBody else return .done
  else if blockTags.contains name || ["button", "listing", "pre"].contains name then
    closeInScope name
    return .done
  else if name = "form" then
    closeForm
    return .done
  else if name = "p" then
    if !(← inScope Name.endsButtonScope ["p"]) then
      let _ ← openImplied "p"
    closeParagraph
    return .done
  else if ["li", "dd", "dt"].contains name then
    closeItem name
    return .done
  else if Name.headings.contains name then
    if ← inScope Name.endsScope Name.headings then
      closeImpliedEnds
      popThroughTags Name.headings
    return .done
  else if formattingTags.contains name || ["a", "nobr"].contains name then
    endFormatting name
    return .done
  else if regionTags.contains name then
    if ← inScope Name.endsScope [name] then
      closeImpliedEnds
      popThroughTags [name]
      clearToBorder
    return .done
  else if name = "br" then
    addVoidInBody { name := "br" }
    return .done
  else
    closeAny name
    return .done

def textInBody (text : String) : Build Unit := do
  reopenFormatting
  if !(Token.text text).isBlankText then refuseFrameset
  putText text

def inBody (token : Token) : Build Outcome := do
  match token with
  | .text text => textInBody text; return .done
  | .comment text => putComment text; return .done
  | .startTag tag => startInBody tag
  | .endTag name => endInBody name
  | .eof => if (← get).templateModes.isEmpty then return .done else return .asIn .inTemplate
  | _ => return .done

end ClassScript.Html.Build
