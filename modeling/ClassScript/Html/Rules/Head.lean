import ClassScript.Html.Carry

/-!
The rules for what stands before the body: the document type, the outer elements and the head.
-/

namespace ClassScript.Html

def Token.isBlankText : Token → Bool
  | .text s => s.toList.all Ascii.isBlank
  | _ => false

namespace Build

/-- End tags that imply the elements around the body, instead of being ignored there. -/
def outerEndTags : List String := ["head", "body", "html", "br"]

def headTags : List String :=
  ["base", "basefont", "bgsound", "link", "meta", "noframes", "script", "style", "template", "title"]

def atStart (token : Token) : Build Outcome := do
  if token.isBlankText then return .done
  match token with
  | .comment text => putCommentIn Builder.documentNode text; return .done
  | _ =>
    modify fun b => { b with oldRules := true }
    return .again .beforeHtml

def openRoot (attributes : List (String × String)) : Build Unit := do
  let opened ← newElement { tag := "html" } attributes
  putNode (.lastIn Builder.documentNode) opened.id
  push opened

def beforeHtml (token : Token) : Build Outcome := do
  if token.isBlankText then return .done
  match token with
  | .comment text => putCommentIn Builder.documentNode text; return .done
  | .startTag tag =>
    if tag.name = "html" then
      openRoot tag.attributes
      switchTo .beforeHead
      return .done
    else
      openRoot []
      return .again .beforeHead
  | .endTag name =>
    if outerEndTags.contains name then
      openRoot []
      return .again .beforeHead
    else return .done
  | _ =>
    openRoot []
    return .again .beforeHead

def openHead (tag : Tag) : Build Unit := do
  let opened ← openElement tag
  modify fun b => { b with head := some opened }

def beforeHead (token : Token) : Build Outcome := do
  let implied : Build Outcome := do
    openHead { name := "head" }
    return .again .inHead
  if token.isBlankText then return .done
  match token with
  | .comment text => putComment text; return .done
  | .startTag tag =>
    if tag.name = "html" then return .asIn .inBody
    else if tag.name = "head" then
      openHead tag
      switchTo .inHead
      return .done
    else implied
  | .endTag name => if outerEndTags.contains name then implied else return .done
  | _ => implied

/-- A start tag in the head, where the head has a rule for it. -/
def startInHead (tag : Tag) : Build Outcome := do
  match tag.name with
  | "html" => return .asIn .inBody
  | "title" => openText tag (.escapable "title"); return .done
  | "script" => openText tag .script; return .done
  | "template" =>
    let _ ← openElement tag
    addBorder
    modify fun b => { b with
      framesetAllowed := false, mode := .inTemplate, templateModes := .inTemplate :: b.templateModes }
    return .done
  | "head" => return .done
  | name =>
    if ["base", "basefont", "bgsound", "link", "meta"].contains name then
      addVoid tag
      return .done
    else if ["noframes", "style", "noscript"].contains name then
      openText tag (.raw name)
      return .done
    else
      pop
      return .again .afterHead

def closeTemplate : Build Unit := do
  if ← anyOpen "template" then
    closeImplied Name.thoroughImpliedEnd ""
    popThroughTags ["template"]
    clearToBorder
    modify fun b => { b with templateModes := b.templateModes.tail }
    resetMode

def inHead (token : Token) : Build Outcome := do
  match token with
  | .text text =>
    if token.isBlankText then
      putText text
      return .done
    else
      pop
      return .again .afterHead
  | .comment text => putComment text; return .done
  | .startTag tag => startInHead tag
  | .endTag "head" =>
    pop
    switchTo .afterHead
    return .done
  | .endTag "template" => closeTemplate; return .done
  | .endTag name =>
    if outerEndTags.contains name then
      pop
      return .again .afterHead
    else return .done
  | _ =>
    pop
    return .again .afterHead

/-- Reads a late token of the head as if the head were still open. -/
def backInHead (token : Token) : Build Outcome := do
  match (← get).head with
  | none => inHead token
  | some head =>
    push head
    let outcome ← inHead token
    modify fun b => { b with stack := b.stack.eraseP (·.id = head.id) }
    return outcome

def afterHead (token : Token) : Build Outcome := do
  let implied : Build Outcome := do
    let _ ← openImplied "body"
    return .again .inBody
  match token with
  | .text text =>
    if token.isBlankText then
      putText text
      return .done
    else implied
  | .comment text => putComment text; return .done
  | .startTag tag =>
    match tag.name with
    | "html" => return .asIn .inBody
    | "body" =>
      let _ ← openElement tag
      refuseFrameset
      switchTo .inBody
      return .done
    | "frameset" =>
      let _ ← openElement tag
      switchTo .inFrameset
      return .done
    | "head" => return .done
    | name => if headTags.contains name then backInHead token else implied
  | .endTag "template" => inHead token
  | .endTag name => if outerEndTags.contains name && name != "head" then implied else return .done
  | _ => implied

def inText (token : Token) : Build Outcome := do
  match token with
  | .text text => putText text; return .done
  | .endTag _ =>
    pop
    modify fun b => { b with mode := b.returnMode, content := .markup }
    return .done
  | .eof =>
    pop
    return .again (← get).returnMode
  | _ => return .done

end Build

end ClassScript.Html
