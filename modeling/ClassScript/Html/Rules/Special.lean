import ClassScript.Html.Rules.Table

/-!
The rules for selects, templates and framesets, and for what follows the body.
-/

namespace ClassScript.Html.Build

def closeSelect : Build Bool := do
  if ← inScope Name.endsSelectScope ["select"] then
    popThroughTags ["select"]
    return true
  else return false

def startInSelect (tag : Tag) : Build Outcome := do
  match tag.name with
  | "html" => return .asIn .inBody
  | "option" =>
    if ← currentIs ["option"] then pop
    let _ ← openElement tag
    return .done
  | "optgroup" =>
    if ← currentIs ["option"] then pop
    if ← currentIs ["optgroup"] then pop
    let _ ← openElement tag
    return .done
  | "select" =>
    if ← closeSelect then resetMode
    return .done
  | name =>
    if ["input", "keygen", "textarea"].contains name then
      if ← closeSelect then againInFittingMode else return .done
    else if ["script", "template"].contains name then startInHead tag
    else return .done

/-- Ends a group of options, and an option that is directly in it. -/
def closeOptionGroup : Build Unit := do
  match (← get).stack with
  | option :: group :: _ => if option.is "option" && group.is "optgroup" then pop
  | _ => pure ()
  if ← currentIs ["optgroup"] then pop

def inSelect (token : Token) : Build Outcome := do
  match token with
  | .text text => putText text; return .done
  | .comment text => putComment text; return .done
  | .startTag tag => startInSelect tag
  | .endTag "optgroup" => closeOptionGroup; return .done
  | .endTag "option" =>
    if ← currentIs ["option"] then pop
    return .done
  | .endTag "select" =>
    if ← closeSelect then resetMode
    return .done
  | .endTag "template" => closeTemplate; return .done
  | .eof => return .asIn .inBody
  | _ => return .done

def inSelectInTable (token : Token) : Build Outcome := do
  let parts := ["caption", "table", "tbody", "tfoot", "thead", "tr", "td", "th"]
  match token with
  | .startTag tag =>
    if parts.contains tag.name then
      popThroughTags ["select"]
      againInFittingMode
    else return .asIn .inSelect
  | .endTag name =>
    if parts.contains name then
      if ← inScope Name.endsTableScope [name] then
        popThroughTags ["select"]
        againInFittingMode
      else return .done
    else return .asIn .inSelect
  | _ => return .asIn .inSelect

/-- Reads a token in another mode, which the innermost template keeps. -/
def templateGoesOn (mode : Mode) : Build Outcome := do
  modify fun b => { b with templateModes := mode :: b.templateModes.tail }
  return .again mode

def inTemplate (token : Token) : Build Outcome := do
  match token with
  | .text _ | .comment _ => return .asIn .inBody
  | .startTag tag =>
    if headTags.contains tag.name then startInHead tag
    else if ["caption", "colgroup", "tbody", "tfoot", "thead"].contains tag.name then
      templateGoesOn .inTable
    else if tag.name = "col" then templateGoesOn .inColumnGroup
    else if tag.name = "tr" then templateGoesOn .inTableBody
    else if Name.cells.contains tag.name then templateGoesOn .inRow
    else templateGoesOn .inBody
  | .endTag "template" => closeTemplate; return .done
  | .eof =>
    if ← anyOpen "template" then
      popThroughTags ["template"]
      clearToBorder
      modify fun b => { b with templateModes := b.templateModes.tail }
      againInFittingMode
    else return .done
  | _ => return .done

def afterBody (token : Token) : Build Outcome := do
  if token.isBlankText then return .asIn .inBody
  match token with
  | .comment text =>
    match (← get).stack.getLast? with
    | some root => putCommentIn root.id text
    | none => pure ()
    return .done
  | .startTag tag => if tag.name = "html" then return .asIn .inBody else return .again .inBody
  | .endTag "html" => switchTo .afterDocument; return .done
  | .eof => return .done
  | _ => return .again .inBody

def inFrameset (token : Token) : Build Outcome := do
  match token with
  | .text text =>
    if token.isBlankText then putText text
    return .done
  | .comment text => putComment text; return .done
  | .startTag tag =>
    match tag.name with
    | "html" => return .asIn .inBody
    | "frameset" =>
      let _ ← openElement tag
      return .done
    | "frame" => addVoid tag; return .done
    | "noframes" => startInHead tag
    | _ => return .done
  | .endTag "frameset" =>
    if (← get).stack.length ≠ 1 then
      pop
      if !(← currentIs ["frameset"]) then switchTo .afterFrameset
    return .done
  | _ => return .done

def afterFrameset (token : Token) : Build Outcome := do
  match token with
  | .text text =>
    if token.isBlankText then putText text
    return .done
  | .comment text => putComment text; return .done
  | .startTag tag =>
    match tag.name with
    | "html" => return .asIn .inBody
    | "noframes" => startInHead tag
    | _ => return .done
  | .endTag "html" => switchTo .afterFramesetDocument; return .done
  | _ => return .done

def afterDocument (token : Token) : Build Outcome := do
  if token.isBlankText then return .asIn .inBody
  match token with
  | .comment text => putCommentIn Builder.documentNode text; return .done
  | .startTag tag => if tag.name = "html" then return .asIn .inBody else return .again .inBody
  | .eof => return .done
  | _ => return .again .inBody

def afterFramesetDocument (token : Token) : Build Outcome := do
  if token.isBlankText then return .asIn .inBody
  match token with
  | .comment text => putCommentIn Builder.documentNode text; return .done
  | .startTag tag =>
    match tag.name with
    | "html" => return .asIn .inBody
    | "noframes" => startInHead tag
    | _ => return .done
  | _ => return .done

end ClassScript.Html.Build
