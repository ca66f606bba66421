import ClassScript.Html.Rules.Body

/-!
The rules for tables. Their rows, bodies and cells end one another, and what a table cannot hold goes
before it.
-/

namespace ClassScript.Html.Build

/-- Reads a token by the rules for the body, putting new nodes before the table. -/
def foster : Build Outcome := do
  modify fun b => { b with fostering := true }
  return .asIn .inBody

/-- A text or null character in a table. Directly inside the parts of a table it is held back until
it is known whether all of it is blank. -/
def textInTable : Build Outcome := do
  if ← currentIs Name.tableParts then
    modify fun b => { b with returnMode := b.mode, tableText := [] }
    return .again .inTableText
  else foster

def openTablePart (tag : Tag) : Build Unit := do
  popBackTo ["html", "table", "template"]
  let _ ← openElement tag

def closeTable : Build Bool := do
  if ← inScope Name.endsTableScope ["table"] then
    popThroughTags ["table"]
    return true
  else return false

def startInTable (tag : Tag) : Build Outcome := do
  match tag.name with
  | "caption" =>
    popBackTo ["html", "table", "template"]
    addBorder
    let _ ← openElement tag
    switchTo .inCaption
    return .done
  | "colgroup" =>
    openTablePart tag
    switchTo .inColumnGroup
    return .done
  | "col" =>
    openTablePart { name := "colgroup" }
    return .again .inColumnGroup
  | "table" => if ← closeTable then againInFittingMode else return .done
  | "input" =>
    if isHiddenInput tag then
      addVoid tag
      return .done
    else foster
  | "form" =>
    if !(← anyOpen "template") && (← get).form.isNone then
      let opened ← putElement { tag := "form" } tag.attributes
      modify fun b => { b with form := some opened.id }
    return .done
  | name =>
    if Name.tableBodies.contains name then
      openTablePart tag
      switchTo .inTableBody
      return .done
    else if ["td", "th", "tr"].contains name then
      openTablePart { name := "tbody" }
      return .again .inTableBody
    else if ["style", "script", "template"].contains name then startInHead tag
    else foster

def inTable (token : Token) : Build Outcome := do
  match token with
  | .text _ | .null => textInTable
  | .comment text => putComment text; return .done
  | .startTag tag => startInTable tag
  | .endTag "table" =>
    if ← closeTable then resetMode
    return .done
  | .endTag "template" => closeTemplate; return .done
  | .endTag name =>
    if ["body", "caption", "col", "colgroup", "html", "tbody", "td", "tfoot", "th", "thead",
        "tr"].contains name then return .done
    else foster
  | .eof => return .asIn .inBody
  | _ => foster

/-- Releases the texts that a table held back: blanks stay in the table, any other text takes all of
them out of it. -/
def releaseTableText : Build Unit := do
  let b ← get
  set { b with tableText := [] }
  if b.tableText.all fun text => (Token.text text).isBlankText then
    for text in b.tableText do putText text
  else
    for text in b.tableText do
      modify fun b => { b with fostering := true }
      textInBody text
      modify fun b => { b with fostering := false }

def inTableText (token : Token) : Build Outcome := do
  match token with
  | .null => return .done
  | .text text =>
    modify fun b => { b with tableText := b.tableText ++ [text] }
    return .done
  | _ =>
    releaseTableText
    return .again (← get).returnMode

/-- Closes a caption and forgets its formatting, if one is in scope. -/
def closeCaption : Build Bool := do
  if ← inScope Name.endsTableScope ["caption"] then
    closeImpliedEnds
    popThroughTags ["caption"]
    clearToBorder
    return true
  else return false

def inCaption (token : Token) : Build Outcome := do
  let leave : Build Outcome := do
    if ← closeCaption then return .again .inTable else return .done
  match token with
  | .startTag tag =>
    if ["caption", "col", "colgroup", "tbody", "td", "tfoot", "th", "thead", "tr"].contains tag.name
    then leave else return .asIn .inBody
  | .endTag "caption" =>
    if ← closeCaption then switchTo .inTable
    return .done
  | .endTag "table" => leave
  | .endTag name =>
    if ["body", "col", "colgroup", "html", "tbody", "td", "tfoot", "th", "thead", "tr"].contains name
    then return .done else return .asIn .inBody
  | _ => return .asIn .inBody

def inColumnGroup (token : Token) : Build Outcome := do
  let leave : Build Outcome := do
    if ← currentIs ["colgroup"] then
      pop
      return .again .inTable
    else return .done
  match token with
  | .text text =>
    if token.isBlankText then
      putText text
      return .done
    else leave
  | .comment text => putComment text; return .done
  | .startTag tag =>
    match tag.name with
    | "html" => return .asIn .inBody
    | "col" => addVoid tag; return .done
    | "template" => startInHead tag
    | _ => leave
  | .endTag "colgroup" =>
    if ← currentIs ["colgroup"] then
      pop
      switchTo .inTable
    return .done
  | .endTag "col" => return .done
  | .endTag "template" => closeTemplate; return .done
  | .eof => return .asIn .inBody
  | _ => leave

def inTableBody (token : Token) : Build Outcome := do
  let leave : Build Outcome := do
    if ← inScope Name.endsTableScope ["table", "tbody", "tfoot"] then
      popBackTo ["tbody", "tfoot", "thead", "template", "html"]
      pop
      return .again .inTable
    else return .done
  match token with
  | .startTag tag =>
    if tag.name = "tr" then
      popBackTo ["tbody", "tfoot", "thead", "template", "html"]
      let _ ← openElement tag
      switchTo .inRow
      return .done
    else if Name.cells.contains tag.name then
      popBackTo ["tbody", "tfoot", "thead", "template", "html"]
      let _ ← openImplied "tr"
      return .again .inRow
    else if ["caption", "col", "colgroup", "tbody", "tfoot", "thead"].contains tag.name then leave
    else return .asIn .inTable
  | .endTag name =>
    if Name.tableBodies.contains name then
      if ← inScope Name.endsTableScope [name] then
        popBackTo ["tbody", "tfoot", "thead", "template", "html"]
        pop
        switchTo .inTable
      return .done
    else if name = "table" then leave
    else if ["body", "caption", "col", "colgroup", "html", "td", "th", "tr"].contains name then
      return .done
    else return .asIn .inTable
  | _ => return .asIn .inTable

def closeRow : Build Bool := do
  if ← inScope Name.endsTableScope ["tr"] then
    popBackTo ["tr", "template", "html"]
    pop
    return true
  else return false

def inRow (token : Token) : Build Outcome := do
  let leave : Build Outcome := do
    if ← closeRow then return .again .inTableBody else return .done
  match token with
  | .startTag tag =>
    if Name.cells.contains tag.name then
      popBackTo ["tr", "template", "html"]
      let _ ← openElement tag
      switchTo .inCell
      addBorder
      return .done
    else if ["caption", "col", "colgroup", "tbody", "tfoot", "thead", "tr"].contains tag.name then
      leave
    else return .asIn .inTable
  | .endTag name =>
    if name = "tr" then
      if ← closeRow then switchTo .inTableBody
      return .done
    else if name = "table" then leave
    else if Name.tableBodies.contains name then
      if ← inScope Name.endsTableScope [name] then leave else return .done
    else if ["body", "caption", "col", "colgroup", "html", "td", "th"].contains name then return .done
    else return .asIn .inTable
  | _ => return .asIn .inTable

/-- Closes the cell and forgets its formatting. -/
def closeCell : Build Outcome := do
  closeImpliedEnds
  popThroughTags Name.cells
  clearToBorder
  return .again .inRow

def inCell (token : Token) : Build Outcome := do
  match token with
  | .startTag tag =>
    if ["caption", "col", "colgroup", "tbody", "td", "tfoot", "th", "thead", "tr"].contains tag.name
    then
      if ← inScope Name.endsTableScope Name.cells then closeCell else return .done
    else return .asIn .inBody
  | .endTag name =>
    if Name.cells.contains name then
      if ← inScope Name.endsTableScope [name] then
        closeImpliedEnds
        popThroughTags [name]
        clearToBorder
        switchTo .inRow
      return .done
    else if ["body", "caption", "col", "colgroup", "html"].contains name then return .done
    else if ["table", "tbody", "tfoot", "thead", "tr"].contains name then
      if ← inScope Name.endsTableScope [name] then closeCell else return .done
    else return .asIn .inBody
  | _ => return .asIn .inBody

end ClassScript.Html.Build
