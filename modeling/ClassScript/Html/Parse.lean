import ClassScript.Html.Lexeme
import ClassScript.Html.Rules.Special

/-!
Markup as a tree. Every text has one: what is missing is supplied, and what does not fit is moved or
dropped.
-/

namespace ClassScript.Html

namespace Build

def rules : Mode → Token → Build Outcome
  | .start => atStart
  | .beforeHtml => beforeHtml
  | .beforeHead => beforeHead
  | .inHead => inHead
  | .afterHead => afterHead
  | .inBody => inBody
  | .inText => inText
  | .inTable => inTable
  | .inTableText => inTableText
  | .inCaption => inCaption
  | .inColumnGroup => inColumnGroup
  | .inTableBody => inTableBody
  | .inRow => inRow
  | .inCell => inCell
  | .inSelect => inSelect
  | .inSelectInTable => inSelectInTable
  | .inTemplate => inTemplate
  | .afterBody => afterBody
  | .inFrameset => inFrameset
  | .afterFrameset => afterFrameset
  | .afterDocument => afterDocument
  | .afterFramesetDocument => afterFramesetDocument

/-- Reads a token until a rule is done with it, at most `fuel` times. -/
def settle (token : Token) : Nat → Option Mode → Build Unit
  | 0, _ => pure ()
  | fuel + 1, mode? => do
    let b ← get
    let outcome ← match mode? with
      | some mode => rules mode token
      | none => if isForeign b token then inForeign token else rules b.mode token
    match outcome with
    | .asIn mode => settle token fuel (some mode)
    | .done => modify fun b => { b with fostering := false }
    | .again mode =>
      modify fun b => { b with fostering := false, mode }
      settle token fuel none

/-- Reads a token. Each time it is read again an element or a template was closed, or one of the
modes before the body was left. -/
def read (token : Token) : Build Unit := do
  let b ← get
  settle token (4 * b.stack.length + 64) none

/-- Takes a token from the text. Blanks and other characters of a text are read apart. -/
def take (token : Token) : Build Unit := do
  let skip := (← get).skipLineFeed
  modify fun b => { b with skipLineFeed := false }
  match token with
  | .fault => pure ()
  | .doctype doctype =>
    if (← get).mode = .start then
      putNode (.lastIn Builder.documentNode) (← newNode (.doctype doctype.name))
      modify fun b => { b with oldRules := doctype.isOld, mode := .beforeHtml }
  | .text text =>
    let characters := match skip, text.toList with
      | true, '\n' :: rest => rest
      | _, characters => characters
    for run in characters.splitBy fun c d => Ascii.isBlank c == Ascii.isBlank d do
      read (.text (String.ofList run))
  | token => read token

end Build

/-- Reads a text to its end. Each step takes a character at least, so as many steps as characters
are enough. -/
def Builder.feed : Nat → Builder → List Char → Builder
  | 0, b, _ => b
  | _, b, [] => b
  | steps + 1, b, s =>
    let foreignContent := match b.stack with
      | opened :: _ => opened.name.vocabulary != .html
      | [] => false
    let (tokens, rest) := lexeme b.content foreignContent s
    Builder.feed steps ((tokens.forM Build.take).run b).2 rest

/-- What a markup text says. -/
def parse (text : String) : Forest Item :=
  let s := normalize text.toList
  let b := ((Build.take .eof).run (Builder.initial.feed s.length s)).2
  (b.tree.below Builder.documentNode).map (·.2)

end ClassScript.Html
