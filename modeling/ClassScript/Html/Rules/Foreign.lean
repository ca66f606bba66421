import ClassScript.Html.Rules.Head

/-!
The rules for drawings and formulas inside markup: elements of other vocabularies, and where ordinary
markup is allowed inside them.
-/

namespace ClassScript.Html

/-- The tags of drawings that have capital letters, as they are written. -/
def drawingTags : List String :=
  ["altGlyph", "altGlyphDef", "altGlyphItem", "animateColor", "animateMotion", "animateTransform",
   "clipPath", "feBlend", "feColorMatrix", "feComponentTransfer", "feComposite", "feConvolveMatrix",
   "feDiffuseLighting", "feDisplacementMap", "feDistantLight", "feDropShadow", "feFlood", "feFuncA",
   "feFuncB", "feFuncG", "feFuncR", "feGaussianBlur", "feImage", "feMerge", "feMergeNode",
   "feMorphology", "feOffset", "fePointLight", "feSpecularLighting", "feSpotLight", "feTile",
   "feTurbulence", "foreignObject", "glyphRef", "linearGradient", "radialGradient", "textPath"]

/-- Tags are read in lower case; a drawing gets back the capital letters of its tags. -/
def drawingTag (tag : String) : String :=
  (drawingTags.find? fun written => Ascii.lower written = tag).getD tag

/-- Attributes of other vocabularies that are written with the name of their vocabulary in front, and
the name that is left without it. -/
def foreignAttributes : List (String × String) :=
  [("xlink:actuate", "actuate"), ("xlink:arcrole", "arcrole"), ("xlink:href", "href"),
   ("xlink:role", "role"), ("xlink:show", "show"), ("xlink:title", "title"), ("xlink:type", "type"),
   ("xml:base", "base"), ("xml:lang", "lang"), ("xml:space", "space"), ("xmlns:xlink", "xlink")]

/-- Attributes of a foreign element keep only the part of their name behind the vocabulary. -/
def withoutVocabulary (attributes : List (String × String)) : List (String × String) :=
  attributes.map fun (name, value) => ((foreignAttributes.lookup name).getD name, value)

/-- Start tags that end all foreign elements around them. -/
def breakoutTags : List String :=
  ["b", "big", "blockquote", "body", "br", "center", "code", "dd", "div", "dl", "dt", "em", "embed",
   "h1", "h2", "h3", "h4", "h5", "h6", "head", "hr", "i", "img", "li", "listing", "menu", "meta",
   "nobr", "ol", "p", "pre", "ruby", "s", "small", "span", "strong", "strike", "sub", "sup", "table",
   "tt", "u", "ul", "var"]

namespace Build

/-- Adds an element of another vocabulary, and opens it unless its tag closes itself. -/
def addForeign (vocabulary : Vocabulary) (tag : Tag) : Build Unit := do
  let opened ← putElement { vocabulary, tag := tag.name } (withoutVocabulary tag.attributes)
  if !tag.selfClosing then push opened

/-- Whether a formula's annotation says that it holds markup. -/
def holdsMarkup (tree : Arena Item) (id : NodeId) : Bool :=
  match tree.value? id with
  | some (.element _ attributes) =>
    match attributes.lookup "encoding" with
    | some encoding => ["text/html", "application/xhtml+xml"].contains (Ascii.lower encoding)
    | none => false
  | _ => false

/-- Whether a token is read by the rules for foreign content. -/
def isForeign (b : Builder) (token : Token) : Bool :=
  match b.stack with
  | [] => false
  | opened :: _ =>
    let name := opened.name
    let remark := name.vocabulary = .mathml && name.tag = "annotation-xml"
    let integrated := name.isDrawingMarkup || (remark && holdsMarkup b.tree opened.id)
    if name.vocabulary = .html then false
    else match token with
      | .eof => false
      | .text _ | .null => !(name.isMathText || integrated)
      | .startTag tag =>
        !((name.isMathText && tag.name != "mglyph" && tag.name != "malignmark") || integrated ||
          (remark && tag.name = "svg"))
      | _ => true

/-- Whether foreign content stops at this element. -/
def isIntegration (name : Name) : Bool :=
  name.vocabulary = .html || name.isMathText || name.isDrawingMarkup

/-- Closes the foreign elements around the current place. -/
def leaveForeign : Build Outcome := do
  pop
  modify fun b => { b with stack := b.stack.dropWhile fun opened => !isIntegration opened.name }
  return .again (← get).mode

/-- An end tag closes the nearest foreign element of its name, letters of either case alike; from the
first ordinary element outward the ordinary rules decide. -/
def endForeign (mode : Mode) (name : String) : Bool → List Opened → Build Outcome
  | _, [] => return .done
  | _, [_] => return .done
  | first, opened :: outer => do
    if !first && opened.name.vocabulary = .html then return .asIn mode
    else if Ascii.lower opened.name.tag = Ascii.lower name then
      modify fun b => { b with stack := outer }
      return .done
    else endForeign mode name false outer

def inForeign (token : Token) : Build Outcome := do
  match token with
  | .null => putText "\ufffd"; return .done
  | .text text =>
    if !token.isBlankText then refuseFrameset
    putText text
    return .done
  | .comment text => putComment text; return .done
  | .startTag tag =>
    let styled := ["color", "face", "size"].any fun name => (tag.attribute? name).isSome
    if breakoutTags.contains tag.name || (tag.name = "font" && styled) then leaveForeign
    else
      let vocabulary := match ← current? with
        | some opened => opened.name.vocabulary
        | none => .html
      addForeign vocabulary
        (if vocabulary = .svg then { tag with name := drawingTag tag.name } else tag)
      return .done
  | .endTag name =>
    let b ← get
    endForeign b.mode name true b.stack
  | _ => return .done

end Build

end ClassScript.Html
