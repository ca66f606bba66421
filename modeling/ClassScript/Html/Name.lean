/-!
Element names with their vocabulary, and the families of names that the tree rules speak of.
-/

namespace ClassScript.Html

inductive Vocabulary where
  | html
  | svg
  | mathml
deriving Repr, DecidableEq, Inhabited

structure Name where
  vocabulary : Vocabulary := .html
  tag : String
deriving Repr, DecidableEq, Inhabited

namespace Name

def isHtml (name : Name) (tags : List String) : Bool :=
  name.vocabulary = .html && tags.contains name.tag

/-- Elements that formatting cannot be carried across. -/
def special : List String :=
  ["address", "applet", "area", "article", "aside", "base", "basefont", "bgsound", "blockquote",
   "body", "br", "button", "caption", "center", "col", "colgroup", "dd", "details", "dir", "div",
   "dl", "dt", "embed", "fieldset", "figcaption", "figure", "footer", "form", "frame", "frameset",
   "h1", "h2", "h3", "h4", "h5", "h6", "head", "header", "hgroup", "hr", "html", "iframe", "img",
   "input", "isindex", "li", "link", "listing", "main", "marquee", "menu", "meta", "nav", "noembed",
   "noframes", "noscript", "object", "ol", "p", "param", "plaintext", "pre", "script", "section",
   "select", "source", "style", "summary", "table", "tbody", "td", "template", "textarea", "tfoot",
   "th", "thead", "title", "tr", "track", "ul", "wbr", "xmp"]

def isSpecial (name : Name) : Bool := name.isHtml special

/-- Elements whose end may be left out before the end of what holds them. -/
def impliedEnd : List String :=
  ["dd", "dt", "li", "option", "optgroup", "p", "rb", "rp", "rt", "rtc"]

/-- The same before the end of a template. -/
def thoroughImpliedEnd : List String :=
  impliedEnd ++ ["caption", "colgroup", "tbody", "td", "tfoot", "th", "thead", "tr"]

def headings : List String := ["h1", "h2", "h3", "h4", "h5", "h6"]

def tableParts : List String := ["table", "tbody", "tfoot", "thead", "tr"]

def tableBodies : List String := ["tbody", "tfoot", "thead"]

def cells : List String := ["td", "th"]

/-- Elements of mathematics that hold ordinary text. -/
def isMathText (name : Name) : Bool :=
  name.vocabulary = .mathml && ["mi", "mo", "mn", "ms", "mtext"].contains name.tag

/-- Elements of drawings that hold ordinary markup. -/
def isDrawingMarkup (name : Name) : Bool :=
  name.vocabulary = .svg && ["foreignObject", "desc", "title"].contains name.tag

def endsScope (name : Name) : Bool :=
  name.isHtml ["applet", "caption", "html", "table", "td", "th", "marquee", "object", "template"] ||
    name.isMathText || name.isDrawingMarkup

def endsListScope (name : Name) : Bool := name.endsScope || name.isHtml ["ol", "ul"]

def endsButtonScope (name : Name) : Bool := name.endsScope || name.isHtml ["button"]

def endsTableScope (name : Name) : Bool := name.isHtml ["html", "table", "template"]

def endsSelectScope (name : Name) : Bool := !name.isHtml ["optgroup", "option"]

end Name

end ClassScript.Html
