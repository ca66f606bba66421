import ClassScript.Html.TagText
import ClassScript.Html.Doctype

/-!
The token at the front of a text. Which one it is depends on the content that the text is in: a tag
inside a script is text, and a reference inside it is too.
-/

namespace ClassScript.Html

/-- Line ends are line feeds, and a byte order mark at the front is dropped. -/
def normalize (s : List Char) : List Char :=
  lines (match s with | '\ufeff' :: rest => rest | s => s)
where
  lines : List Char → List Char
    | '\r' :: '\n' :: rest => '\n' :: lines rest
    | '\r' :: rest => '\n' :: lines rest
    | c :: rest => c :: lines rest
    | [] => []

def textToken (s : List Char) : Token := .text (String.ofList (s.map replaceNull))

def commentToken (s : List Char) : Token := .comment (String.ofList (s.map replaceNull))

/-- Drops the beginning of a mark that would have ended a comment from the end of the text. -/
def dropUnfinishedMark (s : List Char) : List Char :=
  if "--!".toList.isSuffixOf s then s.dropLast.dropLast.dropLast
  else if "--".toList.isSuffixOf s then s.dropLast.dropLast
  else if "-".toList.isSuffixOf s then s.dropLast
  else s

/-- A comment and the text after its end. Its end may be written with an exclamation mark. -/
def commentText : List Char → Option (List Char × List Char)
  | [] => none
  | '-' :: '-' :: '>' :: rest => some ([], rest)
  | '-' :: '-' :: '!' :: '>' :: rest => some ([], rest)
  | c :: rest => (commentText rest).map fun (text, rest) => (c :: text, rest)

/-- A comment after the mark that begins it. It may end at once; the end of the input ends it too. -/
def comment (s : List Char) : Token × List Char :=
  match s with
  | '>' :: rest => (commentToken [], rest)
  | '-' :: '>' :: rest => (commentToken [], rest)
  | s =>
    match commentText s with
    | some (text, rest) => (commentToken text, rest)
    | none => (commentToken (dropUnfinishedMark s), [])

/-- Markup that is none of the known kinds is a comment up to the next closing bracket. -/
def strayComment (s : List Char) : Token × List Char :=
  let (text, rest) := s.span (· ≠ '>')
  (commentToken text, rest.drop 1)

def textAndNulls (s : List Char) : List Token :=
  (s.splitBy fun c d => (c == '\x00') == (d == '\x00')).flatMap fun run =>
    if run.head? = some '\x00' then run.map fun _ => .null else [.text (String.ofList run)]

def section? : List Char → Option (List Char × List Char)
  | [] => none
  | ']' :: ']' :: '>' :: rest => some ([], rest)
  | c :: rest => (section? rest).map fun (text, rest) => (c :: text, rest)

/-- What an exclamation mark after an opening bracket begins. -/
def declaration (foreignContent : Bool) (s : List Char) : List Token × List Char :=
  match s with
  | '-' :: '-' :: rest =>
    let (token, rest) := comment rest
    ([token], rest)
  | s =>
    match Doctype.after? "doctype".toList s with
    | some rest =>
      let (doctype, rest) := Doctype.read rest
      ([.doctype doctype], rest)
    | none =>
      match foreignContent, s with
      | true, '[' :: 'C' :: 'D' :: 'A' :: 'T' :: 'A' :: '[' :: rest =>
        let (text, rest) := (section? rest).getD (rest, [])
        (textAndNulls text, rest)
      | _, s =>
        let (token, rest) := strayComment s
        ([token], rest)

/-- An end tag from its name on. One that the input cuts off is dropped. -/
def endTag (s : List Char) : List Token × List Char :=
  match tag? s with
  | some (tag, rest) => ([.endTag tag.name], rest)
  | none => ([], [])

def bracket (foreignContent : Bool) (s : List Char) : List Token × List Char :=
  match s with
  | '!' :: rest => declaration foreignContent rest
  | '?' :: _ =>
    let (token, rest) := strayComment s
    ([token], rest)
  | '/' :: [] => ([textToken ['<', '/']], [])
  | '/' :: '>' :: rest => ([], rest)
  | '/' :: c :: rest =>
    if c.isAlpha then endTag (c :: rest)
    else
      let (token, rest) := strayComment (c :: rest)
      ([token], rest)
  | c :: rest =>
    if c.isAlpha then
      match tag? (c :: rest) with
      | some (tag, rest) => ([.startTag tag], rest)
      | none => ([], [])
    else ([textToken ['<']], s)
  | [] => ([textToken ['<']], [])

def ampersand (s : List Char) : List Token × List Char :=
  match Reference.read? false s with
  | some reference =>
    let text := Token.text (String.ofList reference.characters)
    (if reference.wellFormed then [text] else [.fault, text], s.drop reference.length)
  | none => ([textToken ['&']], s)

def closes (name : List Char) (s : List Char) : Bool :=
  match s with
  | '<' :: '/' :: s =>
    match Doctype.after? name s with
    | some (c :: _) => Ascii.isBlank c || c = '/' || c = '>'
    | _ => false
  | _ => false

def untilClosed (name : List Char) : List Char → List Char × List Char
  | [] => ([], [])
  | c :: rest =>
    if closes name (c :: rest) then ([], c :: rest)
    else
      let (text, rest) := untilClosed name rest
      (c :: text, rest)

/-- Where a script stands with regard to its comments, and how many hyphens were just read. -/
inductive ScriptState where
  | outside
  | inComment (hyphens : Nat)
  /-- Inside a script element that is written in a comment. -/
  | nested (hyphens : Nat)

/-- Whether the start tag of a script, after its bracket, stands at the front. -/
def opensScript (s : List Char) : Bool :=
  match Doctype.after? "script".toList s with
  | some (c :: _) => Ascii.isBlank c || c = '/' || c = '>'
  | _ => false

/-- The text of a script before the end tag that ends it, and the rest from that tag on. An end tag
ends the script except inside a nested script element. -/
def scriptText : ScriptState → List Char → List Char × List Char
  | _, [] => ([], [])
  | .outside, '<' :: '!' :: '-' :: '-' :: rest =>
    let (text, rest) := scriptText (.inComment 2) rest
    ('<' :: '!' :: '-' :: '-' :: text, rest)
  | .outside, c :: rest =>
    if closes "script".toList (c :: rest) then ([], c :: rest)
    else
      let (text, rest) := scriptText .outside rest
      (c :: text, rest)
  | .inComment hyphens, c :: rest =>
    if closes "script".toList (c :: rest) then ([], c :: rest)
    else
      let next : ScriptState :=
        if c = '-' then .inComment (hyphens + 1)
        else if c = '>' ∧ 2 ≤ hyphens then .outside
        else if c = '<' ∧ opensScript rest then .nested 0
        else .inComment 0
      let (text, rest) := scriptText next rest
      (c :: text, rest)
  | .nested hyphens, c :: rest =>
    let next : ScriptState :=
      if c = '-' then .nested (hyphens + 1)
      else if c = '>' ∧ 2 ≤ hyphens then .outside
      else if closes "script".toList (c :: rest) then .inComment 0
      else .nested 0
    let (text, rest) := scriptText next rest
    (c :: text, rest)

/-- A text up to the end tag that ends it, or the end tag itself where it stands at the front. -/
def textOrEnd (parts : List Char × List Char) : List Token × List Char :=
  match parts with
  | ([], '<' :: '/' :: rest) => endTag rest
  | (text, rest) => ([textToken text], rest)

/-- The tokens at the front of a text that is not empty, and the text after them. -/
def lexeme (content : Content) (foreignContent : Bool) (s : List Char) : List Token × List Char :=
  match content, s with
  | _, [] => ([], [])
  | .plain, s => ([textToken s], [])
  | .raw name, s => textOrEnd (untilClosed name.toList s)
  | .script, s => textOrEnd (scriptText .outside s)
  | .escapable _, '&' :: rest => ampersand rest
  | .escapable name, s =>
    match untilClosed name.toList s with
    | ([], '<' :: '/' :: rest) => endTag rest
    | (text, rest) =>
      let (before, after) := text.span (· ≠ '&')
      ([textToken before], after ++ rest)
  | .markup, '<' :: rest => bracket foreignContent rest
  | .markup, '&' :: rest => ampersand rest
  | .markup, '\x00' :: rest => ([.null], rest)
  | .markup, s =>
    let (text, rest) := s.span fun c => c ≠ '<' ∧ c ≠ '&' ∧ c ≠ '\x00'
    ([textToken text], rest)

end ClassScript.Html
