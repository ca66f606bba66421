import ClassScript.Text.Ascii
import ClassScript.Html.Reference

/-!
The inside of tags: names, attributes and the closing bracket.
-/

namespace ClassScript.Html

/-- Skips blanks and slashes before an attribute, but not the slash that closes the tag. -/
def skipToAttribute : List Char → List Char
  | '/' :: '>' :: rest => '/' :: '>' :: rest
  | c :: rest => if Ascii.isBlank c || c = '/' then skipToAttribute rest else c :: rest
  | [] => []

inductive TagPart where
  | attribute (name value : String) (rest : List Char)
  | close (selfClosing : Bool) (rest : List Char)
  /-- The text ends before the tag does. -/
  | cut

/-- Names are lower-cased, and null characters replaced. -/
def nameOf (s : List Char) : String :=
  String.ofList (s.map fun c => (replaceNull c).toLower)

def quotedValue? (quote : Char) (s : List Char) : Option (List Char × List Char) :=
  match s.span (· ≠ quote) with
  | (value, _ :: rest) => some (attributeValue value, rest)
  | (_, []) => none

/-- The value after an equals sign. A tag that closes there leaves the value empty. -/
def valueAfterEquals? (s : List Char) : Option (List Char × List Char) :=
  match s.dropWhile Ascii.isBlank with
  | [] => none
  | '\x22' :: rest => quotedValue? '\x22' rest
  | '\x27' :: rest => quotedValue? '\x27' rest
  | '>' :: rest => some ([], '>' :: rest)
  | s =>
    let (value, rest) := s.span fun c => !(Ascii.isBlank c || c = '>')
    some (attributeValue value, rest)

def tagPart (s : List Char) : TagPart :=
  match skipToAttribute s with
  | [] => .cut
  | '/' :: '>' :: rest => .close true rest
  | '>' :: rest => .close false rest
  | first :: s =>
    let (more, s) := s.span fun c => !(Ascii.isBlank c || c = '/' || c = '>' || c = '=')
    let name := nameOf (first :: more)
    match s.dropWhile Ascii.isBlank with
    | '=' :: rest =>
      match valueAfterEquals? rest with
      | some (value, rest) => .attribute name (String.ofList value) rest
      | none => .cut
    | rest => .attribute name "" rest

/-- Reads the rest of a tag. Of several attributes of one name the first counts. -/
def tagRest? (tag : Tag) : Nat → List Char → Option (Tag × List Char)
  | 0, _ => none
  | fuel + 1, s =>
    match tagPart s with
    | .cut => none
    | .close selfClosing rest => some ({ tag with selfClosing }, rest)
    | .attribute name value rest =>
      if (tag.attribute? name).isSome then tagRest? tag fuel rest
      else tagRest? { tag with attributes := tag.attributes ++ [(name, value)] } fuel rest

/-- A tag from its name on, and the text after it. Each attribute takes a character at least. -/
def tag? (s : List Char) : Option (Tag × List Char) :=
  let (name, rest) := s.span fun c => !(Ascii.isBlank c || c = '/' || c = '>')
  tagRest? { name := nameOf name } (rest.length + 1) rest

end ClassScript.Html
