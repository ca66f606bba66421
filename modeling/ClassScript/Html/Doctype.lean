import ClassScript.Text.Ascii
import ClassScript.Html.Token

/-!
Document type declarations: how they are read, and which of them ask for the layout rules of old
documents.
-/

namespace ClassScript.Html

namespace Doctype

/-- Whether `s` begins with `word`, letters of either case alike; then what follows. -/
def after? (word : List Char) (s : List Char) : Option (List Char) :=
  if (s.take word.length).map Char.toLower = word then some (s.drop word.length) else none

def identifier (s : List Char) : String := String.ofList (s.map replaceNull)

def skip (s : List Char) : List Char := (s.dropWhile (· ≠ '>')).drop 1

inductive Quoted where
  | identifier (value : List Char) (rest : List Char)
  /-- The declaration or the text ends inside the quotes. -/
  | unclosed (value : List Char) (rest : List Char)
  | absent (rest : List Char)

/-- An identifier in quotes. It may not hold the bracket that ends the declaration. -/
def quoted (s : List Char) : Quoted :=
  match s.dropWhile Ascii.isBlank with
  | c :: rest =>
    if c = '\x22' ∨ c = '\x27' then
      match rest.span fun d => d ≠ c ∧ d ≠ '>' with
      | (value, d :: rest) => if d = c then .identifier value rest else .unclosed value rest
      | (value, []) => .unclosed value []
    else .absent (c :: rest)
  | [] => .absent []

def afterSystem (doctype : Doctype) (s : List Char) : Doctype × List Char :=
  match s.dropWhile Ascii.isBlank with
  | [] => ({ doctype with broken := true }, [])
  | s => (doctype, skip s)

/-- The rest of a declaration from its system identifier on; `required` where one must stand. -/
def fromSystem (doctype : Doctype) (required : Bool) (s : List Char) : Doctype × List Char :=
  match quoted s with
  | .identifier value rest => afterSystem { doctype with systemId := some (identifier value) } rest
  | .unclosed value rest => ({ doctype with systemId := some (identifier value), broken := true }, rest)
  | .absent ('>' :: rest) => ({ doctype with broken := required }, rest)
  | .absent rest => ({ doctype with broken := true }, skip rest)

def fromPublic (doctype : Doctype) (s : List Char) : Doctype × List Char :=
  match quoted s with
  | .identifier value rest =>
    fromSystem { doctype with publicId := some (identifier value) } false rest
  | .unclosed value rest => ({ doctype with publicId := some (identifier value), broken := true }, rest)
  | .absent rest => ({ doctype with broken := true }, skip rest)

/-- A declaration after the word that begins it, and the text that follows it. -/
def read (s : List Char) : Doctype × List Char :=
  match s.dropWhile Ascii.isBlank with
  | [] => ({ broken := true }, [])
  | '>' :: rest => ({ broken := true }, rest)
  | s =>
    let (name, s) := s.span fun c => !(Ascii.isBlank c || c = '>')
    let doctype : Doctype := { name := String.ofList (name.map fun c => (replaceNull c).toLower) }
    match s.dropWhile Ascii.isBlank with
    | [] => ({ doctype with broken := true }, [])
    | '>' :: rest => (doctype, rest)
    | s =>
      match after? "public".toList s, after? "system".toList s with
      | some rest, _ => fromPublic doctype rest
      | _, some rest => fromSystem doctype true rest
      | _, _ => ({ doctype with broken := true }, skip s)

/-- Public identifiers of old document types, in lower case. -/
def oldPublicIds : List String :=
  ["-//w3o//dtd w3 html strict 3.0//en//", "-/w3c/dtd html 4.0 transitional/en", "html"]

/-- What the public identifiers of other old document types begin with, in lower case. -/
def oldPublicBeginnings : List String :=
  ["+//silmaril//dtd html pro v0r11 19970101//", "-//as//dtd html 3.0 aswedit + extensions//",
   "-//advasoft ltd//dtd html 3.0 aswedit + extensions//", "-//ietf//dtd html 2.0 level 1//",
   "-//ietf//dtd html 2.0 level 2//", "-//ietf//dtd html 2.0 strict level 1//",
   "-//ietf//dtd html 2.0 strict level 2//", "-//ietf//dtd html 2.0 strict//",
   "-//ietf//dtd html 2.0//", "-//ietf//dtd html 2.1e//", "-//ietf//dtd html 3.0//",
   "-//ietf//dtd html 3.2 final//", "-//ietf//dtd html 3.2//", "-//ietf//dtd html 3//",
   "-//ietf//dtd html level 0//", "-//ietf//dtd html level 1//", "-//ietf//dtd html level 2//",
   "-//ietf//dtd html level 3//", "-//ietf//dtd html strict level 0//",
   "-//ietf//dtd html strict level 1//", "-//ietf//dtd html strict level 2//",
   "-//ietf//dtd html strict level 3//", "-//ietf//dtd html strict//", "-//ietf//dtd html//",
   "-//metrius//dtd metrius presentational//", "-//microsoft//dtd internet explorer 2.0 html strict//",
   "-//microsoft//dtd internet explorer 2.0 html//", "-//microsoft//dtd internet explorer 2.0 tables//",
   "-//microsoft//dtd internet explorer 3.0 html strict//",
   "-//microsoft//dtd internet explorer 3.0 html//", "-//microsoft//dtd internet explorer 3.0 tables//",
   "-//netscape comm. corp.//dtd html//", "-//netscape comm. corp.//dtd strict html//",
   "-//o'reilly and associates//dtd html 2.0//", "-//o'reilly and associates//dtd html extended 1.0//",
   "-//o'reilly and associates//dtd html extended relaxed 1.0//",
   "-//softquad software//dtd hotmetal pro 6.0::19990601::extensions to html 4.0//",
   "-//softquad//dtd hotmetal pro 4.0::19971010::extensions to html 4.0//",
   "-//spyglass//dtd html 2.0 extended//", "-//sq//dtd html 2.0 hotmetal + extensions//",
   "-//sun microsystems corp.//dtd hotjava html//", "-//sun microsystems corp.//dtd hotjava strict html//",
   "-//w3c//dtd html 3 1995-03-24//", "-//w3c//dtd html 3.2 draft//", "-//w3c//dtd html 3.2 final//",
   "-//w3c//dtd html 3.2//", "-//w3c//dtd html 3.2s draft//", "-//w3c//dtd html 4.0 frameset//",
   "-//w3c//dtd html 4.0 transitional//", "-//w3c//dtd html experimental 19960712//",
   "-//w3c//dtd html experimental 970421//", "-//w3c//dtd w3 html//", "-//w3o//dtd w3 html 3.0//",
   "-//webtechs//dtd mozilla html 2.0//", "-//webtechs//dtd mozilla html//"]

/-- The same, for document types that count as old only without a system identifier. -/
def oldWithoutSystemId : List String :=
  ["-//w3c//dtd html 4.01 frameset//", "-//w3c//dtd html 4.01 transitional//"]

def oldSystemId : String := "http://www.ibm.com/data/dtd/v11/ibmxhtml1-transitional.dtd"

/-- Whether documents of this type follow the rules of old documents. -/
def isOld (doctype : Doctype) : Bool :=
  let publicId := (doctype.publicId.map Ascii.lower).getD ""
  let systemId := doctype.systemId.map Ascii.lower
  let begins := fun beginnings : List String => beginnings.any fun b => b.toList.isPrefixOf publicId.toList
  doctype.broken || doctype.name != "html" || oldPublicIds.contains publicId ||
    begins oldPublicBeginnings || systemId == some oldSystemId ||
    (systemId.isNone && begins oldWithoutSystemId)

end Doctype

end ClassScript.Html
