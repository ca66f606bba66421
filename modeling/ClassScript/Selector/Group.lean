import ClassScript.Selector.Read
import ClassScript.Text.Blank

/-!
Groups of selectors with commas between them.
-/

namespace ClassScript.Selector

/-- Splits at commas outside quotes and brackets. The quote that is open, if one is, and the number
of open brackets are those at the front of the text. -/
def splitAtCommas (quote? : Option Char) (depth : Nat) : List Char → List (List Char)
  | [] => [[]]
  | c :: rest =>
    match quote? with
    | some quote =>
      (splitAtCommas (if c = quote then none else some quote) depth rest).modifyHead (c :: ·)
    | none =>
      if c = '\x22' ∨ c = '\x27' then (splitAtCommas (some c) depth rest).modifyHead (c :: ·)
      else if c = '[' then (splitAtCommas none (depth + 1) rest).modifyHead (c :: ·)
      else if c = ']' then (splitAtCommas none (depth - 1) rest).modifyHead (c :: ·)
      else if c = ',' ∧ depth = 0 then [] :: splitAtCommas none depth rest
      else (splitAtCommas none depth rest).modifyHead (c :: ·)

def entries (text : String) : List String := (splitAtCommas none 0 text.toList).map String.ofList

/-- Reads one selector of a group, which must ask for something. -/
def readEntry? (entry : String) : Option Selector :=
  (read? (String.ofList (Blank.trim entry.toList))).filter fun selector =>
    !selector.isEmpty

/-- Reads a group of selectors. One that cannot be read spoils the group. -/
def readGroup? (text : String) : Option (List Selector) := (entries text).mapM readEntry?

end ClassScript.Selector
