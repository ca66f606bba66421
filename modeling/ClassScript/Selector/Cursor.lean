import ClassScript.Selector.Token
import ClassScript.Text.Utf8

/-!
Selectors read byte by byte. A cursor holds a place in the bytes of a text and moves it on. Bytes are looked
at alone, each as the character with its number, so those of a character beyond ASCII look like others.
-/

namespace ClassScript.Selector

/-- The bytes of a text, and the place up to which they have been read. -/
structure Cursor where
  bytes : List UInt8
  index : Nat := 0
  /-- Blanks have been read that no token stands for yet. -/
  pendingBlank : Bool := false
deriving Repr, DecidableEq

namespace Cursor

def ofText (text : String) : Cursor := { bytes := Utf8.bytes text.toList }

def peek? (cursor : Cursor) : Option Char := cursor.bytes[cursor.index]?.map Char.ofUInt8

def advance (cursor : Cursor) : Cursor := { cursor with index := cursor.index + 1 }

/-- Past the next byte, if there is one. -/
def advanceIfAny (cursor : Cursor) : Cursor :=
  if cursor.peek?.isSome then cursor.advance else cursor

def skipWhile (p : Char → Bool) (cursor : Cursor) : Cursor :=
  let run := (cursor.bytes.drop cursor.index).takeWhile fun byte => p (Char.ofUInt8 byte)
  { cursor with index := cursor.index + run.length }

def skipBlanks (cursor : Cursor) : Cursor := cursor.skipWhile Ascii.isBlank

def pastBracket (cursor : Cursor) : Cursor := (cursor.skipWhile (· ≠ ']')).advanceIfAny

def textFrom (start : Nat) (cursor : Cursor) : String :=
  String.ofList (Utf8.lossy ((Utf8.between? cursor.bytes start cursor.index).getD []))

def run (p : Char → Bool) (cursor : Cursor) : String × Cursor :=
  let behind := cursor.skipWhile p
  (behind.textFrom cursor.index, behind)

def name (cursor : Cursor) : String × Cursor := cursor.run isNameChar

def comparison? (cursor : Cursor) : Option (Comparison × Cursor) :=
  match cursor.peek? with
  | some '=' => some (.equals, cursor.advance)
  | some '~' => signed .hasWord
  | some '|' => signed .dashed
  | some '^' => signed .startsWith
  | some '$' => signed .endsWith
  | some '*' => signed .contains
  | _ => none
where
  /-- A comparison whose mark comes next, if `=` follows the mark. -/
  signed (comparison : Comparison) : Option (Comparison × Cursor) :=
    if cursor.advance.peek? = some '=' then some (comparison, cursor.advance.advance) else none

def quotedValue (quote : Char) (cursor : Cursor) : String × Cursor :=
  let (text, behind) := cursor.run (· ≠ quote)
  (text, behind.advanceIfAny)

def value (cursor : Cursor) : String × Cursor :=
  match cursor.peek? with
  | some '\x22' => cursor.advance.quotedValue '\x22'
  | some '\x27' => cursor.advance.quotedValue '\x27'
  | _ => cursor.run isBareChar

def close (simple : Simple) (cursor : Cursor) : Token × Cursor :=
  if cursor.peek? = some ']' then (.simple simple, cursor.advance)
  else (.unsupported, cursor.pastBracket)

def bracketed (cursor : Cursor) : Token × Cursor :=
  let (written, behind) := cursor.skipBlanks.name
  let name := Ascii.lower written
  let behind := behind.skipBlanks
  if name.isEmpty then (.unsupported, behind.pastBracket)
  else match behind.comparison? with
    | none => behind.close (.attribute name)
    | some (comparison, behind) =>
      let (value, behind) := behind.skipBlanks.value
      behind.skipBlanks.close (.attributeValue name comparison value)

def named (condition : String → Simple) (cursor : Cursor) : Token × Cursor :=
  let (name, behind) := cursor.name
  (if name.isEmpty then .unsupported else .simple (condition name), behind)

/-- A condition on the tag that comes next. A byte that begins no name is skipped. -/
def tag (cursor : Cursor) : Token × Cursor :=
  let (name, behind) := cursor.name
  if name.isEmpty then (.unsupported, behind.advance)
  else (.simple (.tag (Ascii.lower name)), behind)

def tokenAt (c : Char) (cursor : Cursor) : Token × Cursor :=
  match c with
  | '*' => (.simple .universal, cursor.advance)
  | '.' => cursor.advance.named .cls
  | '#' => cursor.advance.named .id
  | '[' => cursor.advance.bracketed
  | '>' => (.combinator .child, cursor.advance)
  | '+' => (.combinator .adjacentSibling, cursor.advance)
  | '~' => (.combinator .generalSibling, cursor.advance)
  | _ => cursor.tag

/-- Past blanks, which are noted if there are any. -/
def noteBlanks (cursor : Cursor) : Cursor :=
  let behind := cursor.skipBlanks
  if cursor.index < behind.index then { behind with pendingBlank := true } else behind

/-- The token that comes next, if there is one, and the cursor behind what has been read. -/
def next (cursor : Cursor) : Option Token × Cursor :=
  let behind := cursor.noteBlanks
  if behind.pendingBlank then
    let behind := { behind with pendingBlank := false }
    if behind.bytes.length ≤ behind.index then (none, behind) else (some .blank, behind)
  else match behind.peek? with
    | none => (none, behind)
    | some c =>
      let (token, behind) := behind.tokenAt c
      (some token, behind)

/-- The cursor after a number of tokens have been asked for, whatever the answers. -/
def after (cursor : Cursor) : Nat → Cursor
  | 0 => cursor
  | calls + 1 => (cursor.after calls).next.2

end Cursor

/-- How far a group has been divided at its commas. -/
structure Division where
  /-- Where the entries begin and end that are complete. -/
  ranges : List (Nat × Nat) := []
  /-- Where the entry begins that is being read. -/
  start : Nat := 0
  /-- The quote that is open, if one is. -/
  quote? : Option Char := none
  /-- The number of open brackets. -/
  depth : Nat := 0
deriving Repr, DecidableEq

namespace Division

def upTo (division : Division) (stop : Nat) : List (Nat × Nat) :=
  division.ranges ++ [(division.start, stop)]

def step (division : Division) (index : Nat) (c : Char) : Division :=
  match division.quote? with
  | some quote => if c = quote then { division with quote? := none } else division
  | none =>
    if c = '\x22' ∨ c = '\x27' then { division with quote? := some c }
    else if c = '[' then { division with depth := division.depth + 1 }
    else if c = ']' then { division with depth := division.depth - 1 }
    else if c = ',' ∧ division.depth = 0 then
      { division with ranges := division.upTo index, start := index + 1 }
    else division

def read (division : Division) (index : Nat) (bytes : List UInt8) : Division :=
  (bytes.zipIdx index).foldl (fun division (byte, index) => division.step index (Char.ofUInt8 byte))
    division

end Division

/-- Where the entries of a group begin and end in its bytes. -/
def entryRanges (text : String) : List (Nat × Nat) :=
  let bytes := Utf8.bytes text.toList
  (Division.read {} 0 bytes).upTo bytes.length

def cutEntries (text : String) : List String :=
  (entryRanges text).map fun (start, stop) => (Utf8.part? text start stop).getD ""

end ClassScript.Selector
