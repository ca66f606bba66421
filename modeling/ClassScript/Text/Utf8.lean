/-!
Texts as bytes. A place in the bytes of a text is a number of bytes, and not every place lies between two
characters.
-/

namespace ClassScript.Utf8

def bytes (s : List Char) : List UInt8 := s.flatMap String.utf8EncodeChar

/-- The bytes from one place up to another, if there are such places in this order. -/
def between? (bytes : List UInt8) (start stop : Nat) : Option (List UInt8) :=
  if start ≤ stop ∧ stop ≤ bytes.length then some ((bytes.take stop).drop start) else none

/-- The part of a text from one place up to another, if both lie between characters. -/
def part? (text : String) (start stop : Nat) : Option String :=
  if h : start ≤ stop ∧ String.Pos.Raw.IsValid text ⟨start⟩ ∧ String.Pos.Raw.IsValid text ⟨stop⟩ then
    some (String.extract ⟨⟨start⟩, h.2.1⟩ ⟨⟨stop⟩, h.2.2⟩)
  else none

/-- Whether a byte can be a later byte of a character. -/
def isLater (byte : UInt8) : Bool := 0x80 ≤ byte && byte < 0xc0

/-- Whether a character of three bytes or more can begin with these two. Some first bytes would begin
characters that are written shorter, halves of pairs or numbers that are too large. -/
def canBegin (first second : UInt8) : Bool :=
  if first = 0xe0 then 0xa0 ≤ second && second < 0xc0
  else if first = 0xed then 0x80 ≤ second && second < 0xa0
  else if first = 0xf0 then 0x90 ≤ second && second < 0xc0
  else if first = 0xf4 then 0x80 ≤ second && second < 0x90
  else 0xe1 ≤ first && first ≤ 0xf3 && isLater second

/-- How many bytes go with a first byte that begins no character. They are those with which one could
still have begun. -/
def brokenTail (first : UInt8) : List UInt8 → Nat
  | second :: third :: _ =>
    if canBegin first second then if 0xf0 ≤ first && isLater third then 2 else 1 else 0
  | [second] => if canBegin first second then 1 else 0
  | [] => 0

/-- The text that bytes are read as. What begins no character is replaced. -/
def lossy : List UInt8 → List Char
  | [] => []
  | first :: rest =>
    match (first :: rest).toByteArray.utf8DecodeChar? 0 with
    | some c => c :: lossy (rest.drop (c.utf8Size - 1))
    | none => '\ufffd' :: lossy (rest.drop (brokenTail first rest))
termination_by bytes => bytes.length
decreasing_by all_goals exact Nat.lt_succ_of_le (List.length_drop ▸ Nat.sub_le _ _)

end ClassScript.Utf8
