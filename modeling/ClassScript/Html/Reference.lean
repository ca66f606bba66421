import ClassScript.Html.Entity
import ClassScript.Html.Token

/-!
Character references: the text after an ampersand that stands for other characters.
-/

namespace ClassScript.Html

/-- What a reference stands for, whether it is written as it should be, and how many characters
after the ampersand it takes. -/
structure Reference where
  characters : List Char
  wellFormed : Bool
  length : Nat
deriving Repr, DecidableEq

namespace Reference

/-- The characters that the numbers 128 to 159 stand for, in order; where there is none the number
stands for itself. -/
def windowsCharacters : List Nat :=
  [0x20ac, 0x81, 0x201a, 0x192, 0x201e, 0x2026, 0x2020, 0x2021,
   0x2c6, 0x2030, 0x160, 0x2039, 0x152, 0x8d, 0x17d, 0x8f,
   0x90, 0x2018, 0x2019, 0x201c, 0x201d, 0x2022, 0x2013, 0x2014,
   0x2dc, 0x2122, 0x161, 0x203a, 0x153, 0x9d, 0x17e, 0x178]

/-- The character that a number stands for, and whether the number may be written at all. -/
def ofNumber (n : Nat) : Char × Bool :=
  if n = 0 ∨ (0xd800 ≤ n ∧ n ≤ 0xdfff) ∨ 0x10ffff < n then ('\ufffd', false)
  else if 0x80 ≤ n ∧ n ≤ 0x9f then (Char.ofNat (windowsCharacters.getD (n - 0x80) n), false)
  else if n ≤ 0x8 ∨ n = 0xb ∨ (0xd ≤ n ∧ n ≤ 0x1f) ∨ n = 0x7f ∨ (0xfdd0 ≤ n ∧ n ≤ 0xfdef) ∨
      n % 0x10000 = 0xfffe ∨ n % 0x10000 = 0xffff then (Char.ofNat n, false)
  else (Char.ofNat n, true)

/-- A reference by number: its digits, already read, and the text after them. -/
def numeric? (lead : Nat) (base : Nat) (isDigit : Char → Bool) (s : List Char) : Option Reference :=
  match s.takeWhile isDigit with
  | [] => none
  | digits =>
    let n := digits.foldl (fun n c => match hexValue? c with | some d => n * base + d | none => n) 0
    let (character, allowed) := ofNumber n
    let closed := (s.drop digits.length).head? = some ';'
    some ⟨[character], allowed && closed, lead + digits.length + if closed then 1 else 0⟩

/-- The longest beginning of `name` that is in the table, tried from `length` characters down. -/
def longestName? (name : List Char) : Nat → Option (List Char × Nat)
  | 0 => none
  | length + 1 =>
    match entities[String.ofList (name.take (length + 1))]? with
    | some characters => some (characters, length + 1)
    | none => longestName? name length

/-- A reference by name. Inside an attribute a name without its semicolon is ordinary text where a
letter, a digit or an equals sign follows. -/
def named? (inAttribute : Bool) (s : List Char) : Option Reference :=
  let letters := (s.take longestEntityName).takeWhile Char.isAlphanum
  let name := if (s.drop letters.length).head? = some ';' then letters ++ [';'] else letters
  match longestName? name name.length with
  | none => none
  | some (characters, length) =>
    let closed := (name.take length).getLast? = some ';'
    let runsOn := match (s.drop length).head? with
      | some c => c = '=' || c.isAlphanum
      | none => false
    if !closed && inAttribute && runsOn then none
    else some ⟨characters, closed, length⟩

/-- The reference that an ampersand before `s` begins; without one the ampersand is text. -/
def read? (inAttribute : Bool) (s : List Char) : Option Reference :=
  match s with
  | '#' :: 'x' :: rest => numeric? 2 16 (hexValue? · |>.isSome) rest
  | '#' :: 'X' :: rest => numeric? 2 16 (hexValue? · |>.isSome) rest
  | '#' :: rest => numeric? 1 10 Char.isDigit rest
  | _ => named? inAttribute s

end Reference

/-- The value of an attribute: references are replaced, and null characters as well. -/
def attributeValue (s : List Char) : List Char :=
  match s with
  | [] => []
  | '&' :: rest =>
    match Reference.read? true rest with
    | some reference => reference.characters ++ attributeValue (rest.drop reference.length)
    | none => '&' :: attributeValue rest
  | c :: rest => replaceNull c :: attributeValue rest
termination_by s.length
decreasing_by all_goals simp; try omega

end ClassScript.Html
