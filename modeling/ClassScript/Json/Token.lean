/-!
The tokens of JSON texts, as far as numbers and truth values are not concerned. Blanks between
tokens mean nothing; inside a string every character counts.
-/

namespace ClassScript.Json

inductive Token where
  | openBrace
  | closeBrace
  | openBracket
  | closeBracket
  | comma
  | colon
  | null
  | string (text : String)
deriving Repr, DecidableEq

/-- A character inside quotes. Only what has to be escaped is. -/
def escape (c : Char) : List Char :=
  match c with
  | '\x22' => ['\\', '\x22']
  | '\\' => ['\\', '\\']
  | '\x08' => ['\\', 'b']
  | '\x0c' => ['\\', 'f']
  | '\n' => ['\\', 'n']
  | '\r' => ['\\', 'r']
  | '\t' => ['\\', 't']
  | c =>
    if c.toNat < 0x20 then
      ['\\', 'u', '0', '0', Nat.digitChar (c.toNat / 16), Nat.digitChar (c.toNat % 16)]
    else [c]

def Token.write : Token → List Char
  | openBrace => ['\x7b']
  | closeBrace => ['\x7d']
  | openBracket => ['[']
  | closeBracket => [']']
  | comma => [',']
  | colon => [':']
  | null => ['n', 'u', 'l', 'l']
  | string text => '\x22' :: (text.toList.flatMap escape ++ ['\x22'])

def write (tokens : List Token) : String := String.ofList (tokens.flatMap Token.write)

def isBlank (c : Char) : Bool := c = ' ' || c = '\t' || c = '\n' || c = '\r'

def digit? (c : Char) : Option Nat :=
  if c.isDigit then some (c.toNat - '0'.toNat)
  else if 'a' ≤ c ∧ c ≤ 'f' then some (c.toNat - 'a'.toNat + 10)
  else if 'A' ≤ c ∧ c ≤ 'F' then some (c.toNat - 'A'.toNat + 10)
  else none

def fourDigits? (a b c d : Char) : Option Nat := do
  return (((← digit? a) * 16 + (← digit? b)) * 16 + (← digit? c)) * 16 + (← digit? d)

/-- The first half of a character that is written in two. -/
def isHighHalf (n : Nat) : Bool := 0xd800 ≤ n && n < 0xdc00

/-- The second half of a character that is written in two. -/
def isLowHalf (n : Nat) : Bool := 0xdc00 ≤ n && n < 0xe000

/-- The character with a number, and what follows it. A character beyond 16 bits is written in two
halves, and a half alone is no character. -/
def numbered? (n : Nat) (rest : List Char) : Option (Char × List Char) :=
  if isHighHalf n then
    match rest with
    | '\\' :: 'u' :: a :: b :: c :: d :: rest =>
      (fourDigits? a b c d).bind fun low =>
        if isLowHalf low then
          some (Char.ofNat (0x10000 + (n - 0xd800) * 0x400 + (low - 0xdc00)), rest)
        else none
    | _ => none
  else if isLowHalf n then none
  else some (Char.ofNat n, rest)

def character? : List Char → Option (Char × List Char)
  | '\\' :: '\x22' :: rest => some ('\x22', rest)
  | '\\' :: '\\' :: rest => some ('\\', rest)
  | '\\' :: '/' :: rest => some ('/', rest)
  | '\\' :: 'b' :: rest => some ('\x08', rest)
  | '\\' :: 'f' :: rest => some ('\x0c', rest)
  | '\\' :: 'n' :: rest => some ('\n', rest)
  | '\\' :: 'r' :: rest => some ('\r', rest)
  | '\\' :: 't' :: rest => some ('\t', rest)
  | '\\' :: 'u' :: a :: b :: c :: d :: rest => (fourDigits? a b c d).bind (numbered? · rest)
  | '\\' :: _ => none
  | '\x22' :: _ => none
  | c :: rest => if c.toNat < 0x20 then none else some (c, rest)
  | [] => none

/-- The second half of a character is taken from what follows, or nothing is. -/
theorem length_numbered?_le {n : Nat} {s rest : List Char} {c : Char}
    (h : numbered? n s = some (c, rest)) : rest.length ≤ s.length := by
  unfold numbered? at h
  split at h
  · split at h
    · simp only [Option.bind_eq_some_iff] at h
      obtain ⟨low, _, h⟩ := h
      split at h
      · simp only [Option.some.injEq, Prod.mk.injEq] at h
        rw [← h.2]
        simp only [List.length_cons]
        omega
      · simp at h
    · simp at h
  · split at h
    · simp at h
    · simp only [Option.some.injEq, Prod.mk.injEq] at h
      simp [h.2]

/-- Every character of a string takes one at least to write. -/
theorem length_character?_lt {s rest : List Char} {c : Char}
    (h : character? s = some (c, rest)) : rest.length < s.length := by
  unfold character? at h
  split at h <;> grind [Option.bind_eq_some_iff, → length_numbered?_le]

/-- The text up to the closing quote, and what follows the quote. -/
def text? (s : List Char) : Option (List Char × List Char) :=
  match s with
  | '\x22' :: rest => some ([], rest)
  | s =>
    match _h : character? s with
    | none => none
    | some (c, rest) => (text? rest).map fun (text, rest) => (c :: text, rest)
termination_by s.length
decreasing_by exact length_character?_lt ‹_›

def token? : List Char → Option (Token × List Char)
  | '\x7b' :: rest => some (.openBrace, rest)
  | '\x7d' :: rest => some (.closeBrace, rest)
  | '[' :: rest => some (.openBracket, rest)
  | ']' :: rest => some (.closeBracket, rest)
  | ',' :: rest => some (.comma, rest)
  | ':' :: rest => some (.colon, rest)
  | 'n' :: 'u' :: 'l' :: 'l' :: rest => some (.null, rest)
  | '\x22' :: rest => (text? rest).map fun (text, rest) => (.string (String.ofList text), rest)
  | _ => none

/-- The closing quote is taken as well, so a text takes one character at least. -/
theorem length_text?_lt {s text rest : List Char} (h : text? s = some (text, rest)) :
    rest.length < s.length := by
  fun_induction text? s generalizing text rest with
  | case1 => grind
  | case2 => simp at h
  | case3 s _ c tail hChar ih =>
    obtain ⟨⟨first, second⟩, hText, hEq⟩ := Option.map_eq_some_iff.1 h
    cases hEq
    exact Nat.lt_trans (ih hText) (length_character?_lt hChar)

/-- Reading tokens ends, since each of them takes something. -/
theorem length_token?_lt {s rest : List Char} {token : Token}
    (h : token? s = some (token, rest)) : rest.length < s.length := by
  unfold token? at h
  split at h <;> grind [Option.map_eq_some_iff, → length_text?_lt]

def tokens? (s : List Char) : Option (List Token) :=
  match s with
  | [] => some []
  | c :: rest =>
    if isBlank c then tokens? rest
    else match _h : token? (c :: rest) with
      | none => none
      | some (token, after) => (tokens? after).map (token :: ·)
termination_by s.length
decreasing_by
  · simp
  · exact length_token?_lt ‹_›

end ClassScript.Json
