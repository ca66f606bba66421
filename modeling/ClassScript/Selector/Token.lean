import ClassScript.Selector.Basic

/-!
The tokens of a selector. Reading one always takes a character, also where the text is malformed.
-/

namespace ClassScript.Selector

inductive Token where
  | simple (simple : Simple)
  /-- A combinator that is written with a character of its own. -/
  | combinator (combinator : Combinator)
  /-- Blanks with something after them. -/
  | blank
  /-- Something that is no part of any selector that is understood. -/
  | unsupported
deriving Repr, DecidableEq

/-- The characters of names: letters and digits, `-` and `_`, and all that is not ASCII. -/
def isNameChar (c : Char) : Bool :=
  c.isAlphanum || c = '-' || c = '_' || 0x80 ≤ c.toNat

def skipBlanks (s : List Char) : List Char := s.dropWhile Ascii.isBlank

/-- The name at the front, which may be empty, and what follows it. -/
def name (s : List Char) : String × List Char :=
  (String.ofList (s.takeWhile isNameChar), s.dropWhile isNameChar)

def pastBracket (s : List Char) : List Char := (s.dropWhile (· ≠ ']')).drop 1

def comparison? : List Char → Option (Comparison × List Char)
  | '=' :: rest => some (.equals, rest)
  | '~' :: '=' :: rest => some (.hasWord, rest)
  | '|' :: '=' :: rest => some (.dashed, rest)
  | '^' :: '=' :: rest => some (.startsWith, rest)
  | '$' :: '=' :: rest => some (.endsWith, rest)
  | '*' :: '=' :: rest => some (.contains, rest)
  | _ => none

def quotedValue (quote : Char) (s : List Char) : String × List Char :=
  (String.ofList (s.takeWhile (· ≠ quote)), (s.dropWhile (· ≠ quote)).drop 1)

def isBareChar (c : Char) : Bool := !Ascii.isBlank c && c ≠ ']'

/-- The value at the front, in quotes or up to a blank or a closing bracket. -/
def value (s : List Char) : String × List Char :=
  match s with
  | '\x22' :: rest => quotedValue '\x22' rest
  | '\x27' :: rest => quotedValue '\x27' rest
  | s => (String.ofList (s.takeWhile isBareChar), s.dropWhile isBareChar)

/-- A condition whose bracket comes next; without it, what is skipped goes to the next one. -/
def close (simple : Simple) : List Char → Token × List Char
  | ']' :: rest => (.simple simple, rest)
  | s => (.unsupported, pastBracket s)

/-- What stands in brackets, from behind the opening one. -/
def bracketed (s : List Char) : Token × List Char :=
  let (written, rest) := name (skipBlanks s)
  let name := Ascii.lower written
  let rest := skipBlanks rest
  if name.isEmpty then (.unsupported, pastBracket rest)
  else match comparison? rest with
    | none => close (.attribute name) rest
    | some (comparison, rest) =>
      let (value, rest) := value (skipBlanks rest)
      close (.attributeValue name comparison value) (skipBlanks rest)

/-- A condition on the name that follows its mark. -/
def named (condition : String → Simple) (s : List Char) : Token × List Char :=
  let (name, rest) := name s
  (if name.isEmpty then .unsupported else .simple (condition name), rest)

def tokenAt (c : Char) (rest : List Char) : Token × List Char :=
  match c with
  | '*' => (.simple .universal, rest)
  | '.' => named .cls rest
  | '#' => named .id rest
  | '[' => bracketed rest
  | '>' => (.combinator .child, rest)
  | '+' => (.combinator .adjacentSibling, rest)
  | '~' => (.combinator .generalSibling, rest)
  | c =>
    if isNameChar c then named (fun name => .tag (Ascii.lower name)) (c :: rest)
    else (.unsupported, rest)

/-- The token at the front, and what follows it. Blanks at the end of the text are none. -/
def next? : List Char → Option (Token × List Char)
  | [] => none
  | c :: rest =>
    if Ascii.isBlank c then
      match skipBlanks rest with
      | [] => none
      | rest => some (.blank, rest)
    else some (tokenAt c rest)

theorem length_dropWhile_le (p : Char → Bool) (s : List Char) :
    (s.dropWhile p).length ≤ s.length :=
  (List.dropWhile_suffix p).length_le

theorem length_pastBracket_le (s : List Char) : (pastBracket s).length ≤ s.length := by
  have := length_dropWhile_le (· ≠ ']') s
  simp only [pastBracket, List.length_drop]
  omega

/-- A comparison takes one character at least. -/
theorem length_comparison?_lt {s rest : List Char} {comparison : Comparison}
    (h : comparison? s = some (comparison, rest)) : rest.length < s.length := by
  unfold comparison? at h
  split at h <;> grind

theorem length_quotedValue_le (quote : Char) (s : List Char) :
    (quotedValue quote s).2.length ≤ s.length := by
  have := length_dropWhile_le (· ≠ quote) s
  simp only [quotedValue, List.length_drop]
  omega

theorem length_value_le (s : List Char) : (value s).2.length ≤ s.length := by
  unfold value
  split
  · exact Nat.le_succ_of_le (length_quotedValue_le _ _)
  · exact Nat.le_succ_of_le (length_quotedValue_le _ _)
  · exact length_dropWhile_le _ _

/-- What is skipped of a malformed condition is taken from what follows. -/
theorem length_close_le (simple : Simple) (s : List Char) :
    (close simple s).2.length ≤ s.length := by
  unfold close
  split
  · simp
  · exact length_pastBracket_le _

theorem length_bracketed_le (s : List Char) : (bracketed s).2.length ≤ s.length := by
  have hName : (skipBlanks (name (skipBlanks s)).2).length ≤ s.length :=
    Nat.le_trans (length_dropWhile_le _ _)
      (Nat.le_trans (length_dropWhile_le _ _) (length_dropWhile_le _ _))
  unfold bracketed
  simp only
  split
  · exact Nat.le_trans (length_pastBracket_le _) hName
  · split
    · exact Nat.le_trans (length_close_le _ _) hName
    · next comparison rest h =>
      have hComparison := length_comparison?_lt h
      have hBlanks : (skipBlanks rest).length ≤ rest.length := length_dropWhile_le _ _
      have hValue := length_value_le (skipBlanks rest)
      have hAfter : (skipBlanks (value (skipBlanks rest)).2).length ≤ _ :=
        length_dropWhile_le _ _
      exact Nat.le_trans (length_close_le _ _) (by omega)

/-- Behind its first character a token takes nothing that is not there. -/
theorem length_tokenAt_le (c : Char) (rest : List Char) :
    (tokenAt c rest).2.length ≤ rest.length := by
  unfold tokenAt
  split
  · simp
  · exact length_dropWhile_le _ _
  · exact length_dropWhile_le _ _
  · exact length_bracketed_le _
  · simp
  · simp
  · simp
  · split
    · next h => simpa [named, name, h] using length_dropWhile_le _ _
    · simp

/-- The first character of a token is always taken, so reading ends. -/
theorem length_lt_of_next? {s rest : List Char} {token : Token}
    (h : next? s = some (token, rest)) : rest.length < s.length := by
  cases s with
  | nil => simp [next?] at h
  | cons c tail =>
    rw [next?] at h
    split at h
    · have hTail := length_dropWhile_le Ascii.isBlank tail
      split at h
      · simp at h
      · simp only [Option.some.injEq, Prod.mk.injEq] at h
        simp only [skipBlanks] at *
        simp only [List.length_cons]
        grind
    · have hTail := length_tokenAt_le c tail
      simp only [Option.some.injEq] at h
      rw [h] at hTail
      exact Nat.lt_succ_of_le hTail

def tokens (s : List Char) : List Token :=
  match _h : next? s with
  | none => []
  | some (token, rest) => token :: tokens rest
termination_by s.length
decreasing_by exact length_lt_of_next? ‹_›

end ClassScript.Selector
