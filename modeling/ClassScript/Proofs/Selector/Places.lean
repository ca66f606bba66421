import ClassScript.Proofs.Selector.Cursor

/-!
Where a cursor stops and what it stores. It never stops inside a character, each token moves it on, and
the names and values of a token are parts of the text that the cursor has passed.
-/

namespace ClassScript.Selector

/-- What a token stores is of a kind. Names of tags and attributes are stored in lower case. -/
def Token.Stores (p : String → Prop) : Token → Prop
  | .simple (.tag name) => ∃ written, p written ∧ name = Ascii.lower written
  | .simple (.cls name) => p name
  | .simple (.id name) => p name
  | .simple (.attribute name) => ∃ written, p written ∧ name = Ascii.lower written
  | .simple (.attributeValue name _ value) =>
    (∃ written, p written ∧ name = Ascii.lower written) ∧ p value
  | _ => True

theorem Token.Stores.imp {p q : String → Prop} (hpq : ∀ part, p part → q part) {token : Token}
    (h : token.Stores p) : token.Stores q := by
  cases token with
  | simple simple =>
      cases simple with
      | tag name | «attribute» name =>
          obtain ⟨written, hWritten, hName⟩ := h
          exact ⟨written, hpq written hWritten, hName⟩
      | cls name | id name => exact hpq name h
      | attributeValue name comparison value =>
          obtain ⟨⟨written, hWritten, hName⟩, hValue⟩ := h
          exact ⟨⟨written, hpq written hWritten, hName⟩, hpq value hValue⟩
      | universal => trivial
  | combinator | blank | unsupported => trivial

/-- A part of the beginning of a text, in front of what is left. -/
def StandsBefore (s rest : List Char) (part : String) : Prop :=
  ∃ before behind, s = before ++ (part.toList ++ (behind ++ rest))

theorem ValueAt.standsBefore {value : String} {s rest : List Char} (h : ValueAt value s rest) :
    StandsBefore s rest value := by
  cases h with
  | @quoted quote text _ => exact ⟨[quote], [quote], by simp⟩
  | @bare text _ => exact ⟨[], [], by simp⟩

/-- The names and values of a condition stand in its text. -/
theorem SimpleAt.stores {simple : Simple} {s rest : List Char} (h : SimpleAt simple s rest) :
    (Token.simple simple).Stores (StandsBefore s rest) := by
  cases h with
  | universal => exact trivial
  | @tag name _ => exact ⟨_, ⟨[], [], by simp⟩, rfl⟩
  | @cls name _ => exact ⟨['.'], [], by simp⟩
  | @id name _ => exact ⟨['#'], [], by simp⟩
  | @«attribute» before name after _ => exact ⟨_, ⟨'[' :: before, after ++ [']'], by simp⟩, rfl⟩
  | @attributeValue before name between behind after s _ comparison value _ _ _ _ hValue =>
      obtain ⟨front, back, rfl⟩ := hValue.standsBefore
      refine ⟨⟨_, ⟨'[' :: before, ?_, ?_⟩, rfl⟩, ⟨?_, back ++ (after ++ [']']), ?_⟩⟩
      · exact between ++ (comparison.sign.toList ++ (behind ++ (front ++ (value.toList ++
          (back ++ (after ++ [']']))))))
      · simp
      · exact '[' :: (before ++ (name ++ (between ++ (comparison.sign.toList ++ (behind ++ front)))))
      · simp

/-- The names and values of a token stand in what it takes from the text. -/
theorem stores_of_next? {token : Token} {s rest : List Char} (h : next? s = some (token, rest)) :
    token.Stores (StandsBefore s rest) := by
  by_cases hToken : token = .unsupported
  · rw [hToken]
    exact trivial
  · cases (next?_eq_some_iff hToken).mp h with
    | simple hSimple => exact hSimple.stores
    | combinator => exact trivial
    | blank => exact trivial

namespace Cursor

variable {rest : List Char} {cursor : Cursor}

/-- A part of a text that stands between two places in its bytes. -/
def StandsBetween (text : String) (start stop : Nat) (part : String) : Prop :=
  ∃ before behind : String, text = before ++ (part ++ behind) ∧ start ≤ before.utf8ByteSize ∧
    before.utf8ByteSize + part.utf8ByteSize ≤ stop

/-- A cursor stands between characters of a text. A token moves it on, whatever it is, and stores what
the cursor has passed. Without a token everything has been read. -/
structure Advances (text : String) (cursor : Cursor) : Prop where
  index_le : cursor.index ≤ text.utf8ByteSize
  isValid_index : String.Pos.Raw.IsValid text ⟨cursor.index⟩
  index_lt : ∀ token, cursor.next.1 = some token → cursor.index < cursor.next.2.index
  stores : ∀ token, cursor.next.1 = some token →
    token.Stores (StandsBetween text cursor.index cursor.next.2.index)
  index_eq : cursor.next.1 = none → cursor.next.2.index = text.utf8ByteSize

namespace InFront

/-- An answer that is a token is read from what is left of the text. -/
theorem exists_next? {token : Token} (h : InFront text rest cursor)
    (hToken : cursor.next.1 = some token) :
    ∃ left, next? rest = some (token, left) ∧ InFront text left cursor.next.2 := by
  have hNext := h.next
  rw [hNext.answer] at hToken
  obtain ⟨⟨first, left⟩, hRead, rfl⟩ := Option.map_eq_some_iff.mp hToken
  rw [hRead] at hNext
  exact ⟨left, hRead, hNext.inFront⟩

/-- A cursor with less in front of it stands further on. -/
theorem index_lt {left : List Char} {behind : Cursor} (h : InFront text rest cursor)
    (hBehind : InFront text left behind) (hShorter : left.length < rest.length) :
    cursor.index < behind.index := by
  obtain ⟨taken, rfl⟩ :=
    List.suffix_of_suffix_length_le hBehind.suffix h.suffix (Nat.le_of_lt hShorter)
  have hTaken : taken ≠ [] := by
    rintro rfl
    exact absurd hShorter (Nat.lt_irrefl _)
  have hPos := Utf8.length_bytes_pos hTaken
  have hSum := h.index_add.trans hBehind.index_add.symm
  rw [Utf8.length_bytes_append] at hSum
  omega

/-- What stands between two cursors in a text stands between their places in its bytes. -/
theorem standsBetween {text part : String} {left : List Char} {behind : Cursor}
    (h : InFront text.toList rest cursor) (hBehind : InFront text.toList left behind)
    (hPart : StandsBefore rest left part) : StandsBetween text cursor.index behind.index part := by
  obtain ⟨front, back, rfl⟩ := hPart
  obtain ⟨before, hText, hIndex⟩ := h.exists_before
  have hStop := hBehind.index_add
  refine ⟨String.ofList (before ++ front), String.ofList (back ++ left), ?_, ?_, ?_⟩
  · rw [← String.toList_inj, hText]
    simp
  · rw [hIndex, ← Utf8.length_bytes_toList, String.toList_ofList, Utf8.length_bytes_append]
    exact Nat.le_add_right _ _
  · rw [hText] at hStop
    simp only [Utf8.length_bytes_append] at hStop
    rw [← Utf8.length_bytes_toList, ← Utf8.length_bytes_toList, String.toList_ofList,
      Utf8.length_bytes_append]
    omega

end InFront

/-- Between characters a cursor goes on to the next token, or has reached the end. -/
theorem InFront.advances {text : String} (h : InFront text.toList rest cursor) :
    Advances text cursor where
  index_le := by
    rw [← Utf8.length_bytes_toList, ← h.index_add]
    exact Nat.le_add_right _ _
  isValid_index := by
    obtain ⟨before, hText, hIndex⟩ := h.exists_before
    refine String.Pos.Raw.isValid_iff_exists_append.mpr
      ⟨String.ofList before, String.ofList rest, ?_, ?_⟩
    · rw [← String.ofList_append, ← hText, String.ofList_toList]
    · rw [hIndex, String.rawEndPos, ← Utf8.length_bytes_toList, String.toList_ofList]
  index_lt token hToken := by
    obtain ⟨left, hNext, hBehind⟩ := h.exists_next? hToken
    exact h.index_lt hBehind (length_lt_of_next? hNext)
  stores token hToken := by
    obtain ⟨left, hNext, hBehind⟩ := h.exists_next? hToken
    exact (stores_of_next? hNext).imp fun part hPart => h.standsBetween hBehind hPart
  index_eq hNone := by
    have hBehind := h.next
    rw [hBehind.answer, Option.map_eq_none_iff] at hNone
    rw [hNone] at hBehind
    rw [← Utf8.length_bytes_toList, ← hBehind.inFront.index_add]
    rfl

end Cursor

end ClassScript.Selector
