import ClassScript.Proofs.Selector.Tokens
import ClassScript.Proofs.Text.Utf8
import ClassScript.Selector.Cursor

/-!
Reading bytes keeps in step with reading characters. A cursor that stands between two characters is moved to
where the reading of the characters goes on, and gives the same answer.
-/

namespace ClassScript.Selector

namespace Cursor

variable {text rest : List Char} {cursor : Cursor}

/-- The cursor stands in the bytes of a text in front of the last characters of it. -/
structure InFront (text rest : List Char) (cursor : Cursor) : Prop where
  bytes_eq : cursor.bytes = Utf8.bytes text
  suffix : rest <:+ text
  index_add : cursor.index + (Utf8.bytes rest).length = (Utf8.bytes text).length
  pending : cursor.pendingBlank = false

/-- The cursor gives the answer that is read, and stands in front of what follows it. -/
structure InStep {α : Type} (text : List Char) (read : α × List Char) (moved : α × Cursor) : Prop where
  answer : moved.1 = read.1
  inFront : InFront text read.2 moved.2

/-- A new cursor stands in front of the whole text. -/
theorem inFront_ofText (text : String) : InFront text.toList text.toList (ofText text) where
  bytes_eq := rfl
  suffix := List.suffix_refl _
  index_add := Nat.zero_add _
  pending := rfl

namespace InFront

/-- The index counts the bytes of what stands before the cursor. -/
theorem exists_before (h : InFront text rest cursor) :
    ∃ before, text = before ++ rest ∧ cursor.index = (Utf8.bytes before).length := by
  obtain ⟨before, rfl⟩ := h.suffix
  have hIndex := h.index_add
  rw [Utf8.length_bytes_append] at hIndex
  exact ⟨before, rfl, Nat.add_right_cancel hIndex⟩

/-- The bytes that are left are those of the characters that are left. -/
theorem drop_bytes (h : InFront text rest cursor) :
    cursor.bytes.drop cursor.index = Utf8.bytes rest := by
  obtain ⟨before, hText, hIndex⟩ := h.exists_before
  rw [h.bytes_eq, hText, hIndex, Utf8.bytes_append, List.drop_left]

/-- A cursor that is moved by the bytes of characters stands behind them. -/
theorem move {taken : List Char} (h : InFront text (taken ++ rest) cursor) :
    InFront text rest { cursor with index := cursor.index + (Utf8.bytes taken).length } where
  bytes_eq := h.bytes_eq
  suffix := (List.suffix_append taken rest).trans h.suffix
  index_add := by
    have hIndex := h.index_add
    rw [Utf8.length_bytes_append] at hIndex
    rw [← hIndex]
    exact Nat.add_assoc _ _ _
  pending := h.pending

theorem peek?_nil (h : InFront text [] cursor) : cursor.peek? = none := by
  rw [peek?, ← List.head?_drop, h.drop_bytes]
  rfl

/-- The next byte is the next character, or both lie beyond ASCII. -/
theorem exists_peek? {c : Char} (h : InFront text (c :: rest) cursor) :
    ∃ d, cursor.peek? = some d ∧ (c.toNat < 0x80 ∧ d = c ∨ 0x80 ≤ c.toNat ∧ 0x80 ≤ d.toNat) := by
  obtain ⟨byte, more, hBytes⟩ := List.exists_cons_of_ne_nil (String.utf8EncodeChar_ne_nil (c := c))
  have hPeek : cursor.peek? = some (Char.ofUInt8 byte) := by
    rw [peek?, ← List.head?_drop, h.drop_bytes, Utf8.bytes_cons, hBytes]
    rfl
  refine ⟨Char.ofUInt8 byte, hPeek, ?_⟩
  rcases Nat.lt_or_ge c.toNat 0x80 with hc | hc
  · have hAlone := Utf8.utf8EncodeChar_of_lt hc
    rw [hBytes, List.map_cons] at hAlone
    exact .inl ⟨hc, (List.cons.inj hAlone).1⟩
  · exact .inr ⟨hc, Utf8.le_of_mem_utf8EncodeChar hc (by simp [hBytes])⟩

/-- A character of ASCII comes next exactly when its byte does. -/
theorem peek?_eq_some_iff {c : Char} (hc : c.toNat < 0x80) (h : InFront text rest cursor) :
    cursor.peek? = some c ↔ ∃ tail, rest = c :: tail := by
  rw [← List.head?_eq_some_iff]
  cases rest with
  | nil => simp [h.peek?_nil]
  | cons first rest =>
      obtain ⟨d, hPeek, ⟨-, rfl⟩ | ⟨hFirst, hd⟩⟩ := h.exists_peek?
      · rw [hPeek, List.head?_cons]
      · rw [hPeek, List.head?_cons, Option.some_inj, Option.some_inj]
        constructor
        · rintro rfl
          exact absurd hc (Nat.not_lt.mpr hd)
        · rintro rfl
          exact absurd hc (Nat.not_lt.mpr hFirst)

/-- A character of ASCII is one byte. -/
theorem advance {c : Char} (hc : c.toNat < 0x80) (h : InFront text (c :: rest) cursor) :
    InFront text rest cursor.advance := by
  have hOne : (Utf8.bytes [c]).length = 1 := by
    rw [Utf8.bytes_cons, ← List.length_map (f := Char.ofUInt8), List.map_append,
      Utf8.utf8EncodeChar_of_lt hc]
    rfl
  have hTaken : InFront text ([c] ++ rest) cursor := h
  have hMove := hTaken.move
  rwa [hOne] at hMove

/-- The next byte is passed if there is one, and is all of a character where that is of ASCII. -/
theorem advanceIfAny (h : InFront text rest cursor) (hc : ∀ c ∈ rest.head?, c.toNat < 0x80) :
    InFront text (rest.drop 1) cursor.advanceIfAny := by
  cases rest with
  | nil =>
      rw [Cursor.advanceIfAny, h.peek?_nil]
      exact h
  | cons c rest =>
      obtain ⟨d, hPeek, -⟩ := h.exists_peek?
      rw [Cursor.advanceIfAny, hPeek]
      exact h.advance (hc c rfl)

/-- A run of bytes is the bytes of a run of characters. -/
theorem skipWhile {p : Char → Bool} (hp : Utf8.AsciiTest p) (h : InFront text rest cursor) :
    InFront text (rest.dropWhile p) (cursor.skipWhile p) := by
  rw [← List.takeWhile_append_dropWhile (p := p) (l := rest)] at h
  have hMove := h.move
  rw [List.takeWhile_append_dropWhile] at h
  rwa [← hp.takeWhile_bytes, ← h.drop_bytes] at hMove

/-- What lies between two places between characters is read as it stands there. -/
theorem textFrom {taken : List Char} {behind : Cursor} (h : InFront text (taken ++ rest) cursor)
    (hBehind : InFront text rest behind) :
    behind.textFrom cursor.index = String.ofList taken := by
  obtain ⟨before, rfl, hIndex⟩ := h.exists_before
  have hStop : behind.index = cursor.index + (Utf8.bytes taken).length := by
    have hSum := h.index_add.trans hBehind.index_add.symm
    rw [Utf8.length_bytes_append] at hSum
    omega
  rw [Cursor.textFrom, hBehind.bytes_eq, hStop, hIndex, Utf8.bytes_append, Utf8.bytes_append,
    Utf8.between?_append, Option.getD_some, Utf8.lossy_bytes]

/-- The text of a run is read without a replacement. -/
theorem run {p : Char → Bool} (hp : Utf8.AsciiTest p) (h : InFront text rest cursor) :
    InStep text (String.ofList (rest.takeWhile p), rest.dropWhile p) (cursor.run p) where
  answer := by
    have hParts := h
    rw [← List.takeWhile_append_dropWhile (p := p) (l := rest)] at hParts
    exact hParts.textFrom (h.skipWhile hp)
  inFront := h.skipWhile hp

end InFront

theorem lt_of_mem_marks : ∀ c ∈ marks, c.toNat < 0x80 := by simp [marks]

theorem tokenAt_of_not_mem_marks {c : Char} (h : c ∉ marks) (cursor : Cursor) :
    cursor.tokenAt c = cursor.tag := by
  unfold tokenAt
  split <;> first | exact absurd (by decide) h | rfl

/-- No character beyond ASCII is a character of ASCII. -/
theorem ne_of_le {c d : Char} (hc : 0x80 ≤ c.toNat) (hd : d.toNat < 0x80) : c ≠ d := by
  rintro rfl
  exact absurd hd (Nat.not_lt.mpr hc)

theorem isBlank_of_le {c : Char} (h : 0x80 ≤ c.toNat) : Ascii.isBlank c = false := by
  simp only [Ascii.isBlank, Bool.or_eq_false_iff, decide_eq_false_iff_not]
  exact ⟨⟨⟨⟨ne_of_le h (by decide), ne_of_le h (by decide)⟩, ne_of_le h (by decide)⟩,
    ne_of_le h (by decide)⟩, ne_of_le h (by decide)⟩

/-- All characters beyond ASCII may stand in names. -/
theorem isNameChar_of_le {c : Char} (h : 0x80 ≤ c.toNat) : isNameChar c = true := by
  rw [isNameChar, decide_eq_true h, Bool.or_true]

theorem asciiTest_isBlank : Utf8.AsciiTest Ascii.isBlank := fun c d hc hd => by
  rw [isBlank_of_le hc, isBlank_of_le hd]

theorem asciiTest_isNameChar : Utf8.AsciiTest isNameChar := fun c d hc hd => by
  rw [isNameChar_of_le hc, isNameChar_of_le hd]

theorem asciiTest_ne {c : Char} (h : c.toNat < 0x80) : Utf8.AsciiTest (· ≠ c) := fun _ _ hd he =>
  (decide_eq_true (ne_of_le hd h)).trans (decide_eq_true (ne_of_le he h)).symm

theorem asciiTest_isBareChar : Utf8.AsciiTest isBareChar := fun c d hc hd => by
  rw [isBareChar, isBareChar, isBlank_of_le hc, isBlank_of_le hd,
    decide_eq_true (ne_of_le hc (by decide)), decide_eq_true (ne_of_le hd (by decide))]

namespace InFront

theorem skipBlanks (h : InFront text rest cursor) :
    InFront text (Selector.skipBlanks rest) cursor.skipBlanks :=
  h.skipWhile asciiTest_isBlank

/-- Up to a character of ASCII and past it. -/
theorem skipPast {c : Char} (hc : c.toNat < 0x80) (h : InFront text rest cursor) :
    InFront text ((rest.dropWhile (· ≠ c)).drop 1) (cursor.skipWhile (· ≠ c)).advanceIfAny := by
  refine (h.skipWhile (asciiTest_ne hc)).advanceIfAny fun d hd => ?_
  have hNot := List.head?_dropWhile_not (· ≠ c) rest
  rw [hd] at hNot
  have hEq : d = c := by simpa using hNot
  rwa [hEq]

theorem pastBracket (h : InFront text rest cursor) :
    InFront text (Selector.pastBracket rest) cursor.pastBracket :=
  h.skipPast (by decide)

theorem name (h : InFront text rest cursor) : InStep text (Selector.name rest) cursor.name :=
  h.run asciiTest_isNameChar

/-- A quote is a character of ASCII, so it is not found inside another one. -/
theorem quotedValue {quote : Char} (hQuote : quote.toNat < 0x80) (h : InFront text rest cursor) :
    InStep text (Selector.quotedValue quote rest) (cursor.quotedValue quote) where
  answer := (h.run (asciiTest_ne hQuote)).answer
  inFront := h.skipPast hQuote

/-- A value begins with a quote or is a run of bytes up to a blank or a bracket. -/
theorem value (h : InFront text rest cursor) : InStep text (Selector.value rest) cursor.value := by
  unfold Cursor.value
  split
  · next hPeek =>
      obtain ⟨tail, rfl⟩ := (h.peek?_eq_some_iff (by decide)).mp hPeek
      exact (h.advance (by decide)).quotedValue (by decide)
  · next hPeek =>
      obtain ⟨tail, rfl⟩ := (h.peek?_eq_some_iff (by decide)).mp hPeek
      exact (h.advance (by decide)).quotedValue (by decide)
  · next hDouble hSingle =>
      have hBare : Selector.value rest =
          (String.ofList (rest.takeWhile isBareChar), rest.dropWhile isBareChar) := by
        cases rest with
        | nil => rfl
        | cons c tail =>
            refine value_of_not_isQuote ?_ tail
            rintro (rfl | rfl)
            · exact hDouble ((h.peek?_eq_some_iff (by decide)).mpr ⟨tail, rfl⟩)
            · exact hSingle ((h.peek?_eq_some_iff (by decide)).mpr ⟨tail, rfl⟩)
      rw [hBare]
      exact h.run asciiTest_isBareChar

/-- A mark in front of `=`, or in front of something else. -/
theorem signed {comparison : Comparison} {mark : Char} (h : InFront text rest cursor)
    (hPeek : cursor.peek? = some mark) (hMark : mark.toNat < 0x80)
    (hSign : comparison.sign.toList = [mark, '=']) :
    Option.Rel (InStep text) (Selector.comparison? rest) (comparison?.signed cursor comparison) := by
  obtain ⟨rest, rfl⟩ := (h.peek?_eq_some_iff hMark).mp hPeek
  have hBehind := h.advance hMark
  -- The cursor looks two bytes ahead, and both are characters.
  by_cases hEq : ∃ tail, rest = '=' :: tail
  · have hNext := (hBehind.peek?_eq_some_iff (by decide)).mpr hEq
    obtain ⟨tail, rfl⟩ := hEq
    have hRead : Selector.comparison? (mark :: '=' :: tail) = some (comparison, tail) := by
      rw [comparison?_eq_some_iff, hSign]
      rfl
    rw [hRead, comparison?.signed, if_pos hNext]
    exact .some ⟨rfl, hBehind.advance (by decide)⟩
  · have hRead : Selector.comparison? (mark :: rest) = none := by
      rw [Option.eq_none_iff_forall_ne_some]
      rintro ⟨other, tail⟩ hSome
      rw [comparison?_eq_some_iff] at hSome
      cases other with
      | equals =>
          cases hSome
          cases comparison <;> cases hSign
      | _ =>
          cases hSome
          exact hEq ⟨tail, rfl⟩
    rw [hRead, comparison?.signed, if_neg (mt (hBehind.peek?_eq_some_iff (by decide)).mp hEq)]
    exact .none

/-- Comparisons are found alike, since the signs are of ASCII. -/
theorem comparison? (h : InFront text rest cursor) :
    Option.Rel (InStep text) (Selector.comparison? rest) cursor.comparison? := by
  unfold Cursor.comparison?
  split
  · next hEquals =>
      obtain ⟨tail, rfl⟩ := (h.peek?_eq_some_iff (by decide)).mp hEquals
      exact .some ⟨rfl, h.advance (by decide)⟩
  · next hTilde => exact h.signed hTilde (by decide) rfl
  · next hBar => exact h.signed hBar (by decide) rfl
  · next hCaret => exact h.signed hCaret (by decide) rfl
  · next hDollar => exact h.signed hDollar (by decide) rfl
  · next hStar => exact h.signed hStar (by decide) rfl
  · next hEquals hTilde hBar hCaret hDollar hStar =>
      have hRead : Selector.comparison? rest = none := by
        rw [Option.eq_none_iff_forall_ne_some]
        rintro ⟨other, tail⟩ hSome
        rw [comparison?_eq_some_iff] at hSome
        cases other with
        | equals => exact hEquals ((h.peek?_eq_some_iff (by decide)).mpr ⟨_, hSome⟩)
        | hasWord => exact hTilde ((h.peek?_eq_some_iff (by decide)).mpr ⟨_, hSome⟩)
        | dashed => exact hBar ((h.peek?_eq_some_iff (by decide)).mpr ⟨_, hSome⟩)
        | startsWith => exact hCaret ((h.peek?_eq_some_iff (by decide)).mpr ⟨_, hSome⟩)
        | endsWith => exact hDollar ((h.peek?_eq_some_iff (by decide)).mpr ⟨_, hSome⟩)
        | contains => exact hStar ((h.peek?_eq_some_iff (by decide)).mpr ⟨_, hSome⟩)
      rw [hRead]
      exact .none

/-- A condition ends at its bracket, or all is skipped to the next one. -/
theorem close (h : InFront text rest cursor) (simple : Simple) :
    InStep text (Selector.close simple rest) (cursor.close simple) := by
  unfold Selector.close Cursor.close
  split
  · next tail =>
      rw [if_pos ((h.peek?_eq_some_iff (by decide)).mpr ⟨tail, rfl⟩)]
      exact ⟨rfl, h.advance (by decide)⟩
  · next hNot =>
      rw [if_neg fun hPeek => ?_]
      · exact ⟨rfl, h.pastBracket⟩
      · obtain ⟨tail, hTail⟩ := (h.peek?_eq_some_iff (by decide)).mp hPeek
        exact hNot tail hTail

/-- What stands in brackets is read alike, whether it is well formed or not. -/
theorem bracketed (h : InFront text rest cursor) :
    InStep text (Selector.bracketed rest) cursor.bracketed := by
  have hName := h.skipBlanks.name
  have hBehind := hName.inFront.skipBlanks
  unfold Selector.bracketed Cursor.bracketed
  simp only [hName.answer]
  split
  · exact ⟨rfl, hBehind.pastBracket⟩
  · have hComparison := hBehind.comparison?
    generalize Selector.comparison? _ = read at hComparison
    generalize Cursor.comparison? _ = moved at hComparison
    cases hComparison with
    | none => exact hBehind.close _
    | @some read moved hSome =>
        have hValue := hSome.inFront.skipBlanks.value
        simp only [hSome.answer, hValue.answer]
        exact hValue.inFront.skipBlanks.close _

theorem named (h : InFront text rest cursor) (condition : String → Simple) :
    InStep text (Selector.named condition rest) (cursor.named condition) := by
  have hName := h.name
  unfold Selector.named Cursor.named
  simp only [hName.answer]
  exact ⟨rfl, hName.inFront⟩

/-- A tag, or a character that begins no name. It is one byte, or it would begin a name. -/
theorem tag {c : Char} (h : InFront text (c :: rest) cursor) :
    InStep text
      (if isNameChar c then Selector.named (fun name => .tag (Ascii.lower name)) (c :: rest)
        else (.unsupported, rest))
      cursor.tag := by
  have hName := h.name
  unfold Cursor.tag
  simp only [hName.answer]
  by_cases hc : isNameChar c = true
  · have hEmpty : (Selector.name (c :: rest)).1.isEmpty = false := by
      rw [Selector.name, isEmpty_ofList, List.takeWhile_cons_of_pos hc, List.isEmpty_cons]
    simp only [Selector.named, hc, hEmpty, if_true]
    exact ⟨rfl, hName.inFront⟩
  · have hAscii : c.toNat < 0x80 := Nat.not_le.mp (mt isNameChar_of_le hc)
    have hNone : Selector.name (c :: rest) = ("", c :: rest) := by
      rw [Selector.name, List.takeWhile_cons_of_neg hc, List.dropWhile_cons_of_neg hc,
        String.ofList_nil]
    have hBehind := hName.inFront
    rw [hNone] at hBehind
    rw [if_neg hc, hNone]
    exact ⟨rfl, hBehind.advance hAscii⟩

/-- The token is the same, also where a character beyond ASCII is only seen by its first byte. -/
theorem tokenAt {c d : Char} (h : InFront text (c :: rest) cursor) (hPeek : cursor.peek? = some d) :
    InStep text (Selector.tokenAt c rest) (cursor.tokenAt d) := by
  by_cases hMark : d ∈ marks
  · have hAscii := lt_of_mem_marks d hMark
    obtain ⟨tail, hCons⟩ := (h.peek?_eq_some_iff hAscii).mp hPeek
    cases hCons
    have hBehind := h.advance hAscii
    simp only [marks, List.mem_cons, List.not_mem_nil, or_false] at hMark
    rcases hMark with rfl | rfl | rfl | rfl | rfl | rfl | rfl
    · exact ⟨rfl, hBehind⟩
    · exact hBehind.named .cls
    · exact hBehind.named .id
    · exact hBehind.bracketed
    · exact ⟨rfl, hBehind⟩
    · exact ⟨rfl, hBehind⟩
    · exact ⟨rfl, hBehind⟩
  · -- A mark is the byte of itself, so a byte that is none does not come from one.
    have hFirst : c ∉ marks := by
      intro hMem
      have hSame := (h.peek?_eq_some_iff (lt_of_mem_marks c hMem)).mpr ⟨rest, rfl⟩
      rw [hPeek] at hSame
      cases hSame
      exact hMark hMem
    rw [tokenAt_of_not_mem_marks hMark, Selector.tokenAt_of_not_mem_marks hFirst]
    exact h.tag

/-- Nothing is left exactly when no byte is. -/
theorem length_le_index_iff (h : InFront text rest cursor) :
    cursor.bytes.length ≤ cursor.index ↔ rest = [] := by
  rw [h.bytes_eq, ← h.index_add]
  constructor
  · intro hLe
    by_contra hNe
    have hPos := Utf8.length_bytes_pos hNe
    omega
  · rintro rfl
    exact Nat.le_refl _

/-- Without blanks nothing is noted. -/
theorem noteBlanks_of_unblank (h : InFront text rest cursor)
    (hRest : ∀ c ∈ rest.head?, Ascii.isBlank c = false) : cursor.noteBlanks = cursor := by
  have hRun : rest.takeWhile Ascii.isBlank = [] := by
    cases rest with
    | nil => rfl
    | cons c rest => exact List.takeWhile_cons_of_neg (by simp [hRest c rfl])
  have hSkip : cursor.skipBlanks = cursor := by
    rw [Cursor.skipBlanks, Cursor.skipWhile, h.drop_bytes, asciiTest_isBlank.takeWhile_bytes, hRun]
    rfl
  rw [Cursor.noteBlanks, hSkip]
  exact if_neg (Nat.lt_irrefl _)

/-- Blanks are passed and noted. -/
theorem noteBlanks_of_blank {c : Char} (h : InFront text (c :: rest) cursor)
    (hc : Ascii.isBlank c = true) :
    InFront text (Selector.skipBlanks rest) { cursor.noteBlanks with pendingBlank := false } ∧
      cursor.noteBlanks.pendingBlank = true := by
  have hBehind := h.skipBlanks
  have hLess : cursor.index < cursor.skipBlanks.index := by
    rw [Cursor.skipBlanks, Cursor.skipWhile, h.drop_bytes, asciiTest_isBlank.takeWhile_bytes,
      List.takeWhile_cons_of_pos hc]
    exact Nat.lt_add_of_pos_right (Utf8.length_bytes_pos (List.cons_ne_nil _ _))
  rw [Selector.skipBlanks, List.dropWhile_cons_of_pos hc] at hBehind
  rw [Cursor.noteBlanks, if_pos hLess]
  exact ⟨⟨hBehind.bytes_eq, hBehind.suffix, hBehind.index_add, rfl⟩, rfl⟩

/-- The next token of the bytes is the next token of the text. When there is none, all is read. -/
theorem next (h : InFront text rest cursor) :
    InStep text ((next? rest).map (·.1), ((next? rest).map (·.2)).getD []) cursor.next := by
  cases rest with
  | nil =>
      have hNote := h.noteBlanks_of_unblank (by simp)
      unfold Cursor.next
      simp only [hNote, h.pending, h.peek?_nil]
      exact ⟨rfl, h⟩
  | cons c rest =>
      cases hc : Ascii.isBlank c with
      | false =>
          obtain ⟨d, hPeek, -⟩ := h.exists_peek?
          have hNote := h.noteBlanks_of_unblank (by simpa using hc)
          have hToken := h.tokenAt hPeek
          unfold Cursor.next
          simp only [hNote, h.pending, hPeek, next?_of_unblank hc]
          exact ⟨congrArg some hToken.answer, hToken.inFront⟩
      | true =>
          obtain ⟨hBehind, hPending⟩ := h.noteBlanks_of_blank hc
          unfold Cursor.next
          simp only [hPending, if_true]
          cases hRest : Selector.skipBlanks rest with
          | nil =>
              have hRead : next? (c :: rest) = none := by rw [next?, if_pos hc, hRest]
              rw [if_pos (hBehind.length_le_index_iff.mpr hRest), hRead]
              rw [hRest] at hBehind
              exact ⟨rfl, hBehind⟩
          | cons d tail =>
              have hRead : next? (c :: rest) = some (.blank, d :: tail) := by
                rw [next?, if_pos hc, hRest]
              rw [if_neg (by rw [hBehind.length_le_index_iff, hRest]; exact List.cons_ne_nil _ _), hRead]
              rw [hRest] at hBehind
              exact ⟨rfl, hBehind⟩

end InFront

/-- A token is taken off the front of the tokens of a text, as long as there is one. -/
theorem next?_of_tokens (rest : List Char) :
    (next? rest).map (·.1) = (tokens rest).head? ∧
      tokens (((next? rest).map (·.2)).getD []) = (tokens rest).tail := by
  rw [tokens]
  split
  · next hNone =>
      rw [hNone]
      exact ⟨rfl, by simp [tokens, next?]⟩
  · next hSome =>
      rw [hSome]
      exact ⟨rfl, rfl⟩

/-- After some calls the cursor stands where the remaining tokens of the text are read. -/
theorem inFront_after (text : String) (calls : Nat) :
    ∃ rest, InFront text.toList rest ((ofText text).after calls) ∧
      tokens rest = (tokens text.toList).drop calls := by
  induction calls with
  | zero => exact ⟨text.toList, inFront_ofText text, rfl⟩
  | succ calls ih =>
      obtain ⟨rest, hAt, hTokens⟩ := ih
      refine ⟨_, hAt.next.inFront, ?_⟩
      rw [(next?_of_tokens rest).2, hTokens, List.tail_drop]

/-- Each call answers with the next token of the text, until there is none. -/
theorem next_after (text : String) (calls : Nat) :
    ((ofText text).after calls).next.1 = (tokens text.toList)[calls]? := by
  obtain ⟨rest, hAt, hTokens⟩ := inFront_after text calls
  rw [hAt.next.answer, (next?_of_tokens rest).1, hTokens, List.head?_drop]

end Cursor

end ClassScript.Selector
