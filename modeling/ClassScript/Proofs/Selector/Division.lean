import ClassScript.Proofs.Selector.Commas
import ClassScript.Proofs.Selector.Places

/-!
Groups divided byte by byte. Quotes, brackets and commas are characters of ASCII, so the bytes of other
characters change nothing, and every entry begins and ends between characters. The entries are those
that are found in the characters of the text, and with commas between them they are the text.
-/

namespace ClassScript.Selector

/-- Nothing but the commas between the pieces is lost. -/
theorem Search.intercalate_pieces (search : Search) (s : List Char) :
    [','].intercalate (search.pieces s) = s := by
  induction s generalizing search with
  | nil => rfl
  | cons c s ih =>
      rw [pieces_cons]
      split
      · next hStep =>
          obtain ⟨-, rfl⟩ := step?_eq_none_iff.mp hStep
          obtain ⟨first, others, hPieces⟩ := List.exists_cons_of_ne_nil (pieces_ne_nil {} s)
          have hRest := ih {}
          rw [hPieces] at hRest ⊢
          rw [List.intercalate_cons_cons, hRest]
          rfl
      · next next _ =>
          obtain ⟨first, others, hPieces⟩ := List.exists_cons_of_ne_nil (pieces_ne_nil next s)
          have hRest := ih next
          rw [hPieces] at hRest ⊢
          rw [← hRest, List.modifyHead_cons]
          cases others <;> simp [List.intercalate_cons_cons]

/-- The entries with commas between them are the text. -/
theorem intercalate_entries (text : String) : ",".intercalate (entries text) = text := by
  rw [← String.toList_inj, String.toList_intercalate, entries, List.map_map]
  have hPieces := Search.intercalate_pieces {} text.toList
  simpa [Search.pieces, Function.comp_def] using hPieces

/-- Where pieces begin and end in the bytes of a text, if a comma follows each but the last. -/
def rangesFrom (start : Nat) : List (List Char) → List (Nat × Nat)
  | [] => []
  | piece :: pieces =>
    (start, start + (Utf8.bytes piece).length) ::
      rangesFrom (start + (Utf8.bytes piece).length + 1) pieces

/-- What is cut out there are the pieces. -/
theorem map_part?_rangesFrom (before : String) (pieces : List (List Char)) :
    (rangesFrom before.utf8ByteSize pieces).map (fun range =>
        Utf8.part? (before ++ String.ofList ([','].intercalate pieces)) range.1 range.2) =
      pieces.map fun piece => some (String.ofList piece) := by
  induction pieces generalizing before with
  | nil => rfl
  | cons piece pieces ih =>
      have hSize : (Utf8.bytes piece).length = (String.ofList piece).utf8ByteSize := by
        rw [← Utf8.length_bytes_toList, String.toList_ofList]
      rw [rangesFrom, List.map_cons, List.map_cons, hSize]
      cases pieces with
      | nil =>
          have hPart := Utf8.part?_append before (String.ofList piece) ""
          rw [String.append_empty] at hPart
          rw [List.intercalate_singleton, hPart]
          rfl
      | cons next others =>
          have hPart := Utf8.part?_append before (String.ofList piece)
            ("," ++ String.ofList ([','].intercalate (next :: others)))
          have hRest := ih (before ++ (String.ofList piece ++ ","))
          have hText : before ++ String.ofList ([','].intercalate (piece :: next :: others)) =
              before ++ (String.ofList piece ++
                ("," ++ String.ofList ([','].intercalate (next :: others)))) := by
            rw [List.intercalate_cons_cons, String.ofList_append, String.ofList_append,
              String.append_assoc]
          rw [String.append_assoc, String.append_assoc, ← hText, String.utf8ByteSize_append,
            String.utf8ByteSize_append, ← Nat.add_assoc] at hRest
          rw [← hText] at hPart
          rw [hPart]
          exact congrArg (some (String.ofList piece) :: ·) hRest

namespace Division

variable {division : Division} {bytes more : List UInt8}

theorem read_append (index : Nat) :
    division.read index (bytes ++ more) =
      (division.read index bytes).read (index + bytes.length) more := by
  rw [read, List.zipIdx_append, List.foldl_append]
  rfl

theorem read_cons (index : Nat) (byte : UInt8) (bytes : List UInt8) :
    division.read index (byte :: bytes) =
      (division.step index (Char.ofUInt8 byte)).read (index + 1) bytes := rfl

/-- Bytes that change nothing can be passed over. -/
theorem read_of_unchanged (index : Nat)
    (h : ∀ byte ∈ bytes, ∀ index, division.step index (Char.ofUInt8 byte) = division) :
    division.read index bytes = division := by
  induction bytes generalizing index with
  | nil => rfl
  | cons byte bytes ih =>
      obtain ⟨hByte, hBytes⟩ := List.forall_mem_cons.mp h
      rw [read_cons, hByte, ih _ hBytes]

theorem modifyHead_nil_append (pieces : List (List Char)) :
    pieces.modifyHead ([] ++ ·) = pieces := congrFun List.modifyHead_id pieces

/-- What is open, without what has been divided. -/
def search (division : Division) : Search := { quote? := division.quote?, depth := division.depth }

/-- Only characters of ASCII open quotes. -/
def OpensAscii (division : Division) : Prop := ∀ quote ∈ division.quote?, quote.toNat < 0x80

/-- What the search for commas makes of a character at a place. -/
def follow (division : Division) (index : Nat) : Option Search → Division
  | none => { ranges := division.upTo index, start := index + 1 }
  | some next => { division with quote? := next.quote?, depth := next.depth }

/-- A byte is taken as the search takes a character. -/
theorem step_eq (index : Nat) (c : Char) :
    division.step index c = division.follow index (division.search.step? c) := by
  obtain ⟨ranges, start, quote?, depth⟩ := division
  cases quote? with
  | some quote => by_cases hc : c = quote <;> simp [step, follow, search, Search.step?, hc]
  | none => grind [step, follow, search, Search.step?]

/-- Characters beyond ASCII change nothing. -/
theorem step?_of_le (h : division.OpensAscii) {c : Char} (hc : 0x80 ≤ c.toNat) :
    division.search.step? c = some division.search := by
  obtain ⟨ranges, start, quote?, depth⟩ := division
  cases quote? with
  | some quote =>
      have hNot : c ≠ quote := Cursor.ne_of_le hc (h quote rfl)
      simp [search, Search.step?, hNot]
  | none =>
      have hDouble : c ≠ '\x22' := Cursor.ne_of_le hc (by decide)
      have hSingle : c ≠ '\x27' := Cursor.ne_of_le hc (by decide)
      have hOpening : c ≠ '[' := Cursor.ne_of_le hc (by decide)
      have hClosing : c ≠ ']' := Cursor.ne_of_le hc (by decide)
      have hComma : c ≠ ',' := Cursor.ne_of_le hc (by decide)
      simp [search, Search.step?, hDouble, hSingle, hOpening, hClosing, hComma]

/-- Only quotes are opened, and they are of ASCII. -/
theorem OpensAscii.follow (h : division.OpensAscii) (index : Nat) (c : Char) :
    (division.follow index (division.search.step? c)).OpensAscii := by
  rcases Nat.lt_or_ge c.toNat 0x80 with hc | hc
  · rw [← step_eq]
    obtain ⟨ranges, start, quote?, depth⟩ := division
    cases quote? <;> grind [step, OpensAscii]
  · rw [step?_of_le h hc]
    exact h

/-- The bytes of a character do together what the character does. -/
theorem read_utf8EncodeChar (h : division.OpensAscii) (index : Nat) (c : Char) :
    division.read index (String.utf8EncodeChar c) =
      division.follow index (division.search.step? c) := by
  rcases Nat.lt_or_ge c.toNat 0x80 with hc | hc
  · obtain ⟨byte, hByte, hBytes⟩ := List.map_eq_singleton_iff.mp (Utf8.utf8EncodeChar_of_lt hc)
    rw [hByte, read_cons, hBytes, step_eq]
    rfl
  · -- The search ignores the character, and each byte of it for the same reason.
    rw [step?_of_le h hc]
    refine read_of_unchanged index fun byte hByte place => ?_
    rw [step_eq, step?_of_le h (Utf8.le_of_mem_utf8EncodeChar hc hByte)]
    rfl

/-- The bytes are divided where the characters are. What stands already in front of them belongs to the
entry that is being read. -/
theorem upTo_read (h : division.OpensAscii) (begun s : List Char) :
    (division.read (division.start + (Utf8.bytes begun).length) (Utf8.bytes s)).upTo
        (division.start + (Utf8.bytes begun).length + (Utf8.bytes s).length) =
      division.ranges ++
        rangesFrom division.start ((division.search.pieces s).modifyHead (begun ++ ·)) := by
  -- Along the characters: each is read as a whole, however many bytes it has.
  induction s generalizing division begun with
  | nil => simp [Utf8.bytes, read, upTo, rangesFrom, Search.pieces, splitAtCommas]
  | cons c s ih =>
      have hLength : (Utf8.bytes (c :: s)).length =
          (String.utf8EncodeChar c).length + (Utf8.bytes s).length := by
        rw [Utf8.bytes_cons, List.length_append]
      have hOpens := h.follow (division.start + (Utf8.bytes begun).length) c
      rw [hLength, Utf8.bytes_cons, read_append, read_utf8EncodeChar h, Search.pieces_cons,
        ← Nat.add_assoc]
      cases hStep : division.search.step? c with
      | none =>
          obtain ⟨-, rfl⟩ := Search.step?_eq_none_iff.mp hStep
          rw [hStep] at hOpens
          -- The comma ends an entry, and nothing of the next one has been read.
          have hRest := ih hOpens []
          rw [modifyHead_nil_append] at hRest
          rw [List.modifyHead_cons, List.append_nil, rangesFrom, List.append_cons]
          exact hRest
      | some next =>
          rw [hStep] at hOpens
          have hRest := ih hOpens (begun ++ [c])
          rw [Utf8.length_bytes_append] at hRest
          have hBytes : (Utf8.bytes [c]).length = (String.utf8EncodeChar c).length := by
            rw [Utf8.bytes_cons]
            simp [Utf8.bytes]
          rw [hBytes, ← Nat.add_assoc] at hRest
          rw [List.modifyHead_modifyHead]
          simpa [follow, search, Function.comp_def] using hRest

end Division

/-- The ranges of the entries are those of the pieces. -/
theorem entryRanges_eq (text : String) :
    entryRanges text = rangesFrom 0 (splitAtCommas none 0 text.toList) := by
  have hRead := @Division.upTo_read {} nofun [] text.toList
  rw [Division.modifyHead_nil_append] at hRead
  simpa [entryRanges, Utf8.bytes, Division.search, Search.pieces] using hRead

/-- What stands in the ranges are the entries, none of which is missing. -/
theorem map_part?_entryRanges (text : String) :
    (entryRanges text).map (fun range => Utf8.part? text range.1 range.2) =
      (entries text).map some := by
  have hParts := map_part?_rangesFrom "" (splitAtCommas none 0 text.toList)
  have hText : [','].intercalate (splitAtCommas none 0 text.toList) = text.toList :=
    Search.intercalate_pieces {} text.toList
  rw [hText, String.ofList_toList, String.empty_append] at hParts
  rw [entryRanges_eq, entries, List.map_map]
  exact hParts

/-- The entries that are cut out of the bytes are those of the characters. -/
theorem cutEntries_eq (text : String) : cutEntries text = entries text := by
  have hParts := congrArg (List.map fun part? : Option String => part?.getD "")
    (map_part?_entryRanges text)
  simpa [cutEntries, Function.comp_def] using hParts

/-- The bytes of a text are read on and on until their end, and the cursor stands between characters all
the time. The tokens are those that are found in the characters. A group is cut between characters as
well, and nothing of it is lost. -/
structure ReadByBytes (text : String) : Prop where
  advances : ∀ calls, Cursor.Advances text ((Cursor.ofText text).after calls)
  next_eq : ∀ calls, ((Cursor.ofText text).after calls).next.1 = (tokens text.toList)[calls]?
  isValid_range : ∀ range ∈ entryRanges text, range.1 ≤ range.2 ∧
    String.Pos.Raw.IsValid text ⟨range.1⟩ ∧ String.Pos.Raw.IsValid text ⟨range.2⟩
  cutEntries_eq : cutEntries text = entries text
  intercalate_cutEntries : ",".intercalate (cutEntries text) = text

/-- Reading by bytes never breaks a character, whatever the text. -/
theorem readByBytes (text : String) : ReadByBytes text where
  advances calls := by
    obtain ⟨rest, hAt, -⟩ := Cursor.inFront_after text calls
    exact hAt.advances
  next_eq := Cursor.next_after text
  isValid_range range hRange := by
    have hPart : Utf8.part? text range.1 range.2 ∈ (entries text).map some :=
      map_part?_entryRanges text ▸ List.mem_map_of_mem hRange
    obtain ⟨entry, -, hEntry⟩ := List.mem_map.mp hPart
    exact Utf8.isSome_part?_iff.mp (Option.isSome_of_eq_some hEntry.symm)
  cutEntries_eq := cutEntries_eq text
  intercalate_cutEntries := by rw [cutEntries_eq, intercalate_entries]

example : cutEntries "[a='é,'],ü" = ["[a='é,']", "ü"] := by decide +kernel

end ClassScript.Selector
