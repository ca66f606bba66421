import ClassScript.Text.Utf8
import Mathlib.Data.List.TakeWhile

/-!
The bytes of texts. A character of ASCII is one byte, its number, and all bytes of other characters lie
beyond ASCII. So a test that takes all characters beyond ASCII for one can be made byte by byte, and what
it cuts out of the bytes of a text are the bytes of a text again, which are read without a replacement.
-/

namespace ClassScript.Utf8

theorem bytes_cons (c : Char) (s : List Char) :
    bytes (c :: s) = String.utf8EncodeChar c ++ bytes s := List.flatMap_cons

theorem bytes_append (s t : List Char) : bytes (s ++ t) = bytes s ++ bytes t := List.flatMap_append

theorem length_bytes_append (s t : List Char) :
    (bytes (s ++ t)).length = (bytes s).length + (bytes t).length := by
  rw [bytes_append, List.length_append]

theorem length_bytes_toList (text : String) : (bytes text.toList).length = text.utf8ByteSize := by
  rw [String.utf8ByteSize, ← String.ofList_toList (s := text), String.toByteArray_ofList,
    List.utf8Encode, List.size_toByteArray, String.toList_ofList]
  rfl

theorem length_bytes_pos {s : List Char} (h : s ≠ []) : 0 < (bytes s).length := by
  obtain ⟨c, s, rfl⟩ := List.exists_cons_of_ne_nil h
  rw [bytes_cons, List.length_append, String.length_utf8EncodeChar]
  exact Nat.add_pos_left c.utf8Size_pos _

theorem toNat_ofUInt8 (byte : UInt8) : (Char.ofUInt8 byte).toNat = byte.toNat := rfl

/-- A character of ASCII is one byte, its number. -/
theorem utf8EncodeChar_of_lt {c : Char} (h : c.toNat < 0x80) :
    (String.utf8EncodeChar c).map Char.ofUInt8 = [c] := by
  have hEncode : String.utf8EncodeChar c = [UInt8.ofNat c.toNat] := if_pos (Nat.le_of_lt_succ h)
  rw [hEncode, List.map_singleton, List.cons.injEq, ← Char.toNat_inj, toNat_ofUInt8,
    UInt8.toNat_ofNat', Nat.mod_eq_of_lt (Nat.lt_trans h (by decide))]
  exact ⟨rfl, rfl⟩

/-- All bytes of other characters lie beyond ASCII. -/
theorem le_of_mem_utf8EncodeChar {c : Char} (h : 0x80 ≤ c.toNat) {byte : UInt8}
    (hByte : byte ∈ String.utf8EncodeChar c) : 0x80 ≤ (Char.ofUInt8 byte).toNat := by
  rw [toNat_ofUInt8]
  have hFirst : ¬ c.val.toNat ≤ 127 := Nat.not_le.mpr h
  simp only [String.utf8EncodeChar, if_neg hFirst] at hByte
  split at hByte
  · simp only [List.mem_cons, List.not_mem_nil, or_false] at hByte
    rcases hByte with rfl | rfl <;> rw [UInt8.toNat_ofNat'] <;> omega
  · split at hByte
    · simp only [List.mem_cons, List.not_mem_nil, or_false] at hByte
      rcases hByte with rfl | rfl | rfl <;> rw [UInt8.toNat_ofNat'] <;> omega
    · simp only [List.mem_cons, List.not_mem_nil, or_false] at hByte
      rcases hByte with rfl | rfl | rfl | rfl <;> rw [UInt8.toNat_ofNat'] <;> omega

/-- All characters beyond ASCII are the same for a test. -/
def AsciiTest (p : Char → Bool) : Prop :=
  ∀ c d : Char, 0x80 ≤ c.toNat → 0x80 ≤ d.toNat → p c = p d

/-- Such a test says of each byte of a character what it says of the character. -/
theorem AsciiTest.apply_ofUInt8 {p : Char → Bool} (hp : AsciiTest p) {c : Char} {byte : UInt8}
    (hByte : byte ∈ String.utf8EncodeChar c) : p (Char.ofUInt8 byte) = p c := by
  rcases Nat.lt_or_ge c.toNat 0x80 with hc | hc
  · have hMem := List.mem_map_of_mem (f := Char.ofUInt8) hByte
    rw [utf8EncodeChar_of_lt hc, List.mem_singleton] at hMem
    rw [hMem]
  · exact hp _ c (le_of_mem_utf8EncodeChar hc hByte) hc

/-- The bytes up to the first that fails are those of the characters up to the first that fails. -/
theorem AsciiTest.takeWhile_bytes {p : Char → Bool} (hp : AsciiTest p) (s : List Char) :
    ((bytes s).takeWhile fun byte => p (Char.ofUInt8 byte)) = bytes (s.takeWhile p) := by
  induction s with
  | nil => rfl
  | cons c s ih =>
      cases hc : p c with
      | true =>
          rw [List.takeWhile_cons_of_pos hc, bytes_cons, bytes_cons, List.takeWhile_append_of_pos, ih]
          intro byte hByte
          rw [hp.apply_ofUInt8 hByte, hc]
      | false =>
          rw [List.takeWhile_cons_of_neg (by simp [hc]), bytes_cons]
          obtain ⟨byte, more, hBytes⟩ :=
            List.exists_cons_of_ne_nil (String.utf8EncodeChar_ne_nil (c := c))
          have hByte : p (Char.ofUInt8 byte) = p c := hp.apply_ofUInt8 (by simp [hBytes])
          rw [hBytes, List.cons_append, List.takeWhile_cons_of_neg (by simp [hByte, hc])]
          rfl

/-- The bytes of a text are read as this text. -/
theorem lossy_bytes (s : List Char) : lossy (bytes s) = s := by
  induction s with
  | nil => simp [bytes, lossy]
  | cons c s ih =>
      obtain ⟨first, more, hBytes⟩ :=
        List.exists_cons_of_ne_nil (String.utf8EncodeChar_ne_nil (c := c))
      have hSize : more.length = c.utf8Size - 1 := by
        rw [← String.length_utf8EncodeChar, hBytes]
        rfl
      have hFirst : (first :: (more ++ bytes s)).toByteArray.utf8DecodeChar? 0 = some c := by
        rw [← List.cons_append, ← hBytes, List.toByteArray_append]
        exact ByteArray.utf8DecodeChar?_utf8EncodeChar_append
      rw [bytes_cons, hBytes, List.cons_append, lossy]
      split
      · next hSome =>
          rw [hFirst] at hSome
          cases hSome
          rw [← hSize, List.drop_left, ih]
      · next hNone =>
          rw [hFirst] at hNone
          cases hNone

/-- Bytes are cut out where they stand. -/
theorem between?_append (before middle behind : List UInt8) :
    between? (before ++ (middle ++ behind)) before.length (before.length + middle.length) =
      some middle := by
  rw [between?, if_pos (by simp), List.take_length_add_append, List.take_left, List.drop_left]

theorem isSome_part?_iff {text : String} {start stop : Nat} :
    (part? text start stop).isSome ↔
      start ≤ stop ∧ String.Pos.Raw.IsValid text ⟨start⟩ ∧ String.Pos.Raw.IsValid text ⟨stop⟩ := by
  rw [part?]
  split
  · next h => simp only [Option.isSome_some, h, and_self]
  · next h => simp only [Option.isSome_none, h, Bool.false_eq_true]

/-- What is cut out between characters is what stands there. -/
theorem part?_append (before middle behind : String) :
    part? (before ++ (middle ++ behind)) before.utf8ByteSize
        (before.utf8ByteSize + middle.utf8ByteSize) = some middle := by
  have hStart : String.Pos.Raw.IsValid (before ++ (middle ++ behind)) ⟨before.utf8ByteSize⟩ :=
    String.Pos.Raw.isValid_iff_exists_append.mpr ⟨before, middle ++ behind, rfl, rfl⟩
  have hStop : String.Pos.Raw.IsValid (before ++ (middle ++ behind))
      ⟨before.utf8ByteSize + middle.utf8ByteSize⟩ := by
    refine String.Pos.Raw.isValid_iff_exists_append.mpr
      ⟨before ++ middle, behind, String.append_assoc.symm, ?_⟩
    rw [String.rawEndPos, String.utf8ByteSize_append]
  have hCut := ByteArray.extract_append_size_add (a := before.toByteArray)
    (b := middle.toByteArray ++ behind.toByteArray) (i := 0) (j := middle.utf8ByteSize)
  rw [part?, dif_pos ⟨Nat.le_add_right _ _, hStart, hStop⟩, Option.some_inj, ← String.toByteArray_inj,
    String.toByteArray_extract, String.toByteArray_append, String.toByteArray_append]
  exact hCut.trans (ByteArray.extract_append_eq_left rfl)

end ClassScript.Utf8
