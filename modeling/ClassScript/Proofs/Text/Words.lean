import ClassScript.Text.Ascii
import Mathlib.Data.List.Basic
import Mathlib.Data.List.Infix

/-!
Words, which are the runs of characters between blanks. Words with spaces between them are found again,
and what holds no blank stands in a text only where it stands in one of its words.
-/

namespace ClassScript

def Unbroken (text : String) : Prop := ∀ c ∈ text.toList, Ascii.isBlank c = false

structure IsWord (text : String) : Prop where
  ne_empty : text ≠ ""
  unbroken : Unbroken text

namespace Ascii

variable {p : Char → Bool} {part s : List Char}

theorem not_separator_of_mem_splitOnP (h : part ∈ s.splitOnP p) : ∀ c ∈ part, p c = false := by
  induction s generalizing part with
  | nil =>
      rw [List.splitOnP_nil, List.mem_singleton] at h
      subst h
      exact fun c hc => nomatch hc
  | cons first rest ih =>
      rw [List.splitOnP_cons_eq_if_modifyHead] at h
      split at h
      · rcases List.mem_cons.mp h with rfl | h
        · exact fun c hc => nomatch hc
        · exact ih h
      · next hFirst =>
          obtain ⟨head, others, hSplit⟩ :=
            List.exists_cons_of_ne_nil (List.splitOnP_ne_nil p rest)
          rw [hSplit] at ih h
          rcases List.mem_cons.mp h with rfl | h
          · exact List.forall_mem_cons.mpr ⟨by simpa using hFirst, ih List.mem_cons_self⟩
          · exact ih (List.mem_cons_of_mem head h)

/-- The first part of a text that is split begins it, and the other parts stand in it. -/
theorem infix_of_splitOnP (p : Char → Bool) (s : List Char) :
    ∃ first others, s.splitOnP p = first :: others ∧ first <+: s ∧ ∀ part ∈ others, part <:+: s := by
  induction s with
  | nil => exact ⟨[], [], rfl, List.prefix_rfl, fun _ h => nomatch h⟩
  | cons c s ih =>
      obtain ⟨first, others, hSplit, hFirst, hOthers⟩ := ih
      rw [List.splitOnP_cons_eq_if_modifyHead, hSplit]
      split
      · refine ⟨[], first :: others, rfl, List.nil_prefix, List.forall_mem_cons.mpr ⟨?_, ?_⟩⟩
        · exact hFirst.isInfix.trans (List.suffix_cons c s).isInfix
        · exact fun part hPart => (hOthers part hPart).trans (List.suffix_cons c s).isInfix
      · refine ⟨c :: first, others, rfl, List.cons_prefix_cons.mpr ⟨rfl, hFirst⟩, ?_⟩
        exact fun part hPart => (hOthers part hPart).trans (List.suffix_cons c s).isInfix

theorem splitOnP_append (hPart : ∀ c ∈ part, p c = false) (rest : List Char) :
    (part ++ rest).splitOnP p = (rest.splitOnP p).modifyHead (part ++ ·) := by
  induction part with
  | nil =>
      rw [List.nil_append]
      cases rest.splitOnP p <;> rfl
  | cons c part ih =>
      obtain ⟨hFirst, hPart⟩ := List.forall_mem_cons.mp hPart
      have hNot : ¬ p c = true := by simp [hFirst]
      rw [List.cons_append, List.splitOnP_cons_eq_if_modifyHead, if_neg hNot, ih hPart,
        List.modifyHead_modifyHead]
      rfl

/-- What stands in a text and holds no separator stands in one of the parts between separators. -/
theorem exists_infix_of_infix (hNe : part ≠ []) (hPart : ∀ c ∈ part, p c = false)
    (h : part <:+: s) : ∃ piece ∈ s.splitOnP p, part <:+: piece := by
  induction s with
  | nil => exact absurd (List.infix_nil.mp h) hNe
  | cons c s ih =>
      rcases List.infix_cons_iff.mp h with ⟨rest, hPrefix⟩ | hInfix
      · rw [← hPrefix, splitOnP_append hPart]
        obtain ⟨first, others, hSplit⟩ := List.exists_cons_of_ne_nil (List.splitOnP_ne_nil p rest)
        rw [hSplit, List.modifyHead_cons]
        exact ⟨part ++ first, List.mem_cons_self, (List.prefix_append part first).isInfix⟩
      · obtain ⟨piece, hPiece, hIn⟩ := ih hInfix
        rw [List.splitOnP_cons_eq_if_modifyHead]
        split
        · exact ⟨piece, List.mem_cons_of_mem [] hPiece, hIn⟩
        · obtain ⟨first, others, hSplit⟩ := List.exists_cons_of_ne_nil (List.splitOnP_ne_nil p s)
          rw [hSplit] at hPiece ⊢
          rcases List.mem_cons.mp hPiece with rfl | hPiece
          · exact ⟨c :: piece, List.mem_cons_self, hIn.trans (List.suffix_cons c piece).isInfix⟩
          · exact ⟨piece, List.mem_cons_of_mem _ hPiece, hIn⟩

/-- The words are the parts between blanks that are not empty. -/
theorem mem_words_iff {text word : String} :
    word ∈ words text ↔ word ≠ "" ∧ word.toList ∈ text.toList.splitOnP isBlank := by
  simp only [words, List.mem_map, List.mem_filter, decide_eq_true_eq]
  constructor
  · rintro ⟨part, ⟨hPart, hNe⟩, rfl⟩
    refine ⟨fun hEmpty => hNe ?_, by rwa [String.toList_ofList]⟩
    rw [← String.toList_ofList (l := part), hEmpty, String.toList_empty]
  · rintro ⟨hNe, hPart⟩
    exact ⟨word.toList, ⟨hPart, mt String.toList_eq_nil_iff.mp hNe⟩, String.ofList_toList⟩

theorem isWord_of_mem_words {text word : String} (h : word ∈ words text) : IsWord word :=
  ⟨(mem_words_iff.mp h).1, not_separator_of_mem_splitOnP (mem_words_iff.mp h).2⟩

theorem infix_of_mem_words {text word : String} (h : word ∈ words text) :
    word.toList <:+: text.toList := by
  obtain ⟨first, others, hSplit, hFirst, hOthers⟩ := infix_of_splitOnP isBlank text.toList
  have hMem := (mem_words_iff.mp h).2
  rw [hSplit] at hMem
  rcases List.mem_cons.mp hMem with hEq | hMem
  · rw [hEq]
    exact hFirst.isInfix
  · exact hOthers _ hMem

/-- What has no blank in it stands in a text exactly when it stands in one of the words. -/
theorem infix_iff_exists_word {text word : String} (hWord : IsWord word) :
    word.toList <:+: text.toList ↔ ∃ other ∈ words text, word.toList <:+: other.toList := by
  have hNe : word.toList ≠ [] := mt String.toList_eq_nil_iff.mp hWord.ne_empty
  constructor
  · intro h
    obtain ⟨piece, hPiece, hIn⟩ := exists_infix_of_infix hNe hWord.unbroken h
    have hPieceNe : piece ≠ [] := by
      rintro rfl
      exact hNe (List.infix_nil.mp hIn)
    refine ⟨String.ofList piece, mem_words_iff.mpr ⟨fun hEmpty => hPieceNe ?_, ?_⟩, ?_⟩
    · rw [← String.toList_ofList (l := piece), hEmpty, String.toList_empty]
    · rwa [String.toList_ofList]
    · rwa [String.toList_ofList]
  · rintro ⟨other, hOther, hIn⟩
    exact hIn.trans (infix_of_mem_words hOther)

theorem words_cons {word : String} (hWord : IsWord word) (rest : List Char) :
    words (String.ofList (word.toList ++ ' ' :: rest)) = word :: words (String.ofList rest) := by
  have hNe : word.toList ≠ [] := mt String.toList_eq_nil_iff.mp hWord.ne_empty
  rw [words, String.toList_ofList,
    List.splitOnP_append_cons_of_forall_mem hWord.unbroken ' ' (by decide),
    List.filter_cons_of_pos (by simpa using hNe), List.map_cons, String.ofList_toList, words,
    String.toList_ofList]

theorem words_of_isWord {word : String} (hWord : IsWord word) : words word = [word] := by
  have hNe : word.toList ≠ [] := mt String.toList_eq_nil_iff.mp hWord.ne_empty
  rw [words, List.splitOnP_eq_singleton hWord.unbroken, List.filter_cons_of_pos (by simpa using hNe)]
  simp

/-- Words with a space between neighbours are found again. -/
theorem words_intercalate {texts : List String} (h : ∀ text ∈ texts, IsWord text) :
    words (" ".intercalate texts) = texts := by
  induction texts with
  | nil => rfl
  | cons text texts ih =>
      obtain ⟨hText, hTexts⟩ := List.forall_mem_cons.mp h
      cases texts with
      | nil => exact words_of_isWord hText
      | cons next rest =>
          have hJoined : " ".intercalate (text :: next :: rest) =
              String.ofList (text.toList ++ ' ' :: (" ".intercalate (next :: rest)).toList) := by
            rw [String.intercalate_cons_cons, ← String.toList_inj]
            simp
          rw [hJoined, words_cons hText, String.ofList_toList, ih hTexts]

end Ascii

end ClassScript
