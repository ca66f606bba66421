import ClassScript.Proofs.Document.Classes
import ClassScript.Update

/-!
Three ways to come by the updates of a node: from the node, from the list of its classes, and from a text of
class names. The text is split at every single space and nowhere else, and the list holds the words between
blanks of any kind, each of them once. Pieces without characters name no update, so the ways differ only
for a text in which other blanks stand or a word stands twice.
-/

namespace ClassScript

/-- The only blanks in the text are spaces. -/
def OnlySpaced (text : String) : Prop := ∀ c ∈ text.toList, Ascii.isBlank c = true → c = ' '

namespace Ascii

variable {p q : Char → Bool} {s : List Char}

/-- Splitting asks for the characters of the text only. -/
theorem splitOnP_congr (h : ∀ c ∈ s, p c = q c) : s.splitOnP p = s.splitOnP q := by
  induction s with
  | nil => rfl
  | cons c s ih =>
      obtain ⟨hFirst, hRest⟩ := List.forall_mem_cons.mp h
      rw [List.splitOnP_cons_eq_if_modifyHead, List.splitOnP_cons_eq_if_modifyHead, hFirst, ih hRest]

/-- Without other blanks the words are the pieces between spaces, as far as these have characters. -/
theorem words_of_onlySpaced {text : String} (h : OnlySpaced text) :
    words text = ((text.toList.splitOnP (· = ' ')).filter (· ≠ [])).map String.ofList := by
  rw [words, splitOnP_congr]
  intro c hc
  by_cases hSpace : c = ' '
  · rw [hSpace]
    decide
  · rw [decide_eq_false hSpace, ← Bool.not_eq_true]
    exact fun hBlank => hSpace (h c hc hBlank)

end Ascii

namespace ClassList

/-- Words that are distinct are all of them classes, in their order. -/
theorem tokens_parse_of_nodup {text : String} (h : (Ascii.words text).Nodup) :
    (parse text).tokens = Ascii.words text := by
  rw [parse, addAll_of_nodup (by simpa using h), List.nil_append]

end ClassList

namespace Update

/-- A piece without characters names no update. -/
theorem ofClasses_filter (pieces : List (List Char)) :
    ofClasses ((pieces.filter (· ≠ [])).map String.ofList) = ofClasses (pieces.map String.ofList) := by
  rw [ofClasses, ofClasses, List.filterMap_map, List.filterMap_map, List.filterMap_filter]
  refine List.filterMap_congr fun piece _ => ?_
  by_cases hEmpty : piece = []
  · rw [hEmpty]
    rfl
  · rw [if_pos (by simpa using hEmpty)]

theorem ofText_of_onlySpaced {text : String} (h : OnlySpaced text) :
    ofText text = ofClasses (Ascii.words text) := by
  rw [Ascii.words_of_onlySpaced h, ofClasses_filter, ofText]

/-- Splitting at spaces undoes the joining of words by spaces. -/
theorem ofText_text {classes : ClassList} (h : classes.Sound) :
    ofText classes.text = ofClasses classes.tokens := by
  by_cases hEmpty : classes.tokens = []
  · rw [ofText, ClassList.text, hEmpty]
    rfl
  · have hNoSpace : ∀ part ∈ classes.tokens.map String.toList, ' ' ∉ part := by
      intro part hPart hSpace
      obtain ⟨token, hToken, rfl⟩ := List.mem_map.mp hPart
      exact absurd ((h.isWord token hToken).unbroken ' ' hSpace) (by decide)
    have hSplit : classes.text.toList.splitOnP (· = ' ') = classes.tokens.map String.toList := by
      rw [ClassList.text, String.toList_intercalate]
      exact List.splitOn_intercalate ' ' hNoSpace (by simpa using hEmpty)
    rw [ofText, hSplit, List.map_map]
    simp [Function.comp_def]

/-- All ways to come by the updates of a node agree. A text of its classes may be written anew, with one
space between neighbours, or be the text of the attribute itself, if no other blanks stand in it and no
word stands twice. -/
structure ReadAlike (d : Document) (id : NodeId) : Prop where
  ofClasses_eq : ofClasses (d.classList id).tokens = ofElement d id
  ofText_text_eq : ofText (d.classList id).text = ofElement d id
  ofText_eq : ∀ text, d.attribute? id "class" = some text → OnlySpaced text →
    (Ascii.words text).Nodup → ofText text = ofElement d id

/-- In every document, and for every node. -/
theorem readAlike (d : Document) (id : NodeId) : ReadAlike d id where
  ofClasses_eq := rfl
  ofText_text_eq := ofText_text (d.attributes id).sound_classes
  ofText_eq text hText hSpaces hWords := by
    rw [ofText_of_onlySpaced hSpaces, ofElement, Document.classList, hText,
      ClassList.tokens_parse_of_nodup hWords]

/-- A tab separates classes, but not the pieces of a text. -/
example : ofText "a\tjs-with-js--remove" = [] ∧
    ofClasses (ClassList.parse "a\tjs-with-js--remove").tokens = [{ operation := "remove" }] := by
  decide +kernel

end Update

end ClassScript
