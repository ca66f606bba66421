import ClassScript.Proofs.Document.Change
import ClassScript.Proofs.Document.Classes
import ClassScript.Selector.Match

/-!
Three ways to ask whether a node has a class: of the words of its class attribute, of its list of classes,
and by a selector that compares words. Each splits the text in its own way, and they agree about every
token, those included that no attribute can hold. So they show the same change when classes are added or
removed.
-/

namespace ClassScript

open Selector

namespace ClassList

/-- To be contained is to be one of the tokens. -/
theorem contains_eq_decide (classes : ClassList) (token : String) :
    classes.contains token = decide (token ∈ classes.tokens) := by
  rw [contains, Bool.eq_iff_iff, List.contains_iff_mem, decide_eq_true_eq]

/-- The classes of a text are its words. -/
theorem mem_tokens_parse_iff {text token : String} :
    token ∈ (parse text).tokens ↔ token ∈ Ascii.words text := by
  rw [parse, mem_tokens_addAll_iff]
  exact or_iff_right List.not_mem_nil

end ClassList

/-- A value that is empty or holds a blank is no word of any text, so the comparison need not tell these
values apart. -/
theorem Selector.Comparison.holds_hasWord_iff {actual value : String} :
    hasWord.holds actual value = true ↔ value ∈ Ascii.words actual := by
  have hHolds : hasWord.holds actual value = true ↔ (value.toList ≠ [] ∧
      ∀ c ∈ value.toList, Ascii.isBlank c = false) ∧
        value.toList ∈ actual.toList.splitOnP Ascii.isBlank := by
    simp [holds]
  rw [hHolds, Ascii.mem_words_iff, ne_eq, String.toList_eq_nil_iff, and_assoc]
  refine and_congr_right fun _ => and_iff_right_of_imp ?_
  exact fun hPart => Ascii.not_separator_of_mem_splitOnP hPart

namespace Document

variable {d changed : Document} {id : NodeId} {token : String} {tokens : List String}

/-- All three ways to ask give this answer. -/
structure ShowsClass (d : Document) (id : NodeId) (token : String) (present : Bool) : Prop where
  hasClass_eq : d.hasClass id token = present
  contains_eq : (d.classList id).contains token = present
  meets_eq : d.meets id (.attributeValue "class" .hasWord token) = present

/-- Whether a token is among the classes is seen in every view alike. -/
theorem showsClass_decide (d : Document) (id : NodeId) (token : String) :
    d.ShowsClass id token (decide (token ∈ (d.classList id).tokens)) := by
  have hText : ∀ test : String → Bool,
      (∀ text, test text = true ↔ token ∈ Ascii.words text) →
        (d.attribute? id "class").any test = decide (token ∈ (d.classList id).tokens) := by
    intro test hTest
    rw [classList]
    cases d.attribute? id "class" with
    | none => rfl
    | some text =>
        rw [Option.any_some, Bool.eq_iff_iff, hTest, decide_eq_true_eq, ClassList.mem_tokens_parse_iff]
  refine ⟨hText _ fun text => List.contains_iff_mem, ClassList.contains_eq_decide _ _, ?_⟩
  exact hText _ fun text => Comparison.holds_hasWord_iff

/-- What is shown depends on the list of classes alone. -/
theorem showsClass_iff {present : Bool} :
    d.ShowsClass id token present ↔ (token ∈ (d.classList id).tokens ↔ present = true) := by
  have hShows := d.showsClass_decide id token
  constructor
  · intro h
    rw [← h.contains_eq, hShows.contains_eq, decide_eq_true_eq]
  · intro h
    have hPresent : decide (token ∈ (d.classList id).tokens) = present := by
      rw [Bool.eq_iff_iff, decide_eq_true_eq, h]
    rwa [← hPresent]

/-- Adding classes to an element adds them to its list and to no other. -/
theorem classList_of_addClasses (h : d.addClasses id tokens = .ok changed) (other : NodeId) :
    changed.classList other =
      if other = id then (d.classList id).addAll tokens else d.classList other := by
  obtain ⟨hTokens, hChange⟩ := addClasses_cases h
  have hSound := (d.attributes id).sound_classes.addAll (isWord_of_forM_checkToken hTokens)
  rw [classList_eq, attributes_of_changeAttributes hChange]
  split
  · exact Attributes.classes_withClasses hSound
  · rfl

/-- Removing classes from an element removes them from its list and from no other. -/
theorem classList_of_removeClasses (h : d.removeClasses id tokens = .ok changed) (other : NodeId) :
    changed.classList other =
      if other = id then (d.classList id).removeAll tokens else d.classList other := by
  obtain ⟨-, hChange⟩ := removeClasses_cases h
  rw [classList_eq, attributes_of_changeAttributes hChange]
  split
  · exact Attributes.classes_withClasses ((d.attributes id).sound_classes.removeAll tokens)
  · rfl

/-- Every token but those given is shown as before, and on every other node all of them are. -/
def ShowsElsewhere (d : Document) (id : NodeId) (tokens : List String) (changed : Document) : Prop :=
  ∀ other token present, other ≠ id ∨ token ∉ tokens →
    d.ShowsClass other token present → changed.ShowsClass other token present

/-- Where the lists of classes differ about the given tokens of one node only, no more is shown otherwise. -/
theorem showsElsewhere_of_classList
    (hOwn : ∀ token, token ∉ tokens →
      (token ∈ (changed.classList id).tokens ↔ token ∈ (d.classList id).tokens))
    (hOthers : ∀ other, other ≠ id → changed.classList other = d.classList other) :
    d.ShowsElsewhere id tokens changed := by
  intro other token present hApart hShows
  rw [showsClass_iff] at hShows ⊢
  by_cases hOther : other = id
  · subst hOther
    rw [hOwn token (hApart.resolve_left (not_not_intro rfl)), hShows]
  · rw [hOthers other hOther, hShows]

/-- The three ways to ask agree about a node before and after its classes are changed. -/
structure AgreesOnClasses (d : Document) (id : NodeId) : Prop where
  exists_showsClass : ∀ token, ∃ present, d.ShowsClass id token present
  added : ∀ tokens changed, d.addClasses id tokens = .ok changed →
    (∀ token ∈ tokens, changed.ShowsClass id token true) ∧ d.ShowsElsewhere id tokens changed
  removed : ∀ tokens changed, d.removeClasses id tokens = .ok changed →
    (∀ token ∈ tokens, changed.ShowsClass id token false) ∧ d.ShowsElsewhere id tokens changed

/-- In every document, and for every node. -/
theorem agreesOnClasses (d : Document) (id : NodeId) : d.AgreesOnClasses id where
  exists_showsClass token := ⟨_, d.showsClass_decide id token⟩
  added tokens changed h := by
    have hOwn := (classList_of_addClasses h id).trans (if_pos rfl)
    refine ⟨fun token hToken => ?_, showsElsewhere_of_classList (fun token hToken => ?_) ?_⟩
    · rw [showsClass_iff, hOwn, ClassList.mem_tokens_addAll_iff]
      exact iff_of_true (.inr hToken) rfl
    · rw [hOwn, ClassList.mem_tokens_addAll_iff, or_iff_left hToken]
    · exact fun other hOther => (classList_of_addClasses h other).trans (if_neg hOther)
  removed tokens changed h := by
    have hOwn := (classList_of_removeClasses h id).trans (if_pos rfl)
    refine ⟨fun token hToken => ?_, showsElsewhere_of_classList (fun token hToken => ?_) ?_⟩
    · rw [showsClass_iff, hOwn, ClassList.mem_tokens_removeAll_iff]
      exact iff_of_false (fun hBoth => hBoth.2 hToken) Bool.false_ne_true
    · rw [hOwn, ClassList.mem_tokens_removeAll_iff, and_iff_left hToken]
    · exact fun other hOther => (classList_of_removeClasses h other).trans (if_neg hOther)

end Document

end ClassScript
