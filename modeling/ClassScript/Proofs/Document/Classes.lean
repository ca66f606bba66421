import ClassScript.Document.Basic
import ClassScript.Proofs.Text.Words
import Mathlib.Data.List.Nodup

/-!
The classes of an element and the text that they are kept in. Distinct words are found again in the text
that they are written as, so a change of the classes does to the attribute what it does to the list.
-/

namespace ClassScript

namespace ClassList

theorem addAll_cons (classes : ClassList) (first : String) (rest : List String) :
    classes.addAll (first :: rest) = (classes.add first).2.addAll rest := rfl

theorem removeAll_cons (classes : ClassList) (first : String) (rest : List String) :
    classes.removeAll (first :: rest) = (classes.remove first).2.removeAll rest := rfl

/-- A token that was added is there, with those that were there before. -/
theorem mem_tokens_add_iff {classes : ClassList} {added token : String} :
    token ∈ (classes.add added).2.tokens ↔ token ∈ classes.tokens ∨ token = added := by
  have h := contains_add classes added token
  rwa [contains, contains, Bool.eq_iff_iff, Bool.or_eq_true, List.contains_iff_mem,
    List.contains_iff_mem, decide_eq_true_eq] at h

/-- All tokens that were added are there, with those that were there before. -/
theorem mem_tokens_addAll_iff {classes : ClassList} {tokens : List String} {token : String} :
    token ∈ (classes.addAll tokens).tokens ↔ token ∈ classes.tokens ∨ token ∈ tokens := by
  induction tokens generalizing classes with
  | nil => simp [addAll]
  | cons first rest ih =>
      rw [addAll_cons, ih, mem_tokens_add_iff, List.mem_cons, or_assoc]

/-- Tokens can be removed at once, since their order makes no difference. -/
theorem removeAll_eq (classes : ClassList) (tokens : List String) :
    classes.removeAll tokens = { tokens := classes.tokens.filter (· ∉ tokens) } := by
  induction tokens generalizing classes with
  | nil => simp [removeAll]
  | cons first rest ih =>
      rw [removeAll_cons, ih, remove, List.filter_filter]
      simp [Bool.and_comm]

/-- The tokens that stay are those that were not removed. -/
theorem mem_tokens_removeAll_iff {classes : ClassList} {tokens : List String} {token : String} :
    token ∈ (classes.removeAll tokens).tokens ↔ token ∈ classes.tokens ∧ token ∉ tokens := by
  rw [removeAll_eq, List.mem_filter, decide_eq_true_eq]

/-- Tokens that are left out of account can be added. -/
theorem filter_tokens_addAll {p : String → Bool} {tokens : List String}
    (h : ∀ token ∈ tokens, p token = false) (classes : ClassList) :
    (classes.addAll tokens).tokens.filter p = classes.tokens.filter p := by
  induction tokens generalizing classes with
  | nil => rfl
  | cons first rest ih =>
      obtain ⟨hFirst, hRest⟩ := List.forall_mem_cons.mp h
      rw [addAll_cons, ih hRest, add]
      split
      · rfl
      · rw [List.filter_append, List.filter_singleton, hFirst]
        exact List.append_nil _

/-- Tokens that are left out of account can be removed. -/
theorem filter_tokens_removeAll {p : String → Bool} {tokens : List String}
    (h : ∀ token ∈ tokens, p token = false) (classes : ClassList) :
    (classes.removeAll tokens).tokens.filter p = classes.tokens.filter p := by
  rw [removeAll_eq, List.filter_filter]
  refine List.filter_congr fun token _ => ?_
  cases hp : p token with
  | false => rfl
  | true =>
      have hNot : token ∉ tokens := fun hMem => by simp [h token hMem] at hp
      simpa using hNot

/-- Distinct words, as they are read from a text. -/
structure Sound (classes : ClassList) : Prop where
  isWord : ∀ token ∈ classes.tokens, IsWord token
  nodup : classes.tokens.Nodup

theorem sound_empty : Sound {} := ⟨fun _ h => (nomatch h), List.nodup_nil⟩

namespace Sound

variable {classes : ClassList} {tokens : List String}

/-- A word that is put last only where it is new stands once. -/
theorem add (h : classes.Sound) {token : String} (hToken : IsWord token) :
    (classes.add token).2.Sound := by
  constructor
  · intro other hOther
    rcases mem_tokens_add_iff.mp hOther with hOther | rfl
    · exact h.isWord other hOther
    · exact hToken
  · rw [ClassList.add]
    split
    · exact h.nodup
    · next hNew =>
        rw [contains, List.contains_iff_mem] at hNew
        exact h.nodup.append (List.nodup_singleton token) (by simpa using hNew)

/-- Words can be added in any number. -/
theorem addAll (h : classes.Sound) (hTokens : ∀ token ∈ tokens, IsWord token) :
    (classes.addAll tokens).Sound := by
  induction tokens generalizing classes with
  | nil => exact h
  | cons first rest ih =>
      obtain ⟨hFirst, hRest⟩ := List.forall_mem_cons.mp hTokens
      exact ih (h.add hFirst) hRest

/-- What is left of distinct words are distinct words. -/
theorem removeAll (h : classes.Sound) (tokens : List String) : (classes.removeAll tokens).Sound := by
  rw [removeAll_eq]
  exact ⟨fun token hToken => h.isWord token (List.mem_of_mem_filter hToken), h.nodup.filter _⟩

end Sound

/-- What is read from a text are distinct words. -/
theorem sound_parse (text : String) : (parse text).Sound :=
  sound_empty.addAll fun _ => Ascii.isWord_of_mem_words

/-- Tokens that are new and distinct are put behind the others. -/
theorem addAll_of_nodup {classes : ClassList} {tokens : List String}
    (h : (classes.tokens ++ tokens).Nodup) :
    classes.addAll tokens = { tokens := classes.tokens ++ tokens } := by
  induction tokens generalizing classes with
  | nil => simp [addAll]
  | cons first rest ih =>
      have hNew : first ∉ classes.tokens := by
        rw [List.nodup_append] at h
        exact fun hMem => h.2.2 first hMem first List.mem_cons_self rfl
      have hAdd : (classes.add first).2 = { tokens := classes.tokens ++ [first] } := by
        rw [add, if_neg (by simpa [contains] using hNew)]
      rw [← List.singleton_append, ← List.append_assoc] at h
      rw [addAll_cons, hAdd, ih h, List.append_assoc, List.singleton_append]

/-- Distinct words are found again in their text. -/
theorem parse_text {classes : ClassList} (h : classes.Sound) : parse classes.text = classes := by
  rw [parse, text, Ascii.words_intercalate h.isWord]
  exact addAll_of_nodup h.nodup

end ClassList

/-- The classes that the text of a class attribute gives; without the attribute there are none. -/
def ClassList.ofText? : Option String → ClassList
  | some text => .parse text
  | none => {}

namespace Attributes

def classes (attributes : Attributes) : ClassList := .ofText? (attributes.get? "class")

theorem sound_classes (attributes : Attributes) : attributes.classes.Sound := by
  rw [classes]
  cases attributes.get? "class" with
  | some text => exact ClassList.sound_parse text
  | none => exact ClassList.sound_empty

/-- An attribute that was erased is gone, and others are as they were. -/
theorem get?_erase (attributes : Attributes) (name other : String) :
    (attributes.erase name).get? other = if other = name then none else attributes.get? other := by
  rw [erase, get?, get?]
  induction attributes.entries with
  | nil => simp
  | cons entry rest ih =>
      obtain ⟨first, value⟩ := entry
      by_cases hFirst : first = name
      · subst hFirst
        rw [List.filter_cons_of_neg (by simp), ih, lookup_cons_eq]
        split <;> rfl
      · rw [List.filter_cons_of_pos (by simpa using hFirst), lookup_cons_eq, lookup_cons_eq, ih]
        by_cases hOther : other = first
        · subst hOther
          simp [hFirst]
        · simp [hOther]

/-- A name is one of the names exactly where it has a value. -/
theorem mem_names_iff {attributes : Attributes} {name : String} :
    name ∈ attributes.names ↔ (attributes.get? name).isSome = true := by
  rw [names, get?]
  induction attributes.entries with
  | nil => simp
  | cons entry rest ih =>
      obtain ⟨first, value⟩ := entry
      rw [List.map_cons, List.mem_cons, ih, lookup_cons_eq]
      by_cases hName : name = first <;> simp [hName]

/-- The classes are read from the class attribute alone. -/
theorem classes_set (attributes : Attributes) (name value : String) :
    (attributes.set name value).classes =
      if name = "class" then .parse value else attributes.classes := by
  rw [classes, get?_set]
  by_cases h : "class" = name
  · rw [if_pos h, if_pos h.symm, ClassList.ofText?]
  · rw [if_neg h, if_neg (Ne.symm h), classes]

/-- Without a class attribute there are no classes. -/
theorem classes_erase (attributes : Attributes) (name : String) :
    (attributes.erase name).classes = if name = "class" then {} else attributes.classes := by
  rw [classes, get?_erase]
  by_cases h : "class" = name
  · rw [if_pos h, if_pos h.symm, ClassList.ofText?]
  · rw [if_neg h, if_neg (Ne.symm h), classes]

/-- A change of classes is one of the class text, which is written anew or was not there and is not. -/
theorem withClasses_cases (change : ClassList → ClassList) (attributes : Attributes) :
    (attributes.get? "class" = none ∧ (change {}).tokens = [] ∧
      Document.withClasses change attributes = attributes) ∨
    Document.withClasses change attributes =
      attributes.set "class" (change attributes.classes).text := by
  rw [Document.withClasses, classes]
  cases hText : attributes.get? "class" with
  | some text => exact .inr rfl
  | none =>
      cases hEmpty : (change {}).isEmpty with
      | true => exact .inl ⟨rfl, List.isEmpty_iff.mp hEmpty, by simp [hEmpty]⟩
      | false => exact .inr (by simp [hEmpty, ClassList.ofText?])

/-- A change of the classes that keeps them sound is what becomes of the classes. -/
theorem classes_withClasses {change : ClassList → ClassList} {attributes : Attributes}
    (h : (change attributes.classes).Sound) :
    (Document.withClasses change attributes).classes = change attributes.classes := by
  rcases attributes.withClasses_cases change with ⟨hNone, hEmpty, hSame⟩ | hSet
  · have hClasses : attributes.classes = {} := by rw [classes, hNone, ClassList.ofText?]
    rw [hSame, hClasses]
    exact congrArg ClassList.mk hEmpty.symm
  · rw [hSet, classes_set, if_pos rfl, ClassList.parse_text h]

end Attributes

namespace Document

theorem classList_eq (d : Document) (id : NodeId) : d.classList id = (d.attributes id).classes := rfl

/-- No class has a blank in it. -/
theorem unbroken_of_mem_classList {d : Document} {id : NodeId} {token : String}
    (h : token ∈ (d.classList id).tokens) : Unbroken token := by
  rw [classList_eq] at h
  exact ((d.attributes id).sound_classes.isWord token h).unbroken

/-- The tokens that pass the check are the words. -/
theorem checkToken_eq_ok_iff {token : String} : checkToken token = .ok () ↔ IsWord token := by
  rw [checkToken]
  split
  · next hEmpty => exact ⟨nofun, fun h => absurd (String.isEmpty_iff.mp hEmpty) h.ne_empty⟩
  · next hNe =>
      split
      · next hBlank =>
          obtain ⟨c, hc, hIs⟩ := List.any_eq_true.mp hBlank
          refine ⟨nofun, fun h => ?_⟩
          rw [h.unbroken c hc] at hIs
          cases hIs
      · next hUnbroken =>
          refine ⟨fun _ => ⟨mt String.isEmpty_iff.mpr hNe, fun c hc => ?_⟩, fun _ => rfl⟩
          rw [Bool.not_eq_true, List.any_eq_false] at hUnbroken
          simpa using hUnbroken c hc

/-- If all tokens pass the check, all of them are words. -/
theorem isWord_of_forM_checkToken {tokens : List String} (h : tokens.forM checkToken = .ok ()) :
    ∀ token ∈ tokens, IsWord token := by
  induction tokens with
  | nil => exact fun _ h => nomatch h
  | cons token rest ih =>
      have hCons : checkToken token >>= (fun _ => rest.forM checkToken) = .ok () := h
      cases hToken : checkToken token with
      | error error =>
          rw [hToken] at hCons
          cases hCons
      | ok value =>
          rw [hToken] at hCons
          exact List.forall_mem_cons.mpr ⟨checkToken_eq_ok_iff.mp hToken, ih hCons⟩

end Document

end ClassScript
