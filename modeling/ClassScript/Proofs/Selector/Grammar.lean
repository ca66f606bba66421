import ClassScript.Selector.Read
import Mathlib.Data.List.TakeWhile

/-!
The grammar of selectors, kept apart from the reading of them. Each relation says of a text how it
begins and what is left of it, so that names and values can be the longest ones there are. Tokens are
the shortest pieces that the grammar names.
-/

namespace ClassScript.Selector

def Blanks (s : List Char) : Prop := ∀ c ∈ s, Ascii.isBlank c = true

/-- A run of characters of one kind that cannot be longer, because `rest` begins with another. -/
structure MaximalRun (p : Char → Bool) (run rest : List Char) : Prop where
  all : ∀ c ∈ run, p c = true
  stops : ∀ c, rest.head? = some c → p c = false

/-- A name that is not empty and does not go on in `rest`. -/
def NameBefore (name rest : List Char) : Prop := name ≠ [] ∧ MaximalRun isNameChar name rest

def IsQuote (c : Char) : Prop := c = '\x22' ∨ c = '\x27'

/-- A value is written in quotes that it does not contain, or without quotes as far as no blank and
no closing bracket comes. -/
inductive ValueAt : String → List Char → List Char → Prop where
  | quoted {quote : Char} {text rest : List Char} (hQuote : IsQuote quote) (hText : quote ∉ text) :
      ValueAt (String.ofList text) (quote :: (text ++ quote :: rest)) rest
  | bare {text rest : List Char} (hText : MaximalRun isBareChar text rest)
      (hQuote : ∀ c, text.head? = some c → ¬ IsQuote c) :
      ValueAt (String.ofList text) (text ++ rest) rest

/-- The names of tags and attributes are lower-cased. All other names and values stay as they are. -/
inductive SimpleAt : Simple → List Char → List Char → Prop where
  | universal {rest : List Char} : SimpleAt .universal ('*' :: rest) rest
  | tag {name rest : List Char} (hName : NameBefore name rest) :
      SimpleAt (.tag (Ascii.lower (String.ofList name))) (name ++ rest) rest
  | cls {name rest : List Char} (hName : NameBefore name rest) :
      SimpleAt (.cls (String.ofList name)) ('.' :: (name ++ rest)) rest
  | id {name rest : List Char} (hName : NameBefore name rest) :
      SimpleAt (.id (String.ofList name)) ('#' :: (name ++ rest)) rest
  | attribute {before name after rest : List Char} (hBefore : Blanks before)
      (hName : NameBefore name (after ++ ']' :: rest)) (hAfter : Blanks after) :
      SimpleAt (.attribute (Ascii.lower (String.ofList name)))
        ('[' :: (before ++ (name ++ (after ++ ']' :: rest)))) rest
  | attributeValue {before name between behind after s rest : List Char} {comparison : Comparison}
      {value : String} (hBefore : Blanks before)
      (hName : NameBefore name (between ++ (comparison.sign.toList ++ (behind ++ s))))
      (hBetween : Blanks between) (hBehind : Blanks behind)
      (hValue : ValueAt value s (after ++ ']' :: rest)) (hAfter : Blanks after) :
      SimpleAt (.attributeValue (Ascii.lower (String.ofList name)) comparison value)
        ('[' :: (before ++ (name ++ (between ++ (comparison.sign.toList ++ (behind ++ s)))))) rest

/-- Conditions one directly behind the other, and possibly none. -/
inductive SimplesAt : Compound → List Char → List Char → Prop where
  | nil {rest : List Char} : SimplesAt [] rest rest
  | cons {simple : Simple} {simples : Compound} {s middle rest : List Char}
      (hSimple : SimpleAt simple s middle) (hSimples : SimplesAt simples middle rest) :
      SimplesAt (simple :: simples) s rest

/-- A compound has at least one condition. -/
def CompoundAt (compound : Compound) (s rest : List Char) : Prop :=
  compound ≠ [] ∧ SimplesAt compound s rest

/-- The character of its own with which a combinator is written. -/
def Combinator.mark? : Combinator → Option Char
  | descendant => none
  | child => some '>'
  | adjacentSibling => some '+'
  | generalSibling => some '~'

/-- Blanks alone are a combinator. Around the character of another one they mean nothing. -/
inductive CombinatorAt : Combinator → List Char → List Char → Prop where
  | blanks {blanks rest : List Char} (hBlanks : Blanks blanks) (hNe : blanks ≠ []) :
      CombinatorAt .descendant (blanks ++ rest) rest
  | marked {combinator : Combinator} {mark : Char} {before after rest : List Char}
      (hMark : combinator.mark? = some mark) (hBefore : Blanks before) (hAfter : Blanks after) :
      CombinatorAt combinator (before ++ mark :: (after ++ rest)) rest

/-- The whole rest of a text: compounds, each behind its combinator, and blanks at the end. -/
inductive TailAt : List (Combinator × Compound) → List Char → Prop where
  | nil {blanks : List Char} (hBlanks : Blanks blanks) : TailAt [] blanks
  | cons {combinator : Combinator} {compound : Compound} {tail : List (Combinator × Compound)}
      {s middle rest : List Char} (hCombinator : CombinatorAt combinator s middle)
      (hCompound : CompoundAt compound middle rest) (hTail : TailAt tail rest) :
      TailAt ((combinator, compound) :: tail) s

/-- A whole text and the selector that it is. -/
inductive Written : Selector → List Char → Prop where
  | empty {blanks : List Char} (hBlanks : Blanks blanks) : Written {} blanks
  | compounds {first : Compound} {rest : List (Combinator × Compound)} {blanks s tail : List Char}
      (hBlanks : Blanks blanks) (hFirst : CompoundAt first s tail) (hRest : TailAt rest tail) :
      Written { first, rest } (blanks ++ s)

/-- A run that cannot be made longer is taken as a whole. -/
theorem MaximalRun.span {p : Char → Bool} {run rest : List Char} (h : MaximalRun p run rest) :
    (run ++ rest).takeWhile p = run ∧ (run ++ rest).dropWhile p = rest := by
  obtain ⟨hAll, hStops⟩ := h
  rw [List.takeWhile_append_of_pos hAll, List.dropWhile_append_of_pos hAll]
  cases rest with
  | nil => simp
  | cons c rest =>
      have hc := hStops c rfl
      rw [List.takeWhile_cons_of_neg (by simp [hc]), List.dropWhile_cons_of_neg (by simp [hc])]
      simp

theorem maximalRun_takeWhile (p : Char → Bool) (s : List Char) :
    MaximalRun p (s.takeWhile p) (s.dropWhile p) := by
  refine ⟨fun c hc => List.mem_takeWhile_imp hc, fun c hc => ?_⟩
  have hNot := List.head?_dropWhile_not p s
  rw [hc] at hNot
  exact hNot

/-- All blanks are skipped. -/
theorem skipBlanks_append {blanks rest : List Char} (h : MaximalRun Ascii.isBlank blanks rest) :
    skipBlanks (blanks ++ rest) = rest :=
  h.span.2

/-- Nothing but blanks is skipped. -/
theorem exists_skipBlanks (s : List Char) : ∃ blanks, Blanks blanks ∧ s = blanks ++ skipBlanks s :=
  ⟨s.takeWhile Ascii.isBlank, (maximalRun_takeWhile Ascii.isBlank s).all,
    List.takeWhile_append_dropWhile.symm⟩

/-- A name is read up to where it ends. -/
theorem name_append {written rest : List Char} (h : NameBefore written rest) :
    name (written ++ rest) = (String.ofList written, rest) := by
  rw [name, h.2.span.1, h.2.span.2]

/-- What is read as a name is one, unless nothing is read. -/
theorem exists_name (s : List Char) :
    ∃ written rest, name s = (String.ofList written, rest) ∧ s = written ++ rest ∧
      (written ≠ [] → NameBefore written rest) :=
  ⟨s.takeWhile isNameChar, s.dropWhile isNameChar, rfl, List.takeWhile_append_dropWhile.symm,
    fun hNe => ⟨hNe, maximalRun_takeWhile isNameChar s⟩⟩

theorem isEmpty_ofList (s : List Char) : (String.ofList s).isEmpty = s.isEmpty := by
  cases s <;> simp [String.isEmpty_iff]

theorem isEmpty_lower (s : List Char) : (Ascii.lower (String.ofList s)).isEmpty = s.isEmpty := by
  rw [Ascii.lower, isEmpty_ofList]
  simp

/-- A name is not empty, in lower case either. -/
theorem NameBefore.isEmpty_eq_false {name rest : List Char} (h : NameBefore name rest) :
    (String.ofList name).isEmpty = false ∧ (Ascii.lower (String.ofList name)).isEmpty = false := by
  rw [isEmpty_ofList, isEmpty_lower, List.isEmpty_eq_false_iff]
  exact ⟨h.1, h.1⟩

/-- No blank may stand in a name. -/
theorem isBlank_of_isNameChar {c : Char} (h : isNameChar c = true) : Ascii.isBlank c = false := by
  cases hBlank : Ascii.isBlank c with
  | false => rfl
  | true =>
      simp only [Ascii.isBlank, Bool.or_eq_true, decide_eq_true_eq] at hBlank
      rcases hBlank with (((rfl | rfl) | rfl) | rfl) | rfl <;> exact absurd h (by decide)

/-- Combinators with a mark are not blanks. -/
theorem Combinator.isBlank_of_mark? {combinator : Combinator} {mark : Char}
    (h : combinator.mark? = some mark) : Ascii.isBlank mark = false := by
  cases combinator <;> cases h <;> decide

def StartsUnblank (s : List Char) : Prop := ∃ c rest, s = c :: rest ∧ Ascii.isBlank c = false

/-- Blanks are skipped up to what is not blank. -/
theorem StartsUnblank.skip {blanks rest : List Char} (hBlanks : Blanks blanks)
    (h : StartsUnblank rest) : skipBlanks (blanks ++ rest) = rest := by
  obtain ⟨c, tail, rfl, hc⟩ := h
  refine skipBlanks_append ⟨hBlanks, fun other hOther => ?_⟩
  cases hOther
  exact hc

/-- A name does not begin with a blank. -/
theorem NameBefore.startsUnblank {name rest : List Char} (h : NameBefore name rest) :
    StartsUnblank (name ++ rest) := by
  obtain ⟨c, tail, rfl⟩ := List.exists_cons_of_ne_nil h.1
  exact ⟨c, tail ++ rest, rfl, isBlank_of_isNameChar (h.2.all c List.mem_cons_self)⟩

/-- A sign does not begin with a blank. -/
theorem Comparison.startsUnblank (comparison : Comparison) (rest : List Char) :
    StartsUnblank (comparison.sign.toList ++ rest) := by
  cases comparison <;> exact ⟨_, _, rfl, by decide⟩

theorem startsUnblank_bracket (rest : List Char) : StartsUnblank (']' :: rest) :=
  ⟨']', rest, rfl, by decide⟩

end ClassScript.Selector
