import ClassScript.Proofs.Document.Query
import ClassScript.Proofs.Selector.Trimmed

/-!
Elements asked for by name. A name by itself is read as the selector of a tag, and read in lower case. The
tags of elements are kept as they were given, so only an element whose tag is in lower case is found by its
own name, and then in every spelling of it.
-/

namespace ClassScript

namespace Selector

/-- A name that is a selector by itself. It begins and ends in ASCII, because white space from outside of
ASCII would be trimmed although it can stand in names. -/
structure PlainName (text : String) : Prop where
  isNameChar : ∀ c ∈ text.toList, isNameChar c = true
  first : ∃ c, text.toList.head? = some c ∧ c.toNat < 0x80
  last : ∃ c, text.toList.getLast? = some c ∧ c.toNat < 0x80

theorem plainName_iff {text : String} :
    PlainName text ↔ text.toList.all Selector.isNameChar = true ∧
      text.toList.head?.any (·.toNat < 0x80) = true ∧
        text.toList.getLast?.any (·.toNat < 0x80) = true := by
  simp only [List.all_eq_true, Option.any_eq_true, decide_eq_true_eq]
  exact ⟨fun h => ⟨h.isNameChar, h.first, h.last⟩, fun h => ⟨h.1, h.2.1, h.2.2⟩⟩

instance (text : String) : Decidable (PlainName text) :=
  decidable_of_iff _ plainName_iff.symm

/-- The case of a letter makes no difference to what a name may hold. -/
theorem isNameChar_toLower (c : Char) : isNameChar c.toLower = isNameChar c :=
  Ascii.toLower_induction (P := fun c lower => isNameChar lower = isNameChar c) (by decide +kernel)
    (fun _ _ => rfl) c

theorem isAscii_toLower_iff (c : Char) : c.toLower.toNat < 0x80 ↔ c.toNat < 0x80 :=
  Ascii.toLower_induction (P := fun c lower => lower.toNat < 0x80 ↔ c.toNat < 0x80) (by decide +kernel)
    (fun _ _ => Iff.rfl) c

/-- The case of letters makes no difference to whether a name is plain. -/
theorem plainName_lower_iff {text : String} : PlainName (Ascii.lower text) ↔ PlainName text := by
  have hEnd : ∀ char? : Option Char, (∃ c, char?.map Char.toLower = some c ∧ c.toNat < 0x80) ↔
      ∃ c, char? = some c ∧ c.toNat < 0x80 := by
    intro char?
    cases char? with
    | none => simp
    | some c => simpa using isAscii_toLower_iff c
  have hFirst := hEnd text.toList.head?
  have hLast := hEnd text.toList.getLast?
  rw [← List.head?_map, ← Ascii.toList_lower] at hFirst
  rw [← List.getLast?_map, ← Ascii.toList_lower] at hLast
  have hChars : (∀ c ∈ (Ascii.lower text).toList, isNameChar c = true) ↔
      ∀ c ∈ text.toList, isNameChar c = true := by
    simp only [Ascii.toList_lower, List.forall_mem_map, isNameChar_toLower]
  exact ⟨fun h => ⟨hChars.mp h.isNameChar, hFirst.mp h.first, hLast.mp h.last⟩,
    fun h => ⟨hChars.mpr h.isNameChar, hFirst.mpr h.first, hLast.mpr h.last⟩⟩

namespace PlainName

variable {text : String}

/-- A plain name ends where its text does. -/
theorem nameBefore (h : PlainName text) : NameBefore text.toList [] := by
  obtain ⟨c, hc, -⟩ := h.first
  exact ⟨List.ne_nil_of_mem (List.mem_of_mem_head? hc), h.isNameChar, nofun⟩

theorem isEmpty_lower (h : PlainName text) : (Ascii.lower text).isEmpty = false := by
  have hLower := h.nameBefore.isEmpty_eq_false.2
  rwa [String.ofList_toList] at hLower

/-- A plain name is read as a condition on the tag, in lower case. -/
theorem read?_eq (h : PlainName text) : read? text = some { first := [.tag (Ascii.lower text)] } := by
  have hTag := SimpleAt.tag h.nameBefore
  rw [String.ofList_toList, List.append_nil] at hTag
  have hCompound : CompoundAt [.tag (Ascii.lower text)] text.toList [] :=
    ⟨List.cons_ne_nil _ _, .cons hTag .nil⟩
  have hWritten : Written { first := [.tag (Ascii.lower text)] } ([] ++ text.toList) :=
    .compounds nofun hCompound (.nil nofun)
  exact hWritten.readOn_eq

/-- Nothing in a plain name separates or is trimmed. -/
theorem sole (h : PlainName text) : Sole text { first := [.tag (Ascii.lower text)] } where
  first c hc := by
    obtain ⟨other, hOther, hAscii⟩ := h.first
    cases hc.symm.trans hOther
    exact ⟨hAscii, isBlank_of_isNameChar (h.isNameChar c (List.mem_of_mem_head? hc))⟩
  last c hc := by
    obtain ⟨other, hOther, hAscii⟩ := h.last
    cases hc.symm.trans hOther
    exact ⟨hAscii, isBlank_of_isNameChar (h.isNameChar c (List.mem_of_getLast? hc))⟩
  reads := h.read?_eq
  asks := rfl

/-- The name is lower-cased, as a name of a tag is wherever it stands in a selector. -/
theorem readGroup?_eq (h : PlainName text) :
    readGroup? text = some [{ first := [.tag (Ascii.lower text)] }] := by
  have hComma : ',' ∉ text.toList := fun hMem => absurd (h.isNameChar ',' hMem) (by decide)
  have hEntries : entries text = [text] :=
    entries_eq_singleton_iff.mpr (Search.exists_run_of_no_comma hComma {})
  rw [readGroup?, hEntries, List.mapM_cons, h.sole.readEntry?_eq]
  rfl

end PlainName

end Selector

namespace Document

open Selector

variable {d : Document} {id : NodeId} {tag : String} {attributes : Attributes}

/-- A condition on the tag is met by the tag itself and by no other. -/
theorem selected_tag (hElement : d.value? id = some (.element tag attributes)) {name : String}
    (hName : name.isEmpty = false) : d.selected [{ first := [.tag name] }] id = decide (tag = name) := by
  have hIs : d.isElement id = true := by
    rw [isElement, hElement]
    rfl
  have hTag : d.tag? id = some tag := by rw [tag?, hElement]
  simp [selected, satisfiesAny, satisfies, satisfiesLeftward, meetsAll, meets, hIs, hTag, hName]

/-- By a name by itself, an element is found if its tag is in lower case and is the name but for the case
of its letters. An element whose tag has an upper-case letter of ASCII is found by no name. -/
theorem matchesSelector_plainName (hElement : d.value? id = some (.element tag attributes))
    {text : String} (hText : PlainName text) :
    d.matchesSelector id text =
      .ok (decide (Ascii.lower text = Ascii.lower tag ∧ Ascii.lower tag = tag)) := by
  have hIff : tag = Ascii.lower text ↔ Ascii.lower text = Ascii.lower tag ∧ Ascii.lower tag = tag := by
    constructor
    · rintro rfl
      exact ⟨(Ascii.lower_lower text).symm, Ascii.lower_lower text⟩
    · rintro ⟨hSame, hLower⟩
      rw [hSame, hLower]
  rw [matchesSelector_of_some hText.readGroup?_eq, selected_tag hElement hText.isEmpty_lower,
    decide_eq_decide.mpr hIff]

/-- By its own name, an element is found in every spelling if its tag is in lower case, and in none if not.
By no other name is it found. -/
theorem matchesSelector_ownName (hElement : d.value? id = some (.element tag attributes))
    (hTag : PlainName tag) :
    (∀ text, Ascii.lower text = Ascii.lower tag →
      d.matchesSelector id text = .ok (decide (Ascii.lower tag = tag))) ∧
    ∀ text, PlainName text → Ascii.lower text ≠ Ascii.lower tag →
      d.matchesSelector id text = .ok false := by
  refine ⟨fun text hSame => ?_, fun text hText hOther => ?_⟩
  · have hText : PlainName text := plainName_lower_iff.mp (hSame ▸ plainName_lower_iff.mpr hTag)
    rw [matchesSelector_plainName hElement hText, decide_eq_decide.mpr (and_iff_right hSame)]
  · rw [matchesSelector_plainName hElement hText, decide_eq_false fun h => hOther h.1]

/-- A name with a letter from outside of ASCII, asked for with another case of its first letter. -/
theorem matchesSelector_mixedCase :
    let d := (empty.createElement "x-é1").2
    d.Reachable ∧ d.value? ⟨1⟩ = some (.element "x-é1" {}) ∧ PlainName "x-é1" ∧
      d.matchesSelector ⟨1⟩ "X-é1" = .ok true ∧ d.matchesSelector ⟨1⟩ "x-e1" = .ok false := by
  intro d
  have hElement : d.value? ⟨1⟩ = some (.element "x-é1" {}) := rfl
  have hTag : PlainName "x-é1" := by decide
  obtain ⟨hSame, hNone⟩ := matchesSelector_ownName hElement hTag
  refine ⟨Reachable.empty.change (.createElement _ "x-é1"), hElement, hTag, ?_, ?_⟩
  · rw [hSame "X-é1" (by decide)]
    decide
  · exact hNone "x-e1" (by decide) (by decide)

/-- A tag in upper case is kept as it is given, and then not even found by its own spelling. -/
theorem matchesSelector_upperCase :
    let d := (empty.createElement "DIV").2
    d.Reachable ∧ d.value? ⟨1⟩ = some (.element "DIV" {}) ∧ PlainName "DIV" ∧
      d.matchesSelector ⟨1⟩ "DIV" = .ok false := by
  exact ⟨Reachable.empty.change (.createElement _ "DIV"), rfl, by decide, by decide +kernel⟩

end Document

end ClassScript
