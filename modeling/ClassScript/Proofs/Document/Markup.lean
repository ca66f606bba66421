import ClassScript.Document.Markup
import ClassScript.Proofs.Arena.OrderedForest
import ClassScript.Proofs.Document.Attributes
import ClassScript.Proofs.Text.Delimited

/-!
Markup tells the trees that it was written for. Nothing that stands in a text, a value or a comment is
taken for markup, so where a tree is of a kind that markup can show, only the ids of its nodes are lost.
-/

namespace ClassScript

inductive NodeKind where
  | document
  | element
  | text
  | comment
deriving Repr, DecidableEq

def NodeData.kind : NodeData → NodeKind
  | .document => .document
  | .element .. => .element
  | .text _ => .text
  | .comment _ => .comment

namespace Document

open Delimited

def firstKind? : Forest (NodeId × NodeData) → Option NodeKind
  | .nil => none
  | .cons (_, data) _ _ => some data.kind

def isTagChar (c : Char) : Bool := c.isAlphanum || c = '-'

def IsTagName (tag : String) : Prop := tag ≠ "" ∧ tag.toList.all isTagChar = true

/-- Nothing, or one text that nothing in it ends. -/
def IsRawContent : Forest (NodeId × NodeData) → Prop
  | .nil => True
  | .cons (_, .text text) .nil .nil => text ≠ "" ∧ ¬ "</".toList <:+: text.toList
  | _ => False

/-- What a node has to be, and to have below it, so that it can be shown. -/
def Shows (children : Forest (NodeId × NodeData)) : NodeData → Prop
  | .document => False
  | .text text => text ≠ "" ∧ children = .nil
  | .comment text => ¬ "-->".toList <:+: text.toList ∧ children = .nil
  | .element tag _ =>
    IsTagName tag ∧ (isVoid tag = true → children = .nil) ∧ (isRawText tag = true → IsRawContent children)

/-- Trees of nodes that can be shown, with no text directly behind another. -/
def Printable : Forest (NodeId × NodeData) → Prop
  | .nil => True
  | .cons (_, data) children rest =>
    Shows children data ∧ (data.kind = .text → firstKind? rest ≠ some .text) ∧ Printable children ∧
      Printable rest

instance (tag : String) : Decidable (IsTagName tag) := inferInstanceAs (Decidable (_ ∧ _))

instance : DecidablePred IsRawContent
  | .nil => isTrue trivial
  | .cons (_, .text text) .nil .nil =>
    inferInstanceAs (Decidable (text ≠ "" ∧ ¬ "</".toList <:+: text.toList))
  | .cons (_, .document) _ _ | .cons (_, .element ..) _ _ | .cons (_, .comment _) _ _
  | .cons (_, .text _) (.cons ..) _ | .cons (_, .text _) .nil (.cons ..) => isFalse id

instance (children : Forest (NodeId × NodeData)) : DecidablePred (Shows children)
  | .document => isFalse id
  | .text text => inferInstanceAs (Decidable (text ≠ "" ∧ children = .nil))
  | .comment text => inferInstanceAs (Decidable (¬ "-->".toList <:+: text.toList ∧ children = .nil))
  | .element tag _ =>
    inferInstanceAs (Decidable (IsTagName tag ∧ (isVoid tag = true → children = .nil) ∧
      (isRawText tag = true → IsRawContent children)))

instance decidablePrintable : DecidablePred Printable
  | .nil => isTrue trivial
  | .cons (_, data) children rest =>
    have := decidablePrintable children
    have := decidablePrintable rest
    inferInstanceAs (Decidable (Shows children data ∧
      (data.kind = .text → firstKind? rest ≠ some .text) ∧ Printable children ∧ Printable rest))

variable {F G : Forest (NodeId × NodeData)} {s t r u : List Char}

/-- Names begin with `&`, which is itself given a name, and differ in the next character. -/
theorem escape_inj {inAttribute : Bool} (h : escape inAttribute s = escape inAttribute t) : s = t := by
  refine flatMap_inj (fun c => ?_) (fun c d r u hWritten => ?_) h
  · cases inAttribute <;> split <;> simp
  · cases inAttribute <;> split at hWritten <;> split at hWritten <;> simp at hWritten <;> grind

/-- What ends a text or a value does not stand in it. -/
theorem ne_of_mem_escape {inAttribute : Bool} {c : Char} (h : c ∈ escape inAttribute s) :
    c ≠ if inAttribute then '\x22' else '<' := by
  obtain ⟨d, -, hc⟩ := List.mem_flatMap.mp h
  cases inAttribute <;> split at hc <;> simp at hc ⊢ <;> grind

/-- A text that is not empty leaves something in the markup. -/
theorem escape_ne_nil {text : String} (h : text ≠ "") : escape false text.toList ≠ [] := fun hNil =>
  h (String.toList_eq_nil_iff.mp (escape_inj (t := []) hNil))

/-- A name ends at its equals sign and a value at the quote behind it. -/
theorem attributeMarkup_append_inj {entry other : String × String} (hEntry : Attributes.IsKept entry.1)
    (hOther : Attributes.IsKept other.1) (h : attributeMarkup entry ++ r = attributeMarkup other ++ u) :
    entry = other ∧ r = u := by
  have hName : ∀ {name : String}, Attributes.IsKept name → ∀ c ∈ name.toList, c ≠ '=' := by
    rintro name hKept c hc rfl
    exact absurd (hKept.allowed _ hc) (by decide)
  rw [attributeMarkup, attributeMarkup] at h
  simp only [List.cons_append, List.append_assoc, List.cons.injEq, true_and, List.nil_append] at h
  obtain ⟨hNames, hRest⟩ := append_inj_of_stop (hName hEntry) (hName hOther) (by simp) (by simp) h
  simp only [List.cons.injEq, true_and] at hRest
  obtain ⟨hValues, hRest⟩ := append_inj_of_stop (fun _ => ne_of_mem_escape)
    (fun _ => ne_of_mem_escape) (by simp) (by simp) hRest
  refine ⟨Prod.ext (String.toList_inj.mp hNames) ?_, (List.cons.inj hRest).2⟩
  exact String.toList_inj.mp (escape_inj hValues)

/-- Each attribute begins with a blank, and the tag ends with a bracket. -/
theorem attributes_append_inj {entries others : List (String × String)}
    (hEntries : ∀ entry ∈ entries, Attributes.IsKept entry.1)
    (hOthers : ∀ entry ∈ others, Attributes.IsKept entry.1)
    (h : entries.flatMap attributeMarkup ++ '>' :: r = others.flatMap attributeMarkup ++ '>' :: u) :
    entries = others ∧ r = u := by
  induction entries generalizing others with
  | nil =>
      cases others with
      | nil => exact ⟨rfl, (List.cons.inj h).2⟩
      | cons other others => simp [attributeMarkup] at h
  | cons entry entries ih =>
      obtain ⟨hEntry, hEntries⟩ := List.forall_mem_cons.mp hEntries
      cases others with
      | nil => simp [attributeMarkup] at h
      | cons other others =>
          rw [List.forall_mem_cons] at hOthers
          rw [List.flatMap_cons, List.flatMap_cons, List.append_assoc, List.append_assoc] at h
          obtain ⟨rfl, hRest⟩ := attributeMarkup_append_inj hEntry hOthers.1 h
          obtain ⟨rfl, hEnd⟩ := ih hEntries hOthers.2 hRest
          exact ⟨rfl, hEnd⟩

/-- The name of a tag ends at the first blank or bracket. -/
theorem startTag_append_inj {tag other : String} {attributes others : Attributes}
    (hTag : IsTagName tag) (hOther : IsTagName other) (hAttributes : attributes.Ordered)
    (hOthers : others.Ordered) (h : startTag tag attributes ++ r = startTag other others ++ u) :
    tag = other ∧ attributes = others ∧ r = u := by
  have hKept : ∀ {attributes : Attributes}, attributes.Ordered →
      ∀ entry ∈ attributes.entries, Attributes.IsKept entry.1 :=
    fun hOrdered entry hEntry => hOrdered.isKept _ (List.mem_map_of_mem hEntry)
  have hStop : ∀ (entries : List (String × String)) (r : List Char),
      ∀ c ∈ (entries.flatMap attributeMarkup ++ '>' :: r).head?, ¬ isTagChar c = true := by
    intro entries r c hc
    cases entries with
    | nil =>
        cases hc
        decide
    | cons entry entries =>
        cases hc
        decide
  rw [startTag, startTag] at h
  simp only [List.cons_append, List.append_assoc, List.cons.injEq, true_and, List.nil_append] at h
  obtain ⟨hTags, hRest⟩ := append_inj_of_stop (List.all_eq_true.mp hTag.2)
    (List.all_eq_true.mp hOther.2) (hStop _ _) (hStop _ _) h
  obtain ⟨hEntries, hRest⟩ := attributes_append_inj (hKept hAttributes) (hKept hOthers) hRest
  exact ⟨String.toList_inj.mp hTags, congrArg Attributes.mk hEntries, hRest⟩

/-- The kind of node that markup begins with, if it begins with any. -/
def leadingKind? : List Char → Option NodeKind
  | [] => none
  | '<' :: '/' :: _ => none
  | '<' :: '!' :: _ => some .comment
  | '<' :: _ => some .element
  | _ => some .text

/-- Nothing but tags and comments begins with a bracket. -/
theorem leadingKind?_of_ne {c : Char} (h : c ≠ '<') (s : List Char) :
    leadingKind? (c :: s) = some .text := by
  unfold leadingKind?
  split <;> simp_all

theorem head?_of_leadingKind? (h : leadingKind? s ≠ some .text) : ∀ c ∈ s.head?, ¬ c ≠ '<' := by
  intro c hc hNe
  obtain ⟨rest, rfl⟩ := List.head?_eq_some_iff.mp hc
  exact h (leadingKind?_of_ne hNe rest)

/-- A start tag is not taken for an end tag or a comment, since a name follows its bracket. -/
theorem leadingKind?_startTag {tag : String} (hTag : IsTagName tag) (attributes : Attributes) :
    leadingKind? (startTag tag attributes ++ r) = some .element := by
  obtain ⟨c, name, hName⟩ := List.exists_cons_of_ne_nil (mt String.toList_eq_nil_iff.mp hTag.1)
  have hFirst : isTagChar c = true := List.all_eq_true.mp hTag.2 c (by simp [hName])
  have hSlash : c ≠ '/' := by
    rintro rfl
    exact absurd hFirst (by decide)
  have hMark : c ≠ '!' := by
    rintro rfl
    exact absurd hFirst (by decide)
  rw [startTag, hName]
  unfold leadingKind?
  split <;> simp_all

/-- The kind of the first tree is told by the first two characters. -/
theorem leadingKind?_markup (hF : Printable F) (hr : leadingKind? r = none) :
    leadingKind? (markup false F ++ r) = firstKind? F := by
  cases F with
  | nil => exact hr
  | cons label children rest =>
      obtain ⟨id, data⟩ := label
      obtain ⟨hShows, -⟩ := hF
      cases data with
      | document => cases hShows
      | element tag attributes =>
          simp only [markup, List.append_assoc]
          exact leadingKind?_startTag hShows.1 attributes
      | text text =>
          obtain ⟨c, tail, hText⟩ := List.exists_cons_of_ne_nil (escape_ne_nil hShows.1)
          have hFirst : c ≠ '<' := @ne_of_mem_escape text.toList false c (by simp [hText])
          simp only [markup, Bool.false_eq_true, if_false, hText, List.cons_append]
          exact leadingKind?_of_ne hFirst _
      | comment text => rfl

/-- A text ends where something begins that is not a text. -/
theorem text_append_inj {text other : String}
    (hr : leadingKind? r ≠ some .text) (hu : leadingKind? u ≠ some .text)
    (h : escape false text.toList ++ r = escape false other.toList ++ u) : text = other ∧ r = u := by
  obtain ⟨hTexts, hRest⟩ := append_inj_of_stop (fun _ => ne_of_mem_escape)
    (fun _ => ne_of_mem_escape) (head?_of_leadingKind? hr) (head?_of_leadingKind? hu) h
  exact ⟨String.toList_inj.mp (escape_inj hTexts), hRest⟩

/-- A comment ends at the first mark that ends one. -/
theorem comment_append_inj {text other : String} (hText : ¬ "-->".toList <:+: text.toList)
    (hOther : ¬ "-->".toList <:+: other.toList)
    (h : text.toList ++ ("-->".toList ++ r) = other.toList ++ ("-->".toList ++ u)) :
    text = other ∧ r = u := by
  have hMark : '>' ∉ ['-', '-'] := by decide
  obtain ⟨hTexts, hRest⟩ := append_inj_of_mark hMark hText hOther h
  exact ⟨String.toList_inj.mp hTexts, hRest⟩

theorem IsRawContent.cases (h : IsRawContent F) :
    F = .nil ∨ ∃ id text, F = .cons (id, .text text) .nil .nil ∧ text ≠ "" ∧
      ¬ "</".toList <:+: text.toList := by
  unfold IsRawContent at h
  split at h
  · exact .inl rfl
  · exact .inr ⟨_, _, rfl, h⟩
  · cases h

/-- A text that is written as it is ends at the first end tag. -/
theorem rawContent_append_inj (hF : IsRawContent F) (hG : IsRawContent G) {tag : String}
    (h : markup true F ++ (endTag tag ++ r) = markup true G ++ (endTag tag ++ u)) :
    F.map (·.2) = G.map (·.2) ∧ r = u := by
  have hMark : '/' ∉ ['<'] := by decide
  have hNotIn : ∀ {F}, IsRawContent F → ¬ "</".toList <:+: markup true F := by
    intro F hF
    rcases hF.cases with rfl | ⟨id, text, rfl, -, hText⟩
    · decide
    · simpa [markup] using hText
  have hEnd : ∀ r, endTag tag ++ r = "</".toList ++ (tag.toList ++ '>' :: r) := by
    intro r
    simp [endTag]
  rw [hEnd, hEnd] at h
  obtain ⟨hContent, hRest⟩ := append_inj_of_mark hMark (hNotIn hF) (hNotIn hG) h
  refine ⟨?_, by simpa using hRest⟩
  rcases hF.cases with rfl | ⟨id, text, rfl, hText, -⟩ <;>
    rcases hG.cases with rfl | ⟨other, content, rfl, hOther, -⟩
  · rfl
  · exact absurd (by simpa [markup] using hContent.symm) hOther
  · exact absurd (by simpa [markup] using hContent) hText
  · obtain rfl : text = content := String.toList_inj.mp (by simpa [markup] using hContent)
    rfl

/-- Trees are told from others by their markup, wherever what follows ends what holds them. -/
def ToldFrom (F G : Forest (NodeId × NodeData)) : Prop :=
  ∀ r u, leadingKind? r = none → leadingKind? u = none →
    markup false F ++ r = markup false G ++ u → F.map (·.2) = G.map (·.2) ∧ r = u

/-- What an element holds is nothing, a text that is written as it is, or trees in front of its end tag. -/
theorem content_append_inj {tag : String} (hVoid : isVoid tag = true → F = .nil ∧ G = .nil)
    (hRaw : isRawText tag = true → IsRawContent F ∧ IsRawContent G) (hTold : ToldFrom F G)
    (h : (if isVoid tag then [] else markup (isRawText tag) F ++ endTag tag) ++ r =
      (if isVoid tag then [] else markup (isRawText tag) G ++ endTag tag) ++ u) :
    F.map (·.2) = G.map (·.2) ∧ r = u := by
  by_cases hNoEnd : isVoid tag = true
  · obtain ⟨rfl, rfl⟩ := hVoid hNoEnd
    rw [if_pos hNoEnd] at h
    exact ⟨rfl, h⟩
  · rw [if_neg hNoEnd, if_neg hNoEnd, List.append_assoc, List.append_assoc] at h
    cases hTexts : isRawText tag with
    | true =>
        rw [hTexts] at h
        exact rawContent_append_inj (hRaw hTexts).1 (hRaw hTexts).2 h
    | false =>
        rw [hTexts] at h
        obtain ⟨hContent, hRest⟩ := hTold _ _ rfl rfl h
        exact ⟨hContent, List.append_cancel_left hRest⟩

/-- Trees are written one after the other. -/
theorem markup_cons (raw : Bool) (label : NodeId × NodeData) (children rest : Forest (NodeId × NodeData)) :
    markup raw (.cons label children rest) = markup raw (.cons label children .nil) ++ markup raw rest := by
  simp only [markup, List.append_nil]

/-- A tree ends where its markup does. Only a text could go on in what follows, so no other text does. -/
theorem tree_append_inj {id otherId : NodeId} {data other : NodeData} (hKind : data.kind = other.kind)
    (hData : Shows F data) (hOther : Shows G other) (hNames : data.attributes.Ordered)
    (hOtherNames : other.attributes.Ordered) (hTold : ToldFrom F G)
    (hText : data.kind = .text → leadingKind? r ≠ some .text ∧ leadingKind? u ≠ some .text)
    (h : markup false (.cons (id, data) F .nil) ++ r = markup false (.cons (otherId, other) G .nil) ++ u) :
    data = other ∧ F.map (·.2) = G.map (·.2) ∧ r = u := by
  cases data with
  | document => cases hData
  | element tag attributes =>
      cases other with
      | document | text | comment => cases hKind
      | element otherTag others =>
          simp only [markup, List.append_nil, List.append_assoc] at h
          obtain ⟨rfl, rfl, hContent⟩ := startTag_append_inj hData.1 hOther.1 hNames hOtherNames h
          have hVoid := fun hTag => And.intro (hData.2.1 hTag) (hOther.2.1 hTag)
          have hRaw := fun hTag => And.intro (hData.2.2 hTag) (hOther.2.2 hTag)
          exact ⟨rfl, content_append_inj hVoid hRaw hTold hContent⟩
  | text text =>
      cases other with
      | document | element | comment => cases hKind
      | text content =>
          simp only [markup, List.append_nil, Bool.false_eq_true, if_false] at h
          obtain ⟨rfl, hRest⟩ := text_append_inj (hText rfl).1 (hText rfl).2 h
          rw [hData.2, hOther.2]
          exact ⟨rfl, rfl, hRest⟩
  | comment text =>
      cases other with
      | document | element | text => cases hKind
      | comment content =>
          simp only [markup, List.append_nil, List.append_assoc] at h
          obtain ⟨rfl, hRest⟩ := comment_append_inj hData.1 hOther.1 (List.append_cancel_left h)
          rw [hData.2, hOther.2]
          exact ⟨rfl, rfl, hRest⟩

/-- Markup tells the trees that can be shown, but for the ids of their nodes. -/
theorem Printable.toldFrom (hF : Printable F) (hG : Printable G)
    (hNames : ∀ label ∈ F.labels, label.2.attributes.Ordered)
    (hOtherNames : ∀ label ∈ G.labels, label.2.attributes.Ordered) : ToldFrom F G := by
  intro r u hr hu h
  induction F generalizing G r u with
  | nil =>
      have hKind : none = firstKind? G := by
        rw [← leadingKind?_markup hG hu, ← h]
        exact hr.symm
      cases G with
      | nil => exact ⟨rfl, h⟩
      | cons => cases hKind
  | cons label children rest ihChildren ihRest =>
      have hKind : firstKind? (.cons label children rest) = firstKind? G := by
        rw [← leadingKind?_markup hF hr, h, leadingKind?_markup hG hu]
      cases G with
      | nil => cases hKind
      | cons other otherChildren otherRest =>
          obtain ⟨id, data⟩ := label
          obtain ⟨otherId, other⟩ := other
          obtain ⟨hShows, hApart, hChildren, hRest⟩ := hF
          obtain ⟨hOtherShows, hOtherApart, hOtherChildren, hOtherRest⟩ := hG
          simp only [Forest.labels, List.forall_mem_cons, List.forall_mem_append] at hNames hOtherNames
          have hSame : data.kind = other.kind := Option.some.inj hKind
          have hTold : ToldFrom children otherChildren :=
            ihChildren hChildren hOtherChildren hNames.2.1 hOtherNames.2.1
          have hText : data.kind = .text → leadingKind? (markup false rest ++ r) ≠ some .text ∧
              leadingKind? (markup false otherRest ++ u) ≠ some .text := by
            intro hText
            rw [leadingKind?_markup hRest hr, leadingKind?_markup hOtherRest hu]
            exact ⟨hApart hText, hOtherApart (hSame ▸ hText)⟩
          rw [markup_cons, markup_cons _ (otherId, other), List.append_assoc, List.append_assoc] at h
          obtain ⟨rfl, hBelow, hBehind⟩ :=
            tree_append_inj hSame hShows hOtherShows hNames.1 hOtherNames.1 hTold hText h
          obtain ⟨hBeside, hEnd⟩ := ihRest hRest hOtherRest hNames.2.2 hOtherNames.2.2 r u hr hu hBehind
          exact ⟨by rw [Forest.map, Forest.map, hBelow, hBeside], hEnd⟩

/-- Ids are not written. -/
theorem markup_congr (h : F.map (·.2) = G.map (·.2)) (raw : Bool) : markup raw F = markup raw G := by
  induction F generalizing G raw with
  | nil =>
      cases G with
      | nil => rfl
      | cons => cases h
  | cons label children rest ihChildren ihRest =>
      cases G with
      | nil => cases h
      | cons other otherChildren otherRest =>
          obtain ⟨id, data⟩ := label
          obtain ⟨otherId, other⟩ := other
          obtain ⟨rfl, hBelow, hBeside⟩ := Forest.cons.inj h
          simp only [markup, ihChildren hBelow, ihRest hBeside]

variable {d other : Document}

/-- The document node itself is not written. -/
theorem Reachable.toHtml_root (h : d.Reachable) :
    d.toHtml root = String.ofList (markup false (d.below root)) := by
  rw [toHtml, h.wellFormed.forest_cons_of_value? h.value?_root]
  exact congrArg String.ofList (List.append_nil _)

theorem Reachable.ordered_of_mem_labels (h : d.Reachable) (id : NodeId) :
    ∀ label ∈ (d.below id).labels, label.2.attributes.Ordered := by
  intro label hLabel
  have hOrdered := h.ordered_attributes label.1
  rwa [Document.attributes, Arena.value?_of_mem_labels_unfold hLabel] at hOrdered

/-- Documents of trees that markup can show are written in the same way exactly when they have the same
trees, with the same attributes in the same order. -/
theorem toHtml_root_eq_iff (hReachable : d.Reachable) (hOther : other.Reachable)
    (hTrees : Printable (d.below root)) (hOtherTrees : Printable (other.below root)) :
    d.toHtml root = other.toHtml root ↔ (d.below root).map (·.2) = (other.below root).map (·.2) := by
  rw [hReachable.toHtml_root, hOther.toHtml_root, String.ofList_inj]
  refine ⟨fun h => ?_, fun h => markup_congr h false⟩
  have hTold := hTrees.toldFrom hOtherTrees (hReachable.ordered_of_mem_labels root)
    (hOther.ordered_of_mem_labels root)
  exact (hTold [] [] rfl rfl (congrArg (· ++ []) h)).1

/-- A paragraph that was created before its text. -/
def paragraph : Document where
  nodes := #[
    { value := .document, children := [⟨1⟩] },
    { value := .element "p" { entries := [("title", "\x22x\x22>")] }, parent := some ⟨0⟩,
      children := [⟨2⟩] },
    { value := .text "</p>&amp;", parent := some ⟨1⟩ }]

/-- A paragraph that was created after its text. -/
def paragraphAfterText : Document where
  nodes := #[
    { value := .document, children := [⟨2⟩] },
    { value := .text "</p>&amp;", parent := some ⟨2⟩ },
    { value := .element "p" { entries := [("title", "\x22x\x22>")] }, parent := some ⟨0⟩,
      children := [⟨1⟩] }]

theorem toHtml_paragraph :
    paragraph.Reachable ∧ paragraphAfterText.Reachable ∧ Printable (paragraph.below root) ∧
      Printable (paragraphAfterText.below root) ∧
      paragraph.toHtml root = "<p title=\x22&quot;x&quot;>\x22>&lt;/p&gt;&amp;amp;</p>" ∧
      (paragraph.below root).map (·.2) = (paragraphAfterText.below root).map (·.2) := by
  have hParagraph : paragraph.Reachable := by
    have hElement := Reachable.empty.change (.createElement _ "p")
    have hText := hElement.change (.createText _ "</p>&amp;")
    have hTitle := hText.change (@Change.setAttribute _ _ ⟨1⟩ "title" "\x22x\x22>" rfl)
    have hInside := hTitle.change (@Change.append _ _ ⟨1⟩ ⟨2⟩ rfl)
    exact hInside.change (@Change.append _ _ ⟨0⟩ ⟨1⟩ rfl)
  have hAfterText : paragraphAfterText.Reachable := by
    have hText := Reachable.empty.change (.createText _ "</p>&amp;")
    have hElement := hText.change (.createElement _ "p")
    have hTitle := hElement.change (@Change.setAttribute _ _ ⟨2⟩ "title" "\x22x\x22>" rfl)
    have hInside := hTitle.change (@Change.append _ _ ⟨2⟩ ⟨1⟩ rfl)
    exact hInside.change (@Change.append _ _ ⟨0⟩ ⟨2⟩ rfl)
  have hTrees : Printable (paragraph.below root) := by decide +kernel
  have hOtherTrees : Printable (paragraphAfterText.below root) := by decide +kernel
  refine ⟨hParagraph, hAfterText, hTrees, hOtherTrees, by decide +kernel, ?_⟩
  exact (toHtml_root_eq_iff hParagraph hAfterText hTrees hOtherTrees).mp (by decide +kernel)

end Document

end ClassScript
