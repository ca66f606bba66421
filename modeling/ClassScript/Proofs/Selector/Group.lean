import ClassScript.Proofs.Selector.Brackets
import ClassScript.Proofs.Selector.Commas
import ClassScript.Proofs.Text.Blank
import Mathlib.Data.List.Forall2
import Mathlib.Data.List.Infix

/-!
Groups that are written as selectors with commas between them. Reading one knows two ways to tell
which commas separate. The search for commas takes quotes and brackets wherever they stand, and the
reading of a selector takes quotes only where a value begins and ends brackets at the first closing one.
Where the two agree a group is read as its selectors, and where they do not it is not read at all.
-/

namespace ClassScript.Selector

theorem mapM_eq_some_iff {α β : Type} {f : α → Option β} {xs : List α} {ys : List β} :
    xs.mapM f = some ys ↔ List.Forall₂ (fun x y => f x = some y) xs ys := by
  induction xs generalizing ys with
  | nil => simp [eq_comm]
  | cons x xs ih =>
      rw [List.mapM_cons, List.forall₂_cons_left_iff]
      simp [Option.bind_eq_some_iff, ← ih, @eq_comm _ ys]

theorem exists_of_forall₂ {α β : Type} {R : α → β → Prop} {xs : List α} {ys : List β}
    (h : List.Forall₂ R xs ys) : ∀ x ∈ xs, ∃ y, R x y :=
  ((List.forall₂_and_left xs ys).mp (h.imp fun _ y hxy => ⟨⟨y, hxy⟩, hxy⟩)).1

/-- A group is read when each of its entries is. -/
theorem readGroup?_eq_some_iff {text : String} {selectors : List Selector} :
    readGroup? text = some selectors ↔
      List.Forall₂ (fun entry selector => readEntry? entry = some selector) (entries text) selectors :=
  mapM_eq_some_iff

theorem entries_eq_iff {text : String} {texts : List String} :
    entries text = texts ↔ Search.pieces {} text.toList = texts.map String.toList := by
  constructor
  · rintro rfl
    simp [entries, Search.pieces]
  · intro h
    rw [Search.pieces] at h
    simp [entries, h]

/-- Behind the text, a comma would separate. -/
theorem entries_append_comma_iff {text : String} :
    entries (text ++ ",") = [text, ""] ↔ Search.run {} text.toList = some {} := by
  rw [entries_eq_iff, String.toList_append]
  refine Iff.trans Search.pieces_append_comma_iff ?_
  simp [Search.pieces, splitAtCommas]

/-- A text is one entry exactly where no comma in it separates. -/
theorem entries_eq_singleton_iff {text : String} :
    entries text = [text] ↔ ∃ behind, Search.run {} text.toList = some behind :=
  entries_eq_iff.trans Search.pieces_eq_singleton_iff

/-- No comma in any of the texts separates, and one behind any text but the last would. -/
def Apart (texts : List String) : Prop :=
  (∀ text ∈ texts.dropLast, entries (text ++ ",") = [text, ""]) ∧
    ∀ text ∈ texts.getLast?, entries text = [text]

instance : DecidablePred Apart := fun texts =>
  inferInstanceAs (Decidable ((∀ text ∈ texts.dropLast, entries (text ++ ",") = [text, ""]) ∧
    ∀ text ∈ texts.getLast?, entries text = [text]))

/-- Entries are found again between commas exactly where they keep apart. -/
theorem entries_intercalate_iff {texts : List String} (hNe : texts ≠ []) :
    entries (",".intercalate texts) = texts ↔ Apart texts := by
  rw [entries_eq_iff, String.toList_intercalate]
  refine (Search.pieces_intercalate_iff (by simpa using hNe)).trans ?_
  simp [Apart, entries_append_comma_iff, entries_eq_singleton_iff, ← List.map_dropLast]

/-- All that values without quotes may hold. -/
def anyChar (_ : Char) : Bool := true

theorem Place.run_outside_comma {bare : Char → Bool} {space : List Char}
    (hSpace : ∀ c ∈ space, Blank.isWide c = true) (rest : List Char) :
    run bare outside (space ++ ',' :: rest) = none := by
  induction space with
  | nil => rfl
  | cons c space ih =>
      obtain ⟨hc, hRest⟩ := List.forall_mem_cons.mp hSpace
      have hOpen : c ≠ '[' := ne_of_apply_ne Blank.isWide (by rw [hc]; decide)
      rw [List.cons_append, run_cons, step?, if_neg hOpen]
      split
      · exact ih hRest
      · rfl

theorem Place.step?_verticalTab (place : Place) : step? anyChar place '\x0b' ≠ some outside := by
  cases place with
  | outside | opened | compared | valued => decide
  | quoted quote =>
      rw [step?]
      split <;> simp

/-- A text that is a selector by itself, and that ends on both sides with characters of ASCII that are
no blanks. -/
structure Sole (text : String) (selector : Selector) : Prop where
  first : ∀ c, text.toList.head? = some c → c.toNat < 0x80 ∧ Ascii.isBlank c = false
  last : ∀ c, text.toList.getLast? = some c → c.toNat < 0x80 ∧ Ascii.isBlank c = false
  reads : read? text = some selector
  asks : selector.isEmpty = false

instance (text : String) (selector : Selector) : Decidable (Sole text selector) :=
  decidable_of_iff
    ((text.toList.head?.all fun c => c.toNat < 0x80 && !Ascii.isBlank c) = true ∧
      (text.toList.getLast?.all fun c => c.toNat < 0x80 && !Ascii.isBlank c) = true ∧
      read? text = some selector ∧ selector.isEmpty = false)
    ⟨fun ⟨hFirst, hLast, hReads, hAsks⟩ =>
      ⟨by simpa [Option.all_eq_true] using hFirst, by simpa [Option.all_eq_true] using hLast, hReads,
        hAsks⟩,
      fun h => ⟨by simpa [Option.all_eq_true] using h.first,
        by simpa [Option.all_eq_true] using h.last, h.reads, h.asks⟩⟩

namespace Sole

variable {text : String} {selector : Selector}

theorem run (h : Sole text selector) :
    Place.run anyChar .outside text.toList = some .outside :=
  run_outside_of_readOn h.reads fun _ _ _ _ => rfl

theorem isWide_head (h : Sole text selector) {c : Char} (hc : text.toList.head? = some c) :
    Blank.isWide c = false := by
  obtain ⟨hAscii, hBlank⟩ := h.first c hc
  refine Blank.isWide_eq_false hAscii hBlank ?_
  rintro rfl
  have hRun := h.run
  obtain ⟨rest, hText⟩ := List.head?_eq_some_iff.mp hc
  rw [hText] at hRun
  cases hRun

theorem isWide_last (h : Sole text selector) {c : Char} (hc : text.toList.getLast? = some c) :
    Blank.isWide c = false := by
  obtain ⟨hAscii, hBlank⟩ := h.last c hc
  refine Blank.isWide_eq_false hAscii hBlank ?_
  rintro rfl
  have hRun := h.run
  obtain ⟨init, hText⟩ := List.getLast?_eq_some_iff.mp hc
  rw [hText, Place.run_append, Option.bind_eq_some_iff] at hRun
  obtain ⟨place, -, hStep⟩ := hRun
  rw [Place.run_cons, Option.bind_eq_some_iff] at hStep
  obtain ⟨next, hStep, hNext⟩ := hStep
  cases hNext
  exact place.step?_verticalTab hStep

/-- Where nothing is trimmed, an entry is read as it stands. -/
theorem readEntry?_eq (h : Sole text selector) : readEntry? text = some selector := by
  have hTrim : Blank.trim text.toList = text.toList :=
    Blank.trim_eq_self (fun _ => h.isWide_head) fun _ => h.isWide_last
  unfold readEntry?
  rw [hTrim, String.ofList_toList, h.reads]
  simp [h.asks]

theorem begins (h : Sole text selector) :
    ∃ c rest, text.toList = c :: rest ∧ Blank.isWide c = false := by
  cases hText : text.toList with
  | nil =>
      have hEmpty : read? "" = some {} := by decide +kernel
      have hReads := h.reads
      have hAsks := h.asks
      rw [String.toList_eq_nil_iff.mp hText, hEmpty] at hReads
      cases hReads
      cases hAsks
  | cons c rest => exact ⟨c, rest, rfl, h.isWide_head (by rw [hText]; rfl)⟩

end Sole

/-- Up to white space at its end, a text is read and leaves nothing open. -/
def Settles (s : List Char) : Prop :=
  ∃ shown space, s = shown ++ space ∧ Place.run anyChar .outside shown = some .outside ∧
    ∀ c ∈ space, Blank.isWide c = true

/-- No comma stands behind a text that is read inside another one that is. -/
theorem Settles.not_comma {s rest : List Char} (h : Settles s) : ¬ Settles (s ++ ',' :: rest) := by
  obtain ⟨shown, space, rfl, hShown, hSpace⟩ := h
  rintro ⟨longer, tail, hSplit, hLonger, hTail⟩
  have hComma : ',' ∉ tail := fun hc => absurd (hTail ',' hc) (by decide)
  rcases List.append_eq_append_iff.mp hSplit with ⟨more, rfl, hMore⟩ | ⟨more, -, rfl⟩
  · cases more with
    | nil =>
        rw [List.nil_append] at hMore
        exact hComma (hMore ▸ List.mem_cons_self)
    | cons c more =>
        cases hMore
        rw [List.append_assoc, Place.run_append, hShown, Option.bind_some,
          Place.run_outside_comma hSpace] at hLonger
        cases hLonger
  · exact hComma (by simp)

/-- An entry that can be read closes what it opens. -/
theorem settles_of_readEntry? {entry : List Char} {selector : Selector}
    (h : readEntry? (String.ofList entry) = some selector)
    (hHead : ∀ c, entry.head? = some c → Blank.isWide c = false) : Settles entry := by
  obtain ⟨space, hSplit, hSpace⟩ := Blank.exists_trim hHead
  unfold readEntry? at h
  rw [String.toList_ofList, Option.filter_eq_some_iff] at h
  have hRun : Place.run anyChar .outside (String.ofList (Blank.trim entry)).toList = some .outside :=
    run_outside_of_readOn h.1 fun _ _ _ _ => rfl
  rw [String.toList_ofList] at hRun
  exact ⟨Blank.trim entry, space, hSplit, hRun, hSpace⟩

theorem Sole.settles {text : String} {selector : Selector} (h : Sole text selector) :
    Settles text.toList :=
  ⟨text.toList, [], (List.append_nil _).symm, h.run, fun _ hc => nomatch hc⟩

theorem append_cons_eq_append_cons {α : Type} {s t u v : List α} {x : α}
    (h : s ++ x :: t = u ++ x :: v) :
    s = u ∧ t = v ∨ (∃ more, u = s ++ x :: more) ∨ ∃ more, s = u ++ x :: more := by
  rcases List.append_eq_append_iff.mp h with ⟨more, hu, hMore⟩ | ⟨more, hs, hMore⟩
  · cases more with
    | nil => simp_all
    | cons y more =>
        cases hMore
        exact .inr (.inl ⟨more, hu⟩)
  · cases more with
    | nil => simp_all
    | cons y more =>
        cases hMore
        exact .inr (.inr ⟨more, hs⟩)

/-- The first entry begins where its group does, so that in front of it nothing is trimmed. -/
theorem settles_of_pieces {text s first : List Char} {others : List (List Char)} {selector : Selector}
    (hBegins : ∃ c rest, text = c :: rest ∧ Blank.isWide c = false)
    (hPieces : Search.pieces {} (text ++ s) = first :: others)
    (hRead : readEntry? (String.ofList first) = some selector) : Settles first := by
  refine settles_of_readEntry? hRead fun d hd => ?_
  obtain ⟨c, rest, rfl, hc⟩ := hBegins
  obtain ⟨tail, rfl⟩ := List.head?_eq_some_iff.mp hd
  have hSame : c = d := by
    obtain ⟨-, -, ⟨hSplit, -⟩ | ⟨more, -, hSplit, -⟩⟩ := Search.run_of_pieces hPieces
    · exact (List.cons.inj hSplit).1
    · exact (List.cons.inj hSplit).1
  rw [← hSame, hc]

/-- If every entry of a group of texts is read, the entries are the texts. For a comma that separates
in one of them would end an entry that is read inside a text that is, and a comma between two of them
that does not would stand behind a text that is read inside an entry that is. -/
theorem pieces_intercalate_of_readEntry? {texts : List (List Char)} (hNe : texts ≠ [])
    (hTexts : ∀ text ∈ texts, Settles text ∧ ∃ c rest, text = c :: rest ∧ Blank.isWide c = false)
    (hRead : ∀ piece ∈ Search.pieces {} ([','].intercalate texts), ∃ selector,
      readEntry? (String.ofList piece) = some selector) :
    Search.pieces {} ([','].intercalate texts) = texts := by
  induction texts with
  | nil => exact absurd rfl hNe
  | cons text texts ih =>
      obtain ⟨⟨hText, hBegins⟩, hOthers⟩ := List.forall_mem_cons.mp hTexts
      obtain ⟨first, others, hPieces⟩ :=
        List.exists_cons_of_ne_nil (Search.pieces_ne_nil {} ([','].intercalate (text :: texts)))
      rw [hPieces] at hRead ⊢
      obtain ⟨⟨selector, hFirst⟩, hRest⟩ := List.forall_mem_cons.mp hRead
      cases texts with
      | nil =>
          rw [List.intercalate_singleton, ← List.append_nil text] at hPieces
          have hSettles := settles_of_pieces hBegins hPieces hFirst
          rw [List.append_nil] at hPieces
          obtain ⟨-, -, ⟨rfl, rfl⟩ | ⟨rest, -, rfl, -⟩⟩ := Search.run_of_pieces hPieces
          · rfl
          · exact absurd hText hSettles.not_comma
      | cons next more =>
          rw [List.intercalate_cons_cons, List.append_assoc, List.singleton_append] at hPieces
          have hSettles := settles_of_pieces hBegins hPieces hFirst
          obtain ⟨-, -, ⟨rfl, -⟩ | ⟨rest, -, hSplit, rfl⟩⟩ := Search.run_of_pieces hPieces
          · exact absurd hSettles hText.not_comma
          · obtain ⟨rfl, rfl⟩ | ⟨more, rfl⟩ | ⟨more, rfl⟩ := append_cons_eq_append_cons hSplit
            · rw [ih (List.cons_ne_nil next more) hOthers hRest]
            · exact absurd hSettles hText.not_comma
            · exact absurd hText hSettles.not_comma

/-- Whether the search for commas passes over a character in brackets. -/
def opensNothing (c : Char) : Bool := c ≠ '\x22' && c ≠ '\x27' && c ≠ '['

theorem opensNothing_iff {c : Char} : opensNothing c = true ↔ ¬ IsQuote c ∧ c ≠ '[' := by
  simp [opensNothing, IsQuote]

theorem opensNothing_of_isInnerChar {c : Char} (h : isInnerChar c = true) : opensNothing c = true := by
  have hOpen : c ≠ '[' := ne_of_apply_ne isInnerChar (by rw [h]; decide)
  refine opensNothing_iff.mpr ⟨?_, hOpen⟩
  rintro (rfl | rfl) <;> exact absurd h (by decide)

theorem opensNothing_of_isBlank {c : Char} (h : Ascii.isBlank c = true) : opensNothing c = true :=
  opensNothing_of_isInnerChar (by simp [isInnerChar, h])

/-- What the search for commas sees open at a place in a text that is understood. -/
def Place.search : Place → Search
  | outside => {}
  | opened | compared | valued => { depth := 1 }
  | quoted quote => { quote? := some quote, depth := 1 }

theorem Place.search_of_inBrackets {place : Place} (h : place.inBrackets = true) :
    place.search = { depth := 1 } := by
  cases place with
  | outside | quoted => cases h
  | opened | compared | valued => rfl

theorem Search.step?_of_opensNothing {c : Char} (h : opensNothing c = true) (hClose : c ≠ ']') :
    step? { depth := 1 } c = some { depth := 1 } := by
  obtain ⟨hQuote, hOpen⟩ := opensNothing_iff.mp h
  rw [IsQuote] at hQuote
  simp [step?, hQuote, hOpen, hClose]

theorem Search.step?_of_isOuterChar {c : Char} (h : isOuterChar c = true) : step? {} c = some {} := by
  have hNot : ∀ d, isOuterChar d = false → c ≠ d := fun d hd =>
    ne_of_apply_ne isOuterChar (by simp [h, hd])
  simp [step?, hNot '\x22' (by decide), hNot '\x27' (by decide), hNot '[' (by decide),
    hNot ']' (by decide), hNot ',' (by decide)]

/-- In brackets, a character that does not close them opens a quote where a value begins, and
otherwise nothing. -/
theorem Place.step?_inBrackets {place next : Place} {c : Char} (hPlace : place.inBrackets = true)
    (hClose : c ≠ ']') (h : step? opensNothing place c = some next) :
    opensNothing c = true ∧ next.inBrackets = true ∨ IsQuote c ∧ next = quoted c := by
  cases place with
  | outside | quoted => cases hPlace
  | opened =>
      rw [step?, if_neg hClose] at h
      split at h
      · next hSign =>
          cases h
          exact .inl ⟨by rw [hSign]; decide, rfl⟩
      · obtain ⟨hInner, hNext⟩ := Option.ite_none_right_eq_some.mp h
        cases hNext
        exact .inl ⟨opensNothing_of_isInnerChar hInner, rfl⟩
  | compared =>
      rw [step?, if_neg hClose] at h
      split at h
      · next hBlank =>
          cases h
          exact .inl ⟨opensNothing_of_isBlank hBlank, rfl⟩
      · split at h
        · next hQuote =>
            cases h
            exact .inr ⟨hQuote, rfl⟩
        · obtain ⟨hBare, hNext⟩ := Option.ite_none_right_eq_some.mp h
          cases hNext
          exact .inl ⟨hBare, rfl⟩
  | valued =>
      rw [step?, if_neg hClose] at h
      obtain ⟨hStays, hNext⟩ := Option.ite_none_right_eq_some.mp h
      cases hNext
      exact .inl ⟨hStays.elim opensNothing_of_isBlank id, rfl⟩

theorem Place.search_step?_inBrackets {place next : Place} {c : Char}
    (hPlace : place.inBrackets = true) (h : step? opensNothing place c = some next) :
    place.search.step? c = some next.search := by
  rw [search_of_inBrackets hPlace]
  by_cases hClose : c = ']'
  · rw [hClose, step?_close hPlace] at h
    cases h
    rw [hClose]
    rfl
  · obtain ⟨hc, hNext⟩ | ⟨hQuote, rfl⟩ := step?_inBrackets hPlace hClose h
    · rw [search_of_inBrackets hNext]
      exact Search.step?_of_opensNothing hc hClose
    · rcases hQuote with rfl | rfl <;> rfl

/-- The search for commas keeps in step with reading. -/
theorem Place.search_step? {place next : Place} {c : Char}
    (h : step? opensNothing place c = some next) : place.search.step? c = some next.search := by
  cases place with
  | outside =>
      rw [step?] at h
      split at h
      · next hOpen =>
          cases h
          rw [hOpen]
          rfl
      · obtain ⟨hOuter, hNext⟩ := Option.ite_none_right_eq_some.mp h
        cases hNext
        exact Search.step?_of_isOuterChar hOuter
  | quoted quote =>
      cases h
      by_cases hc : c = quote <;> simp [search, Search.step?, hc]
  | opened | compared | valued => exact search_step?_inBrackets rfl h

/-- Where no value opens anything, a text that is understood leaves nothing open for the search. -/
theorem Place.search_run {place behind : Place} {s : List Char}
    (h : run opensNothing place s = some behind) : place.search.run s = some behind.search := by
  induction s generalizing place with
  | nil =>
      cases h
      rfl
  | cons c s ih =>
      rw [run_cons, Option.bind_eq_some_iff] at h
      obtain ⟨next, hStep, hRun⟩ := h
      rw [Search.run_cons, search_step? hStep, Option.bind_some, ih hRun]

/-- Selectors keep apart if no value without quotes holds a quote or a bracket. -/
theorem apart_of_opensNothing {texts : List String} (hRead : ∀ text ∈ texts, ∃ selector,
    read? text = some selector) (hBare : ∀ text ∈ texts, ∀ value, BareValue value text.toList →
      ∀ c ∈ value, opensNothing c = true) : Apart texts := by
  have hRun : ∀ text ∈ texts, Search.run {} text.toList = some {} := by
    intro text hText
    obtain ⟨selector, hReads⟩ := hRead text hText
    exact Place.search_run (run_outside_of_readOn hReads (hBare text hText))
  exact ⟨fun text hText => entries_append_comma_iff.mpr (hRun text (List.mem_of_mem_dropLast hText)),
    fun text hText => entries_eq_singleton_iff.mpr ⟨{}, hRun text (List.mem_of_getLast? hText)⟩⟩

/-- Selectors with commas between them are read as these selectors, one for each text and in their
order, exactly when the search for commas finds only the commas between them; otherwise the group is not
read. So it is read when no value without quotes in it holds a quote or an opening bracket. -/
theorem readGroup?_intercalate {texts : List String} {selectors : List Selector}
    (hSole : List.Forall₂ Sole texts selectors) (hNe : texts ≠ []) :
    (Apart texts → readGroup? (",".intercalate texts) = some selectors) ∧
      (¬ Apart texts → readGroup? (",".intercalate texts) = none) ∧
      ((∀ text ∈ texts, ∀ value, BareValue value text.toList →
        ∀ c ∈ value, ¬ IsQuote c ∧ c ≠ '[') → Apart texts) := by
  have hEach : ∀ text ∈ texts, ∃ selector, Sole text selector := exists_of_forall₂ hSole
  refine ⟨fun hApart => ?_, fun hNot => ?_, fun hBare => ?_⟩
  · rw [readGroup?_eq_some_iff, (entries_intercalate_iff hNe).mpr hApart]
    exact hSole.imp fun _ _ hText => hText.readEntry?_eq
  · by_contra hSome
    obtain ⟨found, hFound⟩ := Option.ne_none_iff_exists'.mp hSome
    have hEntries := exists_of_forall₂ (readGroup?_eq_some_iff.mp hFound)
    refine hNot ((entries_intercalate_iff hNe).mp ?_)
    have hJoined : (",".intercalate texts).toList = [','].intercalate (texts.map String.toList) :=
      String.toList_intercalate
    rw [entries_eq_iff, hJoined]
    refine pieces_intercalate_of_readEntry? (by simpa using hNe) ?_ ?_
    · intro text hText
      obtain ⟨sole, hSoleText, rfl⟩ := List.mem_map.mp hText
      obtain ⟨selector, hSelector⟩ := hEach sole hSoleText
      exact ⟨hSelector.settles, hSelector.begins⟩
    · intro piece hPiece
      rw [← hJoined] at hPiece
      exact hEntries (String.ofList piece) (List.mem_map_of_mem hPiece)
  · refine apart_of_opensNothing (fun text hText => ?_) fun text hText value hValue c hc =>
      opensNothing_iff.mpr (hBare text hText value hValue c hc)
    obtain ⟨selector, hSelector⟩ := hEach text hText
    exact ⟨selector, hSelector.reads⟩

/-- A quote inside a value without quotes keeps the search for commas from the comma behind it. -/
theorem readGroup?_apostrophe :
    List.Forall₂ Sole ["[a=it's]", "b"]
        [{ first := [.attributeValue "a" .equals "it's"] }, { first := [.tag "b"] }] ∧
      readGroup? (",".intercalate ["[a=it's]", "b"]) = none := by
  have hQuote : Sole "[a=it's]" { first := [.attributeValue "a" .equals "it's"] } := by decide +kernel
  have hTag : Sole "b" { first := [.tag "b"] } := by decide +kernel
  exact ⟨.cons hQuote (.cons hTag .nil), by decide +kernel⟩

/-- A comma inside a value without quotes does not separate. -/
theorem readGroup?_commaInValue :
    List.Forall₂ Sole ["[a=x,y]", "b"]
        [{ first := [.attributeValue "a" .equals "x,y"] }, { first := [.tag "b"] }] ∧
      Apart ["[a=x,y]", "b"] ∧
      readGroup? (",".intercalate ["[a=x,y]", "b"]) =
        some [{ first := [.attributeValue "a" .equals "x,y"] }, { first := [.tag "b"] }] := by
  have hComma : Sole "[a=x,y]" { first := [.attributeValue "a" .equals "x,y"] } := by decide +kernel
  have hTag : Sole "b" { first := [.tag "b"] } := by decide +kernel
  have hSole := List.Forall₂.cons hComma (.cons hTag .nil)
  have hApart : Apart ["[a=x,y]", "b"] := by decide +kernel
  exact ⟨hSole, hApart, (readGroup?_intercalate hSole (List.cons_ne_nil _ _)).1 hApart⟩

end ClassScript.Selector
