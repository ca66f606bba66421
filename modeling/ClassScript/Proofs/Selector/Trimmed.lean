import ClassScript.Proofs.Selector.Group

/-!
White space around an entry of a group. Blanks at the ends of a text mean nothing to the reading of a
selector, so they may be trimmed. But more is trimmed than blanks. All white space that is not ASCII can
stand in names, and the vertical tab is understood nowhere outside values, so trimming them makes another
selector of a text, or a selector of a text that is none.
-/

namespace ClassScript.Selector

/-- A run ends as well in front of another text, unless that one begins with a character of the run. -/
theorem MaximalRun.congr {p : Char → Bool} {run rest other : List Char} (h : MaximalRun p run rest)
    (hOther : ∀ c, other.head? = some c → rest.head? = some c ∨ p c = false) :
    MaximalRun p run other :=
  ⟨h.all, fun c hc => (hOther c hc).elim (h.stops c) id⟩

theorem head?_append_cons (s t u : List Char) (c : Char) :
    (s ++ c :: t).head? = (s ++ c :: u).head? := by
  cases s <;> rfl

/-- A name ends there too where something else that is not part of it follows. -/
theorem NameBefore.congr {name rest other : List Char} (h : NameBefore name rest)
    (hOther : ∀ c, other.head? = some c → rest.head? = some c ∨ isNameChar c = false) :
    NameBefore name other :=
  ⟨h.1, h.2.congr hOther⟩

theorem NameBefore.congr_of_head? {name rest other : List Char} (h : NameBefore name rest)
    (hHead : rest.head? = other.head?) : NameBefore name other :=
  h.congr fun _ hc => .inl (hHead.trans hc)

/-- A value stays as it is, whatever follows the bracket behind it. -/
theorem ValueAt.exists_piece {value : String} {s after rest : List Char}
    (h : ValueAt value s (after ++ ']' :: rest)) :
    ∃ piece, s = piece ++ (after ++ ']' :: rest) ∧
      ∀ other, ValueAt value (piece ++ (after ++ ']' :: other)) (after ++ ']' :: other) := by
  generalize hLeft : after ++ ']' :: rest = left at h
  cases h with
  | @quoted quote text left hQuote hText =>
      refine ⟨quote :: (text ++ [quote]), by simp, fun other => ?_⟩
      have hValue := @ValueAt.quoted quote text (after ++ ']' :: other) hQuote hText
      simpa using hValue
  | @bare text left hText hQuote =>
      refine ⟨text, rfl, fun other => .bare (hText.congr fun c hc => .inl ?_) hQuote⟩
      rw [← hLeft, head?_append_cons after rest other, hc]

/-- A condition ends with a character that is no blank, and stays as it is in front of another text,
unless a name would go on there. -/
theorem SimpleAt.exists_piece {simple : Simple} {s rest : List Char} (h : SimpleAt simple s rest) :
    ∃ piece last, s = piece ++ last :: rest ∧ Ascii.isBlank last = false ∧
      ∀ other : List Char,
        (∀ c, other.head? = some c → rest.head? = some c ∨ isNameChar c = false) →
          SimpleAt simple (piece ++ last :: other) other := by
  have hNamed : ∀ {name rest : List Char}, NameBefore name rest → ∃ init last,
      name = init ++ [last] ∧ Ascii.isBlank last = false := by
    intro name rest hName
    obtain ⟨init, last, rfl⟩ := name.eq_nil_or_concat.resolve_left hName.1
    exact ⟨init, last, List.concat_eq_append, isBlank_of_isNameChar (hName.2.all last (by simp))⟩
  cases h with
  | universal => exact ⟨[], '*', rfl, by decide, fun other _ => .universal⟩
  | @tag name rest hName =>
      obtain ⟨init, last, rfl, hLast⟩ := hNamed hName
      refine ⟨init, last, by simp, hLast, fun other hOther => ?_⟩
      have hTag := SimpleAt.tag (hName.congr hOther)
      rwa [List.append_assoc] at hTag
  | @cls name rest hName =>
      obtain ⟨init, last, rfl, hLast⟩ := hNamed hName
      refine ⟨'.' :: init, last, by simp, hLast, fun other hOther => ?_⟩
      have hClass := SimpleAt.cls (hName.congr hOther)
      rwa [List.append_assoc] at hClass
  | @id name rest hName =>
      obtain ⟨init, last, rfl, hLast⟩ := hNamed hName
      refine ⟨'#' :: init, last, by simp, hLast, fun other hOther => ?_⟩
      have hId := SimpleAt.id (hName.congr hOther)
      rwa [List.append_assoc] at hId
  | @«attribute» before name after rest hBefore hName hAfter =>
      refine ⟨'[' :: (before ++ (name ++ after)), ']', by simp, by decide, fun other _ => ?_⟩
      have hHead := head?_append_cons after rest other ']'
      have hAttribute := SimpleAt.attribute hBefore (hName.congr_of_head? hHead) hAfter
      simpa using hAttribute
  | @attributeValue before name between behind after s rest comparison value hBefore hName hBetween
      hBehind hValue hAfter =>
      obtain ⟨piece, rfl, hPiece⟩ := hValue.exists_piece
      obtain ⟨first, sign, hSign⟩ : ∃ first sign, comparison.sign.toList = first :: sign := by
        cases comparison <;> exact ⟨_, _, rfl⟩
      refine ⟨'[' :: (before ++ (name ++ (between ++ (comparison.sign.toList ++ (behind ++
        (piece ++ after)))))), ']', by simp, by decide, fun other _ => ?_⟩
      have hHead := head?_append_cons between (sign ++ (behind ++ (piece ++ (after ++ ']' :: rest))))
        (sign ++ (behind ++ (piece ++ (after ++ ']' :: other)))) first
      rw [← List.cons_append, ← List.cons_append, ← hSign] at hHead
      have hAttribute := SimpleAt.attributeValue hBefore (hName.congr_of_head? hHead) hBetween hBehind
        (hPiece other) hAfter
      simpa using hAttribute

theorem isNameChar_of_isBlank {c : Char} (h : Ascii.isBlank c = true) : isNameChar c = false := by
  rw [← Bool.not_eq_true]
  intro hName
  rw [isBlank_of_isNameChar hName] at h
  cases h

theorem exists_of_append_blanks {s blanks before rest : List Char} {c : Char} (hBlanks : Blanks blanks)
    (hc : Ascii.isBlank c = false) (h : s ++ blanks = before ++ c :: rest) :
    ∃ more, s = before ++ c :: more ∧ rest = more ++ blanks := by
  have hNot : ∀ start, blanks ≠ start ++ c :: rest := by
    rintro start rfl
    rw [hBlanks c (by simp)] at hc
    cases hc
  rcases List.append_eq_append_iff.mp h with ⟨start, -, hRest⟩ | ⟨more, rfl, hRest⟩
  · exact absurd hRest (hNot start)
  · cases more with
    | nil => exact absurd hRest.symm (hNot [])
    | cons d more =>
        cases hRest
        exact ⟨more, rfl, rfl⟩

/-- Blanks behind a text belong to none of its tokens. -/
theorem Token.at_append_blanks_iff {token : Token} {s rest blanks : List Char}
    (hBlanks : Blanks blanks) :
    token.At (s ++ blanks) rest ↔ ∃ more, rest = more ++ blanks ∧ token.At s more := by
  constructor
  · intro h
    generalize hText : s ++ blanks = text at h
    cases h with
    | simple hSimple =>
        obtain ⟨piece, last, rfl, hLast, hPiece⟩ := hSimple.exists_piece
        obtain ⟨more, rfl, rfl⟩ := exists_of_append_blanks hBlanks hLast hText
        refine ⟨more, rfl, .simple (hPiece more fun c hc => .inl ?_)⟩
        rw [List.head?_append, hc, Option.some_or]
    | @combinator combinator mark rest hMark =>
        have hLast := Combinator.isBlank_of_mark? hMark
        obtain ⟨more, rfl, rfl⟩ := @exists_of_append_blanks s blanks [] rest mark hBlanks hLast hText
        exact ⟨more, rfl, .combinator hMark⟩
    | @blank front rest hFront hNe hRest =>
        obtain ⟨c, tail, rfl, hc⟩ := hRest
        obtain ⟨more, rfl, rfl⟩ := exists_of_append_blanks hBlanks hc hText
        exact ⟨c :: more, rfl, .blank hFront hNe ⟨c, more, rfl, hc⟩⟩
  · rintro ⟨more, rfl, h⟩
    cases h with
    | simple hSimple =>
        obtain ⟨piece, last, rfl, hLast, hPiece⟩ := hSimple.exists_piece
        rw [List.append_assoc, List.cons_append]
        refine .simple (hPiece _ fun c hc => ?_)
        cases more with
        | nil => exact .inr (isNameChar_of_isBlank (hBlanks c (List.mem_of_mem_head? hc)))
        | cons d more => exact .inl hc
    | combinator hMark => exact .combinator hMark
    | @blank front rest hFront hNe hRest =>
        obtain ⟨c, tail, rfl, hc⟩ := hRest
        rw [List.append_assoc]
        exact .blank hFront hNe ⟨c, tail ++ blanks, rfl, hc⟩

theorem Token.At.next?_eq {token : Token} {s rest : List Char} (h : token.At s rest) :
    next? s = some (token, rest) := by
  refine (next?_eq_some_iff ?_).mpr h
  cases h <;> exact nofun

/-- Reading ends behind the last token, or goes on behind the first one. -/
theorem readOn_eq_some_iff {progress : Progress} {s : List Char} {selector : Selector} :
    readOn progress s = some selector ↔
      Blanks s ∧ progress.finish = some selector ∨
        ∃ token rest next, token.At s rest ∧ progress.step token = some next ∧
          readOn next rest = some selector := by
  constructor
  · intro h
    cases hNext : next? s with
    | none =>
        rw [readOn_of_none hNext] at h
        exact .inl ⟨next?_eq_none_iff.mp hNext, h⟩
    | some pair =>
        obtain ⟨hToken, -, next, hStep, hRest⟩ := exists_step_of_readOn hNext h
        exact .inr ⟨pair.1, pair.2, next, hToken, hStep, hRest⟩
  · rintro (⟨hBlanks, hFinish⟩ | ⟨token, rest, next, hToken, hStep, hRest⟩)
    · rw [readOn_of_none (next?_eq_none_iff.mpr hBlanks), hFinish]
    · rw [readOn_eq_of_step hToken.next?_eq hStep, hRest]

/-- The induction is on the length of the text, since reading goes on behind a token. -/
theorem readOn_append_blanks {blanks : List Char} (hBlanks : Blanks blanks) (progress : Progress)
    (s : List Char) : readOn progress (s ++ blanks) = readOn progress s := by
  induction hLength : s.length using Nat.strong_induction_on generalizing s progress with
  | h n ih =>
      have hShorter : ∀ {token : Token} {rest : List Char} (next : Progress), token.At s rest →
          readOn next (rest ++ blanks) = readOn next rest := by
        intro token rest next hToken
        exact ih rest.length (hLength ▸ length_lt_of_next? hToken.next?_eq) next rest rfl
      have hOnly : Blanks (s ++ blanks) ↔ Blanks s := by
        rw [Blanks, List.forall_mem_append]
        exact and_iff_left hBlanks
      refine Option.ext fun selector => ?_
      rw [readOn_eq_some_iff, readOn_eq_some_iff, hOnly]
      refine or_congr_right ⟨?_, ?_⟩
      · rintro ⟨token, rest, next, hToken, hStep, hRest⟩
        obtain ⟨more, rfl, hOwn⟩ := (Token.at_append_blanks_iff hBlanks).mp hToken
        exact ⟨token, more, next, hOwn, hStep, (hShorter next hOwn).symm.trans hRest⟩
      · rintro ⟨token, rest, next, hToken, hStep, hRest⟩
        exact ⟨token, rest ++ blanks, next, (Token.at_append_blanks_iff hBlanks).mpr ⟨rest, rfl, hToken⟩,
          hStep, (hShorter next hToken).trans hRest⟩

/-- Blanks at the beginning make no difference. -/
theorem readOn_skipBlanks (s : List Char) :
    readOn (.first []) (skipBlanks s) = readOn (.first []) s := by
  obtain ⟨blanks, hBlanks, hSplit⟩ := exists_skipBlanks s
  by_cases hSkip : skipBlanks s = []
  · rw [hSkip, List.append_nil] at hSplit
    rw [hSkip, hSplit]
    exact (readOn_append_blanks hBlanks (.first []) []).symm
  · have hStarts := startsUnblank_skipBlanks hSkip
    by_cases hNone : blanks = []
    · rw [hNone, List.nil_append] at hSplit
      rw [← hSplit]
    · have hNext := next?_blanks hBlanks hNone hStarts
      rw [← hSplit] at hNext
      exact (readOn_eq_of_step hNext rfl).symm

theorem readOn_blanks_append {blanks : List Char} (hBlanks : Blanks blanks) (s : List Char) :
    readOn (.first []) (blanks ++ s) = readOn (.first []) s := by
  rw [← readOn_skipBlanks, skipBlanks, List.dropWhile_append_of_pos hBlanks]
  exact readOn_skipBlanks s

/-- White space that separates nothing. Where it is understood, it belongs to a name or a value. -/
def isFaint (c : Char) : Bool := Blank.isWide c && !Ascii.isBlank c

def Simple.characters : Simple → List Char
  | universal => []
  | tag name | cls name | id name | «attribute» name => name.toList
  | attributeValue name _ value => name.toList ++ value.toList

def characters (selector : Selector) : List Char :=
  selector.first.flatMap Simple.characters ++
    selector.rest.flatMap fun part => part.2.flatMap Simple.characters

theorem countP_isFaint_of_blanks {blanks : List Char} (h : Blanks blanks) :
    blanks.countP isFaint = 0 := by
  rw [List.countP_eq_zero]
  intro c hc
  rw [isFaint, h c hc, Bool.not_true, Bool.and_false]
  exact Bool.false_ne_true

theorem isFaint_toLower (c : Char) : isFaint c.toLower = isFaint c :=
  Ascii.toLower_induction (P := fun c lower => isFaint lower = isFaint c) (by decide +kernel)
    (fun _ _ => rfl) c

theorem countP_isFaint_lower (name : List Char) :
    (Ascii.lower (String.ofList name)).toList.countP isFaint = name.countP isFaint := by
  rw [Ascii.toList_lower, String.toList_ofList, List.countP_map]
  exact List.countP_congr fun c _ => by rw [Function.comp_apply, isFaint_toLower]

theorem ValueAt.countP_isFaint {value : String} {s rest : List Char} (h : ValueAt value s rest) :
    s.countP isFaint = value.toList.countP isFaint + rest.countP isFaint := by
  cases h with
  | @quoted quote text rest hQuote _ =>
      have hFaint : ¬ isFaint quote = true := by rcases hQuote with rfl | rfl <;> decide
      rw [String.toList_ofList, List.countP_cons_of_neg hFaint, List.countP_append,
        List.countP_cons_of_neg hFaint]
  | bare => rw [String.toList_ofList, List.countP_append]

theorem SimpleAt.countP_isFaint {simple : Simple} {s rest : List Char} (h : SimpleAt simple s rest) :
    s.countP isFaint = simple.characters.countP isFaint + rest.countP isFaint := by
  have hMarks : ['*', '.', '#', '[', ']'].all (!isFaint ·) = true := by decide
  have hMark : ∀ c ∈ ['*', '.', '#', '[', ']'], ¬ isFaint c = true :=
    fun c hc => by simpa using List.all_eq_true.mp hMarks c hc
  cases h with
  | universal =>
      rw [List.countP_cons_of_neg (hMark _ (by simp)), Simple.characters, List.countP_nil, Nat.zero_add]
  | tag hName => rw [Simple.characters, countP_isFaint_lower, List.countP_append]
  | cls hName | id hName =>
      rw [List.countP_cons_of_neg (hMark _ (by simp)), Simple.characters, String.toList_ofList,
        List.countP_append]
  | «attribute» hBefore hName hAfter =>
      rw [List.countP_cons_of_neg (hMark _ (by simp)), Simple.characters, countP_isFaint_lower]
      simp only [List.countP_append, countP_isFaint_of_blanks hBefore, countP_isFaint_of_blanks hAfter,
        List.countP_cons_of_neg (hMark ']' (by simp)), Nat.zero_add]
  | @attributeValue _ _ _ _ _ _ _ comparison _ hBefore hName hBetween hBehind hValue hAfter =>
      have hSign : comparison.sign.toList.countP isFaint = 0 := by cases comparison <;> decide
      rw [List.countP_cons_of_neg (hMark _ (by simp)), Simple.characters]
      simp only [List.countP_append, countP_isFaint_lower, countP_isFaint_of_blanks hBefore,
        countP_isFaint_of_blanks hBetween, countP_isFaint_of_blanks hBehind,
        countP_isFaint_of_blanks hAfter, hSign, hValue.countP_isFaint,
        List.countP_cons_of_neg (hMark ']' (by simp)), Nat.zero_add, Nat.add_assoc]

theorem SimplesAt.countP_isFaint {simples : Compound} {s rest : List Char}
    (h : SimplesAt simples s rest) :
    s.countP isFaint = (simples.flatMap Simple.characters).countP isFaint + rest.countP isFaint := by
  induction h with
  | nil => rw [List.flatMap_nil, List.countP_nil, Nat.zero_add]
  | cons hSimple _ ih =>
      rw [hSimple.countP_isFaint, ih, List.flatMap_cons, List.countP_append, Nat.add_assoc]

theorem CombinatorAt.countP_isFaint {combinator : Combinator} {s rest : List Char}
    (h : CombinatorAt combinator s rest) : s.countP isFaint = rest.countP isFaint := by
  cases h with
  | blanks hBlanks _ => rw [List.countP_append, countP_isFaint_of_blanks hBlanks, Nat.zero_add]
  | @marked _ mark _ _ _ hMark hBefore hAfter =>
      have hFaint : ¬ isFaint mark = true := by cases combinator <;> cases hMark <;> decide
      rw [List.countP_append, countP_isFaint_of_blanks hBefore, List.countP_cons_of_neg hFaint,
        List.countP_append, countP_isFaint_of_blanks hAfter, Nat.zero_add, Nat.zero_add]

theorem TailAt.countP_isFaint {tail : List (Combinator × Compound)} {s : List Char}
    (h : TailAt tail s) :
    s.countP isFaint =
      (tail.flatMap fun part => part.2.flatMap Simple.characters).countP isFaint := by
  induction h with
  | nil hBlanks => rw [countP_isFaint_of_blanks hBlanks, List.flatMap_nil, List.countP_nil]
  | cons hCombinator hCompound _ ih =>
      rw [hCombinator.countP_isFaint, hCompound.2.countP_isFaint, ih, List.flatMap_cons,
        List.countP_append]

/-- A selector holds all the white space of its text that is not a blank. -/
theorem Written.countP_isFaint {selector : Selector} {s : List Char} (h : Written selector s) :
    s.countP isFaint = selector.characters.countP isFaint := by
  cases h with
  | empty hBlanks => exact countP_isFaint_of_blanks hBlanks
  | compounds hBlanks hFirst hRest =>
      rw [List.countP_append, countP_isFaint_of_blanks hBlanks, hFirst.2.countP_isFaint,
        hRest.countP_isFaint, characters, List.countP_append, Nat.zero_add]

/-- A text as a group of one selector, which must ask for something. -/
def lone? (text : String) : Option (List Selector) :=
  match read? text with
  | some selector => if selector.isEmpty then none else some [selector]
  | none => none

instance : DecidablePred Blanks := fun s =>
  inferInstanceAs (Decidable (∀ c ∈ s, Ascii.isBlank c = true))

/-- A text from which only blanks are trimmed is the same selector before and after. -/
theorem read?_trim {s : List Char} (h : Blanks (Blank.leading s ++ Blank.trailing s)) :
    read? (String.ofList (Blank.trim s)) = read? (String.ofList s) := by
  obtain ⟨hLeading, hTrailing⟩ := List.forall_mem_append.mp h
  have hAll : readOn (.first []) (Blank.leading s ++ Blank.trim s ++ Blank.trailing s) =
      readOn (.first []) (Blank.trim s) := by
    rw [readOn_append_blanks hTrailing, readOn_blanks_append hLeading]
  rw [Blank.append_trim_append] at hAll
  simpa [read?, readOn] using hAll.symm

/-- Where more than blanks is trimmed, a text and what is left of it are not the same selector. -/
theorem blanks_of_read?_trim {s : List Char} {selector : Selector}
    (h : read? (String.ofList s) = some selector)
    (hTrim : read? (String.ofList (Blank.trim s)) = some selector) :
    Blanks (Blank.leading s ++ Blank.trailing s) := by
  have hWritten := (explained selector (String.ofList s).toList).start h
  have hShorter := (explained selector (String.ofList (Blank.trim s)).toList).start hTrim
  have hCount := hWritten.countP_isFaint.trans hShorter.countP_isFaint.symm
  rw [String.toList_ofList, String.toList_ofList] at hCount
  have hParts := congrArg (List.countP isFaint) (Blank.append_trim_append s)
  rw [List.countP_append, List.countP_append] at hParts
  have hNone : (Blank.leading s ++ Blank.trailing s).countP isFaint = 0 := by
    rw [List.countP_append]
    omega
  intro c hc
  have hFaint := List.countP_eq_zero.mp hNone c hc
  rw [isFaint, Blank.isWide_of_mem_margins hc] at hFaint
  simpa using hFaint

theorem lone?_eq_some_iff {text : String} {group : List Selector} :
    lone? text = some group ↔
      ∃ selector, read? text = some selector ∧ selector.isEmpty = false ∧ group = [selector] := by
  unfold lone?
  cases read? text with
  | none => simp
  | some selector =>
      simp only [Option.ite_none_left_eq_some, Bool.not_eq_true, Option.some_inj]
      constructor
      · rintro ⟨hAsks, rfl⟩
        exact ⟨selector, rfl, hAsks, rfl⟩
      · rintro ⟨other, rfl, hAsks, rfl⟩
        exact ⟨hAsks, rfl⟩

/-- Without a comma a group is one selector, read from the trimmed text. -/
theorem readGroup?_eq_lone?_trim {text : String} (hComma : ',' ∉ text.toList) :
    readGroup? text = lone? (String.ofList (Blank.trim text.toList)) := by
  have hEntries : entries text = [text] :=
    entries_eq_singleton_iff.mpr (Search.exists_run_of_no_comma hComma {})
  rw [readGroup?, hEntries, List.mapM_cons, List.mapM_nil, readEntry?, lone?]
  cases read? (String.ofList (Blank.trim text.toList)) with
  | none => rfl
  | some selector => cases hEmpty : selector.isEmpty <;> simp [Option.filter_some, hEmpty]

/-- A text without a comma is read as a group by what is left of it when the white space at its ends is
trimmed. That is the group of the one selector that the text is, or none if it is none or asks for
nothing, exactly when only blanks are trimmed or neither reading gives a selector. -/
theorem readGroup?_of_no_comma {text : String} (hComma : ',' ∉ text.toList) :
    readGroup? text = lone? (String.ofList (Blank.trim text.toList)) ∧
      (readGroup? text = lone? text ↔
        Blanks (Blank.leading text.toList ++ Blank.trailing text.toList) ∨
          lone? text = none ∧ readGroup? text = none) := by
  have hTrim := readGroup?_eq_lone?_trim hComma
  refine ⟨hTrim, fun hSame => ?_, ?_⟩
  · cases hLone : lone? text with
    | none => exact .inr ⟨rfl, hSame.trans hLone⟩
    | some group =>
        obtain ⟨selector, hRead, -, rfl⟩ := lone?_eq_some_iff.mp hLone
        obtain ⟨shorter, hShorter, -, hEq⟩ :=
          lone?_eq_some_iff.mp (hTrim.symm.trans (hSame.trans hLone))
        cases hEq
        rw [← String.ofList_toList (s := text)] at hRead
        exact .inl (blanks_of_read?_trim hRead hShorter)
  · rintro (hBlanks | ⟨hLone, hGroup⟩)
    · have hRead := read?_trim hBlanks
      rw [String.ofList_toList] at hRead
      rw [hTrim, lone?, hRead, lone?]
    · rw [hGroup, hLone]

/-- A no-break space belongs to the name of a class, and is trimmed all the same. -/
theorem readGroup?_noBreakSpace :
    ',' ∉ ".a\u00a0".toList ∧ read? ".a\u00a0" = some { first := [.cls "a\u00a0"] } ∧
      readGroup? ".a\u00a0" = some [{ first := [.cls "a"] }] := by
  decide +kernel

/-- Blanks of several kinds around a selector and in it. -/
theorem readGroup?_amongBlanks :
    ',' ∉ "\t.a\n> b ".toList ∧ readGroup? "\t.a\n> b " = lone? "\t.a\n> b " ∧
      lone? "\t.a\n> b " = some [{ first := [.cls "a"], rest := [(.child, [.tag "b"])] }] := by
  have hComma : ',' ∉ "\t.a\n> b ".toList := by decide +kernel
  have hBlanks : Blanks (Blank.leading "\t.a\n> b ".toList ++ Blank.trailing "\t.a\n> b ".toList) :=
    List.all_eq_true.mp (by decide +kernel)
  exact ⟨hComma, (readGroup?_of_no_comma hComma).2.mpr (.inl hBlanks), by decide +kernel⟩

end ClassScript.Selector
