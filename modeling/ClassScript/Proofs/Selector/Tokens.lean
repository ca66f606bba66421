import ClassScript.Proofs.Selector.Grammar

/-!
Each token is read exactly where the grammar has it. Simple conditions are one piece of the grammar
and one token, so reading and grammar can be compared without looking at what follows.
-/

namespace ClassScript.Selector

/-- A comparison is read where its sign stands. -/
theorem comparison?_eq_some_iff {s rest : List Char} {comparison : Comparison} :
    comparison? s = some (comparison, rest) ↔ s = comparison.sign.toList ++ rest := by
  constructor
  · intro h
    unfold comparison? at h
    split at h <;> cases h <;> rfl
  · rintro rfl
    cases comparison <;> rfl

/-- A condition is closed by a bracket and by nothing else. -/
theorem close_eq_simple_iff {simple read : Simple} {s rest : List Char} :
    close simple s = (.simple read, rest) ↔ read = simple ∧ s = ']' :: rest := by
  unfold close
  split
  · simp [eq_comm]
  · next hNot => simpa using fun _ hs => hNot rest hs

theorem valueAt_of_quotedValue {quote : Char} (hQuote : IsQuote quote) {s rest : List Char}
    {written : String} (h : quotedValue quote s = (written, rest)) (hRest : rest ≠ []) :
    ValueAt written (quote :: s) rest := by
  cases h
  cases hDrop : s.dropWhile (· ≠ quote) with
  | nil =>
      rw [hDrop] at hRest
      exact absurd rfl hRest
  | cons c tail =>
      have hc : c = quote := by
        have hNot := List.head?_dropWhile_not (· ≠ quote) s
        rw [hDrop] at hNot
        simpa using hNot
      have hSplit : s.takeWhile (· ≠ quote) ++ quote :: tail = s := by
        have hParts := List.takeWhile_append_dropWhile (p := (· ≠ quote)) (l := s)
        rwa [hDrop, hc] at hParts
      have hText : quote ∉ s.takeWhile (· ≠ quote) := fun hMem => by
        simpa using List.mem_takeWhile_imp hMem
      have hValue : ValueAt _ (quote :: (s.takeWhile (· ≠ quote) ++ quote :: tail)) tail :=
        .quoted hQuote hText
      rwa [hSplit] at hValue

/-- What is read as a value is one, unless nothing follows it. Only then can a quote be missing. -/
theorem valueAt_of_value {s rest : List Char} {written : String} (h : value s = (written, rest))
    (hRest : rest ≠ []) : ValueAt written s rest := by
  unfold value at h
  split at h
  · exact valueAt_of_quotedValue (.inl rfl) h hRest
  · exact valueAt_of_quotedValue (.inr rfl) h hRest
  · next hDouble hSingle =>
      cases h
      have hQuote : ∀ c, (s.takeWhile isBareChar).head? = some c → ¬ IsQuote c := by
        intro c hc
        cases s with
        | nil => cases hc
        | cons d tail =>
            have hcd : d = c := by
              rw [List.takeWhile_cons] at hc
              split at hc
              · simpa using hc
              · cases hc
            rintro (rfl | rfl)
            · exact hDouble tail (by rw [hcd])
            · exact hSingle tail (by rw [hcd])
      have hValue := ValueAt.bare (maximalRun_takeWhile isBareChar s) hQuote
      rwa [List.takeWhile_append_dropWhile] at hValue

theorem quotedValue_append {quote : Char} {text rest : List Char} (h : quote ∉ text) :
    quotedValue quote (text ++ quote :: rest) = (String.ofList text, rest) := by
  have hRun : MaximalRun (· ≠ quote) text (quote :: rest) := by
    refine ⟨fun c hc => ?_, fun c hc => ?_⟩
    · simpa using fun hEq : c = quote => h (hEq ▸ hc)
    · cases hc
      simp
  rw [quotedValue, hRun.span.1, hRun.span.2]
  rfl

theorem value_of_not_isQuote {c : Char} (h : ¬ IsQuote c) (tail : List Char) :
    value (c :: tail) =
      (String.ofList ((c :: tail).takeWhile isBareChar), (c :: tail).dropWhile isBareChar) := by
  unfold value
  split
  · next hEq =>
      cases hEq
      exact absurd (.inl rfl) h
  · next hEq =>
      cases hEq
      exact absurd (.inr rfl) h
  · rfl

/-- A written value is read as it is. The blanks behind an empty one may be skipped before it. -/
theorem value_skipBlanks {written : String} {behind s after rest : List Char}
    (h : ValueAt written s (after ++ ']' :: rest)) (hBehind : Blanks behind)
    (hAfter : Blanks after) :
    ∃ left, value (skipBlanks (behind ++ s)) = (written, left) ∧ skipBlanks left = ']' :: rest := by
  have hBracket := (startsUnblank_bracket rest).skip hAfter
  generalize hEnd : after ++ ']' :: rest = left at h hBracket
  cases h with
  | @quoted quote text left hQuote hText =>
      have hUnblank : StartsUnblank (quote :: (text ++ quote :: left)) := by
        rcases hQuote with rfl | rfl <;> exact ⟨_, _, rfl, by decide⟩
      refine ⟨left, ?_, hBracket⟩
      rw [hUnblank.skip hBehind]
      rcases hQuote with rfl | rfl <;> exact quotedValue_append hText
  | @bare text left hText hQuote =>
      cases text with
      | nil =>
          have hBlanks : Blanks (behind ++ after) := fun c hc =>
            (List.mem_append.mp hc).elim (hBehind c) (hAfter c)
          refine ⟨']' :: rest, ?_, rfl⟩
          rw [← hEnd, List.nil_append, ← List.append_assoc,
            (startsUnblank_bracket rest).skip hBlanks]
          rfl
      | cons c tail =>
          have hc : isBareChar c = true := hText.all c List.mem_cons_self
          have hUnblank : StartsUnblank (c :: tail ++ left) := by
            refine ⟨c, tail ++ left, rfl, ?_⟩
            simp only [isBareChar, Bool.and_eq_true, Bool.not_eq_true'] at hc
            exact hc.1
          refine ⟨left, ?_, hBracket⟩
          rw [hUnblank.skip hBehind, List.cons_append, value_of_not_isQuote (hQuote c rfl),
            ← List.cons_append, hText.span.1, hText.span.2]

/-- A name in brackets is read, with blanks around it. -/
theorem bracketed_attribute {before written after rest : List Char} (hBefore : Blanks before)
    (hName : NameBefore written (after ++ ']' :: rest)) (hAfter : Blanks after) :
    bracketed (before ++ (written ++ (after ++ ']' :: rest))) =
      (.simple (.attribute (Ascii.lower (String.ofList written))), rest) := by
  have hSign : comparison? (']' :: rest) = none := rfl
  rw [bracketed, hName.startsUnblank.skip hBefore, name_append hName]
  simp only [(startsUnblank_bracket rest).skip hAfter, hName.isEmpty_eq_false.2, hSign]
  rfl

/-- A comparison in brackets is read, with blanks around each of its parts. -/
theorem bracketed_attributeValue {before written between behind after s rest : List Char}
    {comparison : Comparison} {value : String} (hBefore : Blanks before)
    (hName : NameBefore written (between ++ (comparison.sign.toList ++ (behind ++ s))))
    (hBetween : Blanks between) (hBehind : Blanks behind)
    (hValue : ValueAt value s (after ++ ']' :: rest)) (hAfter : Blanks after) :
    bracketed (before ++ (written ++ (between ++ (comparison.sign.toList ++ (behind ++ s))))) =
      (.simple (.attributeValue (Ascii.lower (String.ofList written)) comparison value), rest) := by
  have hSign := comparison?_eq_some_iff.mpr (rfl : comparison.sign.toList ++ (behind ++ s) = _)
  obtain ⟨left, hRead, hLeft⟩ := value_skipBlanks hValue hBehind hAfter
  rw [bracketed, hName.startsUnblank.skip hBefore, name_append hName]
  simp only [(comparison.startsUnblank (behind ++ s)).skip hBetween, hName.isEmpty_eq_false.2, hSign,
    hRead, hLeft]
  rfl

/-- What is read in brackets is what the grammar has there. -/
theorem simpleAt_of_bracketed {s rest : List Char} {simple : Simple}
    (h : bracketed s = (.simple simple, rest)) : SimpleAt simple ('[' :: s) rest := by
  obtain ⟨before, hBefore, hs⟩ := exists_skipBlanks s
  obtain ⟨written, left, hRead, hSplit, hName⟩ := exists_name (skipBlanks s)
  obtain ⟨between, hBetween, hLeft⟩ := exists_skipBlanks left
  rw [bracketed, hRead] at h
  simp only [isEmpty_lower] at h
  split at h
  · cases h
  · next hNotEmpty =>
      have hNe : written ≠ [] := by simpa using hNotEmpty
      have hName := hName hNe
      rw [hs, hSplit]
      split at h
      · obtain ⟨rfl, hClose⟩ := close_eq_simple_iff.mp h
        rw [hLeft, hClose] at hName ⊢
        exact .attribute hBefore hName hBetween
      · next comparison behind hSign =>
          rw [comparison?_eq_some_iff] at hSign
          obtain ⟨blanks, hBlanks, hBehind⟩ := exists_skipBlanks behind
          cases hValue : value (skipBlanks behind) with
          | mk valueWritten valueRest =>
              rw [hValue] at h
              obtain ⟨rfl, hClose⟩ := close_eq_simple_iff.mp h
              obtain ⟨after, hAfter, hRest⟩ := exists_skipBlanks valueRest
              rw [hClose] at hRest
              have hValueAt := valueAt_of_value hValue (by rw [hRest]; simp)
              rw [hRest] at hValueAt
              rw [hLeft, hSign, hBehind] at hName ⊢
              exact .attributeValue hBefore hName hBetween hBlanks hValueAt hAfter

theorem named_append {condition : String → Simple} {written rest : List Char}
    (h : NameBefore written rest) :
    named condition (written ++ rest) = (.simple (condition (String.ofList written)), rest) := by
  rw [named, name_append h]
  simp only [h.isEmpty_eq_false.1]
  rfl

/-- A condition on a name has the name behind its mark. -/
theorem exists_of_named {condition : String → Simple} {s rest : List Char} {simple : Simple}
    (h : named condition s = (.simple simple, rest)) :
    ∃ written, NameBefore written rest ∧ s = written ++ rest ∧
      simple = condition (String.ofList written) := by
  obtain ⟨written, left, hRead, hSplit, hName⟩ := exists_name s
  rw [named, hRead] at h
  simp only [isEmpty_ofList, Prod.mk.injEq] at h
  obtain ⟨hSimple, rfl⟩ := h
  split at hSimple
  · cases hSimple
  · next hNotEmpty =>
      cases hSimple
      exact ⟨written, hName (by simpa using hNotEmpty), hSplit, rfl⟩

/-- The characters that begin a token in a way of their own. -/
def marks : List Char := ['*', '.', '#', '[', '>', '+', '~']

/-- Without a mark there is a name, or one character that means nothing. -/
theorem tokenAt_of_not_mem_marks {c : Char} (h : c ∉ marks) (rest : List Char) :
    tokenAt c rest =
      if isNameChar c then named (fun name => .tag (Ascii.lower name)) (c :: rest)
      else (.unsupported, rest) := by
  unfold tokenAt
  split <;> first | exact absurd (by decide) h | rfl

theorem tokenAt_of_isNameChar {c : Char} (h : isNameChar c = true) (rest : List Char) :
    tokenAt c rest = named (fun name => .tag (Ascii.lower name)) (c :: rest) := by
  have hNot : c ∉ marks := by
    intro hMark
    simp only [marks, List.mem_cons, List.not_mem_nil, or_false] at hMark
    rcases hMark with rfl | rfl | rfl | rfl | rfl | rfl | rfl <;> exact absurd h (by decide)
  rw [tokenAt_of_not_mem_marks hNot, if_pos h]

theorem tokenAt_bracket (s : List Char) : tokenAt '[' s = bracketed s := rfl

/-- A condition that is read is one that the grammar has. -/
theorem simpleAt_of_tokenAt {c : Char} {s rest : List Char} {simple : Simple}
    (h : tokenAt c s = (.simple simple, rest)) : SimpleAt simple (c :: s) rest := by
  by_cases hMark : c ∈ marks
  · simp only [marks, List.mem_cons, List.not_mem_nil, or_false] at hMark
    obtain rfl | rfl | rfl | rfl | hCombinator := hMark
    · cases h
      exact .universal
    · obtain ⟨written, hName, rfl, rfl⟩ := exists_of_named h
      exact .cls hName
    · obtain ⟨written, hName, rfl, rfl⟩ := exists_of_named h
      exact .id hName
    · exact simpleAt_of_bracketed h
    · obtain rfl | rfl | rfl := hCombinator <;> cases h
  · rw [tokenAt_of_not_mem_marks hMark] at h
    split at h
    · obtain ⟨written, hName, hSplit, rfl⟩ := exists_of_named h
      rw [hSplit]
      exact .tag hName
    · cases h

theorem SimpleAt.startsUnblank {simple : Simple} {s rest : List Char} (h : SimpleAt simple s rest) :
    StartsUnblank s := by
  cases h with
  | tag hName => exact hName.startsUnblank
  | _ => exact ⟨_, _, rfl, by decide⟩

/-- Where a token that is understood stands. Blanks are one token as far as they go. -/
inductive Token.At : Token → List Char → List Char → Prop where
  | simple {simple : Simple} {s rest : List Char} (hSimple : SimpleAt simple s rest) :
      At (.simple simple) s rest
  | combinator {combinator : Combinator} {mark : Char} {rest : List Char}
      (hMark : combinator.mark? = some mark) : At (.combinator combinator) (mark :: rest) rest
  | blank {blanks rest : List Char} (hBlanks : Blanks blanks) (hNe : blanks ≠ [])
      (hRest : StartsUnblank rest) : At .blank (blanks ++ rest) rest

theorem close_cases (simple : Simple) (s : List Char) :
    (close simple s).1 = .simple simple ∨ (close simple s).1 = .unsupported := by
  unfold close
  split
  · exact .inl rfl
  · exact .inr rfl

theorem named_cases (condition : String → Simple) (s : List Char) :
    (∃ simple, (named condition s).1 = .simple simple) ∨
      (named condition s).1 = .unsupported := by
  simp only [named]
  split
  · exact .inr rfl
  · exact .inl ⟨_, rfl⟩

theorem bracketed_cases (s : List Char) :
    (∃ simple, (bracketed s).1 = .simple simple) ∨ (bracketed s).1 = .unsupported := by
  simp only [bracketed]
  split
  · exact .inr rfl
  · split
    · exact (close_cases _ _).imp_left fun h => ⟨_, h⟩
    · exact (close_cases _ _).imp_left fun h => ⟨_, h⟩

/-- A character that is no blank begins a condition or is a combinator, where it is understood. -/
theorem tokenAt_cases (c : Char) (s : List Char) :
    (∃ simple, (tokenAt c s).1 = .simple simple) ∨ (tokenAt c s).1 = .unsupported ∨
      ∃ combinator, combinator.mark? = some c ∧ tokenAt c s = (.combinator combinator, s) := by
  unfold tokenAt
  split
  · exact .inl ⟨_, rfl⟩
  · exact (named_cases _ _).imp_right .inl
  · exact (named_cases _ _).imp_right .inl
  · exact (bracketed_cases _).imp_right .inl
  · exact .inr (.inr ⟨.child, rfl, rfl⟩)
  · exact .inr (.inr ⟨.adjacentSibling, rfl, rfl⟩)
  · exact .inr (.inr ⟨.generalSibling, rfl, rfl⟩)
  · split
    · exact (named_cases _ _).imp_right .inl
    · exact .inr (.inl rfl)

theorem at_of_tokenAt {c : Char} {s rest : List Char} {token : Token}
    (h : tokenAt c s = (token, rest)) (hToken : token ≠ .unsupported) : token.At (c :: s) rest := by
  rcases tokenAt_cases c s with ⟨simple, hSimple⟩ | hNone | ⟨combinator, hMark, hRead⟩
  · rw [h] at hSimple
    cases hSimple
    exact .simple (simpleAt_of_tokenAt h)
  · rw [h] at hNone
    exact absurd hNone hToken
  · rw [h] at hRead
    cases hRead
    exact .combinator hMark

theorem next?_of_unblank {c : Char} (h : Ascii.isBlank c = false) (s : List Char) :
    next? (c :: s) = some (tokenAt c s) := by
  rw [next?, if_neg (by simp [h])]

theorem next?_simple {simple : Simple} {s rest : List Char} (h : SimpleAt simple s rest) :
    next? s = some (.simple simple, rest) := by
  obtain ⟨c, tail, rfl, hc⟩ := h.startsUnblank
  rw [next?_of_unblank hc, Option.some_inj]
  generalize hText : c :: tail = text at h
  cases h with
  | universal =>
      cases hText
      rfl
  | @tag written rest hName =>
      obtain ⟨d, more, rfl⟩ := List.exists_cons_of_ne_nil hName.1
      cases hText
      rw [tokenAt_of_isNameChar (hName.2.all c List.mem_cons_self)]
      exact named_append hName
  | cls hName =>
      cases hText
      exact named_append hName
  | id hName =>
      cases hText
      exact named_append hName
  | «attribute» hBefore hName hAfter =>
      cases hText
      rw [tokenAt_bracket]
      exact bracketed_attribute hBefore hName hAfter
  | attributeValue hBefore hName hBetween hBehind hValue hAfter =>
      cases hText
      rw [tokenAt_bracket]
      exact bracketed_attributeValue hBefore hName hBetween hBehind hValue hAfter

theorem next?_blanks {blanks rest : List Char} (hBlanks : Blanks blanks) (hNe : blanks ≠ [])
    (hRest : StartsUnblank rest) : next? (blanks ++ rest) = some (.blank, rest) := by
  obtain ⟨c, more, rfl⟩ := List.exists_cons_of_ne_nil hNe
  have hc : Ascii.isBlank c = true := hBlanks c List.mem_cons_self
  have hSkip := hRest.skip fun d hd => hBlanks d (List.mem_cons_of_mem c hd)
  rw [List.cons_append, next?, if_pos hc, hSkip]
  obtain ⟨d, tail, rfl, -⟩ := hRest
  rfl

theorem startsUnblank_skipBlanks {s : List Char} (h : skipBlanks s ≠ []) :
    StartsUnblank (skipBlanks s) := by
  obtain ⟨c, rest, hSkip⟩ := List.exists_cons_of_ne_nil h
  have hNot := List.head?_dropWhile_not Ascii.isBlank s
  rw [skipBlanks] at hSkip
  rw [hSkip] at hNot
  exact ⟨c, rest, hSkip, hNot⟩

/-- The token that is read is the one that stands there, and it is read whatever comes next. -/
theorem next?_eq_some_iff {token : Token} {s rest : List Char} (hToken : token ≠ .unsupported) :
    next? s = some (token, rest) ↔ token.At s rest := by
  constructor
  · intro h
    cases s with
    | nil => cases h
    | cons c tail =>
        rw [next?] at h
        split at h
        · next hc =>
            split at h
            · cases h
            · next hSkip =>
                cases h
                obtain ⟨blanks, hBlanks, hTail⟩ := exists_skipBlanks tail
                have hText : c :: tail = c :: blanks ++ skipBlanks tail := congrArg (c :: ·) hTail
                rw [hText]
                refine .blank ?_ (List.cons_ne_nil c blanks) (startsUnblank_skipBlanks hSkip)
                exact List.forall_mem_cons.mpr ⟨hc, hBlanks⟩
        · exact at_of_tokenAt (Option.some.inj h) hToken
  · intro h
    cases h with
    | simple hSimple => exact next?_simple hSimple
    | @combinator combinator mark rest hMark =>
        rw [next?_of_unblank (Combinator.isBlank_of_mark? hMark)]
        cases combinator <;> cases hMark <;> rfl
    | blank hBlanks hNe hRest => exact next?_blanks hBlanks hNe hRest

/-- There is no token more exactly where nothing but blanks is left. -/
theorem next?_eq_none_iff {s : List Char} : next? s = none ↔ Blanks s := by
  constructor
  · intro h
    cases s with
    | nil => exact fun c hc => nomatch hc
    | cons c tail =>
        rw [next?] at h
        split at h
        · next hc =>
            split at h
            · next hSkip =>
                obtain ⟨blanks, hBlanks, hTail⟩ := exists_skipBlanks tail
                rw [hTail, hSkip, List.append_nil]
                exact List.forall_mem_cons.mpr ⟨hc, hBlanks⟩
            · cases h
        · cases h
  · intro h
    cases s with
    | nil => rfl
    | cons c tail =>
        obtain ⟨hc, hTail⟩ := List.forall_mem_cons.mp h
        have hSkip : skipBlanks tail = [] := List.dropWhile_eq_nil_iff.mpr hTail
        rw [next?, if_pos hc, hSkip]

end ClassScript.Selector
