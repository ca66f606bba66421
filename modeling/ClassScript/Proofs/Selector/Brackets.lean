import ClassScript.Proofs.Selector.Reading

/-!
Where a selector that is understood stands in brackets. One character after the other tells, because
brackets hold no brackets and a quote opens a quoted value only where a value begins. Outside brackets
there are no quotes and no commas.
-/

namespace ClassScript.Selector

instance : DecidablePred IsQuote := fun c => inferInstanceAs (Decidable (c = '\x22' ∨ c = '\x27'))

/-- The characters outside brackets, but for the opening bracket. -/
def isOuterChar (c : Char) : Bool :=
  Ascii.isBlank c || isNameChar c ||
    c = '*' || c = '.' || c = '#' || c = '>' || c = '+' || c = '~'

/-- The characters between the opening bracket and the last one of the sign of a comparison. -/
def isInnerChar (c : Char) : Bool :=
  Ascii.isBlank c || isNameChar c || c = '~' || c = '|' || c = '^' || c = '$' || c = '*'

/-- What is open at a place in a text that is understood. -/
inductive Place where
  | outside
  /-- In brackets, before the sign of a comparison has ended. -/
  | opened
  /-- Behind the sign of a comparison and before the value. -/
  | compared
  | quoted (quote : Char)
  /-- Behind the first character of a value without quotes, or behind the quote that ends one. -/
  | valued
deriving DecidableEq

namespace Place

/-- Behind one more character, if it may stand here. `bare` are those that values without quotes may
hold. -/
def step? (bare : Char → Bool) : Place → Char → Option Place
  | outside, c => if c = '[' then some opened else if isOuterChar c then some outside else none
  | opened, c =>
      if c = ']' then some outside
      else if c = '=' then some compared
      else if isInnerChar c then some opened
      else none
  | compared, c =>
      if c = ']' then some outside
      else if Ascii.isBlank c then some compared
      else if IsQuote c then some (quoted c)
      else if bare c then some valued
      else none
  | quoted quote, c => some (if c = quote then valued else quoted quote)
  | valued, c =>
      if c = ']' then some outside else if Ascii.isBlank c ∨ bare c then some valued else none

/-- Behind a whole text, if it may stand here. -/
def run (bare : Char → Bool) (place : Place) (s : List Char) : Option Place :=
  s.foldlM (step? bare) place

variable {bare : Char → Bool}

/-- A text is gone through part by part. -/
theorem run_append (bare : Char → Bool) (place : Place) (s t : List Char) :
    run bare place (s ++ t) = (run bare place s).bind fun behind => run bare behind t :=
  List.foldlM_append

theorem run_cons (bare : Char → Bool) (place : Place) (c : Char) (s : List Char) :
    run bare place (c :: s) = (step? bare place c).bind fun next => run bare next s :=
  List.foldlM_cons

theorem run_cons_of_step {place next : Place} {c : Char} (h : step? bare place c = some next)
    (s : List Char) : run bare place (c :: s) = run bare next s := by
  rw [run_cons, h, Option.bind_some]

/-- Characters that open and close nothing are passed over. -/
theorem run_stay {place : Place} {s : List Char} (h : ∀ c ∈ s, step? bare place c = some place)
    (rest : List Char) : run bare place (s ++ rest) = run bare place rest := by
  induction s with
  | nil => rfl
  | cons c s ih =>
      obtain ⟨hStep, hRest⟩ := List.forall_mem_cons.mp h
      rw [List.cons_append, run_cons_of_step hStep, ih hRest]

/-- Outside of brackets, names and marks lead nowhere else. -/
theorem step?_outside {c : Char} (h : isOuterChar c = true) :
    step? bare outside c = some outside := by
  have hOpen : c ≠ '[' := ne_of_apply_ne isOuterChar (by rw [h]; decide)
  rw [step?, if_neg hOpen, if_pos h]

/-- In brackets, names and signs lead nowhere else. -/
theorem step?_opened {c : Char} (h : isInnerChar c = true) : step? bare opened c = some opened := by
  have hClose : c ≠ ']' := ne_of_apply_ne isInnerChar (by rw [h]; decide)
  have hSign : c ≠ '=' := ne_of_apply_ne isInnerChar (by rw [h]; decide)
  rw [step?, if_neg hClose, if_neg hSign, if_pos h]

def inBrackets : Place → Bool
  | outside | quoted _ => false
  | opened | compared | valued => true

/-- A blank in brackets leads nowhere else. -/
theorem step?_of_isBlank {place : Place} (hPlace : place.inBrackets = true) {c : Char}
    (h : Ascii.isBlank c = true) : step? bare place c = some place := by
  have hClose : c ≠ ']' := ne_of_apply_ne Ascii.isBlank (by rw [h]; decide)
  cases place with
  | outside | quoted => cases hPlace
  | opened => exact step?_opened (by simp [isInnerChar, h])
  | compared => rw [step?, if_neg hClose, if_pos h]
  | valued => rw [step?, if_neg hClose, if_pos (.inl h)]

/-- A closing bracket leads outside from anywhere in brackets. -/
theorem step?_close {place : Place} (hPlace : place.inBrackets = true) :
    step? bare place ']' = some outside := by
  cases place with
  | outside | quoted => cases hPlace
  | opened | compared | valued => rfl

/-- A closing bracket leads outside, also behind blanks. -/
theorem run_close {place : Place} (hPlace : place.inBrackets = true) {after : List Char}
    (hAfter : Blanks after) (rest : List Char) :
    run bare place (after ++ ']' :: rest) = run bare outside rest := by
  rw [run_stay fun c hc => step?_of_isBlank hPlace (hAfter c hc), run_cons_of_step (step?_close hPlace)]

end Place

open Place

variable {bare : Char → Bool}

/-- A name outside of brackets stays outside. -/
theorem NameBefore.run_outside {name rest : List Char} (h : NameBefore name rest) :
    run bare outside (name ++ rest) = run bare outside rest := by
  refine run_stay (fun c hc => step?_outside ?_) rest
  simp [isOuterChar, h.2.all c hc]

/-- From the opening bracket on to what follows the name. -/
theorem NameBefore.run_bracket {before name after rest : List Char} (hBefore : Blanks before)
    (h : NameBefore name (after ++ rest)) (hAfter : Blanks after) :
    run bare outside ('[' :: (before ++ (name ++ (after ++ rest)))) = run bare opened rest := by
  have hBlank : ∀ c, Ascii.isBlank c = true → step? bare opened c = some opened :=
    fun c hc => step?_opened (by simp [isInnerChar, hc])
  have hName : ∀ c ∈ name, step? bare opened c = some opened :=
    fun c hc => step?_opened (by simp [isInnerChar, h.2.all c hc])
  have hOpen : step? bare outside '[' = some opened := rfl
  rw [run_cons_of_step hOpen, run_stay fun c hc => hBlank c (hBefore c hc), run_stay hName,
    run_stay fun c hc => hBlank c (hAfter c hc)]

/-- Behind its sign a comparison waits for a value. -/
theorem Comparison.run_sign (comparison : Comparison) (rest : List Char) :
    run bare opened (comparison.sign.toList ++ rest) = run bare compared rest := by
  cases comparison <;> rfl

/-- A value without quotes begins with its first character. -/
theorem step?_compared {c : Char} (h : isBareChar c = true) (hQuote : ¬ IsQuote c)
    (hBare : bare c = true) : step? bare compared c = some valued := by
  simp only [isBareChar, Bool.and_eq_true, Bool.not_eq_true', decide_eq_true_eq] at h
  rw [step?, if_neg h.2, if_neg (by simp [h.1]), if_neg hQuote, if_pos hBare]

/-- A value without quotes goes on to a blank or a bracket. -/
theorem step?_valued {c : Char} (h : isBareChar c = true) (hBare : bare c = true) :
    step? bare valued c = some valued := by
  simp only [isBareChar, Bool.and_eq_true, decide_eq_true_eq] at h
  rw [step?, if_neg h.2, if_pos (.inr hBare)]

/-- From the beginning of a value on to what follows the bracket behind it, if a value without quotes
holds only characters that it may hold. -/
theorem ValueAt.run_compared {value : String} {s after rest : List Char}
    (h : ValueAt value s (after ++ ']' :: rest)) (hAfter : Blanks after)
    (hBare : ∀ text, MaximalRun isBareChar text (after ++ ']' :: rest) →
      (∀ c, text.head? = some c → ¬ IsQuote c) → s = text ++ (after ++ ']' :: rest) →
        ∀ c ∈ text, bare c = true) :
    run bare compared s = run bare outside rest := by
  have hCompared : run bare compared (after ++ ']' :: rest) = run bare outside rest :=
    run_close rfl hAfter rest
  have hValued : run bare valued (after ++ ']' :: rest) = run bare outside rest :=
    run_close rfl hAfter rest
  generalize after ++ ']' :: rest = left at *
  cases h with
  | @quoted quote text left hQuote hText =>
      have hOpen : step? bare compared quote = some (.quoted quote) := by
        rcases hQuote with rfl | rfl <;> rfl
      have hStay : ∀ c ∈ text, step? bare (.quoted quote) c = some (.quoted quote) := by
        intro c hc
        have hNe : c ≠ quote := fun hEq => hText (hEq ▸ hc)
        rw [step?, if_neg hNe]
      have hClose : step? bare (.quoted quote) quote = some valued := by rw [step?, if_pos rfl]
      rw [run_cons_of_step hOpen, run_stay hStay, run_cons_of_step hClose, hValued]
  | @bare text left hText hQuote =>
      have hAll := hBare text hText hQuote rfl
      cases text with
      | nil => exact hCompared
      | cons c text =>
          obtain ⟨hc, hRest⟩ := List.forall_mem_cons.mp hText.all
          obtain ⟨hBareHead, hBareRest⟩ := List.forall_mem_cons.mp hAll
          rw [List.cons_append, run_cons_of_step (step?_compared hc (hQuote c rfl) hBareHead),
            run_stay fun d hd => step?_valued (hRest d hd) (hBareRest d hd), hValued]

/-- A value without quotes somewhere in a text. Up to its brackets the text is understood. -/
inductive BareValue : List Char → List Char → Prop where
  | here {before name between behind text rest : List Char} {comparison : Comparison}
      (hBefore : Blanks before)
      (hName : NameBefore name (between ++ (comparison.sign.toList ++ (behind ++ (text ++ rest)))))
      (hBetween : Blanks between) (hBehind : Blanks behind)
      (hText : MaximalRun isBareChar text rest) (hQuote : ∀ c, text.head? = some c → ¬ IsQuote c) :
      BareValue text ('[' ::
        (before ++ (name ++ (between ++ (comparison.sign.toList ++ (behind ++ (text ++ rest)))))))
  | later {token : Token} {text s rest : List Char} (hToken : token.At s rest)
      (hText : BareValue text rest) : BareValue text s

/-- A condition leaves nothing open. -/
theorem SimpleAt.run_outside {simple : Simple} {s rest : List Char} (h : SimpleAt simple s rest)
    (hBare : ∀ text, BareValue text s → ∀ c ∈ text, bare c = true) :
    run bare outside s = run bare outside rest := by
  cases h with
  | universal => rfl
  | tag hName => exact hName.run_outside
  | cls hName => exact (run_cons_of_step (step?_outside (by decide)) _).trans hName.run_outside
  | id hName => exact (run_cons_of_step (step?_outside (by decide)) _).trans hName.run_outside
  | «attribute» hBefore hName hAfter =>
      rw [hName.run_bracket hBefore hAfter]
      rfl
  | attributeValue hBefore hName hBetween hBehind hValue hAfter =>
      have hBlank : ∀ c, Ascii.isBlank c = true → step? bare compared c = some compared :=
        fun c => step?_of_isBlank rfl
      rw [hName.run_bracket hBefore hBetween, Comparison.run_sign,
        run_stay fun c hc => hBlank c (hBehind c hc)]
      refine hValue.run_compared hAfter fun text hText hQuote hSplit => ?_
      subst hSplit
      exact hBare text (.here hBefore hName hBetween hBehind hText hQuote)

/-- Blanks outside of brackets stay outside. -/
theorem Blanks.run_outside {blanks : List Char} (h : Blanks blanks) (rest : List Char) :
    run bare outside (blanks ++ rest) = run bare outside rest :=
  run_stay (fun c hc => step?_outside (by simp [isOuterChar, h c hc])) rest

/-- A token that is understood begins and ends outside of brackets. -/
theorem Token.At.run_outside {token : Token} {s rest : List Char} (h : token.At s rest)
    (hBare : ∀ text, BareValue text s → ∀ c ∈ text, bare c = true) :
    run bare outside s = run bare outside rest := by
  cases h with
  | simple hSimple => exact hSimple.run_outside hBare
  | @combinator combinator mark rest hMark =>
      refine run_cons_of_step (step?_outside ?_) rest
      cases combinator <;> cases hMark <;> decide
  | blank hBlanks hNe hRest => exact hBlanks.run_outside rest

/-- A text that is read to its end leaves nothing open. The induction is on the length of the text,
since reading goes on behind a token. -/
theorem run_outside_of_readOn {progress : Progress} {s : List Char} {selector : Selector}
    (h : readOn progress s = some selector)
    (hBare : ∀ text, BareValue text s → ∀ c ∈ text, bare c = true) :
    run bare outside s = some outside := by
  induction hLength : s.length using Nat.strong_induction_on generalizing s progress with
  | h n ih =>
      cases hNext : next? s with
      | none =>
          have hBlanks : run bare outside (s ++ []) = run bare outside [] :=
            (next?_eq_none_iff.mp hNext).run_outside []
          rwa [List.append_nil] at hBlanks
      | some pair =>
          obtain ⟨token, rest⟩ := pair
          obtain ⟨hToken, hShorter, next, -, hRest⟩ := exists_step_of_readOn hNext h
          rw [hToken.run_outside hBare]
          exact ih rest.length (hLength ▸ hShorter) hRest
            (fun text hText => hBare text (.later hToken hText)) rfl

end ClassScript.Selector
