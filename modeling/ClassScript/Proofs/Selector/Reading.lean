import ClassScript.Proofs.Selector.Tokens

/-!
Reading accepts the texts of the grammar and no others, and builds the selector that the grammar
gives them. The grammar of what is left of a text depends on three states of reading only: before
anything was read, in a compound that is not empty, and directly behind a combinator.
-/

namespace ClassScript.Selector

namespace Progress

def current : Progress → Compound
  | first current => current
  | later _ _ _ current => current

def push : Progress → Compound → Progress
  | first current, more => first (current ++ more)
  | later leftmost rest combinator current, more => later leftmost rest combinator (current ++ more)

def after : Progress → Combinator → Progress
  | first current, combinator => later current [] combinator []
  | later leftmost rest before current, combinator =>
      later leftmost (rest ++ [(before, current)]) combinator []

/-- The selector that was read, if `tail` is all that follows the compound that is being read. -/
def complete : Progress → List (Combinator × Compound) → Selector
  | first current, tail => { first := current, rest := tail }
  | later leftmost rest combinator current, tail =>
      { first := leftmost, rest := rest ++ (combinator, current) :: tail }

variable (progress : Progress)

theorem push_nil : progress.push [] = progress := by
  cases progress <;> simp [push]

theorem push_push (some more : Compound) :
    (progress.push some).push more = progress.push (some ++ more) := by
  cases progress <;> simp [push]

theorem current_push (more : Compound) : (progress.push more).current = progress.current ++ more := by
  cases progress <;> rfl

theorem current_after (combinator : Combinator) : (progress.after combinator).current = [] := by
  cases progress <;> rfl

theorem complete_after (combinator : Combinator) (compound : Compound)
    (tail : List (Combinator × Compound)) :
    ((progress.after combinator).push compound).complete tail =
      progress.complete ((combinator, compound) :: tail) := by
  cases progress <;> simp [after, push, complete]

theorem step_simple (simple : Simple) :
    progress.step (.simple simple) = some (progress.push [simple]) := by
  cases progress <;> rfl

theorem step_unsupported : progress.step .unsupported = none := by
  cases progress <;> rfl

variable {progress}

theorem step_combinator (h : progress.current ≠ []) (combinator : Combinator) :
    progress.step (.combinator combinator) = some (progress.after combinator) := by
  obtain ⟨simple, simples, hCurrent⟩ := List.exists_cons_of_ne_nil h
  cases progress with
  | first =>
      cases hCurrent
      rfl
  | later leftmost rest before =>
      cases hCurrent
      cases before <;> rfl

theorem step_blank (h : progress.current ≠ []) :
    progress.step .blank = some (progress.after .descendant) := by
  obtain ⟨simple, simples, hCurrent⟩ := List.exists_cons_of_ne_nil h
  cases progress <;> cases hCurrent <;> rfl

theorem finish_eq (h : progress.current ≠ []) : progress.finish = some (progress.complete []) := by
  obtain ⟨simple, simples, hCurrent⟩ := List.exists_cons_of_ne_nil h
  cases progress with
  | first =>
      cases hCurrent
      rfl
  | later leftmost rest before =>
      cases hCurrent
      cases before <;> rfl

variable (progress)

theorem step_after_blank (combinator : Combinator) :
    (progress.after combinator).step .blank = some (progress.after combinator) := by
  cases progress <;> rfl

/-- A combinator takes the place of blanks that were read as one, and of nothing else. -/
theorem step_after_combinator (before combinator : Combinator) :
    (progress.after before).step (.combinator combinator) =
      if before = .descendant then some (progress.after combinator) else none := by
  cases progress <;> cases before <;> rfl

theorem finish_after (combinator : Combinator) :
    (progress.after combinator).finish =
      if combinator = .descendant then some (progress.complete []) else none := by
  cases progress <;> cases combinator <;> simp [after, finish, complete]

end Progress

def readOn (progress : Progress) (s : List Char) : Option Selector :=
  (tokens s).foldlM Progress.step progress >>= Progress.finish

theorem readOn_of_none {s : List Char} (h : next? s = none) (progress : Progress) :
    readOn progress s = progress.finish := by
  have hTokens : tokens s = [] := by
    rw [tokens]
    split
    · rfl
    · next hSome => rw [h] at hSome; cases hSome
  rw [readOn, hTokens]
  rfl

theorem readOn_of_some {s rest : List Char} {token : Token} (h : next? s = some (token, rest))
    (progress : Progress) :
    readOn progress s = progress.step token >>= fun progress => readOn progress rest := by
  have hTokens : tokens s = token :: tokens rest := by
    rw [tokens]
    split
    · next hNone => rw [h] at hNone; cases hNone
    · next hSome => rw [h] at hSome; cases hSome; rfl
  rw [readOn, hTokens, List.foldlM_cons]
  cases progress.step token <;> rfl

/-- Reading goes on behind a token from the state to which the token leads. -/
theorem readOn_eq_of_step {s rest : List Char} {token : Token} {progress next : Progress}
    (hNext : next? s = some (token, rest)) (hStep : progress.step token = some next) :
    readOn progress s = readOn next rest := by
  rw [readOn_of_some hNext, hStep, Option.bind_eq_bind, Option.bind_some]

/-- Conditions in a row are read into one compound. -/
theorem SimplesAt.readOn_push {simples : Compound} {s rest : List Char}
    (h : SimplesAt simples s rest) (progress : Progress) :
    readOn progress s = readOn (progress.push simples) rest := by
  induction h generalizing progress with
  | nil => rw [progress.push_nil]
  | @cons simple simples s middle rest hSimple _ ih =>
      rw [readOn_eq_of_step (next?_simple hSimple) (progress.step_simple simple), ih,
        progress.push_push]
      rfl

theorem CompoundAt.startsUnblank {compound : Compound} {s rest : List Char}
    (h : CompoundAt compound s rest) : StartsUnblank s := by
  obtain ⟨hNe, hSimples⟩ := h
  cases hSimples with
  | nil => exact absurd rfl hNe
  | cons hSimple _ => exact hSimple.startsUnblank

/-- Blanks are read once and change nothing directly behind a combinator. -/
theorem readOn_after_blanks {blanks rest : List Char} (hBlanks : Blanks blanks)
    (hRest : StartsUnblank rest) (progress : Progress) (combinator : Combinator) :
    readOn (progress.after combinator) (blanks ++ rest) =
      readOn (progress.after combinator) rest := by
  cases blanks with
  | nil => rfl
  | cons c blanks =>
      exact readOn_eq_of_step (next?_blanks hBlanks (List.cons_ne_nil c blanks) hRest)
        (progress.step_after_blank combinator)

theorem readOn_mark {combinator : Combinator} {mark : Char} (hMark : combinator.mark? = some mark)
    {progress next : Progress} (hStep : progress.step (.combinator combinator) = some next)
    (rest : List Char) : readOn progress (mark :: rest) = readOn next rest := by
  have hAt : Token.At (.combinator combinator) (mark :: rest) rest := .combinator hMark
  exact readOn_eq_of_step ((next?_eq_some_iff (by simp)).mpr hAt) hStep

/-- A combinator is read with the blanks around it. -/
theorem CombinatorAt.readOn_after {combinator : Combinator} {s middle : List Char}
    (h : CombinatorAt combinator s middle) (hMiddle : StartsUnblank middle) {progress : Progress}
    (hCurrent : progress.current ≠ []) :
    readOn progress s = readOn (progress.after combinator) middle := by
  cases h with
  | blanks hBlanks hNe =>
      exact readOn_eq_of_step (next?_blanks hBlanks hNe hMiddle) (Progress.step_blank hCurrent)
  | @marked combinator mark before after middle hMark hBefore hAfter =>
      rw [← readOn_after_blanks hAfter hMiddle]
      cases before with
      | nil => exact readOn_mark hMark (Progress.step_combinator hCurrent combinator) _
      | cons c before =>
          have hUnblank : StartsUnblank (mark :: (after ++ middle)) :=
            ⟨mark, after ++ middle, rfl, Combinator.isBlank_of_mark? hMark⟩
          have hStep := progress.step_after_combinator .descendant combinator
          rw [readOn_eq_of_step (next?_blanks hBefore (List.cons_ne_nil c before) hUnblank)
            (Progress.step_blank hCurrent)]
          exact readOn_mark hMark hStep _

/-- All that follows a compound is read, up to the end of the text. -/
theorem TailAt.readOn_eq {tail : List (Combinator × Compound)} {s : List Char} (h : TailAt tail s)
    {progress : Progress} (hCurrent : progress.current ≠ []) :
    readOn progress s = some (progress.complete tail) := by
  induction h generalizing progress with
  | nil hBlanks => rw [readOn_of_none (next?_eq_none_iff.mpr hBlanks), Progress.finish_eq hCurrent]
  | @cons combinator compound tail s middle rest hCombinator hCompound _ ih =>
      have hNext : ((progress.after combinator).push compound).current ≠ [] := by
        rw [Progress.current_push, Progress.current_after]
        exact hCompound.1
      rw [hCombinator.readOn_after hCompound.startsUnblank hCurrent, hCompound.2.readOn_push,
        ih hNext, Progress.complete_after]

/-- A text that the grammar has is read as it says. -/
theorem Written.readOn_eq {selector : Selector} {s : List Char} (h : Written selector s) :
    readOn (.first []) s = some selector := by
  cases h with
  | empty hBlanks =>
      rw [readOn_of_none (next?_eq_none_iff.mpr hBlanks)]
      rfl
  | @compounds first rest blanks s tail hBlanks hFirst hRest =>
      have hSkip : readOn (.first []) (blanks ++ s) = readOn (.first []) s := by
        cases blanks with
        | nil => rfl
        | cons c blanks =>
            exact readOn_eq_of_step
              (next?_blanks hBlanks (List.cons_ne_nil c blanks) hFirst.startsUnblank) rfl
      rw [hSkip, hFirst.2.readOn_push]
      exact hRest.readOn_eq hFirst.1

/-- The characters that can stand alone for a combinator. -/
def Combinator.Leads (combinator : Combinator) (lead : Char) : Prop :=
  match combinator.mark? with
  | some mark => lead = mark
  | none => Ascii.isBlank lead = true

theorem Combinator.Leads.combinatorAt {combinator : Combinator} {lead : Char}
    (h : combinator.Leads lead) (rest : List Char) :
    CombinatorAt combinator (lead :: rest) rest := by
  have hNone : Blanks [] := fun c hc => nomatch hc
  cases combinator with
  | descendant =>
      exact @CombinatorAt.blanks [lead] rest (List.forall_mem_singleton.mpr h)
        (List.cons_ne_nil lead [])
  | child | adjacentSibling | generalSibling =>
      cases h
      exact @CombinatorAt.marked _ _ [] [] rest rfl hNone hNone

theorem Combinator.leads_mark {combinator : Combinator} {mark : Char}
    (h : combinator.mark? = some mark) : combinator.Leads mark := by
  rw [Leads, h]

theorem Blanks.cons {c : Char} {blanks : List Char} (hc : Ascii.isBlank c = true)
    (h : Blanks blanks) : Blanks (c :: blanks) :=
  List.forall_mem_cons.mpr ⟨hc, h⟩

theorem Blanks.append {blanks more : List Char} (h : Blanks blanks) (hMore : Blanks more) :
    Blanks (blanks ++ more) :=
  List.forall_mem_append.mpr ⟨h, hMore⟩

/-- A blank in front of a combinator belongs to it. -/
theorem CombinatorAt.cons_blank {combinator : Combinator} {c : Char} {s rest : List Char}
    (h : CombinatorAt combinator s rest) (hc : Ascii.isBlank c = true) :
    CombinatorAt combinator (c :: s) rest := by
  cases h with
  | @blanks blanks rest hBlanks hNe =>
      exact @CombinatorAt.blanks (c :: blanks) rest (hBlanks.cons hc) (List.cons_ne_nil c blanks)
  | @marked combinator mark before after rest hMark hBefore hAfter =>
      exact @CombinatorAt.marked _ _ (c :: before) after rest hMark (hBefore.cons hc) hAfter

/-- Blanks directly behind the first character of a combinator are part of it. -/
theorem CombinatorAt.insert_blanks {combinator : Combinator} {lead : Char}
    {blanks s rest : List Char} (h : CombinatorAt combinator (lead :: s) rest)
    (hBlanks : Blanks blanks) : CombinatorAt combinator (lead :: (blanks ++ s)) rest := by
  generalize hText : lead :: s = text at h
  cases h with
  | @blanks own rest hOwn hNe =>
      obtain ⟨c, more, rfl⟩ := List.exists_cons_of_ne_nil hNe
      obtain ⟨rfl, rfl⟩ := List.cons.inj hText
      obtain ⟨hLead, hMore⟩ := List.forall_mem_cons.mp hOwn
      have hAll : CombinatorAt .descendant (lead :: (blanks ++ more) ++ rest) rest :=
        .blanks ((hBlanks.append hMore).cons hLead) (List.cons_ne_nil lead _)
      simpa using hAll
  | @marked combinator mark before after rest hMark hBefore hAfter =>
      cases before with
      | nil =>
          obtain ⟨rfl, rfl⟩ := List.cons.inj hText
          rw [← List.append_assoc]
          exact @CombinatorAt.marked _ _ [] (blanks ++ after) rest hMark hBefore
            (hBlanks.append hAfter)
      | cons c before =>
          obtain ⟨rfl, rfl⟩ := List.cons.inj hText
          obtain ⟨hLead, hMore⟩ := List.forall_mem_cons.mp hBefore
          have hAll : CombinatorAt combinator
              (lead :: (blanks ++ before) ++ mark :: (after ++ rest)) rest :=
            .marked hMark ((hBlanks.append hMore).cons hLead) hAfter
          simpa using hAll

theorem TailAt.cons_blank {tail : List (Combinator × Compound)} {c : Char} {s : List Char}
    (h : TailAt tail s) (hc : Ascii.isBlank c = true) : TailAt tail (c :: s) := by
  cases h with
  | nil hBlanks => exact .nil (hBlanks.cons hc)
  | cons hCombinator hCompound hTail => exact .cons (hCombinator.cons_blank hc) hCompound hTail

/-- Blanks behind the first character of a combinator make no difference. -/
theorem TailAt.insert_blanks {tail : List (Combinator × Compound)} {lead : Char}
    {blanks s : List Char} (h : TailAt tail (lead :: s)) (hBlanks : Blanks blanks) :
    TailAt tail (lead :: (blanks ++ s)) := by
  cases h with
  | nil hText =>
      obtain ⟨hLead, hRest⟩ := List.forall_mem_cons.mp hText
      exact .nil ((hBlanks.append hRest).cons hLead)
  | cons hCombinator hCompound hTail => exact .cons (hCombinator.insert_blanks hBlanks) hCompound hTail

/-- What the grammar says of a text from which reading on ends in `selector`, for each of the three
states. Directly behind a combinator the grammar still needs a character that can stand for it. -/
structure Explained (selector : Selector) (s : List Char) : Prop where
  inCompound : ∀ progress : Progress, progress.current ≠ [] → readOn progress s = some selector →
    ∃ more rest tail, SimplesAt more s rest ∧ TailAt tail rest ∧
      selector = (progress.push more).complete tail
  behind : ∀ (progress : Progress) (combinator : Combinator) (lead : Char),
    progress.current ≠ [] → combinator.Leads lead →
    readOn (progress.after combinator) s = some selector →
    ∃ tail, TailAt tail (lead :: s) ∧ selector = progress.complete tail
  start : readOn (.first []) s = some selector → Written selector s

/-- A token that is read is understood, and reading goes on behind it. -/
theorem exists_step_of_readOn {progress : Progress} {s rest : List Char} {token : Token}
    {selector : Selector} (hNext : next? s = some (token, rest))
    (h : readOn progress s = some selector) :
    token.At s rest ∧ rest.length < s.length ∧
      ∃ next, progress.step token = some next ∧ readOn next rest = some selector := by
  rw [readOn_of_some hNext, Option.bind_eq_bind, Option.bind_eq_some_iff] at h
  have hToken : token ≠ .unsupported := by
    rintro rfl
    obtain ⟨next, hStep, -⟩ := h
    rw [progress.step_unsupported] at hStep
    cases hStep
  exact ⟨(next?_eq_some_iff hToken).mp hNext, length_lt_of_next? hNext, h⟩

section Shorter

variable {selector : Selector} {s : List Char}
  (ih : ∀ rest : List Char, rest.length < s.length → Explained selector rest)

include ih

/-- Inside a compound, what is read are more conditions and then what the grammar has behind them. -/
theorem explained_inCompound {progress : Progress} (hCurrent : progress.current ≠ [])
    (h : readOn progress s = some selector) :
    ∃ more rest tail, SimplesAt more s rest ∧ TailAt tail rest ∧
      selector = (progress.push more).complete tail := by
  cases hNext : next? s with
  | none =>
      rw [readOn_of_none hNext, Progress.finish_eq hCurrent] at h
      refine ⟨[], s, [], .nil, .nil (next?_eq_none_iff.mp hNext), ?_⟩
      rw [progress.push_nil]
      exact (Option.some.inj h).symm
  | some pair =>
      obtain ⟨token, rest⟩ := pair
      obtain ⟨hAt, hLt, next, hStep, hRest⟩ := exists_step_of_readOn hNext h
      cases hAt with
      | @simple simple s rest hSimple =>
          rw [progress.step_simple] at hStep
          cases hStep
          have hPushed : (progress.push [simple]).current ≠ [] := by
            rw [progress.current_push]
            simp
          obtain ⟨more, left, tail, hMore, hTail, hSelector⟩ :=
            (ih rest hLt).inCompound _ hPushed hRest
          refine ⟨simple :: more, left, tail, .cons hSimple hMore, hTail, ?_⟩
          rw [hSelector, progress.push_push]
          rfl
      | @combinator combinator mark rest hMark =>
          rw [Progress.step_combinator hCurrent] at hStep
          cases hStep
          obtain ⟨tail, hTail, hSelector⟩ :=
            (ih rest hLt).behind progress combinator mark hCurrent (Combinator.leads_mark hMark) hRest
          refine ⟨[], _, tail, .nil, hTail, ?_⟩
          rw [progress.push_nil]
          exact hSelector
      | @blank blanks rest hBlanks hNe _ =>
          rw [Progress.step_blank hCurrent] at hStep
          cases hStep
          obtain ⟨c, more, rfl⟩ := List.exists_cons_of_ne_nil hNe
          obtain ⟨hc, hMore⟩ := List.forall_mem_cons.mp hBlanks
          obtain ⟨tail, hTail, hSelector⟩ := (ih rest hLt).behind progress .descendant c hCurrent hc hRest
          refine ⟨[], _, tail, .nil, hTail.insert_blanks hMore, ?_⟩
          rw [progress.push_nil]
          exact hSelector

/-- Behind a combinator, what is read is another compound. -/
theorem explained_behind {progress : Progress} {combinator : Combinator} {lead : Char}
    (hCurrent : progress.current ≠ []) (hLead : combinator.Leads lead)
    (h : readOn (progress.after combinator) s = some selector) :
    ∃ tail, TailAt tail (lead :: s) ∧ selector = progress.complete tail := by
  cases hNext : next? s with
  | none =>
      rw [readOn_of_none hNext, progress.finish_after] at h
      split at h
      · next hDescendant =>
          subst hDescendant
          exact ⟨[], .nil ((next?_eq_none_iff.mp hNext).cons hLead), (Option.some.inj h).symm⟩
      · cases h
  | some pair =>
      obtain ⟨token, rest⟩ := pair
      obtain ⟨hAt, hLt, next, hStep, hRest⟩ := exists_step_of_readOn hNext h
      cases hAt with
      | @simple simple s rest hSimple =>
          rw [Progress.step_simple] at hStep
          cases hStep
          have hPushed : ((progress.after combinator).push [simple]).current ≠ [] := by
            rw [Progress.current_push]
            simp
          obtain ⟨more, left, tail, hMore, hTail, hSelector⟩ :=
            (ih rest hLt).inCompound _ hPushed hRest
          have hCompound : CompoundAt (simple :: more) s left :=
            ⟨List.cons_ne_nil simple more, .cons hSimple hMore⟩
          refine ⟨(combinator, simple :: more) :: tail,
            .cons (hLead.combinatorAt s) hCompound hTail, ?_⟩
          rw [hSelector, Progress.push_push, List.singleton_append, progress.complete_after]
      | @combinator other mark rest hMark =>
          rw [progress.step_after_combinator] at hStep
          split at hStep
          · next hDescendant =>
              cases hStep
              subst hDescendant
              obtain ⟨tail, hTail, hSelector⟩ :=
                (ih rest hLt).behind progress other mark hCurrent (Combinator.leads_mark hMark) hRest
              exact ⟨tail, hTail.cons_blank hLead, hSelector⟩
          · cases hStep
      | @blank blanks rest hBlanks _ _ =>
          rw [progress.step_after_blank] at hStep
          cases hStep
          obtain ⟨tail, hTail, hSelector⟩ :=
            (ih rest hLt).behind progress combinator lead hCurrent hLead hRest
          exact ⟨tail, hTail.insert_blanks hBlanks, hSelector⟩

/-- A text that is read from its beginning is one that the grammar has. -/
theorem explained_start (h : readOn (.first []) s = some selector) : Written selector s := by
  cases hNext : next? s with
  | none =>
      rw [readOn_of_none hNext] at h
      cases h
      exact .empty (next?_eq_none_iff.mp hNext)
  | some pair =>
      obtain ⟨token, rest⟩ := pair
      obtain ⟨hAt, hLt, next, hStep, hRest⟩ := exists_step_of_readOn hNext h
      cases hAt with
      | @simple simple s rest hSimple =>
          cases hStep
          obtain ⟨more, left, tail, hMore, hTail, rfl⟩ :=
            (ih rest hLt).inCompound (.first [simple]) (List.cons_ne_nil simple []) hRest
          have hFirst : CompoundAt (simple :: more) s left :=
            ⟨List.cons_ne_nil simple more, .cons hSimple hMore⟩
          exact @Written.compounds _ _ [] s left (fun c hc => nomatch hc) hFirst hTail
      | combinator hMark => cases hStep
      | @blank blanks rest hBlanks _ _ =>
          cases hStep
          cases (ih rest hLt).start hRest with
          | empty hMore => exact .empty (hBlanks.append hMore)
          | @compounds first others more s tail hMore hFirst hOthers =>
              rw [← List.append_assoc]
              exact .compounds (hBlanks.append hMore) hFirst hOthers

end Shorter

/-- The induction is on the length of the text, since reading goes on behind a token. -/
theorem explained (selector : Selector) (s : List Char) : Explained selector s := by
  induction hLength : s.length using Nat.strong_induction_on generalizing s with
  | h n ih =>
      have hShorter : ∀ rest : List Char, rest.length < s.length → Explained selector rest :=
        fun rest hLt => ih rest.length (hLength ▸ hLt) rest rfl
      exact ⟨fun _ => explained_inCompound hShorter, fun _ _ _ => explained_behind hShorter,
        explained_start hShorter⟩

/-- A text is read as a selector if and only if the grammar has it as that selector. A text that the
grammar does not have is read as none. -/
theorem read?_eq_some_iff (text : String) (selector : Selector) :
    read? text = some selector ↔ Written selector text.toList :=
  ⟨(explained selector text.toList).start, Written.readOn_eq⟩

end ClassScript.Selector
