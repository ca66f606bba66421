import ClassScript.Proofs.Operation.Classes
import ClassScript.Proofs.Run.Default
import ClassScript.Proofs.Run.Leads
import ClassScript.Proofs.Update.ClassName

/-!
A document does not write updates into itself. The mark of an update holds a doubled dash and the
arguments of an update stand between doubled dashes, so what class names ask for can take classes with
the mark away, all of them at once, but can neither make one nor move one.
-/

namespace ClassScript

variable {σ : Type}

namespace Update

def isMarked (text : String) : Bool := Selector.occursIn mark.toList text.toList

theorem isMarked_iff {text : String} : isMarked text = true ↔ mark.toList <:+: text.toList :=
  Selector.occursIn_iff _ _

theorem isWord_mark : IsWord mark := by
  have hUnbroken : mark.toList.all (!Ascii.isBlank ·) = true := by decide
  refine ⟨by decide, fun c hc => ?_⟩
  simpa using List.all_eq_true.mp hUnbroken c hc

/-- A text without a doubled dash does not hold the mark. -/
theorem isMarked_eq_false {text : String} (h : ¬ ['-', '-'] <:+: text.toList) :
    isMarked text = false := by
  have hDashes : ['-', '-'] <:+: mark.toList := by decide
  rw [← Bool.not_eq_true, isMarked_iff]
  exact fun hMark => h (hDashes.trans hMark)

/-- Only classes with the mark are updates. -/
theorem isMarked_of_ofClass? {className : String} {update : Update}
    (h : ofClass? className = some update) : isMarked className = true :=
  isMarked_iff.mpr (mark_infix_of_ofClass? h)

/-- Arguments stand between doubled dashes. -/
theorem isMarked_of_mem_arguments {className : String} {update : Update}
    (h : ofClass? className = some update) : ∀ argument ∈ update.arguments, isMarked argument = false := by
  intro argument hArgument
  obtain ⟨description, -, hRead⟩ := ofClass?_eq_some_iff.mp h
  cases (ofDescription?_eq_some_iff.mp hRead).2 with
  | operation _ _ hNone | emptyBlock _ hNone =>
      rw [hNone] at hArgument
      cases hArgument
  | block _ _ hSplit =>
      have hPiece : argument.toList ∈ update.arguments.map String.toList :=
        List.mem_map_of_mem hArgument
      rw [← hSplit] at hPiece
      exact isMarked_eq_false (Doubled.not_infix_of_mem_split hPiece)

end Update

namespace ClassList

/-- The classes in which the mark stands anywhere. -/
def marked (classes : ClassList) : List String := classes.tokens.filter Update.isMarked

/-- The mark stands in a text of classes exactly when it stands in one of them. -/
theorem marked_parse_eq_nil_iff {text : String} :
    (parse text).marked = [] ↔ Update.isMarked text = false := by
  have hTokens : ∀ token, token ∈ (parse text).tokens ↔ token ∈ Ascii.words text := by
    intro token
    rw [parse, mem_tokens_addAll_iff]
    exact or_iff_right List.not_mem_nil
  rw [marked, List.filter_eq_nil_iff, ← Bool.not_eq_true, Update.isMarked_iff,
    Ascii.infix_iff_exists_word Update.isWord_mark]
  simp [hTokens, Update.isMarked_iff]

end ClassList

/-- Classes without the mark add no updates. -/
theorem Update.ofClasses_marked (classes : ClassList) :
    ofClasses classes.marked = ofClasses classes.tokens := by
  rw [ofClasses, ofClasses, ClassList.marked, List.filterMap_filter]
  refine List.filterMap_congr fun token _ => ?_
  cases hUpdate : ofClass? token with
  | none => exact ite_self none
  | some update => rw [if_pos (isMarked_of_ofClass? hUpdate)]

/-- The default selector holds of the nodes that have a class with the mark. -/
theorem Document.matchesSelector_defaultSelector (d : Document) (id : NodeId) :
    d.matchesSelector id Target.defaultSelector = .ok true ↔ (d.classList id).marked ≠ [] := by
  have hMatches : d.matchesSelector id Target.defaultSelector =
      .ok (d.selected Target.defaultGroup id) := by
    rw [matchesSelector, readSelector, Target.readGroup?_defaultSelector]
    rfl
  rw [hMatches, Except.ok.injEq, selected_defaultGroup_iff, classList]
  cases hText : d.attribute? id "class" with
  | none => simp [ClassList.marked]
  | some text =>
      simp only
      rw [ne_eq, ClassList.marked_parse_eq_nil_iff, Bool.not_eq_false, Update.isMarked_iff]
      simp [isElement_of_attribute? hText]

/-- An argument that is missing has no mark either. -/
theorem Builtin.isMarked_argument {arguments : List String}
    (h : ∀ argument ∈ arguments, Update.isMarked argument = false) (place : Nat) :
    Update.isMarked (argument arguments place) = false := by
  rw [argument, List.getD_eq_getElem?_getD]
  cases hPlace : arguments[place]? with
  | none => decide
  | some given => exact h given (List.mem_of_getElem? hPlace)

/-- An operation whose arguments do not hold the mark keeps the classes with the mark, or empties the
list or replaces it. -/
theorem Builtin.marked_onClasses {arguments : List String}
    (h : ∀ argument ∈ arguments, Update.isMarked argument = false) (builtin : Builtin)
    (classes : ClassList) :
    (builtin.onClasses arguments classes).marked = classes.marked ∨
      (builtin.onClasses arguments classes).marked = [] := by
  cases builtin with
  | remove => exact .inl rfl
  | addAttribute =>
      rw [onClasses]
      split
      · exact .inr (ClassList.marked_parse_eq_nil_iff.mpr (isMarked_argument h 1))
      · exact .inl rfl
  | removeAttribute =>
      rw [onClasses]
      split
      · exact .inr rfl
      · exact .inl rfl
  | addClass => exact .inl (ClassList.filter_tokens_addAll h classes)
  | removeClass => exact .inl (ClassList.filter_tokens_removeAll h classes)

/-- Every node has the classes with the mark that it had, or has none of them left. -/
def Document.MarksNothing (d changed : Document) : Prop :=
  ∀ id, (changed.classList id).marked = (d.classList id).marked ∨ (changed.classList id).marked = []

instance : IsPreorder Document Document.MarksNothing where
  refl _ _ := .inl rfl
  trans _ _ _ hFirst hNext id := by
    rcases hNext id with hSame | hNone
    · rw [hSame]
      exact hFirst id
    · exact .inr hNone

/-- No operation puts a class with the mark where there was none, if its arguments have none. -/
theorem Builtin.keeps_marksNothing (builtin : Builtin) :
    builtin.Keeps Document.MarksNothing (Update.isMarked · = false) := by
  intro d changed target arguments hArguments hChange id
  rcases classList_change hChange id with hSame | hChanged
  · rw [hSame]
    exact .inl rfl
  · rw [hChanged]
    exact builtin.marked_onClasses hArguments _

/-- A run never adds a class with the mark. -/
theorem leads_marksNothing_apply {table : OperationTable σ} (hTable : table.OfBuiltins)
    (target : Target) : (apply table target).Leads Document.MarksNothing := by
  refine (hTable.leads Builtin.keeps_marksNothing).apply (fun d element update hUpdate => ?_) target
  obtain ⟨className, -, hRead⟩ := List.mem_filterMap.mp hUpdate
  exact Update.isMarked_of_mem_arguments hRead

/-- A changed document in which nothing asks for more than before: neither is the mark found where it
was not found, nor does a class name ask for an update at a node that did not ask for it. -/
structure Document.AsksNoMore (d changed : Document) : Prop where
  marked : ∀ id, (changed.classList id).marked = (d.classList id).marked ∨
    (changed.classList id).marked = []
  found : ∀ id, changed.matchesSelector id Target.defaultSelector = .ok true →
    d.matchesSelector id Target.defaultSelector = .ok true
  updates : ∀ id, Update.ofElement changed id = Update.ofElement d id ∨ Update.ofElement changed id = []

/-- Without a new class that has the mark no element asks for more than before. -/
theorem Document.MarksNothing.asksNoMore {d changed : Document} (h : d.MarksNothing changed) :
    d.AsksNoMore changed where
  marked := h
  found id hFound := by
    rw [matchesSelector_defaultSelector] at hFound ⊢
    rwa [← (h id).resolve_right hFound]
  updates id := by
    rw [Update.ofElement, Update.ofElement, ← Update.ofClasses_marked (changed.classList id),
      ← Update.ofClasses_marked (d.classList id)]
    rcases h id with hSame | hNone
    · rw [hSame]
      exact .inl rfl
    · rw [hNone]
      exact .inr rfl

/-- Whatever its target is and whether it succeeds or stops, work with builtin operations leaves a
document in which nothing asks for more than before. -/
theorem asksNoMore_apply {table : OperationTable σ} (hTable : table.OfBuiltins) (target : Target)
    (session : Session σ) :
    session.document.AsksNoMore ((apply table target).run session).session.document :=
  (leads_marksNothing_apply hTable target session).asksNoMore

/-- An item whose class asks for another class attribute, with what would be the mark between the
arguments. What stands in it asks for a class without characters. -/
def rewritingItself : Document :=
  .nested "js-with-js--addAttribute__CLASS--js-with-js--remove" "js-with-js--addClass__a----b"

/-- The item is left with a class that asks for nothing, and the run stops at what stands in it. -/
theorem asksNoMore_rewritingItself :
    let ended := (apply .builtin .default).run { document := rewritingItself, memory := () }
    rewritingItself.AsksNoMore ended.session.document ∧
      ended.result = .error (.failed { operation := "addClass", arguments := ["a", "", "b"] } ⟨3⟩
        (.document .emptyToken)) ∧
      ended.session.document.attribute? ⟨2⟩ "class" = some "js-with-js" := by
  intro ended
  exact ⟨asksNoMore_apply .builtin .default { document := rewritingItself, memory := () },
    by decide +kernel, by decide +kernel⟩

end ClassScript
