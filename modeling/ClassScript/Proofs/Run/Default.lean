import ClassScript.Proofs.Run.Apply

/-!
The default selector only spares work. It is looser than the reading of class names: it holds of every
element that has updates, so working on the elements that it finds is working on all elements.
-/

namespace ClassScript

variable {σ : Type}

theorem Selector.occursIn_iff (part s : List Char) : occursIn part s = true ↔ part <:+: s := by
  induction s with
  | nil => simp [occursIn]
  | cons c s ih => rw [occursIn, Bool.or_eq_true, ih, List.isPrefixOf_iff_prefix, List.infix_cons_iff]

/-- Every class that is an update begins with the mark. -/
theorem Update.mark_infix_of_ofClass? {className : String} {update : Update}
    (h : ofClass? className = some update) : mark.toList <:+: className.toList := by
  obtain ⟨description, hMark, -⟩ := Option.bind_eq_some_iff.mp h
  rw [List.isPrefixOf?_eq_some_iff_append_eq] at hMark
  exact hMark ▸ (List.prefix_append mark.toList description).isInfix

/-- Where a node has an update, the mark stands in the text of its class attribute. -/
theorem Update.mark_infix_of_mem_ofElement {d : Document} {id : NodeId} {update : Update}
    (h : update ∈ ofElement d id) :
    ∃ text, d.attribute? id "class" = some text ∧ mark.toList <:+: text.toList := by
  obtain ⟨className, hMem, hUpdate⟩ := List.mem_filterMap.mp h
  rw [Document.classList] at hMem
  cases hClass : d.attribute? id "class" with
  | none =>
      rw [hClass] at hMem
      cases hMem
  | some text =>
      rw [hClass] at hMem
      have hWord : className ∈ Ascii.words text :=
        (ClassList.mem_tokens_addAll_iff.mp hMem).resolve_left List.not_mem_nil
      exact ⟨text, rfl, (mark_infix_of_ofClass? hUpdate).trans (Ascii.infix_of_mem_words hWord)⟩

def Target.defaultGroup : List Selector :=
  [{ first := [.attributeValue "class" .contains Update.mark] }]

/-- The default selector can be read. -/
theorem Target.readGroup?_defaultSelector :
    Selector.readGroup? defaultSelector = some defaultGroup := by
  decide +kernel

/-- The default selector holds of the elements in whose class attribute the mark stands anywhere. -/
theorem Document.selected_defaultGroup_iff (d : Document) (id : NodeId) :
    d.selected Target.defaultGroup id = true ↔
      d.isElement id = true ∧
        ∃ text, d.attribute? id "class" = some text ∧ Update.mark.toList <:+: text.toList := by
  have hMark : Update.mark.toList.isEmpty = false := by decide
  simp [selected, satisfiesAny, Target.defaultGroup, satisfies, satisfiesLeftward, meetsAll, meets,
    Selector.Comparison.holds, hMark, Selector.occursIn_iff, Option.any_eq_true]

/-- Only elements have attributes. -/
theorem Document.isElement_of_attribute? {d : Document} {id : NodeId} {name value : String}
    (h : d.attribute? id name = some value) : d.isElement id = true := by
  rw [attribute?, attributes] at h
  cases hValue : d.value? id with
  | none =>
      rw [hValue] at h
      cases h
  | some data =>
      rw [hValue] at h
      rw [isElement, hValue]
      cases data with
      | element => rfl
      | document | text | comment => cases h

/-- An element with updates is selected by default. -/
theorem Document.selected_of_ofElement_ne_nil {d : Document} {id : NodeId}
    (h : Update.ofElement d id ≠ []) : d.selected Target.defaultGroup id = true := by
  obtain ⟨update, rest, hUpdates⟩ := List.exists_cons_of_ne_nil h
  obtain ⟨text, hClass, hMark⟩ :=
    Update.mark_infix_of_mem_ofElement (hUpdates ▸ List.mem_cons_self : update ∈ Update.ofElement d id)
  exact (d.selected_defaultGroup_iff id).mpr
    ⟨isElement_of_attribute? hClass, text, hClass, hMark⟩

/-- Leaving out elements that have no updates leaves out no task. -/
theorem OperationTable.tasks_filter (table : OperationTable σ) (d : Document) {p : NodeId → Bool}
    {elements : List NodeId} (h : ∀ id ∈ elements, Update.ofElement d id ≠ [] → p id = true) :
    table.tasks d (elements.filter p) = table.tasks d elements := by
  induction elements with
  | nil => rfl
  | cons element rest ih =>
      obtain ⟨hElement, hRest⟩ := List.forall_mem_cons.mp h
      rw [tasks_cons]
      cases hp : p element with
      | true => rw [List.filter_cons_of_pos hp, tasks_cons, ih hRest]
      | false =>
          have hNone : Update.ofElement d element = [] := by
            by_contra hSome
            rw [hElement hSome] at hp
            cases hp
          rw [List.filter_cons_of_neg (by simp [hp]), ih hRest, updates, hNone]
          rfl

def Document.elements (d : Document) : List NodeId := (d.descendants root).filter d.isElement

/-- The default selector is looked for in the whole document. -/
theorem Document.queryAll_defaultSelector (d : Document) :
    d.queryAll root Target.defaultSelector = .ok (d.elements.filter (d.selected Target.defaultGroup)) := by
  have hFilter : (d.descendants root).filter (d.selected Target.defaultGroup) =
      d.elements.filter (d.selected Target.defaultGroup) := by
    rw [elements, List.filter_filter]
    refine List.filter_congr fun id _ => ?_
    rw [selected, Bool.and_right_comm, Bool.and_self]
  rw [queryAll, readSelector, Target.readGroup?_defaultSelector, ← hFilter]
  rfl

/-- Work on a whole document with the default selector ends as work on each of its elements does, up to
the first failure: with the same result and the same document. For the default selector holds of every
node that has an update when the work begins, and an element without one is left as it is. -/
theorem ending_applyDefault {session : Session σ} (hReachable : session.document.Reachable) :
    applyDefault.ending session =
        (session.document.elements.forM fun element => apply .builtin (.element element)).ending
          session ∧
      ∀ id, Update.ofElement session.document id ≠ [] →
        session.document.matchesSelector id Target.defaultSelector = .ok true := by
  have wf := hReachable.wellFormed
  constructor
  · have hQuery := session.document.queryAll_defaultSelector
    have hNodup : session.document.elements.Nodup := (wf.nodup_descendants Document.root).filter _
    have hElements : ∀ element ∈ session.document.elements, ∃ tag attributes,
        session.document.value? element = some (.element tag attributes) :=
      fun element hElement => Document.exists_of_isElement (List.mem_filter.mp hElement).2
    have hTasks := (OperationTable.builtin : OperationTable σ).tasks_filter session.document
      fun element (_ : element ∈ session.document.elements) => Document.selected_of_ofElement_ne_nil
    have hFound := @ending_apply σ .builtin session .builtin wf _ none _ hQuery
    have hAll := ending_forM_applyToElement .builtin wf hNodup hElements
      (Effect.refl session.document) fun _ _ => rfl
    rw [hTasks] at hFound
    exact hFound.trans hAll.symm
  · intro id hUpdates
    rw [Document.matchesSelector, Document.readSelector, Target.readGroup?_defaultSelector]
    exact congrArg Except.ok (Document.selected_of_ofElement_ne_nil hUpdates)

/-- An item that asks for a class. What stands in it only mentions the mark, behind another text. -/
def mentioningMark : Document := .nested "js-with-js--addClass__a" "no-js-with-js--remove"

/-- The default selector finds both, and nothing is done with the second. -/
theorem ending_applyDefault_mentioningMark :
    mentioningMark.Reachable ∧
      applyDefault.ending { document := mentioningMark, memory := () } =
        ([⟨1⟩, ⟨2⟩, ⟨3⟩].forM fun element => apply .builtin (.element element)).ending
          { document := mentioningMark, memory := () } ∧
      mentioningMark.matchesSelector ⟨2⟩ Target.defaultSelector = .ok true := by
  have hReachable : mentioningMark.Reachable := Document.reachable_nested _ _
  obtain ⟨hEnding, hMatches⟩ :=
    @ending_applyDefault Unit { document := mentioningMark, memory := () } hReachable
  have hElements : mentioningMark.elements = [⟨1⟩, ⟨2⟩, ⟨3⟩] := by decide +kernel
  rw [hElements] at hEnding
  exact ⟨hReachable, hEnding, hMatches ⟨2⟩ (by decide +kernel)⟩

end ClassScript
