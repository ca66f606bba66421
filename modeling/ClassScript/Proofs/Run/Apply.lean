import ClassScript.Proofs.Run.CarryOut

/-!
What working on a selected target does to a document, where it succeeds and where it stops. Both are
said of the document as it was before the work: the elements that the selector finds there, and the
updates that their classes ask for there.
-/

namespace ClassScript

variable {σ : Type}

/-- An element in an element in a list, each with the classes that a text gives it. -/
def Document.nested (outer inner : String) : Document where
  nodes := #[
    { value := .document, children := [⟨1⟩] },
    { value := .element "ul" {}, parent := some ⟨0⟩, children := [⟨2⟩] },
    { value := .element "li" { entries := [("class", outer)] }, parent := some ⟨1⟩,
      children := [⟨3⟩] },
    { value := .element "b" { entries := [("class", inner)] }, parent := some ⟨2⟩ }]

theorem Document.reachable_nested (outer inner : String) : (nested outer inner).Reachable := by
  have hList := Reachable.empty.change (.createElement _ "ul")
  have hItem := hList.change (.createElement _ "li")
  have hBold := hItem.change (.createElement _ "b")
  have hTop := hBold.change (@Change.append _ _ ⟨0⟩ ⟨1⟩ rfl)
  have hMiddle := hTop.change (@Change.append _ _ ⟨1⟩ ⟨2⟩ rfl)
  have hBottom := hMiddle.change (@Change.append _ _ ⟨2⟩ ⟨3⟩ rfl)
  have hOuter := hBottom.change (@Change.setAttribute _ _ ⟨2⟩ "class" outer rfl)
  exact hOuter.change (@Change.setAttribute _ _ ⟨3⟩ "class" inner rfl)

/-- What the updates of elements have made of a document, when all were carried out. Each element is
treated by its own updates alone, and no other node is touched. -/
structure OperationTable.WorkedOn (table : OperationTable σ) (d : Document)
    (elements : List NodeId) (changed : Document) : Prop where
  size_eq : changed.size = d.size
  elsewhere : ∀ id, id ∉ elements →
    changed.value? id = d.value? id ∧ changed.parent? id = d.parent? id
  element : ∀ id ∈ elements, ∃ tag,
    d.value? id = some (.element tag (d.attributes id)) ∧
      changed.value? id =
        some (.element tag (Update.allOnAttributes (table.updates d id) (d.attributes id)))
  parent : ∀ id ∈ elements,
    changed.parent? id = if Update.TakeOut (table.updates d id) then none else d.parent? id
  children : ∀ id, changed.children id =
    (d.children id).filter fun child => ¬ (child ∈ elements ∧ Update.TakeOut (table.updates d child))

/-- What the tasks do together is told element by element. -/
theorem Effect.workedOn {table : OperationTable σ} {d changed : Document} {elements : List NodeId}
    (hNodup : elements.Nodup)
    (hElements : ∀ element ∈ elements, ∃ tag attributes,
      d.value? element = some (.element tag attributes))
    (effect : Effect d (table.tasks d elements) changed) : table.WorkedOn d elements changed := by
  have hAsked : ∀ id, asked (table.tasks d elements) id =
      if id ∈ elements then table.updates d id else [] := asked_tasks hNodup
  have hTakeOut : ∀ id, Update.TakeOut (asked (table.tasks d elements) id) ↔
      id ∈ elements ∧ Update.TakeOut (table.updates d id) := by
    intro id
    rw [hAsked]
    split <;> simp [*, Update.TakeOut]
  refine ⟨effect.size_eq, fun id hId => ⟨?_, ?_⟩, fun id hId => ?_, fun id hId => ?_, fun id => ?_⟩
  · exact effect.value?_of_asked_eq_nil (by rw [hAsked, if_neg hId])
  · rw [effect.parent?_eq, if_neg fun h => hId ((hTakeOut id).mp h).1]
  · obtain ⟨tag, attributes, hValue⟩ := hElements id hId
    have hAttributes : d.attributes id = attributes := Document.attributes_eq hValue
    refine ⟨tag, hAttributes ▸ hValue, ?_⟩
    rw [effect.value?_eq, hAsked, if_pos hId, hValue, hAttributes]
    rfl
  · rw [effect.parent?_eq]
    simp only [hTakeOut, hId, true_and]
  · rw [effect.children_eq]
    simp only [hTakeOut]

/-- When work on a selected target succeeds, its effect can be told element by element. It does not
depend on the order of the elements, nor on what the work has made of their classes meanwhile. -/
theorem workedOn_of_apply {table : OperationTable σ} (hTable : table.OfBuiltins)
    {session : Session σ} (hReachable : session.document.Reachable) {text : String}
    {root? : Option NodeId}
    (hSuccess : ((apply table (.selector text root?)).run session).result = .ok ()) :
    ∃ elements, session.document.queryAll (root?.getD Document.root) text = .ok elements ∧
      table.WorkedOn session.document elements
        ((apply table (.selector text root?)).run session).session.document := by
  have wf := hReachable.wellFormed
  cases hQuery : session.document.queryAll (root?.getD Document.root) text with
  | error error =>
      have hEnding := @ending_apply_of_error _ table session _ _ _ hQuery
      rw [Action.ending, hSuccess] at hEnding
      cases hEnding
  | ok elements =>
      obtain ⟨hNodup, hElements⟩ := elements_of_queryAll wf hQuery
      have hEnding := ending_apply hTable wf hQuery
      have hOk : (table.carryOut (table.tasks session.document elements)).ending session =
          (.ok (), ((apply table (.selector text root?)).run session).session) := by
        rw [← hEnding, Action.ending, hSuccess]
      have hProper : ∀ task ∈ table.tasks session.document elements,
          Proper table session.document task := fun _ => proper_of_mem_tasks hElements
      have hEffect := effect_of_ending hTable wf hProper (Effect.refl _) hOk
      exact ⟨elements, rfl, hEffect.workedOn hNodup hElements⟩

/-- An item that asks to be taken out. What stands in it asks for a class attribute and a class. -/
def leavingItem : Document :=
  .nested "js-with-js--remove" "a js-with-js--addAttribute__class--x js-with-js--addClass__y"

/-- The item is taken out, and what stands in it goes with it but is changed all the same. -/
theorem workedOn_leavingItem :
    let ended := (apply .builtin (.selector "*" none)).run { document := leavingItem, memory := () }
    leavingItem.Reachable ∧ ended.result = .ok () ∧
      ended.session.document.parent? ⟨2⟩ = none ∧
      ended.session.document.parent? ⟨3⟩ = some ⟨2⟩ ∧
      ended.session.document.value? ⟨3⟩ = some (.element "b" { entries := [("class", "x y")] }) := by
  intro ended
  have hReachable : leavingItem.Reachable := Document.reachable_nested _ _
  have hSuccess : ended.result = .ok () := by decide +kernel
  obtain ⟨elements, hQuery, worked⟩ := workedOn_of_apply .builtin hReachable hSuccess
  have hFound : leavingItem.queryAll Document.root "*" = .ok [⟨1⟩, ⟨2⟩, ⟨3⟩] := by decide +kernel
  cases hQuery.symm.trans hFound
  refine ⟨hReachable, hSuccess, ?_, ?_, ?_⟩
  · rw [worked.parent ⟨2⟩ (by decide)]
    decide +kernel
  · rw [worked.parent ⟨3⟩ (by decide)]
    decide +kernel
  · obtain ⟨tag, hTag, hValue⟩ := worked.element ⟨3⟩ (by decide)
    cases hTag
    rw [hValue]
    decide +kernel

/-- The message names the update and the node in front of the causes. -/
theorem RunError.message_failed (update : Update) (node : NodeId) (cause : OperationError) :
    (failed update node cause).message =
      "`" ++ update.className ++ "` failed on " ++ node.render ++ ": " ++
        ": ".intercalate (causes cause) := by
  have hCauses : ∃ first rest, causes cause = first :: rest := by
    cases cause <;> exact ⟨_, _, rfl⟩
  obtain ⟨first, rest, hCauses⟩ := hCauses
  have hMessage : (failed update node cause).message = ": ".intercalate
      (("`" ++ update.className ++ "` failed on " ++ node.render) :: causes cause) := rfl
  rw [hMessage, hCauses]
  exact String.intercalate_cons_cons

/-- How work on tasks ends that stops at the first that is refused. The work before it stays done, and
nothing else is. No removal of an attribute is refused, and no node turns out not to be an element. -/
structure OperationTable.StopsAtRefusal (table : OperationTable σ) (session : Session σ)
    (tasks : List Task) (ending : Except RunError Unit × Session σ) : Prop where
  fails_iff : (∃ error, ending.1 = .error error) ↔
    ∃ before task after cause, tasks = before ++ task :: after ∧
      Refused session.document before task cause
  stops : ∀ before task cause, FirstRefused session.document [] tasks before task cause →
    ending.1 = .error (.failed task.update task.element cause) ∧
      (table.carryOut before).ending session = (.ok (), ending.2)
  error : ∀ error, ending.1 = .error error → ∃ before task cause,
    FirstRefused session.document [] tasks before task cause ∧
    error = .failed task.update task.element cause ∧
    error.message = "`" ++ task.update.className ++ "` failed on " ++ task.element.render ++ ": " ++
      ": ".intercalate (RunError.causes cause) ∧
    task.update.operation ≠ "removeAttribute" ∧ ∀ id, cause ≠ .document (.notAnElement id)

/-- Nothing that is asked of an element fails for not being one. -/
theorem Refused.operation_ne {d : Document} {done : List Task} {task : Task}
    {cause : OperationError} (h : Refused d done task cause) :
    task.update.operation ≠ "removeAttribute" ∧ ∀ id, cause ≠ .document (.notAnElement id) := by
  obtain ⟨builtin, hName, hRefusal⟩ := h
  rw [← Builtin.name_of_ofName? hName]
  cases hRefusal <;> exact ⟨by decide, nofun⟩

/-- Tasks are carried out up to the first that is refused, which leaves no trace of its own. -/
theorem stopsAtRefusal_carryOut {table : OperationTable σ} (hTable : table.OfBuiltins)
    {session : Session σ} (wf : session.document.WellFormed) {tasks : List Task}
    (hProper : ∀ task ∈ tasks, Proper table session.document task) :
    table.StopsAtRefusal session tasks ((table.carryOut tasks).ending session) := by
  have hStops : ∀ before task cause, FirstRefused session.document [] tasks before task cause →
      ((table.carryOut tasks).ending session).1 =
        .error (.failed task.update task.element cause) ∧
      (table.carryOut before).ending session =
        (.ok (), ((table.carryOut tasks).ending session).2) := by
    intro before task cause hFirst
    obtain ⟨stopped, hBefore, hStop⟩ := hFirst.exists_ending hTable wf hProper (Effect.refl _)
    rw [hStop]
    exact ⟨rfl, hBefore⟩
  have hFails : ∀ error, ((table.carryOut tasks).ending session).1 = .error error →
      ∃ before task cause, FirstRefused session.document [] tasks before task cause := by
    intro error hError
    by_contra hNot
    have hNone : NoneRefused session.document [] tasks := fun before task after cause hSplit hRefused =>
      hNot (exists_firstRefused hSplit hRefused)
    obtain ⟨changed, -, hEnding⟩ := exists_ending_carryOut hTable wf hProper (Effect.refl _) hNone
    rw [hEnding] at hError
    cases hError
  refine ⟨⟨?_, ?_⟩, hStops, ?_⟩
  · rintro ⟨error, hError⟩
    obtain ⟨before, task, cause, ⟨after, hSplit⟩, hRefused, -⟩ := hFails error hError
    exact ⟨before, task, after, cause, hSplit, hRefused⟩
  · rintro ⟨before, task, after, cause, hSplit, hRefused⟩
    have hRefusedAfter : Refused session.document ([] ++ before) task cause := hRefused
    obtain ⟨sooner, first, reason, hFirst⟩ := exists_firstRefused hSplit hRefusedAfter
    exact ⟨_, (hStops sooner first reason hFirst).1⟩
  · intro error hError
    obtain ⟨before, task, cause, hFirst⟩ := hFails error hError
    have hEq := (hStops before task cause hFirst).1
    rw [hError] at hEq
    cases hEq
    exact ⟨before, task, cause, hFirst, rfl, RunError.message_failed _ _ _,
      hFirst.refused.operation_ne⟩

/-- Work on a selected target fails exactly when one of its tasks is refused after those before it, and
it stops at the first such task. -/
theorem stopsAtRefusal_apply {table : OperationTable σ} (hTable : table.OfBuiltins)
    {session : Session σ} (hReachable : session.document.Reachable) {text : String}
    {group : List Selector} (hReads : Selector.readGroup? text = some group)
    (root? : Option NodeId) :
    ∃ elements, session.document.queryAll (root?.getD Document.root) text = .ok elements ∧
      table.StopsAtRefusal session (table.tasks session.document elements)
        ((apply table (.selector text root?)).ending session) := by
  have wf := hReachable.wellFormed
  have hQuery : session.document.queryAll (root?.getD Document.root) text =
      .ok ((session.document.descendants (root?.getD Document.root)).filter
        (session.document.selected group)) := by
    rw [Document.queryAll, Document.readSelector, hReads]
    rfl
  obtain ⟨-, hElements⟩ := elements_of_queryAll wf hQuery
  refine ⟨_, hQuery, ?_⟩
  rw [ending_apply hTable wf hQuery]
  exact stopsAtRefusal_carryOut hTable wf fun _ => proper_of_mem_tasks hElements

/-- An item that asks twice, by two class names, to be taken out. -/
def leavingTwice : Document :=
  .nested "js-with-js--remove js-with-js--remove__" "js-with-js--addClass__y"

/-- The second removal fails, because after the first one nothing is above the item. -/
theorem stopsAtRefusal_leavingTwice :
    leavingTwice.Reachable ∧ Selector.readGroup? "*" = some [{ first := [.universal] }] ∧
      ((apply .builtin (.selector "*" none)).ending { document := leavingTwice, memory := () }).1 =
        .error (.failed { operation := "remove" } ⟨2⟩ (.noParent ⟨2⟩)) := by
  have hReachable : leavingTwice.Reachable := Document.reachable_nested _ _
  have hReads : Selector.readGroup? "*" = some [{ first := [.universal] }] := by decide +kernel
  obtain ⟨elements, hQuery, stops⟩ :=
    @stopsAtRefusal_apply Unit _ .builtin { document := leavingTwice, memory := () } hReachable _ _
      hReads none
  have hFound : leavingTwice.queryAll Document.root "*" = .ok [⟨1⟩, ⟨2⟩, ⟨3⟩] := by decide +kernel
  cases hQuery.symm.trans hFound
  have hFirst : FirstRefused leavingTwice []
      (OperationTable.tasks (.builtin : OperationTable Unit) leavingTwice [⟨1⟩, ⟨2⟩, ⟨3⟩])
      [{ element := ⟨2⟩, update := { operation := "remove" } }]
      { element := ⟨2⟩, update := { operation := "remove" } } (.noParent ⟨2⟩) := by
    refine ⟨?_, ⟨.remove, by decide, .noParent (.inr (by decide))⟩, ?_⟩
    · exact ⟨[{ element := ⟨3⟩, update := { operation := "addClass", arguments := ["y"] } }],
        by decide +kernel⟩
    · intro before task after cause hSplit hRefused
      obtain ⟨rfl, rfl⟩ : before = [] ∧ task = { element := ⟨2⟩, update := { operation := "remove" } } := by
        cases before with
        | nil =>
            cases hSplit
            exact ⟨rfl, rfl⟩
        | cons _ before => cases before <;> cases hSplit
      obtain ⟨builtin, hName, hRefusal⟩ := hRefused
      cases hName
      cases hRefusal with
      | noParent hOrphan => exact absurd hOrphan (by decide)
  exact ⟨hReachable, hReads, (stops.stops _ _ _ hFirst).1⟩

end ClassScript
