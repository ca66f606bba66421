import ClassScript.Proofs.Document.Observed
import ClassScript.Proofs.Run.Apply
import ClassScript.Proofs.Run.Calls

/-!
Trees of one document are isolated from each other. Calls that name nodes of one tree only, and nodes that
were created meanwhile, may take that tree to pieces and build others, but no node of another tree is seen
to change.
-/

namespace ClassScript

variable {σ : Type}

/-- Where the nodes are enclosed, only they have changed, and they are enclosed still. -/
def Document.StaysInside (inside : NodeId → Prop) (d changed : Document) : Prop :=
  d.WellFormed → d.Enclosed inside →
    changed.WellFormed ∧ changed.Enclosed inside ∧ d.SameOutside inside changed

instance (inside : NodeId → Prop) : IsPreorder Document (Document.StaysInside inside) where
  refl d wf enclosed := ⟨wf, enclosed, .refl inside d⟩
  trans _ _ _ hFirst hNext wf enclosed := by
    obtain ⟨wfMiddle, enclosedMiddle, hSame⟩ := hFirst wf enclosed
    obtain ⟨wfLast, enclosedLast, hSameLast⟩ := hNext wfMiddle enclosedMiddle
    exact ⟨wfLast, enclosedLast, hSame.trans hSameLast⟩

namespace Document

variable {inside : NodeId → Prop} {d changed : Document} {id : NodeId}

/-- What is created counts as inside. -/
theorem staysInside_create (d : Document) (data : NodeData) : StaysInside inside d (d.create data).2 :=
  fun wf enclosed => ⟨wf.create data, enclosed.create data⟩

/-- To detach an inner node changes inner nodes only. -/
theorem staysInside_detach (d : Document) (hId : inside id) : StaysInside inside d (d.detach id) :=
  fun wf enclosed => ⟨wf.detach id, enclosed.detach hId⟩

/-- To append an inner node to another changes inner nodes only. -/
theorem staysInside_append {parent child : NodeId} (hParent : inside parent) (hChild : inside child)
    (h : d.append parent child = .ok changed) : StaysInside inside d changed := by
  intro wf enclosed
  refine ⟨Change.wellFormed (.append h) wf, ?_⟩
  obtain ⟨hParentExists, hChildExists, -, -, rfl⟩ := append_cases h
  exact enclosed.attach hParentExists hChildExists hParent hChild

/-- Attributes of an inner node are its own. -/
theorem staysInside_changeAttributes {change : Attributes → Attributes} (hId : inside id)
    (h : d.changeAttributes id change = .ok changed) : StaysInside inside d changed := by
  intro wf enclosed
  obtain ⟨tag, attributes, -, rfl⟩ := changeAttributes_cases h
  exact ⟨wf.setValue id _, enclosed.setValue hId _⟩

end Document

/-- A builtin operation reaches its target and the parent of it, both of which are inside. -/
theorem Builtin.leads_staysInside {inside : NodeId → Prop} (builtin : Builtin) {target : NodeId}
    (hTarget : inside target) (arguments : List String) :
    (builtin.perform target arguments : Action σ OperationError Unit).Leads
      (Document.StaysInside inside) := by
  refine leads_perform fun d changed hChange => ?_
  rcases change_cases hChange with ⟨-, -, rfl⟩ | ⟨-, tag, attributes, -, rfl⟩
  · exact Document.staysInside_detach d hTarget
  · exact fun wf enclosed => ⟨wf.setValue target _, enclosed.setValue hTarget _⟩

/-- Updates that run on an inner node stay inside. -/
theorem OperationTable.OfBuiltins.leads_staysInside {table : OperationTable σ} (hTable : table.OfBuiltins)
    {inside : NodeId → Prop} {element : NodeId} (hElement : inside element) (updates : List Update) :
    (run table element updates).Leads (Document.StaysInside inside) := by
  refine leads_run fun update _ operation hGet => ?_
  obtain ⟨builtin, -, rfl⟩ := hTable.exists_builtin hGet
  exact builtin.leads_staysInside hElement update.arguments

namespace Call

/-- A call that names inner nodes only, and works with builtin operations only. -/
def Within (inside : NodeId → Prop) : Call σ → Prop
  | createElement _ | createText _ | createComment _ => True
  | append parent child => inside parent ∧ inside child
  | detach id | setAttribute id _ _ | removeAttribute id _ | addClasses id _ | removeClasses id _
  | perform _ id _ => inside id
  | run table element _ | apply table (.element element) => inside element ∧ table.OfBuiltins
  | apply _ (.selector ..) => False

/-- A call that names inner nodes only stays inside. -/
theorem Within.staysInside {inside : NodeId → Prop} {call : Call σ} (h : call.Within inside)
    (session : Session σ) :
    Document.StaysInside inside session.document (call.left session).document := by
  have hEdit : ∀ {ε : Type} {change : Document → Except ε Document},
      (∀ d changed, change d = .ok changed → Document.StaysInside inside d changed) →
        (Action.edit change : Action σ ε Unit).Leads (Document.StaysInside inside) :=
    Action.leads_edit
  cases call with
  | createElement | createText | createComment => exact Document.staysInside_create _ _
  | append parent child =>
      exact hEdit (fun d changed => Document.staysInside_append h.1 h.2) session
  | detach id =>
      have hLeft : (detach id).left session =
          { session with document := session.document.detach id } :=
        congrArg Prod.snd (Action.ending_detach id session)
      rw [hLeft]
      exact Document.staysInside_detach _ h
  | setAttribute id name value =>
      refine hEdit (fun d changed hChange => ?_) session
      exact Document.staysInside_changeAttributes h (Document.setAttribute_cases hChange).2
  | removeAttribute id name =>
      refine hEdit (fun d changed hChange => ?_) session
      obtain ⟨⟨found, other⟩, hRemove, rfl⟩ := Document.exists_ok_of_map hChange
      exact Document.staysInside_changeAttributes h (Document.removeAttribute_cases hRemove).2
  | addClasses id tokens =>
      refine hEdit (fun d changed hChange => ?_) session
      exact Document.staysInside_changeAttributes h (Document.addClasses_cases hChange).2
  | removeClasses id tokens =>
      refine hEdit (fun d changed hChange => ?_) session
      exact Document.staysInside_changeAttributes h (Document.removeClasses_cases hChange).2
  | perform builtin target arguments => exact builtin.leads_staysInside h arguments session
  | run table element updates => exact h.2.leads_staysInside h.1 updates session
  | apply table target =>
      cases target with
      | element element =>
          exact Action.leads_document_bind (fun session => h.2.leads_staysInside h.1 _ session) session
      | selector => cases h

end Call

/-- So does any sequence of such calls. -/
theorem Session.staysInside_after {inside : NodeId → Prop} (session : Session σ) {calls : List (Call σ)}
    (hCalls : ∀ call ∈ calls, call.Within inside) :
    Document.StaysInside inside session.document (session.after calls).document := by
  induction calls generalizing session with
  | nil => exact refl session.document
  | cons call rest ih =>
      obtain ⟨hCall, hRest⟩ := List.forall_mem_cons.mp hCalls
      exact IsTrans.trans _ _ _ (hCall.staysInside session) (ih (call.left session) hRest)

/-- Calls that name only nodes of one tree, or nodes that they have created, leave every node of another
tree as it was, in all that is seen of it. -/
theorem unchanged_after {session : Session σ} (hReachable : session.document.Reachable)
    {first second : NodeId} (hFirst : session.document.value? first ≠ none)
    (hApart : session.document.topmost first ≠ session.document.topmost second) {calls : List (Call σ)}
    (hCalls : ∀ call ∈ calls, call.Within fun id =>
      session.document.topmost id = session.document.topmost second ∨ session.document.size ≤ id.index)
    {id : NodeId} (hId : session.document.topmost id = session.document.topmost first) :
    session.document.Unchanged (session.after calls).document id := by
  have wf := hReachable.wellFormed
  have enclosed := wf.enclosed_topmost (session.document.topmost second)
  obtain ⟨wfAfter, -, same⟩ := session.staysInside_after hCalls wf enclosed
  refine Document.unchanged_of_sameOutside wf wfAfter enclosed same ?_
  rintro (hSecond | hFresh)
  · exact hApart (hId.symm.trans hSecond)
  · have hExists := wf.topmost_lt_size (Arena.value?_ne_none_iff.mp hFirst)
    rw [← hId, Arena.topmost_of_size_le hFresh] at hExists
    omega

/-- A list that is in a document, and an item that was taken out of it with what stands in it. -/
def besideItsItem : Document := Arena.detach (Document.nested "a" "b") ⟨2⟩

/-- Calls that take the item to pieces, put a new element into it and ask for its removal. -/
def takingToPieces : List (Call Unit) :=
  [.detach ⟨3⟩, .createElement "i", .append ⟨2⟩ ⟨4⟩, .append ⟨4⟩ ⟨3⟩,
    .run .builtin ⟨4⟩ [{ operation := "addClass", arguments := ["c"] }, { operation := "remove" }],
    .perform .removeClass ⟨3⟩ ["b"]]

/-- The list stays an empty list. -/
theorem unchanged_takingToPieces :
    let session : Session Unit := { document := besideItsItem, memory := () }
    besideItsItem.Reachable ∧ besideItsItem.value? ⟨0⟩ ≠ none ∧
      besideItsItem.topmost ⟨0⟩ ≠ besideItsItem.topmost ⟨3⟩ ∧
      (∀ call ∈ takingToPieces, call.Within fun id =>
        besideItsItem.topmost id = besideItsItem.topmost ⟨3⟩ ∨ besideItsItem.size ≤ id.index) ∧
      (session.after takingToPieces).document.children ⟨4⟩ = [⟨3⟩] ∧
      (session.after takingToPieces).document.toHtml ⟨1⟩ = "<ul></ul>" := by
  intro session
  have hReachable : besideItsItem.Reachable := (Document.reachable_nested "a" "b").change (.detach _ ⟨2⟩)
  have hCalls : ∀ call ∈ takingToPieces, call.Within fun id =>
      besideItsItem.topmost id = besideItsItem.topmost ⟨3⟩ ∨ besideItsItem.size ≤ id.index := by
    simp only [takingToPieces, List.forall_mem_cons]
    refine ⟨.inl rfl, trivial, ⟨.inl (by decide), .inr (by decide)⟩, ⟨.inr (by decide), .inl rfl⟩,
      ⟨.inr (by decide), .builtin⟩, .inl rfl, fun _ h => nomatch h⟩
  have hApart : besideItsItem.topmost ⟨0⟩ ≠ besideItsItem.topmost ⟨3⟩ := by decide
  have hFirst : besideItsItem.value? ⟨0⟩ ≠ none := by decide
  have hList : besideItsItem.topmost ⟨1⟩ = besideItsItem.topmost ⟨0⟩ := by decide
  have unchanged : session.document.Unchanged (session.after takingToPieces).document ⟨1⟩ :=
    unchanged_after hReachable hFirst hApart hCalls hList
  refine ⟨hReachable, hFirst, hApart, hCalls, by decide +kernel, ?_⟩
  rw [unchanged.toHtml_eq]
  decide +kernel

end ClassScript
