import ClassScript.Operation.Table
import ClassScript.Proofs.Document.Change
import ClassScript.Proofs.Session.Ending
import ClassScript.Proofs.Update.Arguments

/-!
What a builtin operation does. It either takes its node out of the tree or replaces the attributes
of its element, and it is refused only for its arguments or for what is above its node.
-/

namespace ClassScript

namespace Builtin

def onAttributes (builtin : Builtin) (arguments : List String) (attributes : Attributes) :
    Attributes :=
  match builtin with
  | remove => attributes
  | addAttribute => attributes.set (Ascii.lower (argument arguments 0)) (argument arguments 1)
  | removeAttribute => attributes.erase (Ascii.lower (argument arguments 0))
  | addClass => Document.withClasses (·.addAll arguments) attributes
  | removeClass => Document.withClasses (·.removeAll arguments) attributes

def change (builtin : Builtin) (d : Document) (target : NodeId) (arguments : List String) :
    Except OperationError Document :=
  match builtin with
  | remove =>
    match d.elementParent? target with
    | none => .error (.noParent target)
    | some _ => .ok (d.detach target)
  | addAttribute =>
    (d.setAttribute target (argument arguments 0) (argument arguments 1)).mapError .document
  | removeAttribute =>
    ((d.removeAttribute target (argument arguments 0)).map (·.2)).mapError .document
  | addClass => (d.addClasses target arguments).mapError .document
  | removeClass => (d.removeClasses target arguments).mapError .document

variable {σ : Type}

/-- An edit ends as the change of the document does, and its failures are those of the document. -/
theorem ending_edit (edited : Document → Except DomError Document) (session : Session σ) :
    (edit edited).ending session =
      session.conclude ((edited session.document).mapError .document) := by
  rw [edit, Action.ending_mapError, Action.ending_edit, Action.conclude_mapError]

/-- Detaching an element that has one above it always succeeds. -/
theorem ending_detach {session : Session σ} {target parent : NodeId}
    (h : session.document.elementParent? target = some parent) :
    (discard (Action.detach target) : Action σ OperationError Unit).ending session =
      (.ok (), { session with document := session.document.detach target }) := by
  have hParent := (Option.filter_eq_some_iff.mp h).1
  have hDetach : (Action.detach target : Action σ OperationError (Option NodeId)).ending session =
      (.ok (some parent), { session with document := session.document.detach target }) := by
    rw [Action.detach, Action.ending_document_bind, hParent]
    rfl
  exact Action.ending_bind_of_ok hDetach _

/-- Performing an operation changes the document as `change` says and nothing else. -/
theorem ending_perform (builtin : Builtin) (target : NodeId) (arguments : List String)
    (session : Session σ) :
    (builtin.perform target arguments).ending session =
      session.conclude (builtin.change session.document target arguments) := by
  cases builtin with
  | remove =>
      rw [perform, Action.ending_document_bind, change]
      cases h : session.document.elementParent? target with
      | none => rfl
      | some parent => exact ending_detach h
  | addAttribute | removeAttribute | addClass | removeClass => exact ending_edit _ session

/-- What fails differently still succeeds alike. -/
theorem ok_of_mapError {ε ε' α : Type} {f : ε → ε'} {result : Except ε α} {value : α}
    (h : result.mapError f = .ok value) : result = .ok value := by
  cases result with
  | error error => cases h
  | ok other =>
      cases h
      rfl

/-- An operation takes its node away from an element, or replaces the attributes of its element. -/
theorem change_cases {builtin : Builtin} {d changed : Document} {target : NodeId}
    {arguments : List String} (h : builtin.change d target arguments = .ok changed) :
    (builtin = .remove ∧ (∃ parent, d.elementParent? target = some parent) ∧
      changed = d.detach target) ∨
    (builtin ≠ .remove ∧ ∃ tag attributes, d.value? target = some (.element tag attributes) ∧
      changed = d.setValue target (.element tag (builtin.onAttributes arguments attributes))) := by
  cases builtin with
  | remove =>
      rw [change] at h
      cases hParent : d.elementParent? target with
      | none =>
          rw [hParent] at h
          cases h
      | some parent =>
          rw [hParent] at h
          cases h
          exact .inl ⟨rfl, ⟨parent, rfl⟩, rfl⟩
  | addAttribute =>
      have hChange := (Document.setAttribute_cases (ok_of_mapError h)).2
      exact .inr ⟨nofun, Document.changeAttributes_cases hChange⟩
  | removeAttribute =>
      obtain ⟨⟨found, other⟩, hRemove, rfl⟩ := Document.exists_ok_of_map (ok_of_mapError h)
      have hChange := (Document.removeAttribute_cases hRemove).2
      exact .inr ⟨nofun, Document.changeAttributes_cases hChange⟩
  | addClass =>
      have hChange := (Document.addClasses_cases (ok_of_mapError h)).2
      exact .inr ⟨nofun, Document.changeAttributes_cases hChange⟩
  | removeClass =>
      have hChange := (Document.removeClasses_cases (ok_of_mapError h)).2
      exact .inr ⟨nofun, Document.changeAttributes_cases hChange⟩

/-- Why an operation is refused at an element, where the arguments hold no blanks. The last reason
needs to know only whether an element is above the node. -/
inductive Refusal (target : NodeId) (arguments : List String) (orphan : Prop) :
    Builtin → OperationError → Prop where
  | invalidName (hName : argument arguments 0 = "" ∨
      ∃ c ∈ (argument arguments 0).toList, Attributes.isForbidden c = true) :
      Refusal target arguments orphan .addAttribute
        (.document (.invalidAttributeName (argument arguments 0)))
  | emptyAdded (hEmpty : "" ∈ arguments) :
      Refusal target arguments orphan .addClass (.document .emptyToken)
  | emptyRemoved (hEmpty : "" ∈ arguments) :
      Refusal target arguments orphan .removeClass (.document .emptyToken)
  | noParent (hOrphan : orphan) : Refusal target arguments orphan .remove (.noParent target)

/-- A name is refused if it is empty or holds a forbidden character. -/
theorem isValidName_eq_false_iff (name : String) :
    Attributes.isValidName name = false ↔
      name = "" ∨ ∃ c ∈ name.toList, Attributes.isForbidden c = true := by
  rw [Attributes.isValidName, Bool.and_eq_false_iff, Bool.not_eq_false', Bool.not_eq_false',
    String.isEmpty_iff, List.any_eq_true]

/-- Words apart, only an empty token can be refused, since arguments have no blanks. -/
theorem forM_checkToken {tokens : List String} (h : ∀ token ∈ tokens, Unbroken token) :
    tokens.forM Document.checkToken = if "" ∈ tokens then .error .emptyToken else .ok () := by
  induction tokens with
  | nil => rfl
  | cons token rest ih =>
      obtain ⟨hToken, hRest⟩ := List.forall_mem_cons.mp h
      have hBlank : token.toList.any Ascii.isBlank = false := by
        simpa [Unbroken] using hToken
      have hCons : (token :: rest).forM Document.checkToken =
          Document.checkToken token >>= fun _ => rest.forM Document.checkToken := rfl
      rw [hCons, ih hRest, Document.checkToken, hBlank]
      by_cases hEmpty : token = ""
      · subst hEmpty
        rw [if_pos List.mem_cons_self]
        rfl
      · have hNot : token.isEmpty = false := by
          simpa [String.isEmpty_iff] using hEmpty
        have hMem : "" ∈ token :: rest ↔ "" ∈ rest := by
          simp [Ne.symm hEmpty]
        simp only [hNot, hMem]
        rfl

/-- The attributes of an element can always be changed. -/
theorem changeAttributes_of_element {d : Document} {target : NodeId} {tag : String}
    {attributes : Attributes} (h : d.value? target = some (.element tag attributes))
    (changed : Attributes → Attributes) :
    d.changeAttributes target changed = .ok (d.setValue target (.element tag (changed attributes))) := by
  rw [Document.changeAttributes, h]

/-- An operation on an element is refused for its listed causes and no others. -/
theorem change_eq_error_iff {builtin : Builtin} {d : Document} {target : NodeId} {tag : String}
    {attributes : Attributes} {arguments : List String} {cause : OperationError}
    (hElement : d.value? target = some (.element tag attributes))
    (hArguments : ∀ argument ∈ arguments, Unbroken argument) :
    builtin.change d target arguments = .error cause ↔
      Refusal target arguments (d.elementParent? target = none) builtin cause := by
  have hChange := changeAttributes_of_element hElement
  constructor
  · intro h
    cases builtin with
    | remove =>
        rw [change] at h
        cases hParent : d.elementParent? target with
        | none =>
            rw [hParent] at h
            cases h
            exact .noParent rfl
        | some parent =>
            rw [hParent] at h
            cases h
    | addAttribute =>
        rw [change, Document.setAttribute, hChange] at h
        split at h
        · cases h
        · next hName =>
            cases h
            exact .invalidName ((isValidName_eq_false_iff _).mp (by simpa using hName))
    | removeAttribute =>
        rw [change, Document.removeAttribute, hChange] at h
        cases h
    | addClass =>
        rw [change, Document.addClasses, forM_checkToken hArguments, hChange] at h
        split at h
        · next hEmpty =>
            cases h
            exact .emptyAdded hEmpty
        · cases h
    | removeClass =>
        rw [change, Document.removeClasses, forM_checkToken hArguments, hChange] at h
        split at h
        · next hEmpty =>
            cases h
            exact .emptyRemoved hEmpty
        · cases h
  · intro h
    cases h with
    | noParent hParent => rw [change, hParent]
    | invalidName hName =>
        rw [change, Document.setAttribute, (isValidName_eq_false_iff _).mpr hName]
        rfl
    | emptyAdded hEmpty =>
        rw [change, Document.addClasses, forM_checkToken hArguments, if_pos hEmpty]
        rfl
    | emptyRemoved hEmpty =>
        rw [change, Document.removeClasses, forM_checkToken hArguments, if_pos hEmpty]
        rfl

end Builtin

end ClassScript
