import ClassScript.Run
import ClassScript.Proofs.Document.Reachable
import ClassScript.Proofs.Operation.Builtin
import ClassScript.Proofs.Operation.Table
import ClassScript.Proofs.Session.Leads

/-!
Where work on a target leads. A relation between documents that every operation of a table keeps holds
between what the work finds and what it leaves, whatever the target is and wherever the work stops.
-/

namespace ClassScript

variable {σ : Type} {R : Document → Document → Prop} {Sound : String → Prop} {table : OperationTable σ}

/-- Whatever a document and a node are, a builtin operation that succeeds keeps the relation, as long as
its arguments are sound. -/
def Builtin.Keeps (R : Document → Document → Prop) (Sound : String → Prop) (builtin : Builtin) : Prop :=
  ∀ (d changed : Document) (target : NodeId) (arguments : List String),
    (∀ argument ∈ arguments, Sound argument) → builtin.change d target arguments = .ok changed →
      R d changed

/-- Every operation of the table leads along the relation, as long as its arguments are sound. -/
def OperationTable.Leads (R : Document → Document → Prop) (Sound : String → Prop)
    (table : OperationTable σ) : Prop :=
  ∀ name operation, table.get? name = some operation → ∀ target arguments,
    (∀ argument ∈ arguments, Sound argument) → (operation target arguments).Leads R

variable [IsPreorder Document R]

/-- A builtin operation leads along the relation where it does so by succeeding at its node. -/
theorem Builtin.leads_perform {builtin : Builtin} {target : NodeId} {arguments : List String}
    (h : ∀ d changed, builtin.change d target arguments = .ok changed → R d changed) :
    (builtin.perform target arguments : Action σ OperationError Unit).Leads R := by
  intro session
  have hLeft : ((builtin.perform target arguments : Action σ OperationError Unit).run session).session =
      (session.conclude (builtin.change session.document target arguments)).2 :=
    congrArg Prod.snd (builtin.ending_perform target arguments session)
  rw [hLeft]
  cases hChange : builtin.change session.document target arguments with
  | error error => exact refl session.document
  | ok changed => exact h _ _ hChange

/-- What the changes of an operation keep is kept when it is performed. -/
theorem Builtin.Keeps.leads_perform {builtin : Builtin} (h : builtin.Keeps R Sound) (target : NodeId)
    {arguments : List String} (hArguments : ∀ argument ∈ arguments, Sound argument) :
    (builtin.perform target arguments : Action σ OperationError Unit).Leads R :=
  Builtin.leads_perform fun d changed => h d changed target arguments hArguments

/-- What all builtin operations keep is kept by every table of them. -/
theorem OperationTable.OfBuiltins.leads (hTable : table.OfBuiltins)
    (h : ∀ builtin : Builtin, builtin.Keeps R Sound) : table.Leads R Sound := by
  intro name operation hGet target arguments hArguments
  obtain ⟨builtin, -, rfl⟩ := hTable.exists_builtin hGet
  exact (h builtin).leads_perform target hArguments

/-- Updates lead along the relation where those operations do that they name. -/
theorem leads_run {element : NodeId} {updates : List Update}
    (h : ∀ update ∈ updates, ∀ operation, table.get? update.operation = some operation →
      (operation element update.arguments).Leads R) : (run table element updates).Leads R := by
  induction updates with
  | nil => exact Action.leads_pure ()
  | cons update rest ih =>
      obtain ⟨hUpdate, hRest⟩ := List.forall_mem_cons.mp h
      rw [run]
      cases hGet : table.get? update.operation with
      | none => exact (Action.leads_note _).bind fun _ => ih hRest
      | some operation =>
          have hOperation := (hUpdate operation hGet).mapError (RunError.failed update element)
          exact (Action.leads_note _).bind fun _ => hOperation.bind fun _ => ih hRest

namespace OperationTable.Leads

/-- What the operations of a table keep is kept by any run of updates. -/
theorem run (hTable : table.Leads R Sound) (element : NodeId) {updates : List Update}
    (h : ∀ update ∈ updates, ∀ argument ∈ update.arguments, Sound argument) :
    (ClassScript.run table element updates).Leads R :=
  leads_run fun update hUpdate operation hGet => hTable _ operation hGet element _ (h update hUpdate)

/-- The classes of elements ask for nothing that is not sound. -/
theorem applyToElement (hTable : table.Leads R Sound)
    (h : ∀ d element, ∀ update ∈ Update.ofElement d element, ∀ argument ∈ update.arguments,
      Sound argument) (element : NodeId) : (ClassScript.applyToElement table element).Leads R :=
  Action.leads_document_bind fun session =>
    hTable.run element (h session.document element) session

/-- What the operations of a table keep is kept when it is applied to a target. -/
theorem apply (hTable : table.Leads R Sound)
    (h : ∀ d element, ∀ update ∈ Update.ofElement d element, ∀ argument ∈ update.arguments,
      Sound argument) (target : Target) : (ClassScript.apply table target).Leads R := by
  cases target with
  | element element => exact hTable.applyToElement h element
  | selector text root? =>
      have hQuery : (Action.queryAll (root?.getD Document.root) text :
          Action σ DomError (List NodeId)).Leads R := by
        apply Action.leads_document_bind
        intro session
        cases session.document.queryAll (root?.getD Document.root) text with
        | error error => exact refl session.document
        | ok found => exact ((Action.leads_note _).bind fun _ => Action.leads_pure found) session
      refine (hQuery.mapError (RunError.target text)).bind fun elements => ?_
      exact (Action.leads_note _).bind fun _ =>
        Action.leads_forM (hTable.applyToElement h) elements

end OperationTable.Leads

/-- What is reachable stays so. -/
def Document.StaysReachable (d changed : Document) : Prop := d.Reachable → changed.Reachable

instance : IsPreorder Document Document.StaysReachable where
  refl _ h := h
  trans _ _ _ hFirst hNext h := hNext (hFirst h)

/-- Removing an attribute is a change, whatever it answers. -/
theorem Document.change_of_removeAttribute {d changed : Document} {id : NodeId} {name : String}
    (h : (d.removeAttribute id name).map (·.2) = .ok changed) : Change d changed := by
  obtain ⟨⟨found, other⟩, hRemove, rfl⟩ := exists_ok_of_map h
  exact .removeAttribute hRemove

/-- A builtin operation that succeeds makes one of the listed changes. -/
theorem Builtin.change_of_ok {builtin : Builtin} {d changed : Document} {target : NodeId}
    {arguments : List String} (h : builtin.change d target arguments = .ok changed) :
    Document.Change d changed := by
  cases builtin with
  | remove =>
      rcases change_cases h with ⟨-, -, rfl⟩ | ⟨hOther, -⟩
      · exact .detach d target
      · exact absurd rfl hOther
  | addAttribute => exact .setAttribute (ok_of_mapError h)
  | removeAttribute => exact Document.change_of_removeAttribute (ok_of_mapError h)
  | addClass => exact .addClasses (ok_of_mapError h)
  | removeClass => exact .removeClasses (ok_of_mapError h)

/-- Builtin operations lead from documents that can be made to others. -/
theorem Builtin.keeps_staysReachable (builtin : Builtin) :
    builtin.Keeps Document.StaysReachable fun _ => True :=
  fun _ _ _ _ _ hChange hReachable => hReachable.change (change_of_ok hChange)

end ClassScript
