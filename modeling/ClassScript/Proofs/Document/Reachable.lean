import ClassScript.Document.OfMarkup
import ClassScript.Proofs.Document.Change
import ClassScript.Proofs.Session.Leads

/-!
The documents that can be made: empty or read from markup, and then changed in any way. Reading
markup is itself a sequence of changes of the empty document, so every such document is a
well-formed tree.
-/

namespace ClassScript.Document

open Relation

variable {σ ε α : Type}

/-- Whether it succeeds or fails, the action leaves a document that changes lead to. -/
def MakesChanges (action : Action σ ε α) : Prop := action.Leads (ReflTransGen Change)

/-- An attribute of markup is set, or it is refused and nothing changes. -/
theorem makesChanges_addAttribute (element : NodeId) (entry : String × String) :
    MakesChanges (addAttribute element entry : Action σ AppendError Unit) := by
  apply Action.leads_document_bind
  intro session
  cases h : session.document.setAttribute element entry.1 entry.2 with
  | error error => exact ReflTransGen.refl
  | ok changed => exact ReflTransGen.single (.setAttribute h)

/-- A node of markup is created, given its attributes and attached. -/
theorem makesChanges_addNode (parent : NodeId) {data : NodeData}
    (attributes : List (String × String)) (h : ∀ d : Document, Change d (d.create data).2) :
    MakesChanges (addNode parent data attributes : Action σ AppendError NodeId) := by
  apply Action.leads_document_bind
  intro session
  refine ReflTransGen.head (h session.document) ?_
  have hAppend : MakesChanges (Action.edit fun d => d.append parent (session.document.create data).1 :
      Action σ AppendError Unit) :=
    Action.leads_edit fun _ _ h => ReflTransGen.single (.append h)
  have hRest : MakesChanges (do
      attributes.forM (addAttribute (session.document.create data).1)
      Action.edit fun d => d.append parent (session.document.create data).1
      return (session.document.create data).1 : Action σ AppendError NodeId) :=
    (Action.leads_forM (makesChanges_addAttribute _) attributes).bind fun _ =>
      hAppend.bind fun _ => Action.leads_pure _
  exact hRest { session with document := (session.document.create data).2 }

/-- Trees of markup are added node by node. -/
theorem makesChanges_addForest (parent : NodeId) (forest : Forest Html.Item) :
    MakesChanges (addForest parent forest : Action σ AppendError Unit) := by
  induction forest generalizing parent with
  | nil => exact Action.leads_pure ()
  | cons item children rest ihChildren ihRest =>
      unfold addForest
      cases item with
      | root => exact (ihChildren parent).bind fun _ => ihRest parent
      | doctype => exact (Action.leads_pure ()).bind fun _ => ihRest parent
      | instruction => exact (Action.leads_pure ()).bind fun _ => ihRest parent
      | text text =>
          refine Action.Leads.bind ?_ fun _ => ihRest parent
          exact (makesChanges_addNode parent [] (.createText · text)).bind fun _ => Action.leads_pure ()
      | comment text =>
          refine Action.Leads.bind ?_ fun _ => ihRest parent
          exact (makesChanges_addNode parent [] (.createComment · text)).bind fun _ =>
            Action.leads_pure ()
      | element tag attributes =>
          exact (makesChanges_addNode parent attributes (.createElement · tag)).bind fun element =>
            (ihChildren element).bind fun _ => ihRest parent

/-- A document that begins empty or as the reading of a markup text, after any operations. -/
inductive Reachable : Document → Prop where
  | empty : Reachable empty
  | ofHtml {text : String} (h : (ofHtml text).result = .ok ()) :
      Reachable (ofHtml text).session.document
  | change {d changed : Document} (prior : Reachable d) (last : Change d changed) :
      Reachable changed

namespace Reachable

/-- Markup adds nothing to what changes of the empty document give. -/
theorem changes_of_empty {d : Document} (h : Reachable d) : ReflTransGen Change Document.empty d := by
  induction h with
  | empty => exact ReflTransGen.refl
  | ofHtml _ => exact makesChanges_addForest root _ { document := Document.empty, memory := () }
  | change _ last ih => exact ih.tail last

/-- What holds of the empty document and is kept by every change holds of every reachable document. -/
theorem induction {motive : Document → Prop} (empty : motive Document.empty)
    (step : ∀ {d changed : Document}, Change d changed → motive d → motive changed) {d : Document}
    (h : Reachable d) : motive d := by
  have hChanges := h.changes_of_empty
  clear h
  induction hChanges with
  | refl => exact empty
  | tail _ last ih => exact step last ih

/-- Documents that can be made have links that agree. -/
theorem wellFormed {d : Document} (h : Reachable d) : d.WellFormed :=
  h.induction wellFormed_empty Change.wellFormed

/-- The document node stays what it is. -/
theorem value?_root {d : Document} (h : Reachable d) : d.value? root = some .document :=
  h.induction (motive := fun d => d.value? root = some .document) rfl Change.value?_root

end Reachable

end ClassScript.Document
