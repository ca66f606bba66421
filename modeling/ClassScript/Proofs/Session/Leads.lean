import ClassScript.Session
import Mathlib.Order.Defs.Unbundled

/-!
Where actions lead. A relation between documents that is reflexive and transitive holds between what an
action finds and what it leaves as soon as it holds for every edit that the action makes, whether the
action succeeds or fails.
-/

namespace ClassScript.Action

variable {σ ε ε' α β : Type} {R : Document → Document → Prop}

/-- Whether it succeeds or fails, the action leaves a document that stands in the relation to the one
that it found. -/
def Leads (R : Document → Document → Prop) (action : Action σ ε α) : Prop :=
  ∀ session, R session.document (action.run session).session.document

theorem Leads.mapError {action : Action σ ε α} (h : Leads R action) (f : ε → ε') :
    Leads R (action.mapError f) :=
  h

/-- What reads the document first need only lead on from the document it has read. -/
theorem leads_document_bind {next : Document → Action σ ε α}
    (h : ∀ session : Session σ,
      R session.document ((next session.document).run session).session.document) :
    Leads R (document >>= next) := by
  intro session
  have hDocument : ((document : Action σ ε Document).run session).result = .ok session.document := rfl
  rw [run_bind_of_ok hDocument]
  exact h session

variable [IsPreorder Document R]

theorem leads_pure (value : α) : Leads R (pure value : Action σ ε α) :=
  fun session => refl session.document

theorem leads_note (event : Event) : Leads R (note event : Action σ ε Unit) :=
  fun session => refl session.document

/-- Actions in a row keep what each of them keeps. -/
theorem Leads.bind {first : Action σ ε α} {next : α → Action σ ε β} (hFirst : Leads R first)
    (hNext : ∀ value, Leads R (next value)) : Leads R (first >>= next) := by
  intro session
  cases h : (first.run session).result with
  | error error =>
      rw [run_bind_of_error h]
      exact hFirst session
  | ok value =>
      rw [run_bind_of_ok h]
      exact IsTrans.trans _ _ _ (hFirst session) (hNext value _)

/-- An edit keeps what its change keeps, and fails without a trace. -/
theorem leads_edit {change : Document → Except ε Document}
    (h : ∀ d changed, change d = .ok changed → R d changed) :
    Leads R (edit change : Action σ ε Unit) := by
  intro session
  cases hChange : change session.document with
  | error error =>
      rw [run_edit_of_error hChange]
      exact refl session.document
  | ok changed =>
      rw [run_edit_of_ok hChange]
      exact h _ _ hChange

theorem leads_forM {action : α → Action σ ε Unit} (h : ∀ value, Leads R (action value))
    (values : List α) : Leads R (values.forM action) := by
  induction values with
  | nil => exact leads_pure ()
  | cons value rest ih => exact (h value).bind fun _ => ih

end ClassScript.Action
