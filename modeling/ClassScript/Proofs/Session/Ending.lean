import ClassScript.Session

/-!
How actions end. Nothing that is done depends on the events that are told, so results and sessions
can be followed without them.
-/

namespace ClassScript

/-- Ends as a change of the document does: with the changed document, or with the error and no
change. -/
def Session.conclude {σ ε : Type} (session : Session σ) :
    Except ε Document → Except ε Unit × Session σ
  | .ok changed => (.ok (), { session with document := changed })
  | .error error => (.error error, session)

namespace Action

variable {σ ε ε' α β : Type}

/-- The result of an action and the session that it leaves. -/
def ending (action : Action σ ε α) (session : Session σ) : Except ε α × Session σ :=
  ((action.run session).result, (action.run session).session)

theorem ending_bind_of_ok {first : Action σ ε α} {session after : Session σ} {value : α}
    (h : first.ending session = (.ok value, after)) (next : α → Action σ ε β) :
    (first >>= next).ending session = (next value).ending after := by
  obtain ⟨hResult, rfl⟩ := Prod.mk.inj h
  rw [ending, run_bind_of_ok hResult]
  rfl

theorem ending_bind_of_error {first : Action σ ε α} {session after : Session σ} {error : ε}
    (h : first.ending session = (.error error, after)) (next : α → Action σ ε β) :
    (first >>= next).ending session = (.error error, after) := by
  obtain ⟨hResult, rfl⟩ := Prod.mk.inj h
  rw [ending, run_bind_of_error hResult]

/-- Actions in a row end alike if each does where the one before it succeeded. -/
theorem ending_bind_congr {first other : Action σ ε α} {next goOn : α → Action σ ε β}
    {session : Session σ} (hFirst : first.ending session = other.ending session)
    (hNext : ∀ value after, other.ending session = (.ok value, after) →
      (next value).ending after = (goOn value).ending after) :
    (first >>= next).ending session = (other >>= goOn).ending session := by
  cases hOther : other.ending session with
  | mk result after =>
      rw [hOther] at hFirst
      cases result with
      | error error => rw [ending_bind_of_error hFirst, ending_bind_of_error hOther]
      | ok value =>
          rw [ending_bind_of_ok hFirst, ending_bind_of_ok hOther]
          exact hNext value after hOther

/-- Notes do not show in how an action ends. -/
theorem ending_note_bind (event : Event) (next : Unit → Action σ ε β) (session : Session σ) :
    (note event >>= next).ending session = (next ()).ending session := by
  have hNote : (note event : Action σ ε Unit).ending session = (.ok (), session) := rfl
  exact ending_bind_of_ok hNote next

theorem ending_document_bind (next : Document → Action σ ε β) (session : Session σ) :
    (document >>= next).ending session = (next session.document).ending session := by
  have hDocument : (document : Action σ ε Document).ending session =
      (.ok session.document, session) := rfl
  exact ending_bind_of_ok hDocument next

theorem ending_mapError (f : ε → ε') (action : Action σ ε α) (session : Session σ) :
    (action.mapError f).ending session =
      ((action.ending session).1.mapError f, (action.ending session).2) := rfl

theorem ending_edit (change : Document → Except ε Document) (session : Session σ) :
    (edit change).ending session = session.conclude (change session.document) := by
  cases h : change session.document with
  | error error =>
      rw [ending, run_edit_of_error h]
      rfl
  | ok changed =>
      rw [ending, run_edit_of_ok h]
      rfl

theorem conclude_mapError (f : ε → ε') (session : Session σ) (result : Except ε Document) :
    session.conclude (result.mapError f) =
      ((session.conclude result).1.mapError f, (session.conclude result).2) := by
  cases result <;> rfl

end Action

end ClassScript
