import ClassScript.Document.Query
import ClassScript.Event

/-!
Work on a document that may fail. A failure keeps what was done before it. Events are told in the
order in which they happen, and nothing that is done depends on them.
-/

namespace ClassScript

/-- A document that is being worked on, and what operations remember from call to call. -/
structure Session (σ : Type) where
  document : Document
  memory : σ

/-- How work ends: with a value or an error, and in both cases with a session and with events. -/
structure Outcome (σ ε α : Type) where
  result : Except ε α
  session : Session σ
  events : List Event := []

/-- Work on a session. It tells events but does not see them. -/
def Action (σ ε α : Type) : Type := Session σ → Outcome σ ε α

namespace Action

variable {σ ε ε' α β : Type}

def run (action : Action σ ε α) (session : Session σ) : Outcome σ ε α := action session

def done (value : α) : Action σ ε α := fun session => { result := .ok value, session }

def fail (error : ε) : Action σ ε α := fun session => { result := .error error, session }

/-- Goes on with the value of the first action, unless that fails. -/
def andThen (first : Action σ ε α) (next : α → Action σ ε β) : Action σ ε β := fun session =>
  let before := first.run session
  match before.result with
  | .error error => { before with result := .error error }
  | .ok value =>
    let after := (next value).run before.session
    { after with events := before.events ++ after.events }

instance : Monad (Action σ ε) where
  pure := done
  bind := andThen

def note (event : Event) : Action σ ε Unit :=
  fun session => { result := .ok (), session, events := [event] }

def session : Action σ ε (Session σ) := fun session => { result := .ok session, session }

def document : Action σ ε Document := return (← session).document

def setSession (session : Session σ) : Action σ ε Unit := fun _ => { result := .ok (), session }

def setDocument (document : Document) : Action σ ε Unit := do
  setSession { (← session) with document }

/-- Changes the document, or fails with an error and changes nothing. -/
def edit (change : Document → Except ε Document) : Action σ ε Unit := do
  match change (← document) with
  | .ok changed => setDocument changed
  | .error error => fail error

def mapError (f : ε → ε') (action : Action σ ε α) : Action σ ε' α := fun session =>
  let outcome := action.run session
  { outcome with result := outcome.result.mapError f }

/-- Takes a node out of the tree that it is in, and gives the node that was above it. -/
def detach (id : NodeId) : Action σ ε (Option NodeId) := do
  let d ← document
  match d.parent? id with
  | none => return none
  | some parent =>
    setDocument (d.detach id)
    note (.detached id parent)
    return some parent

def queryAll (root : NodeId) (selector : String) : Action σ DomError (List NodeId) := do
  match (← document).queryAll root selector with
  | .ok found =>
    note (.found selector root found.length)
    return found
  | .error error => fail error

@[simp] theorem run_pure (value : α) (session : Session σ) :
    (pure value : Action σ ε α).run session = { result := .ok value, session } := rfl

@[simp] theorem run_fail (error : ε) (session : Session σ) :
    (fail error : Action σ ε α).run session = { result := .error error, session } := rfl

/-- After a value the next action runs, and its events follow those of the first. -/
theorem run_bind_of_ok {first : Action σ ε α} {next : α → Action σ ε β} {session : Session σ}
    {value : α} (h : (first.run session).result = .ok value) :
    (first >>= next).run session =
      { result := ((next value).run (first.run session).session).result
        session := ((next value).run (first.run session).session).session
        events := (first.run session).events ++
          ((next value).run (first.run session).session).events } := by
  change andThen first next session = _
  simp only [andThen, h]

/-- After an error nothing more happens. -/
theorem run_bind_of_error {first : Action σ ε α} {next : α → Action σ ε β} {session : Session σ}
    {error : ε} (h : (first.run session).result = .error error) :
    (first >>= next).run session =
      { result := .error error
        session := (first.run session).session
        events := (first.run session).events } := by
  change andThen first next session = _
  simp only [andThen, h]

/-- A note is added to the log and changes nothing else. -/
@[simp] theorem run_note (event : Event) (session : Session σ) :
    (note event : Action σ ε Unit).run session =
      { result := .ok (), session, events := [event] } := rfl

@[simp] theorem run_document (session : Session σ) :
    (document : Action σ ε Document).run session =
      { result := .ok session.document, session } := rfl

@[simp] theorem run_setDocument (document : Document) (session : Session σ) :
    (setDocument document : Action σ ε Unit).run session =
      { result := .ok (), session := { session with document } } := rfl

/-- An edit that succeeds changes the document and nothing else. -/
theorem run_edit_of_ok {change : Document → Except ε Document} {session : Session σ}
    {document : Document} (h : change session.document = .ok document) :
    (edit change).run session =
      { result := .ok (), session := { session with document } } := by
  have hDocument : ((Action.document : Action σ ε Document).run session).result =
      .ok session.document := rfl
  rw [edit, run_bind_of_ok hDocument]
  simp [h]

/-- An edit that fails changes nothing. -/
theorem run_edit_of_error {change : Document → Except ε Document} {session : Session σ}
    {error : ε} (h : change session.document = .error error) :
    (edit change).run session = { result := .error error, session } := by
  have hDocument : ((Action.document : Action σ ε Document).run session).result =
      .ok session.document := rfl
  rw [edit, run_bind_of_ok hDocument]
  simp [h]

theorem andThen_done (action : Action σ ε α) : action.andThen done = action := by
  funext session
  simp only [andThen, run, done, List.append_nil]
  cases h : action session with
  | mk result _ _ => cases result <;> rfl

/-- It does not matter how actions in a row are put together. -/
theorem andThen_assoc {γ : Type} (action : Action σ ε α) (next : α → Action σ ε β)
    (last : β → Action σ ε γ) :
    (action.andThen next).andThen last = action.andThen fun value => (next value).andThen last := by
  funext session
  simp only [andThen, run]
  cases (action session).result with
  | error error => rfl
  | ok value =>
    simp only
    cases (next value (action session).session).result with
    | error error => rfl
    | ok value => simp

instance : LawfulMonad (Action σ ε) :=
  LawfulMonad.mk' _ andThen_done (fun _ _ => rfl) andThen_assoc

end Action

end ClassScript
