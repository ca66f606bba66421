import ClassScript.Operation.Table

/-!
The updates that the classes of elements ask for, carried out.
-/

namespace ClassScript

inductive RunError where
  /-- The elements could not be found. -/
  | target (selector : String) (cause : DomError)
  | failed (update : Update) (node : NodeId) (cause : OperationError)
deriving Repr, DecidableEq

namespace RunError

/-- The causes of an error, each with the one behind it. -/
def causes : OperationError → List String
  | .document error => [(OperationError.document error).message, error.message]
  | error => [error.message]

def message : RunError → String
  | target selector cause =>
    "cannot resolve target selector " ++ Quoted.quote selector ++ ": " ++ cause.message
  | failed update node cause =>
    ": ".intercalate (("`" ++ update.className ++ "` failed on " ++ node.render) :: causes cause)

end RunError

variable {σ : Type}

/-- Carries out updates in order, up to the first that fails. Names that the table does not have are
skipped. -/
def run (table : OperationTable σ) (element : NodeId) : List Update → Action σ RunError Unit
  | [] => pure ()
  | update :: rest => do
    match table.get? update.operation with
    | none => Action.note (.skipped update.operation element)
    | some operation =>
      Action.note (.performing update element)
      (operation element update.arguments).mapError (.failed update element)
    run table element rest

inductive Target where
  /-- On the elements below a node, without one below the document node, that a selector holds of. -/
  | selector (text : String) (root? : Option NodeId)
  /-- On this element, whatever holds of it. -/
  | element (id : NodeId)
deriving Repr, DecidableEq

namespace Target

/-- Holds of every element that has updates, and of some that have none. -/
def defaultSelector : String := "[class*=\"js-with-js--\"]"

def default : Target := selector defaultSelector none

/-- Looks below a node only. One element stays one element. -/
def within (root : NodeId) : Target → Target
  | selector text _ => selector text (some root)
  | element id => element id

end Target

/-- Carries out the updates among the classes that an element has now. -/
def applyToElement (table : OperationTable σ) (element : NodeId) : Action σ RunError Unit := do
  run table element (Update.ofElement (← Action.document) element)

/-- Carries out the updates on the elements of a target. The elements are found before anything is
changed, so that changes do not decide which elements are looked at. -/
def apply (table : OperationTable σ) : Target → Action σ RunError Unit
  | .element element => applyToElement table element
  | .selector text root? => do
    let elements ← (Action.queryAll (root?.getD Document.root) text).mapError (.target text)
    Action.note (.processing elements.length text)
    elements.forM (applyToElement table)

/-- Carries out the updates in a whole document with the builtin operations. -/
def applyDefault : Action σ RunError Unit := apply .builtin .default

end ClassScript
