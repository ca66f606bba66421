import ClassScript.Operation.Basic

/-!
The operations that need no definition by a user.
-/

namespace ClassScript

inductive Builtin where
  | remove
  | addAttribute
  | removeAttribute
  | addClass
  | removeClass
deriving Repr, DecidableEq

structure UnknownOperation where
  name : String
deriving Repr, DecidableEq

def UnknownOperation.message (error : UnknownOperation) : String :=
  "'" ++ error.name ++ "' is not a builtin operation"

namespace Builtin

def all : List Builtin := [remove, addAttribute, removeAttribute, addClass, removeClass]

def name : Builtin → String
  | remove => "remove"
  | addAttribute => "addAttribute"
  | removeAttribute => "removeAttribute"
  | addClass => "addClass"
  | removeClass => "removeClass"

def ofName? (name : String) : Option Builtin := all.find? (·.name = name)

def ofName (name : String) : Except UnknownOperation Builtin :=
  match ofName? name with
  | some builtin => .ok builtin
  | none => .error { name }

/-- What stands for an argument that is missing. -/
def missing : String := "undefined"

def argument (arguments : List String) (place : Nat) : String := arguments.getD place missing

variable {σ : Type}

def edit (change : Document → Except DomError Document) : Action σ OperationError Unit :=
  (Action.edit change).mapError .document

/-- What a builtin operation does. Only an element gives up a node below it, so that the topmost
element stays. -/
def perform : Builtin → Operation σ
  | remove, target, _ => do
    match (← Action.document).elementParent? target with
    | none => Action.fail (.noParent target)
    | some _ => discard (Action.detach target)
  | addAttribute, target, arguments =>
    edit fun d => d.setAttribute target (argument arguments 0) (argument arguments 1)
  | removeAttribute, target, arguments =>
    edit fun d => (d.removeAttribute target (argument arguments 0)).map (·.2)
  | addClass, target, arguments => edit fun d => d.addClasses target arguments
  | removeClass, target, arguments => edit fun d => d.removeClasses target arguments

/-- An operation is found by its own name. -/
theorem ofName?_name (builtin : Builtin) : ofName? builtin.name = some builtin := by
  cases builtin <;> decide

/-- Only the operation of a name is found by it. -/
theorem name_of_ofName? {name : String} {builtin : Builtin} (h : ofName? name = some builtin) :
    builtin.name = name := by
  simpa using List.find?_some h

end Builtin

end ClassScript
