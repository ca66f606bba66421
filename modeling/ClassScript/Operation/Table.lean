import ClassScript.Operation.Builtin
import Std.Data.TreeMap

/-!
Operations by name.
-/

namespace ClassScript

/-- The operations that are known, sorted by name. -/
structure OperationTable (σ : Type) where
  entries : Std.TreeMap String (Operation σ) := {}

namespace OperationTable

variable {σ : Type}

def empty : OperationTable σ := {}

def get? (table : OperationTable σ) (name : String) : Option (Operation σ) := table.entries[name]?

def contains (table : OperationTable σ) (name : String) : Bool := table.entries.contains name

/-- Gives a name to an operation, and returns what had the name before. -/
def insert (table : OperationTable σ) (name : String) (operation : Operation σ) :
    Option (Operation σ) × OperationTable σ :=
  (table.get? name, { entries := table.entries.insert name operation })

/-- Forgets a name, and returns what had it. -/
def remove (table : OperationTable σ) (name : String) : Option (Operation σ) × OperationTable σ :=
  (table.get? name, { entries := table.entries.erase name })

def withOperation (table : OperationTable σ) (name : String) (operation : Operation σ) :
    OperationTable σ :=
  (table.insert name operation).2

/-- The operations whose names are listed. Names that mean nothing here are ignored. -/
def restrictedTo (table : OperationTable σ) (names : List String) : OperationTable σ :=
  { entries := table.entries.filter fun name _ => names.contains name }

def names (table : OperationTable σ) : List String := table.entries.keys

def size (table : OperationTable σ) : Nat := table.entries.size

def isEmpty (table : OperationTable σ) : Bool := table.entries.isEmpty

def render (table : OperationTable σ) : String :=
  "\x7b" ++ ", ".intercalate (table.names.map Quoted.quote) ++ "\x7d"

def builtin : OperationTable σ :=
  Builtin.all.foldl (fun table builtin => table.withOperation builtin.name builtin.perform) empty

/-- A name means what it was given last, and other names mean what they meant. -/
theorem get?_withOperation (table : OperationTable σ) (name other : String)
    (operation : Operation σ) :
    (table.withOperation name operation).get? other =
      if name = other then some operation else table.get? other := by
  simp [withOperation, insert, get?, Std.TreeMap.getElem?_insert]

/-- A name that has been removed means nothing any more. -/
theorem get?_remove (table : OperationTable σ) (name other : String) :
    (table.remove name).2.get? other = if name = other then none else table.get? other := by
  simp [remove, get?, Std.TreeMap.getElem?_erase]

/-- Restriction forgets the names that are not listed. -/
theorem get?_restrictedTo (table : OperationTable σ) (names : List String) (name : String) :
    (table.restrictedTo names).get? name = if name ∈ names then table.get? name else none := by
  simp only [restrictedTo, get?, Std.TreeMap.getElem?_filter']
  split
  · next h => cases table.entries[name]? <;> simp [Option.filter, h]
  · next h => cases table.entries[name]? <;> simp [Option.filter, h]

end OperationTable

end ClassScript
