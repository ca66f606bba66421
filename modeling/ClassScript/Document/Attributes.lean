import ClassScript.Text.Ascii

/-!
The attributes of an element: values by name, in the order in which the names were first set.
-/

namespace ClassScript

/-- Names and values. The operations below never let a name stand twice. -/
structure Attributes where
  entries : List (String × String) := []
deriving Repr, DecidableEq

namespace Attributes

def get? (attributes : Attributes) (name : String) : Option String := attributes.entries.lookup name

def contains (attributes : Attributes) (name : String) : Bool := (attributes.get? name).isSome

def names (attributes : Attributes) : List String := attributes.entries.map (·.1)

/-- Sets a value where its name stands, or puts name and value last. -/
def setIn (name value : String) : List (String × String) → List (String × String)
  | [] => [(name, value)]
  | (other, old) :: rest =>
    if other = name then (other, value) :: rest else (other, old) :: setIn name value rest

/-- Sets a value in the place of the old one; a new name goes last. -/
def set (attributes : Attributes) (name value : String) : Attributes :=
  { entries := setIn name value attributes.entries }

def erase (attributes : Attributes) (name : String) : Attributes :=
  { entries := attributes.entries.filter (·.1 ≠ name) }

/-- The characters that may not stand in a name: blanks, control characters, quotes, `/`, `>`, `=`. -/
def isForbidden (c : Char) : Bool :=
  Ascii.isBlank c || c.toNat < 0x20 || (0x7f ≤ c.toNat && c.toNat ≤ 0x9f) ||
    c = '\x22' || c = '\x27' || c = '/' || c = '>' || c = '='

/-- A name has characters, and none that is forbidden. -/
def isValidName (name : String) : Bool := !name.isEmpty && !name.toList.any isForbidden

/-- The first entry of a name hides all later ones. -/
theorem lookup_cons_eq {α : Type} (first : String) (old : α) (name : String)
    (rest : List (String × α)) :
    ((first, old) :: rest).lookup name = if name = first then some old else rest.lookup name := by
  by_cases h : name = first
  · subst h; simp
  · simp [List.lookup_cons, beq_eq_false_iff_ne.2 h, h]

/-- After a name has been given a value, its value is this one, and other names keep theirs. -/
theorem lookup_setIn (name value other : String) (entries : List (String × String)) :
    (setIn name value entries).lookup other =
      if other = name then some value else entries.lookup other := by
  induction entries with
  | nil => simp only [setIn, lookup_cons_eq]
  | cons entry rest ih =>
    obtain ⟨first, old⟩ := entry
    by_cases hFirst : first = name
    · subst hFirst
      simp only [setIn, if_true, lookup_cons_eq]
      split <;> rfl
    · simp only [setIn, if_neg hFirst, lookup_cons_eq, ih]
      by_cases hName : other = name
      · subst hName
        simp [Ne.symm hFirst]
      · simp [hName]

/-- Setting an attribute shows in this attribute alone. -/
@[simp] theorem get?_set (attributes : Attributes) (name value other : String) :
    (attributes.set name value).get? other =
      if other = name then some value else attributes.get? other :=
  lookup_setIn name value other attributes.entries

end Attributes

end ClassScript
