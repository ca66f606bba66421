import ClassScript.Text.Ascii

/-!
The classes of an element: an ordered set of tokens, read from and written to the text of its class
attribute.
-/

namespace ClassScript

/-- Tokens in the order in which they were first seen. -/
structure ClassList where
  tokens : List String := []
deriving Repr, DecidableEq

namespace ClassList

def contains (classes : ClassList) (token : String) : Bool := classes.tokens.contains token

def size (classes : ClassList) : Nat := classes.tokens.length

def isEmpty (classes : ClassList) : Bool := classes.tokens.isEmpty

/-- Puts a token last, unless it is there already, and says whether it is new. -/
def add (classes : ClassList) (token : String) : Bool × ClassList :=
  if classes.contains token then (false, classes)
  else (true, { tokens := classes.tokens ++ [token] })

/-- Takes a token out, and says whether it was there. -/
def remove (classes : ClassList) (token : String) : Bool × ClassList :=
  let kept := classes.tokens.filter (· ≠ token)
  (kept.length ≠ classes.tokens.length, { tokens := kept })

def addAll (classes : ClassList) (tokens : List String) : ClassList :=
  tokens.foldl (fun classes token => (classes.add token).2) classes

def removeAll (classes : ClassList) (tokens : List String) : ClassList :=
  tokens.foldl (fun classes token => (classes.remove token).2) classes

/-- The distinct words of a text, in the order of their first occurrence. -/
def parse (text : String) : ClassList := ({} : ClassList).addAll (Ascii.words text)

def text (classes : ClassList) : String := " ".intercalate classes.tokens

/-- A token is new exactly when it is not there yet. -/
@[simp] theorem isNew_add (classes : ClassList) (token : String) :
    (classes.add token).1 = !classes.contains token := by
  cases h : classes.contains token <;> simp [add, h]

/-- Taking a token out shortens the list exactly when it is there. -/
@[simp] theorem wasPresent_remove (classes : ClassList) (token : String) :
    (classes.remove token).1 = classes.contains token := by
  rw [Bool.eq_iff_iff, contains, List.contains_iff_mem]
  simp [remove, List.length_filter_eq_length_iff]

/-- Adding a token adds nothing else. -/
@[simp] theorem contains_add (classes : ClassList) (added token : String) :
    (classes.add added).2.contains token = (classes.contains token || decide (token = added)) := by
  unfold add
  split
  · next h =>
    by_cases hEq : token = added
    · subst hEq; simp [h]
    · simp [hEq]
  · simp [contains, Bool.or_comm, eq_comm]

/-- Taking a token out leaves every other token. -/
@[simp] theorem contains_remove (classes : ClassList) (removed token : String) :
    (classes.remove removed).2.contains token = (classes.contains token && decide (token ≠ removed)) := by
  simp [contains, remove, List.contains_eq_mem]

end ClassList

end ClassScript
