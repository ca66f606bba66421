/-!
Ordered forests, written as first child and next sibling, so that a function on trees and lists of
trees is one structural recursion.
-/

namespace ClassScript

/-- An ordered list of trees whose nodes carry labels. -/
inductive Forest (α : Type) where
  | nil
  | cons (label : α) (children siblings : Forest α)
deriving Repr, DecidableEq

namespace Forest

variable {α β : Type}

/-- The labels, each before those of its children, and those before the siblings that follow. -/
def labels : Forest α → List α
  | nil => []
  | cons label children siblings => label :: (children.labels ++ siblings.labels)

def map (f : α → β) : Forest α → Forest β
  | nil => nil
  | cons label children siblings => cons (f label) (children.map f) (siblings.map f)

@[simp] theorem labels_map (f : α → β) (forest : Forest α) :
    (forest.map f).labels = forest.labels.map f := by
  induction forest with
  | nil => rfl
  | cons label children siblings ihChildren ihSiblings =>
    simp [map, labels, ihChildren, ihSiblings]

end Forest

end ClassScript
